import Aokie.Radio.HfpClient
import Aokie.Radio.L2cap.Wire

/-! The L2CAP channel table, shared by all connections, and what the rest of the program does to it. -/

namespace Aokie.Radio.L2cap

open Aokie.Lib Aokie.Radio.Hfp Aokie.Radio.Rfcomm

inductive ChannelState
  | configuring
  | open
  deriving DecidableEq, Repr

def ChannelState.debug : ChannelState → String
  | .configuring => "Configuring"
  | .open => "Open"

/-- What the L2CAP layer itself keeps of a channel. -/
structure ChannelLink where
  connectionHandle : UInt16
  psm : UInt16
  localCid : UInt16
  remoteCid : UInt16
  state : ChannelState := .configuring
  localConfigured : Bool := false
  remoteConfigured : Bool := false
  localConfigIdentifier : Option UInt8 := none
  localConfigSentAt : Option Instant := none
  outboundConnectIdentifier : Option UInt8 := none
  deriving DecidableEq, Repr

structure ChannelUpper where
  rfcommState : Option RfcommState := none
  hfpClient : Option HfpClientState := none

/-- A handler reads its channel and changes what the upper layers keep there, and whatever its closure holds
(of type `ω`, shared with the owners of the handlers). -/
abbrev PsmHandler (ω : Type) :=
  Instant → ω → ChannelLink → ChannelUpper → Bytes → ω × ChannelUpper × Except String (List Bytes)

structure L2capChannel (ω : Type) extends ChannelLink, ChannelUpper where
  upperHandler : Option (PsmHandler ω) := none

structure L2capState (ω : Type) where
  nextLocalCid : UInt16 := firstDynamicCid
  nextLocalSignalingId : UInt8 := firstLocalSignalingId
  channels : Std.ExtTreeMap UInt16 (L2capChannel ω) := ∅
  aclReassembly : Std.ExtTreeMap UInt16 Bytes := ∅
  orphanHfpEvents : List HfpEvent := []
  psmHandlers : Std.ExtTreeMap UInt16 (PsmHandler ω) := ∅
  captured : ω

variable {ω : Type}

def L2capChannel.wrap (channel : L2capChannel ω) (frame : Bytes) : Bytes :=
  buildOutboundAcl channel.connectionHandle (buildBasicFrame channel.remoteCid frame)

def sdpHandler (handleServiceSearchAttributeRequest : Bytes → Except String Bytes) : PsmHandler ω :=
  fun _ captured _ upper payload => (captured, upper, (handleServiceSearchAttributeRequest payload).map fun reply =>
    [reply])

def rfcommHandler : PsmHandler ω := fun now captured _ upper payload =>
  let (rfcommState, replies) := (upper.rfcommState.getD .new).handlePacket now payload
  (captured, { upper with rfcommState := some rfcommState }, replies)

namespace L2capState

variable (s : L2capState ω)

def registerPsm (psm : UInt16) (handler : PsmHandler ω) : L2capState ω :=
  { s with psmHandlers := s.psmHandlers.insert psm handler }

/-- The request handler of the service records is a parameter; it answers on PSM 1. -/
def new (handleServiceSearchAttributeRequest : Bytes → Except String Bytes) (captured : ω) : L2capState ω :=
  ({ captured : L2capState ω }.registerPsm psmSdp (sdpHandler handleServiceSearchAttributeRequest)).registerPsm
    psmRfcomm rfcommHandler

def setChannel (localCid : UInt16) (channel : L2capChannel ω) : L2capState ω :=
  { s with channels := s.channels.insert localCid channel }

def removeChannel (localCid : UInt16) : L2capState ω := { s with channels := s.channels.erase localCid }

/-- The first channel, in the order of local CIDs, that meets the condition. -/
def findChannel (p : L2capChannel ω → Bool) : Option (UInt16 × L2capChannel ω) :=
  s.channels.toList.find? fun entry => p entry.2

def cidText (localCid : UInt16) : String := "0x" ++ hex 4 localCid.toNat

def onMux {α : Type} (localCid : UInt16) (channel : L2capChannel ω)
    (server : RfcommState → RfcommState × Except String α)
    (client : HfpClientState → HfpClientState × Except String α) : L2capState ω × Except String α :=
  match channel.rfcommState, channel.hfpClient with
  | some rfcommState, _ =>
    let (rfcommState, result) := server rfcommState
    (s.setChannel localCid { channel with rfcommState := some rfcommState }, result)
  | none, some hfpClient =>
    let (hfpClient, result) := client hfpClient
    (s.setChannel localCid { channel with hfpClient := some hfpClient }, result)
  | none, none => (s, .error ("L2CAP channel " ++ cidText localCid ++ " has no RFCOMM mux state"))

def rfcommAttachClientDlci (localCid : UInt16) (serverChannel : UInt8) :
    L2capState ω × Except String (UInt8 × Bytes) :=
  match s.channels[localCid]? with
  | none => (s, .error ("L2CAP channel " ++ cidText localCid ++ " not found"))
  | some channel =>
    if channel.state ≠ .open then
      (s, .error ("L2CAP channel " ++ cidText localCid ++ " not Open (state " ++ channel.state.debug ++ ")"))
    else
      (s.onMux localCid channel (·.attachClientDlci serverChannel) (·.attachClientDlci serverChannel)).map id
        (Except.map fun (dlci, frame) => (dlci, channel.wrap frame))

def takeRfcommClientEvents (localCid : UInt16) : L2capState ω × List ClientDlciEvent :=
  match s.channels[localCid]? with
  | none => (s, [])
  | some channel =>
    match channel.rfcommState with
    | none => (s, [])
    | some rfcommState =>
      let (rfcommState, events) := rfcommState.takeClientEvents
      (s.setChannel localCid { channel with rfcommState := some rfcommState }, events)

def takeRfcommClientEventsForDlci (localCid : UInt16) (dlci : UInt8) : L2capState ω × List ClientDlciEvent :=
  match s.channels[localCid]? with
  | none => (s, [])
  | some channel =>
    (s.onMux localCid channel (fun r => (r.takeClientEventsForDlci dlci).map id .ok)
      (fun c => (c.takeClientEventsForDlci dlci).map id .ok)).map id (·.toOption.getD [])

def rfcommFrame (localCid : UInt16) (server : RfcommState → RfcommState × Except String Bytes)
    (client : HfpClientState → HfpClientState × Except String Bytes) : L2capState ω × Except String Bytes :=
  match s.channels[localCid]? with
  | none => (s, .error ("L2CAP channel " ++ cidText localCid ++ " not found"))
  | some channel => (s.onMux localCid channel server client).map id (Except.map channel.wrap)

def rfcommSendUihOnClientDlci (localCid : UInt16) (dlci : UInt8) (payload : Bytes) :
    L2capState ω × Except String Bytes :=
  s.rfcommFrame localCid (fun r => (r, r.buildUihOnClientDlci dlci payload)) (·.buildUihOnClientDlci dlci payload)

def rfcommDiscClientDlci (localCid : UInt16) (dlci : UInt8) : L2capState ω × Except String Bytes :=
  s.rfcommFrame localCid (·.buildDiscForClientDlci dlci)
    (fun c => (c.buildForceDiscSecondaryDlci dlci).map id .ok)

def rfcommForceDiscDlci (localCid : UInt16) (dlci : UInt8) : L2capState ω × Except String Bytes :=
  s.rfcommFrame localCid (fun r => (r.buildForceDiscDlci dlci).map id .ok)
    (fun c => (c.buildForceDiscSecondaryDlci dlci).map id .ok)

def removeConnection (connectionHandle : UInt16) : L2capState ω :=
  { s with
    channels := s.channels.filter fun _ channel => decide (channel.connectionHandle ≠ connectionHandle)
    aclReassembly := s.aclReassembly.erase connectionHandle }

def allocateLocalSignalingId : L2capState ω × UInt8 :=
  ({ s with nextLocalSignalingId :=
      if s.nextLocalSignalingId = 255 then firstLocalSignalingId else s.nextLocalSignalingId + 1 },
    s.nextLocalSignalingId)

def skipCid : L2capState ω :=
  { s with nextLocalCid := if s.nextLocalCid = 0xffff then firstDynamicCid else s.nextLocalCid + 1 }

abbrev IsFreeCid (remoteCid candidate : UInt16) : Prop :=
  firstDynamicCid ≤ candidate ∧ candidate ≠ remoteCid ∧ candidate ∉ s.channels

/-- The walk over the dynamic CIDs: the first that is neither in use nor the peer's own. -/
def findLocalCid (remoteCid : UInt16) : ℕ → L2capState ω → L2capState ω × UInt16
  | 0, s => (s, firstDynamicCid)
  | steps + 1, s =>
    if s.IsFreeCid remoteCid s.nextLocalCid then (s.skipCid, s.nextLocalCid)
    else findLocalCid remoteCid steps s.skipCid

def allocateLocalCid (remoteCid : UInt16) : L2capState ω × UInt16 :=
  findLocalCid remoteCid (0xffff - firstDynamicCid.toNat + 1) s

end L2capState

def L2capChannel.takeHfpEvents (channel : L2capChannel ω) : L2capChannel ω × List HfpEvent :=
  ({ channel with
      rfcommState := channel.rfcommState.map fun r => r.takeHfpEvents.1
      hfpClient := channel.hfpClient.map fun c => c.takeHfpEvents.1 },
    ((channel.rfcommState.map fun r => r.takeHfpEvents.2).getD []) ++
      (channel.hfpClient.map fun c => c.takeHfpEvents.2).getD [])

def L2capChannel.tickHfpStall (now : Instant) (timeout : Duration) (channel : L2capChannel ω) : L2capChannel ω :=
  { channel with
    rfcommState := channel.rfcommState.map fun r => (r.tickHfpStall now timeout).1
    hfpClient := channel.hfpClient.map fun c => (c.tickHfpStall now timeout).1 }

/-- The channel still waits for its configuration, and has waited for too long. -/
def ChannelLink.stalled (link : ChannelLink) (now : Instant) (timeout : Duration) : Bool :=
  decide (link.state = .configuring) &&
    link.localConfigSentAt.any fun sentAt => !decide (saturatingDurationSince now sentAt < timeout)

namespace L2capState

variable (s : L2capState ω)

def takeHfpEvents : L2capState ω × List HfpEvent :=
  ({ s with orphanHfpEvents := [], channels := s.channels.map fun _ channel => channel.takeHfpEvents.1 },
    s.orphanHfpEvents ++ s.channels.toList.flatMap fun entry => entry.2.takeHfpEvents.2)

def tickHfpStalls (now : Instant) (timeout : Duration) : L2capState ω :=
  { s with channels := s.channels.map fun _ channel => channel.tickHfpStall now timeout }

def tearDown (timeout : Duration) (s : L2capState ω) (localCid : UInt16) : L2capState ω × List Bytes :=
  match s.channels[localCid]? with
  | none => (s, [])
  | some channel =>
    let s := { s.removeChannel localCid with
      orphanHfpEvents := s.orphanHfpEvents ++ channel.takeHfpEvents.2 ++
        [HfpEvent.serviceLevelConnectionFailed ("L2CAP ConfigureRequest on cid " ++ cidText localCid ++ " (PSM " ++
          cidText channel.psm ++ ") timed out after " ++ Duration.debug timeout)] }
    let (s, identifier) := s.allocateLocalSignalingId
    (s, [buildOutboundAcl channel.connectionHandle
      (buildDisconnectionRequest identifier channel.remoteCid channel.localCid)])

def tickL2capStalls (now : Instant) (timeout : Duration) : L2capState ω × List Bytes :=
  let toRemove := (s.channels.toList.filter fun entry => entry.2.toChannelLink.stalled now timeout).map
    fun entry => entry.2.localCid
  Machine.collect (tearDown timeout) s toRemove

/-- The first open RFCOMM channel whose hands-free session takes the command. -/
def callControlOn (now : Instant) (command : HfpAtCommand) (s : L2capState ω) :
    List (UInt16 × L2capChannel ω) → L2capState ω × List Bytes
  | [] => (s, [])
  | (localCid, channel) :: rest =>
    if channel.psm ≠ psmRfcomm ∨ channel.state ≠ .open then callControlOn now command s rest
    else
      match s.onMux localCid channel
          (fun r => (r.buildCallControlCommand now command).map id .ok)
          (fun c => (c.buildCallControlCommand now command).map id .ok) with
      | (s, .ok (some frame)) => (s, [channel.wrap frame])
      | (s, _) => callControlOn now command s rest

def buildHfpCallControlPackets (now : Instant) (command : HfpAtCommand) : L2capState ω × List Bytes :=
  callControlOn now command s s.channels.toList

def openOutboundChannelWithHandler (now : Instant) (connectionHandle psm : UInt16)
    (upperHandler : Option (PsmHandler ω)) : L2capState ω × UInt16 × Bytes :=
  let (s, localCid) := s.allocateLocalCid 0
  let (s, identifier) := s.allocateLocalSignalingId
  let channel : L2capChannel ω := {
    connectionHandle, psm, localCid, remoteCid := 0, localConfigSentAt := some now
    outboundConnectIdentifier := some identifier, upperHandler }
  (s.setChannel localCid channel, localCid,
    buildOutboundAcl connectionHandle (buildConnectionRequest identifier psm localCid))

def startHfpClient (now : Instant) (localCid : UInt16) (serverChannel : UInt8)
    (wbsSupported callWaitingEnabled : Bool) : L2capState ω × Except String Bytes :=
  match s.channels[localCid]? with
  | none => (s, .error ("L2CAP channel " ++ cidText localCid ++ " not found"))
  | some channel =>
    if channel.state ≠ .open then
      (s, .error ("L2CAP channel " ++ cidText localCid ++ " not Open (state " ++ channel.state.debug ++ ")"))
    else if channel.hfpClient.isSome then
      (s, .error ("L2CAP channel " ++ cidText localCid ++ " already has an HFP client"))
    else
      match (HfpClientState.new serverChannel wbsSupported callWaitingEnabled).kickoff now with
      | (_, .error message) => (s, .error message)
      | (client, .ok sabm) =>
        (s.setChannel localCid { channel with hfpClient := some client }, .ok (channel.wrap sabm))

def disconnectChannel (localCid : UInt16) : L2capState ω × Option Bytes :=
  match s.channels[localCid]? with
  | none => (s, none)
  | some channel =>
    let (s, identifier) := (s.removeChannel localCid).allocateLocalSignalingId
    (s, some (buildOutboundAcl channel.connectionHandle
      (buildDisconnectionRequest identifier channel.remoteCid channel.localCid)))

end L2capState

end Aokie.Radio.L2cap
