import Aokie.Radio.L2cap.State

/-! What an ACL packet of the peer does: reassembly, the signalling commands and the channels' payloads. -/

namespace Aokie.Radio.L2cap

open Aokie.Lib Aokie.Radio.Hfp Aokie.Radio.Rfcomm

variable {ω : Type}

namespace L2capState

variable (s : L2capState ω)

def handleConnectionRequest (now : Instant) (connectionHandle : UInt16) (identifier : UInt8)
    (psm sourceCid : UInt16) : L2capState ω × List Bytes :=
  if psm ∉ s.psmHandlers then
    (s, [buildConnectionResponse identifier 0 sourceCid connectionResultPsmNotSupported
      connectionStatusNoFurtherInformation])
  else
    let (s, localCid) := s.allocateLocalCid sourceCid
    let (s, localConfigId) := s.allocateLocalSignalingId
    let channel : L2capChannel ω := {
      connectionHandle, psm, localCid, remoteCid := sourceCid, localConfigIdentifier := some localConfigId
      localConfigSentAt := some now }
    (s.setChannel localCid channel,
      [buildConnectionResponse identifier localCid sourceCid connectionResultSuccess
          connectionStatusNoFurtherInformation,
        buildConfigureRequest localConfigId sourceCid 0 []])

def handleConfigureRequest (identifier : UInt8) (destinationCid flags : UInt16) : L2capState ω × Bytes :=
  match s.channels[destinationCid]? with
  | none => (s, buildCommandReject identifier commandRejectReasonCommandNotUnderstood)
  | some channel =>
    (s.setChannel destinationCid { channel with
        remoteConfigured := true
        state := if channel.localConfigured then .open else channel.state },
      buildConfigureResponse identifier channel.remoteCid flags configResultSuccess [])

def handleConfigureResponse (identifier : UInt8) (sourceCid result : UInt16) : L2capState ω :=
  match s.findChannel fun channel =>
      channel.localCid == sourceCid && channel.localConfigIdentifier == some identifier with
  | none => s
  | some (localCid, channel) =>
    if result ≠ configResultSuccess then s
    else
      s.setChannel localCid { channel with
        localConfigIdentifier := none, localConfigSentAt := none, localConfigured := true
        state := if channel.remoteConfigured then .open else channel.state }

def handleConnectionResponse (now : Instant) (identifier : UInt8) (destinationCid sourceCid result : UInt16) :
    L2capState ω × List Bytes :=
  match s.findChannel fun channel =>
      channel.localCid == sourceCid && channel.outboundConnectIdentifier == some identifier with
  | none => (s, [])
  | some (localCid, channel) =>
    if result = connectionResultPending then (s, [])
    else if result = connectionResultSuccess then
      let s := s.setChannel localCid { channel with
        remoteCid := destinationCid, outboundConnectIdentifier := none }
      let (s, configId) := s.allocateLocalSignalingId
      ({ s with channels := s.channels.modify channel.localCid fun channel => { channel with
          localConfigIdentifier := some configId, localConfigSentAt := some now } },
        [buildConfigureRequest configId destinationCid 0 []])
    else
      ({ s.removeChannel channel.localCid with
          orphanHfpEvents := s.orphanHfpEvents ++
            [HfpEvent.serviceLevelConnectionFailed ("L2CAP outbound ConnectionRequest on PSM " ++ cidText channel.psm ++
              " refused (result " ++ cidText result ++ ")")] },
        [])

def handleSignalingCommand (now : Instant) (connectionHandle : UInt16) :
    SignalingCommand → L2capState ω × List Bytes
  | .connectionRequest identifier psm sourceCid =>
    s.handleConnectionRequest now connectionHandle identifier psm sourceCid
  | .connectionResponse identifier destinationCid sourceCid result _ =>
    s.handleConnectionResponse now identifier destinationCid sourceCid result
  | .configureRequest identifier destinationCid flags _ =>
    (s.handleConfigureRequest identifier destinationCid flags).map id fun reply => [reply]
  | .configureResponse identifier sourceCid _ result _ => (s.handleConfigureResponse identifier sourceCid result, [])
  | .disconnectionRequest identifier destinationCid sourceCid =>
    (s.removeChannel destinationCid, [buildDisconnectionResponse identifier destinationCid sourceCid])
  | .disconnectionResponse _ _ _ => (s, [])
  | .informationRequest identifier infoType => (s, [buildInformationResponseForType identifier infoType])
  | .informationResponse _ _ _ _ => (s, [])
  | .unknown _ identifier _ => (s, [buildCommandReject identifier commandRejectReasonCommandNotUnderstood])

def rejectTruncated : Bytes → List Bytes
  | code :: identifier :: _ =>
    if signalingCodeIsRequest code ∧ identifier ≠ 0 then
      [buildCommandReject identifier commandRejectReasonCommandNotUnderstood]
    else []
  | _ => []

def rejectMalformed (header : SignalingHeader) : List Bytes :=
  if signalingCodeIsRequest header.code then
    [buildCommandReject header.identifier commandRejectReasonCommandNotUnderstood]
  else []

def handleSignalingHeader (now : Instant) (connectionHandle : UInt16) (header : SignalingHeader) :
    L2capState ω × List Bytes :=
  match parseSignalingCommand header with
  | .ok command => s.handleSignalingCommand now connectionHandle command
  | .error _ => (s, rejectMalformed header)

/-- The commands of one frame, one at a time; each takes at least four bytes, so the frame's length bounds
their number. -/
def handleSignalingFrom (now : Instant) (connectionHandle : UInt16) :
    ℕ → L2capState ω → Bytes → L2capState ω × List Bytes
  | 0, s, _ => (s, [])
  | fuel + 1, s, rest =>
    if rest.isEmpty then (s, [])
    else
      match parseSignalingHeader rest with
      | .error _ => (s, rejectTruncated rest)
      | .ok header =>
        let (s, replies) := s.handleSignalingHeader now connectionHandle header
        (handleSignalingFrom now connectionHandle fuel s (rest.drop (4 + header.payload.length))).map id (replies ++ ·)

def handleSignalingFrame (now : Instant) (connectionHandle : UInt16) (payload : Bytes) : L2capState ω × List Bytes :=
  handleSignalingFrom now connectionHandle payload.length s payload

def handleChannelPayload (now : Instant) (connectionHandle : UInt16) (frame : BasicFrame) :
    L2capState ω × Except String (List Bytes) :=
  match s.channels[frame.cid]? with
  | none => (s, .ok [])
  | some channel =>
    if channel.connectionHandle ≠ connectionHandle ∨ channel.state ≠ .open then (s, .ok [])
    else
      match channel.upperHandler.or s.psmHandlers[channel.psm]? with
      | none => (s, .ok [])
      | some handler =>
        let (captured, upper, replies) :=
          handler now s.captured channel.toChannelLink channel.toChannelUpper frame.payload
        ({ s.setChannel frame.cid { channel with toChannelUpper := upper } with captured },
          replies.map (List.map fun reply =>
            buildOutboundAcl connectionHandle (buildBasicFrame channel.remoteCid reply)))

def handleFrame (now : Instant) (connectionHandle : UInt16) (s : L2capState ω) (frameBytes : Bytes) :
    L2capState ω × List Bytes :=
  match parseBasicFrame frameBytes with
  | .error _ => (s, [])
  | .ok frame =>
    if frame.cid = cidSignaling then
      (s.handleSignalingFrame now connectionHandle frame.payload).map id (List.map (buildOutboundAcl connectionHandle))
    else (s.handleChannelPayload now connectionHandle frame).map id (·.toOption.getD [])

def handleAclPacket (now : Instant) (packet : Bytes) : L2capState ω × Except String (List Bytes) :=
  match parseAclFrame packet with
  | .error message => (s, .error message)
  | .ok acl =>
    let pending := s.aclReassembly.getD acl.connectionHandle []
    let buffer := if acl.packetBoundaryFlag = aclPacketBoundaryContinuingFragment then pending ++ acl.payload
      else acl.payload
    let (frames, rest) := drainFrames buffer
    let s := { s with aclReassembly := s.aclReassembly.insert acl.connectionHandle rest }
    (Machine.collect (handleFrame now acl.connectionHandle) s frames).map id .ok

end L2capState

end Aokie.Radio.L2cap
