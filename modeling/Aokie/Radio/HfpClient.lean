import Aokie.Lib.Run
import Aokie.Radio.Rfcomm.Server

/-! The hands-free session we open ourselves: the initiator's multiplexer with the AT pump on its
primary channel. -/

namespace Aokie.Radio

open Aokie.Lib Aokie.Radio.Hfp Aokie.Radio.Rfcomm

structure HfpClientState where
  client : RfcommClientState
  hfpState : HfpHandsFreeState
  lineCarry : String := ""
  pendingCommands : List HfpAtCommand := []
  inFlightCommand : Option HfpAtCommand := none
  inFlightSentAt : Option Instant := none
  slcFailed : Bool := false
  outstanding : OutstandingCommands := {}
  events : List HfpEvent := []
  wbsSupported : Bool
  closed : Bool := false

namespace HfpClientState

def new (serverChannel : UInt8) (wbsSupported callWaitingEnabled : Bool) : HfpClientState where
  client := .new serverChannel
  hfpState := (HfpHandsFreeState.new.setCallWaitingEnabled callWaitingEnabled).setWbsSupported wbsSupported
  wbsSupported

variable (s : HfpClientState)

def kickoff (now : Instant) : HfpClientState × Except String Bytes :=
  let (client, sabm) := s.client.kickoff
  ({ s with client, inFlightSentAt := some now }, sabm)

def isOpen : Bool := s.client.isOpen && !s.closed

def muxIsOpen : Bool := s.client.muxIsOpen && !s.closed

def attachClientDlci (serverChannel : UInt8) : HfpClientState × Except String (UInt8 × Bytes) :=
  if s.closed then (s, .error "attach_client_dlci: HFP client session is closed")
  else (s.client.attachClientDlci serverChannel).map (fun client => { s with client }) id

def takeClientEventsForDlci (dlci : UInt8) : HfpClientState × List ClientDlciEvent :=
  (s.client.takeClientEventsForDlci dlci).map (fun client => { s with client }) id

def buildUihOnClientDlci (dlci : UInt8) (payload : Bytes) : HfpClientState × Except String Bytes :=
  (s.client.buildUihOnClientDlci dlci payload).map (fun client => { s with client }) id

def buildForceDiscSecondaryDlci (dlci : UInt8) : HfpClientState × Bytes :=
  (s.client.buildForceDiscSecondaryDlci dlci).map (fun client => { s with client }) id

def takeHfpEvents : HfpClientState × List HfpEvent := ({ s with events := [] }, s.events)

def pushEvents (events : List HfpEvent) : HfpClientState := { s with events := s.events ++ events }

def buildAtFrame (now : Instant) (command : HfpAtCommand) : HfpClientState × Except String Bytes :=
  let s := { s with hfpState := s.hfpState.markCommandSent command }
  let s := if s.hfpState.serviceLevelReady then { s with outstanding := s.outstanding.sent command now } else s
  (s.client.buildOutboundUih (buildAtCommand command)).map (fun client => { s with client }) id

def nextCommandFrame (now : Instant) : HfpClientState × Except String (Option Bytes) :=
  if !s.client.canSendData then (s, .ok none)
  else
    match s.pendingCommands.dropWhile s.hfpState.shouldSkipSlcCommand with
    | [] => ({ s with pendingCommands := [] }, .ok none)
    | command :: rest =>
      match { s with pendingCommands := rest }.buildAtFrame now command with
      | (s, .error message) => (s, .error message)
      | (s, .ok frame) =>
        ({ s with inFlightCommand := some command, inFlightSentAt := some now }, .ok (some frame))

def markServiceReady : HfpClientState :=
  let (hfpState, event) := s.hfpState.markServiceLevelReady
  { s with hfpState, events := s.events ++ event.toList }

def advanceSlcQueue (now : Instant) : HfpClientState × Except String (List Bytes) :=
  match s.nextCommandFrame now with
  | (s, .error message) => (s, .error message)
  | (s, .ok (some frame)) => (s, .ok [frame])
  | (s, .ok none) =>
    if s.pendingCommands.isEmpty then
      match s.hfpState.needsIndicatorDefinitionsRetry with
      | (hfpState, true) =>
        let s := { s with
          hfpState
          pendingCommands := s.pendingCommands ++
            [HfpAtCommand.retrieveIndicators, HfpAtCommand.retrieveIndicatorStatus] }
        (s.nextCommandFrame now).map id (Except.map Option.toList)
      | (hfpState, false) => ({ s with hfpState }.markServiceReady, .ok [])
    else (s, .ok [])

def refuseCommand : HfpClientState :=
  let (s, command) := match s.inFlightCommand with
    | some command => ({ s with inFlightCommand := none }, atCommandName command)
    | none =>
      let (outstanding, name) := s.outstanding.answered
      ({ s with outstanding }, name.getD "unsolicited")
  { s with inFlightSentAt := none }.pushEvents [.commandRejected command false]

def acceptCommand (now : Instant) : HfpClientState × Except String (List Bytes) :=
  let s := if s.inFlightCommand = some .enableCallWaitingNotifications then
    { s with hfpState := s.hfpState.noteCcwaAccepted } else s
  let s := { s with inFlightCommand := none, inFlightSentAt := none }
  if s.slcFailed then (s, .ok []) else s.advanceSlcQueue now

def failSlcCommand (now : Instant) : HfpClientState × Except String (List Bytes) :=
  let failed := s.inFlightCommand
  let s := { s with inFlightCommand := none, inFlightSentAt := none }
  let (hfpState, capabilityProbe) := match failed with
    | some command => s.hfpState.noteSlcProbeError command
    | none => (s.hfpState, false)
  let s := { s with hfpState }
  if capabilityProbe then
    if s.slcFailed then (s, .ok []) else s.advanceSlcQueue now
  else
    let s := if s.hfpState.serviceLevelReady then s else { s with pendingCommands := [], slcFailed := true }
    (s.pushEvents [.serviceLevelConnectionFailed ((failed.map atCommandName).getD "unsolicited")], .ok [])

def answerCodec (now : Instant) (codec : UInt8) : HfpClientState × Except String (List Bytes) :=
  let reply : HfpAtCommand := if s.hfpState.codecOffered codec then .confirmCodec codec
    else .availableCodecs s.wbsSupported
  (s.buildAtFrame now reply).map id (Except.map fun frame => [frame])

def handleAgResult (now : Instant) (s : HfpClientState) (result : HfpAgResult) :
    HfpClientState × Except String (List Bytes) :=
  let (hfpState, events) := s.hfpState.applyResult result
  let s := { s with hfpState, events := s.events ++ events }
  match result with
  | .ok =>
    if s.inFlightCommand.isNone && s.hfpState.serviceLevelReady then
      ({ s with outstanding := s.outstanding.answered.1 }, .ok [])
    else s.acceptCommand now
  | .error => if s.hfpState.serviceLevelReady then (s.refuseCommand, .ok []) else s.failSlcCommand now
  | .selectedCodec codec => s.answerCodec now codec
  | _ => (s, .ok [])

def handleAgPayload (now : Instant) (payload : Bytes) : HfpClientState × Except String (List Bytes) :=
  match parseAgResultsBuffered s.lineCarry payload with
  | .error message => (s, .error message)
  | .ok (carry, results) => tryFor (handleAgResult now) { s with lineCarry := carry } results

def onClientEvent (now : Instant) (s : HfpClientState) :
    RfcommClientEvent → HfpClientState × Except String (List Bytes)
  | .opened =>
    let pendingCommands :=
      HfpHandsFreeState.initialServiceLevelCommands s.wbsSupported s.hfpState.callWaitingEnabled
    ({ s with pendingCommands }.nextCommandFrame now).map id (Except.map Option.toList)
  | .payload payload => s.handleAgPayload now payload
  | .closed =>
    let s := { s with closed := true, inFlightCommand := none, inFlightSentAt := none }
    if s.hfpState.serviceLevelReady then (s, .ok [])
    else
      ({ s with slcFailed := true }.pushEvents
        [.serviceLevelConnectionFailed "peer closed the RFCOMM channel during outbound SLC"], .ok [])
  | .failed reason =>
    ({ s with closed := true, slcFailed := true, inFlightCommand := none, inFlightSentAt := none }.pushEvents
      [.serviceLevelConnectionFailed ("outbound RFCOMM handshake failed: " ++ reason)], .ok [])

def pumpHeldCommand (now : Instant) : HfpClientState × Except String (List Bytes) :=
  if s.isOpen && !s.slcFailed && s.inFlightCommand.isNone then
    (s.nextCommandFrame now).map id (Except.map Option.toList)
  else (s, .ok [])

def handlePacket (now : Instant) (packet : Bytes) : HfpClientState × Except String (List Bytes) :=
  match s.client.handlePacket packet with
  | (client, .error message) => ({ s with client }, .error message)
  | (client, .ok out) =>
    let (client, events) := client.takeEvents
    match tryFor (onClientEvent now) { s with client } events with
    | (s, .error message) => (s, .error message)
    | (s, .ok replies) => (s.pumpHeldCommand now).map id (Except.map fun held => out ++ replies ++ held)

def buildCallControlCommand (now : Instant) (command : HfpAtCommand) : HfpClientState × Option Bytes :=
  if !s.isOpen then (s, none)
  else (s.buildAtFrame now command).map id Except.toOption

def tickHfpStall (now : Instant) (timeout : Duration) : HfpClientState × Bool :=
  if s.hfpState.serviceLevelReady && s.inFlightSentAt.isNone then
    match s.outstanding.timedOut now timeout with
    | (outstanding, some command) => ({ s with outstanding }.pushEvents [.commandRejected command true], true)
    | (outstanding, none) => ({ s with outstanding }, false)
  else
    match s.inFlightSentAt with
    | none => (s, false)
    | some sentAt =>
      if saturatingDurationSince now sentAt < timeout then (s, false)
      else
        let stalled := (s.inFlightCommand.map atCommandName).getD "RFCOMM handshake"
        let s := { s with inFlightCommand := none, inFlightSentAt := none }
        let s := if s.hfpState.serviceLevelReady then s
          else { s with pendingCommands := [], slcFailed := true }
        (s.pushEvents [.serviceLevelConnectionFailed
          ("outbound " ++ stalled ++ " timed out after " ++ Duration.debug timeout)], true)

end HfpClientState

end Aokie.Radio
