import Aokie.Radio.Hfp.HandsFree
import Aokie.Radio.Rfcomm.Client

/-! The responder's side of an RFCOMM session: the hands-free channel with its AT pump, the registered
server channels, and the outbound channels that ride the phone's multiplexer. -/

namespace Aokie.Radio.Rfcomm

open Aokie.Lib Aokie.Radio.Hfp

/-- The replies of a registered tenant of a server channel. -/
structure ServerChannelHandlers where
  onSabm : List Bytes
  onDisc : Bytes
  onUih : Bytes → Except String (List Bytes)

inductive RfcommChannelState
  | closed
  | open
  deriving DecidableEq, Repr

structure ClientDlci where
  phase : ClientDlciPhase
  mscLocalPending : Bool
  mscRemoteReceived : Bool
  deriving DecidableEq, Repr

structure RfcommState where
  multiplexerOpen : Bool := false
  hfpChannelState : RfcommChannelState := .closed
  hfpDlci : UInt8 := aokieHfpDlci
  maxFrameSize : UInt16 := defaultMaxFrameSize
  hfpState : HfpHandsFreeState := .new
  hfpLineCarry : String := ""
  hfpPendingCommands : List HfpAtCommand := []
  hfpInFlightCommand : Option HfpAtCommand := none
  hfpInFlightCommandSentAt : Option Instant := none
  hfpSlcFailed : Bool := false
  hfpOutstanding : OutstandingCommands := {}
  hfpEvents : List HfpEvent := []
  mscLocalPending : Bool := false
  mscRemoteReceived : Bool := false
  mscAtKicked : Bool := false
  extraChannelHandlers : Std.ExtTreeMap UInt8 ServerChannelHandlers := ∅
  clientDlcis : Std.ExtTreeMap UInt8 ClientDlci := ∅
  clientEvents : List ClientDlciEvent := []
  wbsSupported : Bool := false

namespace RfcommState

def new : RfcommState := {}

variable (s : RfcommState)

def setWbsSupported (wbsSupported : Bool) : RfcommState :=
  { s with wbsSupported, hfpState := s.hfpState.setWbsSupported wbsSupported }

def setCallWaitingEnabled (enabled : Bool) : RfcommState :=
  { s with hfpState := s.hfpState.setCallWaitingEnabled enabled }

def attachClientDlci (serverChannel : UInt8) : RfcommState × Except String (UInt8 × Bytes) :=
  if !s.multiplexerOpen then
    (s, .error "attach_client_dlci called before multiplexer SABM/UA — no shared mux to ride on")
  else
    let targetDlci := serverChannelDlci serverChannel true
    if targetDlci ∈ s.clientDlcis ∨ targetDlci = s.hfpDlci ∨ targetDlci ∈ s.extraChannelHandlers then
      (s, .error ("attach_client_dlci: dlci " ++ toString targetDlci.toNat ++ " already in use"))
    else
      let client : ClientDlci :=
        { phase := .awaitingPnRsp, mscLocalPending := false, mscRemoteReceived := false }
      let pn := buildParameterNegotiationCommandCfc targetDlci 7 s.maxFrameSize 7
      ({ s with clientDlcis := s.clientDlcis.insert targetDlci client },
        .ok (targetDlci, buildUih dlciMultiplexer false none pn))

def takeClientEvents : RfcommState × List ClientDlciEvent := ({ s with clientEvents := [] }, s.clientEvents)

def takeClientEventsForDlci (dlci : UInt8) : RfcommState × List ClientDlciEvent :=
  let (taken, remaining) := takeEventsForDlci s.clientEvents dlci
  ({ s with clientEvents := remaining }, taken)

def buildUihOnClientDlci (dlci : UInt8) (payload : Bytes) : Except String Bytes :=
  match s.clientDlcis[dlci]? with
  | none => .error ("build_uih_on_client_dlci: dlci " ++ toString dlci.toNat ++ " not tracked")
  | some client =>
    if client.phase ≠ .open then
      .error ("build_uih_on_client_dlci: dlci " ++ toString dlci.toNat ++ " not Open (phase " ++
        client.phase.debug ++ ")")
    else .ok (buildUih dlci false none payload)

def buildDiscForClientDlci (dlci : UInt8) : RfcommState × Except String Bytes :=
  if dlci ∈ s.clientDlcis then
    ({ s with clientDlcis := s.clientDlcis.erase dlci }, .ok (buildDisc dlci false))
  else (s, .error ("build_disc_for_client_dlci: dlci " ++ toString dlci.toNat ++ " not tracked"))

def buildForceDiscDlci (dlci : UInt8) : RfcommState × Bytes :=
  ({ s with clientDlcis := s.clientDlcis.erase dlci }, buildDisc dlci false)

def registerServerChannel (serverChannel : UInt8) (handlers : ServerChannelHandlers) : RfcommState :=
  { s with extraChannelHandlers :=
      s.extraChannelHandlers.insert (serverChannelDlci serverChannel false) handlers }

def takeHfpEvents : RfcommState × List HfpEvent := ({ s with hfpEvents := [] }, s.hfpEvents)

def pushHfpEvents (events : List HfpEvent) : RfcommState := { s with hfpEvents := s.hfpEvents ++ events }

def buildHfpCommandFrame (now : Instant) (command : HfpAtCommand) : RfcommState × Bytes :=
  let s := { s with hfpState := s.hfpState.markCommandSent command }
  let s := if s.hfpState.serviceLevelReady then
    { s with hfpOutstanding := s.hfpOutstanding.sent command now } else s
  (s, buildUih s.hfpDlci true none (buildAtCommand command))

def buildCallControlCommand (now : Instant) (command : HfpAtCommand) : RfcommState × Option Bytes :=
  if s.hfpChannelState ≠ .open then (s, none)
  else (s.buildHfpCommandFrame now command).map id some

/-- The next command that is not skipped goes out; the skipped ones before it are dropped. -/
def nextHfpCommandFrame (now : Instant) : RfcommState × Option Bytes :=
  match s.hfpPendingCommands.dropWhile s.hfpState.shouldSkipSlcCommand with
  | [] => ({ s with hfpPendingCommands := [] }, none)
  | command :: rest =>
    let (s, frame) := { s with hfpPendingCommands := rest }.buildHfpCommandFrame now command
    ({ s with hfpInFlightCommand := some command, hfpInFlightCommandSentAt := some now }, some frame)

def markHfpServiceReady : RfcommState :=
  let (hfpState, event) := s.hfpState.markServiceLevelReady
  { s with hfpState, hfpEvents := s.hfpEvents ++ event.toList }

def advanceHfpSlcQueue (now : Instant) : RfcommState × List Bytes :=
  match s.nextHfpCommandFrame now with
  | (s, some frame) => (s, [frame])
  | (s, none) =>
    if s.hfpPendingCommands.isEmpty then
      match s.hfpState.needsIndicatorDefinitionsRetry with
      | (hfpState, true) =>
        let s := { s with
          hfpState
          hfpPendingCommands := s.hfpPendingCommands ++
            [HfpAtCommand.retrieveIndicators, HfpAtCommand.retrieveIndicatorStatus] }
        (s.nextHfpCommandFrame now).map id Option.toList
      | (hfpState, false) => ({ s with hfpState }.markHfpServiceReady, [])
    else (s.markHfpServiceReady, [])

/-- An ERROR once the service-level connection is up: the refused command is named, and sent once more
or reported. -/
def refuseCommand (now : Instant) : RfcommState × List Bytes :=
  let (s, command) := match s.hfpInFlightCommand with
    | some command => ({ s with hfpInFlightCommand := none }, atCommandName command)
    | none =>
      let (hfpOutstanding, name) := s.hfpOutstanding.answered
      ({ s with hfpOutstanding }, name.getD "unsolicited")
  let s := { s with hfpInFlightCommandSentAt := none }
  match s.hfpState.afterRefusal command with
  | (hfpState, some again) => ({ s with hfpState }.buildHfpCommandFrame now again).map id fun frame => [frame]
  | (hfpState, none) => ({ s with hfpState }.pushHfpEvents [.commandRejected command false], [])

def acceptCommand (now : Instant) : RfcommState × List Bytes :=
  let s := if s.hfpInFlightCommand = some .enableCallWaitingNotifications then
    { s with hfpState := s.hfpState.noteCcwaAccepted } else s
  let s := { s with hfpInFlightCommand := none, hfpInFlightCommandSentAt := none }
  if s.hfpSlcFailed then (s, []) else s.advanceHfpSlcQueue now

/-- An ERROR while the service-level connection is set up: fatal, unless the command was optional. -/
def failSlcCommand (now : Instant) : RfcommState × List Bytes :=
  let failed := s.hfpInFlightCommand
  let s := { s with hfpInFlightCommand := none, hfpInFlightCommandSentAt := none }
  let (hfpState, capabilityProbe) := match failed with
    | some command => s.hfpState.noteSlcProbeError command
    | none => (s.hfpState, false)
  let s := { s with hfpState }
  if capabilityProbe then
    if s.hfpSlcFailed then (s, []) else s.advanceHfpSlcQueue now
  else
    let s := if s.hfpState.serviceLevelReady then s
      else { s with hfpPendingCommands := [], hfpSlcFailed := true }
    (s.pushHfpEvents [.serviceLevelConnectionFailed ((failed.map atCommandName).getD "unsolicited")], [])

def answerCodec (now : Instant) (codec : UInt8) : RfcommState × List Bytes :=
  let reply : HfpAtCommand := if s.hfpState.codecOffered codec then .confirmCodec codec
    else .availableCodecs s.wbsSupported
  (s.buildHfpCommandFrame now reply).map id fun frame => [frame]

def handleHfpResult (now : Instant) (result : HfpAgResult) : RfcommState × List Bytes :=
  let (hfpState, events) := s.hfpState.applyResult result
  let s := { s with hfpState, hfpEvents := s.hfpEvents ++ events }
  match result with
  | .ok =>
    if s.hfpInFlightCommand.isNone && s.hfpState.serviceLevelReady then
      ({ s with hfpOutstanding := s.hfpOutstanding.answered.1 }, [])
    else s.acceptCommand now
  | .error => if s.hfpState.serviceLevelReady then s.refuseCommand now else s.failSlcCommand now
  | .selectedCodec codec => s.answerCodec now codec
  | _ => (s, [])

def handleHfpResults (now : Instant) (s : RfcommState) : List HfpAgResult → RfcommState × List Bytes
  | [] => (s, [])
  | result :: rest =>
    let (s, first) := s.handleHfpResult now result
    let (s, later) := handleHfpResults now s rest
    (s, first ++ later)

def handleHfpPayload (now : Instant) (payload : Bytes) : RfcommState × Except String (List Bytes) :=
  if s.hfpChannelState ≠ .open then (s, .ok [])
  else
    match parseAgResultsBuffered s.hfpLineCarry payload with
    | .error message => (s, .error message)
    | .ok (carry, results) => ({ s with hfpLineCarry := carry }.handleHfpResults now results).map id .ok

def onClientTargetUa (dlci : UInt8) : RfcommState × List Bytes :=
  match s.clientDlcis[dlci]? with
  | none => (s, [])
  | some client =>
    if client.phase ≠ .awaitingTargetUa then (s, [])
    else
      let client := { client with
        phase := .awaitingMscExchange, mscLocalPending := true, mscRemoteReceived := false }
      ({ s with clientDlcis := s.clientDlcis.insert dlci client },
        [buildUih dlciMultiplexer false none (buildModemStatusCommand dlci localModemStatus)])

def failClientDlci (dlci : UInt8) (reason : String) : RfcommState :=
  { s with
    clientDlcis := s.clientDlcis.modify dlci fun client => { client with phase := .failed reason }
    clientEvents := s.clientEvents ++ [.failed dlci reason] }

def maybeOpenClientDlci (dlci : UInt8) : RfcommState :=
  match s.clientDlcis[dlci]? with
  | none => s
  | some client =>
    if client.phase = .awaitingMscExchange ∧ !client.mscLocalPending ∧ client.mscRemoteReceived then
      { s with
        clientDlcis := s.clientDlcis.insert dlci { client with phase := .open }
        clientEvents := s.clientEvents ++ [.opened dlci] }
    else s

def openHfpChannel : RfcommState :=
  { s with
    hfpChannelState := .open, hfpSlcFailed := false, hfpInFlightCommand := none
    mscLocalPending := true, mscRemoteReceived := false, mscAtKicked := false
    hfpPendingCommands :=
      HfpHandsFreeState.initialServiceLevelCommands s.wbsSupported s.hfpState.callWaitingEnabled }

def handleSabm (dlci : UInt8) : RfcommState × List Bytes :=
  if dlci = dlciMultiplexer then ({ s with multiplexerOpen := true }, [buildUa dlci true])
  else
    match if s.multiplexerOpen then s.extraChannelHandlers[dlci]? else none with
    | some handlers => (s, handlers.onSabm)
    | none =>
      if s.multiplexerOpen ∧ dlci = s.hfpDlci then
        (s.openHfpChannel, [buildUa dlci true,
          buildUih dlciMultiplexer false none (buildModemStatusCommand dlci localModemStatus)])
      else (s, [buildDm dlci true])

def maybeKickAtSequence (now : Instant) : RfcommState × List Bytes :=
  if s.mscAtKicked || s.mscLocalPending || !s.mscRemoteReceived || decide (s.hfpChannelState ≠ .open) then (s, [])
  else ({ s with mscAtKicked := true }.nextHfpCommandFrame now).map id Option.toList

def handleDisc (dlci : UInt8) : RfcommState × Bytes :=
  if dlci = dlciMultiplexer then
    ({ s with multiplexerOpen := false, hfpChannelState := .closed }, buildUa dlci true)
  else if dlci = s.hfpDlci then ({ s with hfpChannelState := .closed }, buildUa dlci true)
  else
    match s.extraChannelHandlers[dlci]? with
    | some handlers => (s, handlers.onDisc)
    | none => (s, buildUa dlci true)

def onPnResponse (dlci : UInt8) (maxFrameSize : UInt16) : RfcommState × List Bytes :=
  match s.clientDlcis[dlci]? with
  | some client =>
    if client.phase = .awaitingPnRsp then
      ({ s with
          maxFrameSize := clampFrameSize maxFrameSize
          clientDlcis := s.clientDlcis.insert dlci { client with phase := .awaitingTargetUa } },
        [buildSabm dlci false])
    else (s, [])
  | none => (s, [])

def onPnCommand (dlci priority : UInt8) (maxFrameSize : UInt16) (credits : UInt8) : RfcommState × Bytes :=
  if dlci ≠ s.hfpDlci ∧ dlci ∉ s.extraChannelHandlers then (s, buildNscResponse muxPnCmd)
  else
    ({ s with maxFrameSize := clampFrameSize maxFrameSize },
      buildParameterNegotiationResponse dlci priority (clampFrameSize maxFrameSize) credits)

def onMscResponse (dlci : UInt8) : RfcommState :=
  if dlci = s.hfpDlci then { s with mscLocalPending := false }
  else if dlci ∈ s.clientDlcis then
    { s with clientDlcis := s.clientDlcis.modify dlci fun client =>
        { client with mscLocalPending := false } }.maybeOpenClientDlci dlci
  else s

def onMscCommand (dlci signals : UInt8) : RfcommState × Bytes :=
  if dlci = s.hfpDlci then ({ s with mscRemoteReceived := true }, buildModemStatusResponse dlci signals)
  else if dlci ∈ s.clientDlcis then
    ({ s with clientDlcis := s.clientDlcis.modify dlci fun client =>
        { client with mscRemoteReceived := true } }.maybeOpenClientDlci dlci,
      buildModemStatusResponse dlci signals)
  else if dlci ∈ s.extraChannelHandlers then (s, buildModemStatusResponse dlci signals)
  else (s, buildNscResponse muxMscCmd)

def onMuxCommand : RfcommMuxCommand → RfcommState × List Bytes × Option Bytes
  | .parameterNegotiation true dlci _ _ maxFrameSize _ =>
    (s.onPnResponse dlci maxFrameSize).map id fun out => (out, none)
  | .parameterNegotiation false dlci _ priority maxFrameSize credits =>
    (s.onPnCommand dlci priority maxFrameSize credits).map id fun reply => ([], some reply)
  | .modemStatus true dlci _ => (s.onMscResponse dlci, [], none)
  | .modemStatus false dlci signals => (s.onMscCommand dlci signals).map id fun reply => ([], some reply)
  | .flowControlOn => (s, [], some (buildEmptyMultiplexerResponse muxFconRsp))
  | .flowControlOff => (s, [], some (buildEmptyMultiplexerResponse muxFcoffRsp))
  | .unknown commandType _ => (s, [], some (buildNscResponse commandType))

def handleMultiplexerPayload (now : Instant) (payload : Bytes) : RfcommState × Except String (List Bytes) :=
  if !s.multiplexerOpen then (s, .ok [])
  else
    match parseMultiplexerCommand payload with
    | .error message => (s, .error message)
    | .ok command =>
      let (s, out, response) := s.onMuxCommand command
      let replies := (response.map (buildUih dlciMultiplexer false none)).toList
      let (s, kicked) := s.maybeKickAtSequence now
      (s, .ok (out ++ replies ++ kicked))

def onUih (now : Instant) (dlci : UInt8) (payload : Bytes) : RfcommState × Except String (List Bytes) :=
  if dlci = dlciMultiplexer then s.handleMultiplexerPayload now payload
  else if dlci = s.hfpDlci then s.handleHfpPayload now payload
  else if dlci ∈ s.clientDlcis then
    ({ s with clientEvents := s.clientEvents ++ [.payload dlci payload] }, .ok [])
  else
    match s.extraChannelHandlers[dlci]? with
    | some handlers => (s, handlers.onUih payload)
    | none => (s, .ok [])

def handleFrame (now : Instant) (frame : RfcommFrame) : RfcommState × Except String (List Bytes) :=
  match frame.kind with
  | .sabm => (s.handleSabm frame.dlci).map id .ok
  | .ua => (s.onClientTargetUa frame.dlci).map id .ok
  | .dm =>
    if frame.dlci ∈ s.clientDlcis then
      (s.failClientDlci frame.dlci ("peer sent DM on outbound dlci " ++ toString frame.dlci.toNat), .ok [])
    else (s, .ok [])
  | .disc => (s.handleDisc frame.dlci).map id fun reply => .ok [reply]
  | .uih => s.onUih now frame.dlci frame.payload
  | .unknown _ => (s, .ok [])

def handlePacket (now : Instant) (packet : Bytes) : RfcommState × Except String (List Bytes) :=
  match parseFrame packet with
  | .error message => (s, .error message)
  | .ok frame => s.handleFrame now frame

def tickHfpStall (now : Instant) (timeout : Duration) : RfcommState × Bool :=
  if s.hfpState.serviceLevelReady && s.hfpInFlightCommandSentAt.isNone then
    match s.hfpOutstanding.timedOut now timeout with
    | (hfpOutstanding, some command) =>
      ({ s with hfpOutstanding }.pushHfpEvents [.commandRejected command true], true)
    | (hfpOutstanding, none) => ({ s with hfpOutstanding }, false)
  else
    match s.hfpInFlightCommandSentAt with
    | none => (s, false)
    | some sentAt =>
      if saturatingDurationSince now sentAt < timeout then (s, false)
      else
        let stalled := (s.hfpInFlightCommand.map atCommandName).getD "(unknown)"
        let s := { s with hfpInFlightCommand := none, hfpInFlightCommandSentAt := none }
        let s := if s.hfpState.serviceLevelReady then s
          else { s with hfpPendingCommands := [], hfpSlcFailed := true }
        (s.pushHfpEvents [.serviceLevelConnectionFailed (stalled ++ " timed out after " ++ Duration.debug timeout)],
          true)

end RfcommState

end Aokie.Radio.Rfcomm
