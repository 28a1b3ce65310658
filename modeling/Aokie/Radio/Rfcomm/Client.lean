import Aokie.Radio.Rfcomm.Frame

/-! The initiator's side of an RFCOMM session: the primary channel's handshake, and the secondary
channels that ride the same multiplexer. -/

namespace Aokie.Radio.Rfcomm

open Aokie.Lib

inductive ClientDlciPhase
  | awaitingPnRsp
  | awaitingTargetUa
  | awaitingMscExchange
  | open
  | failed (reason : String)
  deriving DecidableEq, Repr

inductive ClientDlciEvent
  | opened (dlci : UInt8)
  | failed (dlci : UInt8) (reason : String)
  | payload (dlci : UInt8) (payload : Bytes)
  deriving DecidableEq, Repr

def ClientDlciEvent.dlci : ClientDlciEvent → UInt8
  | .opened dlci => dlci
  | .failed dlci _ => dlci
  | .payload dlci _ => dlci

@[simp] lemma ClientDlciEvent.dlci_opened (d : UInt8) : (opened d).dlci = d := rfl
@[simp] lemma ClientDlciEvent.dlci_failed (d : UInt8) (reason : String) : (failed d reason).dlci = d := rfl
@[simp] lemma ClientDlciEvent.dlci_payload (d : UInt8) (bytes : Bytes) : (payload d bytes).dlci = d := rfl

def ClientDlciPhase.debug : ClientDlciPhase → String
  | .awaitingPnRsp => "AwaitingPnRsp"
  | .awaitingTargetUa => "AwaitingTargetUa"
  | .awaitingMscExchange => "AwaitingMscExchange"
  | .open => "Open"
  | .failed reason => "Failed(" ++ reason.quote ++ ")"

def takeEventsForDlci (events : List ClientDlciEvent) (dlci : UInt8) :
    List ClientDlciEvent × List ClientDlciEvent :=
  events.partition fun event => event.dlci == dlci

inductive RfcommClientPhase
  | idle
  | awaitingMultiplexerUa
  | awaitingPnResponse
  | awaitingTargetUa
  | open
  | closed
  | failed (reason : String)
  deriving DecidableEq, Repr

def RfcommClientPhase.debug : RfcommClientPhase → String
  | .idle => "Idle"
  | .awaitingMultiplexerUa => "AwaitingMultiplexerUa"
  | .awaitingPnResponse => "AwaitingPnResponse"
  | .awaitingTargetUa => "AwaitingTargetUa"
  | .open => "Open"
  | .closed => "Closed"
  | .failed reason => "Failed(" ++ reason.quote ++ ")"

inductive RfcommClientEvent
  | opened
  | payload (payload : Bytes)
  | closed
  | failed (reason : String)
  deriving DecidableEq, Repr

structure SecondaryDlci where
  phase : ClientDlciPhase
  mscLocalPending : Bool
  mscRemoteReceived : Bool
  creditFlow : Bool
  txCredits : ℕ
  rxCreditsOutstanding : ℕ
  deriving DecidableEq, Repr

def clientInitialCredits : UInt8 := 7
def clientCreditRefillThreshold : ℕ := 3

def u16SaturatingAdd (a b : ℕ) : ℕ := min (a + b) 65535

/-- One data frame has used a credit we granted: the peer's credits now, and the grant that refills
them, if they are low. -/
def refillCredits (outstanding : ℕ) : ℕ × Option UInt8 :=
  let left := outstanding - 1
  if left ≤ clientCreditRefillThreshold then
    let refill := clientInitialCredits.toNat - left
    (left + refill, some (UInt8.ofNat refill))
  else (left, none)

structure RfcommClientState where
  serverChannel : UInt8
  targetDlci : UInt8
  maxFrameSize : UInt16 := defaultMaxFrameSize
  phase : RfcommClientPhase := .idle
  mscLocalPending : Bool := false
  mscRemoteReceived : Bool := false
  pendingEvents : List RfcommClientEvent := []
  creditFlow : Bool := false
  txCredits : ℕ := 0
  rxCreditsOutstanding : ℕ := 0
  secondaryDlcis : Std.ExtTreeMap UInt8 SecondaryDlci := ∅
  clientEvents : List ClientDlciEvent := []

def clampFrameSize (size : UInt16) : UInt16 := max minMaxFrameSize (min size defaultMaxFrameSize)

namespace RfcommClientState

def new (serverChannel : UInt8) : RfcommClientState where
  serverChannel
  targetDlci := serverChannelDlci serverChannel true

variable (s : RfcommClientState)

def muxIsOpen : Bool :=
  match s.phase with
  | .idle | .awaitingMultiplexerUa | .closed | .failed _ => false
  | _ => true

def isOpen : Bool := decide (s.phase = .open)

def canSendData : Bool := !s.creditFlow || decide (0 < s.txCredits)

def attachClientDlci (serverChannel : UInt8) : RfcommClientState × Except String (UInt8 × Bytes) :=
  if !s.muxIsOpen then
    (s, .error ("attach_client_dlci: initiator mux not open (phase " ++ s.phase.debug ++ ")"))
  else
    let targetDlci := serverChannelDlci serverChannel true
    if targetDlci = s.targetDlci ∨ targetDlci ∈ s.secondaryDlcis then
      (s, .error ("attach_client_dlci: dlci " ++ toString targetDlci.toNat ++ " already in use"))
    else
      let secondary : SecondaryDlci :=
        { phase := .awaitingPnRsp, mscLocalPending := false, mscRemoteReceived := false
          creditFlow := false, txCredits := 0, rxCreditsOutstanding := clientInitialCredits.toNat }
      let pn := buildParameterNegotiationCommandCfc targetDlci 7 s.maxFrameSize clientInitialCredits
      ({ s with secondaryDlcis := s.secondaryDlcis.insert targetDlci secondary },
        .ok (targetDlci, buildUih dlciMultiplexer true none pn))

def takeClientEventsForDlci (dlci : UInt8) : RfcommClientState × List ClientDlciEvent :=
  let (taken, remaining) := takeEventsForDlci s.clientEvents dlci
  ({ s with clientEvents := remaining }, taken)

def buildUihOnClientDlci (dlci : UInt8) (payload : Bytes) : RfcommClientState × Except String Bytes :=
  match s.secondaryDlcis[dlci]? with
  | none => (s, .error ("build_uih_on_client_dlci: dlci " ++ toString dlci.toNat ++ " not tracked"))
  | some client =>
    if client.phase ≠ .open then
      (s, .error ("build_uih_on_client_dlci: dlci " ++ toString dlci.toNat ++ " not Open (phase " ++
        client.phase.debug ++ ")"))
    else
      let client := if client.creditFlow then { client with txCredits := client.txCredits - 1 } else client
      ({ s with secondaryDlcis := s.secondaryDlcis.insert dlci client }, .ok (buildUih dlci true none payload))

def buildForceDiscSecondaryDlci (dlci : UInt8) : RfcommClientState × Bytes :=
  ({ s with secondaryDlcis := s.secondaryDlcis.erase dlci }, buildDisc dlci true)

def takeEvents : RfcommClientState × List RfcommClientEvent :=
  ({ s with pendingEvents := [] }, s.pendingEvents)

def kickoff : RfcommClientState × Except String Bytes :=
  if s.phase ≠ .idle then
    (s, .error ("RFCOMM client kickoff in phase " ++ s.phase.debug ++ ", expected Idle"))
  else ({ s with phase := .awaitingMultiplexerUa }, .ok (buildSabm dlciMultiplexer true))

def fail (reason : String) : RfcommClientState :=
  { s with phase := .failed reason, pendingEvents := s.pendingEvents ++ [.failed reason] }

def close : RfcommClientState :=
  { s with phase := .closed, pendingEvents := s.pendingEvents ++ [.closed] }

def onUaMultiplexer : RfcommClientState × List Bytes :=
  if s.phase ≠ .awaitingMultiplexerUa then (s, [])
  else
    let pn := buildParameterNegotiationCommand s.targetDlci 7 s.maxFrameSize clientInitialCredits
    ({ s with phase := .awaitingPnResponse, rxCreditsOutstanding := clientInitialCredits.toNat },
      [buildUih dlciMultiplexer true none pn])

def onUaTarget : RfcommClientState × List Bytes :=
  if s.phase ≠ .awaitingTargetUa then (s, [])
  else
    ({ s with mscLocalPending := true, mscRemoteReceived := false },
      [buildUih dlciMultiplexer true none (buildModemStatusCommand s.targetDlci localModemStatus)])

def onUaSecondary (dlci : UInt8) : RfcommClientState × List Bytes :=
  match s.secondaryDlcis[dlci]? with
  | none => (s, [])
  | some client =>
    if client.phase ≠ .awaitingTargetUa then (s, [])
    else
      let client := { client with phase := .awaitingMscExchange, mscLocalPending := true }
      ({ s with secondaryDlcis := s.secondaryDlcis.insert dlci client },
        [buildUih dlciMultiplexer true none (buildModemStatusCommand dlci localModemStatus)])

def onUihSecondary (dlci : UInt8) (credits : Option UInt8) (payload : Bytes) : RfcommClientState × List Bytes :=
  match s.secondaryDlcis[dlci]? with
  | none => (s, [])
  | some client =>
    let client := { client with txCredits := u16SaturatingAdd client.txCredits (credits.getD 0).toNat }
    let (client, grant) :=
      if !payload.isEmpty && client.creditFlow then
        let (outstanding, grant) := refillCredits client.rxCreditsOutstanding
        ({ client with rxCreditsOutstanding := outstanding }, grant)
      else (client, none)
    let events := if payload.isEmpty then [] else [ClientDlciEvent.payload dlci payload]
    ({ s with
        secondaryDlcis := s.secondaryDlcis.insert dlci client
        clientEvents := s.clientEvents ++ events },
      (grant.map fun credits => buildUih dlci true (some credits) []).toList)

def maybeOpenSecondary (dlci : UInt8) : RfcommClientState :=
  match s.secondaryDlcis[dlci]? with
  | none => s
  | some client =>
    if client.phase = .awaitingMscExchange ∧ !client.mscLocalPending ∧ client.mscRemoteReceived then
      { s with
        secondaryDlcis := s.secondaryDlcis.insert dlci { client with phase := .open }
        clientEvents := s.clientEvents ++ [.opened dlci] }
    else s

def failSecondary (dlci : UInt8) (reason : String) : RfcommClientState :=
  { s with
    secondaryDlcis := s.secondaryDlcis.erase dlci
    clientEvents := s.clientEvents ++ [.failed dlci reason] }

def maybeEmitOpened : RfcommClientState :=
  if !s.mscLocalPending ∧ s.mscRemoteReceived ∧ s.phase ≠ .open then
    { s with phase := .open, pendingEvents := s.pendingEvents ++ [.opened] }
  else s

def onPnResponse (dlci frameType : UInt8) (maxFrameSize : UInt16) (credits : UInt8) :
    RfcommClientState × List Bytes :=
  if dlci = s.targetDlci ∧ s.phase = .awaitingPnResponse then
    ({ s with
        maxFrameSize := clampFrameSize maxFrameSize
        creditFlow := decide (frameType = pnBluetoothFrameTypeCfc)
        txCredits := credits.toNat
        phase := .awaitingTargetUa },
      [buildSabm s.targetDlci true])
  else
    match s.secondaryDlcis[dlci]? with
    | some client =>
      if client.phase = .awaitingPnRsp then
        let client := { client with
          creditFlow := decide (frameType = pnBluetoothFrameTypeCfc)
          txCredits := credits.toNat
          phase := .awaitingTargetUa }
        ({ s with secondaryDlcis := s.secondaryDlcis.insert dlci client }, [buildSabm dlci true])
      else (s, [])
    | none => (s, [])

def onMscResponse (dlci : UInt8) : RfcommClientState :=
  if dlci = s.targetDlci then { s with mscLocalPending := false }.maybeEmitOpened
  else if dlci ∈ s.secondaryDlcis then
    { s with secondaryDlcis := s.secondaryDlcis.modify dlci fun client =>
        { client with mscLocalPending := false } }.maybeOpenSecondary dlci
  else s

def onMscCommand (dlci signals : UInt8) : RfcommClientState × List Bytes :=
  let reply := [buildUih dlciMultiplexer false none (buildModemStatusResponse dlci signals)]
  if dlci = s.targetDlci then ({ s with mscRemoteReceived := true }.maybeEmitOpened, reply)
  else if dlci ∈ s.secondaryDlcis then
    ({ s with secondaryDlcis := s.secondaryDlcis.modify dlci fun client =>
        { client with mscRemoteReceived := true } }.maybeOpenSecondary dlci, reply)
  else (s, [])

def onMuxCommand : RfcommMuxCommand → RfcommClientState × List Bytes
  | .parameterNegotiation true dlci frameType _ maxFrameSize credits =>
    s.onPnResponse dlci frameType maxFrameSize credits
  | .modemStatus true dlci _ => (s.onMscResponse dlci, [])
  | .modemStatus false dlci signals => s.onMscCommand dlci signals
  | _ => (s, [])

def onMuxUih (payload : Bytes) : RfcommClientState × Except String (List Bytes) :=
  match parseMultiplexerCommand payload with
  | .error message => (s, .error message)
  | .ok command => (s.onMuxCommand command).map id .ok

def onUihTarget (credits : Option UInt8) (payload : Bytes) : RfcommClientState × List Bytes :=
  let s := { s with txCredits := u16SaturatingAdd s.txCredits (credits.getD 0).toNat }
  if payload.isEmpty then (s, [])
  else
    let s := if s.isOpen then { s with pendingEvents := s.pendingEvents ++ [.payload payload] } else s
    if s.creditFlow then
      let (outstanding, grant) := refillCredits s.rxCreditsOutstanding
      ({ s with rxCreditsOutstanding := outstanding },
        (grant.map fun credits => buildUih s.targetDlci true (some credits) []).toList)
    else (s, [])

def onDm (dlci : UInt8) : RfcommClientState :=
  let reason := "RFCOMM peer sent DM on dlci " ++ toString dlci.toNat
  if dlci ∈ s.secondaryDlcis then s.failSecondary dlci reason
  else if dlci = dlciMultiplexer ∨ dlci = s.targetDlci then s.fail reason
  else s

def onDisc (dlci : UInt8) : RfcommClientState × List Bytes :=
  if dlci ∈ s.secondaryDlcis then
    (s.failSecondary dlci ("RFCOMM peer sent DISC on dlci " ++ toString dlci.toNat), [buildUa dlci false])
  else if dlci = dlciMultiplexer ∨ dlci = s.targetDlci then (s.close, [buildUa dlci false])
  else (s, [buildDm dlci false])

def onUa (dlci : UInt8) : RfcommClientState × List Bytes :=
  if dlci = dlciMultiplexer then s.onUaMultiplexer
  else if dlci = s.targetDlci then s.onUaTarget
  else s.onUaSecondary dlci

def onUih (dlci : UInt8) (credits : Option UInt8) (payload : Bytes) :
    RfcommClientState × Except String (List Bytes) :=
  if dlci = dlciMultiplexer then s.onMuxUih payload
  else if dlci = s.targetDlci then (s.onUihTarget credits payload).map id .ok
  else (s.onUihSecondary dlci credits payload).map id .ok

def handleFrame (frame : RfcommFrame) : RfcommClientState × Except String (List Bytes) :=
  match frame.kind with
  | .ua => (s.onUa frame.dlci).map id .ok
  | .dm => (s.onDm frame.dlci, .ok [])
  | .disc => (s.onDisc frame.dlci).map id .ok
  | .uih => s.onUih frame.dlci frame.credits frame.payload
  | .sabm | .unknown _ => (s, .ok [])

def handlePacket (packet : Bytes) : RfcommClientState × Except String (List Bytes) :=
  match parseFrame packet with
  | .error message => (s, .error message)
  | .ok frame => s.handleFrame frame

def buildOutboundUih (payload : Bytes) : RfcommClientState × Except String Bytes :=
  if !s.isOpen then (s, .error ("RFCOMM client UIH attempted in phase " ++ s.phase.debug))
  else
    (if s.creditFlow then { s with txCredits := s.txCredits - 1 } else s,
      .ok (buildUih s.targetDlci true none payload))

def buildTargetDisc : Bytes := buildDisc s.targetDlci true

end RfcommClientState

end Aokie.Radio.Rfcomm
