import Aokie.Radio.Hfp.AtLine
import Aokie.Radio.PumpAgreement
import Aokie.Radio.Rfcomm.Session

/-! What every operation on a responder's session does to its AT line, in order, and which refused commands its pump
sends once more. -/

namespace Aokie.Radio.Rfcomm.RfcommState

open Aokie.Lib Aokie.Radio.Hfp

variable (s : RfcommState)

/-- What the pump keeps of the calls and of the commands without an answer. -/
def atLine : AtLine := ⟨s.hfpState, s.hfpOutstanding.queue.map Prod.fst⟩

def withCall (call : HfpHandsFreeState) : RfcommState := { s with hfpState := call }

def nextInputs : List AtLineInput :=
  match s.hfpPendingCommands.dropWhile s.hfpState.shouldSkipSlcCommand with
  | [] => []
  | command :: _ => [.call (.sent command)]

def advanceInputs : List AtLineInput :=
  match s.hfpPendingCommands.dropWhile s.hfpState.shouldSkipSlcCommand with
  | [] =>
    if s.hfpState.needsIndicatorDefinitionsRetry.2 then [.call .definitionsRetry, .call (.sent .retrieveIndicators)]
    else [.call .definitionsRetry, .call .ready]
  | command :: _ => [.call (.sent command)]

/-- An ERROR names a command of the setup, which nothing follows, or else the oldest command. -/
def refuseInputs : List AtLineInput :=
  match s.hfpInFlightCommand with
  | some _ => []
  | none => .refused :: (s.atLine.again.map fun again => .call (.sent again)).toList

def goOnInputs : List AtLineInput := if s.hfpSlcFailed then [] else s.advanceInputs

def acceptInputs : List AtLineInput :=
  if s.hfpInFlightCommand = some .enableCallWaitingNotifications then
    .call .ccwaAccepted :: (s.withCall s.hfpState.noteCcwaAccepted).goOnInputs
  else s.goOnInputs

def failInputs : List AtLineInput :=
  match s.hfpInFlightCommand with
  | none => []
  | some command =>
    let (call, capabilityProbe) := s.hfpState.noteSlcProbeError command
    .call (.probeError command) :: if capabilityProbe then (s.withCall call).goOnInputs else []

def codecInputs (codec : UInt8) : List AtLineInput :=
  [.call (.sent (if s.hfpState.codecOffered codec then .confirmCodec codec else .availableCodecs s.wbsSupported))]

def heard (result : HfpAgResult) : RfcommState :=
  { s with
    hfpState := (s.hfpState.applyResult result).1
    hfpEvents := s.hfpEvents ++ (s.hfpState.applyResult result).2 }

def answerInputs : HfpAgResult → List AtLineInput
  | .ok => if s.hfpInFlightCommand.isNone && s.hfpState.serviceLevelReady then [.answered] else s.acceptInputs
  | .error => if s.hfpState.serviceLevelReady then s.refuseInputs else s.failInputs
  | .selectedCodec codec => s.codecInputs codec
  | _ => []

def resultInputs (result : HfpAgResult) : List AtLineInput :=
  .call (.result result) :: (s.heard result).answerInputs result

def resultsInputs (now : Instant) (s : RfcommState) : List HfpAgResult → List AtLineInput
  | [] => []
  | result :: rest => s.resultInputs result ++ resultsInputs now (s.handleHfpResult now result).1 rest

def payloadInputs (now : Instant) (payload : Bytes) : List AtLineInput :=
  if s.hfpChannelState ≠ .open then []
  else
    match parseAgResultsBuffered s.hfpLineCarry payload with
    | .error _ => []
    | .ok (carry, results) => { s with hfpLineCarry := carry }.resultsInputs now results

def kickInputs : List AtLineInput :=
  if s.mscAtKicked || s.mscLocalPending || !s.mscRemoteReceived || decide (s.hfpChannelState ≠ .open) then []
  else s.nextInputs

def multiplexerInputs (payload : Bytes) : List AtLineInput :=
  if !s.multiplexerOpen then []
  else
    match parseMultiplexerCommand payload with
    | .error _ => []
    | .ok command => (s.onMuxCommand command).1.kickInputs

def packetInputs (now : Instant) (packet : Bytes) : List AtLineInput :=
  match parseFrame packet with
  | .error _ => []
  | .ok frame =>
    if frame.kind ≠ .uih then []
    else if frame.dlci = dlciMultiplexer then s.multiplexerInputs frame.payload
    else if frame.dlci = s.hfpDlci then s.payloadInputs now frame.payload
    else []

def tickInputs (now : Instant) (timeout : Duration) : List AtLineInput :=
  if s.hfpState.serviceLevelReady && s.hfpInFlightCommandSentAt.isNone then
    match s.hfpOutstanding.timedOut now timeout with
    | (_, some _) => [.answered]
    | (_, none) => []
  else []

def lineInputs : RfcommOp → List AtLineInput
  | .packet now packet => s.packetInputs now packet
  | .callControl _ command => if s.hfpChannelState ≠ .open then [] else [.call (.sent command)]
  | .tick now timeout => s.tickInputs now timeout
  | .setWbsSupported supported => [.call (.wbsSupported supported)]
  | .setCallWaitingEnabled enabled => [.call (.callWaitingEnabled enabled)]
  | _ => []

def lineRun : RfcommState → List RfcommOp → List AtLineInput
  | _, [] => []
  | s, op :: ops => s.lineInputs op ++ lineRun (s.step op).1 ops

def ForSetup (command : HfpAtCommand) : Prop := command ≠ .answer ∧ command ≠ .rejectOrHangup

structure SetupOnly (s : RfcommState) : Prop where
  pending : ∀ command ∈ s.hfpPendingCommands, ForSetup command
  inFlight : ∀ command, s.hfpInFlightCommand = some command → ForSetup command

lemma forSetup_of_none (command : HfpAtCommand) (h : none = some command) : ForSetup command := by
  cases h

/-- The state after an operation and what it did to the AT line agree. -/
structure Tracks (s t : RfcommState) (inputs : List AtLineInput) : Prop where
  line : t.atLine = AtLine.step.final s.atLine inputs
  setup : t.SetupOnly

variable {s}

lemma Tracks.refl (hs : s.SetupOnly) : Tracks s s [] := ⟨rfl, hs⟩

lemma Tracks.trans {t u : RfcommState} {inputs inputs' : List AtLineInput} (h : Tracks s t inputs)
    (h' : Tracks t u inputs') : Tracks s u (inputs ++ inputs') :=
  ⟨by rw [h'.line, h.line, Machine.final_append], h'.setup⟩

lemma Tracks.keep {t : RfcommState} {inputs : List AtLineInput} (hs : s.SetupOnly)
    (hline : t.atLine = AtLine.step.final s.atLine inputs) (hpending : t.hfpPendingCommands = s.hfpPendingCommands)
    (hflight : t.hfpInFlightCommand = s.hfpInFlightCommand ∨ t.hfpInFlightCommand = none) : Tracks s t inputs := by
  refine ⟨hline, hpending ▸ hs.pending, fun command hcommand => ?_⟩
  obtain hsame | hnone := hflight
  · exact hs.inFlight command (hsame ▸ hcommand)
  · exact absurd (hnone.symm.trans hcommand) (Option.some_ne_none _).symm

lemma line_sent (now : Instant) (command : HfpAtCommand) :
    (⟨s.hfpState.markCommandSent command,
      (if s.hfpState.serviceLevelReady then s.hfpOutstanding.sent command now
        else s.hfpOutstanding).queue.map Prod.fst⟩ : AtLine) = (AtLine.step s.atLine (.call (.sent command))).1 := by
  by_cases hready : s.hfpState.serviceLevelReady = true
  · simp only [atLine, AtLine.step, AtLine.queued, HfpHandsFreeState.step, hready, if_true, OutstandingCommands.sent,
      List.foldl_cons, List.foldl_nil, AtLine.wait, List.length_map]
    split_ifs <;> simp
  · simp only [atLine, AtLine.step, AtLine.queued, HfpHandsFreeState.step, hready]
    rfl

lemma Tracks.frame (hs : s.SetupOnly) (now : Instant) (command : HfpAtCommand) :
    Tracks s (s.buildHfpCommandFrame now command).1 [.call (.sent command)] := by
  rw [buildHfpCommandFrame_eq]
  exact .keep hs (line_sent now command) rfl (Or.inl rfl)

lemma Tracks.sendable {command : HfpAtCommand} {rest : List HfpAtCommand} (hs : s.SetupOnly) (now : Instant)
    (hqueue : s.hfpPendingCommands.dropWhile s.hfpState.shouldSkipSlcCommand = command :: rest) :
    Tracks s (s.nextHfpCommandFrame now).1 [.call (.sent command)] := by
  have hmem : ∀ c ∈ command :: rest, c ∈ s.hfpPendingCommands := fun c hc =>
    (List.dropWhile_sublist _).subset (hqueue ▸ hc)
  rw [nextHfpCommandFrame_cons now hqueue]
  refine ⟨line_sent now command, fun c hc => hs.pending c (hmem c (List.mem_cons_of_mem _ hc)), ?_⟩
  rintro c ⟨rfl⟩
  exact hs.pending _ (hmem _ List.mem_cons_self)

lemma nextHfpCommandFrame_nil (now : Instant)
    (hqueue : s.hfpPendingCommands.dropWhile s.hfpState.shouldSkipSlcCommand = []) :
    s.nextHfpCommandFrame now = ({ s with hfpPendingCommands := [] }, none) := by
  simp only [nextHfpCommandFrame, hqueue]

lemma Tracks.next (hs : s.SetupOnly) (now : Instant) : Tracks s (s.nextHfpCommandFrame now).1 s.nextInputs := by
  cases hqueue : s.hfpPendingCommands.dropWhile s.hfpState.shouldSkipSlcCommand with
  | nil =>
      rw [nextHfpCommandFrame_nil now hqueue]
      simp only [nextInputs, hqueue]
      exact ⟨rfl, List.forall_mem_nil _, hs.inFlight⟩
  | cons command rest =>
      simp only [nextInputs, hqueue]
      exact .sendable hs now hqueue

lemma Tracks.advance (hs : s.SetupOnly) (now : Instant) : Tracks s (s.advanceHfpSlcQueue now).1 s.advanceInputs := by
  cases hqueue : s.hfpPendingCommands.dropWhile s.hfpState.shouldSkipSlcCommand with
  | nil =>
      simp only [advanceHfpSlcQueue, nextHfpCommandFrame_nil now hqueue, advanceInputs, hqueue,
        List.isEmpty_nil, if_true]
      rcases hretry : s.hfpState.needsIndicatorDefinitionsRetry with ⟨call, again⟩
      have hasked : AtLine.step.final s.atLine [.call .definitionsRetry] = (s.withCall call).atLine := by
        simp only [Machine.final_cons, Machine.final_nil, AtLine.step, HfpHandsFreeState.step, atLine, hretry]
        rfl
      cases again with
      | true =>
          have hsent := Tracks.sendable (s := { s with
              hfpState := call, hfpPendingCommands := [] ++ [.retrieveIndicators, .retrieveIndicatorStatus] })
            ⟨by simp [ForSetup], hs.inFlight⟩ now rfl
          refine ⟨hsent.line.trans ?_, hsent.setup⟩
          exact congrArg (AtLine.step.final · [.call (.sent .retrieveIndicators)]) hasked.symm
      | false =>
          have hready : AtLine.step.final s.atLine [.call .definitionsRetry, .call .ready] =
              (s.withCall call).markHfpServiceReady.atLine :=
            congrArg (AtLine.step.final · [.call .ready]) hasked
          exact ⟨hready.symm, List.forall_mem_nil _, hs.inFlight⟩
  | cons command rest =>
      have hsent := Tracks.sendable hs now hqueue
      rw [nextHfpCommandFrame_cons now hqueue] at hsent
      simp only [advanceHfpSlcQueue, nextHfpCommandFrame_cons now hqueue, advanceInputs, hqueue]
      exact hsent

lemma afterRefusal_forSetup (call : HfpHandsFreeState) {command : HfpAtCommand} (h : ForSetup command) :
    call.afterRefusal (atCommandName command) = (call, none) := by
  obtain ⟨hanswer, hhangup⟩ := h
  cases command <;> simp_all [HfpHandsFreeState.afterRefusal, atCommandName]

lemma oldest_atLine : s.atLine.oldest = s.hfpOutstanding.answered.2.getD "unsolicited" := by
  simp only [AtLine.oldest, atLine, OutstandingCommands.answered, List.head?_map]

lemma Tracks.refuse (hs : s.SetupOnly) (now : Instant) : Tracks s (s.refuseCommand now).1 s.refuseInputs := by
  cases hflight : s.hfpInFlightCommand with
  | some command =>
      simp only [refuseCommand, refuseInputs, hflight, afterRefusal_forSetup _ (hs.inFlight command hflight)]
      exact .keep hs rfl rfl (Or.inr rfl)
  | none =>
      simp only [refuseCommand, refuseInputs, hflight, AtLine.again]
      rw [← oldest_atLine]
      rcases hrefusal : s.hfpState.afterRefusal s.atLine.oldest with ⟨call, again⟩
      have hline : (AtLine.step s.atLine .refused).1 = ⟨call, s.hfpOutstanding.queue.tail.map Prod.fst⟩ := by
        simp only [AtLine.step]
        rw [show s.atLine.call = s.hfpState from rfl, hrefusal]
        exact congrArg (AtLine.mk call) List.map_tail.symm
      rw [show s.atLine.call = s.hfpState from rfl, hrefusal]
      -- The oldest command is no longer waited for, whether or not it is sent once more.
      have hrefused : Tracks s { s with
          hfpState := call, hfpOutstanding := s.hfpOutstanding.answered.1, hfpInFlightCommand := none
          hfpInFlightCommandSentAt := none } [.refused] := .keep hs hline.symm rfl (Or.inr rfl)
      cases again with
      | none => exact ⟨hrefused.line, hrefused.setup.pending, forSetup_of_none⟩
      | some again => exact hrefused.trans (.frame hrefused.setup now again)

lemma Tracks.goOn (call : HfpHandsFreeState) (hs : s.SetupOnly) (now : Instant) :
    Tracks (s.withCall call)
      (let t := { s.withCall call with hfpInFlightCommand := none, hfpInFlightCommandSentAt := none }
        if t.hfpSlcFailed then (t, ([] : List Bytes)) else t.advanceHfpSlcQueue now).1
      (s.withCall call).goOnInputs := by
  have hidle : SetupOnly { s.withCall call with hfpInFlightCommand := none, hfpInFlightCommandSentAt := none } :=
    ⟨hs.pending, forSetup_of_none⟩
  dsimp only [goOnInputs]
  split_ifs
  · exact ⟨rfl, hidle⟩
  · exact ⟨(Tracks.advance hidle now).line, (Tracks.advance hidle now).setup⟩

lemma Tracks.accept (hs : s.SetupOnly) (now : Instant) : Tracks s (s.acceptCommand now).1 s.acceptInputs := by
  by_cases hccwa : s.hfpInFlightCommand = some .enableCallWaitingNotifications
  · have hnoted : Tracks s (s.withCall s.hfpState.noteCcwaAccepted) [.call .ccwaAccepted] :=
      .keep hs rfl rfl (Or.inl rfl)
    simp only [acceptCommand, acceptInputs, hccwa, if_true]
    exact hnoted.trans (.goOn s.hfpState.noteCcwaAccepted hs now)
  · simp only [acceptCommand, acceptInputs, hccwa, if_false]
    exact .goOn s.hfpState hs now

lemma Tracks.fail (hs : s.SetupOnly) (now : Instant) : Tracks s (s.failSlcCommand now).1 s.failInputs := by
  cases hflight : s.hfpInFlightCommand with
  | none =>
      simp only [failSlcCommand, failInputs, hflight, Bool.false_eq_true, if_false]
      split_ifs
      · exact ⟨rfl, hs.pending, forSetup_of_none⟩
      · exact ⟨rfl, List.forall_mem_nil _, forSetup_of_none⟩
  | some command =>
      simp only [failSlcCommand, failInputs, hflight]
      have hprobed : Tracks s (s.withCall (s.hfpState.noteSlcProbeError command).1) [.call (.probeError command)] :=
        .keep hs rfl rfl (Or.inl rfl)
      cases (s.hfpState.noteSlcProbeError command).2 with
      | true => exact hprobed.trans (.goOn (s.hfpState.noteSlcProbeError command).1 hs now)
      | false =>
          simp only [Bool.false_eq_true, if_false]
          split_ifs
          · exact ⟨hprobed.line, hs.pending, forSetup_of_none⟩
          · exact ⟨hprobed.line, List.forall_mem_nil _, forSetup_of_none⟩

lemma Tracks.answer (hs : s.SetupOnly) (now : Instant) (result : HfpAgResult) :
    Tracks s
      (match result with
        | .ok =>
          if s.hfpInFlightCommand.isNone && s.hfpState.serviceLevelReady then
            ({ s with hfpOutstanding := s.hfpOutstanding.answered.1 }, ([] : List Bytes))
          else s.acceptCommand now
        | .error => if s.hfpState.serviceLevelReady then s.refuseCommand now else s.failSlcCommand now
        | .selectedCodec codec => s.answerCodec now codec
        | _ => (s, [])).1 (s.answerInputs result) := by
  cases result with
  | ok =>
      simp only [answerInputs]
      split_ifs
      · refine .keep hs ?_ rfl (Or.inl rfl)
        simp only [Machine.final_cons, Machine.final_nil, AtLine.step, atLine, OutstandingCommands.answered,
          List.map_tail]
      · exact .accept hs now
  | error =>
      simp only [answerInputs]
      split_ifs
      · exact .refuse hs now
      · exact .fail hs now
  | selectedCodec codec => exact .frame hs now _
  | _ => exact .refl hs

lemma Tracks.result (hs : s.SetupOnly) (now : Instant) (result : HfpAgResult) :
    Tracks s (s.handleHfpResult now result).1 (s.resultInputs result) := by
  have hheard : Tracks s (s.heard result) [.call (.result result)] := .keep hs rfl rfl (Or.inl rfl)
  exact hheard.trans (.answer hheard.setup now result)

lemma Tracks.results (now : Instant) (results : List HfpAgResult) (hs : s.SetupOnly) :
    Tracks s (s.handleHfpResults now results).1 (s.resultsInputs now results) := by
  induction results generalizing s with
  | nil => exact .refl hs
  | cons result results ih =>
      have hfirst := Tracks.result hs now result
      exact hfirst.trans (ih hfirst.setup)

lemma Tracks.payload (hs : s.SetupOnly) (now : Instant) (payload : Bytes) :
    Tracks s (s.handleHfpPayload now payload).1 (s.payloadInputs now payload) := by
  simp only [handleHfpPayload, payloadInputs]
  split_ifs with hopen
  · exact .refl hs
  · cases parseAgResultsBuffered s.hfpLineCarry payload with
    | error message => exact .refl hs
    | ok parsed =>
        obtain ⟨carry, results⟩ := parsed
        have hresults := Tracks.results (s := { s with hfpLineCarry := carry }) now results ⟨hs.pending, hs.inFlight⟩
        exact ⟨hresults.line, hresults.setup⟩

lemma Tracks.kick (hs : s.SetupOnly) (now : Instant) : Tracks s (s.maybeKickAtSequence now).1 s.kickInputs := by
  simp only [maybeKickAtSequence, kickInputs]
  split_ifs
  · exact .refl hs
  · have hnext := Tracks.next (s := { s with mscAtKicked := true }) ⟨hs.pending, hs.inFlight⟩ now
    exact ⟨hnext.line, hnext.setup⟩

/-- The multiplexer and the outbound channels leave the AT pump alone. -/
structure SameAt (s t : RfcommState) : Prop where
  line : t.atLine = s.atLine
  pending : t.hfpPendingCommands = s.hfpPendingCommands
  inFlight : t.hfpInFlightCommand = s.hfpInFlightCommand

lemma Tracks.same {t : RfcommState} (hs : s.SetupOnly) (h : SameAt s t) : Tracks s t [] :=
  .keep hs h.line h.pending (Or.inl h.inFlight)

lemma sameAt_maybeOpenClientDlci (dlci : UInt8) : SameAt s (s.maybeOpenClientDlci dlci) := by
  simp only [maybeOpenClientDlci]
  split
  · exact ⟨rfl, rfl, rfl⟩
  · split_ifs <;> exact ⟨rfl, rfl, rfl⟩

lemma sameAt_onMuxCommand (command : RfcommMuxCommand) : SameAt s (s.onMuxCommand command).1 := by
  cases command with
  | parameterNegotiation isResponse dlci frameType priority maxFrameSize credits =>
      cases isResponse with
      | true =>
          simp only [onMuxCommand, onPnResponse]
          split
          · split_ifs <;> exact ⟨rfl, rfl, rfl⟩
          · exact ⟨rfl, rfl, rfl⟩
      | false =>
          simp only [onMuxCommand, onPnCommand]
          split_ifs <;> exact ⟨rfl, rfl, rfl⟩
  | modemStatus isResponse dlci signals =>
      cases isResponse with
      | true =>
          simp only [onMuxCommand, onMscResponse]
          split_ifs
          · exact ⟨rfl, rfl, rfl⟩
          · have hopen := sameAt_maybeOpenClientDlci (s := { s with
              clientDlcis := s.clientDlcis.modify dlci fun client => { client with mscLocalPending := false } }) dlci
            exact ⟨hopen.line, hopen.pending, hopen.inFlight⟩
          · exact ⟨rfl, rfl, rfl⟩
      | false =>
          simp only [onMuxCommand, onMscCommand]
          split_ifs
          · exact ⟨rfl, rfl, rfl⟩
          · have hopen := sameAt_maybeOpenClientDlci (s := { s with
              clientDlcis := s.clientDlcis.modify dlci fun client => { client with mscRemoteReceived := true } }) dlci
            exact ⟨hopen.line, hopen.pending, hopen.inFlight⟩
          · exact ⟨rfl, rfl, rfl⟩
          · exact ⟨rfl, rfl, rfl⟩
  | flowControlOn | flowControlOff | unknown => exact ⟨rfl, rfl, rfl⟩

lemma Tracks.multiplexer (hs : s.SetupOnly) (now : Instant) (payload : Bytes) :
    Tracks s (s.handleMultiplexerPayload now payload).1 (s.multiplexerInputs payload) := by
  simp only [handleMultiplexerPayload, multiplexerInputs]
  split_ifs
  · exact .refl hs
  · cases parseMultiplexerCommand payload with
    | error message => exact .refl hs
    | ok command =>
        have hmux := Tracks.same hs (sameAt_onMuxCommand command)
        exact hmux.trans (.kick hmux.setup now)

lemma setupOnly_initial (wbsSupported callWaiting : Bool) :
    ∀ command ∈ HfpHandsFreeState.initialServiceLevelCommands wbsSupported callWaiting, ForSetup command := by
  simp [HfpHandsFreeState.initialServiceLevelCommands, ForSetup]

lemma Tracks.sabm (hs : s.SetupOnly) (dlci : UInt8) : Tracks s (s.handleSabm dlci).1 [] := by
  simp only [handleSabm]
  split
  · exact ⟨rfl, hs.pending, hs.inFlight⟩
  · split
    · exact .refl hs
    · split
      · exact ⟨rfl, setupOnly_initial _ _, forSetup_of_none⟩
      · exact .refl hs

lemma sameAt_onClientTargetUa (dlci : UInt8) : SameAt s (s.onClientTargetUa dlci).1 := by
  simp only [onClientTargetUa]
  split
  · exact ⟨rfl, rfl, rfl⟩
  · split_ifs <;> exact ⟨rfl, rfl, rfl⟩

lemma sameAt_handleDisc (dlci : UInt8) : SameAt s (s.handleDisc dlci).1 := by
  simp only [handleDisc]
  split_ifs
  · exact ⟨rfl, rfl, rfl⟩
  · exact ⟨rfl, rfl, rfl⟩
  · split <;> exact ⟨rfl, rfl, rfl⟩

lemma Tracks.uih (hs : s.SetupOnly) (now : Instant) (dlci : UInt8) (payload : Bytes) :
    Tracks s (s.onUih now dlci payload).1
      (if dlci = dlciMultiplexer then s.multiplexerInputs payload
        else if dlci = s.hfpDlci then s.payloadInputs now payload else []) := by
  simp only [onUih]
  split
  · exact .multiplexer hs now payload
  · split
    · exact .payload hs now payload
    · split
      · exact .same hs ⟨rfl, rfl, rfl⟩
      · split <;> exact .same hs ⟨rfl, rfl, rfl⟩

lemma Tracks.packet (hs : s.SetupOnly) (now : Instant) (packet : Bytes) :
    Tracks s (s.handlePacket now packet).1 (s.packetInputs now packet) := by
  simp only [handlePacket, packetInputs]
  cases parseFrame packet with
  | error message => exact .refl hs
  | ok frame =>
      simp only [handleFrame]
      cases frame.kind with
      | sabm => exact .sabm hs frame.dlci
      | ua => exact .same hs (sameAt_onClientTargetUa frame.dlci)
      | dm =>
          by_cases htracked : frame.dlci ∈ s.clientDlcis
          · simp only [if_pos htracked]
            exact .same hs ⟨rfl, rfl, rfl⟩
          · simp only [if_neg htracked]
            exact .refl hs
      | disc => exact .same hs (sameAt_handleDisc frame.dlci)
      | uih => exact .uih hs now frame.dlci frame.payload
      | unknown control => exact .refl hs

lemma timedOut_cases (o : OutstandingCommands) (now : Instant) (timeout : Duration) :
    o.timedOut now timeout = (o, none) ∨ ∃ name, o.timedOut now timeout = (⟨o.queue.tail⟩, some name) := by
  simp only [OutstandingCommands.timedOut]
  split
  · exact Or.inl rfl
  · rename_i name sentAt queue hqueue
    split_ifs
    · exact Or.inl rfl
    · refine Or.inr ⟨name, ?_⟩
      simp [OutstandingCommands.answered, hqueue]

lemma Tracks.tick (hs : s.SetupOnly) (now : Instant) (timeout : Duration) :
    Tracks s (s.tickHfpStall now timeout).1 (s.tickInputs now timeout) := by
  simp only [tickHfpStall, tickInputs]
  split
  · obtain htimed | ⟨name, htimed⟩ := timedOut_cases s.hfpOutstanding now timeout
    · simp only [htimed]
      exact .refl hs
    · simp only [htimed]
      refine .keep hs ?_ rfl (Or.inl rfl)
      simp only [Machine.final_cons, Machine.final_nil, AtLine.step, atLine, pushHfpEvents, List.map_tail]
  · split
    · exact .refl hs
    · split
      · exact .refl hs
      · split
        · exact ⟨rfl, hs.pending, forSetup_of_none⟩
        · exact ⟨rfl, List.forall_mem_nil _, forSetup_of_none⟩

lemma Tracks.op (hs : s.SetupOnly) (op : RfcommOp) : Tracks s (s.step op).1 (s.lineInputs op) := by
  cases op with
  | packet now packet => exact .packet hs now packet
  | attach serverChannel =>
      simp only [step, attachClientDlci]
      split_ifs <;> exact .same hs ⟨rfl, rfl, rfl⟩
  | disc dlci =>
      simp only [step, buildDiscForClientDlci]
      split_ifs <;> exact .same hs ⟨rfl, rfl, rfl⟩
  | takeForDlci | takeAll | forceDisc | registerServerChannel | takeHfpEvents => exact .same hs ⟨rfl, rfl, rfl⟩
  | setWbsSupported supported => exact .keep hs rfl rfl (Or.inl rfl)
  | setCallWaitingEnabled enabled => exact .keep hs rfl rfl (Or.inl rfl)
  | callControl now command =>
      simp only [step, buildCallControlCommand, lineInputs]
      split_ifs
      · exact .refl hs
      · exact .frame hs now command
  | tick now timeout => exact .tick hs now timeout

lemma Tracks.run (hs : s.SetupOnly) (ops : List RfcommOp) : Tracks s (Machine.final step s ops) (s.lineRun ops) := by
  induction ops generalizing s with
  | nil => exact .refl hs
  | cons op ops ih =>
      have hfirst := Tracks.op hs op
      exact hfirst.trans (ih hfirst.setup)

lemma setupOnly_new : new.SetupOnly := ⟨List.forall_mem_nil _, forSetup_of_none⟩

/-- In every run a refused hang-up is sent once more to the call it was meant for, and once; a refused answer too, just
when no answer to an earlier ring is refused. -/
theorem refused_commands_sent_again_iff (ops : List RfcommOp)
    (hfew : AtLine.changes new.atLine (new.lineRun ops) < 2 ^ 32) :
    (Machine.final step new ops).atLine = AtLine.step.final new.atLine (new.lineRun ops) ∧
      new.atLine.HangupsSafe (new.lineRun ops) ∧
      (new.atLine.RetriesSafe (new.lineRun ops) ↔ new.atLine.RefusedInRing (new.lineRun ops)) :=
  ⟨(Tracks.run setupOnly_new ops).line, AtLine.hangupsSafe rfl hfew, AtLine.retriesSafe_iff rfl rfl hfew⟩

section Session

def agSays (text : String) : RfcommOp := .packet 0 (buildUih aokieHfpDlci false none (intoBytes text))

/-- The phone opens the channel, the setup goes through, and a call comes in that we answer. -/
def answered : List RfcommOp :=
  [.packet 0 (buildSabm dlciMultiplexer true), .packet 0 (buildSabm aokieHfpDlci true),
    .packet 0 (buildUih dlciMultiplexer true none (buildModemStatusResponse aokieHfpDlci 0x8d)),
    .packet 0 (buildUih dlciMultiplexer true none (buildModemStatusCommand aokieHfpDlci 0x8d)),
    agSays "+BRSF: 0\r\nOK\r\n", agSays "+CIND: (\"call\",(0,1)),(\"callsetup\",(0-3))\r\nOK\r\n",
    agSays "+CIND: 0,0\r\nOK\r\n", agSays "OK\r\n", agSays "OK\r\n", agSays "OK\r\n", agSays "+CIEV: 2,1\r\n",
    .callControl 0 .answer]

theorem refused_commands_sent_again_same_ring :
    (Machine.final step new (answered ++ [agSays "ERROR\r\n"])).atLine =
      AtLine.step.final new.atLine (new.lineRun (answered ++ [agSays "ERROR\r\n"])) ∧
    new.atLine.HangupsSafe (new.lineRun (answered ++ [agSays "ERROR\r\n"])) ∧
    (new.atLine.RetriesSafe (new.lineRun (answered ++ [agSays "ERROR\r\n"])) ↔
      new.atLine.RefusedInRing (new.lineRun (answered ++ [agSays "ERROR\r\n"]))) :=
  refused_commands_sent_again_iff (answered ++ [agSays "ERROR\r\n"]) (by decide +kernel)

/-- The caller hangs up, another rings, and the phone refuses our answer to the first. -/
def answeredTooLate : List RfcommOp :=
  answered ++ [agSays "+CIEV: 2,0\r\n", agSays "+CIEV: 2,1\r\n", agSays "ERROR\r\n"]

def beforeRefusal : List AtLineInput := (new.lineRun answeredTooLate).take 22

lemma beforeRefusal_cut (k : ℕ) (hk : k < 22) (hsent : (beforeRefusal.drop k).head? = some (.call (.sent .answer))) :
    ¬(AtLine.step.final new.atLine (beforeRefusal.take k)).OneRing (beforeRefusal.drop k) := by
  revert k
  decide +kernel

/-- The answer to the first caller is sent once more to the second. -/
theorem late_refusal_answers_next_ring : ¬∀ ops : List RfcommOp, AtLine.changes new.atLine (new.lineRun ops) < 2 ^ 32 →
    new.atLine.RetriesSafe (new.lineRun ops) := by
  intro h
  have hsafe := h answeredTooLate (by decide +kernel)
  obtain ⟨-, -, earlier, since, hbefore, -, -, hring⟩ := hsafe.answer beforeRefusal
    ((new.lineRun answeredTooLate).drop 23) (by decide +kernel) (by decide +kernel)
  have hlength : beforeRefusal.length = 22 := by decide +kernel
  have hcut := beforeRefusal_cut earlier.length
  rw [hbefore, List.length_append, List.length_cons] at hlength
  rw [hbefore, List.take_left, List.drop_left] at hcut
  exact hcut (by omega) rfl hring

end Session

end Aokie.Radio.Rfcomm.RfcommState
