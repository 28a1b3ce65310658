import Aokie.Radio.Hfp.CallState
import Aokie.Radio.HfpClient

/-! The initiator's service level connection makes progress: whether a command is in flight, held back for want of a
credit, or lost without anyone noticing. -/

namespace Aokie.Radio

open Aokie.Lib Aokie.Radio.Hfp Aokie.Radio.Rfcomm

namespace Rfcomm.RfcommClientState

/-- What one frame delivers to the reader of the primary channel. -/
inductive Delivers (s t : RfcommClientState) : Prop
  | nothing (hevents : t.pendingEvents = []) (hopen : t.isOpen = true → s.isOpen = true)
  | opened (hevents : t.pendingEvents = [.opened]) (hopen : t.isOpen = true)
  | payload (payload : Bytes) (hevents : t.pendingEvents = [.payload payload]) (hwas : s.isOpen = true)
    (hopen : t.isOpen = true)
  | closed (hevents : t.pendingEvents = [.closed])
  | failed (reason : String) (hevents : t.pendingEvents = [.failed reason])

variable {s : RfcommClientState}

lemma Delivers.same (hquiet : s.pendingEvents = []) : Delivers s s := .nothing hquiet id

lemma delivers_maybeEmitOpened {t : RfcommClientState} (hquiet : t.pendingEvents = [])
    (hopen : t.isOpen = true → s.isOpen = true) :
    Delivers s t.maybeEmitOpened := by
  simp only [maybeEmitOpened]
  split_ifs
  · exact .opened (by simp [hquiet]) (by simp [isOpen])
  · exact .nothing hquiet hopen

lemma delivers_maybeOpenSecondary {t : RfcommClientState} (hquiet : t.pendingEvents = [])
    (hopen : t.isOpen = true → s.isOpen = true) (dlci : UInt8) : Delivers s (t.maybeOpenSecondary dlci) := by
  simp only [maybeOpenSecondary]
  split
  · exact .nothing hquiet hopen
  · split_ifs <;> exact .nothing hquiet hopen

lemma delivers_onUa (hquiet : s.pendingEvents = []) (dlci : UInt8) : Delivers s (s.onUa dlci).1 := by
  simp only [onUa, onUaMultiplexer, onUaTarget, onUaSecondary]
  split_ifs
  · exact .same hquiet
  · exact .nothing hquiet (by simp [isOpen])
  · exact .same hquiet
  · exact .nothing hquiet id
  · split
    · exact .same hquiet
    · split_ifs
      · exact .same hquiet
      · exact .nothing hquiet id

lemma delivers_onDm (hquiet : s.pendingEvents = []) (dlci : UInt8) : Delivers s (s.onDm dlci) := by
  simp only [onDm]
  split_ifs
  · exact .nothing hquiet id
  · exact .failed ("RFCOMM peer sent DM on dlci " ++ toString dlci.toNat) (by simp [fail, hquiet])
  · exact .same hquiet

lemma delivers_onDisc (hquiet : s.pendingEvents = []) (dlci : UInt8) : Delivers s (s.onDisc dlci).1 := by
  simp only [onDisc]
  split_ifs
  · exact .nothing hquiet id
  · exact .closed (by simp [close, hquiet])
  · exact .same hquiet

lemma delivers_onMuxCommand (hquiet : s.pendingEvents = []) (command : RfcommMuxCommand) :
    Delivers s (s.onMuxCommand command).1 := by
  simp only [onMuxCommand]
  split
  · simp only [onPnResponse]
    split_ifs
    · exact .nothing hquiet (by simp [isOpen])
    · split
      · split_ifs
        · exact .nothing hquiet id
        · exact .same hquiet
      · exact .same hquiet
  · simp only [onMscResponse]
    split_ifs
    · exact delivers_maybeEmitOpened hquiet id
    · refine delivers_maybeOpenSecondary ?_ ?_ _
      · exact hquiet
      · exact id
    · exact .same hquiet
  · simp only [onMscCommand]
    split_ifs
    · exact delivers_maybeEmitOpened hquiet id
    · refine delivers_maybeOpenSecondary ?_ ?_ _
      · exact hquiet
      · exact id
    · exact .same hquiet
  · exact .same hquiet

lemma delivers_onUihTarget (hquiet : s.pendingEvents = []) (credits : Option UInt8) (payload : Bytes) :
    Delivers s (s.onUihTarget credits payload).1 := by
  by_cases hopen : s.isOpen = true
  · have hopen' : isOpen { s with txCredits := u16SaturatingAdd s.txCredits (credits.getD 0).toNat } = true := hopen
    simp only [onUihTarget, hopen', if_true]
    split_ifs
    · exact .nothing hquiet id
    · exact .payload payload (by simp [hquiet]) hopen hopen
    · exact .payload payload (by simp [hquiet]) hopen hopen
  · have hclosed : ¬isOpen { s with txCredits := u16SaturatingAdd s.txCredits (credits.getD 0).toNat } = true := hopen
    simp only [onUihTarget, if_neg hclosed]
    split_ifs <;> exact .nothing hquiet id

lemma delivers_onUihSecondary (hquiet : s.pendingEvents = []) (dlci : UInt8) (credits : Option UInt8)
    (payload : Bytes) :
    Delivers s (s.onUihSecondary dlci credits payload).1 := by
  simp only [onUihSecondary]
  split
  · exact .same hquiet
  · exact .nothing hquiet id

lemma delivers_handlePacket (hquiet : s.pendingEvents = []) (packet : Bytes) {t : RfcommClientState}
    {out : Except String (List Bytes)} (h : s.handlePacket packet = (t, out)) :
    Delivers s t ∧ (out.toOption = none → t = s) := by
  obtain rfl : (s.handlePacket packet).1 = t := congrArg Prod.fst h
  obtain rfl : (s.handlePacket packet).2 = out := congrArg Prod.snd h
  simp only [handlePacket]
  split
  · exact ⟨.same hquiet, fun _ => rfl⟩
  case h_2 frame _ =>
    simp only [handleFrame]
    split
    · exact ⟨delivers_onUa hquiet _, nofun⟩
    · exact ⟨delivers_onDm hquiet _, nofun⟩
    · exact ⟨delivers_onDisc hquiet _, nofun⟩
    · simp only [onUih]
      split_ifs
      · simp only [onMuxUih]
        split
        · exact ⟨.same hquiet, fun _ => rfl⟩
        · exact ⟨delivers_onMuxCommand hquiet _, nofun⟩
      · exact ⟨delivers_onUihTarget hquiet _ _, nofun⟩
      · exact ⟨delivers_onUihSecondary hquiet _ _ _, nofun⟩
    · exact ⟨.same hquiet, fun _ => rfl⟩
    · exact ⟨.same hquiet, fun _ => rfl⟩

end Rfcomm.RfcommClientState

namespace HfpClientState

/-- All that happens to the session after its kickoff. -/
inductive Input
  | packet (now : Instant) (packet : Bytes)
  | callControl (now : Instant) (command : HfpAtCommand)
  | tick (now : Instant) (timeout : Duration)
  | takeHfpEvents
  | attachClientDlci (serverChannel : UInt8)
  | takeClientEventsForDlci (dlci : UInt8)
  | uihOnClientDlci (dlci : UInt8) (payload : Bytes)
  | forceDiscSecondaryDlci (dlci : UInt8)

def step : Machine HfpClientState Input Unit
  | s, .packet now packet => ((s.handlePacket now packet).1, ())
  | s, .callControl now command => ((s.buildCallControlCommand now command).1, ())
  | s, .tick now timeout => ((s.tickHfpStall now timeout).1, ())
  | s, .takeHfpEvents => (s.takeHfpEvents.1, ())
  | s, .attachClientDlci serverChannel => ((s.attachClientDlci serverChannel).1, ())
  | s, .takeClientEventsForDlci dlci => ((s.takeClientEventsForDlci dlci).1, ())
  | s, .uihOnClientDlci dlci payload => ((s.buildUihOnClientDlci dlci payload).1, ())
  | s, .forceDiscSecondaryDlci dlci => ((s.buildForceDiscSecondaryDlci dlci).1, ())

def started (serverChannel : UInt8) (wbsSupported callWaitingEnabled : Bool) (now : Instant) : HfpClientState :=
  ((new serverChannel wbsSupported callWaitingEnabled).kickoff now).1

variable {s t : HfpClientState}

def InSetup (s : HfpClientState) : Prop := s.hfpState.serviceLevelReady = false ∧ s.slcFailed = false

/-- The setup has nothing left to send: neither a queued command nor the second read of the indicators. -/
def NothingLeft (s : HfpClientState) : Prop :=
  s.pendingCommands = [] ∧ (s.hfpState.indicatorDefinitionsSeen || s.hfpState.indicatorDefinitionsRetryUsed) = true

/-- A result that takes the setup to its next command finds a credit for it. -/
def AnsweredWithCredit (s : HfpClientState) (result : HfpAgResult) : Prop :=
  s.InSetup → (result = .ok ∨ result = .error ∧ ∃ command ∈ s.inFlightCommand,
    (s.hfpState.noteSlcProbeError command).2 = true) →
    s.client.canSendData = true ∨ s.NothingLeft

/-- No command is answered without a credit for the next one; and a payload that cannot be read brings no credit to a
command that waits for one. -/
def ParsedCredited (s : HfpClientState) (now : Instant) : Except String (String × List HfpAgResult) → Prop
  | .error _ => s.InSetup → s.inFlightCommand = none → s.client.canSendData = false
  | .ok (carry, results) => Machine.Along (handleAgResult now) AnsweredWithCredit { s with lineCarry := carry } results

def EventCredited (s : HfpClientState) (now : Instant) : RfcommClientEvent → Prop
  | .payload payload => s.ParsedCredited now (parseAgResultsBuffered s.lineCarry payload)
  | _ => True

/-- The session with the channel after a frame whose events have been taken. -/
abbrev received (s : HfpClientState) (client : RfcommClientState) : HfpClientState :=
  { s with client := client.takeEvents.1 }

def PacketCredited (s : HfpClientState) (now : Instant) (packet : Bytes) : Prop :=
  let client := (s.client.handlePacket packet).1
  ∀ event ∈ client.pendingEvents, (s.received client).EventCredited now event

def Credited (s : HfpClientState) : Input → Prop
  | .packet now packet => s.PacketCredited now packet
  | _ => True

/-- Someone answers for the setup: the phone a command, or the clock the first one. -/
def Waiting (s : HfpClientState) : Prop :=
  s.inFlightSentAt.isSome = true ∧
    (s.inFlightCommand.isSome = true ∨ ∃ callWaiting rest, s.pendingCommands = .supportedFeatures callWaiting :: rest)

def Linked (s : HfpClientState) : Prop := s.client.isOpen = true ∧ s.client.pendingEvents = []

/-- The channel is open, and the setup is over or being waited for. -/
structure Pumping (s : HfpClientState) : Prop where
  linked : s.Linked
  waiting : s.InSetup → s.Waiting

lemma buildAtFrame_ok (hopen : s.Linked) (now : Instant) (command : HfpAtCommand) :
    ∃ t frame, s.buildAtFrame now command = (t, .ok frame) ∧ t.Linked ∧
      t.hfpState.serviceLevelReady = s.hfpState.serviceLevelReady ∧ t.slcFailed = s.slcFailed ∧
      t.pendingCommands = s.pendingCommands ∧ t.inFlightCommand = s.inFlightCommand ∧
      t.inFlightSentAt = s.inFlightSentAt ∧ (s.client.canSendData = false → t.client.canSendData = false) := by
  have hready := HfpHandsFreeState.ready_markCommandSent s.hfpState command
  have huih : ∃ client frame, s.client.buildOutboundUih (buildAtCommand command) = (client, .ok frame) ∧
      (client.isOpen = true ∧ client.pendingEvents = []) ∧
      (s.client.canSendData = false → client.canSendData = false) := by
    rw [RfcommClientState.buildOutboundUih, hopen.1]
    refine ⟨_, _, rfl, ?_, ?_⟩
    · split_ifs <;> exact hopen
    · split_ifs
      · simp only [RfcommClientState.canSendData, Bool.or_eq_false_iff, decide_eq_false_iff_not]
        exact And.imp_right fun hnone => by omega
      · exact id
  obtain ⟨client, frame, huih, hclient, hcredits⟩ := huih
  refine ⟨{ s with
    client, hfpState := s.hfpState.markCommandSent command
    outstanding := if (s.hfpState.markCommandSent command).serviceLevelReady then s.outstanding.sent command now
      else s.outstanding }, frame, ?_, hclient, hready, rfl, rfl, rfl, rfl, hcredits⟩
  simp only [buildAtFrame]
  split_ifs <;> simp [huih]

lemma nextCommandFrame_cons (hopen : s.Linked) (hcredit : s.client.canSendData = true) (now : Instant)
    {command : HfpAtCommand} {rest : List HfpAtCommand}
    (hnext : s.pendingCommands.dropWhile s.hfpState.shouldSkipSlcCommand = command :: rest) :
    ∃ t frame, s.nextCommandFrame now = (t, .ok (some frame)) ∧ t.Pumping ∧ t.inFlightCommand.isSome = true := by
  obtain ⟨t, frame, hbuild, htopen, -⟩ := buildAtFrame_ok (s := { s with pendingCommands := rest }) hopen now command
  refine ⟨{ t with inFlightCommand := some command, inFlightSentAt := some now }, frame, ?_,
    ⟨htopen, fun _ => ⟨rfl, .inl rfl⟩⟩, rfl⟩
  rw [nextCommandFrame, hcredit, hnext]
  simp only [hbuild]
  rfl

lemma nextCommandFrame_nil (hcredit : s.client.canSendData = true) (now : Instant)
    (hnext : s.pendingCommands.dropWhile s.hfpState.shouldSkipSlcCommand = []) :
    s.nextCommandFrame now = ({ s with pendingCommands := [] }, .ok none) := by
  rw [nextCommandFrame, hcredit, hnext]
  rfl

lemma nextCommandFrame_held (hcredit : s.client.canSendData = false) (now : Instant) :
    s.nextCommandFrame now = (s, .ok none) := by
  rw [nextCommandFrame, hcredit]
  rfl

lemma Pumping.ready {s : HfpClientState} (hopen : s.Linked) (hready : s.hfpState.serviceLevelReady = true) :
    s.Pumping :=
  ⟨hopen, fun hsetup => absurd (hsetup.1.symm.trans hready) (by decide)⟩

lemma Pumping.failed {s : HfpClientState} (hopen : s.Linked) (hfailed : s.slcFailed = true) : s.Pumping :=
  ⟨hopen, fun hsetup => absurd (hsetup.2.symm.trans hfailed) (by decide)⟩

lemma serviceLevelReady_markServiceReady (s : HfpClientState) :
    s.markServiceReady.hfpState.serviceLevelReady = true := by
  simp only [markServiceReady, HfpHandsFreeState.markServiceLevelReady]
  split_ifs with hready
  · exact hready
  · rfl

lemma advanceSlcQueue_of_none {s t : HfpClientState} {now : Instant} (hnext : s.nextCommandFrame now = (t, .ok none))
    (hpending : t.pendingCommands = []) (hopen : t.Linked)
    (hcredit : t.client.canSendData = true ∨
      (t.hfpState.indicatorDefinitionsSeen || t.hfpState.indicatorDefinitionsRetryUsed) = true) :
    ∃ u frames, s.advanceSlcQueue now = (u, .ok frames) ∧ u.Pumping := by
  by_cases hread : (t.hfpState.indicatorDefinitionsSeen || t.hfpState.indicatorDefinitionsRetryUsed) = true
  · have hretry : t.hfpState.needsIndicatorDefinitionsRetry = (t.hfpState, false) := by
      rw [HfpHandsFreeState.needsIndicatorDefinitionsRetry, if_pos hread]
    have hempty : t.pendingCommands.isEmpty = true := List.isEmpty_iff.mpr hpending
    refine ⟨t.markServiceReady, [], ?_, .ready hopen (serviceLevelReady_markServiceReady _)⟩
    simp only [advanceSlcQueue, hnext, hempty, hretry, if_true]
  · have hretry : t.hfpState.needsIndicatorDefinitionsRetry =
        ({ t.hfpState with indicatorDefinitionsRetryUsed := true }, true) := by
      rw [HfpHandsFreeState.needsIndicatorDefinitionsRetry, if_neg hread]
    obtain ⟨u, frame, hframe, hpumping, -⟩ := nextCommandFrame_cons
      (s := { t with
        hfpState := { t.hfpState with indicatorDefinitionsRetryUsed := true }
        pendingCommands := [.retrieveIndicators, .retrieveIndicatorStatus] })
      hopen (hcredit.resolve_right hread) now rfl
    refine ⟨u, [frame], ?_, hpumping⟩
    simp only [advanceSlcQueue, hnext, hpending, hretry, List.isEmpty_nil, if_true, List.nil_append, hframe]
    rfl

lemma advanceSlcQueue_pumping (hopen : s.Linked) (now : Instant)
    (hcredit : s.client.canSendData = true ∨ s.NothingLeft) :
    ∃ t frames, s.advanceSlcQueue now = (t, .ok frames) ∧ t.Pumping := by
  cases hsend : s.client.canSendData with
  | true =>
      cases hqueue : s.pendingCommands.dropWhile s.hfpState.shouldSkipSlcCommand with
      | nil => exact advanceSlcQueue_of_none (nextCommandFrame_nil hsend now hqueue) rfl hopen (.inl hsend)
      | cons command rest =>
          obtain ⟨t, frame, hframe, hpumping, -⟩ := nextCommandFrame_cons hopen hsend now hqueue
          exact ⟨t, [frame], by simp only [advanceSlcQueue, hframe], hpumping⟩
  | false =>
      obtain hcredit | ⟨hpending, hretry⟩ := hcredit
      · exact absurd (hsend.symm.trans hcredit) (by decide)
      · exact advanceSlcQueue_of_none (nextCommandFrame_held hsend now) hpending hopen (.inr hretry)

lemma nextCommandFrame_ok (hopen : s.Linked) (now : Instant) :
    ∃ t frame, s.nextCommandFrame now = (t, .ok frame) ∧ t.Linked ∧
      t.hfpState.serviceLevelReady = s.hfpState.serviceLevelReady := by
  cases hsend : s.client.canSendData with
  | false => exact ⟨s, none, nextCommandFrame_held hsend now, hopen, rfl⟩
  | true =>
      cases hqueue : s.pendingCommands.dropWhile s.hfpState.shouldSkipSlcCommand with
      | nil => exact ⟨_, none, nextCommandFrame_nil hsend now hqueue, hopen, rfl⟩
      | cons command rest =>
          obtain ⟨t, frame, hbuild, htopen, hready, -⟩ :=
            buildAtFrame_ok (s := { s with pendingCommands := rest }) hopen now command
          refine ⟨{ t with inFlightCommand := some command, inFlightSentAt := some now }, some frame, ?_, htopen,
            hready⟩
          rw [nextCommandFrame, hsend, hqueue]
          simp only [hbuild]
          rfl

lemma advanceSlcQueue_ready (hopen : s.Linked) (hready : s.hfpState.serviceLevelReady = true) (now : Instant) :
    ∃ t frames, s.advanceSlcQueue now = (t, .ok frames) ∧ t.Pumping := by
  obtain ⟨t, _ | frame, hnext, htopen, htready⟩ := nextCommandFrame_ok hopen now
  · by_cases hempty : t.pendingCommands.isEmpty = true
    · rcases hretry : t.hfpState.needsIndicatorDefinitionsRetry with ⟨hfpState, _ | _⟩
      · refine ⟨{ t with hfpState }.markServiceReady, [], ?_, .ready htopen (serviceLevelReady_markServiceReady _)⟩
        simp only [advanceSlcQueue, hnext, hempty, hretry, if_true]
      · have hkept : hfpState.serviceLevelReady = t.hfpState.serviceLevelReady := by
          have hfst := congrArg (fun r => r.1.serviceLevelReady) hretry
          simp only [HfpHandsFreeState.needsIndicatorDefinitionsRetry] at hfst
          split_ifs at hfst <;> exact hfst.symm
        obtain ⟨u, frame, hnext', huopen, huready⟩ := nextCommandFrame_ok
          (s := { t with
            hfpState, pendingCommands :=
              t.pendingCommands ++ [.retrieveIndicators, .retrieveIndicatorStatus] }) htopen now
        refine ⟨u, frame.toList, ?_, .ready huopen (huready.trans (hkept.trans (htready.trans hready)))⟩
        simp only [advanceSlcQueue, hnext, hempty, hretry, if_true, hnext']
        rfl
    · refine ⟨t, [], ?_, .ready htopen (htready.trans hready)⟩
      simp only [advanceSlcQueue, hnext, if_neg hempty]
  · exact ⟨t, [frame], by simp only [advanceSlcQueue, hnext], .ready htopen (htready.trans hready)⟩

lemma goOn_pumping (hopen : s.Linked) (now : Instant)
    (hcredit : s.InSetup → s.client.canSendData = true ∨ s.NothingLeft) :
    ∃ t frames, (if s.slcFailed then (s, .ok []) else s.advanceSlcQueue now) = (t, .ok frames) ∧ t.Pumping := by
  cases hfailed : s.slcFailed with
  | true => exact ⟨s, [], rfl, .failed hopen hfailed⟩
  | false =>
      cases hready : s.hfpState.serviceLevelReady with
      | true => exact advanceSlcQueue_ready hopen hready now
      | false => exact advanceSlcQueue_pumping hopen now (hcredit ⟨hready, hfailed⟩)

lemma acceptCommand_pumping (hopen : s.Linked) (now : Instant)
    (hcredit : s.InSetup → s.client.canSendData = true ∨ s.NothingLeft) :
    ∃ t frames, s.acceptCommand now = (t, .ok frames) ∧ t.Pumping := by
  by_cases hccwa : s.inFlightCommand = some .enableCallWaitingNotifications
  · simp only [acceptCommand, hccwa, if_true]
    exact goOn_pumping (s := { s with
      hfpState := s.hfpState.noteCcwaAccepted, inFlightCommand := none, inFlightSentAt := none }) hopen now hcredit
  · simp only [acceptCommand, if_neg hccwa]
    exact goOn_pumping (s := { s with inFlightCommand := none, inFlightSentAt := none }) hopen now hcredit

lemma definitions_noteSlcProbeError (hfpState : HfpHandsFreeState) (command : HfpAtCommand) :
    ((hfpState.noteSlcProbeError command).1.indicatorDefinitionsSeen ||
      (hfpState.noteSlcProbeError command).1.indicatorDefinitionsRetryUsed) =
        (hfpState.indicatorDefinitionsSeen || hfpState.indicatorDefinitionsRetryUsed) := by
  cases command <;> rfl

lemma failSlcCommand_pumping (hopen : s.Linked) (hready : s.hfpState.serviceLevelReady = false) (now : Instant)
    (hcredit : s.slcFailed = false → (∃ command ∈ s.inFlightCommand, (s.hfpState.noteSlcProbeError command).2 = true) →
      s.client.canSendData = true ∨ s.NothingLeft) :
    ∃ t frames, s.failSlcCommand now = (t, .ok frames) ∧ t.Pumping := by
  cases hcommand : s.inFlightCommand with
  | none =>
      simp only [failSlcCommand, hcommand, hready]
      exact ⟨_, [], rfl, .failed hopen rfl⟩
  | some command =>
      have hkept := definitions_noteSlcProbeError s.hfpState command
      have hready' := s.hfpState.ready_noteSlcProbeError command
      rcases hprobe : s.hfpState.noteSlcProbeError command with ⟨hfpState, _ | _⟩
      · simp only [hprobe] at hready'
        simp only [failSlcCommand, hcommand, hprobe, hready'.trans hready]
        exact ⟨_, [], rfl, .failed hopen rfl⟩
      · simp only [hprobe] at hkept
        simp only [failSlcCommand, hcommand, hprobe]
        refine goOn_pumping (s := { s with
            hfpState, inFlightCommand := none, inFlightSentAt := none }) hopen now fun hsetup => ?_
        refine (hcredit hsetup.2 ⟨command, hcommand, by rw [hprobe]⟩).imp_right fun hnothing => ?_
        exact ⟨hnothing.1, hkept.trans hnothing.2⟩

lemma Pumping.withCallState (hs : s.Pumping) {hfpState : HfpHandsFreeState} (events : List HfpEvent)
    (hready : hfpState.serviceLevelReady = s.hfpState.serviceLevelReady) :
    Pumping { s with hfpState, events := s.events ++ events } :=
  ⟨hs.linked, fun hsetup => hs.waiting ⟨hready.symm.trans hsetup.1, hsetup.2⟩⟩

lemma refuseCommand_client (s : HfpClientState) :
    s.refuseCommand.client = s.client ∧ s.refuseCommand.hfpState = s.hfpState := by
  simp only [refuseCommand, pushEvents]
  split <;> exact ⟨rfl, rfl⟩

/-- One result of the phone, answered with a credit, keeps the pump going. -/
theorem handleAgResult_pumping (hs : s.Pumping) (now : Instant) {result : HfpAgResult}
    (hcredit : s.AnsweredWithCredit result) :
    ∃ t frames, handleAgResult now s result = (t, .ok frames) ∧ t.Pumping := by
  have hready := HfpHandsFreeState.ready_applyResult s.hfpState result
  have hother := hs.withCallState (s.hfpState.applyResult result).2 hready
  cases result with
  | ok =>
      rw [HfpHandsFreeState.applyResult_ok] at hother
      simp only [handleAgResult, HfpHandsFreeState.applyResult_ok]
      by_cases hlate : (s.inFlightCommand.isNone && s.hfpState.serviceLevelReady) = true
      · rw [if_pos hlate]
        exact ⟨_, [], rfl, .ready hs.linked (Bool.and_eq_true_iff.mp hlate).2⟩
      · rw [if_neg hlate]
        refine acceptCommand_pumping ?_ now fun hsetup => ?_
        · exact hs.linked
        · exact hcredit hsetup (.inl rfl)
  | error =>
      simp only [handleAgResult, HfpHandsFreeState.applyResult_error, List.append_nil]
      cases hdone : s.hfpState.serviceLevelReady with
      | true =>
          obtain ⟨hclient, hstate⟩ := refuseCommand_client s
          have hlinked : s.refuseCommand.Linked := by
            rw [Linked, hclient]
            exact hs.linked
          exact ⟨s.refuseCommand, [], rfl, .ready hlinked (hstate ▸ hdone)⟩
      | false =>
          exact failSlcCommand_pumping hs.linked hdone now fun hfailed hprobe =>
            hcredit ⟨hdone, hfailed⟩ (.inr ⟨rfl, hprobe⟩)
  | selectedCodec codec =>
      simp only [handleAgResult, answerCodec]
      obtain ⟨t, frame, hbuild, htopen, htready, htfailed, htpending, htcommand, htsent, -⟩ :=
          buildAtFrame_ok hother.linked now
        (if (s.hfpState.applyResult (.selectedCodec codec)).1.codecOffered codec then .confirmCodec codec
          else .availableCodecs s.wbsSupported)
      refine ⟨t, [frame], by rw [hbuild]; rfl, htopen, fun hsetup => ?_⟩
      have hwaiting := hother.waiting ⟨htready.symm.trans hsetup.1, htfailed.symm.trans hsetup.2⟩
      rw [Waiting, htsent, htcommand, htpending]
      exact hwaiting
  | _ => exact ⟨_, [], rfl, hother⟩

def Held (s : HfpClientState) : Prop :=
  s.client.canSendData = false ∧ ∃ callWaiting rest, s.pendingCommands = .supportedFeatures callWaiting :: rest

/-- Between two packets: every event of the channel has been read, the clock of a setup runs, and once the channel is
open a command is in flight or held. -/
structure Progress (s : HfpClientState) : Prop where
  noEvents : s.client.pendingEvents = []
  clock : s.closed = false → s.InSetup → s.inFlightSentAt.isSome = true
  covered : s.isOpen = true → s.InSetup → s.inFlightCommand.isSome = true ∨ s.Held

lemma Progress.notInSetup (hevents : s.client.pendingEvents = []) (h : ¬s.InSetup) : s.Progress :=
  ⟨hevents, fun _ hsetup => absurd hsetup h, fun _ hsetup => absurd hsetup h⟩

lemma Progress.closed (hevents : s.client.pendingEvents = []) (h : s.closed = true) : s.Progress :=
  ⟨hevents, fun hopen => absurd (hopen.symm.trans h) (by decide), fun hopen => by simp [isOpen, h] at hopen⟩

lemma not_inSetup_of_ready (h : s.hfpState.serviceLevelReady = true) : ¬s.InSetup :=
  fun hsetup => absurd (hsetup.1.symm.trans h) (by decide)

lemma Pumping.pumpHeldCommand (hs : s.Pumping) (now : Instant) :
    ∃ t frames, s.pumpHeldCommand now = (t, .ok frames) ∧ t.Progress := by
  by_cases hpump : (s.isOpen && !s.slcFailed && s.inFlightCommand.isNone) = true
  · rw [HfpClientState.pumpHeldCommand, if_pos hpump]
    simp only [Bool.and_eq_true, Bool.not_eq_true', Option.isNone_iff_eq_none] at hpump
    obtain ⟨⟨hopen, hfailed⟩, hnone⟩ := hpump
    cases hready : s.hfpState.serviceLevelReady with
    | true =>
        obtain ⟨t, frame, hnext, hlinked, htready⟩ := nextCommandFrame_ok hs.linked now
        refine ⟨t, frame.toList, by rw [hnext]; rfl, ?_⟩
        exact .notInSetup hlinked.2 (not_inSetup_of_ready (htready.trans hready))
    | false =>
        obtain ⟨hclock, hcommand | ⟨callWaiting, rest, hpending⟩⟩ := hs.waiting ⟨hready, hfailed⟩
        · simp [hnone] at hcommand
        · cases hcredit : s.client.canSendData with
          | false =>
              refine ⟨s, [], by rw [nextCommandFrame_held hcredit now]; rfl, hs.linked.2, fun _ _ => hclock, ?_⟩
              exact fun _ _ => .inr ⟨hcredit, callWaiting, rest, hpending⟩
          | true =>
              have hnext : s.pendingCommands.dropWhile s.hfpState.shouldSkipSlcCommand =
                  .supportedFeatures callWaiting :: rest := by
                rw [hpending]
                rfl
              obtain ⟨t, frame, hframe, hpumping, hsent⟩ := nextCommandFrame_cons hs.linked hcredit now hnext
              refine ⟨t, [frame], by rw [hframe]; rfl, hpumping.linked.2, ?_, fun _ _ => .inl hsent⟩
              exact fun _ hsetup => (hpumping.waiting hsetup).1
  · refine ⟨s, [], by rw [HfpClientState.pumpHeldCommand, if_neg hpump], hs.linked.2, ?_, fun hopen hsetup => .inl ?_⟩
    · exact fun _ hsetup => (hs.waiting hsetup).1
    · simpa [hopen, hsetup.2, Option.isSome_iff_ne_none] using hpump

section Keeps

/-- Neither is the session closed, nor does an event of the channel appear. -/
structure Keeps (s t : HfpClientState) : Prop where
  closed : t.closed = s.closed
  events : t.client.pendingEvents = s.client.pendingEvents

lemma Keeps.refl (s : HfpClientState) : Keeps s s := ⟨rfl, rfl⟩

lemma Keeps.trans {u : HfpClientState} (h : Keeps s t) (h' : Keeps t u) : Keeps s u :=
  ⟨h'.closed.trans h.closed, h'.events.trans h.events⟩

lemma keeps_buildAtFrame (now : Instant) (command : HfpAtCommand) : Keeps s (s.buildAtFrame now command).1 := by
  simp only [buildAtFrame, RfcommClientState.buildOutboundUih]
  split_ifs <;> exact ⟨rfl, rfl⟩

lemma keeps_nextCommandFrame (now : Instant) : Keeps s (s.nextCommandFrame now).1 := by
  simp only [nextCommandFrame]
  split_ifs
  · exact .refl s
  · split
    · exact ⟨rfl, rfl⟩
    case h_2 command rest _ =>
      have hbuild := keeps_buildAtFrame (s := { s with pendingCommands := rest }) now command
      split <;> rename_i heq <;> rw [heq] at hbuild <;> exact ⟨hbuild.closed, hbuild.events⟩

lemma keeps_advanceSlcQueue (now : Instant) : Keeps s (s.advanceSlcQueue now).1 := by
  have hnext := keeps_nextCommandFrame (s := s) now
  simp only [advanceSlcQueue]
  split
  case h_1 t message heq =>
    rw [heq] at hnext
    exact hnext
  case h_2 t frame heq =>
    rw [heq] at hnext
    exact hnext
  case h_3 t heq =>
    rw [heq] at hnext
    split_ifs
    · split
      · refine hnext.trans ?_
        exact ⟨(keeps_nextCommandFrame now).closed, (keeps_nextCommandFrame now).events⟩
      · exact ⟨hnext.closed, hnext.events⟩
    · exact hnext

lemma keeps_acceptCommand (now : Instant) : Keeps s (s.acceptCommand now).1 := by
  simp only [acceptCommand]
  split_ifs
  · exact ⟨rfl, rfl⟩
  · exact ⟨(keeps_advanceSlcQueue now).closed, (keeps_advanceSlcQueue now).events⟩
  · exact ⟨rfl, rfl⟩
  · exact ⟨(keeps_advanceSlcQueue now).closed, (keeps_advanceSlcQueue now).events⟩

lemma keeps_failSlcCommand (now : Instant) : Keeps s (s.failSlcCommand now).1 := by
  simp only [failSlcCommand, pushEvents]
  split_ifs
  · exact ⟨rfl, rfl⟩
  · exact ⟨(keeps_advanceSlcQueue now).closed, (keeps_advanceSlcQueue now).events⟩
  · exact ⟨rfl, rfl⟩
  · exact ⟨rfl, rfl⟩

lemma keeps_handleAgResult (now : Instant) (result : HfpAgResult) : Keeps s (handleAgResult now s result).1 := by
  simp only [handleAgResult]
  split
  · split_ifs
    · exact ⟨rfl, rfl⟩
    · exact ⟨(keeps_acceptCommand now).closed, (keeps_acceptCommand now).events⟩
  · split_ifs
    · simp only [refuseCommand, pushEvents]
      split <;> exact ⟨rfl, rfl⟩
    · exact ⟨(keeps_failSlcCommand now).closed, (keeps_failSlcCommand now).events⟩
  · exact ⟨(keeps_buildAtFrame now _).closed, (keeps_buildAtFrame now _).events⟩
  · exact ⟨rfl, rfl⟩

lemma keeps_handleAgPayload (now : Instant) (payload : Bytes) : Keeps s (s.handleAgPayload now payload).1 := by
  have hresults : ∀ (results : List HfpAgResult) (s : HfpClientState),
      Keeps s (tryFor (handleAgResult now) s results).1 := by
    intro results
    induction results with
    | nil => exact .refl
    | cons result results ih =>
        intro s
        have hfirst := keeps_handleAgResult (s := s) now result
        simp only [tryFor]
        split <;> rename_i heq <;> rw [heq] at hfirst
        · exact hfirst
        · exact hfirst.trans (ih _)
  simp only [handleAgPayload]
  split
  · exact .refl s
  · exact ⟨(hresults _ _).closed, (hresults _ _).events⟩

lemma keeps_pumpHeldCommand (now : Instant) : Keeps s (s.pumpHeldCommand now).1 := by
  simp only [pumpHeldCommand]
  split_ifs
  · exact keeps_nextCommandFrame now
  · exact .refl s

end Keeps

lemma handlePacket_of_ok {now : Instant} {packet : Bytes} {client : RfcommClientState} {out replies : List Bytes}
    (hclient : s.client.handlePacket packet = (client, .ok out))
    (hevents : tryFor (onClientEvent now) (s.received client) client.pendingEvents = (t, .ok replies)) :
    (s.handlePacket now packet).1 = (t.pumpHeldCommand now).1 := by
  simp only [received, RfcommClientState.takeEvents] at hevents
  simp only [handlePacket, hclient, RfcommClientState.takeEvents, hevents, Prod.map_fst, id_eq]

lemma handlePacket_of_error {now : Instant} {packet : Bytes} {client : RfcommClientState} {out : List Bytes}
    {message : String}
    (hclient : s.client.handlePacket packet = (client, .ok out))
    (hevents : tryFor (onClientEvent now) (s.received client) client.pendingEvents = (t, .error message)) :
    (s.handlePacket now packet).1 = t := by
  simp only [received, RfcommClientState.takeEvents] at hevents
  simp only [handlePacket, hclient, RfcommClientState.takeEvents, hevents]

lemma Progress.pumping_received (hs : s.Progress) (hclosed : s.closed = false) {client : RfcommClientState}
    (hwas : s.client.isOpen = true) (hopen : client.isOpen = true) : (s.received client).Pumping := by
  refine ⟨⟨hopen, rfl⟩, fun hsetup => ⟨hs.clock hclosed hsetup, ?_⟩⟩
  exact (hs.covered (by simp [isOpen, hwas, hclosed]) hsetup).imp_right fun hheld => hheld.2

lemma Progress.pumping_opened (hs : s.Progress) (hclosed : s.closed = false) (now : Instant)
    {client : RfcommClientState}
    (hopen : client.isOpen = true) :
    ∃ t replies, onClientEvent now (s.received client) .opened = (t, .ok replies) ∧ t.Pumping := by
  have hlinked : (s.received client).Linked := ⟨hopen, rfl⟩
  set queue := HfpHandsFreeState.initialServiceLevelCommands s.wbsSupported s.hfpState.callWaitingEnabled with hqueue
  cases hcredit : (s.received client).client.canSendData with
  | true =>
      obtain ⟨t, frame, hframe, hpumping, -⟩ :=
          nextCommandFrame_cons (s := { s.received client with pendingCommands := queue })
        hlinked hcredit now rfl
      exact ⟨t, [frame], by simp only [onClientEvent, ← hqueue, hframe]; rfl, hpumping⟩
  | false =>
      refine ⟨{ s.received client with pendingCommands := queue }, [], ?_, hlinked, fun hsetup => ?_⟩
      · simp only [onClientEvent, ← hqueue, nextCommandFrame_held
          (s := { s.received client with pendingCommands := queue }) hcredit now]
        rfl
      · exact ⟨hs.clock hclosed hsetup, .inr ⟨_, _, rfl⟩⟩

lemma keeps_onClientEvent (now : Instant) (event : RfcommClientEvent) :
    (onClientEvent now s event).1.client.pendingEvents = s.client.pendingEvents ∧
      (s.closed = true → (onClientEvent now s event).1.closed = true) := by
  cases event with
  | opened =>
      have hnext := keeps_nextCommandFrame (s := { s with
        pendingCommands :=
          HfpHandsFreeState.initialServiceLevelCommands s.wbsSupported s.hfpState.callWaitingEnabled }) now
      exact ⟨hnext.events, fun hclosed => hnext.closed.trans hclosed⟩
  | payload payload =>
      have hpayload := keeps_handleAgPayload (s := s) now payload
      exact ⟨hpayload.events, fun hclosed => hpayload.closed.trans hclosed⟩
  | closed =>
      simp only [onClientEvent, pushEvents]
      split_ifs <;> exact ⟨rfl, fun _ => rfl⟩
  | failed reason => exact ⟨rfl, fun _ => rfl⟩

lemma progress_pump_closed (hevents : s.client.pendingEvents = []) (hclosed : s.closed = true) (now : Instant) :
    (s.pumpHeldCommand now).1.Progress := by
  have hkeeps := keeps_pumpHeldCommand (s := s) now
  exact .closed (hkeeps.events.trans hevents) (hkeeps.closed.trans hclosed)

lemma handlePacket_of_nothing (now : Instant) {packet : Bytes} {client : RfcommClientState} {out : List Bytes}
    (hclient : s.client.handlePacket packet = (client, .ok out)) (hevents : client.pendingEvents = []) :
    (s.handlePacket now packet).1 = ((s.received client).pumpHeldCommand now).1 := by
  have htry : tryFor (onClientEvent now) (s.received client) client.pendingEvents = (s.received client, .ok []) := by
    rw [hevents]
    rfl
  exact handlePacket_of_ok hclient htry

lemma handlePacket_of_event (now : Instant) {packet : Bytes} {client : RfcommClientState} {out : List Bytes}
    (hclient : s.client.handlePacket packet = (client, .ok out)) {event : RfcommClientEvent}
    (hevents : client.pendingEvents = [event]) :
    (∃ t replies, onClientEvent now (s.received client) event = (t, .ok replies) ∧
      (s.handlePacket now packet).1 = (t.pumpHeldCommand now).1) ∨
    (∃ t message, onClientEvent now (s.received client) event = (t, .error message) ∧
      (s.handlePacket now packet).1 = t) := by
  rcases hevent : onClientEvent now (s.received client) event with ⟨t, message | replies⟩
  · exact .inr ⟨t, message, rfl, handlePacket_of_error hclient (by rw [hevents, tryFor_singleton, hevent])⟩
  · exact .inl ⟨t, replies, rfl, handlePacket_of_ok hclient (by rw [hevents, tryFor_singleton, hevent])⟩

lemma progress_of_closing {now : Instant} {packet : Bytes} {client : RfcommClientState} {out : List Bytes}
    (hclient : s.client.handlePacket packet = (client, .ok out)) {event : RfcommClientEvent}
    (hevents : client.pendingEvents = [event])
      (hcloses : (onClientEvent now (s.received client) event).1.closed = true) :
    (s.handlePacket now packet).1.Progress := by
  have hquiet := (keeps_onClientEvent (s := s.received client) now event).1
  obtain ⟨t, replies, ht, hpacket⟩ | ⟨t, message, ht, hpacket⟩ := handlePacket_of_event now hclient hevents
  · rw [ht] at hquiet hcloses
    rw [hpacket]
    exact progress_pump_closed hquiet hcloses now
  · rw [ht] at hquiet hcloses
    rw [hpacket]
    exact .closed hquiet hcloses

lemma progress_handlePacket_closed (hs : s.Progress) (hclosed : s.closed = true) (now : Instant) (packet : Bytes) :
    (s.handlePacket now packet).1.Progress := by
  rcases hclient : s.client.handlePacket packet with ⟨client, message | out⟩
  · obtain rfl : client = s.client := (RfcommClientState.delivers_handlePacket hs.noEvents packet hclient).2 rfl
    simp only [handlePacket, hclient]
    exact hs
  · have hone : ∀ event, client.pendingEvents = [event] → (s.handlePacket now packet).1.Progress := fun event hevents =>
      progress_of_closing hclient hevents ((keeps_onClientEvent now event).2 hclosed)
    obtain hevents | hevents | ⟨_, hevents⟩ | hevents | ⟨_, hevents⟩ :=
      (RfcommClientState.delivers_handlePacket hs.noEvents packet hclient).1
    · rw [handlePacket_of_nothing now hclient hevents]
      exact progress_pump_closed (s := s.received client) rfl hclosed now
    · exact hone _ hevents
    · exact hone _ hevents
    · exact hone _ hevents
    · exact hone _ hevents

lemma progress_nothing (hs : s.Progress) (hclosed : s.closed = false) (now : Instant) {client : RfcommClientState}
    (hopen : client.isOpen = true → s.client.isOpen = true) : ((s.received client).pumpHeldCommand now).1.Progress := by
  cases hstill : client.isOpen with
  | true =>
      obtain ⟨t, frames, hpump, hprogress⟩ := (hs.pumping_received hclosed (hopen hstill) hstill).pumpHeldCommand now
      rw [hpump]
      exact hprogress
  | false =>
      have hnot : (s.received client).isOpen = false := by
        change (client.isOpen && !s.closed) = false
        rw [hstill, Bool.false_and]
      rw [pumpHeldCommand, hnot]
      exact ⟨rfl, hs.clock, fun hyes => absurd (hnot.symm.trans hyes) (by decide)⟩

lemma progress_payload (hs : s.Progress) (hclosed : s.closed = false) {now : Instant} {packet : Bytes}
    (hcredit : s.PacketCredited now packet) {client : RfcommClientState} {out : List Bytes}
    (hclient : s.client.handlePacket packet = (client, .ok out)) {payload : Bytes}
    (hevents : client.pendingEvents = [.payload payload]) (hwas : s.client.isOpen = true)
      (hopen : client.isOpen = true) :
    (s.handlePacket now packet).1.Progress := by
  have hpumping := hs.pumping_received hclosed hwas hopen
  have hparsed : (s.received client).ParsedCredited now (parseAgResultsBuffered s.lineCarry payload) := by
    simp only [PacketCredited, hclient, hevents, List.forall_mem_singleton] at hcredit
    exact hcredit
  cases hparse : parseAgResultsBuffered s.lineCarry payload with
  | error message =>
      rw [hparse] at hparsed
      have htry : tryFor (onClientEvent now) (s.received client) client.pendingEvents =
          (s.received client, .error message) := by
        rw [hevents, tryFor_singleton]
        simp only [onClientEvent, handleAgPayload, hparse]
      rw [handlePacket_of_error hclient htry]
      refine ⟨rfl, hs.clock, fun _ hsetup => ?_⟩
      obtain hcommand | hpending := (hpumping.waiting hsetup).2
      · exact .inl hcommand
      · cases hnone : s.inFlightCommand with
        | none => exact .inr ⟨hparsed hsetup hnone, hpending⟩
        | some command => exact .inl rfl
  | ok parsed =>
      obtain ⟨carry, results⟩ := parsed
      rw [hparse] at hparsed
      have hcarry : Pumping { s.received client with lineCarry := carry } := ⟨hpumping.linked, hpumping.waiting⟩
      obtain ⟨t, replies, htry, ht⟩ :=
          tryFor_ok (P := Pumping) (fun s result hanswer hs => handleAgResult_pumping hs now hanswer)
        hparsed hcarry
      obtain ⟨u, frames, hpump, hprogress⟩ := ht.pumpHeldCommand now
      have htry' : tryFor (onClientEvent now) (s.received client) client.pendingEvents = (t, .ok replies) := by
        rw [hevents, tryFor_singleton]
        simp only [onClientEvent, handleAgPayload, hparse]
        exact htry
      rw [handlePacket_of_ok hclient htry', hpump]
      exact hprogress

/-- One packet, if its answers come with credits. -/
theorem progress_handlePacket (hs : s.Progress) (now : Instant) (packet : Bytes)
    (hcredit : s.PacketCredited now packet) :
    (s.handlePacket now packet).1.Progress := by
  cases hclosed : s.closed with
  | true => exact progress_handlePacket_closed hs hclosed now packet
  | false =>
      rcases hclient : s.client.handlePacket packet with ⟨client, message | out⟩
      · obtain rfl : client = s.client := (RfcommClientState.delivers_handlePacket hs.noEvents packet hclient).2 rfl
        simp only [handlePacket, hclient]
        exact hs
      · have hdelivers := (RfcommClientState.delivers_handlePacket hs.noEvents packet hclient).1
        cases hdelivers with
        | nothing hevents hopen =>
            rw [handlePacket_of_nothing now hclient hevents]
            exact progress_nothing hs hclosed now hopen
        | opened hevents hopen =>
            obtain ⟨t, replies, ht, hpumping⟩ := hs.pumping_opened hclosed now hopen
            have htry : tryFor (onClientEvent now) (s.received client) client.pendingEvents = (t, .ok replies) := by
              rw [hevents, tryFor_singleton, ht]
            obtain ⟨u, frames, hpump, hprogress⟩ := hpumping.pumpHeldCommand now
            rw [handlePacket_of_ok hclient htry, hpump]
            exact hprogress
        | payload payload hevents hwas hopen => exact progress_payload hs hclosed hcredit hclient hevents hwas hopen
        | closed hevents =>
            refine progress_of_closing hclient hevents ?_
            simp only [onClientEvent, pushEvents]
            split_ifs <;> rfl
        | failed reason hevents => exact progress_of_closing hclient hevents rfl

lemma Progress.callControl (hs : s.Progress) (now : Instant) (command : HfpAtCommand) :
    (s.buildCallControlCommand now command).1.Progress := by
  cases hopen : s.isOpen with
  | false =>
      rw [buildCallControlCommand, hopen]
      exact hs
  | true =>
      obtain ⟨hclient, -⟩ := Bool.and_eq_true_iff.mp hopen
      obtain ⟨t, frame, hbuild, hlinked, hready, hfailed, hpending, hcommand, hsent, hcredits⟩ :=
        buildAtFrame_ok ⟨hclient, hs.noEvents⟩ now command
      have hkeeps := keeps_buildAtFrame (s := s) now command
      rw [hbuild] at hkeeps
      have hresult : (s.buildCallControlCommand now command).1 = t := by
        rw [buildCallControlCommand, hopen]
        simp only [hbuild]
        rfl
      rw [hresult]
      refine ⟨hlinked.2, fun hclosed hsetup => ?_, fun _ hsetup => ?_⟩
      · rw [hsent]
        exact hs.clock (hkeeps.closed.symm.trans hclosed) ⟨hready.symm.trans hsetup.1, hfailed.symm.trans hsetup.2⟩
      · rw [hcommand, Held, hpending]
        exact (hs.covered hopen ⟨hready.symm.trans hsetup.1, hfailed.symm.trans hsetup.2⟩).imp_right
          fun hheld => ⟨hcredits hheld.1, hheld.2⟩

lemma Progress.tick (hs : s.Progress) (now : Instant) (timeout : Duration) :
    (s.tickHfpStall now timeout).1.Progress := by
  by_cases hpost : (s.hfpState.serviceLevelReady && s.inFlightSentAt.isNone) = true
  · have hover := not_inSetup_of_ready (Bool.and_eq_true_iff.mp hpost).1
    simp only [tickHfpStall, if_pos hpost]
    split <;> exact .notInSetup hs.noEvents hover
  · simp only [tickHfpStall, if_neg hpost]
    split
    · exact hs
    · split_ifs with hearly hready
      · exact hs
      · exact .notInSetup hs.noEvents (not_inSetup_of_ready hready)
      · exact .notInSetup hs.noEvents fun hsetup => absurd hsetup.2 (by simp [pushEvents])

lemma progress_step (hs : s.Progress) (input : Input) (hcredit : s.Credited input) : (step s input).1.Progress := by
  cases input with
  | packet now packet => exact progress_handlePacket hs now packet hcredit
  | callControl now command => exact hs.callControl now command
  | tick now timeout => exact hs.tick now timeout
  | takeHfpEvents => exact ⟨hs.noEvents, hs.clock, hs.covered⟩
  | attachClientDlci serverChannel =>
      simp only [step, attachClientDlci, RfcommClientState.attachClientDlci]
      split_ifs <;> exact ⟨hs.noEvents, hs.clock, hs.covered⟩
  | takeClientEventsForDlci dlci => exact ⟨hs.noEvents, hs.clock, hs.covered⟩
  | uihOnClientDlci dlci payload =>
      simp only [step, buildUihOnClientDlci, RfcommClientState.buildUihOnClientDlci]
      split
      · exact ⟨hs.noEvents, hs.clock, hs.covered⟩
      · split_ifs <;> exact ⟨hs.noEvents, hs.clock, hs.covered⟩
  | forceDiscSecondaryDlci dlci => exact ⟨hs.noEvents, hs.clock, hs.covered⟩

lemma tickHfpStall_reports {sentAt : Instant} (hsent : s.inFlightSentAt = some sentAt) {now : Instant}
    {timeout : Duration}
    (hlate : timeout ≤ saturatingDurationSince now sentAt) : (s.tickHfpStall now timeout).2 = true := by
  simp [tickHfpStall, hsent, Nat.not_lt.mpr hlate]

section Decidable

instance (s : HfpClientState) : Decidable s.InSetup := inferInstanceAs (Decidable (_ ∧ _))

instance (s : HfpClientState) : Decidable s.NothingLeft := inferInstanceAs (Decidable (_ ∧ _))

instance (s : HfpClientState) (result : HfpAgResult) : Decidable (s.AnsweredWithCredit result) :=
  inferInstanceAs (Decidable (s.InSetup → (_ ∨ _ ∧ ∃ command ∈ s.inFlightCommand, _) → _ ∨ s.NothingLeft))

instance (s : HfpClientState) (now : Instant) : ∀ parsed, Decidable (s.ParsedCredited now parsed)
  | .error _ => inferInstanceAs (Decidable (s.InSetup → _ = none → _ = false))
  | .ok (_, _) => Machine.Along.decidable _ _ _

instance (s : HfpClientState) (now : Instant) : ∀ event, Decidable (s.EventCredited now event)
  | .payload payload => inferInstanceAs (Decidable (s.ParsedCredited now (parseAgResultsBuffered s.lineCarry payload)))
  | .opened | .closed | .failed _ => .isTrue trivial

instance (s : HfpClientState) : ∀ input, Decidable (s.Credited input)
  | .packet now packet => inferInstanceAs (Decidable (∀ event ∈ (s.client.handlePacket packet).1.pendingEvents,
      (s.received (s.client.handlePacket packet).1).EventCredited now event))
  | .callControl _ _ | .tick _ _ | .takeHfpEvents | .attachClientDlci _ | .takeClientEventsForDlci _
  | .uihOnClientDlci _ _ | .forceDiscSecondaryDlci _ => .isTrue trivial

end Decidable

/-- As long as each answer of the phone finds a credit for the next command, a setup that is neither done nor given up
has a command in flight or one held for want of a credit, and its clock runs. -/
theorem setup_never_stuck (serverChannel : UInt8) (wbsSupported callWaitingEnabled : Bool) (start : Instant)
    (inputs : List Input) (hrun : step.Along Credited
      (started serverChannel wbsSupported callWaitingEnabled start) inputs) :
    let s := step.final (started serverChannel wbsSupported callWaitingEnabled start) inputs
    s.isOpen = true → s.hfpState.serviceLevelReady = false → s.slcFailed = false →
      (s.inFlightCommand.isSome = true ∨
        (∃ command ∈ s.pendingCommands, s.hfpState.shouldSkipSlcCommand command = false) ∧
          s.client.canSendData = false) ∧
      ∃ sentAt, s.inFlightSentAt = some sentAt ∧
        ∀ now timeout, timeout ≤ saturatingDurationSince now sentAt → (s.tickHfpStall now timeout).2 = true := by
  intro s hopen hready hfailed
  have hs : s.Progress := Machine.invariant (P := Progress) (fun _ input hcredit hs =>
      progress_step hs input hcredit) hrun
    ⟨rfl, fun _ _ => rfl, nofun⟩
  have hclosed : s.closed = false := by simpa using (Bool.and_eq_true_iff.mp hopen).2
  obtain ⟨sentAt, hsent⟩ := Option.isSome_iff_exists.mp (hs.clock hclosed ⟨hready, hfailed⟩)
  refine ⟨(hs.covered hopen ⟨hready, hfailed⟩).imp_right fun hheld => ?_,
    sentAt, hsent, fun now timeout hlate => tickHfpStall_reports hsent hlate⟩
  obtain ⟨hcredit, callWaiting, rest, hpending⟩ := hheld
  exact ⟨⟨.supportedFeatures callWaiting, hpending ▸ List.mem_cons_self, rfl⟩, hcredit⟩

section Session

def opening (credits : UInt8) : List Input :=
  [.packet 0 (buildUa dlciMultiplexer true),
    .packet 0 (buildUih dlciMultiplexer false none (buildParameterNegotiationResponseCfc 3 7 127 credits)),
    .packet 0 (buildUa 3 true), .packet 0 (buildUih dlciMultiplexer false none (buildModemStatusResponse 3 0x8d)),
    .packet 0 (buildUih dlciMultiplexer false none (buildModemStatusCommand 3 0x8d))]

def agSays (credits : Option UInt8) (text : String) : Input := .packet 0 (buildUih 3 false credits (intoBytes text))

/-- The phone answers all commands of the setup. It has no echo cancelling to turn off. -/
def answers : List Input :=
  [agSays none "+BRSF: 0\r\nOK\r\n", agSays none "+CIND: (\"call\",(0,1)),(\"callsetup\",(0-3))\r\nOK\r\n",
    agSays none "+CIND: 0,0\r\nOK\r\n", agSays none "OK\r\n", agSays none "OK\r\n"]

set_option maxRecDepth 8000 in
/-- With a credit to spare the last command is in flight. -/
theorem setup_never_stuck_last :
    let s := step.final (started 1 false false 0) (opening 7 ++ answers)
    (s.inFlightCommand.isSome = true ∨
        (∃ command ∈ s.pendingCommands, s.hfpState.shouldSkipSlcCommand command = false) ∧
          s.client.canSendData = false) ∧
      ∃ sentAt, s.inFlightSentAt = some sentAt ∧
        ∀ now timeout, timeout ≤ saturatingDurationSince now sentAt → (s.tickHfpStall now timeout).2 = true :=
  setup_never_stuck 1 false false 0 (opening 7 ++ answers) (by decide) (by decide) (by decide)
    (by decide)

set_option maxRecDepth 8000 in
/-- The last answer finds no credit. When one comes, the pump drops the command that the phone does not need, and
nobody declares the setup done. -/
theorem setup_stuck_without_a_credit :
    let s := step.final (started 1 false false 0) (opening 6 ++ answers ++ [agSays none "OK\r\n", agSays (some 1) ""])
    s.client.creditFlow = true ∧ s.isOpen = true ∧ s.hfpState.serviceLevelReady = false ∧ s.slcFailed = false ∧
      s.inFlightCommand = none ∧ s.pendingCommands = [] ∧ s.inFlightSentAt = none := by
  decide

end Session

end HfpClientState

end Aokie.Radio
