import Aokie.Radio.Hfp.CallState
import Aokie.Radio.HfpClient
import Aokie.Radio.Rfcomm.RoundTrip

/-! The AT pump is written twice, once for each side that can open the hands-free connection. From the
moment the channel opens, the two copies say the same. -/

namespace Aokie.Radio

open Aokie.Lib Aokie.Radio.Hfp Aokie.Radio.Rfcomm

/-- The two pumps are in the same state, up to the note of the last hang-up. -/
structure PumpsAgree (s : RfcommState) (c : HfpClientState) : Prop where
  hfpState : ∃ live, c.hfpState = s.hfpState.withLive live
  lineCarry : c.lineCarry = s.hfpLineCarry
  pending : c.pendingCommands = s.hfpPendingCommands
  inFlight : c.inFlightCommand = s.hfpInFlightCommand
  slcFailed : c.slcFailed = s.hfpSlcFailed
  outstanding : c.outstanding = s.hfpOutstanding
  wbsSupported : c.wbsSupported = s.wbsSupported
  serverOpen : s.hfpChannelState = .open
  clientOpen : c.client.phase = .open
  unlimited : c.client.creditFlow = false
  attached : c.closed = false
  quiet : c.client.pendingEvents = []

/-- Nothing waits to be sent unless an answer is awaited. -/
structure Settled (s : RfcommState) : Prop where
  idle : s.hfpInFlightCommand = none → s.hfpPendingCommands = []
  failed : s.hfpSlcFailed = true → s.hfpPendingCommands = []
  ready : s.hfpState.serviceLevelReady = true → s.hfpInFlightCommand = none

/-- Both sides have said the same since `s` and `c`: the same lines, each on its own channel, and the same
events. -/
structure Speaks (s : RfcommState) (c : HfpClientState) (lines : List Bytes) (events : List HfpEvent)
    (r : RfcommState × List Bytes) (r' : HfpClientState × Except String (List Bytes)) : Prop where
  agree : PumpsAgree r.1 r'.1
  serverDlci : r.1.hfpDlci = s.hfpDlci
  clientDlci : r'.1.client.targetDlci = c.client.targetDlci
  serverLines : r.2 = lines.map (buildUih s.hfpDlci true none)
  clientLines : r'.2 = .ok (lines.map (buildUih c.client.targetDlci true none))
  serverEvents : r.1.hfpEvents = s.hfpEvents ++ events
  clientEvents : r'.1.events = c.events ++ events

def InStep (s : RfcommState) (c : HfpClientState) (r : RfcommState × List Bytes)
    (r' : HfpClientState × Except String (List Bytes)) : Prop :=
  ∃ lines events, Speaks s c lines events r r'

variable {s t : RfcommState} {c d : HfpClientState} {now : Instant}

lemma PumpsAgree.serviceLevelReady (h : PumpsAgree s c) :
    c.hfpState.serviceLevelReady = s.hfpState.serviceLevelReady := by
  obtain ⟨live, hstate⟩ := h.hfpState
  rw [hstate]

lemma PumpsAgree.isOpen (h : PumpsAgree s c) : c.isOpen = true := by
  simp [HfpClientState.isOpen, RfcommClientState.isOpen, h.clientOpen, h.attached]

lemma PumpsAgree.canSendData (h : PumpsAgree s c) : c.client.canSendData = true := by
  simp [RfcommClientState.canSendData, h.unlimited]

lemma InStep.silent (events : List HfpEvent) (h : PumpsAgree t d) (hserver : t.hfpDlci = s.hfpDlci)
    (hclient : d.client.targetDlci = c.client.targetDlci) (hevents : t.hfpEvents = s.hfpEvents ++ events)
    (hevents' : d.events = c.events ++ events) : InStep s c (t, []) (d, .ok []) :=
  ⟨[], events, h, hserver, hclient, rfl, rfl, hevents, hevents'⟩

lemma InStep.after {r : RfcommState × List Bytes} {r' : HfpClientState × Except String (List Bytes)}
    (events : List HfpEvent) (h : InStep t d r r') (hserver : t.hfpDlci = s.hfpDlci)
    (hclient : d.client.targetDlci = c.client.targetDlci) (hevents : t.hfpEvents = s.hfpEvents ++ events)
    (hevents' : d.events = c.events ++ events) : InStep s c r r' := by
  obtain ⟨lines, later, hspeaks⟩ := h
  refine ⟨lines, events ++ later, hspeaks.agree, hspeaks.serverDlci.trans hserver,
    hspeaks.clientDlci.trans hclient, hserver ▸ hspeaks.serverLines, hclient ▸ hspeaks.clientLines, ?_, ?_⟩
  · rw [hspeaks.serverEvents, hevents, List.append_assoc]
  · rw [hspeaks.clientEvents, hevents', List.append_assoc]

lemma InStep.from_same {r : RfcommState × List Bytes} {r' : HfpClientState × Except String (List Bytes)}
    (h : InStep t d r r') (hserver : t.hfpDlci = s.hfpDlci)
    (hclient : d.client.targetDlci = c.client.targetDlci) (hevents : t.hfpEvents = s.hfpEvents)
    (hevents' : d.events = c.events) : InStep s c r r' :=
  h.after [] hserver hclient (by simp [hevents]) (by simp [hevents'])

lemma Speaks.andThen {r : RfcommState × List Bytes} {r' : HfpClientState × Except String (List Bytes)}
    {lines lines' : List Bytes} {events events' : List HfpEvent} {out out' : List Bytes}
    (h : Speaks s c lines events (t, out) (d, .ok out')) (h' : Speaks t d lines' events' r r') :
    Speaks s c (lines ++ lines') (events ++ events') (r.1, out ++ r.2) (r'.1, r'.2.map (out' ++ ·)) where
  agree := h'.agree
  serverDlci := h'.serverDlci.trans h.serverDlci
  clientDlci := h'.clientDlci.trans h.clientDlci
  serverLines := by
    have hserver : t.hfpDlci = s.hfpDlci := h.serverDlci
    have hout : out = lines.map (buildUih s.hfpDlci true none) := h.serverLines
    simp [hout, h'.serverLines, hserver]
  clientLines := by
    have hclient : d.client.targetDlci = c.client.targetDlci := h.clientDlci
    have hout : out' = lines.map (buildUih c.client.targetDlci true none) := by simpa using h.clientLines
    simp [hout, h'.clientLines, hclient, Except.map]
  serverEvents := by
    have hevents : t.hfpEvents = s.hfpEvents ++ events := h.serverEvents
    simp [h'.serverEvents, hevents]
  clientEvents := by
    have hevents : d.events = c.events ++ events := h.clientEvents
    simp [h'.clientEvents, hevents]

lemma buildHfpCommandFrame_eq (s : RfcommState) (now : Instant) (command : HfpAtCommand) :
    s.buildHfpCommandFrame now command =
      ({ s with
          hfpState := s.hfpState.markCommandSent command
          hfpOutstanding := if s.hfpState.serviceLevelReady then s.hfpOutstanding.sent command now
            else s.hfpOutstanding },
        buildUih s.hfpDlci true none (buildAtCommand command)) := by
  simp only [RfcommState.buildHfpCommandFrame, HfpHandsFreeState.ready_markCommandSent]
  split_ifs <;> rfl

lemma buildAtFrame_eq (h : PumpsAgree s c) (now : Instant) (command : HfpAtCommand) :
    c.buildAtFrame now command =
      ({ c with
          hfpState := c.hfpState.markCommandSent command
          outstanding := if s.hfpState.serviceLevelReady then c.outstanding.sent command now
            else c.outstanding },
        .ok (buildUih c.client.targetDlci true none (buildAtCommand command))) := by
  have hsend : c.client.buildOutboundUih (buildAtCommand command) =
      (c.client, .ok (buildUih c.client.targetDlci true none (buildAtCommand command))) := by
    simp [RfcommClientState.buildOutboundUih, RfcommClientState.isOpen, h.clientOpen, h.unlimited]
  simp only [HfpClientState.buildAtFrame, HfpHandsFreeState.ready_markCommandSent, h.serviceLevelReady]
  split_ifs <;> simp [hsend]

lemma PumpsAgree.sent (h : PumpsAgree s c) (now : Instant) (command : HfpAtCommand) :
    PumpsAgree (s.buildHfpCommandFrame now command).1 (c.buildAtFrame now command).1 := by
  rw [buildHfpCommandFrame_eq, buildAtFrame_eq h]
  obtain ⟨live, hstate⟩ := h.hfpState
  refine { h with hfpState := ?_, outstanding := ?_ }
  · simp only [hstate]
    exact HfpHandsFreeState.withLive_markCommandSent _ live command
  · simp only [h.outstanding]

lemma PumpsAgree.speaks_command (h : PumpsAgree s c) (now : Instant) (command : HfpAtCommand) :
    InStep s c ((s.buildHfpCommandFrame now command).map id fun frame => [frame])
      ((c.buildAtFrame now command).map id (Except.map fun frame => [frame])) := by
  refine ⟨[buildAtCommand command], [], h.sent now command, ?_, ?_, ?_, ?_, ?_, ?_⟩
  · simp [buildHfpCommandFrame_eq]
  · simp [buildAtFrame_eq h]
  · simp [buildHfpCommandFrame_eq]
  · simp [buildAtFrame_eq h, Except.map]
  · simp [buildHfpCommandFrame_eq]
  · simp [buildAtFrame_eq h]

lemma nextHfpCommandFrame_cons {command : HfpAtCommand} {rest : List HfpAtCommand} (now : Instant)
    (hqueue : s.hfpPendingCommands.dropWhile s.hfpState.shouldSkipSlcCommand = command :: rest) :
    s.nextHfpCommandFrame now =
      ({ s with
          hfpState := s.hfpState.markCommandSent command
          hfpOutstanding := if s.hfpState.serviceLevelReady then s.hfpOutstanding.sent command now
            else s.hfpOutstanding
          hfpPendingCommands := rest, hfpInFlightCommand := some command
          hfpInFlightCommandSentAt := some now },
        some (buildUih s.hfpDlci true none (buildAtCommand command))) := by
  simp only [RfcommState.nextHfpCommandFrame, hqueue, buildHfpCommandFrame_eq]

lemma PumpsAgree.nextCommandFrame_cons {command : HfpAtCommand} {rest : List HfpAtCommand} (h : PumpsAgree s c)
    (now : Instant) (hqueue : c.pendingCommands.dropWhile c.hfpState.shouldSkipSlcCommand = command :: rest) :
    c.nextCommandFrame now =
      ({ c with
          hfpState := c.hfpState.markCommandSent command
          outstanding := if s.hfpState.serviceLevelReady then c.outstanding.sent command now
            else c.outstanding
          pendingCommands := rest, inFlightCommand := some command, inFlightSentAt := some now },
        .ok (some (buildUih c.client.targetDlci true none (buildAtCommand command)))) := by
  have hrest : PumpsAgree { s with hfpPendingCommands := rest } { c with pendingCommands := rest } :=
    { h with pending := rfl }
  simp only [HfpClientState.nextCommandFrame, h.canSendData, hqueue, buildAtFrame_eq hrest, Bool.not_true,
    Bool.false_eq_true, if_false]

abbrev sendable (s : RfcommState) : List HfpAtCommand :=
  s.hfpPendingCommands.dropWhile s.hfpState.shouldSkipSlcCommand

lemma PumpsAgree.sendable_eq (h : PumpsAgree s c) :
    c.pendingCommands.dropWhile c.hfpState.shouldSkipSlcCommand = sendable s := by
  obtain ⟨live, hstate⟩ := h.hfpState
  rw [hstate, HfpHandsFreeState.withLive_shouldSkipSlcCommand, h.pending]

lemma PumpsAgree.next_nil (h : PumpsAgree s c) (now : Instant) (hqueue : sendable s = []) :
    s.nextHfpCommandFrame now = ({ s with hfpPendingCommands := [] }, none) ∧
      c.nextCommandFrame now = ({ c with pendingCommands := [] }, .ok none) := by
  refine ⟨by simp only [RfcommState.nextHfpCommandFrame, hqueue], ?_⟩
  simp only [HfpClientState.nextCommandFrame, h.canSendData, h.sendable_eq, hqueue, Bool.not_true,
    Bool.false_eq_true, if_false]

lemma PumpsAgree.next_cons {command : HfpAtCommand} {rest : List HfpAtCommand} (h : PumpsAgree s c)
    (now : Instant) (hqueue : sendable s = command :: rest) :
    InStep s c ((s.nextHfpCommandFrame now).map id Option.toList)
        ((c.nextCommandFrame now).map id (Except.map Option.toList)) ∧
      ((s.nextHfpCommandFrame now).1.hfpSlcFailed = false → s.hfpState.serviceLevelReady = false →
        Settled (s.nextHfpCommandFrame now).1) := by
  have hqueue' := h.sendable_eq.trans hqueue
  obtain ⟨live, hstate⟩ := h.hfpState
  rw [nextHfpCommandFrame_cons now hqueue, h.nextCommandFrame_cons now hqueue']
  refine ⟨⟨[buildAtCommand command], [], ?_, rfl, rfl, rfl, rfl, ?_, ?_⟩, ?_⟩
  · refine { h with hfpState := ?_, pending := rfl, inFlight := rfl, outstanding := ?_ }
    · simp only [Prod.map_fst, id_eq, hstate]
      exact HfpHandsFreeState.withLive_markCommandSent _ live command
    · simp only [Prod.map_fst, id_eq, h.outstanding]
  · simp
  · simp
  · intro hfailed hready
    refine ⟨nofun, fun hfailed' => absurd (hfailed'.symm.trans hfailed) (by simp), fun hready' => ?_⟩
    have hstill : s.hfpState.serviceLevelReady = true :=
      (HfpHandsFreeState.ready_markCommandSent s.hfpState command).symm.trans hready'
    exact absurd (hstill.symm.trans hready) (by simp)

lemma PumpsAgree.withCallState (h : PumpsAgree s c) {st st' : HfpHandsFreeState}
    (hstate : ∃ live, st' = st.withLive live) : PumpsAgree { s with hfpState := st } { c with hfpState := st' } :=
  { h with hfpState := hstate }

lemma PumpsAgree.markReady (h : PumpsAgree s c) :
    InStep s c (s.markHfpServiceReady, []) (c.markServiceReady, .ok []) := by
  obtain ⟨live, hstate⟩ := h.hfpState
  simp only [RfcommState.markHfpServiceReady, HfpClientState.markServiceReady, hstate,
    HfpHandsFreeState.withLive_markServiceLevelReady]
  exact .silent s.hfpState.markServiceLevelReady.2.toList { h with hfpState := ⟨live, rfl⟩ } rfl rfl rfl rfl

lemma PumpsAgree.retry (h : PumpsAgree s c) (now : Instant) {st st' : HfpHandsFreeState}
    (hstate : ∃ live, st' = st.withLive live) (hst : st.serviceLevelReady = s.hfpState.serviceLevelReady)
    (hready : s.hfpState.serviceLevelReady = false) (hfailed : s.hfpSlcFailed = false) :
    let t := { s with
      hfpState := st, hfpPendingCommands := [.retrieveIndicators, .retrieveIndicatorStatus] }
    let d := { c with hfpState := st', pendingCommands := [.retrieveIndicators, .retrieveIndicatorStatus] }
    InStep s c ((t.nextHfpCommandFrame now).map id Option.toList)
        ((d.nextCommandFrame now).map id (Except.map Option.toList)) ∧
      Settled (t.nextHfpCommandFrame now).1 := by
  intro t d
  have htd : PumpsAgree t d := { h with hfpState := hstate, pending := rfl }
  have hqueue : sendable t = [.retrieveIndicators, .retrieveIndicatorStatus] := rfl
  obtain ⟨hstep, hsettled⟩ := htd.next_cons now hqueue
  refine ⟨hstep.from_same rfl rfl rfl rfl, hsettled ?_ (hst.trans hready)⟩
  rw [nextHfpCommandFrame_cons now hqueue]
  exact hfailed

lemma PumpsAgree.advance (h : PumpsAgree s c) (now : Instant) (hready : s.hfpState.serviceLevelReady = false)
    (hfailed : s.hfpSlcFailed = false) (hidle : s.hfpInFlightCommand = none) :
    InStep s c (s.advanceHfpSlcQueue now) (c.advanceSlcQueue now) ∧ Settled (s.advanceHfpSlcQueue now).1 := by
  cases hqueue : sendable s with
  | cons command rest =>
      obtain ⟨hstep, hsettled⟩ := h.next_cons now hqueue
      have hnext := nextHfpCommandFrame_cons now hqueue
      have hserver : s.advanceHfpSlcQueue now = (s.nextHfpCommandFrame now).map id Option.toList := by
        simp only [RfcommState.advanceHfpSlcQueue, hnext]
        rfl
      have hclient : c.advanceSlcQueue now = (c.nextCommandFrame now).map id (Except.map Option.toList) := by
        simp only [HfpClientState.advanceSlcQueue, h.nextCommandFrame_cons now (h.sendable_eq.trans hqueue)]
        rfl
      rw [hserver, hclient]
      refine ⟨hstep, hsettled ?_ hready⟩
      rw [hnext]
      exact hfailed
  | nil =>
      obtain ⟨hnext, hnext'⟩ := h.next_nil now hqueue
      obtain ⟨live, hstate⟩ := h.hfpState
      have hretry := HfpHandsFreeState.withLive_needsIndicatorDefinitionsRetry s.hfpState live
      simp only [RfcommState.advanceHfpSlcQueue, HfpClientState.advanceSlcQueue, hnext, hnext', hstate, hretry,
        List.isEmpty_nil, if_true, List.nil_append]
      cases hneeds : s.hfpState.needsIndicatorDefinitionsRetry with
      | mk st again =>
          have hst : st.serviceLevelReady = s.hfpState.serviceLevelReady := by
            have hfst : st = s.hfpState.needsIndicatorDefinitionsRetry.1 := by rw [hneeds]
            rw [hfst, HfpHandsFreeState.needsIndicatorDefinitionsRetry]
            split_ifs <;> rfl
          cases again with
          | true => exact h.retry now ⟨live, rfl⟩ hst hready hfailed
          | false =>
              have htd : PumpsAgree { s with hfpState := st, hfpPendingCommands := [] }
                  { c with hfpState := st.withLive live, pendingCommands := [] } :=
                { h with hfpState := ⟨live, rfl⟩, pending := rfl }
              refine ⟨htd.markReady.from_same rfl rfl rfl rfl, ?_⟩
              exact ⟨fun _ => rfl, fun _ => rfl, fun _ => hidle⟩

lemma PumpsAgree.answered (h : PumpsAgree s c) {st st' : HfpHandsFreeState}
    (hstate : ∃ live, st' = st.withLive live) :
    PumpsAgree { s with hfpState := st, hfpInFlightCommand := none, hfpInFlightCommandSentAt := none }
      { c with hfpState := st', inFlightCommand := none, inFlightSentAt := none } :=
  { h with hfpState := hstate, inFlight := rfl }

lemma PumpsAgree.goOn (h : PumpsAgree s c) (hsettled : Settled s) (now : Instant)
    (hready : s.hfpState.serviceLevelReady = false) {st st' : HfpHandsFreeState}
    (hstate : ∃ live, st' = st.withLive live) (hst : st.serviceLevelReady = s.hfpState.serviceLevelReady) :
    let t := { s with hfpState := st, hfpInFlightCommand := none, hfpInFlightCommandSentAt := none }
    let d := { c with hfpState := st', inFlightCommand := none, inFlightSentAt := none }
    let r := if t.hfpSlcFailed then (t, []) else t.advanceHfpSlcQueue now
    InStep s c r (if d.slcFailed then (d, .ok []) else d.advanceSlcQueue now) ∧ Settled r.1 := by
  intro t d r
  have htd : PumpsAgree t d := h.answered hstate
  have hfailed : d.slcFailed = t.hfpSlcFailed := htd.slcFailed
  simp only [r, hfailed]
  split_ifs with hslc
  · refine ⟨.silent [] htd rfl rfl (by simp [t]) (by simp [d]), ?_⟩
    exact ⟨fun _ => hsettled.failed hslc, fun _ => hsettled.failed hslc, fun _ => rfl⟩
  · obtain ⟨hstep, hsettled'⟩ := htd.advance now (hst.trans hready) (by simpa using hslc) rfl
    exact ⟨hstep.from_same rfl rfl rfl rfl, hsettled'⟩

lemma PumpsAgree.accept (h : PumpsAgree s c) (hsettled : Settled s) (now : Instant)
    (hready : s.hfpState.serviceLevelReady = false) :
    InStep s c (s.acceptCommand now) (c.acceptCommand now) ∧ Settled (s.acceptCommand now).1 := by
  obtain ⟨live, hstate⟩ := h.hfpState
  by_cases hccwa : s.hfpInFlightCommand = some .enableCallWaitingNotifications
  · have hccwa' : c.inFlightCommand = some .enableCallWaitingNotifications := h.inFlight.trans hccwa
    simp only [RfcommState.acceptCommand, HfpClientState.acceptCommand, hccwa, hccwa', if_true]
    refine h.goOn hsettled now hready ⟨live, ?_⟩ rfl
    rw [hstate]
    rfl
  · have hccwa' : c.inFlightCommand ≠ some .enableCallWaitingNotifications := h.inFlight.symm ▸ hccwa
    simp only [RfcommState.acceptCommand, HfpClientState.acceptCommand, hccwa, hccwa', if_false]
    exact h.goOn hsettled now hready ⟨live, hstate⟩ rfl

lemma PumpsAgree.giveUp (h : PumpsAgree s c) (reason : String) {st st' : HfpHandsFreeState}
    (hstate : ∃ live, st' = st.withLive live) :
    let t := { s with
      hfpState := st, hfpInFlightCommand := none, hfpInFlightCommandSentAt := none
      hfpPendingCommands := [], hfpSlcFailed := true }
    let d := { c with
      hfpState := st', inFlightCommand := none, inFlightSentAt := none, pendingCommands := []
      slcFailed := true }
    InStep s c (t.pushHfpEvents [.serviceLevelConnectionFailed reason], [])
        (d.pushEvents [.serviceLevelConnectionFailed reason], .ok []) ∧
      Settled (t.pushHfpEvents [.serviceLevelConnectionFailed reason]) := by
  intro t d
  refine ⟨.silent _ ?_ rfl rfl rfl rfl, ⟨fun _ => rfl, fun _ => rfl, fun _ => rfl⟩⟩
  exact { h with hfpState := hstate, pending := rfl, inFlight := rfl, slcFailed := rfl }

lemma PumpsAgree.failSlc (h : PumpsAgree s c) (hsettled : Settled s) (now : Instant)
    (hready : s.hfpState.serviceLevelReady = false) :
    InStep s c (s.failSlcCommand now) (c.failSlcCommand now) ∧ Settled (s.failSlcCommand now).1 := by
  obtain ⟨live, hstate⟩ := h.hfpState
  have hready' : c.hfpState.serviceLevelReady = false := h.serviceLevelReady.trans hready
  cases hflight : s.hfpInFlightCommand with
  | none =>
      have hflight' : c.inFlightCommand = none := h.inFlight.trans hflight
      simp only [RfcommState.failSlcCommand, HfpClientState.failSlcCommand, hflight, hflight', hready, hready',
        Bool.false_eq_true, if_false]
      exact h.giveUp _ ⟨live, hstate⟩
  | some command =>
      have hflight' : c.inFlightCommand = some command := h.inFlight.trans hflight
      have hprobe := HfpHandsFreeState.ready_noteSlcProbeError s.hfpState command
      have hprobe' := HfpHandsFreeState.withLive_noteSlcProbeError s.hfpState live command
      rw [← hstate] at hprobe'
      simp only [RfcommState.failSlcCommand, HfpClientState.failSlcCommand, hflight, hflight', hprobe',
        Prod.map_fst, Prod.map_snd, id_eq, hprobe, hready, Bool.false_eq_true, if_false]
      cases hoptional : (s.hfpState.noteSlcProbeError command).2 with
      | true => exact h.goOn hsettled now hready ⟨live, rfl⟩ hprobe
      | false => exact h.giveUp _ ⟨live, rfl⟩

def refusedCommand (s : RfcommState) : String :=
  match s.hfpInFlightCommand with
  | some command => atCommandName command
  | none => s.hfpOutstanding.answered.2.getD "unsolicited"

/-- The refusal of a command changes nothing but the report: it lifts no refused setup, and neither a hang-up
nor an answer is sent once more. -/
abbrev RefusalInert (st : HfpHandsFreeState) (command : String) : Prop :=
  (command = "AT+CHUP" → st.setupRefused = false ∧
    ¬(st.callActive = true ∧ st.hangupRetried = false ∧ st.hangupSentLive = some st.callChanges)) ∧
  (command = "ATA" →
    ¬(st.incomingCall = true ∧ st.callActive = false ∧ st.setupRefused = false ∧ st.answerRetried = false))

lemma afterRefusal_of_inert {st : HfpHandsFreeState} {command : String} (h : RefusalInert st command) :
    ∃ live, st.afterRefusal command = (st.withLive live, none) := by
  simp only [HfpHandsFreeState.afterRefusal]
  split_ifs with hchup hagain hata hagain
  · exact absurd (by simpa [and_assoc] using hagain) (h.1 hchup).2
  · refine ⟨none, ?_⟩
    have hrefused : false = st.setupRefused := (h.1 hchup).1.symm
    simp only [hrefused]
  · exact absurd (by simpa [and_assoc] using hagain) (h.2 hata)
  · exact ⟨st.hangupSentLive, rfl⟩
  · exact ⟨st.hangupSentLive, rfl⟩

lemma PumpsAgree.refuse (h : PumpsAgree s c) (hsettled : Settled s) (now : Instant)
    (hready : s.hfpState.serviceLevelReady = true) (hinert : RefusalInert s.hfpState (refusedCommand s)) :
    InStep s c (s.refuseCommand now) (c.refuseCommand, .ok []) ∧ Settled (s.refuseCommand now).1 := by
  obtain ⟨live, hstate⟩ := h.hfpState
  have hflight : s.hfpInFlightCommand = none := hsettled.ready hready
  have hflight' : c.inFlightCommand = none := h.inFlight.trans hflight
  simp only [refusedCommand, hflight] at hinert
  obtain ⟨live', hrefusal⟩ := afterRefusal_of_inert hinert
  simp only [RfcommState.refuseCommand, HfpClientState.refuseCommand, hflight, hflight', hrefusal, h.outstanding]
  refine ⟨.silent _ ?_ rfl rfl rfl rfl, ⟨fun _ => hsettled.idle hflight, hsettled.failed, fun _ => rfl⟩⟩
  exact { h with hfpState := ⟨live, hstate⟩, outstanding := rfl, inFlight := rfl }

lemma PumpsAgree.codec (h : PumpsAgree s c) (hsettled : Settled s) (now : Instant) (codec : UInt8) :
    InStep s c (s.answerCodec now codec) (c.answerCodec now codec) ∧ Settled (s.answerCodec now codec).1 := by
  obtain ⟨live, hstate⟩ := h.hfpState
  have hoffered : c.hfpState.codecOffered codec = s.hfpState.codecOffered codec := by
    rw [hstate]
    rfl
  simp only [RfcommState.answerCodec, HfpClientState.answerCodec, hoffered, h.wbsSupported]
  refine ⟨h.speaks_command now _, ?_⟩
  simp only [buildHfpCommandFrame_eq, Prod.map_fst, id_eq]
  exact ⟨hsettled.idle, hsettled.failed, fun hready => hsettled.ready (by
    simpa [HfpHandsFreeState.ready_markCommandSent] using hready)⟩

/-- No result of the phone makes one side send a command again that the other does not. -/
abbrev ResultInert (s : RfcommState) (result : HfpAgResult) : Prop :=
  result = .error → s.hfpState.serviceLevelReady = true → RefusalInert s.hfpState (refusedCommand s)

theorem PumpsAgree.handleResult (h : PumpsAgree s c) (hsettled : Settled s) (now : Instant)
    (result : HfpAgResult) (hinert : ResultInert s result) :
    InStep s c (s.handleHfpResult now result) (c.handleAgResult now result) ∧
      Settled (s.handleHfpResult now result).1 := by
  obtain ⟨live, hstate⟩ := h.hfpState
  have happly := HfpHandsFreeState.withLive_applyResult s.hfpState live result
  have hkept := HfpHandsFreeState.ready_applyResult s.hfpState result
  rw [← hstate] at happly
  -- Both call states read the result first; only then do the arms of the two pumps differ.
  let t := { s with
    hfpState := (s.hfpState.applyResult result).1, hfpEvents := s.hfpEvents ++ (s.hfpState.applyResult result).2 }
  let d := { c with
    hfpState := (c.hfpState.applyResult result).1, events := c.events ++ (c.hfpState.applyResult result).2 }
  have htd : PumpsAgree t d := { h with hfpState := ⟨live, by simp [t, d, happly]⟩ }
  have ht : Settled t := ⟨hsettled.idle, hsettled.failed, fun hready => hsettled.ready (hkept.symm.trans hready)⟩
  have hread : ∀ {r r'}, InStep t d r r' → InStep s c r r' := fun hstep =>
    hstep.after (s.hfpState.applyResult result).2 rfl rfl rfl (by simp [d, happly])
  have hsilent : InStep t d (t, []) (d, .ok []) := .silent [] htd rfl rfl (by simp) (by simp)
  have hready := htd.serviceLevelReady
  cases result with
  | ok =>
      change InStep s c (if t.hfpInFlightCommand.isNone && t.hfpState.serviceLevelReady then
          ({ t with hfpOutstanding := t.hfpOutstanding.answered.1 }, []) else t.acceptCommand now)
        (if d.inFlightCommand.isNone && d.hfpState.serviceLevelReady then
          ({ d with outstanding := d.outstanding.answered.1 }, .ok []) else d.acceptCommand now) ∧
        Settled (if t.hfpInFlightCommand.isNone && t.hfpState.serviceLevelReady then
          ({ t with hfpOutstanding := t.hfpOutstanding.answered.1 }, []) else t.acceptCommand now).1
      rw [htd.inFlight, hready]
      split_ifs with hanswered
      · refine ⟨hread (.silent [] ?_ rfl rfl (by simp) (by simp)), ⟨ht.idle, ht.failed, ht.ready⟩⟩
        exact { htd with inFlight := rfl, outstanding := by simp [htd.outstanding] }
      · -- A ready session has nothing in flight, so this OK belongs to the set-up.
        have hsetup : t.hfpState.serviceLevelReady = false := by
          by_contra hup
          have hup' : t.hfpState.serviceLevelReady = true := by simpa using hup
          exact hanswered (by simp [ht.ready hup', hup'])
        exact (htd.accept ht now hsetup).imp_left hread
  | error =>
      have hsame : t.hfpState = s.hfpState := by simp [t, HfpHandsFreeState.applyResult_error]
      change InStep s c (if t.hfpState.serviceLevelReady then t.refuseCommand now else t.failSlcCommand now)
          (if d.hfpState.serviceLevelReady then (d.refuseCommand, .ok []) else d.failSlcCommand now) ∧
        Settled (if t.hfpState.serviceLevelReady then t.refuseCommand now else t.failSlcCommand now).1
      rw [hready]
      split_ifs with hup
      · have hinert' : RefusalInert t.hfpState (refusedCommand t) := by
          rw [hsame] at hup ⊢
          exact hinert rfl hup
        exact (htd.refuse ht now hup hinert').imp_left hread
      · exact (htd.failSlc ht now (by simpa using hup)).imp_left hread
  | selectedCodec codec => exact (htd.codec ht now codec).imp_left hread
  | _ => exact ⟨hread hsilent, ht⟩

def resultPump (now : Instant) : Machine RfcommState HfpAgResult (List Bytes) :=
  fun s result => s.handleHfpResult now result

theorem PumpsAgree.handleResults (now : Instant) {results : List HfpAgResult} (h : PumpsAgree s c)
    (hsettled : Settled s) (hinert : (resultPump now).Along ResultInert s results) :
    InStep s c (s.handleHfpResults now results) (tryFor (HfpClientState.handleAgResult now) c results) ∧
      Settled (s.handleHfpResults now results).1 := by
  induction results generalizing s c with
  | nil => exact ⟨.silent [] h rfl rfl (by simp) (by simp), hsettled⟩
  | cons result results ih =>
      obtain ⟨⟨lines, events, hspeaks⟩, hsettled'⟩ := h.handleResult hsettled now result hinert.1
      obtain ⟨⟨lines', events', hspeaks'⟩, hsettled''⟩ := ih hspeaks.agree hsettled' hinert.2
      refine ⟨⟨lines ++ lines', events ++ events', ?_⟩, hsettled''⟩
      cases hclient : c.handleAgResult now result with
      | mk d out =>
          rw [hclient] at hspeaks hspeaks'
          have hout : out = .ok (lines.map (buildUih c.client.targetDlci true none)) := hspeaks.clientLines
          subst hout
          simp only [RfcommState.handleHfpResults, tryFor, hclient]
          exact hspeaks.andThen hspeaks'

end Aokie.Radio
