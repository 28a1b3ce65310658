import Aokie.Radio.Rfcomm.ClientEvents

/-! When the peer closes an outbound channel or the multiplexer under it: which channels stop sending and
have their failure reported. -/

namespace Aokie.Radio.Rfcomm

open Aokie.Lib

/-- The events queued for `d` since its last attach. -/
def queueLog (d : UInt8) (log : List ClientDlciEvent) (v w : DlciView) : DlciOutcome → List ClientDlciEvent
  | .attached e => if e = d then [] else log
  | .silent => log ++ eventsFor d (w.events.drop v.events.length)
  | .drained _ _ | .drainedAll _ => log

def Told (d : UInt8) (log : List ClientDlciEvent) : Prop := ∃ reason, .failed d reason ∈ log

/-- A channel is in a failed phase exactly if its failure has been queued since its attach. -/
def LogInv (d : UInt8) (v : DlciView) (log : List ClientDlciEvent) : Prop :=
  ∀ phase, v.phase d = some phase → (phase.IsFailed ↔ Told d log)

def Dead (d : UInt8) (v : DlciView) : Prop := ∀ phase, v.phase d = some phase → phase.IsFailed

variable {keeps : Bool} {d : UInt8} {cause : UInt8 → DlciCause} {v w : DlciView} {out : DlciOutcome}
  {log : List ClientDlciEvent}

lemma told_append {new : List ClientDlciEvent} : Told d (log ++ new) ↔ Told d log ∨ Told d new := by
  simp [Told, exists_or]

lemma SlotStep.logInv {cause : DlciCause} {phase phase' : Option ClientDlciPhase} {new : List ClientDlciEvent}
    (hstep : SlotStep keeps d cause phase new phase')
    (hinv : ∀ p, phase = some p → (p.IsFailed ↔ Told d log)) :
    ∀ p, phase' = some p → (p.IsFailed ↔ Told d (log ++ new)) := by
  have hwaiting : ∀ {p}, phase = some p → ¬ p.IsFailed → ∀ {new}, ¬ Told d new → ¬ Told d (log ++ new) := by
    intro p hp hlive new hnew htold
    rcases told_append.mp htold with hold | hold
    · exact hlive ((hinv p hp).mpr hold)
    · exact hnew hold
  cases hstep with
  | same cause => simpa using hinv
  | negotiated cause | accepted cause | opened cause =>
      rintro p ⟨⟩
      refine iff_of_false (by simp [ClientDlciPhase.IsFailed]) (hwaiting rfl ?_ ?_)
      · simp [ClientDlciPhase.IsFailed]
      · simp [Told]
  | payload phase bytes =>
      intro p hp
      have hnone : ¬ Told d [ClientDlciEvent.payload d bytes] := by simp [Told]
      rw [hinv p hp, told_append, or_iff_left hnone]
  | failed phase reason =>
      intro p hp
      cases keeps with
      | false => simp at hp
      | true =>
          obtain rfl : ClientDlciPhase.failed reason = p := by simpa using hp
          exact iff_of_true ⟨reason, rfl⟩ ⟨reason, by simp⟩

lemma LogInv.viewStep (hinv : LogInv d v log) (hstep : ViewStep keeps cause v out w) :
    LogInv d w (queueLog d log v w out) := by
  cases hstep with
  | moved w hmoves =>
      obtain ⟨new, hnew, hslot⟩ := hmoves d
      simpa [LogInv, queueLog, hnew] using hslot.logInv hinv
  | attached e hfree =>
      by_cases he : e = d
      · subst he
        simp [LogInv, queueLog, ClientDlciPhase.IsFailed, Told]
      · simpa [LogInv, queueLog, he, Function.update_of_ne (Ne.symm he)] using hinv
  | forgotten e =>
      by_cases he : e = d
      · subst he
        simp [LogInv]
      · simpa [LogInv, queueLog, Function.update_of_ne (Ne.symm he)] using hinv
  | drained e => exact hinv
  | drainedAll => exact hinv

lemma SlotStep.dead {cause : DlciCause} {phase phase' : Option ClientDlciPhase} {new : List ClientDlciEvent}
    (hstep : SlotStep keeps d cause phase new phase') (hdead : ∀ p, phase = some p → p.IsFailed) :
    ∀ p, phase' = some p → p.IsFailed := by
  cases hstep with
  | same cause => exact hdead
  | negotiated cause | accepted cause | opened cause =>
      exact absurd (hdead _ rfl) (by simp [ClientDlciPhase.IsFailed])
  | payload phase bytes => exact hdead
  | failed phase reason =>
      intro p hp
      cases keeps with
      | false => simp at hp
      | true => exact ⟨reason, by simpa using hp.symm⟩

lemma Dead.viewStep (hdead : Dead d v) (hstep : ViewStep keeps cause v out w) (hout : out ≠ .attached d) :
    Dead d w := by
  cases hstep with
  | moved w hmoves =>
      obtain ⟨new, -, hslot⟩ := hmoves d
      exact hslot.dead hdead
  | attached e hfree =>
      have he : d ≠ e := fun he => hout (by rw [he])
      simpa [Dead, Function.update_of_ne he] using hdead
  | forgotten e =>
      by_cases he : d = e
      · subst he
        simp [Dead]
      · simpa [Dead, Function.update_of_ne he] using hdead
  | drained e => exact hdead
  | drainedAll => exact hdead

namespace RfcommState

def queueMachine (d : UInt8) : Machine (RfcommState × List ClientDlciEvent) RfcommOp DlciOutcome :=
  fun (s, log) op => (((s.step op).1, queueLog d log s.view (s.step op).1.view (s.step op).2), (s.step op).2)

/-- The failure of `d` has been queued, and nothing can be sent on it until it is attached again. -/
def Closed (d : UInt8) (r : RfcommState × List ClientDlciEvent) : Prop :=
  Told d r.2 ∧ ∀ ops, (∀ out ∈ Machine.outputs step r.1 ops, out ≠ .attached d) →
    ∀ payload, ∃ message, (Machine.final step r.1 ops).buildUihOnClientDlci d payload = .error message

variable {s : RfcommState} {r : RfcommState × List ClientDlciEvent}

lemma buildUihOnClientDlci_of_dead (hdead : Dead d s.view) (payload : Bytes) :
    ∃ message, s.buildUihOnClientDlci d payload = .error message := by
  simp only [buildUihOnClientDlci]
  cases hclient : s.clientDlcis[d]? with
  | none => exact ⟨_, rfl⟩
  | some client =>
      obtain ⟨reason, hfailed⟩ := hdead client.phase (view_phase_of_getElem? hclient)
      simp [hfailed]

lemma dead_final (hdead : Dead d s.view) {ops : List RfcommOp}
    (hout : ∀ out ∈ Machine.outputs step s ops, out ≠ .attached d) :
    Dead d (Machine.final step s ops).view := by
  induction ops generalizing s with
  | nil => exact hdead
  | cons op ops ih =>
      have hnext := hdead.viewStep (viewStep s op) (hout _ (by simp))
      exact ih hnext fun out hmem => hout out (List.mem_cons_of_mem _ hmem)

lemma closed_of_dead (hdead : Dead d r.1.view) (htold : Told d r.2) : Closed d r :=
  ⟨htold, fun _ hout payload => buildUihOnClientDlci_of_dead (dead_final hdead hout) payload⟩

lemma closed_iff_isFailed {phase : ClientDlciPhase} (hinv : LogInv d r.1.view r.2)
    (hphase : r.1.view.phase d = some phase) : Closed d r ↔ phase.IsFailed := by
  refine ⟨fun hclosed => (hinv phase hphase).mpr hclosed.1, fun hfailed => ?_⟩
  refine closed_of_dead ?_ ((hinv phase hphase).mp hfailed)
  intro phase' hphase'
  obtain rfl : phase = phase' := by simpa [hphase] using hphase'
  exact hfailed

lemma logInv_final (ops : List RfcommOp) :
    LogInv d ((queueMachine d).final (new, []) ops).1.view ((queueMachine d).final (new, []) ops).2 := by
  refine (queueMachine d).always (P := fun r => LogInv d r.1.view r.2) ?_ ?_ ops
  · intro r op hinv
    exact hinv.viewStep (viewStep r.1 op)
  · simp [LogInv, view, new]

lemma view_phase_of_closing {frame : RfcommFrame} {client : ClientDlci} (now : Instant)
    (hkind : frame.kind = .disc ∨ frame.kind = .dm) (hclient : s.clientDlcis[d]? = some client) :
    ∃ phase, (s.handleFrame now frame).1.view.phase d = some phase ∧
      (phase.IsFailed ↔ frame.kind = .dm ∧ frame.dlci = d ∨ client.phase.IsFailed) := by
  have hphase := view_phase_of_getElem? hclient
  rcases hkind with hkind | hkind
  · refine ⟨client.phase, ?_, by simp [hkind]⟩
    simp [handleFrame, hkind, view_handleDisc, hphase]
  · simp only [handleFrame, hkind]
    split_ifs with htracked
    · rw [view_failClientDlci htracked]
      by_cases hd : frame.dlci = d
      · exact ⟨_, by simp [hd]; rfl, by simp [hd, ClientDlciPhase.IsFailed]⟩
      · exact ⟨client.phase, by simp [Function.update_of_ne (Ne.symm hd), hphase], by simp [hd]⟩
    · have hd : frame.dlci ≠ d := by
        rintro rfl
        exact htracked (Std.ExtTreeMap.mem_iff_isSome_getElem?.mpr (by simp [hclient]))
      exact ⟨client.phase, hphase, by simp [hd]⟩

lemma closed_iff {frame : RfcommFrame} {packet : Bytes} {client : ClientDlci} (now : Instant)
    (hinv : LogInv d r.1.view r.2) (hparse : parseFrame packet = .ok frame)
    (hkind : frame.kind = .disc ∨ frame.kind = .dm) (hclient : r.1.clientDlcis[d]? = some client) :
    Closed d (queueMachine d r (.packet now packet)).1 ↔
      frame.kind = .dm ∧ frame.dlci = d ∨ client.phase.IsFailed := by
  obtain ⟨phase, hphase, hfailed⟩ := view_phase_of_closing now hkind hclient
  have hnext := hinv.viewStep (viewStep r.1 (.packet now packet))
  have hphase' : (r.1.step (.packet now packet)).1.view.phase d = some phase := by
    simpa [step, handlePacket, hparse] using hphase
  rw [← hfailed]
  exact closed_iff_isFailed hnext hphase'

end RfcommState

namespace RfcommClientState

def queueMachine (d : UInt8) : Machine (RfcommClientState × List ClientDlciEvent) RfcommClientOp DlciOutcome :=
  fun (s, log) op => (((s.step op).1, queueLog d log s.view (s.step op).1.view (s.step op).2), (s.step op).2)

/-- The failure of `d` has been queued, and nothing can be sent on it until it is attached again. -/
def Closed (d : UInt8) (r : RfcommClientState × List ClientDlciEvent) : Prop :=
  Told d r.2 ∧ ∀ ops, (∀ out ∈ Machine.outputs step r.1 ops, out ≠ .attached d) →
    ∀ payload, ∃ message, ((Machine.final step r.1 ops).buildUihOnClientDlci d payload).2 = .error message

variable {s : RfcommClientState} {r : RfcommClientState × List ClientDlciEvent}

lemma buildUihOnClientDlci_of_dead (hdead : Dead d s.view) (payload : Bytes) :
    ∃ message, (s.buildUihOnClientDlci d payload).2 = .error message := by
  simp only [buildUihOnClientDlci]
  cases hclient : s.secondaryDlcis[d]? with
  | none => exact ⟨_, rfl⟩
  | some client =>
      obtain ⟨reason, hfailed⟩ := hdead client.phase (view_phase_of_getElem? hclient)
      simp [hfailed]

lemma dead_final (hdead : Dead d s.view) {ops : List RfcommClientOp}
    (hout : ∀ out ∈ Machine.outputs step s ops, out ≠ .attached d) :
    Dead d (Machine.final step s ops).view := by
  induction ops generalizing s with
  | nil => exact hdead
  | cons op ops ih =>
      have hnext := hdead.viewStep (viewStep s op) (hout _ (by simp))
      exact ih hnext fun out hmem => hout out (List.mem_cons_of_mem _ hmem)

lemma closed_of_dead (hdead : Dead d r.1.view) (htold : Told d r.2) : Closed d r :=
  ⟨htold, fun _ hout payload => buildUihOnClientDlci_of_dead (dead_final hdead hout) payload⟩

lemma logInv_final (serverChannel : UInt8) (ops : List RfcommClientOp) :
    LogInv d ((queueMachine d).final (new serverChannel, []) ops).1.view
        ((queueMachine d).final (new serverChannel, []) ops).2 ∧
      ((queueMachine d).final (new serverChannel, []) ops).1.view.NoneFailed := by
  refine (queueMachine d).always (P := fun r => LogInv d r.1.view r.2 ∧ r.1.view.NoneFailed) ?_ ?_ ops
  · rintro r op ⟨hinv, hkept⟩
    exact ⟨hinv.viewStep (viewStep r.1 op), hkept.viewStep (viewStep r.1 op)⟩
  · exact ⟨by simp [LogInv, view, new], by simp [DlciView.NoneFailed, view, new]⟩

lemma view_of_closing_dlci {frame : RfcommFrame} (hkind : frame.kind = .disc ∨ frame.kind = .dm)
    (htracked : frame.dlci ∈ s.secondaryDlcis) :
    ∃ reason, (s.handleFrame frame).1.view =
      ⟨Function.update s.view.phase frame.dlci none, s.clientEvents ++ [.failed frame.dlci reason]⟩ := by
  rcases hkind with hkind | hkind
  · refine ⟨"RFCOMM peer sent DISC on dlci " ++ toString frame.dlci.toNat, ?_⟩
    simp only [handleFrame, hkind, onDisc, if_pos htracked]
    exact view_erase s frame.dlci _
  · refine ⟨"RFCOMM peer sent DM on dlci " ++ toString frame.dlci.toNat, ?_⟩
    simp only [handleFrame, hkind, onDm, if_pos htracked]
    exact view_erase s frame.dlci _

lemma view_phase_of_closing_other {frame : RfcommFrame} (hkind : frame.kind = .disc ∨ frame.kind = .dm)
    (hd : frame.dlci ≠ d) : (s.handleFrame frame).1.view.phase d = s.view.phase d := by
  by_cases htracked : frame.dlci ∈ s.secondaryDlcis
  · obtain ⟨reason, hview⟩ := view_of_closing_dlci hkind htracked
    simp [hview, Function.update_of_ne (Ne.symm hd)]
  · rcases hkind with hkind | hkind
    · simp only [handleFrame, hkind, onDisc, if_neg htracked]
      split_ifs <;> rfl
    · simp only [handleFrame, hkind, onDm, if_neg htracked]
      split_ifs <;> rfl

lemma closed_iff {frame : RfcommFrame} {packet : Bytes} (hinv : LogInv d r.1.view r.2)
    (hkept : r.1.view.NoneFailed) (hparse : parseFrame packet = .ok frame)
    (hkind : frame.kind = .disc ∨ frame.kind = .dm) (htracked : d ∈ r.1.secondaryDlcis) :
    Closed d (queueMachine d r (.packet packet)).1 ↔ frame.dlci = d := by
  have hstep : (r.1.step (.packet packet)).1 = (r.1.handleFrame frame).1 := by
    simp [step, handlePacket, hparse]
  constructor
  · rintro ⟨htold, -⟩
    by_contra hd
    obtain ⟨phase, hphase⟩ := exists_view_phase htracked
    have hphase' : (r.1.step (.packet packet)).1.view.phase d = some phase := by
      rw [hstep, view_phase_of_closing_other hkind hd, hphase]
    obtain ⟨reason, rfl⟩ := (hinv.viewStep (viewStep r.1 (.packet packet)) phase hphase').mpr htold
    exact hkept d reason hphase
  · rintro rfl
    obtain ⟨reason, hview⟩ := view_of_closing_dlci hkind htracked
    refine closed_of_dead ?_ ⟨reason, ?_⟩
    · simp [queueMachine, hstep, hview, Dead]
    · have hevents : (r.1.handleFrame frame).1.clientEvents = r.1.clientEvents ++ [.failed frame.dlci reason] :=
        congrArg DlciView.events hview
      simp [queueMachine, step, handlePacket, hparse, queueLog, view, hevents]

end RfcommClientState

/-- When a DISC or DM, on `d` or on the multiplexer under it, closes the attached channel `d`. -/
theorem closing_frame_closes_iff (d serverChannel : UInt8) (ops : List RfcommOp)
    (clientOps : List RfcommClientOp) (now : Instant) (packet : Bytes) (frame : RfcommFrame)
    (hparse : parseFrame packet = .ok frame) (hkind : frame.kind = .disc ∨ frame.kind = .dm) :
    (let r := (RfcommState.queueMachine d).final (.new, []) ops;
      ∀ client, r.1.clientDlcis[d]? = some client →
        (RfcommState.Closed d (RfcommState.queueMachine d r (.packet now packet)).1 ↔
          frame.kind = .dm ∧ frame.dlci = d ∨ client.phase.IsFailed)) ∧
    (let r := (RfcommClientState.queueMachine d).final (.new serverChannel, []) clientOps;
      d ∈ r.1.secondaryDlcis →
        (RfcommClientState.Closed d (RfcommClientState.queueMachine d r (.packet packet)).1 ↔
          frame.dlci = d)) := by
  refine ⟨?_, ?_⟩
  · intro r client hclient
    exact RfcommState.closed_iff now (RfcommState.logInv_final ops) hparse hkind hclient
  · intro r htracked
    obtain ⟨hinv, hkept⟩ := RfcommClientState.logInv_final (d := d) serverChannel clientOps
    exact RfcommClientState.closed_iff hinv hkept hparse hkind htracked

set_option maxRecDepth 8000 in
theorem closing_frame_closes_iff_dm :
    RfcommState.Closed 5 (RfcommState.queueMachine 5 ((RfcommState.queueMachine 5).final (.new, [])
      [.packet 0 (buildSabm dlciMultiplexer true), .attach 2]) (.packet 0 (buildDm 5 true))).1 ∧
    RfcommClientState.Closed 5 (RfcommClientState.queueMachine 5
      ((RfcommClientState.queueMachine 5).final (.new 1, [])
        [.kickoff, .packet (buildUa dlciMultiplexer false), .attach 2]) (.packet (buildDm 5 true))).1 := by
  obtain ⟨hserver, hclient⟩ := closing_frame_closes_iff 5 1
    [.packet 0 (buildSabm dlciMultiplexer true), .attach 2]
    [.kickoff, .packet (buildUa dlciMultiplexer false), .attach 2] 0 (buildDm 5 true)
    ⟨5, true, .dm, true, none, []⟩ (by decide) (.inr rfl)
  exact ⟨(hserver ⟨.awaitingPnRsp, false, false⟩ (by decide)).mpr (.inl ⟨rfl, rfl⟩),
    (hclient (by decide)).mpr rfl⟩

set_option maxRecDepth 8000 in
/-- A DISC on an open outbound channel of the responder, or on the multiplexer of the initiator, leaves the
channel able to send. -/
theorem disc_leaves_channel_open :
    let pn := buildUih dlciMultiplexer false none (buildParameterNegotiationResponse 5 7 127 0)
    let rsp := buildUih dlciMultiplexer false none (buildModemStatusResponse 5 0x8d)
    let cmd := buildUih dlciMultiplexer false none (buildModemStatusCommand 5 0x8d)
    let r := (RfcommState.queueMachine 5).final (.new, []) [.packet 0 (buildSabm dlciMultiplexer true),
      .attach 2, .packet 0 pn, .packet 0 (buildUa 5 false), .packet 0 rsp, .packet 0 cmd]
    let r' := (RfcommClientState.queueMachine 5).final (.new 1, []) [.kickoff,
      .packet (buildUa dlciMultiplexer false), .attach 2, .packet pn, .packet (buildUa 5 false),
      .packet cmd, .packet rsp]
    ¬ RfcommState.Closed 5 (RfcommState.queueMachine 5 r (.packet 0 (buildDisc 5 true))).1 ∧
    ¬ RfcommClientState.Closed 5
      (RfcommClientState.queueMachine 5 r' (.packet (buildDisc dlciMultiplexer true))).1 := by
  intro pn rsp cmd r r'
  refine ⟨fun hclosed => ?_, fun hclosed => ?_⟩
  · have hsent : (RfcommState.queueMachine 5 r (.packet 0 (buildDisc 5 true))).1.1.buildUihOnClientDlci 5 [1] =
        .ok (buildUih 5 false none [1]) := by decide
    obtain ⟨message, hmessage⟩ := hclosed.2 [] (by simp) [1]
    exact nomatch hsent.symm.trans hmessage
  · have hsent : ((RfcommClientState.queueMachine 5 r'
        (.packet (buildDisc dlciMultiplexer true))).1.1.buildUihOnClientDlci 5 [1]).2 =
        .ok (buildUih 5 true none [1]) := by decide
    obtain ⟨message, hmessage⟩ := hclosed.2 [] (by simp) [1]
    exact nomatch hsent.symm.trans hmessage

end Aokie.Radio.Rfcomm
