import Aokie.Radio.Rfcomm.ClientDlci

/-! What the owner of an outbound channel is told between one attach and the next: the words its events
form, and the failure it hears of when the peer closes the channel. -/

namespace Aokie.Radio.Rfcomm

open Aokie.Lib

/-- Nothing, a failure, or an opening with payloads and at most a failure after them. -/
inductive IsWord (d : UInt8) : List ClientDlciEvent → Prop
  | nothing : IsWord d []
  | refused (reason : String) : IsWord d [.failed d reason]
  | opened (payloads : List Bytes) : IsWord d (.opened d :: payloads.map (.payload d))
  | closed (payloads : List Bytes) (reason : String) :
      IsWord d (.opened d :: (payloads.map (.payload d) ++ [.failed d reason]))

def ClientDlciPhase.IsFailed (phase : ClientDlciPhase) : Prop := ∃ reason, phase = .failed reason

instance (phase : ClientDlciPhase) : Decidable phase.IsFailed :=
  match phase with
  | .failed reason => .isTrue ⟨reason, rfl⟩
  | .awaitingPnRsp | .awaitingTargetUa | .awaitingMscExchange | .open => .isFalse nofun

/-- The events of `d` drained since its last attach. -/
def drainLog (d : UInt8) (log : List ClientDlciEvent) : DlciOutcome → List ClientDlciEvent
  | .attached e => if e = d then [] else log
  | .drained e events => if e = d then log ++ events else log
  | .drainedAll _ | .silent => log

/-- The word of `d` so far, drained or queued, fits its phase. -/
def FitsPhase (d : UInt8) (word : List ClientDlciEvent) : Option ClientDlciPhase → Prop
  | none | some (.failed _) => IsWord d word
  | some .open => ∃ payloads : List Bytes, word = .opened d :: payloads.map (.payload d)
  | some .awaitingPnRsp | some .awaitingTargetUa | some .awaitingMscExchange => word = []

def WordInv (d : UInt8) (v : DlciView) (log : List ClientDlciEvent) : Prop :=
  FitsPhase d (log ++ eventsFor d v.events) (v.phase d)

def DlciOutcome.IsQuiet : DlciOutcome → Prop
  | .silent | .drained .. => True
  | .attached _ | .drainedAll _ => False

/-- Data comes on an open channel, a channel fails once, and nothing of an earlier life is queued when it
is attached or drained by another owner. -/
structure StepInOrder (d : UInt8) (v : DlciView) (cause : DlciCause) (out : DlciOutcome) : Prop where
  data : cause = .data → ∀ phase, v.phase d = some phase → phase = .open
  closing : cause = .closing → ∀ reason, v.phase d ≠ some (.failed reason)
  attached : out = .attached d → eventsFor d v.events = []
  drainedAll : ∀ events, out = .drainedAll events → eventsFor d v.events = []

variable {keeps : Bool} {d : UInt8} {cause : UInt8 → DlciCause} {v w : DlciView} {out : DlciOutcome}
  {word log : List ClientDlciEvent}

lemma StepInOrder.of_quiet {cause : DlciCause} (hout : out.IsQuiet)
    (hdata : cause = .data → ∀ phase, v.phase d = some phase → phase = .open)
    (hclosing : cause = .closing → ∀ reason, v.phase d ≠ some (.failed reason)) : StepInOrder d v cause out where
  data := hdata
  closing := hclosing
  attached h := by
    subst h
    exact hout.elim
  drainedAll events h := by
    subst h
    exact hout.elim

lemma StepInOrder.of_other (hattached : out = .attached d → eventsFor d v.events = [])
    (hdrainedAll : ∀ events, out = .drainedAll events → eventsFor d v.events = []) : StepInOrder d v .other out where
  data h := by cases h
  closing h := by cases h
  attached := hattached
  drainedAll := hdrainedAll

lemma StepInOrder.quiet (hout : out.IsQuiet) : StepInOrder d v .other out :=
  .of_quiet hout (fun h => by cases h) fun h => by cases h

lemma isWord_of_prefix {init : List ClientDlciEvent} (hword : IsWord d word) (hinit : init <+: word) :
    IsWord d init := by
  have hpayloads : ∀ {payloads : List Bytes} {rest : List ClientDlciEvent},
      rest <+: payloads.map (.payload d) → IsWord d (.opened d :: rest) := by
    intro payloads rest hrest
    obtain ⟨n, hn⟩ : ∃ n, rest = (payloads.take n).map (.payload d) :=
      ⟨rest.length, by rw [List.map_take]; exact List.prefix_iff_eq_take.mp hrest⟩
    exact hn ▸ .opened _
  cases hword with
  | nothing => exact List.prefix_nil.mp hinit ▸ .nothing
  | refused reason =>
      rcases List.prefix_cons_iff.mp hinit with rfl | ⟨rest, rfl, hrest⟩
      · exact .nothing
      · exact List.prefix_nil.mp hrest ▸ .refused reason
  | opened payloads =>
      rcases List.prefix_cons_iff.mp hinit with rfl | ⟨rest, rfl, hrest⟩
      · exact .nothing
      · exact hpayloads hrest
  | closed payloads reason =>
      rcases List.prefix_cons_iff.mp hinit with rfl | ⟨rest, rfl, hrest⟩
      · exact .nothing
      · rcases List.prefix_concat_iff.mp hrest with rfl | hrest
        · exact .closed payloads reason
        · exact hpayloads hrest

lemma FitsPhase.isWord {phase : Option ClientDlciPhase} (hfits : FitsPhase d word phase) : IsWord d word := by
  match phase, hfits with
  | none, hword | some (.failed _), hword => exact hword
  | some .open, ⟨payloads, hword⟩ => exact hword ▸ .opened payloads
  | some .awaitingPnRsp, hword | some .awaitingTargetUa, hword | some .awaitingMscExchange, hword =>
      exact hword ▸ .nothing

lemma WordInv.isWord (hinv : WordInv d v log) : IsWord d log :=
  isWord_of_prefix (FitsPhase.isWord hinv) (List.prefix_append ..)

lemma FitsPhase.append_failed {phase : ClientDlciPhase} (hfits : FitsPhase d word (some phase))
    (hphase : ∀ reason, phase ≠ .failed reason) (reason : String) :
    IsWord d (word ++ [.failed d reason]) := by
  match phase, hfits with
  | .open, ⟨payloads, hword⟩ => exact hword ▸ .closed payloads reason
  | .awaitingPnRsp, hword | .awaitingTargetUa, hword | .awaitingMscExchange, hword =>
      obtain rfl : word = [] := hword
      exact .refused reason
  | .failed old, _ => exact absurd rfl (hphase old)

lemma FitsPhase.slotStep {cause : DlciCause} {phase phase' : Option ClientDlciPhase}
    {new : List ClientDlciEvent} (hfits : FitsPhase d word phase) (hstep : SlotStep keeps d cause phase new phase')
    (hdata : cause = .data → ∀ p, phase = some p → p = .open)
    (hclosing : cause = .closing → ∀ reason, phase ≠ some (.failed reason)) :
    FitsPhase d (word ++ new) phase' := by
  cases hstep with
  | same cause phase => simpa using hfits
  | negotiated cause | accepted cause => simpa [FitsPhase] using hfits
  | opened cause =>
      have hword : word = [] := hfits
      exact ⟨[], by simp [hword]⟩
  | payload phase bytes =>
      obtain rfl := hdata rfl phase rfl
      obtain ⟨payloads, hword⟩ := hfits
      exact ⟨payloads ++ [bytes], by simp [hword]⟩
  | failed phase reason =>
      have hword := hfits.append_failed (fun old hold => hclosing rfl old (hold ▸ rfl)) reason
      cases keeps <;> exact hword

theorem WordInv.viewStep (hinv : WordInv d v log) (hstep : ViewStep keeps cause v out w)
    (horder : StepInOrder d v (cause d) out) : WordInv d w (drainLog d log out) := by
  cases hstep with
  | moved w hmoves =>
      obtain ⟨new, hnew, hslot⟩ := hmoves d
      have hfits := FitsPhase.slotStep hinv hslot horder.data horder.closing
      simpa [WordInv, hnew, drainLog] using hfits
  | attached e hfree =>
      by_cases he : e = d
      · subst he
        simp [WordInv, FitsPhase, drainLog, horder.attached rfl]
      · simpa [WordInv, drainLog, he, Function.update_of_ne (Ne.symm he)] using hinv
  | forgotten e =>
      by_cases he : e = d
      · subst he
        simpa [WordInv, FitsPhase, drainLog] using FitsPhase.isWord hinv
      · simpa [WordInv, drainLog, Function.update_of_ne (Ne.symm he)] using hinv
  | drained e =>
      by_cases he : e = d
      · subst he
        simpa [WordInv, drainLog, eventsFor_filter_self] using hinv
      · simpa [WordInv, drainLog, he, eventsFor_filter_ne (Ne.symm he)] using hinv
  | drainedAll =>
      simpa [WordInv, drainLog, horder.drainedAll _ rfl] using hinv

lemma SlotStep.phase_ne_failed {cause : DlciCause} {phase phase' : Option ClientDlciPhase}
    {new : List ClientDlciEvent} (hstep : SlotStep false d cause phase new phase')
    (hphase : ∀ reason, phase ≠ some (.failed reason)) (reason : String) : phase' ≠ some (.failed reason) := by
  cases hstep with
  | same cause | payload phase bytes => exact hphase reason
  | negotiated cause | accepted cause | opened cause | failed phase old => simp

def DlciView.NoneFailed (v : DlciView) : Prop := ∀ d reason, v.phase d ≠ some (.failed reason)

lemma DlciView.NoneFailed.viewStep (hkept : v.NoneFailed) (hstep : ViewStep false cause v out w) :
    w.NoneFailed := by
  have hupdate : ∀ (e : UInt8) (phase : Option ClientDlciPhase), (∀ reason, phase ≠ some (.failed reason)) →
      ∀ d reason, Function.update v.phase e phase d ≠ some (.failed reason) := by
    intro e phase hphase d reason
    by_cases hd : d = e
    · subst hd
      simpa using hphase reason
    · simpa [Function.update_of_ne hd] using hkept d reason
  cases hstep with
  | moved w hmoves =>
      intro d
      obtain ⟨new, -, hslot⟩ := hmoves d
      exact hslot.phase_ne_failed (hkept d)
  | attached e hfree => exact hupdate e _ (by simp)
  | forgotten e => exact hupdate e _ (by simp)
  | drained e => exact hkept
  | drainedAll => exact hkept

namespace RfcommState

/-- A session with the events of `d` drained since its last attach. -/
def wordMachine (d : UInt8) : Machine (RfcommState × List ClientDlciEvent) RfcommOp DlciOutcome :=
  fun (s, log) op => (((s.step op).1, drainLog d log (s.step op).2), (s.step op).2)

def CanAttach (s : RfcommState) (d : UInt8) : Prop :=
  s.multiplexerOpen ∧ d ∉ s.clientDlcis ∧ d ≠ s.hfpDlci ∧ d ∉ s.extraChannelHandlers

/-- Data for `d` comes while it is open, no DM comes once it has failed, and its queue is empty when it is
attached or when everything is drained at once. -/
def OpInOrder (d : UInt8) (s : RfcommState) : RfcommOp → Prop
  | .packet _ packet => ∀ frame ∈ (parseFrame packet).toOption, frame.dlci = d →
      ∀ client ∈ s.clientDlcis[d]?,
        (frame.kind = .uih → client.phase = .open) ∧ (frame.kind = .dm → ¬ client.phase.IsFailed)
  | .attach serverChannel => serverChannelDlci serverChannel true = d → s.CanAttach d →
      eventsFor d s.clientEvents = []
  | .takeAll => eventsFor d s.clientEvents = []
  | _ => True

instance (s : RfcommState) : Decidable (s.CanAttach d) := inferInstanceAs (Decidable (_ ∧ _ ∧ _ ∧ _))

instance (s : RfcommState) (op : RfcommOp) : Decidable (OpInOrder d s op) :=
  match op with
  | .packet _ packet => inferInstanceAs (Decidable (∀ frame ∈ (parseFrame packet).toOption, _))
  | .attach _ => inferInstanceAs (Decidable (_ → _ → _ = _))
  | .takeAll => inferInstanceAs (Decidable (_ = _))
  | .takeForDlci _ | .disc _ | .forceDisc _ | .registerServerChannel .. | .setWbsSupported _
  | .setCallWaitingEnabled _ | .takeHfpEvents | .callControl .. | .tick .. => .isTrue trivial

lemma frame_of_opCause {frame : RfcommFrame} (hcause : frame.cause d ≠ .other) :
    frame.dlci = d ∧ (frame.cause d = .data → frame.kind = .uih) ∧ (frame.cause d = .closing → frame.kind = .dm) := by
  by_cases hd : frame.dlci = d
  · refine ⟨hd, ?_⟩
    cases hkind : frame.kind <;> simp [RfcommFrame.cause, hd, hkind]
  · exact absurd (if_neg hd) hcause

lemma canAttach_of_attached {s : RfcommState} {serverChannel : UInt8}
    (hout : attachOutcome (s.attachClientDlci serverChannel).2 = .attached d) :
    serverChannelDlci serverChannel true = d ∧ s.CanAttach d := by
  simp only [attachClientDlci] at hout
  split_ifs at hout with hmux hused
  · simp [attachOutcome] at hout
  · simp [attachOutcome] at hout
  · push Not at hused
    obtain rfl : serverChannelDlci serverChannel true = d := by simpa [attachOutcome] using hout
    exact ⟨rfl, by simpa using hmux, hused⟩

lemma stepInOrder {s : RfcommState} {op : RfcommOp} (horder : OpInOrder d s op) :
    StepInOrder d s.view (opCause op d) (s.step op).2 := by
  cases op with
  | packet now packet =>
      simp only [opCause]
      cases hparse : parseFrame packet with
      | error message => exact .quiet trivial
      | ok frame =>
          have hphase : frame.cause d ≠ .other → ∀ phase, s.view.phase d = some phase →
              (frame.kind = .uih → phase = .open) ∧ (frame.kind = .dm → ¬ phase.IsFailed) := by
            intro hcause phase hphase
            obtain ⟨client, hclient, rfl⟩ := Option.map_eq_some_iff.mp hphase
            exact horder frame (by simp [hparse, Except.toOption]) (frame_of_opCause hcause).1 client hclient
          refine .of_quiet trivial ?_ ?_
          · intro hcause phase hp
            have hne : frame.cause d ≠ .other := by simp [hcause]
            exact (hphase hne phase hp).1 ((frame_of_opCause hne).2.1 hcause)
          · intro hcause reason hp
            have hne : frame.cause d ≠ .other := by simp [hcause]
            exact (hphase hne _ hp).2 ((frame_of_opCause hne).2.2 hcause) ⟨reason, rfl⟩
  | attach serverChannel =>
      refine .of_other ?_ ?_
      · intro hout
        obtain ⟨hd, hcan⟩ := canAttach_of_attached hout
        exact horder hd hcan
      · intro events hout
        cases hresult : (s.attachClientDlci serverChannel).2 <;>
          simp [step, hresult, attachOutcome] at hout
  | takeAll => exact .of_other (fun _ => horder) fun _ _ => horder
  | takeForDlci dlci | disc dlci | forceDisc dlci | registerServerChannel serverChannel handlers
  | setWbsSupported supported | setCallWaitingEnabled enabled | takeHfpEvents | callControl now command
  | tick now timeout => exact .quiet trivial

lemma wordInv_final {ops : List RfcommOp}
    (horder : (wordMachine d).Along (fun r op => OpInOrder d r.1 op) (new, []) ops) :
    WordInv d ((wordMachine d).final (new, []) ops).1.view ((wordMachine d).final (new, []) ops).2 := by
  refine Machine.invariant (P := fun r => WordInv d r.1.view r.2) ?_ horder ?_
  · intro r op hop hinv
    exact hinv.viewStep (viewStep r.1 op) (stepInOrder hop)
  · simp [WordInv, FitsPhase, view, new, IsWord.nothing]

end RfcommState

namespace RfcommClientState

def wordMachine (d : UInt8) : Machine (RfcommClientState × List ClientDlciEvent) RfcommClientOp DlciOutcome :=
  fun (s, log) op => (((s.step op).1, drainLog d log (s.step op).2), (s.step op).2)

def CanAttach (s : RfcommClientState) (d : UInt8) : Prop :=
  s.muxIsOpen ∧ d ≠ s.targetDlci ∧ d ∉ s.secondaryDlcis

/-- Data for `d` comes while it is open, and its queue is empty when it is attached. -/
def OpInOrder (d : UInt8) (s : RfcommClientState) : RfcommClientOp → Prop
  | .packet packet => ∀ frame ∈ (parseFrame packet).toOption, frame.dlci = d →
      ∀ client ∈ s.secondaryDlcis[d]?, frame.kind = .uih → frame.payload ≠ [] → client.phase = .open
  | .attach serverChannel => serverChannelDlci serverChannel true = d → s.CanAttach d →
      eventsFor d s.clientEvents = []
  | _ => True

instance (s : RfcommClientState) : Decidable (s.CanAttach d) := inferInstanceAs (Decidable (_ ∧ _ ∧ _))

instance (s : RfcommClientState) (op : RfcommClientOp) : Decidable (OpInOrder d s op) :=
  match op with
  | .packet packet => inferInstanceAs (Decidable (∀ frame ∈ (parseFrame packet).toOption, _))
  | .attach _ => inferInstanceAs (Decidable (_ → _ → _ = _))
  | .kickoff | .takeForDlci _ | .takeEvents | .send _ | .sendOnDlci .. | .forceDisc _ => .isTrue trivial

lemma frame_of_opCause {frame : RfcommFrame} (hcause : frame.clientCause d = .data) :
    frame.dlci = d ∧ frame.kind = .uih ∧ frame.payload ≠ [] := by
  by_cases hd : frame.dlci = d
  · cases hkind : frame.kind <;> simp [RfcommFrame.clientCause, hd, hkind] at hcause
    exact ⟨hd, rfl, hcause⟩
  · rw [RfcommFrame.clientCause, if_neg hd] at hcause
    exact absurd hcause (by simp)

lemma canAttach_of_attached {s : RfcommClientState} {serverChannel : UInt8}
    (hout : attachOutcome (s.attachClientDlci serverChannel).2 = .attached d) :
    serverChannelDlci serverChannel true = d ∧ s.CanAttach d := by
  simp only [attachClientDlci] at hout
  split_ifs at hout with hmux hused
  · simp [attachOutcome] at hout
  · simp [attachOutcome] at hout
  · push Not at hused
    obtain rfl : serverChannelDlci serverChannel true = d := by simpa [attachOutcome] using hout
    exact ⟨rfl, by simpa using hmux, hused⟩

lemma stepInOrder {s : RfcommClientState} {op : RfcommClientOp} (hkept : s.view.NoneFailed)
    (horder : OpInOrder d s op) : StepInOrder d s.view (opCause op d) (s.step op).2 := by
  cases op with
  | packet packet =>
      simp only [opCause]
      cases hparse : parseFrame packet with
      | error message => exact .quiet trivial
      | ok frame =>
          refine .of_quiet trivial ?_ fun _ reason => hkept d reason
          intro hcause phase hphase
          obtain ⟨client, hclient, rfl⟩ := Option.map_eq_some_iff.mp hphase
          obtain ⟨hd, hkind, hpayload⟩ := frame_of_opCause hcause
          exact horder frame (by simp [hparse, Except.toOption]) hd client hclient hkind hpayload
  | attach serverChannel =>
      refine .of_other ?_ ?_
      · intro hout
        obtain ⟨hd, hcan⟩ := canAttach_of_attached hout
        exact horder hd hcan
      · intro events hout
        cases hresult : (s.attachClientDlci serverChannel).2 <;>
          simp [step, hresult, attachOutcome] at hout
  | kickoff | takeForDlci dlci | takeEvents | send payload | sendOnDlci dlci payload | forceDisc dlci =>
      exact .quiet trivial

lemma wordInv_final {serverChannel : UInt8} {ops : List RfcommClientOp}
    (horder : (wordMachine d).Along (fun r op => OpInOrder d r.1 op) (new serverChannel, []) ops) :
    WordInv d ((wordMachine d).final (new serverChannel, []) ops).1.view
      ((wordMachine d).final (new serverChannel, []) ops).2 := by
  refine (Machine.invariant (P := fun r => WordInv d r.1.view r.2 ∧ r.1.view.NoneFailed) ?_ horder ?_).1
  · rintro r op hop ⟨hinv, hkept⟩
    exact ⟨hinv.viewStep (viewStep r.1 op) (stepInOrder hkept hop), hkept.viewStep (viewStep r.1 op)⟩
  · exact ⟨by simp [WordInv, FitsPhase, view, new, IsWord.nothing], by simp [DlciView.NoneFailed, view, new]⟩

end RfcommClientState

lemma drain_for_dlci (events : List ClientDlciEvent) (d : UInt8) :
    (takeEventsForDlci events d).1 = eventsFor d events ∧
      ∀ e, e ≠ d → eventsFor e (takeEventsForDlci events d).2 = eventsFor e events := by
  rw [takeEventsForDlci_eq]
  exact ⟨rfl, fun e he => eventsFor_filter_ne he events⟩

/-- The words of `d` in a run of each role, and that draining `d` takes nothing from the others. -/
theorem drained_events_form_words (d serverChannel : UInt8) (ops : List RfcommOp)
    (clientOps : List RfcommClientOp)
    (horder : (RfcommState.wordMachine d).Along (fun r op => r.1.OpInOrder d op) (.new, []) ops)
    (hclientOrder : (RfcommClientState.wordMachine d).Along (fun r op => r.1.OpInOrder d op)
      (.new serverChannel, []) clientOps) :
    IsWord d ((RfcommState.wordMachine d).final (.new, []) ops).2 ∧
    IsWord d ((RfcommClientState.wordMachine d).final (.new serverChannel, []) clientOps).2 ∧
    (∀ s : RfcommState, (s.takeClientEventsForDlci d).2 = eventsFor d s.clientEvents ∧
      ∀ e, e ≠ d → eventsFor e (s.takeClientEventsForDlci d).1.clientEvents = eventsFor e s.clientEvents) ∧
    ∀ s : RfcommClientState, (s.takeClientEventsForDlci d).2 = eventsFor d s.clientEvents ∧
      ∀ e, e ≠ d → eventsFor e (s.takeClientEventsForDlci d).1.clientEvents = eventsFor e s.clientEvents :=
  ⟨(RfcommState.wordInv_final horder).isWord, (RfcommClientState.wordInv_final hclientOrder).isWord,
    fun s => drain_for_dlci s.clientEvents d, fun s => drain_for_dlci s.clientEvents d⟩

set_option maxRecDepth 8000 in
theorem drained_events_form_words_five :
    let pn := buildUih dlciMultiplexer false none (buildParameterNegotiationResponse 5 7 127 0)
    let rsp := buildUih dlciMultiplexer false none (buildModemStatusResponse 5 0x8d)
    let cmd := buildUih dlciMultiplexer false none (buildModemStatusCommand 5 0x8d)
    let ops : List RfcommOp := [.packet 0 (buildSabm dlciMultiplexer true), .attach 2, .packet 0 pn,
      .packet 0 (buildUa 5 false), .packet 0 rsp, .packet 0 cmd, .packet 0 (buildUih 5 false none [1]),
      .takeForDlci 5, .packet 0 (buildDm 5 false), .takeForDlci 5]
    let clientOps : List RfcommClientOp := [.kickoff, .packet (buildUa dlciMultiplexer false), .attach 2,
      .packet pn, .packet (buildUa 5 false), .packet cmd, .packet rsp, .packet (buildUih 5 false none [1]),
      .packet (buildDisc 5 false), .takeForDlci 5]
    IsWord 5 ((RfcommState.wordMachine 5).final (.new, []) ops).2 ∧
      IsWord 5 ((RfcommClientState.wordMachine 5).final (.new 1, []) clientOps).2 ∧
      ((RfcommState.wordMachine 5).final (.new, []) ops).2.length = 3 ∧
      ((RfcommClientState.wordMachine 5).final (.new 1, []) clientOps).2.length = 3 := by
  intro pn rsp cmd ops clientOps
  obtain ⟨hserver, hclient, -⟩ :=
    drained_events_form_words 5 1 ops clientOps (by decide) (by decide)
  exact ⟨hserver, hclient, by decide, by decide⟩

set_option maxRecDepth 8000 in
/-- Data on a channel that is still being set up is reported before its opening, in both roles. -/
theorem early_data_breaks_words :
    ¬ IsWord 5 ((RfcommState.wordMachine 5).final (.new, []) [.packet 0 (buildSabm dlciMultiplexer true),
      .attach 2, .packet 0 (buildUih 5 false none [1]), .takeForDlci 5]).2 ∧
    ¬ IsWord 5 ((RfcommClientState.wordMachine 5).final (.new 1, []) [.kickoff,
      .packet (buildUa dlciMultiplexer false), .attach 2, .packet (buildUih 5 false none [1]),
      .takeForDlci 5]).2 := by
  have hword : ¬ IsWord 5 [.payload 5 [1]] := nofun
  refine ⟨?_, ?_⟩
  · rwa [show ((RfcommState.wordMachine 5).final (.new, []) _).2 = [.payload 5 [1]] by decide]
  · rwa [show ((RfcommClientState.wordMachine 5).final (.new 1, []) _).2 = [.payload 5 [1]] by decide]

end Aokie.Radio.Rfcomm
