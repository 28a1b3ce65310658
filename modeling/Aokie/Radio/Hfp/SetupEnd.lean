import Aokie.Radio.Hfp.CallEvents

/-! When the phone says that a call setup is over, no setup stays flagged, unless another caller's episode outlived
the call that it was raised in: which steps let it do that. -/

namespace Aokie.Radio.Hfp.HfpHandsFreeState

open Aokie.Lib

/-- What `callsetup = 0` is to do to this state. -/
def SetupEnds (s : HfpHandsFreeState) : Prop :=
  let ended := s.applyResult (.indicatorUpdate s.callsetupIndicatorIndex 0)
  ended.1.incomingCall = false ∧ ended.1.outgoingSetup = false ∧
    ((s.incomingCall || s.outgoingSetup) = true → s.callActive = false →
      ended.1.terminatePending = true ∨ .callTerminated ∈ ended.2)

instance (s : HfpHandsFreeState) : Decidable s.SetupEnds := inferInstanceAs (Decidable (_ ∧ _))

/-- An update of `callsetup` is not read as one of `call`. -/
def OwnIndices (s : HfpHandsFreeState) : Prop := s.callsetupIndicatorIndex ≠ s.callIndicatorIndex

def NoOther (s : HfpHandsFreeState) : Prop := s.callWaiting = false ∧ s.secondSetupUnverified = false

instance (s : HfpHandsFreeState) : Decidable s.NoOther := inferInstanceAs (Decidable (_ ∧ _))

def Apart (s : HfpHandsFreeState) : Prop :=
  s.incomingCall = false ∧ s.outgoingSetup = false ∨ s.callActive = false ∧ s.NoOther

variable {s : HfpHandsFreeState}

lemma setupEnds_iff (hown : s.OwnIndices) : s.SetupEnds ↔ s.Apart := by
  have hrouted : s.applyIndicator s.callsetupIndicatorIndex 0 = s.updateCallsetup 0 := by
    rw [applyIndicator, if_neg hown, if_pos rfl]
  have hfields : ∀ t : HfpHandsFreeState, ∀ shape,
      (if t.callShape ≠ shape then { t with callChanges := t.callChanges + 1 } else t).incomingCall = t.incomingCall ∧
      (if t.callShape ≠ shape then { t with callChanges := t.callChanges + 1 } else t).outgoingSetup = t.outgoingSetup ∧
      (if t.callShape ≠ shape then { t with callChanges := t.callChanges + 1 } else t).terminatePending =
        t.terminatePending := by
    intro t shape
    split_ifs <;> exact ⟨rfl, rfl, rfl⟩
  simp only [SetupEnds, applyResult, applyResultToState, hrouted, hfields]
  simp only [Apart, NoOther, updateCallsetup, if_pos, updateCallsetupIdle]
  split_ifs with hwaiting hsecond hsetup hrefused
  · grind
  · grind
  · refine iff_of_true (by simp) ?_
    grind
  · refine iff_of_true (by simp) ?_
    grind
  · grind

section Steps

variable (s)

def RingApart : Prop := s.callActive = false → s.NoOther ∨ s.callWaiting = true ∧ s.callHeld ≠ 0

def CallsetupApart (value : ℤ) : Prop :=
  (value = 1 ∨ value = 3 → s.callActive = false → s.NoOther) ∧
    (value = 2 → s.NoOther ∧ ¬(s.callActive = true ∧ s.terminatePending = true))

def CallApart (active : Bool) : Prop :=
  active = false → s.callActive = true → s.callWaiting = true → s.callHeld = 0 → s.secondSetupUnverified = false

def StatusApart (call callsetup : Option ℤ) : Prop :=
  match call, callsetup with
  | none, none => True
  | none, some callsetup => callsetup ∈ ({1, 2, 3} : Finset ℤ) → s.callActive = true ∨ s.NoOther
  | some call, none => call ≠ 0 → s.outgoingSetup = false
  | some call, some callsetup => call = 0 → callsetup ∈ ({1, 2, 3} : Finset ℤ) →
    s.terminatePending = false ∧ s.callActive = true ∨ s.NoOther

def KeepsIndices : HandsFreeInput → Prop
  | .result (.indicators names) => (s.applyIndicatorDefinitions names).OwnIndices
  | _ => True

def KeepsApart : HandsFreeInput → Prop
  | .result .ring => s.RingApart
  | .result (.indicatorUpdate index value) =>
    if index = s.callIndicatorIndex then s.CallApart (value != 0)
    else index = s.callsetupIndicatorIndex → s.CallsetupApart value
  | .result (.indicatorStatus values) =>
    s.StatusApart (indicatorStatusValue values s.callIndicatorIndex)
      (indicatorStatusValue values s.callsetupIndicatorIndex)
  | .sent (.dial _) => s.NoOther
  | _ => True

end Steps

lemma apart_secondSetupWhileActive (hs : s.Apart) (hactive : s.callActive = true) :
    s.secondSetupWhileActive.1.Apart := by
  have hidle : s.incomingCall = false ∧ s.outgoingSetup = false := by
    rcases hs with hidle | ⟨hdown, -⟩
    · exact hidle
    · exact absurd (hdown.symm.trans hactive) (by decide)
  simp only [secondSetupWhileActive]
  split_ifs <;> exact Or.inl hidle

lemma apart_applyRing (hs : s.Apart) : s.applyRing.1.Apart ↔ s.RingApart := by
  cases hactive : s.callActive with
  | true =>
      have hring : s.RingApart := by simp [RingApart, hactive]
      refine iff_of_true ?_ hring
      simp only [applyRing]
      split_ifs
      · exact hs
      · exact apart_secondSetupWhileActive (s := { s with terminatePending := false }) hs hactive
  | false =>
      simp only [applyRing, RingApart, hactive]
      simp only [Apart, NoOther, hactive] at hs ⊢
      cases hwaiting : s.callWaiting <;> by_cases hheld : s.callHeld = 0 <;> simp_all

lemma apart_updateCallsetup (hs : s.Apart) (value : ℤ) : (s.updateCallsetup value).1.Apart ↔
    s.CallsetupApart value := by
  simp only [updateCallsetup, CallsetupApart]
  split_ifs with hidle hincoming hdialing halerting hactive
  · -- The end of a setup starts none.
    refine iff_of_true ?_ (by simp [hidle])
    simp only [Apart, NoOther, updateCallsetupIdle] at hs ⊢
    split_ifs <;> simp_all
  · subst hincoming
    simp only [true_or, forall_const, OfNat.one_ne_ofNat, false_imp_iff, and_true, updateCallsetupIncoming]
    cases hactive : s.callActive with
    | true =>
        refine iff_of_true ?_ (by simp)
        simp only [Bool.true_and, if_true]
        split_ifs with hnegotiated hwaiting
        · simp only [Apart, NoOther, hactive] at hs ⊢
          simp_all
        · exact hs
        · exact apart_secondSetupWhileActive hs hactive
    | false => simp [Apart, NoOther]
  · subst hdialing
    simp only [updateCallsetupDialing]
    cases hpending : s.terminatePending <;> cases hactive : s.callActive <;> simp [Apart, NoOther, hactive]
  · subst halerting
    simp only [Bool.not_eq_true'] at hactive
    simp [Apart, NoOther, hactive]
  · subst halerting
    simp only [Bool.not_eq_true', Bool.not_eq_false] at hactive
    exact iff_of_true hs (by simp [hactive])
  · exact iff_of_true hs (by simp [hincoming, hdialing, halerting])

lemma apart_callEnded (hactive : s.callActive = true) : (s.callChanged false).1.Apart ↔ s.CallApart false := by
  simp only [callChanged, CallApart, Apart, NoOther, hactive]
  split_ifs with hwaiting hheld hsecond <;> simp_all

lemma apart_updateCallState (hs : s.Apart) (active : Bool) : (s.updateCallState active).1.Apart ↔
    s.CallApart active := by
  have hnoted : (s.noteCallState active).callActive = s.callActive ∧ (s.noteCallState active).Apart ∧
      ((s.noteCallState active).CallApart active ↔ s.CallApart active) := by
    simp only [noteCallState]
    split_ifs <;> exact ⟨rfl, hs, Iff.rfl⟩
  rw [updateCallState_eq, ← hnoted.2.2]
  obtain ⟨hactive, hs, -⟩ := hnoted
  generalize s.noteCallState active = t at *
  cases active with
  | true =>
      refine iff_of_true ?_ (by simp [CallApart])
      split_ifs
      · exact hs
      · exact hs
      · exact Or.inl ⟨rfl, rfl⟩
  | false =>
      cases hup : t.callActive with
      | true => exact apart_callEnded hup
      | false =>
          refine iff_of_true ?_ (by simp [CallApart, hup])
          simp only [Bool.not_false, Bool.true_and, beq_self_eq_true, if_true]
          split_ifs <;> exact hs

lemma apart_applyCallsetupSnapshot (callsetup : ℤ) : (s.applyCallsetupSnapshot callsetup).Apart ↔
    (callsetup ∈ ({1, 2, 3} : Finset ℤ) → s.callActive = true ∨ s.NoOther) := by
  have hmem : callsetup ∈ ({1, 2, 3} : Finset ℤ) ↔ callsetup = 1 ∨ callsetup = 2 ∨ callsetup = 3 := by simp
  simp only [applyCallsetupSnapshot, hmem]
  cases hactive : s.callActive with
  | true => split_ifs <;> simp [Apart]
  | false =>
      by_cases hsetup : callsetup = 1 ∨ callsetup = 2 ∨ callsetup = 3
      · obtain rfl | rfl | rfl := hsetup <;> simp [Apart, NoOther]
      · refine iff_of_true ?_ (fun h => absurd h hsetup)
        simp only [not_or] at hsetup
        split_ifs <;> simp [Apart, hsetup]

lemma apart_settleStatus (values : List ℤ) : (s.settleStatus values).Apart ↔
    match indicatorStatusValue values s.callsetupIndicatorIndex with
    | some callsetup => callsetup ∈ ({1, 2, 3} : Finset ℤ) → s.callActive = true ∨ s.NoOther
    | none => s.Apart := by
  have hheld : ∀ t : HfpHandsFreeState, HfpHandsFreeState.Apart
      (match t.callheldIndicatorIndex.bind (indicatorStatusValue values) with
        | some held => { t with callHeld := held }
        | none => t) ↔ t.Apart := by
    intro t
    split <;> rfl
  simp only [settleStatus]
  cases indicatorStatusValue values s.callsetupIndicatorIndex with
  | none => exact hheld s
  | some callsetup => exact (hheld _).trans (apart_applyCallsetupSnapshot callsetup)

lemma settleCallSnapshot_cases {active ringingNow : Bool} {t : HfpHandsFreeState}
    (ht : (s.settleCallSnapshot active ringingNow).1 = t) :
    (t.incomingCall = s.incomingCall ∧ t.outgoingSetup = s.outgoingSetup ∧ t.callWaiting = s.callWaiting ∧
        t.secondSetupUnverified = s.secondSetupUnverified ∧
        (s.terminatePending = false → active = false → s.callActive = false)) ∨
      (s.callActive = true ∧ s.terminatePending = false ∧ active = false ∧ t.outgoingSetup = s.outgoingSetup ∧
        t.NoOther) ∨
      s.secondSetupUnverified = true ∧ active = true ∧ t.incomingCall = s.incomingCall ∧
        t.outgoingSetup = s.outgoingSetup := by
  subst ht
  simp only [settleCallSnapshot, NoOther]
  split_ifs <;> grind

lemma apart_applyCallSnapshot (hs : s.Apart) (call : ℤ) (ringingNow : Bool) :
    (s.applyCallSnapshot call ringingNow).1.Apart ↔ (call ≠ 0 → s.outgoingSetup = false) := by
  simp only [applyCallSnapshot]
  generalize ht : (s.settleCallSnapshot (call != 0) ringingNow).1 = t
  have hcases := settleCallSnapshot_cases ht
  simp only [Apart, NoOther] at hs hcases ⊢
  by_cases hcall : call = 0 <;>
    simp only [hcall, bne_self_eq_false, bne_iff_ne, ne_eq, not_false_iff, if_true] at hcases ⊢ <;> grind

lemma noOther_applyCallSnapshot (ringingNow : Bool) :
    (s.applyCallSnapshot 0 ringingNow).1.NoOther ↔ s.terminatePending = false ∧ s.callActive = true ∨ s.NoOther := by
  simp only [applyCallSnapshot]
  generalize ht : (s.settleCallSnapshot ((0 : ℤ) != 0) ringingNow).1 = t
  have hcases := settleCallSnapshot_cases ht
  simp only [NoOther, bne_self_eq_false] at hcases ⊢
  grind

lemma applyCallSnapshot_index (call : ℤ) (ringingNow : Bool) :
    (s.applyCallSnapshot call ringingNow).1.callsetupIndicatorIndex = s.callsetupIndicatorIndex := by
  simp only [applyCallSnapshot, settleCallSnapshot]
  split_ifs <;> rfl

lemma apart_applyIndicatorStatus (hs : s.Apart) (values : List ℤ) : (s.applyIndicatorStatus values).1.Apart ↔
    s.StatusApart (indicatorStatusValue values s.callIndicatorIndex)
      (indicatorStatusValue values s.callsetupIndicatorIndex) := by
  rw [applyIndicatorStatus_eq]
  cases indicatorStatusValue values s.callIndicatorIndex with
  | none =>
      simp only [Prod.map_fst, apart_settleStatus, StatusApart]
      cases indicatorStatusValue values s.callsetupIndicatorIndex with
      | none => exact iff_true_intro hs
      | some callsetup => rfl
  | some call =>
      simp only [Prod.map_fst, apart_settleStatus, StatusApart, applyCallSnapshot_index, applyCallSnapshot_active]
      cases indicatorStatusValue values s.callsetupIndicatorIndex with
      | none => exact apart_applyCallSnapshot hs call _
      | some callsetup =>
          by_cases hcall : call = 0
          · subst hcall
            simp [noOther_applyCallSnapshot]
          · simp [hcall]

lemma apart_applyIndicator (hs : s.Apart) (index : UInt8) (value : ℤ) :
    (s.applyIndicator index value).1.Apart ↔ s.KeepsApart (.result (.indicatorUpdate index value)) := by
  simp only [applyIndicator, KeepsApart]
  split_ifs with hcall hsetup hheld
  · exact apart_updateCallState hs _
  · simp only [hsetup, forall_const]
    exact apart_updateCallsetup hs value
  · refine iff_of_true ?_ (fun h => absurd h hsetup)
    simp only [updateCallheld]
    split_ifs <;> exact hs
  · exact iff_of_true hs (fun h => absurd h hsetup)

lemma apart_applyIndicatorDefinitions (hs : s.Apart) (indicators : List String) :
    (s.applyIndicatorDefinitions indicators).Apart := by
  have hnames : ∀ (names : List (String × ℕ)) (t : HfpHandsFreeState), t.Apart →
      (names.foldl (fun s entry => s.noteIndicatorName (UInt8.ofNat (entry.2 + 1)) entry.1) t).Apart := by
    intro names
    induction names with
    | nil => exact fun t ht => ht
    | cons first names ih =>
        intro t ht
        apply ih
        simp only [noteIndicatorName]
        split_ifs <;> exact ht
  simp only [applyIndicatorDefinitions]
  split_ifs <;> exact hnames _ s hs

lemma apart_applyCallWaitingNotification (hs : s.Apart) (number : String) :
    (s.applyCallWaitingNotification number).1.Apart := by
  simp only [applyCallWaitingNotification, Apart, NoOther] at hs ⊢
  split_ifs <;> simp_all

lemma apart_applyResult (result : HfpAgResult) :
    (s.applyResult result).1.Apart ↔ (s.applyResultToState result).1.Apart := by
  simp only [applyResult]
  split_ifs <;> rfl

lemma apart_step (hs : s.Apart) (input : HandsFreeInput) : (step s input).1.Apart ↔ s.KeepsApart input := by
  cases input with
  | result result =>
      refine (apart_applyResult result).trans ?_
      cases result with
      | ring => exact apart_applyRing hs
      | indicatorUpdate index value => exact apart_applyIndicator hs index value
      | indicatorStatus values => exact apart_applyIndicatorStatus hs values
      | indicators names => exact iff_of_true (apart_applyIndicatorDefinitions hs names) trivial
      | callWaitingNotification number => exact iff_of_true (apart_applyCallWaitingNotification hs number) trivial
      | callerId number | selectedCodec codec =>
          refine iff_of_true ?_ trivial
          simp only [applyResultToState]
          split_ifs <;> exact hs
      | ok | error | unknown | supportedFeatures | callHoldModes | callListEntry => exact iff_of_true hs trivial
  | sent command =>
      cases command with
      | dial number => simp [step, markCommandSent, Apart, NoOther, KeepsApart]
      | _ => exact iff_of_true hs trivial
  | refused command =>
      refine iff_of_true ?_ trivial
      simp only [step, afterRefusal]
      split_ifs <;> exact hs
  | ready =>
      refine iff_of_true ?_ trivial
      simp only [step, markServiceLevelReady]
      split_ifs <;> exact hs
  | definitionsRetry =>
      refine iff_of_true ?_ trivial
      simp only [step, needsIndicatorDefinitionsRetry]
      split_ifs <;> exact hs
  | probeError command =>
      refine iff_of_true ?_ trivial
      simp only [step, noteSlcProbeError]
      split <;> exact hs
  | ccwaAccepted | callWaitingEnabled | wbsSupported => exact iff_of_true hs trivial

section Indices

/-- The indices of `callsetup` and `call`. -/
def indices (s : HfpHandsFreeState) : UInt8 × UInt8 := (s.callsetupIndicatorIndex, s.callIndicatorIndex)

lemma ownIndices_of_eq {t : HfpHandsFreeState} (h : t.indices = s.indices) : t.OwnIndices ↔ s.OwnIndices := by
  obtain ⟨hsetup, hcall⟩ := Prod.mk.inj h
  rw [OwnIndices, OwnIndices, hsetup, hcall]

lemma indices_secondSetupWhileActive : s.secondSetupWhileActive.1.indices = s.indices := by
  simp only [secondSetupWhileActive]
  split_ifs <;> rfl

lemma indices_updateCallsetup (value : ℤ) : (s.updateCallsetup value).1.indices = s.indices := by
  simp only [updateCallsetup, updateCallsetupIdle, updateCallsetupIncoming, updateCallsetupDialing]
  split_ifs <;> first | rfl | exact indices_secondSetupWhileActive

lemma indices_updateCallState (active : Bool) : (s.updateCallState active).1.indices = s.indices := by
  have hnoted : (s.noteCallState active).indices = s.indices := by
    simp only [noteCallState]
    split_ifs <;> rfl
  rw [updateCallState_eq, ← hnoted]
  simp only [callChanged]
  split_ifs <;> rfl

lemma indices_applyIndicator (index : UInt8) (value : ℤ) : (s.applyIndicator index value).1.indices = s.indices := by
  simp only [applyIndicator, updateCallheld]
  split_ifs
  · exact indices_updateCallState _
  · exact indices_updateCallsetup value
  all_goals rfl

lemma indices_applyCallSnapshot (call : ℤ) (ringingNow : Bool) :
    (s.applyCallSnapshot call ringingNow).1.indices = s.indices := by
  simp only [applyCallSnapshot, settleCallSnapshot]
  split_ifs <;> rfl

lemma indices_settleStatus (values : List ℤ) : (s.settleStatus values).indices = s.indices := by
  have hheld : ∀ t : HfpHandsFreeState, HfpHandsFreeState.indices
      (match t.callheldIndicatorIndex.bind (indicatorStatusValue values) with
        | some held => { t with callHeld := held }
        | none => t) = t.indices := by
    intro t
    split <;> rfl
  refine (hheld _).trans ?_
  split
  · simp only [applyCallsetupSnapshot]
    split_ifs <;> rfl
  · rfl

lemma indices_applyIndicatorStatus (values : List ℤ) : (s.applyIndicatorStatus values).1.indices = s.indices := by
  rw [applyIndicatorStatus_eq, Prod.map_fst, indices_settleStatus]
  split
  · exact indices_applyCallSnapshot _ _
  · rfl

lemma indices_applyResult (result : HfpAgResult) :
    (s.applyResult result).1.indices = (s.applyResultToState result).1.indices := by
  simp only [applyResult]
  split_ifs <;> rfl

lemma ownIndices_step (hown : s.OwnIndices) (input : HandsFreeInput) :
    (step s input).1.OwnIndices ↔ s.KeepsIndices input := by
  have hkept : (step s input).1.indices = s.indices → s.KeepsIndices input →
      ((step s input).1.OwnIndices ↔ s.KeepsIndices input) :=
    fun heq hkeeps => iff_of_true ((ownIndices_of_eq heq).mpr hown) hkeeps
  cases input with
  | result result =>
      have hresult : (step s (.result result)).1.indices = (s.applyResultToState result).1.indices :=
        indices_applyResult result
      cases result with
      | indicators names => exact ownIndices_of_eq hresult
      | ring =>
          refine hkept (hresult.trans ?_) trivial
          simp only [applyResultToState, applyRing]
          split_ifs <;> first | rfl | exact indices_secondSetupWhileActive
      | indicatorUpdate index value => exact hkept (hresult.trans (indices_applyIndicator index value)) trivial
      | indicatorStatus values => exact hkept (hresult.trans (indices_applyIndicatorStatus values)) trivial
      | callerId number | selectedCodec codec =>
          refine hkept (hresult.trans ?_) trivial
          simp only [applyResultToState]
          split_ifs <;> rfl
      | callWaitingNotification number =>
          refine hkept (hresult.trans ?_) trivial
          simp only [applyResultToState, applyCallWaitingNotification]
          split_ifs <;> rfl
      | ok | error | unknown | supportedFeatures | callHoldModes | callListEntry => exact hkept hresult trivial
  | sent command => cases command <;> exact hkept rfl trivial
  | refused command =>
      refine hkept ?_ trivial
      simp only [step, afterRefusal]
      split_ifs <;> rfl
  | ready =>
      refine hkept ?_ trivial
      simp only [step, markServiceLevelReady]
      split_ifs <;> rfl
  | definitionsRetry =>
      refine hkept ?_ trivial
      simp only [step, needsIndicatorDefinitionsRetry]
      split_ifs <;> rfl
  | probeError command =>
      refine hkept ?_ trivial
      simp only [step, noteSlcProbeError]
      split <;> rfl
  | ccwaAccepted | callWaitingEnabled | wbsSupported => exact hkept rfl trivial

end Indices

def KeepsBoth (s : HfpHandsFreeState) (input : HandsFreeInput) : Prop := s.KeepsIndices input ∧ s.KeepsApart input

lemma setups_end_from (hown : s.OwnIndices) (hs : s.Apart) (inputs : List HandsFreeInput) :
    step.Along KeepsBoth s inputs ↔
      ∀ done rest, done ++ rest = inputs → (step.final s done).OwnIndices ∧ (step.final s done).SetupEnds := by
  induction inputs generalizing s with
  | nil =>
      refine iff_of_true trivial ?_
      intro done rest hdone
      rw [(List.append_eq_nil_iff.mp hdone).1]
      exact ⟨hown, (setupEnds_iff hown).mpr hs⟩
  | cons input inputs ih =>
      rw [Machine.along_cons]
      constructor
      · rintro ⟨⟨hindices, hkeeps⟩, hrest⟩ done rest hdone
        cases done with
        | nil => exact ⟨hown, (setupEnds_iff hown).mpr hs⟩
        | cons first done =>
            obtain ⟨rfl, htail⟩ : first = input ∧ done ++ rest = inputs := List.cons_eq_cons.mp hdone
            have hnext := (ownIndices_step hown first).mpr hindices
            exact (ih hnext ((apart_step hs first).mpr hkeeps)).mp hrest done rest htail
      · intro h
        obtain ⟨hnext, hends⟩ := h [input] inputs rfl
        have hapart : (step s input).1.Apart := (setupEnds_iff hnext).mp hends
        refine ⟨⟨(ownIndices_step hown input).mp hnext, (apart_step hs input).mp hapart⟩, (ih hnext hapart).mpr ?_⟩
        intro done rest hdone
        exact h (input :: done) rest (congrArg (input :: ·) hdone)

/-- In every state of a run the end of a setup is routed to the setup and ends it, just when each step keeps the two
indices and the setups apart. -/
theorem setups_end_iff (inputs : List HandsFreeInput) : step.Along KeepsBoth new inputs ↔
    ∀ done rest, done ++ rest = inputs → (step.final new done).OwnIndices ∧ (step.final new done).SetupEnds :=
  setups_end_from (by decide : new.callsetupIndicatorIndex ≠ new.callIndicatorIndex) (Or.inl ⟨rfl, rfl⟩) inputs

/-- A caller who waits becomes the ring when the live call ends, beside the second setup that was never verified: the
phone then takes the ring back, and the ring stays. -/
theorem promoted_ring_stays : ¬ (step.final new [.result (.indicatorUpdate 2 1), .result .ring,
    .result (.callWaitingNotification "+15550001111"), .result (.indicatorUpdate 2 0)]).SetupEnds := by
  decide

end Aokie.Radio.Hfp.HfpHandsFreeState
