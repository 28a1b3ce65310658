import Aokie.Radio.Hfp.CallEvents

/-! The notes that the call state keeps of refused commands, and all that an input can do to them. -/

namespace Aokie.Radio.Hfp

open Aokie.Lib

namespace HfpHandsFreeState

def ringing (s : HfpHandsFreeState) : Bool := s.incomingCall && !s.callActive

def FreshSetup (s : HfpHandsFreeState) : HandsFreeInput → Prop
  | .result (.indicatorUpdate index value) =>
    index ≠ s.callIndicatorIndex ∧ index = s.callsetupIndicatorIndex ∧ value = 1
  | _ => False

instance (s : HfpHandsFreeState) : DecidablePred s.FreshSetup
  | .result (.indicatorUpdate _ _) => inferInstanceAs (Decidable (_ ∧ _))
  | .result .ok | .result .error | .result .ring | .result (.supportedFeatures _) | .result (.indicators _)
  | .result (.indicatorStatus _) | .result (.callerId _) | .result (.callHoldModes _)
  | .result (.callWaitingNotification _) | .result (.callListEntry _) | .result (.selectedCodec _)
  | .result (.unknown _) | .sent _ | .refused _ | .ready | .definitionsRetry | .probeError _ | .ccwaAccepted
  | .callWaitingEnabled _ | .wbsSupported _ => .isFalse id

def ChangesCall (s : HfpHandsFreeState) (input : HandsFreeInput) : Prop :=
  (∃ result, input = .result result) ∧ (step s input).1.callShape ≠ s.callShape

/-- All that an input can do to the notes of what was already sent once more. -/
inductive RetryNotes (s t : HfpHandsFreeState) (input : HandsFreeInput) : Prop
  | kept (hanswer : s.answerRetried = true → t.answerRetried = true)
    (hhangup : s.hangupRetried = true → t.hangupRetried = true)
  | rang (hfresh : s.FreshSetup input) (hhangup : t.hangupRetried = s.hangupRetried)
  | changed (hactive : t.callActive ≠ s.callActive)

/-- All that an input can do to the note of the last hang-up. -/
inductive LiveNote (s t : HfpHandsFreeState) (input : HandsFreeInput) : Prop
  | hungUp (hsent : input = .sent .rejectOrHangup)
    (hlive : t.hangupSentLive = if s.callActive then some s.callChanges else none) (hshape : t.callShape = s.callShape)
  | dropped (hlive : t.hangupSentLive = none)
  | dialed (hlive : t.hangupSentLive = s.hangupSentLive) (hactive : t.callActive = false)
  | kept (hlive : t.hangupSentLive = s.hangupSentLive) (hshape : t.callShape = s.callShape)
  | changed (hlive : t.hangupSentLive = s.hangupSentLive) (hchanges : s.ChangesCall input)

variable {s : HfpHandsFreeState}

section Result

lemma retried_updateCallsetup (value : ℤ) : (s.updateCallsetup value).1.hangupRetried = s.hangupRetried ∧
    (value ≠ 1 → (s.updateCallsetup value).1.answerRetried = s.answerRetried) := by
  simp only [updateCallsetup, updateCallsetupIdle, updateCallsetupIncoming, updateCallsetupDialing,
    secondSetupWhileActive]
  split_ifs <;> simp_all

lemma retried_updateCallState (active : Bool) :
    ((s.updateCallState active).1.answerRetried = s.answerRetried ∧
      (s.updateCallState active).1.hangupRetried = s.hangupRetried) ∨
    (s.updateCallState active).1.callActive ≠ s.callActive := by
  simp only [updateCallState, callChanged]
  split_ifs <;> simp_all

lemma retried_settleStatus (values : List ℤ) : (s.settleStatus values).answerRetried = s.answerRetried ∧
    (s.settleStatus values).hangupRetried = s.hangupRetried := by
  have hsetup : ∀ callsetup, (s.applyCallsetupSnapshot callsetup).answerRetried = s.answerRetried ∧
      (s.applyCallsetupSnapshot callsetup).hangupRetried = s.hangupRetried := by
    intro callsetup
    simp only [applyCallsetupSnapshot]
    split_ifs <;> exact ⟨rfl, rfl⟩
  simp only [settleStatus]
  split <;> split
  · exact hsetup _
  · exact ⟨rfl, rfl⟩
  · exact hsetup _
  · exact ⟨rfl, rfl⟩

lemma retried_applyIndicatorStatus (values : List ℤ) :
    (s.applyIndicatorStatus values).1.answerRetried = s.answerRetried ∧
      (s.applyIndicatorStatus values).1.hangupRetried = s.hangupRetried := by
  have hcall : ∀ call ringingNow, (s.applyCallSnapshot call ringingNow).1.answerRetried = s.answerRetried ∧
      (s.applyCallSnapshot call ringingNow).1.hangupRetried = s.hangupRetried := by
    intro call ringingNow
    simp only [applyCallSnapshot, settleCallSnapshot]
    split_ifs <;> exact ⟨rfl, rfl⟩
  rw [applyIndicatorStatus_eq]
  simp only [Prod.map_fst, retried_settleStatus]
  split
  · exact hcall _ _
  · exact ⟨rfl, rfl⟩

lemma retryNotes_result (result : HfpAgResult) : RetryNotes s (s.applyResultToState result).1 (.result result) := by
  cases result with
  | ok | supportedFeatures | callHoldModes | callListEntry | error | unknown => exact .kept id id
  | ring =>
      simp only [applyResultToState, applyRing, secondSetupWhileActive]
      split_ifs <;> exact .kept id id
  | indicators names =>
      have hkept := applyIndicatorDefinitions_keeps (s := s) (fun t => (t.answerRetried, t.hangupRetried))
        (fun t index name => by simp only [noteIndicatorName]; split_ifs <;> rfl) (fun _ => rfl) names
      obtain ⟨hanswer, hhangup⟩ := Prod.mk.inj hkept
      exact .kept (hanswer.trans ·) (hhangup.trans ·)
  | indicatorUpdate index value =>
      simp only [applyResultToState, applyIndicator]
      split_ifs with hcall hsetup hheld
      · obtain ⟨hanswer, hhangup⟩ | hactive := retried_updateCallState (s := s) (value != 0)
        · exact .kept (hanswer.trans ·) (hhangup.trans ·)
        · exact .changed hactive
      · obtain ⟨hhangup, hanswer⟩ := retried_updateCallsetup (s := s) value
        by_cases hvalue : value = 1
        · exact .rang ⟨hcall, hsetup, hvalue⟩ hhangup
        · exact .kept ((hanswer hvalue).trans ·) (hhangup.trans ·)
      · simp only [updateCallheld]
        split_ifs <;> exact .kept id id
      · exact .kept id id
  | indicatorStatus values =>
      obtain ⟨hanswer, hhangup⟩ := retried_applyIndicatorStatus (s := s) values
      exact .kept (hanswer.trans ·) (hhangup.trans ·)
  | callWaitingNotification number =>
      simp only [applyResultToState, applyCallWaitingNotification]
      split_ifs <;> exact .kept id id
  | callerId number | selectedCodec codec =>
      simp only [applyResultToState]
      split_ifs <;> exact .kept id id

lemma callChanges_applyIndicatorStatus (values : List ℤ) :
    (s.applyIndicatorStatus values).1.callChanges = s.callChanges := by
  have hcall : ∀ call ringingNow, (s.applyCallSnapshot call ringingNow).1.callChanges = s.callChanges := by
    intro call ringingNow
    simp only [applyCallSnapshot, settleCallSnapshot]
    split_ifs <;> rfl
  have hsetup : ∀ (t : HfpHandsFreeState) callsetup, (t.applyCallsetupSnapshot callsetup).callChanges =
      t.callChanges := by
    intro t callsetup
    simp only [applyCallsetupSnapshot]
    split_ifs <;> rfl
  have hsettle : ∀ t : HfpHandsFreeState, (t.settleStatus values).callChanges = t.callChanges := by
    intro t
    simp only [settleStatus]
    split <;> split
    · exact hsetup t _
    · rfl
    · exact hsetup t _
    · rfl
  rw [applyIndicatorStatus_eq]
  simp only [Prod.map_fst, hsettle]
  split
  · exact hcall _ _
  · rfl

lemma callChanges_applyResultToState (result : HfpAgResult) :
    (s.applyResultToState result).1.callChanges = s.callChanges := by
  cases result with
  | ok | supportedFeatures | callHoldModes | callListEntry | error | unknown => rfl
  | ring =>
      simp only [applyResultToState, applyRing, secondSetupWhileActive]
      split_ifs <;> rfl
  | indicators names =>
      exact applyIndicatorDefinitions_keeps HfpHandsFreeState.callChanges
        (fun t index name => by simp only [noteIndicatorName]; split_ifs <;> rfl) (fun _ => rfl) names
  | indicatorUpdate index value =>
      simp only [applyResultToState, applyIndicator]
      split_ifs
      · simp only [updateCallState, callChanged]
        split_ifs <;> rfl
      · simp only [updateCallsetup, updateCallsetupIdle, updateCallsetupIncoming, updateCallsetupDialing,
          secondSetupWhileActive]
        split_ifs <;> rfl
      · simp only [updateCallheld]
        split_ifs <;> rfl
      · rfl
  | indicatorStatus values => exact callChanges_applyIndicatorStatus values
  | callWaitingNotification number =>
      simp only [applyResultToState, applyCallWaitingNotification]
      split_ifs <;> rfl
  | callerId number | selectedCodec codec =>
      simp only [applyResultToState]
      split_ifs <;> rfl

lemma hangupSentLive_applyResult (result : HfpAgResult) : (s.applyResult result).1.hangupSentLive = s.hangupSentLive :=
  congrArg (·.1.hangupSentLive) (withLive_applyResult s s.hangupSentLive result)

end Result

lemma retryNotes_step (input : HandsFreeInput) : RetryNotes s (step s input).1 input := by
  cases input with
  | result result =>
      have hresult := retryNotes_result (s := s) result
      simp only [step, applyResult]
      split_ifs
      · cases hresult with
        | kept hanswer hhangup => exact .kept hanswer hhangup
        | rang hfresh hhangup => exact .rang hfresh hhangup
        | changed hactive => exact .changed hactive
      · exact hresult
  | sent command => cases command <;> exact .kept id id
  | refused command =>
      simp only [step, afterRefusal]
      split_ifs
      · exact .kept id fun _ => rfl
      · exact .kept id id
      · exact .kept (fun _ => rfl) id
      · exact .kept id id
      · exact .kept id id
  | ready =>
      simp only [step, markServiceLevelReady]
      split_ifs <;> exact .kept id id
  | definitionsRetry =>
      simp only [step, needsIndicatorDefinitionsRetry]
      split_ifs <;> exact .kept id id
  | probeError command => cases command <;> exact .kept id id
  | ccwaAccepted | callWaitingEnabled | wbsSupported => exact .kept id id

lemma liveNote_step (input : HandsFreeInput) : LiveNote s (step s input).1 input := by
  cases input with
  | result result =>
      have hlive := hangupSentLive_applyResult (s := s) result
      by_cases hshape : (step s (.result result)).1.callShape = s.callShape
      · exact .kept hlive hshape
      · exact .changed hlive ⟨⟨result, rfl⟩, hshape⟩
  | sent command =>
      cases command with
      | rejectOrHangup => exact .hungUp rfl rfl rfl
      | dial number => exact .dialed rfl rfl
      | _ => exact .kept rfl rfl
  | refused command =>
      simp only [step, afterRefusal]
      split_ifs
      · exact .dropped rfl
      · exact .dropped rfl
      · exact .kept rfl rfl
      · exact .kept rfl rfl
      · exact .kept rfl rfl
  | ready =>
      simp only [step, markServiceLevelReady]
      split_ifs <;> exact .kept rfl rfl
  | definitionsRetry =>
      simp only [step, needsIndicatorDefinitionsRetry]
      split_ifs <;> exact .kept rfl rfl
  | probeError command => cases command <;> exact .kept rfl rfl
  | ccwaAccepted | callWaitingEnabled | wbsSupported => exact .kept rfl rfl

instance (s : HfpHandsFreeState) : DecidablePred s.ChangesCall
  | .result result => decidable_of_iff ((step s (.result result)).1.callShape ≠ s.callShape)
    ⟨fun h => ⟨⟨result, rfl⟩, h⟩, fun h => h.2⟩
  | .sent _ | .refused _ | .ready | .definitionsRetry | .probeError _ | .ccwaAccepted | .callWaitingEnabled _
  | .wbsSupported _ => .isFalse nofun

lemma callChanges_result (result : HfpAgResult) : (step s (.result result)).1.callChanges =
    s.callChanges + if s.ChangesCall (.result result) then 1 else 0 := by
  have hkept := callChanges_applyResultToState (s := s) result
  have hcounted : s.ChangesCall (.result result) ↔ (s.applyResultToState result).1.callShape ≠ s.callShape := by
    refine ⟨fun h hshape => h.2 ?_, fun h => ⟨⟨result, rfl⟩, ?_⟩⟩
    · simp only [step, applyResult, hshape, ne_eq, not_true_eq_false, if_false]
    · simp only [step, applyResult, if_pos h]
      exact h
  simp only [hcounted, step, applyResult]
  split_ifs
  · exact congrArg (· + 1) hkept
  · exact hkept.trans (UInt32.add_zero _).symm

lemma callChanges_other {input : HandsFreeInput} (hinput : ∀ result, input ≠ .result result) :
    (step s input).1.callChanges = s.callChanges := by
  cases input with
  | result result => exact absurd rfl (hinput result)
  | sent command => cases command <;> rfl
  | refused command =>
      simp only [step, afterRefusal]
      split_ifs <;> rfl
  | ready =>
      simp only [step, markServiceLevelReady]
      split_ifs <;> rfl
  | definitionsRetry =>
      simp only [step, needsIndicatorDefinitionsRetry]
      split_ifs <;> rfl
  | probeError command => cases command <;> rfl
  | ccwaAccepted | callWaitingEnabled | wbsSupported => rfl

lemma callChanges_step (input : HandsFreeInput) :
    (step s input).1.callChanges = s.callChanges + if s.ChangesCall input then 1 else 0 := by
  by_cases hinput : ∃ result, input = .result result
  · obtain ⟨result, rfl⟩ := hinput
    exact callChanges_result result
  · rw [if_neg fun h => hinput h.1, UInt32.add_zero]
    exact callChanges_other fun result h => hinput ⟨result, h⟩

end HfpHandsFreeState

end Aokie.Radio.Hfp
