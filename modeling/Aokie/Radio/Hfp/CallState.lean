import Aokie.Radio.Hfp.HandsFree

/-! What the results of the phone leave alone in the call state: readiness, and the note of when a hang-up
was sent, which nothing reads but the answer to a refusal. -/

namespace Aokie.Radio.Hfp

open Aokie.Lib

namespace HfpHandsFreeState

abbrev withLive (s : HfpHandsFreeState) (live : Option UInt32) : HfpHandsFreeState := { s with hangupSentLive := live }

variable (s : HfpHandsFreeState) (live : Option UInt32)

lemma withLive_shouldSkipSlcCommand : (s.withLive live).shouldSkipSlcCommand = s.shouldSkipSlcCommand := by
  funext command
  cases command <;> rfl

lemma withLive_noteSlcProbeError (command : HfpAtCommand) :
    (s.withLive live).noteSlcProbeError command =
      (s.noteSlcProbeError command).map (·.withLive live) id := by
  cases command <;> rfl

lemma withLive_needsIndicatorDefinitionsRetry :
    (s.withLive live).needsIndicatorDefinitionsRetry =
      s.needsIndicatorDefinitionsRetry.map (·.withLive live) id := by
  simp only [needsIndicatorDefinitionsRetry]
  split_ifs <;> rfl

lemma withLive_markServiceLevelReady :
    (s.withLive live).markServiceLevelReady = s.markServiceLevelReady.map (·.withLive live) id := by
  simp only [markServiceLevelReady]
  split_ifs <;> rfl

lemma withLive_markCommandSent (command : HfpAtCommand) :
    ∃ live', (s.withLive live).markCommandSent command = (s.markCommandSent command).withLive live' := by
  cases command with
  | rejectOrHangup => exact ⟨(s.markCommandSent .rejectOrHangup).hangupSentLive, rfl⟩
  | _ => exact ⟨live, rfl⟩

lemma withLive_secondSetupWhileActive :
    (s.withLive live).secondSetupWhileActive = s.secondSetupWhileActive.map (·.withLive live) id := by
  have hnegotiated : (s.withLive live).threeWayNegotiated = s.threeWayNegotiated := rfl
  simp only [secondSetupWhileActive, hnegotiated]
  split_ifs <;> rfl

lemma withLive_updateCallheld (value : ℤ) :
    (s.withLive live).updateCallheld value = (s.updateCallheld value).map (·.withLive live) id := by
  simp only [updateCallheld]
  split_ifs <;> rfl

lemma withLive_updateCallsetupIdle :
    (s.withLive live).updateCallsetupIdle = s.updateCallsetupIdle.map (·.withLive live) id := by
  simp only [updateCallsetupIdle]
  split_ifs <;> rfl

lemma withLive_updateCallsetupIncoming :
    (s.withLive live).updateCallsetupIncoming = s.updateCallsetupIncoming.map (·.withLive live) id := by
  have hnegotiated : (s.withLive live).threeWayNegotiated = s.threeWayNegotiated := rfl
  simp only [updateCallsetupIncoming, hnegotiated, withLive_secondSetupWhileActive]
  split_ifs <;> rfl

lemma withLive_updateCallsetupDialing :
    (s.withLive live).updateCallsetupDialing = s.updateCallsetupDialing.map (·.withLive live) id := by
  simp only [updateCallsetupDialing]
  split_ifs <;> rfl

lemma withLive_updateCallsetup (value : ℤ) :
    (s.withLive live).updateCallsetup value = (s.updateCallsetup value).map (·.withLive live) id := by
  simp only [updateCallsetup, withLive_updateCallsetupIdle, withLive_updateCallsetupIncoming,
    withLive_updateCallsetupDialing]
  split_ifs <;> rfl

lemma withLive_callChanged (active : Bool) :
    (s.withLive live).callChanged active = (s.callChanged active).map (·.withLive live) id := by
  simp only [callChanged]
  split_ifs <;> rfl

/-- What the `call` indicator clears before it is compared with the state. -/
def noteCallState (active : Bool) : HfpHandsFreeState :=
  let s := { s with setupRefused := false }
  let s := if active != s.callActive then { s with answerRetried := false, hangupRetried := false } else s
  if active then { s with terminatePending := false } else s

lemma updateCallState_eq (active : Bool) : s.updateCallState active =
    if active == (s.noteCallState active).callActive then
      if !active && (s.noteCallState active).terminatePending then
        ({ s.noteCallState active with terminatePending := false }, [.callTerminated])
      else (s.noteCallState active, [])
    else (s.noteCallState active).callChanged active := rfl

lemma withLive_noteCallState (active : Bool) :
    (s.withLive live).noteCallState active = (s.noteCallState active).withLive live := by
  simp only [noteCallState]
  split_ifs <;> rfl

lemma withLive_updateCallState (active : Bool) :
    (s.withLive live).updateCallState active = (s.updateCallState active).map (·.withLive live) id := by
  simp only [updateCallState_eq, withLive_noteCallState, withLive_callChanged]
  split_ifs <;> rfl

lemma withLive_applyIndicator (index : UInt8) (value : ℤ) :
    (s.withLive live).applyIndicator index value = (s.applyIndicator index value).map (·.withLive live) id := by
  simp only [applyIndicator, withLive_updateCallState, withLive_updateCallsetup, withLive_updateCallheld]
  split_ifs <;> rfl

lemma withLive_noteIndicatorName (index : UInt8) (name : String) :
    (s.withLive live).noteIndicatorName index name = (s.noteIndicatorName index name).withLive live := by
  simp only [noteIndicatorName]
  split_ifs <;> rfl

lemma withLive_foldl_noteIndicatorName (names : List (String × ℕ)) :
    names.foldl (fun s (name, index) => s.noteIndicatorName (UInt8.ofNat (index + 1)) name) (s.withLive live) =
      (names.foldl (fun s (name, index) => s.noteIndicatorName (UInt8.ofNat (index + 1)) name) s).withLive live := by
  induction names generalizing s with
  | nil => rfl
  | cons name names ih =>
      obtain ⟨name, index⟩ := name
      simp only [List.foldl_cons, withLive_noteIndicatorName, ih]

lemma withLive_applyIndicatorDefinitions (names : List String) :
    (s.withLive live).applyIndicatorDefinitions names = (s.applyIndicatorDefinitions names).withLive live := by
  simp only [applyIndicatorDefinitions, withLive_foldl_noteIndicatorName]
  split_ifs <;> rfl

lemma withLive_settleCallSnapshot (active ringingNow : Bool) :
    (s.withLive live).settleCallSnapshot active ringingNow =
      (s.settleCallSnapshot active ringingNow).map (·.withLive live) id := by
  simp only [settleCallSnapshot]
  split_ifs <;> rfl

lemma withLive_applyCallSnapshot (call : ℤ) (ringingNow : Bool) :
    (s.withLive live).applyCallSnapshot call ringingNow =
      (s.applyCallSnapshot call ringingNow).map (·.withLive live) id := by
  simp only [applyCallSnapshot, withLive_settleCallSnapshot]
  split_ifs <;> rfl

lemma withLive_applyCallsetupSnapshot (callsetup : ℤ) :
    (s.withLive live).applyCallsetupSnapshot callsetup = (s.applyCallsetupSnapshot callsetup).withLive live := by
  simp only [applyCallsetupSnapshot]
  split_ifs <;> rfl

/-- The part of a status read that follows the `call` value. -/
def settleStatus (values : List ℤ) : HfpHandsFreeState :=
  let s := match indicatorStatusValue values s.callsetupIndicatorIndex with
    | some callsetup => s.applyCallsetupSnapshot callsetup
    | none => s
  match s.callheldIndicatorIndex.bind (indicatorStatusValue values) with
  | some held => { s with callHeld := held }
  | none => s

lemma applyIndicatorStatus_eq (values : List ℤ) : s.applyIndicatorStatus values =
    (match indicatorStatusValue values s.callIndicatorIndex with
      | some call => s.applyCallSnapshot call (indicatorStatusValue values s.callsetupIndicatorIndex == some 1)
      | none => (s, [])).map (fun t => settleStatus t values) id := rfl

lemma withLive_settleStatus (values : List ℤ) :
    (s.withLive live).settleStatus values = (s.settleStatus values).withLive live := by
  have hheld : ∀ t : HfpHandsFreeState,
      (match (t.withLive live).callheldIndicatorIndex.bind (indicatorStatusValue values) with
        | some held => { t.withLive live with callHeld := held }
        | none => t.withLive live) =
      HfpHandsFreeState.withLive (match t.callheldIndicatorIndex.bind (indicatorStatusValue values) with
        | some held => { t with callHeld := held }
        | none => t) live := by
    intro t
    change (match t.callheldIndicatorIndex.bind (indicatorStatusValue values) with
      | some held => { t.withLive live with callHeld := held }
      | none => t.withLive live) = _
    cases t.callheldIndicatorIndex.bind (indicatorStatusValue values) <;> rfl
  simp only [settleStatus]
  cases hsetup : indicatorStatusValue values s.callsetupIndicatorIndex with
  | none => exact hheld s
  | some callsetup =>
      simp only [withLive_applyCallsetupSnapshot]
      exact hheld _

lemma withLive_applyIndicatorStatus (values : List ℤ) :
    (s.withLive live).applyIndicatorStatus values =
      (s.applyIndicatorStatus values).map (·.withLive live) id := by
  simp only [applyIndicatorStatus_eq]
  cases hcall : indicatorStatusValue values s.callIndicatorIndex with
  | none => exact congrArg (·, []) (withLive_settleStatus s live values)
  | some call =>
      simp only [withLive_applyCallSnapshot]
      exact congrArg (·, _) (withLive_settleStatus _ live values)

lemma withLive_applyRing : (s.withLive live).applyRing = s.applyRing.map (·.withLive live) id := by
  have hsetup := withLive_secondSetupWhileActive { s with terminatePending := false } live
  simp only [applyRing]
  split_ifs
  · rfl
  · exact hsetup
  · rfl

lemma withLive_applyCallWaitingNotification (number : String) :
    (s.withLive live).applyCallWaitingNotification number =
      (s.applyCallWaitingNotification number).map (·.withLive live) id := by
  simp only [applyCallWaitingNotification]
  split_ifs <;> rfl

lemma withLive_applyResultToState (result : HfpAgResult) :
    (s.withLive live).applyResultToState result = (s.applyResultToState result).map (·.withLive live) id := by
  cases result with
  | ok | supportedFeatures features | callHoldModes modes | callListEntry entry | error | unknown line => rfl
  | ring => exact withLive_applyRing s live
  | indicators names => exact congrArg (·, []) (withLive_applyIndicatorDefinitions s live names)
  | indicatorUpdate index value => exact withLive_applyIndicator s live index value
  | indicatorStatus values => exact withLive_applyIndicatorStatus s live values
  | callWaitingNotification number => exact withLive_applyCallWaitingNotification s live number
  | callerId number =>
      simp only [applyResultToState]
      split_ifs <;> rfl
  | selectedCodec codec =>
      have hoffered : (s.withLive live).codecOffered codec = s.codecOffered codec := rfl
      simp only [applyResultToState, hoffered]
      split_ifs <;> rfl

theorem withLive_applyResult (result : HfpAgResult) :
    (s.withLive live).applyResult result = (s.applyResult result).map (·.withLive live) id := by
  have hshape : ∀ t : HfpHandsFreeState, (t.withLive live).callShape = t.callShape := fun _ => rfl
  simp only [applyResult, withLive_applyResultToState, Prod.map_fst, Prod.map_snd, hshape]
  split_ifs <;> rfl

section Ready

lemma ready_secondSetupWhileActive : s.secondSetupWhileActive.1.serviceLevelReady = s.serviceLevelReady := by
  simp only [secondSetupWhileActive]
  split_ifs <;> rfl

lemma ready_updateCallsetup (value : ℤ) :
    (s.updateCallsetup value).1.serviceLevelReady = s.serviceLevelReady := by
  have hsecond := ready_secondSetupWhileActive s
  simp only [updateCallsetup, updateCallsetupIdle, updateCallsetupIncoming, updateCallsetupDialing]
  split_ifs
  all_goals first
    | rfl
    | exact hsecond

lemma ready_noteCallState (active : Bool) : (s.noteCallState active).serviceLevelReady = s.serviceLevelReady := by
  simp only [noteCallState]
  split_ifs <;> rfl

lemma ready_updateCallState (active : Bool) :
    (s.updateCallState active).1.serviceLevelReady = s.serviceLevelReady := by
  rw [← ready_noteCallState s active]
  simp only [updateCallState_eq, callChanged]
  split_ifs <;> rfl

lemma ready_applyIndicator (index : UInt8) (value : ℤ) :
    (s.applyIndicator index value).1.serviceLevelReady = s.serviceLevelReady := by
  simp only [applyIndicator, updateCallheld]
  split_ifs
  · exact ready_updateCallState s _
  · exact ready_updateCallsetup s value
  · rfl
  · rfl
  · rfl

lemma ready_foldl_noteIndicatorName (names : List (String × ℕ)) :
    (names.foldl (fun s (name, index) => s.noteIndicatorName (UInt8.ofNat (index + 1)) name) s).serviceLevelReady =
      s.serviceLevelReady := by
  induction names generalizing s with
  | nil => rfl
  | cons name names ih =>
      rw [List.foldl_cons, ih]
      simp only [noteIndicatorName]
      split_ifs <;> rfl

lemma ready_applyIndicatorDefinitions (names : List String) :
    (s.applyIndicatorDefinitions names).serviceLevelReady = s.serviceLevelReady := by
  have hfold := ready_foldl_noteIndicatorName s names.zipIdx
  simp only [applyIndicatorDefinitions]
  split_ifs <;> exact hfold

lemma ready_applyCallSnapshot (call : ℤ) (ringingNow : Bool) :
    (s.applyCallSnapshot call ringingNow).1.serviceLevelReady = s.serviceLevelReady := by
  have hsettle : (s.settleCallSnapshot (call != 0) ringingNow).1.serviceLevelReady = s.serviceLevelReady := by
    simp only [settleCallSnapshot]
    split_ifs <;> rfl
  simp only [applyCallSnapshot]
  split_ifs <;> exact hsettle

lemma ready_settleStatus (values : List ℤ) : (s.settleStatus values).serviceLevelReady = s.serviceLevelReady := by
  have hsetup : ∀ callsetup, (s.applyCallsetupSnapshot callsetup).serviceLevelReady = s.serviceLevelReady := by
    intro callsetup
    simp only [applyCallsetupSnapshot]
    split_ifs <;> rfl
  simp only [settleStatus]
  split <;> split
  · exact hsetup _
  · rfl
  · exact hsetup _
  · rfl

lemma ready_applyIndicatorStatus (values : List ℤ) :
    (s.applyIndicatorStatus values).1.serviceLevelReady = s.serviceLevelReady := by
  rw [applyIndicatorStatus_eq]
  simp only [Prod.map_fst, ready_settleStatus]
  split
  · exact ready_applyCallSnapshot s _ _
  · rfl

lemma ready_applyResult (result : HfpAgResult) :
    (s.applyResult result).1.serviceLevelReady = s.serviceLevelReady := by
  have hstate : (s.applyResultToState result).1.serviceLevelReady = s.serviceLevelReady := by
    cases result with
    | ok | supportedFeatures features | callHoldModes modes | callListEntry entry | error | unknown line => rfl
    | ring =>
        have hsecond := ready_secondSetupWhileActive { s with terminatePending := false }
        simp only [applyResultToState, applyRing]
        split_ifs
        · rfl
        · exact hsecond
        · rfl
    | indicators names => exact ready_applyIndicatorDefinitions s names
    | indicatorUpdate index value => exact ready_applyIndicator s index value
    | indicatorStatus values => exact ready_applyIndicatorStatus s values
    | callWaitingNotification number =>
        simp only [applyResultToState, applyCallWaitingNotification]
        split_ifs <;> rfl
    | callerId number | selectedCodec codec =>
        simp only [applyResultToState]
        split_ifs <;> rfl
  simp only [applyResult]
  split_ifs <;> exact hstate

lemma ready_markCommandSent (command : HfpAtCommand) :
    (s.markCommandSent command).serviceLevelReady = s.serviceLevelReady := by
  cases command <;> rfl

lemma ready_noteSlcProbeError (command : HfpAtCommand) :
    (s.noteSlcProbeError command).1.serviceLevelReady = s.serviceLevelReady := by
  cases command <;> rfl

end Ready

lemma applyResult_ok : s.applyResult .ok = ({ s with supportedFeaturesExchanged := true }, []) := by
  simp [applyResult, applyResultToState, callShape]

lemma applyResult_error : s.applyResult .error = (s, []) := by
  simp [applyResult, applyResultToState]

end HfpHandsFreeState

end Aokie.Radio.Hfp
