import Aokie.Plugin.Transfer.Runs

/-! What a withdrawal by OAIY is answered with. -/

namespace Aokie.Plugin.Transfer

open Aokie.Lib Aokie.Plugin.RemoteMedia Aokie.Plugin.Assistance

inductive CancelAnswer
  | cancelled | tooLate | unknownRequest
  deriving DecidableEq, Repr

def answerTo (requestId : String) : Effect → Option CancelAnswer
  | .outcome frame =>
      if frame.requestId = requestId ∧ frame.outcome = .cancelled then some .cancelled else none
  | .notice frame =>
      if frame.requestId ≠ requestId then none
      else match frame.notice with
        | .tooLate => some .tooLate
        | .unknownRequest => some .unknownRequest
  | .toolAnswer _ _ | .audit _ => none

def answersTo (requestId : String) (effects : List Effect) : List CancelAnswer := effects.filterMap (answerTo requestId)

def Truthful (requestId : String) (r : World × List Effect) : Prop :=
  ∃ answer, answersTo requestId r.2 = [answer] ∧
    match answer with
    | .cancelled => r.1.call.stage = .idle ∧ r.1.broker.inner.any (·.requestId == requestId) = false
    | .tooLate => ∃ request, r.1.call.stage = .accepted request ∧ request.requestId = requestId
    | .unknownRequest => r.1.call.requestId ≠ some requestId

namespace World

variable (uuid : ℕ → String) (sanitizeOwnerMessage : String → Option String) (hashOne : List Char → ℕ)

/-- Once a withdrawal is reported, every later one of the same request changes nothing. -/
def CancelledOnce (requestId : String) (r : World × List Effect) : Prop :=
  CancelAnswer.cancelled ∈ answersTo requestId r.2 → ∀ acts env first l,
    ((act uuid sanitizeOwnerMessage hashOne).final r.1 acts).cancelRequested uuid sanitizeOwnerMessage env requestId
        first l =
      ((act uuid sanitizeOwnerMessage hashOne).final r.1 acts, [.notice ⟨requestId, .unknownRequest, env.unixMs⟩])

/-- The first look finds the request ringing, but an endpoint has it, or has resolved it, by the withdrawal. -/
def Overtaken (env : TransferEnv) (request : Open) (first : OpenLooks) (withdrawing : Look) (w : World) : Prop :=
  w.stillOpen uuid request first = true ∧ env.now < request.hardDeadline ∧ w.won uuid request first = false ∧
    ((((w.look uuid first.waiting).look uuid first.won).look uuid withdrawing).broker.withdrawIfUnaccepted
      request.requestId).2 ∈ [Withdrawal.won, Withdrawal.resolved]

def Misread (request : Open) (first : OpenLooks) (withdrawing : Look) (second : OpenLooks) (w : World) : Prop :=
  second.consent.consents = false ∨
    (((w.look uuid first.waiting).look uuid first.won).look uuid withdrawing).stillOpen uuid request second = true ∧
      (((w.look uuid first.waiting).look uuid first.won).look uuid withdrawing).won uuid request second = false

/-- The call and the consent stand, and nothing is misread once the withdrawal was overtaken. -/
def AnswersTruly (env : TransferEnv) (requestId : String) (first : PollLooks) (l : WithdrawLooks) (w : World) : Prop :=
  ∀ request, w.call.stage = .ringing request ∨ w.call.stage = .accepted request → request.requestId = requestId →
    Undisturbed env request first.request (decide (w.call.stage = .accepted request)) ∧
      (w.Overtaken uuid env request first.request l.withdrawing →
        ¬w.Misread uuid request first.request l.withdrawing l.poll.request)

variable {uuid sanitizeOwnerMessage hashOne} {env : TransferEnv} {requestId : String} {request : Open} {w : World}

section Answers

lemma answersTo_append (effects more : List Effect) :
    answersTo requestId (effects ++ more) = answersTo requestId effects ++ answersTo requestId more :=
  List.filterMap_append

lemma answersTo_audit (event : Option AuditEvent) : answersTo requestId (event.toList.map .audit) = [] := by
  cases event with
  | none => rfl
  | some event => rfl

lemma answersTo_cancel (l : CancelLooks) (hid : request.requestId = requestId) :
    answersTo requestId (w.cancel uuid env request l).2 = [.cancelled] := by
  rw [cancel_effects, answersTo, List.filterMap_cons]
  have hcancelled : answerTo requestId (.outcome ⟨request.requestId, .cancelled, none, env.unixMs⟩) =
      some .cancelled := if_pos ⟨hid, rfl⟩
  rw [hcancelled]
  exact congrArg (CancelAnswer.cancelled :: ·) (answersTo_audit _)

variable (sanitizeOwnerMessage request) in
lemma ending_not_cancelled (resolution : AssistanceResolution) :
    (ending sanitizeOwnerMessage request resolution).1 ≠ some .cancelled := by
  cases resolution with
  | expired =>
      rw [ending]
      split_ifs <;> simp
  | _ => simp [ending]

lemma answersTo_finish (resolution : AssistanceResolution) (dropping : Look) :
    answersTo requestId (w.finish uuid sanitizeOwnerMessage env request resolution dropping).2 = [] := by
  have hne := ending_not_cancelled sanitizeOwnerMessage request resolution
  rw [finish]
  generalize ending sanitizeOwnerMessage request resolution = told at hne
  obtain ⟨outcome, message, audit, ended⟩ := told
  dsimp only at hne ⊢
  rw [answersTo_append, answersTo_audit, List.append_nil]
  cases outcome with
  | none => rfl
  | some outcome =>
      have hnone : answerTo requestId (.outcome ⟨request.requestId, outcome, message, env.unixMs⟩) = none :=
        if_neg fun h => hne (congrArg some h.2)
      simp [answersTo, hnone]

lemma answersTo_accepted (sent : Prop) [Decidable sent] : answersTo requestId
    (if sent then [Effect.outcome ⟨request.requestId, .accepted, none, env.unixMs⟩] else []) = [] := by
  have hnone : answerTo requestId (.outcome ⟨request.requestId, .accepted, none, env.unixMs⟩) = none :=
    if_neg fun h => by cases h.2
  split_ifs
  · simp [answersTo, hnone]
  · rfl

end Answers

section Notice

lemma truthful_of_unknown {effects : List Effect} (heffects : answersTo requestId effects = [])
    (hid : w.call.requestId ≠ some requestId) : Truthful requestId (w, effects ++ [notice env requestId w]) := by
  have hnotice : notice env requestId w = .notice ⟨requestId, .unknownRequest, env.unixMs⟩ := by
    rw [notice]
    cases hstage : w.call.stage with
    | accepted request =>
        refine if_neg fun heq => hid ?_
        rw [TransferCall.requestId, hstage]
        exact congrArg some heq
    | _ => rfl
  refine ⟨.unknownRequest, ?_, hid⟩
  rw [answersTo_append, heffects, hnotice]
  simp [answersTo, answerTo]

lemma truthful_notice_iff (accepted : Bool) (l : OpenLooks) (hidle : w.call.stage = .idle)
    (hid : request.requestId = requestId) :
    Truthful requestId ((w.pollOpen uuid sanitizeOwnerMessage env request accepted l).1,
        (w.pollOpen uuid sanitizeOwnerMessage env request accepted l).2 ++
          [notice env requestId (w.pollOpen uuid sanitizeOwnerMessage env request accepted l).1]) ↔
      Undisturbed env request l accepted ∧
        (w.stillOpen uuid request l = true → env.now < request.hardDeadline → w.won uuid request l = true) := by
  by_cases hcalm : Undisturbed env request l accepted
  · have hover : ∀ (w' : World) (ended : List Effect), w'.call.stage = .idle → answersTo requestId ended = [] →
        Truthful requestId (w', ended ++ [notice env requestId w']) := by
      intro w' ended hidle hended
      refine truthful_of_unknown hended ?_
      rw [requestId_of_idle hidle]
      exact nofun
    cases hopen : w.stillOpen uuid request l with
    | false =>
        rw [pollOpen_over hcalm hopen]
        exact iff_of_true (hover _ _ hidle (answersTo_finish _ _)) ⟨hcalm, fun h => by cases h⟩
    | true =>
        obtain hlate | hlate := Nat.lt_or_ge env.now request.hardDeadline
        · rw [pollOpen_ring hcalm hopen hlate]
          cases hwon : w.won uuid request l with
          | true =>
              refine iff_of_true ⟨.tooLate, ?_, ⟨_, rfl, hid⟩⟩ ⟨hcalm, fun _ _ => rfl⟩
              rw [answersTo_append, answersTo_accepted]
              have hnotice : answersTo requestId [Effect.notice ⟨requestId, .tooLate, env.unixMs⟩] = [.tooLate] := by
                simp [answersTo, answerTo]
              refine Eq.trans ?_ hnotice
              exact congrArg (fun e => answersTo requestId [e]) (if_pos hid)
          | false =>
              refine iff_of_false ?_ fun h => by simpa using h.2 rfl hlate
              rintro ⟨answer, hanswer, hstate⟩
              have hnotice : answersTo requestId [Effect.notice ⟨requestId, .unknownRequest, env.unixMs⟩] =
                  [.unknownRequest] := by
                simp [answersTo, answerTo]
              rw [answersTo_append, answersTo_accepted] at hanswer
              obtain rfl : CancelAnswer.unknownRequest = answer := by
                simpa using hnotice.symm.trans hanswer
              exact hstate (congrArg some hid)
        · rw [pollOpen_late hcalm hopen hlate]
          exact iff_of_true (hover _ _ hidle (answersTo_finish _ _))
            ⟨hcalm, fun _ h => absurd h (Nat.not_lt.mpr hlate)⟩
  · rw [pollOpen_disturbed hcalm]
    refine iff_of_false ?_ fun h => hcalm h.1
    rintro ⟨answer, hanswer, -⟩
    -- the outcome has answered already
    have hnotice : notice env requestId (w.cancel uuid env request ⟨l.discarding, l.dropping⟩).1 =
        .notice ⟨requestId, .unknownRequest, env.unixMs⟩ := by
      rw [notice, cancel_call, noteEnd_stage, hidle]
    rw [hnotice, answersTo_append, answersTo_cancel _ hid] at hanswer
    simp [answersTo, answerTo] at hanswer

end Notice

section Withdrawal

@[simp] lemma stillOpen_setStage (stage : Stage) (looks : OpenLooks) :
    (w.setStage stage).stillOpen uuid request looks = w.stillOpen uuid request looks := rfl

@[simp] lemma won_setStage (stage : Stage) (looks : OpenLooks) :
    (w.setStage stage).won uuid request looks = w.won uuid request looks := rfl

variable (sanitizeOwnerMessage env) in
lemma withdrawUnwon_withdrawn {l : WithdrawLooks}
    (h : ((w.look uuid l.withdrawing).broker.withdrawIfUnaccepted request.requestId).2 ∉
      [Withdrawal.won, Withdrawal.resolved]) :
    w.withdrawUnwon uuid sanitizeOwnerMessage env request l =
      ((((w.look uuid l.withdrawing).own uuid (.withdrawIfUnaccepted request.requestId)).cancel uuid env request
          l.cancel).1,
        (((w.look uuid l.withdrawing).own uuid (.withdrawIfUnaccepted request.requestId)).cancel uuid env request
          l.cancel).2, true) := by
  rw [withdrawUnwon]
  dsimp only
  split
  · rfl
  · rfl
  · simp_all
  · simp_all

variable (sanitizeOwnerMessage env) in
lemma withdrawUnwon_overtaken {l : WithdrawLooks}
    (h : ((w.look uuid l.withdrawing).broker.withdrawIfUnaccepted request.requestId).2 ∈
      [Withdrawal.won, Withdrawal.resolved]) :
    w.withdrawUnwon uuid sanitizeOwnerMessage env request l =
      (((((w.look uuid l.withdrawing).own uuid (.withdrawIfUnaccepted request.requestId)).setStage
          (.ringing request)).poll uuid sanitizeOwnerMessage env l.poll).1,
        ((((w.look uuid l.withdrawing).own uuid (.withdrawIfUnaccepted request.requestId)).setStage
          (.ringing request)).poll uuid sanitizeOwnerMessage env l.poll).2, false) := by
  rw [withdrawUnwon]
  dsimp only
  split
  · simp_all
  · simp_all
  · rfl
  · rfl

lemma poll_open {accepted : Bool} (l : PollLooks)
    (hstage : w.call.stage = if accepted then .accepted request else .ringing request) :
    w.poll uuid sanitizeOwnerMessage env l =
      (w.setStage .idle).pollOpen uuid sanitizeOwnerMessage env request accepted l.request := by
  rw [poll, hstage]
  cases accepted with
  | false => rfl
  | true => rfl

lemma cancelRequested_other (h : w.call.requestId ≠ some requestId) (first : PollLooks) (l : WithdrawLooks) :
    w.cancelRequested uuid sanitizeOwnerMessage env requestId first l =
      (w, [.notice ⟨requestId, .unknownRequest, env.unixMs⟩]) := if_pos h

variable {accepted : Bool} {first : PollLooks} {l : WithdrawLooks}

lemma cancelRequested_not_ringing (hopen : w.call.requestId = some requestId)
    (hstage : ∀ request, (w.poll uuid sanitizeOwnerMessage env first).1.call.stage ≠ .ringing request) :
    w.cancelRequested uuid sanitizeOwnerMessage env requestId first l =
      ((w.poll uuid sanitizeOwnerMessage env first).1, (w.poll uuid sanitizeOwnerMessage env first).2 ++
        [notice env requestId (w.poll uuid sanitizeOwnerMessage env first).1]) := by
  rw [cancelRequested, if_neg (not_not.mpr hopen)]
  dsimp only
  split
  · rename_i request hringing
    exact absurd hringing (hstage request)
  · rfl

lemma cancelRequested_withdrawn {v : World} (hopen : w.call.requestId = some requestId)
    (hid : request.requestId = requestId) (hpoll : w.poll uuid sanitizeOwnerMessage env first = (v, []))
    (hstage : v.call.stage = .ringing request)
    (h : ((v.look uuid l.withdrawing).broker.withdrawIfUnaccepted request.requestId).2 ∉
      [Withdrawal.won, Withdrawal.resolved]) :
    w.cancelRequested uuid sanitizeOwnerMessage env requestId first l =
      (((v.setStage .idle).look uuid l.withdrawing).own uuid (.withdrawIfUnaccepted request.requestId)).cancel uuid env
        request l.cancel := by
  have hwithdrawn := withdrawUnwon_withdrawn sanitizeOwnerMessage env (w := v.setStage .idle) h
  rw [cancelRequested, if_neg (not_not.mpr hopen), hpoll]
  simp only [hstage, if_pos hid, hwithdrawn, if_true, List.nil_append, Prod.mk.eta]

lemma cancelRequested_overtaken {v : World} (hopen : w.call.requestId = some requestId)
    (hid : request.requestId = requestId) (hpoll : w.poll uuid sanitizeOwnerMessage env first = (v, []))
    (hstage : v.call.stage = .ringing request)
    (h : ((v.look uuid l.withdrawing).broker.withdrawIfUnaccepted request.requestId).2 ∈
      [Withdrawal.won, Withdrawal.resolved]) :
    w.cancelRequested uuid sanitizeOwnerMessage env requestId first l =
      (let r := ((((v.setStage .idle).look uuid l.withdrawing).own uuid
          (.withdrawIfUnaccepted request.requestId)).setStage .idle).pollOpen uuid sanitizeOwnerMessage env
            request false l.poll.request
       (r.1, r.2 ++ [notice env requestId r.1])) := by
  have hovertaken := withdrawUnwon_overtaken sanitizeOwnerMessage env (w := v.setStage .idle) h
  rw [cancelRequested, if_neg (not_not.mpr hopen), hpoll]
  simp only [hstage, if_pos hid, hovertaken, Bool.false_eq_true, if_false, List.nil_append]
  rfl

end Withdrawal

section Main

variable {accepted : Bool} {first : PollLooks} {l : WithdrawLooks}

variable (uuid) in
lemma withdraw_keeps {broker : AssistanceBroker}
    (h : (broker.withdrawIfUnaccepted requestId).2 = .won ∨ (broker.withdrawIfUnaccepted requestId).2 = .resolved) :
    broker.perform uuid (.withdrawIfUnaccepted requestId) = broker := by
  rw [AssistanceBroker.perform]
  rw [AssistanceBroker.withdrawIfUnaccepted] at h ⊢
  cases hfound : broker.inner.filter (·.requestId == requestId) with
  | none => simp [hfound] at h
  | some pending =>
      simp only [hfound] at h ⊢
      split_ifs at h ⊢
      · rfl
      · rfl
      · simp at h

lemma not_cancelled_notice (w : World) : answerTo requestId (notice env requestId w) ≠ some .cancelled := by
  rw [notice]
  split
  · split_ifs <;> simp [answerTo]
  · simp [answerTo]

lemma idle_of_cancelled {looks : OpenLooks} (hidle : w.call.stage = .idle)
    (h : CancelAnswer.cancelled ∈ answersTo requestId
      ((w.pollOpen uuid sanitizeOwnerMessage env request accepted looks).2 ++
        [notice env requestId (w.pollOpen uuid sanitizeOwnerMessage env request accepted looks).1])) :
    (w.pollOpen uuid sanitizeOwnerMessage env request accepted looks).1.call.stage = .idle := by
  by_cases hcalm : Undisturbed env request looks accepted
  · cases hopen : w.stillOpen uuid request looks with
    | false =>
        rw [pollOpen_over hcalm hopen]
        exact hidle
    | true =>
        obtain hlate | hlate := Nat.lt_or_ge env.now request.hardDeadline
        · rw [pollOpen_ring hcalm hopen hlate, answersTo_append, answersTo_accepted] at h
          obtain ⟨effect, heffect, hanswer⟩ := List.mem_filterMap.mp h
          rw [List.mem_singleton.mp heffect] at hanswer
          exact absurd hanswer (not_cancelled_notice _)
        · rw [pollOpen_late hcalm hopen hlate]
          exact hidle
  · rw [pollOpen_disturbed hcalm]
    exact hidle

lemma pollOpen_not_ringing {looks : OpenLooks} (hidle : w.call.stage = .idle)
    (hcalm : Undisturbed env request looks accepted)
    (h : ¬(w.stillOpen uuid request looks = true ∧ env.now < request.hardDeadline ∧ w.won uuid request looks = false))
    (other : Open) :
    (w.pollOpen uuid sanitizeOwnerMessage env request accepted looks).1.call.stage ≠ .ringing other := by
  have hended : ∀ w' : World, w'.call.stage = .idle → w'.call.stage ≠ .ringing other := by
    intro w' hidle
    rw [hidle]
    exact nofun
  cases hwaits : w.stillOpen uuid request looks with
  | false =>
      rw [pollOpen_over hcalm hwaits]
      exact hended _ hidle
  | true =>
      obtain hnow | hnow := Nat.lt_or_ge env.now request.hardDeadline
      · rw [pollOpen_ring hcalm hwaits hnow]
        have hwon : w.won uuid request looks = true := by
          by_contra hwon
          exact h ⟨hwaits, hnow, Bool.eq_false_of_not_eq_true hwon⟩
        rw [hwon]
        exact nofun
      · rw [pollOpen_late hcalm hwaits hnow]
        exact hended _ hidle

variable (sanitizeOwnerMessage l) in
lemma cancelRequested_cases (hstage : w.call.stage = if accepted then .accepted request else .ringing request)
    (hid : request.requestId = requestId) (hcalm : Undisturbed env request first.request accepted) :
    (∃ r : World × List Effect, r.1.call.stage = .idle ∧ answersTo requestId r.2 = [.cancelled] ∧
        r.1.broker.inner.any (·.requestId == requestId) = false ∧
          ¬w.Overtaken uuid env request first.request l.withdrawing ∧
        w.cancelRequested uuid sanitizeOwnerMessage env requestId first l = r) ∨
      (w.Overtaken uuid env request first.request l.withdrawing ∧ ∃ w' : World, w'.call.stage = .idle ∧
        w'.broker = (((w.look uuid first.request.waiting).look uuid first.request.won).look uuid l.withdrawing).broker ∧
        w.cancelRequested uuid sanitizeOwnerMessage env requestId first l =
          ((w'.pollOpen uuid sanitizeOwnerMessage env request false l.poll.request).1,
            (w'.pollOpen uuid sanitizeOwnerMessage env request false l.poll.request).2 ++
              [notice env requestId (w'.pollOpen uuid sanitizeOwnerMessage env request false l.poll.request).1])) ∨
      (¬w.Overtaken uuid env request first.request l.withdrawing ∧
        (w.stillOpen uuid request first.request = true → env.now < request.hardDeadline →
          w.won uuid request first.request = true) ∧
        w.cancelRequested uuid sanitizeOwnerMessage env requestId first l =
          (((w.setStage .idle).pollOpen uuid sanitizeOwnerMessage env request accepted first.request).1,
            ((w.setStage .idle).pollOpen uuid sanitizeOwnerMessage env request accepted first.request).2 ++
              [notice env requestId
                ((w.setStage .idle).pollOpen uuid sanitizeOwnerMessage env request accepted first.request).1])) := by
  have hopen : w.call.requestId = some requestId := by
    rw [TransferCall.requestId, hstage, ← hid]
    cases accepted <;> rfl
  have hpoll : w.poll uuid sanitizeOwnerMessage env first =
      (w.setStage .idle).pollOpen uuid sanitizeOwnerMessage env request accepted first.request := poll_open first hstage
  by_cases hring : w.stillOpen uuid request first.request = true ∧ env.now < request.hardDeadline ∧
      w.won uuid request first.request = false
  swap
  · -- the first look settles it
    refine Or.inr (Or.inr ⟨fun h => hring ⟨h.1, h.2.1, h.2.2.1⟩, fun hwaits hnow => ?_, ?_⟩)
    · by_contra hwon
      exact hring ⟨hwaits, hnow, Bool.eq_false_of_not_eq_true hwon⟩
    · rw [← hpoll]
      refine cancelRequested_not_ringing hopen fun other => ?_
      rw [hpoll]
      exact pollOpen_not_ringing (w := w.setStage .idle) rfl hcalm hring other
  obtain ⟨hwaits, hnow, hwon⟩ := hring
  obtain ⟨rung, hrung⟩ : ∃ rung, rung = (((w.setStage .idle).look uuid first.request.waiting).look uuid
      first.request.won).setStage (.ringing request) := ⟨_, rfl⟩
  have hfirst : w.poll uuid sanitizeOwnerMessage env first = (rung, []) := by
    rw [hpoll, pollOpen_ring (w := w.setStage .idle) hcalm hwaits hnow, won_setStage, hwon, hrung]
    simp
  have hover : w.Overtaken uuid env request first.request l.withdrawing ↔
      ((rung.look uuid l.withdrawing).broker.withdrawIfUnaccepted request.requestId).2 ∈
        [Withdrawal.won, Withdrawal.resolved] := by
    rw [hrung]
    exact ⟨fun h => h.2.2.2, fun h => ⟨hwaits, hnow, hwon, h⟩⟩
  have hringing : rung.call.stage = .ringing request := by
    rw [hrung]
    rfl
  by_cases hlost : w.Overtaken uuid env request first.request l.withdrawing
  · have hwithdrawal := hover.mp hlost
    refine Or.inr (Or.inl ⟨hlost, _, rfl, ?_, cancelRequested_overtaken hopen hid hfirst hringing hwithdrawal⟩)
    refine (withdraw_keeps uuid (by simpa using hwithdrawal)).trans ?_
    rw [hrung]
    rfl
  · refine Or.inl ⟨_, rfl, answersTo_cancel l.cancel hid, ?_, hlost,
      cancelRequested_withdrawn hopen hid hfirst hringing fun h => hlost (hover.mpr h)⟩
    rw [← hid]
    exact cancel_gone _ _ _ _

/-- Exactly when a withdrawal is answered truthfully. -/
theorem cancelRequested_truthful_iff (huuid : Function.Injective uuid)
    (hreach : Reachable uuid sanitizeOwnerMessage hashOne w) (env : TransferEnv) (requestId : String)
    (first : PollLooks) (l : WithdrawLooks) :
    (Truthful requestId (w.cancelRequested uuid sanitizeOwnerMessage env requestId first l) ∧
        CancelledOnce uuid sanitizeOwnerMessage hashOne requestId
          (w.cancelRequested uuid sanitizeOwnerMessage env requestId first l)) ↔
      w.AnswersTruly uuid env requestId first l := by
  by_cases hopen : w.call.requestId = some requestId
  swap
  · -- another id, or none
    rw [cancelRequested_other hopen]
    have hnotice : answersTo requestId [Effect.notice ⟨requestId, .unknownRequest, env.unixMs⟩] =
        [.unknownRequest] := by
      simp [answersTo, answerTo]
    refine iff_of_true ⟨⟨.unknownRequest, hnotice, hopen⟩, ?_⟩ ?_
    · intro hcancelled
      rw [hnotice] at hcancelled
      simp at hcancelled
    · rintro request (hstage | hstage) hid
      · exact absurd (by rw [TransferCall.requestId, hstage]; exact congrArg some hid) hopen
      · exact absurd (by rw [TransferCall.requestId, hstage]; exact congrArg some hid) hopen
  obtain ⟨request, accepted, hstage, hid⟩ : ∃ (request : Open) (accepted : Bool),
      w.call.stage = (if accepted then .accepted request else .ringing request) ∧ request.requestId = requestId := by
    rw [TransferCall.requestId] at hopen
    cases hstage : w.call.stage with
    | ringing request =>
        rw [hstage] at hopen
        exact ⟨request, false, rfl, Option.some_inj.mp hopen⟩
    | accepted request =>
        rw [hstage] at hopen
        exact ⟨request, true, rfl, Option.some_inj.mp hopen⟩
    | idle => simp [hstage] at hopen
    | planning planning => simp [hstage] at hopen
  have htruly : w.AnswersTruly uuid env requestId first l ↔ Undisturbed env request first.request accepted ∧
      (w.Overtaken uuid env request first.request l.withdrawing →
        ¬w.Misread uuid request first.request l.withdrawing l.poll.request) := by
    rw [AnswersTruly, hstage]
    cases accepted with
    | false =>
        refine ⟨fun h => by simpa using h request (Or.inl rfl) hid, ?_⟩
        rintro h other (hother | hother) -
        · cases hother
          simpa using h
        · cases hother
    | true =>
        refine ⟨fun h => by simpa using h request (Or.inr rfl) hid, ?_⟩
        rintro h other (hother | hother) -
        · cases hother
        · cases hother
          simpa using h
  -- an identifier that is no longer open was drawn, and is not drawn again
  have honce : ∀ r : World × List Effect, w.broker.drawn ≤ r.1.broker.drawn →
      (CancelAnswer.cancelled ∈ answersTo requestId r.2 → r.1.call.stage = .idle) →
      CancelledOnce uuid sanitizeOwnerMessage hashOne requestId r := by
    intro r hdrawn hidle hcancelled acts env' first' l'
    obtain ⟨n, hn, rfl⟩ := hreach.drawn hopen
    have hgone : r.1.call.requestId ≠ some (drawnId uuid n) := by
      rw [requestId_of_idle (hidle hcancelled)]
      rintro ⟨⟩
    exact cancelRequested_other (never_open_again huuid hashOne (hn.trans_le hdrawn) hgone acts) first' l'
  have hsince : w.broker.drawn ≤ (w.cancelRequested uuid sanitizeOwnerMessage env requestId first l).1.broker.drawn :=
    (cancelRequested_since env requestId first l w).drawn
  rw [htruly]
  by_cases hcalm : Undisturbed env request first.request accepted
  · obtain ⟨r, hidle, hanswers, hgone, hkept, hresult⟩ | ⟨hlost, w', hidle, hbroker, hresult⟩ |
        ⟨hkept, hwon, hresult⟩ := cancelRequested_cases sanitizeOwnerMessage l hstage hid hcalm
    · rw [hresult] at hsince ⊢
      exact iff_of_true ⟨⟨.cancelled, hanswers, hidle, hgone⟩, honce r hsince fun _ => hidle⟩
        ⟨hcalm, fun h => absurd h hkept⟩
    · rw [hresult] at hsince ⊢
      have hstill : w'.stillOpen uuid request l.poll.request = (((w.look uuid first.request.waiting).look uuid
          first.request.won).look uuid l.withdrawing).stillOpen uuid request l.poll.request := by
        simp only [stillOpen, look_broker, hbroker]
      have hwon : w'.won uuid request l.poll.request = (((w.look uuid first.request.waiting).look uuid
          first.request.won).look uuid l.withdrawing).won uuid request l.poll.request := by
        simp only [won, look_broker, hbroker]
      have hmisread : (Undisturbed env request l.poll.request false ∧ (w'.stillOpen uuid request l.poll.request = true →
          env.now < request.hardDeadline → w'.won uuid request l.poll.request = true)) ↔
          ¬w.Misread uuid request first.request l.withdrawing l.poll.request := by
        rw [hstill, hwon, Misread, Undisturbed]
        simp [hcalm.1, hlost.2.1]
      constructor
      · rintro ⟨htrue, -⟩
        exact ⟨hcalm, fun _ => hmisread.mp ((truthful_notice_iff false l.poll.request hidle hid).mp htrue)⟩
      · rintro ⟨-, h⟩
        exact ⟨(truthful_notice_iff false l.poll.request hidle hid).mpr (hmisread.mpr (h hlost)),
          honce _ hsince (idle_of_cancelled hidle)⟩
    · rw [hresult] at hsince ⊢
      refine iff_of_true ⟨?_, honce _ hsince (idle_of_cancelled rfl)⟩ ⟨hcalm, fun h => absurd h hkept⟩
      exact (truthful_notice_iff accepted first.request rfl hid).mpr ⟨hcalm, hwon⟩
  · refine iff_of_false ?_ fun h => hcalm h.1
    rintro ⟨htrue, -⟩
    have hpoll : w.poll uuid sanitizeOwnerMessage env first =
        (w.setStage .idle).pollOpen uuid sanitizeOwnerMessage env request accepted first.request :=
          poll_open first hstage
    have hidle : ∀ other, (w.poll uuid sanitizeOwnerMessage env first).1.call.stage ≠ .ringing other := by
      rw [hpoll, pollOpen_disturbed hcalm]
      rintro other ⟨⟩
    rw [cancelRequested_not_ringing hopen hidle, hpoll] at htrue
    exact hcalm ((truthful_notice_iff accepted first.request rfl hid).mp htrue).1

end Main

section Raced

def plainUuid (n : ℕ) : String := String.ofList (List.replicate n 'a')

lemma plainUuid_injective : Function.Injective plainUuid := by
  intro m n h
  have hlist := String.ofList_injective h
  simpa using congrArg List.length hlist

def sampleEnv : TransferEnv where
  now := 0
  unixMs := 0
  activeCallId := some "call_1"
  switchboardRevision := 1
  hostRingPlan := true
  sessionToken := 1

def sampleRemote : RemoteView where
  callId := some "call_1"
  callEpoch := 1
  ownerEpoch := 1
  remoteRevision := 1
  assistanceEnabled := true
  takeoverEnabled := true

def sampleFence : AssistanceCallFence := ⟨"call_1", 1, 1, 1, 1⟩

def samplePlan : PlanLooks where
  received := .result (some ⟨.ring, "", 40, ["device_1"], [], true, by decide⟩)
  remote := sampleRemote
  owner := some ⟨"call_1", 1, 1⟩
  ownerAtOpening := some ⟨"call_1", 1, 1⟩
  opening := { clock := some 100 }

/-- A look at the mailbox at the second 101, with what the others did before it. -/
def sampleLooks (others : List BrokerOp) : OpenLooks where
  consent := sampleRemote
  waiting := ⟨others, some 101⟩
  won := { clock := some 101 }
  taking := { clock := some 101 }
  discarding := { clock := some 101 }
  dropping := { clock := some 101 }

def samplePoll (others : List BrokerOp) : PollLooks := ⟨samplePlan, sampleLooks others⟩

def rungWorld : World :=
  (act plainUuid some List.length).final ⟨{}, .new, .new, []⟩
    [.begin sampleEnv ⟨"tool_1", some .callerAsked, "call_1", ⟨"call_1", 1, 1⟩, true, 1, none⟩
      ⟨{ clock := some 100 }, sampleRemote, some ⟨"call_1", 1, 1⟩, true⟩, .poll sampleEnv (samplePoll [])]

/-- A device takes the request before the withdrawal and gives it back before the next look. -/
def racedWithdrawal : WithdrawLooks where
  withdrawing := ⟨[.acceptTransfer "assist_" sampleFence "device_1" (some 101) (some 101)], some 101⟩
  cancel := ⟨{ clock := some 101 }, { clock := some 101 }⟩
  poll := samplePoll [.releaseTransferAcceptance "assist_" sampleFence "device_1" (some 101)]

def calmWithdrawal : WithdrawLooks where
  withdrawing := { clock := some 101 }
  cancel := ⟨{ clock := some 101 }, { clock := some 101 }⟩
  poll := samplePoll []

theorem cancelRequested_truthful_calm :
    Truthful "assist_" (rungWorld.cancelRequested plainUuid some sampleEnv "assist_" (samplePoll [])
        calmWithdrawal) ∧
      CancelledOnce plainUuid some List.length "assist_" (rungWorld.cancelRequested plainUuid some sampleEnv "assist_"
        (samplePoll []) calmWithdrawal) := by
  refine (cancelRequested_truthful_iff plainUuid_injective ⟨_, _, rfl, rfl⟩ _ _ _ _).mpr ?_
  have hstage : rungWorld.call.stage =
      .ringing ⟨"assist_", sampleFence, ⟨"assist_", "call_1", false⟩, false, 100000000000⟩ := by
    decide +kernel
  rintro request (hring | hring) -
  · obtain rfl := Stage.ringing.inj (hstage.symm.trans hring)
    refine ⟨⟨rfl, Or.inr rfl⟩, ?_⟩
    rintro ⟨-, -, -, hlost⟩
    exact absurd hlost (by decide +kernel)
  · cases hstage.symm.trans hring

/-- The request still rings, and is said to be unknown. -/
theorem ringing_request_called_unknown : ¬∀ (uuid : ℕ → String) (sanitizeOwnerMessage : String → Option String)
    (hashOne : List Char → ℕ), Function.Injective uuid → ∀ w, Reachable uuid sanitizeOwnerMessage hashOne w →
    ∀ (env : TransferEnv) (requestId : String) (first : PollLooks) (l : WithdrawLooks),
      Truthful requestId (w.cancelRequested uuid sanitizeOwnerMessage env requestId first l) ∧
        CancelledOnce uuid sanitizeOwnerMessage hashOne requestId
          (w.cancelRequested uuid sanitizeOwnerMessage env requestId first l) := by
  intro h
  obtain ⟨⟨answer, hanswer, hstate⟩, -⟩ := h plainUuid some List.length plainUuid_injective rungWorld ⟨_, _, rfl, rfl⟩
    sampleEnv "assist_" (samplePoll []) racedWithdrawal
  have hunknown : answersTo "assist_" (rungWorld.cancelRequested plainUuid some sampleEnv "assist_" (samplePoll [])
      racedWithdrawal).2 = [.unknownRequest] := by
    decide +kernel
  have hrings : (rungWorld.cancelRequested plainUuid some sampleEnv "assist_" (samplePoll [])
      racedWithdrawal).1.call.requestId = some "assist_" := by
    decide +kernel
  obtain rfl : CancelAnswer.unknownRequest = answer := by
    simpa using hunknown.symm.trans hanswer
  exact hstate hrings

end Raced

end World

end Aokie.Plugin.Transfer
