import Aokie.Plugin.Transfer.Call

/-! The runs of one call's machine, and what each of its functions can leave behind. -/

namespace Aokie.Plugin.Transfer

open Aokie.Lib Aokie.Plugin.RemoteMedia Aokie.Plugin.Assistance

/-- One call into the machine, with what happens around it. -/
inductive Act
  | begin (env : TransferEnv) (args : BeginArgs) (l : BeginLooks)
  | poll (env : TransferEnv) (l : PollLooks)
  | withdrawUnaccepted (env : TransferEnv) (first : PollLooks) (l : WithdrawLooks)
  | cancelRequested (env : TransferEnv) (requestId : String) (first : PollLooks) (l : WithdrawLooks)
  | park (env : TransferEnv) (first : PollLooks) (l : WithdrawLooks)
  | parkForced (env : TransferEnv) (first : PollLooks) (l : CancelLooks)
  | endCall (env : TransferEnv) (l : CancelLooks)

namespace World

variable {uuid : ℕ → String} {sanitizeOwnerMessage : String → Option String}

section Turns

variable (w : World)

@[simp] lemma look_call (l : Look) : (w.look uuid l).call = w.call := rfl

@[simp] lemma look_governor (l : Look) : (w.look uuid l).governor = w.governor := rfl

@[simp] lemma look_broker (l : Look) : (w.look uuid l).broker = w.broker.performAll uuid l.others := rfl

@[simp] lemma own_call (op : BrokerOp) : (w.own uuid op).call = w.call := rfl

@[simp] lemma own_governor (op : BrokerOp) : (w.own uuid op).governor = w.governor := rfl

@[simp] lemma own_broker (op : BrokerOp) : (w.own uuid op).broker = w.broker.perform uuid op := rfl

@[simp] lemma setStage_call (stage : Stage) : (w.setStage stage).call = { w.call with stage } := rfl

@[simp] lemma setStage_broker (stage : Stage) : (w.setStage stage).broker = w.broker := rfl

@[simp] lemma setStage_governor (stage : Stage) : (w.setStage stage).governor = w.governor := rfl

@[simp] lemma noteEnd_stage (call : TransferCall) (ended : End) (now : Instant) :
    (call.noteEnd ended now).stage = call.stage := rfl

lemma discard_gone (broker : AssistanceBroker) (requestId : String) :
    (broker.perform uuid (.discard requestId)).inner.any (·.requestId == requestId) = false := by
  rw [AssistanceBroker.perform, AssistanceBroker.discard]
  split_ifs with hfound
  · rfl
  · simpa using hfound

end Turns

section Ends

variable (env : TransferEnv) (request : Open) (w : World)

lemma cancel_call (l : CancelLooks) : (w.cancel uuid env request l).1.call = w.call.noteEnd .other env.now := rfl

lemma cancel_gone (l : CancelLooks) :
    (w.cancel uuid env request l).1.broker.inner.any (·.requestId == request.requestId) = false :=
  @discard_gone uuid _ _

lemma cancel_effects (l : CancelLooks) : (w.cancel uuid env request l).2 =
    .outcome ⟨request.requestId, .cancelled, none, env.unixMs⟩ ::
      (request.audit.resolve .cancelled).2.toList.map .audit := rfl

end Ends

section PollOpen

variable (uuid sanitizeOwnerMessage) (env : TransferEnv) (request : Open) (l : OpenLooks) (w : World)

def stillOpen : Bool := (w.look uuid l.waiting).broker.isWaiting request.requestId l.waiting.clock

def won : Bool :=
  (((w.look uuid l.waiting).look uuid l.won).broker.acceptedTransfer request.fence.callId request.fence.callEpoch
    l.won.clock).any fun pending => pending.requestId == request.requestId && pending.acceptedBy.isSome

/-- The machine has the request for itself to end: the call and the consent are as they were. -/
def Undisturbed (accepted : Bool) : Prop :=
  env.activeCallId = some request.fence.callId ∧ (accepted = true ∨ l.consent.consents = true)

instance (accepted : Bool) : Decidable (Undisturbed env request l accepted) :=
  inferInstanceAs (Decidable (_ ∧ _))

variable {uuid sanitizeOwnerMessage env request l w} {accepted : Bool}

lemma Undisturbed.consent (h : Undisturbed env request l accepted) :
    ¬(accepted = false ∧ l.consent.consents = false) := by
  intro hnone
  obtain haccepted | hconsents := h.2
  · simp [haccepted] at hnone
  · simp [hconsents] at hnone

lemma pollOpen_disturbed (h : ¬Undisturbed env request l accepted) :
    w.pollOpen uuid sanitizeOwnerMessage env request accepted l =
      w.cancel uuid env request ⟨l.discarding, l.dropping⟩ := by
  rw [pollOpen]
  by_cases hcall : env.activeCallId ≠ some request.fence.callId
  · rw [if_pos hcall]
  · rw [if_neg hcall, if_pos]
    simp only [Undisturbed, not_and_or, not_or, Bool.not_eq_true] at h
    exact h.resolve_left hcall

lemma pollOpen_over (h : Undisturbed env request l accepted) (hover : w.stillOpen uuid request l = false) :
    w.pollOpen uuid sanitizeOwnerMessage env request accepted l =
      ((((((w.look uuid l.waiting).look uuid l.taking).own uuid
          (.takeResolution request.requestId l.taking.clock)).look uuid l.discarding).own uuid
          (.discard request.requestId)).finish uuid sanitizeOwnerMessage env request
        ((((w.look uuid l.waiting).look uuid l.taking).broker.takeResolution request.requestId
          l.taking.clock).2.getD .expired) l.dropping) := by
  rw [pollOpen, if_neg (not_not.mpr h.1), if_neg h.consent]
  exact if_pos hover

lemma pollOpen_late (h : Undisturbed env request l accepted) (hopen : w.stillOpen uuid request l = true)
    (hlate : request.hardDeadline ≤ env.now) :
    w.pollOpen uuid sanitizeOwnerMessage env request accepted l =
      (((w.look uuid l.waiting).look uuid l.discarding).own uuid (.discard request.requestId)).finish uuid
        sanitizeOwnerMessage env request .expired l.dropping := by
  have hwaiting : ¬(w.look uuid l.waiting).broker.isWaiting request.requestId l.waiting.clock = false :=
    ne_false_of_eq_true hopen
  rw [pollOpen, if_neg (not_not.mpr h.1), if_neg h.consent]
  exact (if_neg hwaiting).trans (if_pos hlate)

lemma pollOpen_ring (h : Undisturbed env request l accepted) (hopen : w.stillOpen uuid request l = true)
    (hlate : env.now < request.hardDeadline) :
    w.pollOpen uuid sanitizeOwnerMessage env request accepted l =
      (((w.look uuid l.waiting).look uuid l.won).setStage
          (if w.won uuid request l then .accepted { request with acceptedSent := true } else .ringing request),
        if w.won uuid request l = true ∧ request.acceptedSent = false then
          [.outcome ⟨request.requestId, .accepted, none, env.unixMs⟩] else []) := by
  have hwaiting : ¬(w.look uuid l.waiting).broker.isWaiting request.requestId l.waiting.clock = false :=
    ne_false_of_eq_true hopen
  rw [pollOpen, if_neg (not_not.mpr h.1), if_neg h.consent]
  refine (if_neg hwaiting).trans ((if_neg (Nat.not_le_of_lt hlate)).trans ?_)
  change (if w.won uuid request l = true ∧ request.acceptedSent = false then _
    else if w.won uuid request l = true then _ else _) = _
  by_cases hwon : w.won uuid request l = true
  · by_cases hsent : request.acceptedSent = false
    · rw [if_pos ⟨hwon, hsent⟩, if_pos hwon, if_pos ⟨hwon, hsent⟩]
    · have hsame : { request with acceptedSent := true } = request := by
        obtain ⟨requestId, fence, audit, sent, deadline⟩ := request
        simp_all
      rw [if_neg fun h => hsent h.2, if_pos hwon, if_pos hwon, if_neg fun h => hsent h.2, hsame]
  · rw [if_neg fun h => hwon h.1, if_neg hwon, if_neg hwon, if_neg fun h => hwon h.1]

end PollOpen

structure Report where
  effects : List Effect := []
  begin : Option Begin := none
  mayPark : Option Bool := none
  deriving DecidableEq, Repr

section Act

variable (uuid sanitizeOwnerMessage) (hashOne : List Char → ℕ)

def act : Machine World Act Report
  | w, .begin env args l => ((w.begin uuid hashOne env args l).1, { begin := some (w.begin uuid hashOne env args l).2 })
  | w, .poll env l => ((w.poll uuid sanitizeOwnerMessage env l).1,
      { effects := (w.poll uuid sanitizeOwnerMessage env l).2 })
  | w, .withdrawUnaccepted env first l =>
      ((w.withdrawUnaccepted uuid sanitizeOwnerMessage env first l).1,
        { effects := (w.withdrawUnaccepted uuid sanitizeOwnerMessage env first l).2 })
  | w, .cancelRequested env requestId first l =>
      ((w.cancelRequested uuid sanitizeOwnerMessage env requestId first l).1,
        { effects := (w.cancelRequested uuid sanitizeOwnerMessage env requestId first l).2 })
  | w, .park env first l =>
      ((w.park uuid sanitizeOwnerMessage env first l).1,
        { effects := (w.park uuid sanitizeOwnerMessage env first l).2.1
          mayPark := some (w.park uuid sanitizeOwnerMessage env first l).2.2 })
  | w, .parkForced env first l =>
      ((w.parkForced uuid sanitizeOwnerMessage env first l).1,
        { effects := (w.parkForced uuid sanitizeOwnerMessage env first l).2 })
  | w, .endCall env l => ((w.endCall uuid env l).1, { effects := (w.endCall uuid env l).2 })

def Reachable (w : World) : Prop :=
  ∃ start acts, start.call = {} ∧ w = (act uuid sanitizeOwnerMessage hashOne).final start acts

end Act

section Fresh

variable (uuid) in
def drawnId (n : ℕ) : String := "assist_" ++ uuid n

lemma drawnId_injective (huuid : Function.Injective uuid) : Function.Injective (drawnId uuid) := by
  intro m n h
  have hlist := congrArg String.toList h
  rw [drawnId, drawnId, String.toList_append, String.toList_append] at hlist
  exact huuid (String.toList_injective (List.append_cancel_left hlist))

variable (uuid) in
/-- The open request is gone, the same, or one opened since. -/
structure Since (w w' : World) : Prop where
  drawn : w.broker.drawn ≤ w'.broker.drawn
  request : w'.call.requestId = none ∨ w'.call.requestId = w.call.requestId ∨
    ∃ n, w.broker.drawn ≤ n ∧ n < w'.broker.drawn ∧ w'.call.requestId = some (drawnId uuid n)

lemma Since.refl (w : World) : Since uuid w w := ⟨le_rfl, Or.inr (Or.inl rfl)⟩

lemma Since.trans {w w' w'' : World} (h : Since uuid w w') (h' : Since uuid w' w'') : Since uuid w w'' := by
  refine ⟨h.drawn.trans h'.drawn, ?_⟩
  obtain hnone | hsame | ⟨n, hlo, hhi, hid⟩ := h'.request
  · exact Or.inl hnone
  · rw [hsame]
    obtain hnone | hsame | ⟨n, hlo, hhi, hid⟩ := h.request
    · exact Or.inl hnone
    · exact Or.inr (Or.inl hsame)
    · exact Or.inr (Or.inr ⟨n, hlo, hhi.trans_le h'.drawn, hid⟩)
  · exact Or.inr (Or.inr ⟨n, h.drawn.trans hlo, hhi, hid⟩)

variable {w : World}

lemma le_look {n : ℕ} (h : n ≤ w.broker.drawn) (l : Look) : n ≤ (w.look uuid l).broker.drawn :=
  h.trans (AssistanceBroker.performAll_drawn_le w.broker l.others)

lemma le_own {n : ℕ} (h : n ≤ w.broker.drawn) (op : BrokerOp) : n ≤ (w.own uuid op).broker.drawn :=
  h.trans (AssistanceBroker.perform_turn w.broker op).drawn_le

lemma le_cancel {n : ℕ} (h : n ≤ w.broker.drawn) (env : TransferEnv) (request : Open) (l : CancelLooks) :
    n ≤ (w.cancel uuid env request l).1.broker.drawn := by
  have hfirst : n ≤ ((w.look uuid l.discarding).own uuid (.discard request.requestId)).broker.drawn :=
    le_own (le_look h l.discarding) (.discard request.requestId)
  exact le_own (le_look hfirst l.dropping) (.discard request.requestId)

lemma le_finish {n : ℕ} (h : n ≤ w.broker.drawn) (env : TransferEnv) (request : Open)
    (resolution : AssistanceResolution) (dropping : Look) :
    n ≤ (w.finish uuid sanitizeOwnerMessage env request resolution dropping).1.broker.drawn :=
  le_own (le_look h dropping) (.discard request.requestId)

lemma requestId_of_idle {call : TransferCall} (h : call.stage = .idle) : call.requestId = none := by
  rw [TransferCall.requestId, h]

lemma pollOpen_requestId (env : TransferEnv) (request : Open) (accepted : Bool) (l : OpenLooks)
    (hidle : w.call.stage = .idle) :
    w.broker.drawn ≤ (w.pollOpen uuid sanitizeOwnerMessage env request accepted l).1.broker.drawn ∧
      ((w.pollOpen uuid sanitizeOwnerMessage env request accepted l).1.call.stage = .idle ∨
        (w.pollOpen uuid sanitizeOwnerMessage env request accepted l).1.call.requestId = some request.requestId) := by
  by_cases hcalm : Undisturbed env request l accepted
  · cases hopen : w.stillOpen uuid request l with
    | false =>
        rw [pollOpen_over hcalm hopen]
        refine ⟨?_, Or.inl hidle⟩
        exact le_finish (le_own (le_look (le_own (le_look (le_look le_rfl _) _) _) _) _) _ _ _ _
    | true =>
        obtain hlate | hlate := Nat.lt_or_ge env.now request.hardDeadline
        · rw [pollOpen_ring hcalm hopen hlate]
          refine ⟨le_look (le_look le_rfl l.waiting) l.won, Or.inr ?_⟩
          cases w.won uuid request l with
          | false => rfl
          | true => rfl
        · rw [pollOpen_late hcalm hopen hlate]
          refine ⟨?_, Or.inl hidle⟩
          exact le_finish (le_own (le_look (le_look le_rfl _) _) _) _ _ _ _
  · rw [pollOpen_disturbed hcalm]
    exact ⟨le_cancel le_rfl _ _ _, Or.inl hidle⟩

lemma requestTransferTo_ok {broker : AssistanceBroker} {fence : AssistanceCallFence} {context : Option String}
    {ttlSeconds : ℕ} {targets : Option (List String)} {clock : Option ℕ} {requestId : String}
    (h : (broker.requestTransferTo uuid fence context ttlSeconds targets clock).2 = .ok requestId) :
    requestId = drawnId uuid broker.drawn ∧
      (broker.requestTransferTo uuid fence context ttlSeconds targets clock).1.drawn = broker.drawn + 2 := by
  have hintent : ∀ targets, (broker.requestWithIntent uuid fence .transfer safeTransferReason context ttlSeconds targets
      clock).2 = .ok requestId → requestId = drawnId uuid broker.drawn ∧
      (broker.requestWithIntent uuid fence .transfer safeTransferReason context ttlSeconds targets clock).1.drawn =
        broker.drawn + 2 := by
    intro targets h
    rw [AssistanceBroker.requestWithIntent] at h ⊢
    cases hchecks : broker.requestChecks fence .transfer safeTransferReason context ttlSeconds clock with
    | error e => simp [hchecks] at h
    | ok now =>
        simp only [hchecks, Except.ok.injEq] at h
        exact ⟨h.symm, rfl⟩
  cases targets with
  | none => exact hintent none h
  | some named =>
      rw [AssistanceBroker.requestTransferTo] at h ⊢
      cases hnamed : normalizeTargets named with
      | error e => simp [hnamed] at h
      | ok clean =>
          simp only [hnamed] at h
          exact hintent (some clean) h

section PollPlanning

variable (uuid) (env : TransferEnv) (planning : Planning) (l : PlanLooks) (w : World)

def PlanDropped : Prop :=
  planning.sessionToken ≠ env.sessionToken ∨ env.activeCallId ≠ some planning.callId

/-- What a turn at an awaited plan can leave: the plan dropped, awaited still, answered, or a request opened. -/
inductive Planned : World × List Effect → Prop
  | dropped (h : PlanDropped env planning) : Planned (w, [])
  | waiting (h : ¬PlanDropped env planning) (hnow : env.now < planning.deadline) :
      Planned (w.setStage (.planning planning), [])
  | answered (h : ¬PlanDropped env planning) (status : RefusalStatus) (reason : String) :
      Planned (w, [.toolAnswer planning.toolCallId (refusal status reason)])
  | occupied (h : ¬PlanDropped env planning) (op : BrokerOp) (status : RefusalStatus) (reason : String) :
      Planned ((w.look uuid l.opening).own uuid op, [.toolAnswer planning.toolCallId (refusal status reason)])
  | opened (h : ¬PlanDropped env planning) {fence : AssistanceCallFence} {ringSeconds : ℕ} {devices : List String}
      {requestId : String} (hfence : fence.callId = planning.callId)
      (hopened : ((w.look uuid l.opening).broker.requestTransferTo uuid fence none ringSeconds (some devices)
        l.opening.clock).2 = .ok requestId) :
      Planned
        (World.setStage
          { (w.look uuid l.opening).own uuid
                (.requestTransferTo fence none ringSeconds (some devices) l.opening.clock) with
            governor := w.governor.noteOpened env.now l.walk planning.callerKey
            call := { w.call with attempts := w.call.attempts + 1 }.spendCallerTurns planning.heard }
          (.ringing
            { requestId
              fence
              audit := ⟨requestId, fence.callId, false⟩
              acceptedSent := false
              hardDeadline := env.now +
                (seconds (ringSeconds + transferSetupSeconds + transferResolutionGraceSeconds) + hardDeadlineSlack) }),
          [.audit ⟨requestId, fence.callId, none⟩, .toolAnswer planning.toolCallId (.ringing requestId ringSeconds)])

theorem pollPlanning_planned : Planned uuid env planning l w (w.pollPlanning uuid env planning l) := by
  rw [pollPlanning]
  dsimp only
  split
  · exact .dropped ‹_›
  · rename_i hgone
    split
    · split
      · exact .waiting hgone ‹_›
      · exact .answered hgone _ _
    · exact .answered hgone _ _
    · exact .answered hgone _ _
    · split
      · exact .answered hgone _ _
      · exact .answered hgone _ _
      · split
        · exact .answered hgone _ _
        · split
          · exact .answered hgone _ _
          · split
            · exact .answered hgone _ _
            · split
              · exact .answered hgone _ _
              · split
                · exact .answered hgone _ _
                · split
                  · exact .answered hgone _ _
                  · split
                    · exact .occupied hgone _ _ _
                    · rename_i hopened
                      exact .opened hgone rfl hopened

end PollPlanning

lemma Planned.since {env : TransferEnv} {planning : Planning} {l : PlanLooks} {r : World × List Effect}
    (h : Planned uuid env planning l w r) (hidle : w.call.stage = .idle) : Since uuid w r.1 := by
  cases h with
  | dropped h => exact .refl w
  | waiting h hnow => exact ⟨le_rfl, Or.inl rfl⟩
  | answered h status reason => exact .refl w
  | occupied h op status reason => exact ⟨le_own (le_look le_rfl l.opening) op, Or.inl (requestId_of_idle hidle)⟩
  | opened h hfence hopened =>
      obtain ⟨hid, hdrawn⟩ := requestTransferTo_ok hopened
      refine ⟨le_own (le_look le_rfl l.opening) _, Or.inr (Or.inr ?_)⟩
      refine ⟨(w.look uuid l.opening).broker.drawn, le_look le_rfl l.opening, ?_, ?_⟩
      · exact Nat.lt_of_lt_of_eq (Nat.lt_add_of_pos_right two_pos) hdrawn.symm
      · exact congrArg some hid

variable (uuid sanitizeOwnerMessage) in
lemma poll_since (env : TransferEnv) (l : PollLooks) (w : World) :
    Since uuid w (w.poll uuid sanitizeOwnerMessage env l).1 := by
  have hopen : ∀ request accepted, w.call.requestId = some request.requestId →
      Since uuid w ((w.setStage .idle).pollOpen uuid sanitizeOwnerMessage env request accepted l.request).1 := by
    intro request accepted hid
    obtain ⟨hdrawn, hidle | hsame⟩ := @pollOpen_requestId uuid sanitizeOwnerMessage (w.setStage .idle) env
      request accepted l.request rfl
    · exact ⟨hdrawn, Or.inl (requestId_of_idle hidle)⟩
    · exact ⟨hdrawn, Or.inr (Or.inl (hsame.trans hid.symm))⟩
  rw [poll]
  cases hstage : w.call.stage with
  | idle => exact .refl w
  | planning planning =>
      obtain ⟨hdrawn, hrequest⟩ := (pollPlanning_planned uuid env planning l.plan (w.setStage .idle)).since rfl
      refine ⟨hdrawn, ?_⟩
      obtain hnone | hsame | hfresh := hrequest
      · exact Or.inl hnone
      · exact Or.inl hsame
      · exact Or.inr (Or.inr hfresh)
  | ringing request => exact hopen request false (by rw [TransferCall.requestId, hstage])
  | accepted request => exact hopen request true (by rw [TransferCall.requestId, hstage])

lemma withdrawUnwon_since (env : TransferEnv) (request : Open) (l : WithdrawLooks)
    (hid : w.call.requestId = some request.requestId) :
    Since uuid w ((w.setStage .idle).withdrawUnwon uuid sanitizeOwnerMessage env request l).1 := by
  have hdrawn : w.broker.drawn ≤ (((w.setStage .idle).look uuid l.withdrawing).own uuid
      (.withdrawIfUnaccepted request.requestId)).broker.drawn := by
    apply le_own
    apply le_look
    exact le_rfl
  have hcancel : Since uuid w ((((w.setStage .idle).look uuid l.withdrawing).own uuid
      (.withdrawIfUnaccepted request.requestId)).cancel uuid env request l.cancel).1 :=
    ⟨le_cancel hdrawn _ _ _, Or.inl (requestId_of_idle rfl)⟩
  have hpoll : Since uuid w (((((w.setStage .idle).look uuid l.withdrawing).own uuid
      (.withdrawIfUnaccepted request.requestId)).setStage (.ringing request)).poll uuid sanitizeOwnerMessage env
        l.poll).1 := by
    have hsince : Since uuid w ((((w.setStage .idle).look uuid l.withdrawing).own uuid
        (.withdrawIfUnaccepted request.requestId)).setStage (.ringing request)) := ⟨hdrawn, Or.inr (Or.inl hid.symm)⟩
    exact hsince.trans (poll_since uuid sanitizeOwnerMessage env l.poll _)
  rw [withdrawUnwon]
  dsimp only
  split
  · exact hcancel
  · exact hcancel
  · exact hpoll
  · exact hpoll

variable (uuid sanitizeOwnerMessage) in
lemma withdrawUnaccepted_since (env : TransferEnv) (first : PollLooks) (l : WithdrawLooks) (w : World) :
    Since uuid w (w.withdrawUnaccepted uuid sanitizeOwnerMessage env first l).1 := by
  have hpoll := poll_since uuid sanitizeOwnerMessage env first w
  rw [withdrawUnaccepted]
  dsimp only
  split
  · rename_i request hstage
    refine hpoll.trans (withdrawUnwon_since env request l ?_)
    rw [TransferCall.requestId, hstage]
  · exact hpoll

lemma cancelRequested_since (env : TransferEnv) (requestId : String) (first : PollLooks)
    (l : WithdrawLooks) (w : World) :
    Since uuid w (w.cancelRequested uuid sanitizeOwnerMessage env requestId first l).1 := by
  have hpoll := poll_since uuid sanitizeOwnerMessage env first w
  rw [cancelRequested]
  dsimp only
  split_ifs with hother
  · exact .refl w
  · split
    · rename_i request hstage
      split_ifs with hsame hwithdrawn
      · refine hpoll.trans (withdrawUnwon_since env request l ?_)
        rw [TransferCall.requestId, hstage]
      · refine hpoll.trans (withdrawUnwon_since env request l ?_)
        rw [TransferCall.requestId, hstage]
      · exact hpoll
    · exact hpoll

lemma withdrawOpen_since (env : TransferEnv) (l : CancelLooks) (w : World) :
    Since uuid w (w.withdrawOpen uuid env l).1 := by
  rw [withdrawOpen]
  split
  · refine ⟨le_cancel ?_ env _ l, Or.inl (requestId_of_idle rfl)⟩
    exact le_rfl
  · refine ⟨le_cancel ?_ env _ l, Or.inl (requestId_of_idle rfl)⟩
    exact le_rfl
  · exact ⟨le_rfl, Or.inl rfl⟩
  · exact ⟨le_rfl, Or.inl rfl⟩

section Begin

variable (uuid) (hashOne : List Char → ℕ) (env : TransferEnv) (args : BeginArgs) (l : BeginLooks) (w : World)

def callerKeyOf : Option ℕ := args.callerNumber.bind (Governor.callerKey hashOne)

def askedCaller : Governor := (w.governor.allowsCaller env.now (callerKeyOf hashOne args)).1

def askedBoth : Governor := ((askedCaller hashOne env args w).allows env.now).1

/-- What a tool call can leave: a refusal, or the plan asked for with every check passed. -/
inductive Begun : World × Begin → Prop
  | unheard (status : RefusalStatus) (reason : String) : Begun (w, .answered (refusal status reason))
  | refused (hactive : w.call.isActive = false) {governor : Governor} (status : RefusalStatus) (reason : String)
      (hgovernor : governor = w.governor ∨ governor = askedCaller hashOne env args w ∨
        governor = askedBoth hashOne env args w) :
      Begun ({ w.look uuid l.busy with governor }, .answered (refusal status reason))
  | planning (hactive : w.call.isActive = false) {reason : Reason}
      (hfree : (w.look uuid l.busy).broker.isBusy l.busy.clock = false)
      (hcall : env.activeCallId = some args.callId) (hattempts : w.call.attempts < maxAttemptsPerCall)
      (hgap : ∀ ended, w.call.lastEnded = some ended → minGapBetweenAttempts ≤ env.now - ended)
      (hcaller : (w.governor.allowsCaller env.now (callerKeyOf hashOne args)).2 = true)
      (hglobal : ((askedCaller hashOne env args w).allows env.now).2 = true) :
      Begun
        (World.setStage { w.look uuid l.busy with governor := askedBoth hashOne env args w }
          (.planning
            { toolCallId := args.toolCallId
              callId := args.callId
              reason
              callerAsked := args.callerAsked
              heard := args.callerTurnsHeard
              callerKey := callerKeyOf hashOne args
              owner := args.owner
              sessionToken := env.sessionToken
              deadline := env.now + planWait }), .planning)

theorem begin_begun : Begun uuid hashOne env args l w (w.begin uuid hashOne env args l) := by
  rw [World.begin]
  cases hreason : args.reason with
  | none => exact .unheard _ _
  | some reason =>
      dsimp only
      cases hactive : w.call.isActive with
      | true => exact .unheard _ _
      | false =>
          rw [if_neg Bool.false_ne_true]
          by_cases hfree : (w.look uuid l.busy).broker.isBusy l.busy.clock = true
          · rw [if_pos hfree]
            exact .refused hactive _ _ (Or.inl rfl)
          rw [if_neg hfree]
          by_cases hexact : env.activeCallId = some args.callId ∧ l.remote.callId = some args.callId ∧
              0 < l.remote.callEpoch ∧ l.owner = some args.owner
          swap
          · rw [if_pos hexact]
            exact .refused hactive _ _ (Or.inl rfl)
          rw [if_neg (not_not.mpr hexact)]
          by_cases hconsent : l.remote.consents = false
          · rw [if_pos hconsent]
            exact .refused hactive _ _ (Or.inl rfl)
          rw [if_neg hconsent]
          by_cases hattempts : maxAttemptsPerCall ≤ w.call.attempts
          · rw [look_call, if_pos hattempts]
            exact .refused hactive _ _ (Or.inl rfl)
          rw [look_call, if_neg hattempts]
          by_cases hgap : (w.call.lastEnded.any fun ended => decide (env.now - ended < minGapBetweenAttempts)) = true
          · rw [if_pos hgap]
            exact .refused hactive _ _ (Or.inl rfl)
          rw [if_neg hgap, look_governor]
          rw [← callerKeyOf]
          by_cases hcaller : (w.governor.allowsCaller env.now (callerKeyOf hashOne args)).2 = false
          · rw [if_pos hcaller]
            exact .refused hactive _ _ (Or.inr (Or.inl rfl))
          rw [if_neg hcaller, ← askedCaller]
          by_cases hglobal : ((askedCaller hashOne env args w).allows env.now).2 = false
          · rw [if_pos hglobal]
            exact .refused hactive _ _ (Or.inr (Or.inr rfl))
          rw [if_neg hglobal, ← askedBoth]
          by_cases hasked : reason = .callerAsked ∧ args.callerAsked = false
          · rw [if_pos hasked]
            exact .refused hactive _ _ (Or.inr (Or.inr rfl))
          rw [if_neg hasked]
          by_cases hplan : env.hostRingPlan = false
          · rw [if_pos hplan]
            exact .refused hactive _ _ (Or.inr (Or.inr rfl))
          rw [if_neg hplan]
          by_cases hsent : l.sent = false
          · rw [if_pos hsent]
            exact .refused hactive _ _ (Or.inr (Or.inr rfl))
          rw [if_neg hsent]
          refine .planning hactive (Bool.eq_false_of_not_eq_true hfree) hexact.1 (Nat.lt_of_not_le hattempts) ?_
            (Bool.eq_true_of_not_eq_false hcaller) (Bool.eq_true_of_not_eq_false hglobal)
          intro ended hended
          simpa [hended] using hgap

end Begin

lemma Begun.since {hashOne : List Char → ℕ} {env : TransferEnv} {args : BeginArgs} {l : BeginLooks}
    {r : World × Begin} (h : Begun uuid hashOne env args l w r) : Since uuid w r.1 := by
  cases h with
  | unheard status reason => exact .refl w
  | refused hactive status reason hgovernor => exact ⟨le_look le_rfl l.busy, Or.inr (Or.inl rfl)⟩
  | planning hactive hfree hcall hattempts hgap hcaller hglobal => exact ⟨le_look le_rfl l.busy, Or.inl rfl⟩

theorem act_since (hashOne : List Char → ℕ) (w : World) (a : Act) :
    Since uuid w (act uuid sanitizeOwnerMessage hashOne w a).1 := by
  cases a with
  | begin env args l => exact (begin_begun uuid hashOne env args l w).since
  | poll env l => exact poll_since uuid sanitizeOwnerMessage env l w
  | withdrawUnaccepted env first l => exact withdrawUnaccepted_since uuid sanitizeOwnerMessage env first l w
  | cancelRequested env requestId first l => exact cancelRequested_since env requestId first l w
  | park env first l =>
      have hwithdrawn := withdrawUnaccepted_since uuid sanitizeOwnerMessage env first l w
      refine hwithdrawn.trans ?_
      cases hstage : (w.withdrawUnaccepted uuid sanitizeOwnerMessage env first l).1.call.stage with
      | planning planning =>
          simp only [act, World.park, hstage]
          exact ⟨le_rfl, Or.inl rfl⟩
      | idle =>
          simp only [act, World.park, hstage]
          exact .refl _
      | ringing request =>
          simp only [act, World.park, hstage]
          exact .refl _
      | accepted request =>
          simp only [act, World.park, hstage]
          exact .refl _
  | parkForced env first l =>
      exact (poll_since uuid sanitizeOwnerMessage env first w).trans (withdrawOpen_since env l _)
  | endCall env l => exact withdrawOpen_since env l w

variable (uuid sanitizeOwnerMessage) in
lemma final_since (hashOne : List Char → ℕ) (w : World) (acts : List Act) :
    Since uuid w ((act uuid sanitizeOwnerMessage hashOne).final w acts) := by
  induction acts generalizing w with
  | nil => exact .refl w
  | cons a acts ih => exact (act_since hashOne w a).trans (ih _)

lemma Reachable.drawn {hashOne : List Char → ℕ} (h : Reachable uuid sanitizeOwnerMessage hashOne w) {requestId : String}
    (hid : w.call.requestId = some requestId) : ∃ n < w.broker.drawn, requestId = drawnId uuid n := by
  obtain ⟨start, acts, hstart, rfl⟩ := h
  obtain ⟨-, hnone | hsame | ⟨n, -, hn, hfresh⟩⟩ := final_since uuid sanitizeOwnerMessage
    hashOne start acts
  · simp [hnone] at hid
  · rw [hsame, hstart] at hid
    cases hid
  · exact ⟨n, hn, Option.some_inj.mp (hid.symm.trans hfresh)⟩

lemma never_open_again (huuid : Function.Injective uuid) (hashOne : List Char → ℕ) {n : ℕ} (hn : n < w.broker.drawn)
    (hid : w.call.requestId ≠ some (drawnId uuid n)) (acts : List Act) :
    ((act uuid sanitizeOwnerMessage hashOne).final w acts).call.requestId ≠ some (drawnId uuid n) := by
  intro hagain
  obtain ⟨-, hnone | hsame | ⟨m, hm, -, hfresh⟩⟩ := final_since uuid sanitizeOwnerMessage
    hashOne w acts
  · simp [hnone] at hagain
  · exact hid (hsame.symm.trans hagain)
  · have heq := drawnId_injective huuid (Option.some_inj.mp (hfresh.symm.trans hagain))
    omega

end Fresh

end World

end Aokie.Plugin.Transfer
