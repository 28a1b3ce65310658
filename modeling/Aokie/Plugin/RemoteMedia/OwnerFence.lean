import Aokie.Plugin.RemoteMedia.Turns

/-! The two epochs by which Aokie's own actions are fenced: which turns advance them, and that a fence taken before such
a turn is refused after it. -/

namespace Aokie.Plugin.RemoteMedia

open Aokie.Lib Aokie.Media

namespace RemoteMediaState

variable (s : RemoteMediaState)

def epochs : ℕ × ℕ := (s.aokieActionEpoch, s.aokieSwitchEpoch)

section Epochs

/-! What the helpers of the operations leave alone. -/

variable (binding : SessionBinding) (now : Instant) (clock : Clock)

@[simp] lemma epochs_bumpRevision : s.bumpRevision.epochs = s.epochs := rfl

@[simp] lemma epochs_withOwnerEpoch (f : CallRecord → ℕ) : (s.withOwnerEpoch f).epochs = s.epochs := by
  rw [withOwnerEpoch_eq]
  rfl

@[simp] lemma epochs_fenceCancelledBinding : (s.fenceCancelledBinding binding).epochs = s.epochs := by
  rw [fenceCancelledBinding_eq]
  rfl

@[simp] lemma epochs_clearBindingObservations : (s.clearBindingObservations binding).epochs = s.epochs := by
  rw [clearBindingObservations_eq]
  rfl

@[simp] lemma epochs_beginReturn (reason : String) : (s.beginReturn binding reason).epochs = s.epochs := rfl

@[simp] lemma epochs_cancelClaim : (s.cancelClaim binding).epochs = s.epochs :=
  s.epochs_fenceCancelledBinding binding

@[simp] lemma epochs_takeClaim : s.takeClaim.1.epochs = s.epochs := by
  unfold takeClaim
  split <;> rfl

@[simp] lemma epochs_takeRoute : s.takeRoute.1.epochs = s.epochs := by
  unfold takeRoute
  split <;> rfl

@[simp] lemma epochs_admitCall (callId : String) : (s.admitCall callId).epochs = s.epochs := by
  unfold admitCall
  split <;> rfl

lemma epochs_leaveCall (callId : Option String) (active : Bool) : (s.leaveCall callId active).epochs = s.epochs :=
  epochs_takeClaim { s with peers := [] }

lemma epochs_observeCall (callId : Option String) (active : Bool) :
    (s.observeCall callId active).1.epochs = s.epochs := by
  unfold observeCall
  split
  · split <;> rfl
  · rw [← epochs_leaveCall s callId active]
    cases callId with
    | none => rfl
    | some callId => exact epochs_admitCall _ callId

lemma epochs_revokeClaim (needsReturn : Bool) : (s.revokeClaim binding needsReturn).epochs = s.epochs := by
  unfold revokeClaim
  dsimp only
  split
  · exact epochs_clearBindingObservations _ binding
  · exact (epochs_fenceCancelledBinding _ binding).trans (epochs_clearBindingObservations _ binding)

lemma epochs_setRemoteConsent (gate : RemoteConsentGate) : (s.setRemoteConsent gate clock).1.epochs = s.epochs := by
  unfold setRemoteConsent
  dsimp only
  cases ({ s with consent := gate } : RemoteMediaState).revokedRoute clock.utc with
  | none => rfl
  | some revoked => exact epochs_revokeClaim _ _ _

lemma epochs_insertPeer (slot : PeerSlot) : (s.insertPeer slot clock).1.epochs = s.epochs := by
  unfold insertPeer
  split
  · rfl
  · dsimp only
    split
    · split <;> rfl
    · rfl

lemma epochs_insertPeerAfterSwitchEpoch (slot : PeerSlot) (expected : Option ℕ) :
    (s.insertPeerAfterSwitchEpoch slot expected clock).1.epochs = s.epochs := by
  unfold insertPeerAfterSwitchEpoch
  split
  · rfl
  · exact s.epochs_insertPeer clock slot

lemma epochs_requestSoftHold (ttl : Duration) : (s.requestSoftHold binding ttl clock).1.epochs = s.epochs := by
  unfold requestSoftHold
  split <;> rfl

@[simp] lemma epochs_renewRoute (permit : RoutePermit) : (s.renewRoute binding permit).epochs = s.epochs := by
  unfold renewRoute
  split <;> rfl

lemma epochs_renew (ttl : Duration) : (s.renew binding ttl clock).1.epochs = s.epochs := by
  unfold renew
  split
  · rfl
  dsimp only
  split
  · rfl
  split
  · rfl
  split
  · split
    · rfl
    · exact epochs_renewRoute _ _ _
  · rfl

lemma epochs_requestRevoke (reason : String) : (s.requestRevoke binding reason).1.epochs = s.epochs := by
  unfold requestRevoke
  split
  · rfl
  next needsReturn _ =>
    cases needsReturn with
    | true => exact epochs_clearBindingObservations _ binding
    | false => exact (epochs_cancelClaim _ _).trans (epochs_clearBindingObservations _ binding)

lemma epochs_closePeer (rtcSessionId reason : String) : (s.closePeer rtcSessionId reason).1.epochs = s.epochs := by
  unfold closePeer
  split
  · rfl
  next slot _ =>
    dsimp only
    rw [epochs_bumpRevision]
    split
    · exact (epochs_clearBindingObservations _ _).trans (epochs_clearBindingObservations _ _)
    · split
      · exact (epochs_cancelClaim _ _).trans (epochs_clearBindingObservations _ _)
      · exact epochs_clearBindingObservations _ _

lemma epochs_failClosedAll (reason : String) : (s.failClosedAll reason).1.epochs = s.epochs := by
  unfold failClosedAll
  dsimp only
  rw [epochs_bumpRevision]
  have htake := epochs_takeRoute { s with peers := [], microphoneMuteBinding := none, pendingPrepare := none,
                                          preparedClaim := none, pendingConsult := none }
  split
  · exact htake
  · exact (epochs_cancelClaim _ _).trans htake
  · exact htake

@[simp] lemma epochs_expirePeers : (s.expirePeers now).epochs = s.epochs := by
  unfold expirePeers
  split <;> rfl

@[simp] lemma epochs_lapseConsult : (s.lapseConsult now).epochs = s.epochs := by
  unfold lapseConsult
  split
  · rfl
  · dsimp only
    split
    · rfl
    · exact epochs_clearBindingObservations _ _

@[simp] lemma epochs_lapseRoute : (s.lapseRoute now).epochs = s.epochs := by
  unfold lapseRoute
  split
  · rfl
  · dsimp only
    split
    · rfl
    · exact epochs_clearBindingObservations _ _

@[simp] lemma epochs_lapsePendingRoute : (s.lapsePendingRoute now).epochs = s.epochs := by
  unfold lapsePendingRoute
  split
  · rfl
  · dsimp only
    split <;> rfl

@[simp] lemma epochs_lapsePendingConsult : (s.lapsePendingConsult now).epochs = s.epochs := by
  unfold lapsePendingConsult
  split
  · rfl
  · split
    · exact epochs_cancelClaim _ _
    · rfl

@[simp] lemma epochs_lapsePrepare : (s.lapsePrepare now).epochs = s.epochs := by
  unfold lapsePrepare
  split
  · rfl
  · split
    · exact epochs_cancelClaim _ _
    · rfl

@[simp] lemma epochs_lapsePrepared : (s.lapsePrepared now).epochs = s.epochs := by
  unfold lapsePrepared
  split
  · rfl
  · split
    · exact epochs_cancelClaim _ _
    · rfl

@[simp] lemma epochs_dispatch : s.dispatch.1.epochs = s.epochs := by
  unfold dispatch
  split
  · split <;> rfl
  · split <;> rfl

lemma epochs_nextRadioTransition : (s.nextRadioTransition clock).1.epochs = s.epochs := by
  simp [nextRadioTransition, nextTransition, lapse]

lemma epochs_ackPrepare : (s.ackPrepare binding clock).1.epochs = s.epochs := by
  unfold ackPrepare
  split
  · rfl
  · exact epochs_withOwnerEpoch _ _

lemma epochs_ackEnterConsult : (s.ackEnterConsult binding clock).1.epochs = s.epochs := by
  unfold ackEnterConsult
  dsimp only
  split
  · rfl
  · split
    · rfl
    · split <;> rfl

lemma epochs_ackEnter (authorized : Bool) : (s.ackEnter binding clock authorized).1.epochs = s.epochs := by
  unfold ackEnter
  dsimp only
  split
  · rfl
  · split
    · rfl
    · split <;> rfl

lemma epochs_ackReturn : s.ackReturn.1.epochs = s.epochs := by
  unfold ackReturn
  split
  · rfl
  · dsimp only
    rw [epochs_bumpRevision]
    split
    · exact (epochs_clearBindingObservations _ _).trans (epochs_withOwnerEpoch _ _)
    · exact epochs_clearBindingObservations _ _

lemma epochs_setMicrophoneMuted (revision : ℕ) (muted : Bool) :
    (s.setMicrophoneMuted binding revision muted clock).1.epochs = s.epochs := by
  unfold setMicrophoneMuted
  split
  · rfl
  split
  · rfl
  split <;> rfl

lemma epochs_allowsTalk : (s.allowsTalk binding clock).1.epochs = s.epochs := by
  rcases s.allowsTalk_cases binding clock with heq | ⟨_, _, _, heq⟩ | ⟨_, _, _, heq⟩ <;> rw [heq]
  rfl

lemma epochs_forwardTalkPcm (sent : Bool) : (s.forwardTalkPcm binding sent clock).1.epochs = s.epochs := by
  have htalk := s.epochs_allowsTalk binding clock
  unfold forwardTalkPcm
  dsimp only
  split
  · split <;> exact htalk
  · exact htalk

lemma epochs_recvConsultPcm : (s.recvConsultPcm binding clock).1.epochs = s.epochs := by
  unfold recvConsultPcm
  split <;> rfl

lemma epochs_noteConsultPcmReceived : (s.noteConsultPcmReceived binding now).epochs = s.epochs := by
  unfold noteConsultPcmReceived
  split <;> rfl

end Epochs

end RemoteMediaState

def Reply.advances : Reply → ℕ × ℕ → ℕ × ℕ
  | .consultRequested, e | .takeoverRequested, e | .linearized _, e => (advance e.1, e.2)
  | .switched, e => (advance e.1, advance e.2)
  | _, e => e

def Reply.fences : Reply → Bool
  | .consultRequested | .takeoverRequested | .linearized _ | .switched => true
  | _ => false

section Step

open RemoteMediaState

variable {s : RemoteMediaState} {α : Type} {reply : α → Reply}

lemma answer_epochs {r : RemoteMediaState × Except String α}
    (hok : ∀ a, r.2 = .ok a → r.1.epochs = (reply a).advances s.epochs)
    (herror : ∀ e, r.2 = .error e → r.1.epochs = s.epochs) :
    (answer reply r).1.epochs = (answer reply r).2.advances s.epochs := by
  unfold answer
  dsimp only
  split
  next a ha => exact hok a ha
  next e he => exact herror e he

lemma answer_epochs_of_eq {r : RemoteMediaState × Except String α} (h : r.1.epochs = s.epochs)
    (hreply : ∀ a e, (reply a).advances e = e) : (answer reply r).1.epochs = (answer reply r).2.advances s.epochs :=
  answer_epochs (fun a _ => h.trans (hreply a _).symm) fun _ _ => h

lemma checked_epochs {checks : Except String α} {run : α → RemoteMediaState × Reply}
    (h : ∀ a, (run a).1.epochs = (run a).2.advances s.epochs) :
    (checked s checks run).1.epochs = (checked s checks run).2.advances s.epochs := by
  unfold checked
  split
  · rfl
  · exact h _

lemma aokieOwnerFence_fenced (s : RemoteMediaState) :
    s.fenceAutonomousAokieActions.aokieOwnerFence =
      s.aokieOwnerFence.map fun f => { f with actionEpoch := advance s.aokieActionEpoch } := by
  have hfence : s.fenceAutonomousAokieActions.aokieOwnerFence =
      if s.currentCallActive && s.serviceMode == .aokieActive && !s.radioReserved then do
        let callId ← s.currentCallId
        let record ← s.calls callId
        return ⟨callId, record.callEpoch, advance s.aokieActionEpoch⟩
      else none := rfl
  rw [hfence, aokieOwnerFence]
  split
  · cases s.currentCallId with
    | none => rfl
    | some callId =>
        dsimp only [Option.bind_eq_bind, Option.bind_some]
        cases s.calls callId <;> rfl
  · rfl

lemma linearizeAokieAction_cases (s : RemoteMediaState) (expected : AokieOwnerFence) :
    (s.aokieOwnerFence ≠ some expected ∧ ∃ e, s.linearizeAokieAction expected = (s, .error e)) ∨
    s.aokieOwnerFence = some expected ∧ s.linearizeAokieAction expected =
      (s.fenceAutonomousAokieActions, .ok { expected with actionEpoch := advance s.aokieActionEpoch }) := by
  unfold linearizeAokieAction
  split
  next hne => exact .inl ⟨hne, _, rfl⟩
  next heq =>
    have heq := not_not.mp heq
    refine .inr ⟨heq, ?_⟩
    simp only [aokieOwnerFence_fenced, heq, Option.map_some, okOr]

lemma withAokieSwitchOwner_cases (s : RemoteMediaState) (expected : AokieSwitchFence) :
    (∃ e, s.withAokieSwitchOwner expected = (s, .error e)) ∨
    s.aokieSwitchFence = some expected ∧ s.withAokieSwitchOwner expected =
      ({ s with aokieSwitchEpoch := advance s.aokieSwitchEpoch }.fenceAutonomousAokieActions, .ok ()) := by
  unfold withAokieSwitchOwner
  split
  · exact .inl ⟨_, rfl⟩
  next heq => exact .inr ⟨not_not.mp heq, rfl⟩

lemma requestConsult_epochs (s : RemoteMediaState) (binding : SessionBinding) (ttl : Duration) (clock : Clock) :
    (∃ e, s.requestConsult binding ttl clock = (s, .error e)) ∨
    (s.requestConsult binding ttl clock).2 = .ok () ∧
      (s.requestConsult binding ttl clock).1.epochs = (advance s.aokieActionEpoch, s.aokieSwitchEpoch) := by
  unfold requestConsult
  split
  · exact .inl ⟨_, rfl⟩
  · exact .inr ⟨rfl, rfl⟩

lemma requestTakeoverGuarded_epochs (s : RemoteMediaState) (binding : SessionBinding) (ttl : Duration)
    (transferGuard : Option TransferActivationGuard) (clock : Clock) :
    (∃ e, s.requestTakeoverGuarded binding ttl transferGuard clock = (s, .error e)) ∨
    (s.requestTakeoverGuarded binding ttl transferGuard clock).2 = .ok () ∧
      (s.requestTakeoverGuarded binding ttl transferGuard clock).1.epochs =
        (advance s.aokieActionEpoch, s.aokieSwitchEpoch) := by
  unfold requestTakeoverGuarded
  split
  · exact .inl ⟨_, rfl⟩
  · exact .inr ⟨rfl, rfl⟩

lemma answer_epochs_of_cases {r : RemoteMediaState × Except String α}
    (h : (∃ e, r = (s, .error e)) ∨ ∃ a, r.2 = .ok a ∧ r.1.epochs = (reply a).advances s.epochs) :
    (answer reply r).1.epochs = (answer reply r).2.advances s.epochs := by
  rcases h with ⟨e, rfl⟩ | ⟨a, hok, hepochs⟩
  · rfl
  · rw [answer_of_ok hok]
    exact hepochs

/-- Every turn advances the epochs as its answer tells. -/
theorem step_epochs (s : RemoteMediaState) (i : Input × Clock) :
    (step s i).1.epochs = (step s i).2.advances s.epochs := by
  obtain ⟨i, clock⟩ := i
  cases i with
  | observeCall callId active => exact s.epochs_observeCall callId active
  | setRemoteConsent gate => exact s.epochs_setRemoteConsent clock gate
  | insertPeer slot expected =>
      exact answer_epochs_of_eq (s.epochs_insertPeerAfterSwitchEpoch clock slot expected) fun _ _ => rfl
  | requestSoftHold binding ttlMs | requestConsultHold binding ttlMs =>
      exact checked_epochs fun ttl => answer_epochs_of_eq (s.epochs_requestSoftHold binding clock ttl) fun _ _ => rfl
  | requestConsult binding ttlMs =>
      exact checked_epochs fun ttl => answer_epochs_of_cases
        ((requestConsult_epochs s binding ttl clock).imp_right fun h => ⟨(), h⟩)
  | requestTakeover binding ttlMs transferGuard =>
      exact checked_epochs fun ttl => answer_epochs_of_cases
        ((requestTakeoverGuarded_epochs s binding ttl transferGuard clock).imp_right fun h => ⟨(), h⟩)
  | renewLease binding ttlMs =>
      exact checked_epochs fun ttl => answer_epochs_of_eq (s.epochs_renew binding clock ttl) fun _ _ => rfl
  | revoke binding reason => exact answer_epochs_of_eq (s.epochs_requestRevoke binding reason) fun _ _ => rfl
  | closePeer rtcSessionId reason => exact answer_epochs_of_eq (s.epochs_closePeer rtcSessionId reason) fun _ _ => rfl
  | failClosedAll reason => exact s.epochs_failClosedAll reason
  | nextRadioTransition => exact s.epochs_nextRadioTransition clock
  | ackPrepare binding => exact answer_epochs_of_eq (s.epochs_ackPrepare binding clock) fun _ _ => rfl
  | ackEnterConsult binding => exact answer_epochs_of_eq (s.epochs_ackEnterConsult binding clock) fun _ _ => rfl
  | ackEnter binding authorized => exact answer_epochs_of_eq (s.epochs_ackEnter binding clock authorized) fun _ _ => rfl
  | ackReturn => exact answer_epochs_of_eq s.epochs_ackReturn fun _ _ => rfl
  | setMicrophoneMuted binding revision muted =>
      exact answer_epochs_of_eq (s.epochs_setMicrophoneMuted binding clock revision muted) fun _ _ => rfl
  | allowsTalk binding => exact s.epochs_allowsTalk binding clock
  | forwardTalkPcm binding sent => exact s.epochs_forwardTalkPcm binding clock sent
  | recvConsultPcm binding => exact s.epochs_recvConsultPcm binding clock
  | noteConsultPcmReceived binding => exact s.epochs_noteConsultPcmReceived binding clock.now
  | withAokieSwitchOwner expected =>
      refine answer_epochs_of_cases ((withAokieSwitchOwner_cases s expected).imp_right ?_)
      rintro ⟨-, heq⟩
      rw [heq]
      exact ⟨(), rfl, rfl⟩
  | withAokieOwner expected => exact answer_epochs_of_eq rfl fun _ _ => rfl
  | linearizeAokieAction expected =>
      apply answer_epochs_of_cases
      rcases linearizeAokieAction_cases s expected with ⟨-, hrefused⟩ | ⟨-, heq⟩
      · exact .inl hrefused
      · rw [heq]
        exact .inr ⟨_, rfl, rfl⟩

lemma aokieOwnerFence_spec {f : AokieOwnerFence} (h : s.aokieOwnerFence = some f) :
    s.currentCallActive = true ∧ s.currentCallId = some f.callId ∧
      s.currentRecord.map (·.callEpoch) = some f.callEpoch ∧ s.radioReserved = false ∧
      s.aokieActionEpoch = f.actionEpoch := by
  unfold aokieOwnerFence at h
  split at h
  next howns =>
    simp only [Bool.and_eq_true, Bool.not_eq_true'] at howns
    simp only [Option.bind_eq_bind, Option.bind_eq_some_iff, Option.pure_def, Option.some.injEq] at h
    obtain ⟨callId, hcall, record, hrecord, rfl⟩ := h
    refine ⟨howns.1.1, hcall, ?_, howns.2, rfl⟩
    rw [currentRecord, hcall, Option.bind_some, hrecord]
    rfl
  · cases h

lemma actionEpoch_step (s : RemoteMediaState) (i : Input × Clock) :
    (step s i).1.aokieActionEpoch = if (step s i).2.fences then advance s.aokieActionEpoch else s.aokieActionEpoch := by
  have hepochs := congrArg Prod.fst (step_epochs s i)
  rw [show (step s i).1.aokieActionEpoch = (step s i).1.epochs.1 from rfl, hepochs]
  generalize (step s i).2 = reply
  cases reply <;> rfl

lemma actionEpoch_final (h : s.aokieActionEpoch ≤ u64Max) (is : List (Input × Clock)) :
    (step.final s is).aokieActionEpoch ≤ u64Max ∧ s.aokieActionEpoch ≤ (step.final s is).aokieActionEpoch ∧
    (s.aokieActionEpoch < u64Max → (∃ reply ∈ step.outputs s is, reply.fences = true) →
      s.aokieActionEpoch < (step.final s is).aokieActionEpoch) := by
  induction is generalizing s with
  | nil => exact ⟨h, le_rfl, fun _ => by simp⟩
  | cons i is ih =>
      have hstep := actionEpoch_step s i
      have hle : s.aokieActionEpoch ≤ (step s i).1.aokieActionEpoch := by
        rw [hstep]
        split
        · exact le_advance h
        · exact le_rfl
      have hmax : (step s i).1.aokieActionEpoch ≤ u64Max := by
        rw [hstep]
        split
        · exact advance_le _
        · exact h
      obtain ⟨hbound, hrest, hrises⟩ := ih hmax
      rw [Machine.final_cons, Machine.outputs_cons]
      refine ⟨hbound, hle.trans hrest, fun hlt => ?_⟩
      rintro ⟨reply, hmem, hfences⟩
      rcases List.mem_cons.mp hmem with rfl | hmem
      · refine lt_of_lt_of_le ?_ hrest
        rw [hstep, if_pos hfences]
        exact lt_advance hlt
      · rcases hle.eq_or_lt with heq | hlt'
        · rw [heq]
          exact hrises (heq ▸ hlt) ⟨reply, hmem, hfences⟩
        · exact hlt'.trans_le hrest

def Accepts (s : RemoteMediaState) (f : AokieOwnerFence) (i : Input × Clock) : Prop :=
  i.1 = .withAokieOwner f ∧ (step s i).2 = .ownerHolds ∨
  i.1 = .linearizeAokieAction f ∧ ∃ f', (step s i).2 = .linearized f'

lemma fence_of_accepts {f : AokieOwnerFence} {i : Input × Clock} (h : Accepts s f i) : s.aokieOwnerFence = some f := by
  obtain ⟨i, clock⟩ := i
  rcases h with ⟨rfl, hreply⟩ | ⟨rfl, f', hreply⟩
  · by_contra hne
    have herror : s.withAokieOwner f = .error "the exact Aokie caller-owner fence changed" := by
      simp [withAokieOwner, ensure, hne]
    have hrefused := @answer_of_error Unit (fun _ => .ownerHolds) (s, s.withAokieOwner f) _ herror
    exact absurd (hrefused.symm.trans hreply) nofun
  · rcases linearizeAokieAction_cases s f with ⟨-, e, heq⟩ | ⟨hfence, -⟩
    · have hrefused := @answer_of_error _ .linearized (s.linearizeAokieAction f) e (by rw [heq])
      exact absurd (hrefused.symm.trans hreply) nofun
    · exact hfence

def linearizedFences : RemoteMediaState → List (Input × Clock) → List AokieOwnerFence
  | _, [] => []
  | s, i :: is =>
      (match i.1, (step s i).2 with
        | .linearizeAokieAction f, .linearized _ => [f]
        | _, _ => []) ++ linearizedFences (step s i).1 is

lemma mem_linearizedFences_cons {f : AokieOwnerFence} {i : Input × Clock} {is : List (Input × Clock)}
    (h : f ∈ linearizedFences s (i :: is)) :
    (Accepts s f i ∧ (step s i).2.fences = true) ∨ f ∈ linearizedFences (step s i).1 is := by
  rw [linearizedFences, List.mem_append] at h
  rcases h with h | h
  · left
    split at h
    next f' f'' hi hreply =>
      obtain rfl := List.mem_singleton.mp h
      exact ⟨.inr ⟨hi, _, hreply⟩, by rw [hreply]; rfl⟩
    · cases h
  · exact .inr h

lemma le_of_mem_linearizedFences (h : s.aokieActionEpoch ≤ u64Max) {f : AokieOwnerFence} {is : List (Input × Clock)}
    (hf : f ∈ linearizedFences s is) : s.aokieActionEpoch ≤ f.actionEpoch := by
  induction is generalizing s with
  | nil => cases hf
  | cons i is ih =>
      rcases mem_linearizedFences_cons hf with ⟨haccepts, -⟩ | hrest
      · exact (aokieOwnerFence_spec (fence_of_accepts haccepts)).2.2.2.2.le
      · obtain ⟨hbound, hle, -⟩ := actionEpoch_final h [i]
        exact hle.trans (ih hbound hrest)

lemma count_linearizedFences (h : s.aokieActionEpoch ≤ u64Max) {f : AokieOwnerFence} (hf : f.actionEpoch < u64Max)
    (is : List (Input × Clock)) : (linearizedFences s is).count f ≤ 1 := by
  induction is generalizing s with
  | nil => exact Nat.zero_le _
  | cons i is ih =>
      obtain ⟨hbound, -, -⟩ := actionEpoch_final h [i]
      have hrest := ih (s := (step s i).1) hbound
      rw [linearizedFences]
      split
      next f' f'' hi hreply =>
        have haccepts : Accepts s f' i := .inr ⟨hi, _, hreply⟩
        have hepoch := (aokieOwnerFence_spec (fence_of_accepts haccepts)).2.2.2.2
        by_cases hsame : f' = f
        · subst hsame
          -- the turn has moved the epoch above the fence it accepted
          have hnot : f' ∉ linearizedFences (step s i).1 is := by
            intro hmem
            have hle : (step s i).1.aokieActionEpoch ≤ f'.actionEpoch := le_of_mem_linearizedFences hbound hmem
            rw [actionEpoch_step, if_pos (by rw [hreply]; rfl), hepoch] at hle
            exact absurd hle (not_le.mpr (lt_advance hf))
          simp [List.count_eq_zero.mpr hnot]
        · simpa [hsame] using hrest
      · simpa using hrest

end Step

open RemoteMediaState

/-- A fence below the end of the counter that is accepted was overtaken by nothing: no claim, no switch and no other
action came between, Aokie still owns its call, and one action is linearized with it. -/
theorem stale_action_loses (pre mid : List (Input × Clock)) (f : AokieOwnerFence) (hmax : f.actionEpoch < u64Max) :
    ((step.final .initial pre).aokieOwnerFence = some f →
      ∀ i, Accepts (step.final .initial (pre ++ mid)) f i →
        (∀ reply ∈ step.outputs (step.final .initial pre) mid, reply.fences = false) ∧
        (step.final .initial (pre ++ mid)).currentCallActive = true ∧
        (step.final .initial (pre ++ mid)).currentCallId = some f.callId ∧
        (step.final .initial (pre ++ mid)).currentRecord.map (·.callEpoch) = some f.callEpoch ∧
        (step.final .initial (pre ++ mid)).radioReserved = false) ∧
    (linearizedFences .initial (pre ++ mid)).count f ≤ 1 := by
  refine ⟨?_, count_linearizedFences (Nat.zero_le _) hmax _⟩
  intro hcaptured i haccepts
  obtain ⟨hactive, hcall, hrecord, hradio, hepoch⟩ := aokieOwnerFence_spec (fence_of_accepts haccepts)
  refine ⟨?_, hactive, hcall, hrecord, hradio⟩
  have hcapture := (aokieOwnerFence_spec hcaptured).2.2.2.2
  obtain ⟨hbound, -, -⟩ := actionEpoch_final (s := .initial) (Nat.zero_le _) pre
  obtain ⟨-, -, hrises⟩ := actionEpoch_final hbound mid
  intro reply hreply
  by_contra hfences
  have hlt := hrises (hcapture ▸ hmax) ⟨reply, hreply, Bool.of_not_eq_false hfences⟩
  rw [← Machine.final_append, hepoch, hcapture] at hlt
  exact lt_irrefl _ hlt

section Counter

/-! One call, and Aokie linearizes actions until the counter is at its end. -/

def answeredCall : RemoteMediaState := (step .initial (.observeCall (some "c1") true, ⟨0, 0⟩)).1

def linearizeAt (n : ℕ) : Input × Clock := (.linearizeAokieAction ⟨"c1", 1, n⟩, ⟨0, 0⟩)

def actionRun (n : ℕ) : List (Input × Clock) := (List.range n).map linearizeAt

lemma answeredCall_fence (n : ℕ) : { answeredCall with aokieActionEpoch := n }.aokieOwnerFence = some ⟨"c1", 1, n⟩ :=
  rfl

lemma linearizeAt_step (n : ℕ) :
    step { answeredCall with aokieActionEpoch := n } (linearizeAt n) =
      ({ answeredCall with aokieActionEpoch := advance n }, .linearized ⟨"c1", 1, advance n⟩) := by
  rcases linearizeAokieAction_cases { answeredCall with aokieActionEpoch := n } ⟨"c1", 1, n⟩ with
    ⟨hne, -⟩ | ⟨-, heq⟩
  · exact absurd (answeredCall_fence n) hne
  · have hstep : step { answeredCall with aokieActionEpoch := n } (linearizeAt n) =
        answer .linearized ({ answeredCall with aokieActionEpoch := n }.linearizeAokieAction ⟨"c1", 1, n⟩) := rfl
    rw [hstep, heq]
    rfl

lemma advance_of_lt {n : ℕ} (h : n < u64Max) : advance n = n + 1 := by
  simp only [advance, saturatingAdd]
  omega

lemma actionRun_final {n : ℕ} (h : n ≤ u64Max) :
    step.final answeredCall (actionRun n) = { answeredCall with aokieActionEpoch := n } := by
  induction n with
  | zero => rfl
  | succ n ih =>
      rw [actionRun, List.range_succ, List.map_append, Machine.final_append]
      rw [show step.final answeredCall ((List.range n).map linearizeAt) = _ from ih (Nat.le_of_succ_le h)]
      rw [List.map_singleton, Machine.final_cons, Machine.final_nil, linearizeAt_step, advance_of_lt h]

lemma linearizedFences_append (s : RemoteMediaState) (is js : List (Input × Clock)) :
    linearizedFences s (is ++ js) = linearizedFences s is ++ linearizedFences (step.final s is) js := by
  induction is generalizing s with
  | nil => rfl
  | cons i is ih => rw [List.cons_append, linearizedFences, ih, linearizedFences, List.append_assoc, Machine.final_cons]

lemma advance_u64Max : advance u64Max = u64Max := by
  simp only [advance, saturatingAdd, u64Max]
  omega

lemma two_le_count_linearizedFences {n : ℕ} (h : n ≤ u64Max) (hend : advance n = n) :
    2 ≤ (linearizedFences .initial ((.observeCall (some "c1") true, ⟨0, 0⟩) ::
      (actionRun n ++ [linearizeAt n, linearizeAt n]))).count ⟨"c1", 1, n⟩ := by
  have htwice : linearizedFences { answeredCall with aokieActionEpoch := n } [linearizeAt n, linearizeAt n] =
      [⟨"c1", 1, n⟩, ⟨"c1", 1, n⟩] := by
    simp only [linearizedFences, linearizeAt_step, hend]
    rfl
  have hfences : linearizedFences .initial ((.observeCall (some "c1") true, ⟨0, 0⟩) ::
      (actionRun n ++ [linearizeAt n, linearizeAt n])) =
      linearizedFences answeredCall (actionRun n) ++ [⟨"c1", 1, n⟩, ⟨"c1", 1, n⟩] := by
    rw [← htwice, ← actionRun_final h, ← linearizedFences_append]
    rfl
  rw [hfences, List.count_append]
  simp

/-- At the end of the counter one fence linearizes two actions. -/
theorem saturated_fence_linearizes_twice :
    ¬∀ (is : List (Input × Clock)) (f : AokieOwnerFence), (linearizedFences .initial is).count f ≤ 1 := by
  intro h
  have htwice := two_le_count_linearizedFences le_rfl advance_u64Max
  have honce := h ((.observeCall (some "c1") true, ⟨0, 0⟩) ::
    (actionRun u64Max ++ [linearizeAt u64Max, linearizeAt u64Max])) ⟨"c1", 1, u64Max⟩
  exact absurd (htwice.trans honce) (by decide)

end Counter

def listenerBinding : SessionBinding := ⟨"r1", "c1", 1, 0, "d1", .monitor, some "l1", 0⟩

def answeredRun : List (Input × Clock) :=
  [(.setRemoteConsent { RemoteConsentGate.closed with
      enabled := true, acknowledged := true, monitorEnabled := true }, ⟨0, 0⟩),
    (.observeCall (some "c1") true, ⟨0, 0⟩)]

def listenedTo : List (Input × Clock) :=
  [(.insertPeer ⟨listenerBinding, seconds 100⟩ none, ⟨0, 0⟩), (.requestTakeover listenerBinding 60000 none, ⟨0, 0⟩)]

/-- Aokie's first action on a call, prepared before a listener came. -/
theorem first_action_accepted :
    (step.final .initial (answeredRun ++ listenedTo)).peers.length = 1 ∧
    (∀ reply ∈ step.outputs (step.final .initial answeredRun) listenedTo, reply.fences = false) ∧
    (step.final .initial (answeredRun ++ listenedTo)).radioReserved = false :=
  let h := (stale_action_loses answeredRun listenedTo ⟨"c1", 1, 0⟩ (by decide)).1 (by decide) (linearizeAt 0)
    (.inr ⟨rfl, ⟨"c1", 1, 1⟩, by decide⟩)
  ⟨by decide, h.1, h.2.2.2.2⟩

end Aokie.Plugin.RemoteMedia
