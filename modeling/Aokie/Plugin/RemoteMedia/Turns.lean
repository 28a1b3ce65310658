import Aokie.Plugin.RemoteMedia.Moves

/-! The acknowledgements of the radio and the frames of the peers, and with them every turn of the machine. -/

namespace Aokie.Plugin.RemoteMedia

open Aokie.Lib Aokie.Media

namespace RemoteMediaState

variable {P : SessionBinding → Prop} {s s' : RemoteMediaState} {mark : Mark} {binding : SessionBinding} {clock : Clock}

lemma ackPrepareChecks_ok {pending : PendingPrepare} {record : CallRecord}
    (h : s.ackPrepareChecks binding clock = .ok (pending, record)) :
    s.pendingPrepare = some pending ∧ pending.binding = binding ∧ binding.validate = .ok () ∧
      s.currentCallId = some binding.callId ∧ s.calls binding.callId = some ⟨binding.callEpoch, binding.ownerEpoch⟩ ∧
      record.ownerEpoch = binding.ownerEpoch := by
  simp only [ackPrepareChecks, bind_eq_ok_iff, ensure_eq_ok_iff, okOr_eq_ok_iff, pure_eq_ok_iff] at h
  obtain ⟨r, hlive, -, -, -, -, p, hpending, -, ⟨hbinding, -⟩, -, howner, heq⟩ := h
  obtain ⟨rfl, rfl⟩ := Prod.mk.inj heq
  obtain ⟨hcall, hcalls⟩ := owned_of_validateLiveBinding hlive howner
  exact ⟨hpending, hbinding, (validateLiveBinding_ok hlive).1, hcall, hcalls, howner⟩

lemma saturatingAdd_ownerEpoch (h : binding.validate = .ok ()) :
    saturatingAdd binding.ownerEpoch 1 = binding.ownerEpoch + 1 := by
  have hbound := (SessionBinding.validate_bounds h).1.2
  simp only [maxSafeInteger, saturatingAdd, u64Max] at hbound ⊢
  omega

lemma ackPrepare_eq {n : ℕ} (h : (s.ackPrepare binding clock).2 = .ok n) :
    ∃ pending, s.pendingPrepare = some pending ∧ pending.binding = binding ∧ s.line.Owned binding ∧
      n = binding.ownerEpoch + 1 ∧
      (s.ackPrepare binding clock).1 = { s with
        pendingPrepare := none
        calls := Function.update s.calls binding.callId (some ⟨binding.callEpoch, n⟩)
        preparedClaim := some ⟨binding, n, pending.expiresAt, none, none, none⟩
        serviceMode := .aokieActive }.bumpRevision := by
  unfold ackPrepare at h ⊢
  split at h
  · cases h
  next pending record hok =>
    obtain ⟨hpending, hbinding, hvalid, hcall, hcalls, howner⟩ := ackPrepareChecks_ok hok
    obtain rfl : n = binding.ownerEpoch + 1 := by
      rw [← saturatingAdd_ownerEpoch hvalid, ← howner]
      exact (Except.ok.inj h).symm
    refine ⟨pending, hpending, hbinding, ⟨hcall, hcalls⟩, rfl, ?_⟩
    simp only [howner, saturatingAdd_ownerEpoch hvalid, withOwnerEpoch, hcall, hcalls, Option.map_some]

lemma ackPrepare_error {e : String} (h : (s.ackPrepare binding clock).2 = .error e) :
    (s.ackPrepare binding clock).1 = s := by
  unfold ackPrepare at h ⊢
  split at h
  · rfl
  · cases h

theorem ackPrepare_turn (hs : s.Inv P) {n : ℕ} (h : (s.ackPrepare binding clock).2 = .ok n) :
    Turn (.acknowledged binding) s (s.ackPrepare binding clock).1 := by
  obtain ⟨pending, hpending, rfl, howned, rfl, heq⟩ := ackPrepare_eq h
  have hclaim := line_claim_of_mem hs.claims (c := .preparing pending.binding) (by simp [claims, hpending])
  have hmove := Move.confirmed s.line hclaim howned
  obtain ⟨-, h₂, h₃, h₄, h₅, h₆⟩ := vacant_of_pendingPrepare hs.claims hpending
  dsimp only at h₂ h₃ h₄ h₅ h₆
  rw [heq]
  refine ⟨by simp [claims, bumpRevision, h₃, h₄, h₅, h₆], ?_, .inl (.inl rfl)⟩
  simpa [line, claims, bumpRevision, h₃, h₄, h₅, h₆] using hmove

lemma Inv.peer_of_claim (hs : s.Inv P) {c : Claim} (hclaim : s.line.claim = some c) (hseat : c.isSeated = true) :
    s.peer c.binding.rtcSessionId ≠ none := by
  intro hnone
  exact fresh_of_peer_eq_none hnone _ ((hs.line.claim c hclaim).seated hseat) rfl

lemma ackEnterConsult_cases (hs : s.Inv P) (binding : SessionBinding) (clock : Clock) :
    (∃ e, s.ackEnterConsult binding clock = (s, .error e)) ∨
    ∃ pending expiresAt, s.pendingConsult = some pending ∧ pending.binding = binding ∧
      s.ackEnterConsult binding clock = ({ s with
        pendingConsult := none
        activeConsult := some ⟨binding, expiresAt, clock.now, pending.lastReceivedAt⟩
        serviceMode := .consultActive }.bumpRevision, .ok ()) := by
  unfold ackEnterConsult
  dsimp only
  split
  next e _ => exact .inl ⟨e, rfl⟩
  next record pending hok =>
    simp only [bind_eq_ok_iff, ensure_eq_ok_iff, okOr_eq_ok_iff, pure_eq_ok_iff, Prod.mk.injEq] at hok
    obtain ⟨r, hlive, -, -, -, -, p, hpending, -, ⟨hbinding, -⟩, -, -, -, rfl⟩ := hok
    have hclaim := line_claim_of_mem hs.claims (c := .consultPending p.binding) (by simp [claims, hpending])
    split
    next hnone =>
      rw [← hbinding] at hnone
      exact absurd hnone (hs.peer_of_claim hclaim rfl)
    next slot _ =>
      split
      · exact .inl ⟨_, rfl⟩
      · exact .inr ⟨p, _, hpending, hbinding, rfl⟩

theorem ackEnterConsult_turn (hs : s.Inv P) (binding : SessionBinding) (clock : Clock) :
    Turn .quiet s (s.ackEnterConsult binding clock).1 := by
  rcases ackEnterConsult_cases hs binding clock with ⟨e, heq⟩ | ⟨pending, expiresAt, hpending, rfl, heq⟩
  · rw [heq]
    exact .refl hs
  · have hclaim := line_claim_of_mem hs.claims (c := .consultPending pending.binding) (by simp [claims, hpending])
    have hmove := Move.consultEntered s.line hclaim
    obtain ⟨h₁, h₂, -, h₄, h₅, h₆⟩ := vacant_of_pendingConsult hs.claims hpending
    dsimp only at h₁ h₂ h₄ h₅ h₆
    rw [heq]
    refine ⟨by simp [claims, bumpRevision, h₁, h₂, h₅, h₆], ?_, .inl (.inl rfl)⟩
    simpa [line, claims, bumpRevision, h₁, h₂, h₅, h₆] using hmove

lemma ackEnter_cases (hs : s.Inv P) (binding : SessionBinding) (clock : Clock) (authorized : Bool) :
    (∃ e, s.ackEnter binding clock authorized = (s, .error e)) ∨
    ∃ pending, s.pendingRoute = some pending ∧ pending.permit.binding = binding ∧
      clock.now < pending.permit.expiresAt ∧
      s.ackEnter binding clock authorized = ({ s with
        pendingRoute := none
        activeRoute := some ⟨pending.permit, clock.now, none⟩
        serviceMode := .humanActive }.bumpRevision, .ok pending.permit) := by
  unfold ackEnter
  dsimp only
  split
  next e _ => exact .inl ⟨e, rfl⟩
  next record pending hok =>
    simp only [bind_eq_ok_iff, ensure_eq_ok_iff, okOr_eq_ok_iff, pure_eq_ok_iff, Prod.mk.injEq,
      RoutePermit.isCurrentFor, Bool.and_eq_true, decide_eq_true_eq] at hok
    obtain ⟨r, hlive, -, -, -, -, p, hpending, -, -, -, ⟨hexpiry, rfl⟩, rfl, rfl⟩ := hok
    have hclaim := line_claim_of_mem hs.claims (c := .routePending p.permit.binding) (by simp [claims, hpending])
    split
    next hnone => exact absurd hnone (hs.peer_of_claim hclaim rfl)
    next slot _ =>
      split
      next hepoch =>
        obtain ⟨-, -, -, -, -, howned⟩ := hs.line.claim _ hclaim
        obtain ⟨-, -, hrecord, -⟩ := validateLiveBinding_ok hlive
        have hrecord' := Option.some.inj (hrecord.symm.trans howned)
        exact absurd (by rw [hrecord']) hepoch
      · exact .inr ⟨p, hpending, rfl, hexpiry, rfl⟩

theorem ackEnter_turn (hs : s.Inv P) {authorized : Bool} {permit : RoutePermit}
    (h : (s.ackEnter binding clock authorized).2 = .ok permit) :
    Turn (.entered binding) s (s.ackEnter binding clock authorized).1 := by
  rcases ackEnter_cases hs binding clock authorized with ⟨e, heq⟩ | ⟨pending, hpending, rfl, -, heq⟩
  · rw [heq] at h
    cases h
  · have hclaim := line_claim_of_mem hs.claims (c := .routePending pending.permit.binding) (by simp [claims, hpending])
    have hmove := Move.routeEntered s.line hclaim
    obtain ⟨h₁, h₂, h₃, h₄, -, h₆⟩ := vacant_of_pendingRoute hs.claims hpending
    dsimp only at h₁ h₂ h₃ h₄ h₆
    rw [heq]
    refine ⟨by simp [claims, bumpRevision, h₁, h₂, h₃, h₄], ?_, .inl (.inl rfl)⟩
    simpa [line, claims, bumpRevision, h₁, h₂, h₃, h₄] using hmove

lemma ackEnter_error (hs : s.Inv P) {authorized : Bool} {e : String}
    (h : (s.ackEnter binding clock authorized).2 = .error e) : (s.ackEnter binding clock authorized).1 = s := by
  rcases ackEnter_cases hs binding clock authorized with ⟨e, heq⟩ | ⟨pending, -, -, -, heq⟩
  · rw [heq]
  · rw [heq] at h
    cases h

lemma ackReturn_error {e : String} (h : s.ackReturn.2 = .error e) : s.ackReturn.1 = s := by
  unfold ackReturn at h ⊢
  split at h
  · rfl
  · cases h

theorem ackReturn_turn (hs : s.Inv P) (h : s.ackReturn.2 = .ok binding) : Turn .returned s s.ackReturn.1 := by
  unfold ackReturn at h ⊢
  split at h
  · cases h
  next b hreturn =>
    dsimp only
    rw [clearBindingObservations_eq]
    have hrise (f : CallRecord → ℕ) (hf : ∀ r, f r = saturatingAdd (max r.ownerEpoch b.ownerEpoch) 1) :
        CallsRise s.calls ({ s with returnBinding := none }.withOwnerEpoch f).calls := by
      apply callsRise_withOwnerEpoch (s := { s with returnBinding := none })
      intro c r hr
      rw [hf]
      exact le_fenced (hs.ownerEpoch_le c r hr) _
    split
    · rw [withOwnerEpoch_eq]
      refine ⟨claims_le_of_vacant ⟨rfl, rfl, rfl, rfl, rfl, rfl⟩, ?_, .inl (.inl rfl)⟩
      convert Move.returned s.line _ hreturn (hrise _ fun _ => rfl) using 1
      simp [line, claims, clearClaims, bumpRevision]
      rfl
    · refine ⟨claims_le_of_vacant ⟨rfl, rfl, rfl, rfl, rfl, rfl⟩, ?_, .inl (.inl rfl)⟩
      convert Move.returned s.line _ hreturn (fun _ => .inl rfl) using 1
      simp [line, claims, clearClaims, bumpRevision]
      rfl

theorem setMicrophoneMuted_turn (hs : s.Inv P) (binding : SessionBinding) (revision : ℕ) (muted : Bool)
    (clock : Clock) : Turn .quiet s (s.setMicrophoneMuted binding revision muted clock).1 := by
  unfold setMicrophoneMuted
  split
  · exact .refl hs
  split
  · exact .refl hs
  split
  · exact .refl hs
  · exact ⟨hs.claims, .heard s.line s.currentCallActive _, .inl (.inl rfl)⟩

lemma allowsTalk_cases (s : RemoteMediaState) (binding : SessionBinding) (clock : Clock) :
    s.allowsTalk binding clock = (s, false) ∨
    (∃ route, s.activeRoute = some route ∧ s.talkAllowed binding clock route = true ∧
      s.allowsTalk binding clock = (s, true)) ∨
    ∃ route, s.activeRoute = some route ∧ route.permit.expiresAt ≤ clock.now ∧
      s.allowsTalk binding clock =
        (({ s with activeRoute := none }.beginReturn route.permit.binding "lease_expired").bumpRevision, false) := by
  unfold allowsTalk
  split
  · exact .inl rfl
  next route hroute =>
    split_ifs with hallowed hexpired
    · exact .inr (.inl ⟨route, hroute, hallowed, rfl⟩)
    · exact .inr (.inr ⟨route, hroute, hexpired, rfl⟩)
    · exact .inl rfl

theorem allowsTalk_turn (hs : s.Inv P) (binding : SessionBinding) (clock : Clock) :
    Turn .quiet s (s.allowsTalk binding clock).1 := by
  rcases s.allowsTalk_cases binding clock with heq | ⟨route, -, -, heq⟩ | ⟨route, hroute, -, heq⟩
  · rw [heq]
    exact .refl hs
  · rw [heq]
    exact .refl hs
  · rw [heq]
    have hclaim := line_claim_of_mem hs.claims (c := .routeActive route.permit.binding) (by simp [claims, hroute])
    obtain ⟨h₁, h₂, h₃, h₄, h₅, -⟩ := vacant_of_activeRoute hs.claims hroute
    exact .yield hclaim rfl ⟨rfl, rfl, rfl⟩ rfl (.refl _) rfl rfl ⟨h₁, h₂, h₃, h₄, h₅, rfl⟩ (.inl rfl)

theorem forwardTalkPcm_turn (hs : s.Inv P) (binding : SessionBinding) (sent : Bool) (clock : Clock) :
    Turn .quiet s (s.forwardTalkPcm binding sent clock).1 := by
  have hturn := allowsTalk_turn hs binding clock
  unfold forwardTalkPcm
  rcases s.allowsTalk_cases binding clock with heq | ⟨route, -, -, heq⟩ | ⟨route, -, -, heq⟩
  · rw [heq]
    exact .refl hs
  · simp only [heq]
    have halike : Alike s { s with
        activeRoute := s.activeRoute.map fun route => { route with lastForwardedAt := some clock.now } } :=
      { Alike.refl s with activeRoute := by simp [Function.comp_def] }
    split_ifs
    · exact halike.turn hs
    · refine Alike.turn_bump (halike.trans ?_) hs
      exact { Alike.refl _ with }
    · exact .refl hs
  · rw [heq] at hturn ⊢
    exact hturn

theorem recvConsultPcm_turn (hs : s.Inv P) (binding : SessionBinding) (clock : Clock) :
    Turn .quiet s (s.recvConsultPcm binding clock).1 := by
  unfold recvConsultPcm
  split_ifs
  · refine Alike.turn { Alike.refl s with activeConsult := ?_ } hs
    simp [Function.comp_def]
  · exact .refl hs

theorem noteConsultPcmReceived_turn (hs : s.Inv P) (binding : SessionBinding) (now : Instant) :
    Turn .quiet s (s.noteConsultPcmReceived binding now) := by
  unfold noteConsultPcmReceived
  split_ifs
  · exact .refl hs
  · exact Alike.turn { Alike.refl s with
      preparedClaim := map_update fun _ => rfl
      pendingConsult := map_update fun _ => rfl
      activeConsult := map_update fun _ => rfl } hs

theorem withAokieSwitchOwner_turn (hs : s.Inv P) (expected : AokieSwitchFence) :
    Turn .quiet s (s.withAokieSwitchOwner expected).1 := by
  unfold withAokieSwitchOwner
  split_ifs
  · exact .refl hs
  · exact Alike.turn { Alike.refl s with } hs

theorem linearizeAokieAction_turn (hs : s.Inv P) (expected : AokieOwnerFence) :
    Turn .quiet s (s.linearizeAokieAction expected).1 := by
  unfold linearizeAokieAction
  split_ifs
  · exact .refl hs
  · exact Alike.turn { Alike.refl s with } hs

end RemoteMediaState

def Reply.mark : Reply → Mark
  | .held => .held
  | .prepared binding _ => .acknowledged binding
  | .humanEntered binding _ => .entered binding
  | .returned _ => .returned
  | _ => .quiet

/-- What a turn tells: the call on the line changed, or what its answer says. -/
def Input.mark (s : RemoteMediaState) (i : Input) (reply : Reply) : Mark :=
  match i with
  | .observeCall callId _ => if s.currentCallId = callId then .quiet else .changed
  | _ => reply.mark

section Step

open RemoteMediaState

variable {P : SessionBinding → Prop} {s : RemoteMediaState} {α : Type} {reply : α → Reply}

lemma answer_of_ok {r : RemoteMediaState × Except String α} {a : α} (h : r.2 = .ok a) :
    (answer reply r).2 = reply a := by
  simp only [answer, h]

lemma answer_of_error {r : RemoteMediaState × Except String α} {e : String} (h : r.2 = .error e) :
    (answer reply r).2 = .refused e := by
  simp only [answer, h]

lemma checked_of_ok {checks : Except String α} {run : α → RemoteMediaState × Reply} {a : α} (h : checks = .ok a) :
    checked s checks run = run a := by
  rw [h, checked]

lemma checked_of_error {checks : Except String α} {run : α → RemoteMediaState × Reply} {e : String}
    (h : checks = .error e) : checked s checks run = (s, .refused e) := by
  rw [h, checked]

lemma answer_ne {r : RemoteMediaState × Except String α} {x : Reply} (hx : ∀ e, Reply.refused e ≠ x)
    (h : ∀ a, reply a ≠ x) : (answer reply r).2 ≠ x := by
  unfold answer
  dsimp only
  split
  · exact h _
  · exact hx _

lemma checked_ne {checks : Except String α} {run : α → RemoteMediaState × Reply} {x : Reply}
    (hx : ∀ e, Reply.refused e ≠ x) (h : ∀ a, (run a).2 ≠ x) : (checked s checks run).2 ≠ x := by
  unfold checked
  split
  · exact hx _
  · exact h _

lemma answer_turn {r : RemoteMediaState × Except String α} (hok : ∀ a, r.2 = .ok a → Turn (reply a).mark s r.1)
    (herror : ∀ e, r.2 = .error e → Turn .quiet s r.1) : Turn (answer reply r).2.mark s (answer reply r).1 := by
  unfold answer
  dsimp only
  split
  next a ha => exact hok a ha
  next e he => exact herror e he

lemma answer_turn_quiet {r : RemoteMediaState × Except String α} (hquiet : ∀ a, (reply a).mark = .quiet)
    (hturn : Turn .quiet s r.1) : Turn (answer reply r).2.mark s (answer reply r).1 :=
  answer_turn (fun a _ => (hquiet a).symm ▸ hturn) fun _ _ => hturn

lemma checked_turn (hs : s.Inv P) {checks : Except String α} {run : α → RemoteMediaState × Reply}
    (hrun : ∀ a, Turn (run a).2.mark s (run a).1) : Turn (checked s checks run).2.mark s (checked s checks run).1 := by
  unfold checked
  split
  · exact .refl hs
  · exact hrun _

/-- Every turn but a consent is a move of the line that the revision tells. -/
theorem step_turn (hs : s.Inv P) (i : Input) (clock : Clock) (hi : ∀ gate, i ≠ .setRemoteConsent gate) :
    Turn (i.mark s (step s (i, clock)).2) s (step s (i, clock)).1 := by
  cases i with
  | observeCall callId active =>
      by_cases hcall : s.currentCallId = callId
      · rw [Input.mark, if_pos hcall]
        exact observeCall_turn_of_eq hs hcall active
      · rw [Input.mark, if_neg hcall]
        exact observeCall_turn_of_ne hs hcall active
  | setRemoteConsent gate => exact absurd rfl (hi gate)
  | insertPeer slot expected =>
      exact answer_turn_quiet (fun _ => rfl) (insertPeerAfterSwitchEpoch_turn hs slot expected clock)
  | requestSoftHold binding ttlMs | requestConsultHold binding ttlMs =>
      refine checked_turn hs fun ttl => answer_turn (fun _ hok => requestSoftHold_turn hs hok) fun e he => ?_
      rw [requestSoftHold_error he]
      exact .refl hs
  | requestConsult binding ttlMs =>
      exact checked_turn hs fun ttl => answer_turn_quiet (fun _ => rfl) (requestConsult_turn hs binding ttl clock)
  | requestTakeover binding ttlMs transferGuard =>
      exact checked_turn hs fun ttl => answer_turn_quiet (fun _ => rfl)
        (requestTakeoverGuarded_turn hs binding ttl transferGuard clock)
  | renewLease binding ttlMs =>
      exact checked_turn hs fun ttl => answer_turn_quiet (fun _ => rfl) (renew_turn hs binding ttl clock)
  | revoke binding reason => exact answer_turn_quiet (fun _ => rfl) (requestRevoke_turn hs binding reason)
  | closePeer rtcSessionId reason => exact answer_turn_quiet (fun _ => rfl) (closePeer_turn hs rtcSessionId reason)
  | failClosedAll reason => exact failClosedAll_turn hs reason
  | nextRadioTransition => exact nextRadioTransition_turn hs clock
  | ackPrepare binding =>
      refine answer_turn (fun n hn => ackPrepare_turn hs hn) fun e he => ?_
      rw [ackPrepare_error he]
      exact .refl hs
  | ackEnterConsult binding => exact answer_turn_quiet (fun _ => rfl) (ackEnterConsult_turn hs binding clock)
  | ackEnter binding authorized =>
      refine answer_turn (fun n hn => ackEnter_turn hs hn) fun e he => ?_
      rw [ackEnter_error hs he]
      exact .refl hs
  | ackReturn =>
      refine answer_turn (fun n hn => ackReturn_turn hs hn) fun e he => ?_
      rw [ackReturn_error he]
      exact .refl hs
  | setMicrophoneMuted binding revision muted =>
      exact answer_turn_quiet (fun _ => rfl) (setMicrophoneMuted_turn hs binding revision muted clock)
  | allowsTalk binding => exact allowsTalk_turn hs binding clock
  | forwardTalkPcm binding sent => exact forwardTalkPcm_turn hs binding sent clock
  | recvConsultPcm binding => exact recvConsultPcm_turn hs binding clock
  | noteConsultPcmReceived binding => exact noteConsultPcmReceived_turn hs binding clock.now
  | withAokieSwitchOwner expected => exact answer_turn_quiet (fun _ => rfl) (withAokieSwitchOwner_turn hs expected)
  | withAokieOwner expected => exact answer_turn_quiet (fun _ => rfl) (.refl hs)
  | linearizeAokieAction expected => exact answer_turn_quiet (fun _ => rfl) (linearizeAokieAction_turn hs expected)

/-- Every turn is a move of the line and keeps at most one claim. -/
theorem step_move (hs : s.Inv P) (i : Input × Clock) :
    (step s i).1.claims.length ≤ 1 ∧ Move (i.1.mark s (step s i).2) s.line (step s i).1.line := by
  obtain ⟨i, clock⟩ := i
  by_cases hi : ∃ gate, i = .setRemoteConsent gate
  · obtain ⟨gate, rfl⟩ := hi
    have hcut := setRemoteConsent_cutOff hs gate clock
    exact ⟨hcut.claims, hcut.move⟩
  · have hturn := step_turn hs i clock fun gate hgate => hi ⟨gate, hgate⟩
    exact ⟨hturn.claims, hturn.move⟩

lemma mark_cases (s : RemoteMediaState) (i : Input × Clock) :
    i.1.mark s (step s i).2 = (step s i).2.mark ∨
    i.1.mark s (step s i).2 = .changed ∧ (step s i).2.mark = .quiet ∧
      ∃ callId active, i.1 = .observeCall callId active ∧ s.currentCallId ≠ callId := by
  obtain ⟨i, clock⟩ := i
  cases i with
  | observeCall callId active =>
      by_cases hcall : s.currentCallId = callId
      · left
        rw [Input.mark, if_pos hcall]
        rfl
      · right
        refine ⟨?_, rfl, callId, active, rfl, hcall⟩
        rw [Input.mark, if_neg hcall]
  | _ => exact .inl rfl

theorem step_inv (hs : s.Inv P) (i : Input × Clock) :
    (step s i).1.Inv fun b => P b ∨ (step s i).2.mark = .acknowledged b := by
  obtain ⟨hclaims, hmove⟩ := step_move hs i
  refine ⟨hclaims, (hmove.sound hs.line).mono fun b hb => hb.imp_right fun hmark => ?_⟩
  rcases mark_cases s i with heq | ⟨heq, -⟩
  · rwa [← heq]
  · rw [heq] at hmark
    cases hmark

lemma inv_initial : RemoteMediaState.initial.Inv P where
  claims := by decide
  line :=
    { bounded := Nat.zero_le _
      records := nofun
      known := nofun
      distinct := .nil
      single _ hb := absurd hb List.not_mem_nil
      claim _ hc := absurd hc (Option.not_mem_none _)
      mode := .inl rfl }

end Step

end Aokie.Plugin.RemoteMedia
