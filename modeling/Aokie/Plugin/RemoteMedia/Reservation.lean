import Aokie.Plugin.RemoteMedia.Claims

/-! The caller comes back to Aokie through the physical return. A soft hold that is granted while a return is pending,
or a second change of the call, gives the caller back without it. -/

namespace Aokie.Plugin.RemoteMedia

open Aokie.Lib Aokie.Media

/-- A pending return stands alone, and the mode says so. -/
structure Line.Returns (l : Line) : Prop where
  claim : l.returning.isSome = true → l.claim = none
  mode : l.returning.isSome = true → l.mode = .returningToAokie ∨ l.mode = .recovering

def Line.Owing (l : Line) : Prop := (∃ c ∈ l.claim, c.holdsCaller = true) ∨ l.returning.isSome = true

section Moves

variable {P : SessionBinding → Prop} {l l' : Line} {mark : Mark}

lemma Line.Returns.returning_eq_none (h : l.Returns) {c : Claim} (hclaim : l.claim = some c) : l.returning = none := by
  by_contra hreturning
  have hnone := h.claim (Option.isSome_iff_ne_none.mpr hreturning)
  rw [hclaim] at hnone
  cases hnone

theorem Move.returns (hmove : Move mark l l') (h : l.Returns) (hheld : mark = .held → l.returning = none) :
    l'.Returns := by
  cases hmove with
  | still => exact h
  | heard | left | monitored | provisioned => exact ⟨h.claim, h.mode⟩
  | held =>
      have hnone : l.returning = none := hheld rfl
      constructor <;> simp [hnone]
  | rebound _ hclaim | confirmed _ hclaim | consultAsked _ hclaim | routeAsked _ hclaim | consultEntered _ hclaim
  | routeEntered _ hclaim =>
      have hnone := h.returning_eq_none hclaim
      constructor <;> simp [hnone]
  | yielded => exact ⟨fun _ => rfl, fun _ => .inl rfl⟩
  | @cancelled _ c calls peers muted returning hclaim hholds hcalls hpeers hreturning =>
      have hnone : returning = none := by
        rcases hreturning with hsame | hnone
        · exact hsame.trans (h.returning_eq_none hclaim)
        · exact hnone
      constructor <;> simp [hnone]
  | changed =>
      refine ⟨fun _ => rfl, fun hreturning => .inr ?_⟩
      rw [Option.isSome_map] at hreturning
      simp [hreturning]
  | returned => exact ⟨nofun, nofun⟩

theorem Move.owing (hmove : Move mark l l') (h : l.Returns) (howing : l.Owing) (hreturned : mark ≠ .returned)
    (hchanged : mark = .changed → l.returning = none) : l'.Owing := by
  cases hmove with
  | still | heard | left | monitored | provisioned => exact howing
  | held _ hnone =>
      rcases howing with ⟨c, hc, -⟩ | hreturning
      · exact absurd (hnone.symm.trans hc) nofun
      · exact .inr hreturning
  | rebound _ hclaim | confirmed _ hclaim | consultAsked _ hclaim =>
      rcases howing with ⟨c, hc, hholds⟩ | hreturning
      · obtain rfl := Option.some.inj (hclaim.symm.trans hc)
        cases hholds
      · exact .inr hreturning
  | routeAsked | consultEntered | routeEntered => exact .inl ⟨_, rfl, rfl⟩
  | yielded => exact .inr rfl
  | cancelled _ _ hclaim hholds =>
      rcases howing with ⟨c, hc, hcaller⟩ | hreturning
      · obtain rfl := Option.some.inj (hclaim.symm.trans hc)
        rw [hholds] at hcaller
        cases hcaller
      · rw [h.claim hreturning] at hclaim
        cases hclaim
  | changed =>
      rcases howing with ⟨c, hc, -⟩ | hreturning
      · exact .inr (by rw [Option.mem_def.mp hc]; rfl)
      · rw [hchanged rfl] at hreturning
        cases hreturning
  | returned => exact absurd rfl hreturned

lemma Line.Sound.mode_ne_of_owing (hl : l.Sound P) (h : l.Returns) (howing : l.Owing) : l.mode ≠ .aokieActive := by
  rcases howing with ⟨c, hc, hholds⟩ | hreturning
  · have hmode := hl.mode
    rw [Line.ModeFits, Option.mem_def.mp hc] at hmode
    cases c with
    | consultActive b | routePending b | routeActive b =>
        rw [show l.mode = _ from hmode]
        rintro ⟨⟩
    | preparing b | prepared b n m | consultPending b => cases hholds
  · rcases h.mode hreturning with hmode | hmode <;> rw [hmode] <;> rintro ⟨⟩

end Moves

namespace RemoteMediaState

variable (s : RemoteMediaState)

/-- The caller's route is asked for or open, or a private consultation holds the caller. -/
def holdsCaller : Bool := s.pendingRoute.isSome || s.activeRoute.isSome || s.activeConsult.isSome

variable {s}

lemma owing_of_holdsCaller (h : s.claims.length ≤ 1) (hholds : s.holdsCaller = true) : s.line.Owing := by
  left
  rw [holdsCaller, Bool.or_eq_true, Bool.or_eq_true] at hholds
  rcases hholds with (hsome | hsome) | hsome <;> obtain ⟨x, hx⟩ := Option.isSome_iff_exists.mp hsome
  · exact ⟨.routePending x.permit.binding, line_claim_of_mem h (by simp [claims, hx]), rfl⟩
  · exact ⟨.routeActive x.permit.binding, line_claim_of_mem h (by simp [claims, hx]), rfl⟩
  · exact ⟨.consultActive x.binding, line_claim_of_mem h (by simp [claims, hx]), rfl⟩

end RemoteMediaState

/-- A run that remembers whether the caller was taken since the last return: the caller is owed back. -/
def tracked : Machine (RemoteMediaState × Bool) (Input × Clock) Reply
  | (s, owed), i =>
      (((step s i).1,
        match (step s i).2 with
        | .returned _ => false
        | _ => owed || (step s i).1.holdsCaller), (step s i).2)

def Input.admitsHold (s : RemoteMediaState) (clock : Clock) : Input → Bool
  | .requestSoftHold binding ttlMs =>
      (admitted s ttlMs .preparedTalk "current remote consent does not permit takeover" clock).toOption.any fun ttl =>
        (s.softHoldChecks binding ttl clock).isOk
  | .requestConsultHold binding ttlMs =>
      (admitted s ttlMs .preparedConsult "current remote consent does not permit private consultation"
        clock).toOption.any fun ttl => (s.softHoldChecks binding ttl clock).isOk
  | _ => false

def Input.changesCall (s : RemoteMediaState) : Input → Bool
  | .observeCall callId _ => decide (s.currentCallId ≠ callId)
  | _ => false

/-- While a return is pending no soft hold is granted, and while the caller is owed back the call does not change again.
-/
def ReturnSafe (t : RemoteMediaState × Bool) (i : Input × Clock) : Prop :=
  t.1.returnBinding.isSome = true →
    i.1.admitsHold t.1 i.2 = false ∧ (t.2 = true → i.1.changesCall t.1 = false)

instance (t : RemoteMediaState × Bool) (i : Input × Clock) : Decidable (ReturnSafe t i) :=
  inferInstanceAs (Decidable (_ → _))

def CallerKept (t : RemoteMediaState × Bool) : Prop :=
  (t.2 = true → t.1.radioReserved = true ∧ t.1.aokieOwnerFence = none) ∧
    (t.1.returnBinding.isSome = true → t.1.radioReserved = true)

instance (t : RemoteMediaState × Bool) : Decidable (CallerKept t) := inferInstanceAs (Decidable (_ ∧ _))

section Steps

open RemoteMediaState

variable {s : RemoteMediaState}

lemma isOk_of_held {binding : SessionBinding} {clock : Clock} {checks : Except String Duration}
    (h : (checked s checks fun ttl => answer (fun _ => .held) (s.requestSoftHold binding ttl clock)).2 = .held) :
    (checks.toOption.any fun ttl => (s.softHoldChecks binding ttl clock).isOk) = true := by
  unfold checked at h
  split at h
  · cases h
  next ttl =>
    cases hchecks : s.softHoldChecks binding ttl clock with
    | error e => simp [answer, requestSoftHold, hchecks] at h
    | ok expiresAt => simp [Except.toOption, hchecks, Except.isOk, Except.toBool]

lemma admitsHold_of_held {i : Input × Clock} (h : (step s i).2 = .held) : i.1.admitsHold s i.2 = true := by
  obtain ⟨i, clock⟩ := i
  cases i with
  | requestSoftHold binding ttlMs | requestConsultHold binding ttlMs => exact isOk_of_held h
  | observeCall | setRemoteConsent | failClosedAll | nextRadioTransition | allowsTalk | forwardTalkPcm | recvConsultPcm
  | noteConsultPcmReceived => cases h
  | requestConsult | requestTakeover | renewLease =>
      exact absurd h (checked_ne nofun fun ttl => answer_ne nofun nofun)
  | insertPeer | revoke | closePeer | ackPrepare | ackEnterConsult | ackEnter | ackReturn | setMicrophoneMuted
  | withAokieSwitchOwner | withAokieOwner | linearizeAokieAction => exact absurd h (answer_ne nofun nofun)

lemma admitsHold_of_mark {i : Input × Clock} (h : i.1.mark s (step s i).2 = .held) : i.1.admitsHold s i.2 = true := by
  rcases mark_cases s i with heq | ⟨heq, -⟩
  · rw [heq] at h
    apply admitsHold_of_held
    generalize (step s i).2 = reply at h
    cases reply <;> first | rfl | cases h
  · rw [heq] at h
    cases h

lemma changesCall_of_mark {i : Input × Clock} (h : i.1.mark s (step s i).2 = .changed) : i.1.changesCall s = true := by
  rcases mark_cases s i with heq | ⟨-, -, callId, active, hi, hcall⟩
  · rw [heq] at h
    generalize (step s i).2 = reply at h
    cases reply <;> cases h
  · rw [hi, Input.changesCall]
    exact decide_eq_true hcall

lemma returned_of_mark {i : Input × Clock} (h : i.1.mark s (step s i).2 = .returned) :
    ∃ binding, (step s i).2 = .returned binding := by
  rcases mark_cases s i with heq | ⟨heq, -⟩
  · rw [heq] at h
    generalize (step s i).2 = reply at h
    cases reply <;> first | exact ⟨_, rfl⟩ | cases h
  · rw [heq] at h
    cases h

/-- What is kept along a run that remembers the debt. -/
structure DebtKept (t : RemoteMediaState × Bool) : Prop where
  inv : ∃ P, t.1.Inv P
  returns : t.1.line.Returns
  owing : t.2 = true → t.1.line.Owing

lemma debtKept_step (t : RemoteMediaState × Bool) (i : Input × Clock) (hsafe : ReturnSafe t i) (h : DebtKept t) :
    DebtKept (tracked t i).1 := by
  obtain ⟨s, owed⟩ := t
  obtain ⟨P, hs⟩ := h.inv
  obtain ⟨hclaims, hmove⟩ := step_move hs i
  have hreturns : (step s i).1.line.Returns := by
    refine hmove.returns h.returns fun hheld => ?_
    by_contra hreturning
    have hadmits := (hsafe (Option.isSome_iff_ne_none.mpr hreturning)).1
    rw [admitsHold_of_mark hheld] at hadmits
    cases hadmits
  refine ⟨⟨_, step_inv hs i⟩, hreturns, fun howed => ?_⟩
  simp only [tracked] at howed ⊢
  split at howed
  · cases howed
  next hreply =>
    rw [Bool.or_eq_true] at howed
    rcases howed with howed | hholds
    · refine hmove.owing h.returns (h.owing howed) ?_ fun hchanged => ?_
      · intro hmark
        obtain ⟨b, hb⟩ := returned_of_mark hmark
        exact hreply b hb
      · by_contra hreturning
        have hsame := (hsafe (Option.isSome_iff_ne_none.mpr hreturning)).2 howed
        rw [changesCall_of_mark hchanged] at hsame
        cases hsame
    · exact owing_of_holdsCaller hclaims hholds

lemma callerKept_of_debtKept {t : RemoteMediaState × Bool} (h : DebtKept t) : CallerKept t := by
  obtain ⟨P, hs⟩ := h.inv
  have hreserved (howing : t.1.line.Owing) : t.1.serviceMode ≠ .aokieActive := hs.line.mode_ne_of_owing h.returns howing
  have hradio (hmode : t.1.serviceMode ≠ .aokieActive) : t.1.radioReserved = true := by
    unfold radioReserved
    split
    next hactive => exact absurd hactive hmode
    · rfl
  refine ⟨fun howed => ?_, fun hreturning => hradio (hreserved (.inr hreturning))⟩
  have hmode := hreserved (h.owing howed)
  refine ⟨hradio hmode, ?_⟩
  simp [aokieOwnerFence, hmode]

end Steps

/-- In a run that grants no soft hold during a return and does not change the call again before it, Aokie gets the
caller back only through the physical return. -/
theorem caller_kept_until_return (is : List (Input × Clock)) (h : tracked.Along ReturnSafe (.initial, false) is) :
    CallerKept (tracked.final (.initial, false) is) := by
  apply callerKept_of_debtKept
  refine Machine.invariant debtKept_step h ?_
  exact ⟨⟨fun _ => False, inv_initial⟩, ⟨nofun, nofun⟩, nofun⟩

/-- A takeover that was revoked: its peer is gone, its return has not been flushed yet. -/
def unreturnedRun : List (Input × Clock) := takeoverRun ++ atOnce
  [.ackEnter talkBinding true, .revoke talkBinding "done", .closePeer "r1" "done"]

def secondBinding : SessionBinding := ⟨"r2", "c1", 1, 1, "d2", .preparedTalk, some "l2", 2⟩

/-- Another device asks for a soft hold before the radio has flushed. -/
theorem caller_back_by_soft_hold :
    ¬∀ is, CallerKept (tracked.final (.initial, false) is) := by
  intro h
  have hkept := h (unreturnedRun ++ atOnce
    [.insertPeer ⟨secondBinding, seconds 100⟩ (some 0), .requestSoftHold secondBinding 60000])
  exact absurd hkept (by decide)

theorem caller_kept_while_return_pending :
    CallerKept (tracked.final (.initial, false) (unreturnedRun ++ atOnce [.nextRadioTransition])) :=
  caller_kept_until_return _ (by decide)

end Aokie.Plugin.RemoteMedia
