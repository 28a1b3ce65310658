import Aokie.Plugin.RemoteMedia.Claims

/-! The owner epoch as a fence: an epoch of a call opens the caller-bound route at most once, and a route that was
closed stays closed. -/

namespace Aokie.Plugin.RemoteMedia

open Aokie.Lib Aokie.Media

/-- What the caller-bound route is fenced by: the call, its epoch and the owner epoch. -/
abbrev RouteKey := String × ℕ × ℕ

def routeKey (binding : SessionBinding) : RouteKey := (binding.callId, binding.callEpoch, binding.ownerEpoch)

def Claim.key : Claim → Option RouteKey
  | prepared binding confirmed _ => some (binding.callId, binding.callEpoch, confirmed)
  | routePending binding | routeActive binding => some (routeKey binding)
  | _ => none

/-- The key is used up: the call's owner epoch has reached it, and the only claim that may still carry it is an open
route among `Q`. -/
structure Line.Spent (l : Line) (k : RouteKey) (Q : SessionBinding → Prop) : Prop where
  safe : k.2.1 ≤ maxSafeInteger
  epoch : k.2.1 ≤ l.nextCallEpoch
  owner : ∀ r, l.calls k.1 = some r → r.callEpoch = k.2.1 → k.2.2 ≤ r.ownerEpoch
  claim : ∀ c ∈ l.claim, c.key = some k → ∃ b, c = .routeActive b ∧ Q b

section Spent

variable {P Q : SessionBinding → Prop} {l l' : Line} {k : RouteKey}

lemma Line.Spent.of_claim (h : l.Spent k Q) {calls : String → Option CallRecord} (hcalls : CallsRise l.calls calls)
    {claim : Option Claim} (hclaim : ∀ c ∈ claim, c.key = some k → ∃ b, c = .routeActive b ∧ Q b)
    {l' : Line} (hl : l'.calls = calls) (hnext : l'.nextCallEpoch = l.nextCallEpoch) (hc : l'.claim = claim) :
    l'.Spent k Q where
  safe := h.safe
  epoch := hnext ▸ h.epoch
  owner := by
    intro r hr hepoch
    rw [hl] at hr
    rcases hcalls k.1 with hsame | ⟨e, o, o', hold, hnew, hle, -⟩
    · exact h.owner r (hsame ▸ hr) hepoch
    · obtain rfl : r = ⟨e, o'⟩ := Option.some.inj (hr.symm.trans hnew)
      exact (h.owner _ hold hepoch).trans hle
  claim := hc ▸ hclaim

lemma CallsRise.refl (calls : String → Option CallRecord) : CallsRise calls calls := fun _ => .inl rfl

/-- A used-up key stays used up, and no move enters the route with it. -/
theorem Move.spent {mark : Mark} (hmove : Move mark l l') (hl : l.Sound P) (h : l.Spent k Q) :
    l'.Spent k Q ∧ ∀ b, mark = .entered b → routeKey b ≠ k := by
  cases hmove with
  | still => exact ⟨h, nofun⟩
  | heard | left | monitored | provisioned => exact ⟨h.of_claim (.refl _) h.claim rfl rfl rfl, nofun⟩
  | @rebound _ p b n m hclaim hmode hsame hfresh =>
      refine ⟨h.of_claim (.refl _) ?_ rfl rfl rfl, nofun⟩
      rintro c ⟨⟩ hkey
      obtain ⟨b', hb', -⟩ := h.claim _ hclaim hkey
      cases hb'
  | held | consultAsked | consultEntered => exact ⟨h.of_claim (.refl _) (by rintro c ⟨⟩ ⟨⟩) rfl rfl rfl, nofun⟩
  | @confirmed _ b hclaim howned =>
      refine ⟨⟨h.safe, h.epoch, ?_, ?_⟩, nofun⟩
      · intro r hr hepoch
        by_cases hc : k.1 = b.callId
        · simp only [hc, Function.update_self, Option.some.injEq] at hr
          subst hr
          exact (h.owner ⟨b.callEpoch, b.ownerEpoch⟩ (hc ▸ howned.2) hepoch).trans (Nat.le_succ _)
        · simp only [Function.update_of_ne hc] at hr
          exact h.owner r hr hepoch
      · -- the epoch just confirmed is above every one that was used up
        rintro c ⟨⟩ hkey
        obtain rfl := Option.some.inj hkey
        exact absurd (h.owner _ howned.2 rfl) (Nat.not_succ_le_self _)
  | @routeAsked _ p b n m hclaim hmode hsame howner hpeer hvalid =>
      refine ⟨h.of_claim (.refl _) ?_ rfl rfl rfl, nofun⟩
      rintro c ⟨⟩ hkey
      obtain ⟨b', hb', -⟩ := h.claim _ hclaim (by
        rw [← hkey]
        simp [Claim.key, routeKey, hsame.callId, hsame.callEpoch, howner])
      cases hb'
  | @routeEntered _ b hclaim =>
      have hne : routeKey b ≠ k := by
        intro hkey
        obtain ⟨b', hb', -⟩ := h.claim _ hclaim (congrArg some hkey)
        cases hb'
      refine ⟨h.of_claim (.refl _) ?_ rfl rfl rfl, ?_⟩
      · rintro c ⟨⟩ hkey
        exact absurd (Option.some.inj hkey) hne
      · rintro _ ⟨⟩
        exact hne
  | yielded => exact ⟨h.of_claim (.refl _) (by rintro c ⟨⟩) rfl rfl rfl, nofun⟩
  | cancelled _ _ _ _ hcalls => exact ⟨h.of_claim hcalls (by rintro c ⟨⟩) rfl rfl rfl, nofun⟩
  | @changed _ call active calls next hcall hknown hcalls =>
      refine ⟨⟨h.safe, ?_, ?_, nofun⟩, nofun⟩
      · rcases hcalls.2 with hnext | hnext
        · exact hnext ▸ h.epoch
        · exact hnext ▸ h.epoch.trans (le_advance hl.bounded)
      · intro r hr hepoch
        rcases hcalls.1 k.1 r hr with hold | ⟨-, hnext, rfl⟩
        · exact h.owner r hold hepoch
        · -- a new call has an epoch above all of the past, unless the counter is at its end
          have hepoch : advance l.nextCallEpoch = k.2.1 := hnext ▸ hepoch
          have hsafe : k.2.1 < u64Max := h.safe.trans_lt (by decide)
          have hlt : l.nextCallEpoch < u64Max := (le_advance hl.bounded).trans_lt (hepoch ▸ hsafe)
          exact absurd h.epoch (not_le.mpr (hepoch ▸ lt_advance hlt))
  | returned _ _ _ hcalls => exact ⟨h.of_claim hcalls (by rintro c ⟨⟩) rfl rfl rfl, nofun⟩

lemma Line.Sound.spent_of_routeActive (hl : l.Sound P) {b : SessionBinding} (hclaim : l.claim = some (.routeActive b)) :
    l.Spent (routeKey b) (· = b) := by
  obtain ⟨-, -, hvalid, -, howned⟩ := hl.claim _ hclaim
  refine ⟨(SessionBinding.validate_bounds hvalid).1.1, (hl.records _ _ howned.2).2, ?_, ?_⟩
  · intro r hr _
    obtain rfl := Option.some.inj (hr.symm.trans howned.2)
    exact le_rfl
  · intro c hc _
    obtain rfl := Option.some.inj (hclaim.symm.trans hc)
    exact ⟨b, rfl, rfl⟩

lemma Line.Spent.mono {Q' : SessionBinding → Prop} (h : l.Spent k Q)
    (hQ : ∀ b, l.claim = some (.routeActive b) → Q b → Q' b) :
    l.Spent k Q' where
  safe := h.safe
  epoch := h.epoch
  owner := h.owner
  claim := by
    intro c hc hkey
    obtain ⟨b, rfl, hb⟩ := h.claim c hc hkey
    exact ⟨b, rfl, hQ b hc hb⟩

end Spent

open RemoteMediaState

section Runs

variable {P Q : SessionBinding → Prop} {s : RemoteMediaState} {k : RouteKey}

def enteredKeys (replies : List Reply) : List RouteKey :=
  replies.filterMap fun reply =>
    match reply with
    | .humanEntered binding _ => some (routeKey binding)
    | _ => none

lemma enteredKeys_cons (reply : Reply) (replies : List Reply) :
    enteredKeys (reply :: replies) =
      (match reply.mark with
        | .entered b => [routeKey b]
        | _ => []) ++ enteredKeys replies := by
  cases reply <;> rfl

lemma spent_final (hs : s.Inv P) (h : s.line.Spent k Q) (is : List (Input × Clock)) :
    (step.final s is).line.Spent k Q ∧ k ∉ enteredKeys (step.outputs s is) := by
  induction is generalizing s P with
  | nil => exact ⟨h, List.not_mem_nil⟩
  | cons i is ih =>
      obtain ⟨-, hmove⟩ := step_move hs i
      obtain ⟨hspent, hentered⟩ := hmove.spent hs.line h
      obtain ⟨hfinal, hrest⟩ := ih (step_inv hs i) hspent
      refine ⟨hfinal, ?_⟩
      rw [Machine.outputs_cons, enteredKeys_cons, List.mem_append, not_or]
      refine ⟨?_, hrest⟩
      split
      next b hmark =>
        rcases mark_cases s i with heq | ⟨-, hquiet, -⟩
        · simpa [eq_comm] using hentered b (heq.trans hmark)
        · rw [hquiet] at hmark
          cases hmark
      · exact List.not_mem_nil

lemma enteredKeys_nodup (hs : s.Inv P) (is : List (Input × Clock)) : (enteredKeys (step.outputs s is)).Nodup := by
  induction is generalizing s P with
  | nil => exact List.nodup_nil
  | cons i is ih =>
      obtain ⟨-, hmove⟩ := step_move hs i
      have hinv := step_inv hs i
      have hrest := ih hinv
      rw [Machine.outputs_cons, enteredKeys_cons]
      split
      next b hmark =>
        have hentered : i.1.mark s (step s i).2 = .entered b := by
          rcases mark_cases s i with heq | ⟨-, hquiet, -⟩
          · exact heq.trans hmark
          · rw [hquiet] at hmark
            cases hmark
        rw [hentered] at hmove
        have hclaim : (step s i).1.line.claim = some (.routeActive b) := by
          generalize (step s i).1.line = l at hmove
          cases hmove
          rfl
        obtain ⟨-, hnew⟩ := spent_final hinv (hinv.line.spent_of_routeActive hclaim) is
        exact List.nodup_cons.mpr ⟨hnew, hrest⟩
      · exact hrest

lemma mem_claims_routeActive_iff {b : SessionBinding} :
    Claim.routeActive b ∈ s.claims ↔ s.activeRoute.map (·.permit.binding) = some b := by
  simp [claims]

lemma line_claim_routeActive_iff (h : s.claims.length ≤ 1) {b : SessionBinding} :
    s.line.claim = some (.routeActive b) ↔ s.activeRoute.map (·.permit.binding) = some b := by
  rw [← mem_claims_routeActive_iff]
  exact ⟨List.mem_of_head?, line_claim_of_mem h⟩

lemma activeRoute_of_allowsTalk {b : SessionBinding} {clock : Clock} (h : (s.allowsTalk b clock).2 = true) :
    s.activeRoute.map (·.permit.binding) = some b := by
  rcases s.allowsTalk_cases b clock with heq | ⟨route, hroute, hallowed, -⟩ | ⟨route, -, -, heq⟩
  · rw [heq] at h
    cases h
  · simp only [talkAllowed, Bool.and_eq_true, RoutePermit.isCurrentFor, decide_eq_true_eq] at hallowed
    rw [hroute, Option.map_some, hallowed.1.2.2]
  · rw [heq] at h
    cases h

end Runs

/-- An owner epoch of a call opens the route once, and a route that was left never carries a frame again. -/
theorem fenced_route_stays_closed (is : List (Input × Clock)) :
    (enteredKeys (step.outputs .initial is)).Nodup ∧
    ∀ (js ks : List (Input × Clock)) (binding : SessionBinding),
      (step.final .initial is).activeRoute.map (·.permit.binding) = some binding →
      (step.final .initial (is ++ js)).activeRoute.map (·.permit.binding) ≠ some binding →
      ∀ clock, ((step.final .initial (is ++ js ++ ks)).allowsTalk binding clock).2 = false := by
  refine ⟨enteredKeys_nodup (inv_initial (P := fun _ => False)) is, ?_⟩
  intro js ks binding hactive hleft clock
  have hs := inv_reachable is
  have hclaim := (line_claim_routeActive_iff hs.claims).mpr hactive
  -- from the moment the route is open its key is used up, and once it is left nobody carries the key
  obtain ⟨hspent, -⟩ := spent_final hs (hs.line.spent_of_routeActive hclaim) js
  rw [← Machine.final_append] at hspent
  have hs' := inv_reachable (is ++ js)
  have hgone : (step.final .initial (is ++ js)).line.Spent (routeKey binding) fun _ => False := by
    refine hspent.mono ?_
    rintro _ hopen rfl
    exact hleft ((line_claim_routeActive_iff hs'.claims).mp hopen)
  obtain ⟨hforever, -⟩ := spent_final hs' hgone ks
  rw [← Machine.final_append] at hforever
  have hs'' := inv_reachable (is ++ js ++ ks)
  by_contra hallowed
  have hopen := (line_claim_routeActive_iff hs''.claims).mpr (activeRoute_of_allowsTalk (Bool.of_not_eq_false hallowed))
  obtain ⟨-, -, hfalse⟩ := hforever.claim _ hopen rfl
  exact hfalse

theorem revoked_takeover_stays_closed :
    ((step.final .initial (takeoverRun ++ atOnce [.ackEnter talkBinding true] ++
      atOnce [.revoke talkBinding "done"] ++ atOnce [.ackReturn])).allowsTalk talkBinding ⟨0, 0⟩).2 = false :=
  (fenced_route_stays_closed (takeoverRun ++ atOnce [.ackEnter talkBinding true])).2
    (atOnce [.revoke talkBinding "done"]) (atOnce [.ackReturn]) talkBinding (by decide) (by decide) ⟨0, 0⟩

end Aokie.Plugin.RemoteMedia
