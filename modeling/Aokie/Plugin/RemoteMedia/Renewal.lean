import Aokie.Plugin.RemoteMedia.Claims

/-! What a heartbeat does to authority that has lapsed: the gate inside the peer refuses to bring it back, the media
state brings it back whenever it takes the heartbeat. -/

namespace Aokie.Plugin.RemoteMedia

open Aokie.Lib Aokie.Media

namespace RemoteMediaState

variable {P : SessionBinding → Prop} {s : RemoteMediaState} {binding : SessionBinding} {clock : Clock} {now : Instant}

/-- A deadline kept for the binding has passed: of its peer, its route, its consultation or its prepared claim. -/
inductive Lapsed (s : RemoteMediaState) (binding : SessionBinding) (now : Instant) : Prop
  | peer {slot : PeerSlot} (hslot : slot ∈ s.peers) (hbinding : slot.binding = binding)
      (hlate : slot.leaseExpiresAt ≤ now)
  | activeRoute {route : ActiveRoute} (hroute : s.activeRoute = some route) (hbinding : route.permit.binding = binding)
      (hlate : route.permit.expiresAt ≤ now)
  | pendingRoute {pending : PendingRoute} (hpending : s.pendingRoute = some pending)
      (hbinding : pending.permit.binding = binding) (hlate : pending.permit.expiresAt ≤ now)
  | activeConsult {active : ActiveConsult} (hactive : s.activeConsult = some active)
      (hbinding : active.binding = binding)
      (hlate : active.expiresAt ≤ now)
  | pendingConsult {pending : PendingConsult} (hpending : s.pendingConsult = some pending)
      (hbinding : pending.binding = binding) (hlate : pending.expiresAt ≤ now)
  | preparedClaim {prepared : PreparedClaim} (hprepared : s.preparedClaim = some prepared)
      (hsame : prepared.provisionalBinding.SameClaim binding) (hlate : prepared.expiresAt ≤ now)

/-- What the state takes a heartbeat for: a binding of the call on the line whose own peer is open, or whose claim is
prepared while no peer has its session. -/
def RenewChecked (s : RemoteMediaState) (binding : SessionBinding) : Prop :=
  (s.validateLiveBinding binding).isOk = true ∧
    ((s.peer binding.rtcSessionId).any (·.binding = binding) = true ∨
      s.peer binding.rtcSessionId = none ∧
        s.preparedClaim.any (fun prepared => prepared.provisionalBinding.SameClaim binding) = true)

def RenewAdmits (s : RemoteMediaState) (binding : SessionBinding) (ttlMs : ℕ) : Prop :=
  (1 ≤ ttlMs ∧ ttlMs ≤ 300000) ∧ s.RenewChecked binding

/-- No authority came back: the deadline is still past, no frame passes and no permit was handed out. -/
structure StaysLapsed (binding : SessionBinding) (clock : Clock) (s : RemoteMediaState) (reply : Reply) : Prop where
  lapsed : s.Lapsed binding clock.now
  talk : (s.allowsTalk binding clock).2 = false
  consult : s.allowsConsult binding clock = false
  permit : ∀ permit, reply ≠ .renewed (some permit)

lemma Inv.slot_eq (hs : s.Inv P) {a b : PeerSlot} (ha : a ∈ s.peers) (hb : b ∈ s.peers)
    (hrtc : a.binding.rtcSessionId = b.binding.rtcSessionId) : a = b := by
  have hdistinct : (s.peers.map fun slot => slot.binding.rtcSessionId).Nodup := by
    simpa [RemoteMediaState.line, List.map_map, Function.comp_def] using hs.line.distinct
  exact List.inj_on_of_nodup_map hdistinct ha hb hrtc

lemma Inv.allowsTalk_of_lapsed (hs : s.Inv P) (h : s.Lapsed binding clock.now) :
    (s.allowsTalk binding clock).2 = false := by
  rcases s.allowsTalk_cases binding clock with heq | ⟨route, hroute, hallowed, -⟩ | ⟨route, -, -, heq⟩
  · rw [heq]
  · obtain ⟨h₁, h₂, h₃, h₄, h₅, -⟩ := vacant_of_activeRoute hs.claims hroute
    dsimp only at h₁ h₂ h₃ h₄ h₅
    simp only [talkAllowed, Bool.and_eq_true, RoutePermit.isCurrentFor, decide_eq_true_eq] at hallowed
    obtain ⟨⟨-, hexpiry, -⟩, hpeer⟩ := hallowed
    obtain ⟨slot, hslot, hlive⟩ := Option.any_eq_true _ _ |>.mp hpeer
    have hlive := of_decide_eq_true hlive
    exfalso
    cases h with
    | peer hmem hbinding hlate =>
        obtain rfl := hs.slot_eq hmem (mem_of_peer hslot).1 (by rw [hbinding, hlive.1])
        exact absurd hlive.2 (not_lt.mpr hlate)
    | activeRoute hother hbinding hlate =>
        obtain rfl := Option.some.inj (hroute.symm.trans hother)
        exact absurd hexpiry (not_lt.mpr hlate)
    | pendingRoute hother => exact absurd (h₅.symm.trans hother) (by rintro ⟨⟩)
    | activeConsult hother => exact absurd (h₄.symm.trans hother) (by rintro ⟨⟩)
    | pendingConsult hother => exact absurd (h₃.symm.trans hother) (by rintro ⟨⟩)
    | preparedClaim hother => exact absurd (h₂.symm.trans hother) (by rintro ⟨⟩)
  · rw [heq]

lemma Inv.allowsConsult_of_lapsed (hs : s.Inv P) (h : s.Lapsed binding clock.now) :
    s.allowsConsult binding clock = false := by
  by_contra hallowed
  simp only [Bool.not_eq_false, allowsConsult, Bool.and_eq_true] at hallowed
  obtain ⟨⟨⟨⟨⟨⟨hactive, -⟩, -⟩, -⟩, -⟩, -⟩, hpeer⟩ := hallowed
  obtain ⟨active, hconsult, hlive⟩ := Option.any_eq_true _ _ |>.mp hactive
  obtain ⟨slot, hslot, hopen⟩ := Option.any_eq_true _ _ |>.mp hpeer
  have hlive := of_decide_eq_true hlive
  have hopen := of_decide_eq_true hopen
  obtain ⟨h₁, h₂, h₃, -, h₅, h₆⟩ := vacant_of_activeConsult hs.claims hconsult
  dsimp only at h₁ h₂ h₃ h₅ h₆
  cases h with
  | peer hmem hbinding hlate =>
      obtain rfl := hs.slot_eq hmem (mem_of_peer hslot).1 (by rw [hbinding, hopen.1])
      exact absurd hopen.2 (not_lt.mpr hlate)
  | activeConsult hother hbinding hlate =>
      obtain rfl := Option.some.inj (hconsult.symm.trans hother)
      exact absurd hlive.2 (not_lt.mpr hlate)
  | pendingRoute hother => exact absurd (h₅.symm.trans hother) nofun
  | activeRoute hother => exact absurd (h₆.symm.trans hother) nofun
  | pendingConsult hother => exact absurd (h₃.symm.trans hother) nofun
  | preparedClaim hother => exact absurd (h₂.symm.trans hother) nofun

lemma validateTtl_cases (ttlMs : ℕ) :
    (∃ ttl, validateTtl ttlMs = .ok ttl ∧ ttl ≠ 0 ∧ 1 ≤ ttlMs ∧ ttlMs ≤ 300000) ∨
    (∃ e, validateTtl ttlMs = .error e) ∧ ¬(1 ≤ ttlMs ∧ ttlMs ≤ 300000) := by
  have hbounds : millis ttlMs ≠ 0 ∧ millis ttlMs ≤ maxLeaseTtl ↔ 1 ≤ ttlMs ∧ ttlMs ≤ 300000 := by
    change ttlMs * 1000000 ≠ 0 ∧ ttlMs * 1000000 ≤ 300 * 1000000000 ↔ _
    omega
  by_cases h : millis ttlMs ≠ 0 ∧ millis ttlMs ≤ maxLeaseTtl
  · refine .inl ⟨millis ttlMs, ?_, h.1, hbounds.mp h⟩
    simp [validateTtl, ensure, h]
  · refine .inr ⟨⟨"leaseTtlMs must be between 1 and 300000", ?_⟩, hbounds.not.mp h⟩
    simp only [validateTtl, ensure, if_neg h]
    rfl

lemma renew_refused (h : ¬s.RenewChecked binding) (ttl : Duration) (clock : Clock) :
    ∃ e, s.renew binding ttl clock = (s, .error e) := by
  unfold renew
  split
  next e _ => exact ⟨e, rfl⟩
  next record hlive =>
    dsimp only
    split
    · exact ⟨_, rfl⟩
    next hslot =>
      rw [if_pos]
      · exact ⟨_, rfl⟩
      · by_contra hadmit
        refine h ⟨by rw [hlive]; rfl, ?_⟩
        cases hpeer : s.peer binding.rtcSessionId with
        | none => simpa [hpeer] using hadmit
        | some slot => simpa [hpeer] using hslot

lemma renewRoute_eq (s : RemoteMediaState) (binding : SessionBinding) (permit : RoutePermit) :
    s.renewRoute binding permit = { s with
      activeRoute := (s.renewRoute binding permit).activeRoute
      pendingRoute := (s.renewRoute binding permit).pendingRoute } := by
  unfold renewRoute
  split <;> rfl

lemma renewRoute_permit {b : SessionBinding} (permit : RoutePermit) (h : ∀ route, s.activeRoute = some route →
    s.pendingRoute = none) :
    (∀ route, (s.renewRoute b permit).activeRoute = some route → route.permit.binding = b →
      route.permit = permit) ∧
    ∀ pending, (s.renewRoute b permit).pendingRoute = some pending → pending.permit.binding = b →
      pending.permit = permit := by
  unfold renewRoute
  split
  next hactive =>
    obtain ⟨active, hroute, -⟩ := Option.any_eq_true _ _ |>.mp hactive
    refine ⟨?_, ?_⟩
    · intro route hnew _
      simp only [hroute, Option.map_some, Option.some.injEq] at hnew
      rw [← hnew]
    · intro pending hpending _
      exact absurd ((h active hroute).symm.trans hpending) nofun
  next hactive =>
    refine ⟨?_, ?_⟩
    · intro route hroute hbinding
      exact absurd (by simp [show s.activeRoute = some route from hroute, hbinding]) hactive
    · intro pending hnew hbinding
      obtain ⟨old, -, rfl⟩ := Option.map_eq_some_iff.mp hnew
      split at hbinding
      · next hold => rw [if_pos hold]
      · next hold => exact absurd hbinding hold

lemma deadline_of_update {α : Type} {o : Option α} {a : α} {p : α → Prop} [DecidablePred p] {f : α → α}
    {deadline : α → Instant} (h : (o.map fun a => if p a then f a else a) = some a)
    (hf : ∀ a, now < deadline (f a)) (ha : p a) : now < deadline a := by
  obtain ⟨old, -, rfl⟩ := Option.map_eq_some_iff.mp h
  split at ha
  next hold => rw [if_pos hold]; exact hf old
  next hold => exact absurd ha hold

lemma deadline_of_renewed_peer {expiresAt : Instant} (hlater : now < expiresAt) {slot : PeerSlot}
    (hslot : slot ∈ s.peers.map fun slot =>
      if slot.binding.rtcSessionId = binding.rtcSessionId then { slot with leaseExpiresAt := expiresAt } else slot)
    (hbinding : slot.binding = binding) : now < slot.leaseExpiresAt := by
  obtain ⟨old, -, rfl⟩ := List.mem_map.mp hslot
  split at hbinding
  next hold => rw [if_pos hold]; exact hlater
  next hold => exact absurd (by rw [hbinding]) hold

lemma Inv.not_lapsed_renew (hs : s.Inv P) {ttl : Duration} (httl : ttl ≠ 0) (h : s.RenewChecked binding) :
    ¬(s.renew binding ttl clock).1.Lapsed binding clock.now := by
  have hlater : clock.now < clock.now + ttl := Nat.lt_add_of_pos_right (Nat.pos_of_ne_zero httl)
  obtain ⟨hlive, hadmit⟩ := h
  cases hrecord : s.validateLiveBinding binding with
  | error e =>
      rw [hrecord] at hlive
      cases hlive
  | ok record =>
      unfold renew
      simp only [hrecord]
      rw [if_neg, if_neg]
      · have hconsult (t : RemoteMediaState) :
            (∀ active, (t.renewConsult binding (clock.now + ttl)).activeConsult = some active →
              active.binding = binding →
              clock.now < active.expiresAt) ∧
            ∀ pending, (t.renewConsult binding (clock.now + ttl)).pendingConsult = some pending →
              pending.binding = binding → clock.now < pending.expiresAt :=
          ⟨fun _ hactive => deadline_of_update hactive fun _ => hlater,
            fun _ hpending => deadline_of_update hpending fun _ => hlater⟩
        split
        next hroute =>
          split
          next e he =>
            -- a route that is kept for the binding is a talk route with a valid binding, so its permit can be made
            obtain ⟨hvalid, htalk⟩ : binding.validate = .ok () ∧ binding.mode = .talk := by
              rcases hroute with hany | hany
              · obtain ⟨route, hslot, hbinding⟩ := Option.any_eq_true _ _ |>.mp hany
                obtain rfl := of_decide_eq_true hbinding
                obtain ⟨htalk, -, hvalid, -⟩ := hs.claim_of_mem (c := .routeActive route.permit.binding)
                  (by simp [RemoteMediaState.claims, show s.activeRoute = some route from hslot])
                exact ⟨hvalid, htalk⟩
              · obtain ⟨route, hslot, hbinding⟩ := Option.any_eq_true _ _ |>.mp hany
                obtain rfl := of_decide_eq_true hbinding
                obtain ⟨htalk, -, hvalid, -⟩ := hs.claim_of_mem (c := .routePending route.permit.binding)
                  (by simp [RemoteMediaState.claims, show s.pendingRoute = some route from hslot])
                exact ⟨hvalid, htalk⟩
            rw [RoutePermit.new_eq_ok_iff.mpr ⟨hvalid, htalk, httl, rfl⟩] at he
            cases he
          next permit hpermit =>
            obtain ⟨-, -, -, rfl⟩ := RoutePermit.new_eq_ok_iff.mp hpermit
            have hroutes (peers : List PeerSlot) (prepared : Option PreparedClaim) :=
              renewRoute_permit (s := { s with peers := peers, preparedClaim := prepared }) (b := binding)
                ⟨binding, clock.now + ttl⟩ fun route hroute => (vacant_of_activeRoute hs.claims hroute).pendingRoute
            rw [renewRoute_eq]
            intro hlapsed
            cases hlapsed with
            | peer hslot hbinding hlate =>
                exact absurd (deadline_of_renewed_peer hlater hslot hbinding) (not_lt.mpr hlate)
            | activeRoute hother hbinding hlate =>
                rw [(hroutes _ _).1 _ hother hbinding] at hlate
                exact absurd hlater (not_lt.mpr hlate)
            | pendingRoute hother hbinding hlate =>
                rw [(hroutes _ _).2 _ hother hbinding] at hlate
                exact absurd hlater (not_lt.mpr hlate)
            | activeConsult hother hbinding hlate =>
                exact absurd ((hconsult _).1 _ hother hbinding) (not_lt.mpr hlate)
            | pendingConsult hother hbinding hlate =>
                exact absurd ((hconsult _).2 _ hother hbinding) (not_lt.mpr hlate)
            | preparedClaim hother hsame hlate =>
                exact absurd (deadline_of_update hother (fun _ => hlater) hsame) (not_lt.mpr hlate)
        next hroute =>
          intro hlapsed
          cases hlapsed with
          | peer hslot hbinding hlate =>
              exact absurd (deadline_of_renewed_peer hlater hslot hbinding) (not_lt.mpr hlate)
          | @activeRoute route hother hbinding hlate =>
              exact hroute (.inl (by simp [show s.activeRoute = some route from hother, hbinding]))
          | @pendingRoute pending hother hbinding hlate =>
              exact hroute (.inr (by simp [show s.pendingRoute = some pending from hother, hbinding]))
          | activeConsult hother hbinding hlate =>
              exact absurd ((hconsult _).1 _ hother hbinding) (not_lt.mpr hlate)
          | pendingConsult hother hbinding hlate =>
              exact absurd ((hconsult _).2 _ hother hbinding) (not_lt.mpr hlate)
          | preparedClaim hother hsame hlate =>
              exact absurd (deadline_of_update hother (fun _ => hlater) hsame) (not_lt.mpr hlate)
      · rcases hadmit with hslot | ⟨-, hprepared⟩
        · obtain ⟨slot, hpeer, -⟩ := Option.any_eq_true _ _ |>.mp hslot
          simp [hpeer]
        · simp [hprepared]
      · rcases hadmit with hslot | ⟨hnone, -⟩
        · obtain ⟨slot, hpeer, hbinding⟩ := Option.any_eq_true _ _ |>.mp hslot
          simp [hpeer, of_decide_eq_true hbinding]
        · simp [hnone]

end RemoteMediaState

open RemoteMediaState

/-- Lapsed authority stays lapsed under a heartbeat exactly when the heartbeat is not taken; the gate inside the peer
reports no lapsed permit until it is authorized anew. -/
theorem renewal_revives_iff (is : List (Input × Clock)) (binding : SessionBinding) (ttlMs : ℕ) (clock : Clock)
    (h : (step.final .initial is).Lapsed binding clock.now) :
    (StaysLapsed binding clock (step (step.final .initial is) (.renewLease binding ttlMs, clock)).1
        (step (step.final .initial is) (.renewLease binding ttlMs, clock)).2 ↔
      ¬(step.final .initial is).RenewAdmits binding ttlMs) ∧
    ∀ (gate : RouteGate) (t : Instant) (asked : List (RouteGate.Ask × Instant)), gate.LapsedAt t →
      (∀ i ∈ asked, t ≤ i.2) → ∀ current ∈ RouteGate.ask.outputs gate asked, current = false := by
  refine ⟨?_, fun gate t asked hlapsed hlater => RouteGate.outputs_of_lapsed hlapsed hlater⟩
  have hs := inv_reachable is
  generalize step.final .initial is = s at *
  have hstep : step s (.renewLease binding ttlMs, clock) =
      checked s (validateTtl ttlMs) fun ttl => answer .renewed (s.renew binding ttl clock) := rfl
  rw [hstep]
  have hstays {reply : Reply} (hreply : ∀ permit, reply ≠ .renewed (some permit)) : StaysLapsed binding clock s reply :=
    ⟨h, hs.allowsTalk_of_lapsed h, hs.allowsConsult_of_lapsed h, hreply⟩
  rcases validateTtl_cases ttlMs with ⟨ttl, httl, hne, hbounds⟩ | ⟨⟨e, httl⟩, hbounds⟩
  · by_cases hchecked : s.RenewChecked binding
    · refine iff_of_false ?_ (not_not.mpr ⟨hbounds, hchecked⟩)
      rw [checked_of_ok httl]
      intro hstays
      exact hs.not_lapsed_renew hne hchecked hstays.lapsed
    · refine iff_of_true ?_ fun hadmits => hchecked hadmits.2
      obtain ⟨e, heq⟩ := renew_refused hchecked ttl clock
      rw [checked_of_ok httl, heq]
      exact hstays nofun
  · refine iff_of_true ?_ fun hadmits => hbounds hadmits.1
    rw [checked_of_error httl]
    exact hstays nofun

/-- A takeover is active and its lease has run out unnoticed when the heartbeat comes. -/
def lapsedTakeoverRun : List (Input × Clock) := takeoverRun ++ atOnce [.ackEnter talkBinding true]

def late : Clock := ⟨seconds 100, 0⟩

lemma talkPeer_lapsed : (step.final .initial lapsedTakeoverRun).Lapsed talkBinding late.now := by
  have hslot : ⟨talkBinding, seconds 100⟩ ∈ (step.final .initial lapsedTakeoverRun).peers := by decide
  exact .peer hslot rfl le_rfl

theorem renewal_revives_lapsed_takeover :
    ¬∀ (is : List (Input × Clock)) (binding : SessionBinding) (ttlMs : ℕ) (clock : Clock),
      (step.final .initial is).Lapsed binding clock.now →
        StaysLapsed binding clock (step (step.final .initial is) (.renewLease binding ttlMs, clock)).1
          (step (step.final .initial is) (.renewLease binding ttlMs, clock)).2 := by
  intro h
  have hstays := h lapsedTakeoverRun talkBinding 1000 late
    talkPeer_lapsed
  exact absurd hstays.talk (by decide)

theorem renewal_without_lifetime_revives_nothing :
    StaysLapsed talkBinding late
      (step (step.final .initial lapsedTakeoverRun) (.renewLease talkBinding 0, late)).1
      (step (step.final .initial lapsedTakeoverRun) (.renewLease talkBinding 0, late)).2 :=
  (renewal_revives_iff lapsedTakeoverRun talkBinding 0 late
    talkPeer_lapsed).1.mpr
    fun hadmits => absurd hadmits.1.1 (by decide)

end Aokie.Plugin.RemoteMedia
