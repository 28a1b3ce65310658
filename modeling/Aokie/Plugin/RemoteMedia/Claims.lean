import Aokie.Plugin.RemoteMedia.Turns

/-! Over whole runs: one claimant at a time, and no reservation of the radio that nobody can lift. -/

namespace Aokie.Plugin.RemoteMedia

open Aokie.Lib Aokie.Media

namespace RemoteMediaState

variable {P : SessionBinding → Prop} {s : RemoteMediaState}

def claimsSet (s : RemoteMediaState) : List Bool :=
  [s.pendingPrepare.isSome, s.preparedClaim.isSome, s.pendingConsult.isSome, s.activeConsult.isSome,
    s.pendingRoute.isSome, s.activeRoute.isSome]

lemma count_claimsSet (h : s.claims.length ≤ 1) : s.claimsSet.count true ≤ 1 := by
  rcases slots_of_claims h with hv | ⟨x, hx, hv⟩ | ⟨x, hx, hv⟩ | ⟨x, hx, hv⟩ | ⟨x, hx, hv⟩ | ⟨x, hx, hv⟩ |
      ⟨x, hx, hv⟩ <;>
  · obtain ⟨h₁, h₂, h₃, h₄, h₅, h₆⟩ := hv
    simp_all [claimsSet]

lemma Inv.claim_of_mem (hs : s.Inv P) {c : Claim} (hc : c ∈ s.claims) : c.Sound P s.line :=
  hs.line.claim c (line_claim_of_mem hs.claims hc)

lemma Inv.claimants (hs : s.Inv P) : (s.peers.filter (·.binding.mode ≠ .monitor)).length ≤ 1 := by
  have hdistinct := hs.line.distinct_sublist (map_filter_sublist s (·.binding.mode ≠ .monitor))
  have hsingle := hs.line.single_sublist (map_filter_sublist s (·.binding.mode ≠ .monitor))
  have hclaimant : ∀ slot ∈ s.peers.filter (·.binding.mode ≠ .monitor), slot.binding.mode ≠ .monitor := by
    intro slot hslot
    simpa using (List.mem_filter.mp hslot).2
  rcases hfilter : s.peers.filter (·.binding.mode ≠ .monitor) with _ | ⟨a, _ | ⟨b, rest⟩⟩
  · rw [hfilter]
    exact Nat.zero_le _
  · rw [hfilter]
    exact le_rfl
  · rw [hfilter] at hdistinct hsingle hclaimant
    have hab : a.binding = b.binding := hsingle _ (by simp) _ (by simp) (hclaimant a (by simp)) (hclaimant b (by simp))
    simp [hab] at hdistinct

lemma Inv.holder_of_reserved (hs : s.Inv P) (hreserved : s.radioReserved = true) :
    s.pendingConsult.isSome = true ∨ s.activeConsult.isSome = true ∨ s.pendingRoute.isSome = true ∨
      s.activeRoute.isSome = true ∨ s.returnBinding.isSome = true := by
  have hmode := hs.line.mode
  have hne : s.line.mode ≠ .aokieActive := by
    intro hactive
    have hactive : s.serviceMode = .aokieActive := hactive
    simp [radioReserved, hactive] at hreserved
  rcases slots_of_claims hs.claims with hv | ⟨x, hx, hv⟩ | ⟨x, hx, hv⟩ | ⟨x, hx, hv⟩ | ⟨x, hx, hv⟩ |
      ⟨x, hx, hv⟩ | ⟨x, hx, hv⟩
  · rw [Line.ModeFits, line_claim_of_vacant hv] at hmode
    simp only [Option.bind_none] at hmode
    have hreturn : s.returnBinding.isSome = true := (hmode.resolve_left hne).2
    simp [hreturn]
  · have hclaim := line_claim_of_mem hs.claims (c := .preparing x.binding) (by simp [RemoteMediaState.claims, hx])
    rw [Line.ModeFits, hclaim] at hmode
    have hreturn : s.returnBinding.isSome = true := (hmode.resolve_left hne).2
    simp [hreturn]
  · have hclaim := line_claim_of_mem hs.claims (mem_claims_preparedClaim hx)
    rw [Line.ModeFits, hclaim] at hmode
    have hreturn : s.returnBinding.isSome = true := (hmode.resolve_left hne).2
    simp [hreturn]
  all_goals simp [hx]

def lastDeadline (s : RemoteMediaState) : Instant :=
  max (max (s.activeConsult.elim 0 (·.expiresAt)) (s.pendingConsult.elim 0 (·.expiresAt)))
    (max (s.activeRoute.elim 0 (·.permit.expiresAt)) (s.pendingRoute.elim 0 (·.permit.expiresAt)))

lemma eq_none_of_lastDeadline_le {now : Instant} (h : s.Unlapsed now) (hlate : s.lastDeadline ≤ now) :
    s.activeConsult = none ∧ s.pendingConsult = none ∧ s.activeRoute = none ∧ s.pendingRoute = none := by
  simp only [lastDeadline, max_le_iff] at hlate
  obtain ⟨⟨hconsult, hpending⟩, hroute, hwaiting⟩ := hlate
  refine ⟨Option.eq_none_iff_forall_ne_some.mpr fun x hx => ?_, Option.eq_none_iff_forall_ne_some.mpr fun x hx => ?_,
    Option.eq_none_iff_forall_ne_some.mpr fun x hx => ?_, Option.eq_none_iff_forall_ne_some.mpr fun x hx => ?_⟩
  · rw [hx] at hconsult
    exact absurd (h.activeConsult x hx) (not_lt.mpr hconsult)
  · rw [hx] at hpending
    exact absurd (h.pendingConsult x hx) (not_lt.mpr hpending)
  · rw [hx] at hroute
    exact absurd (h.activeRoute x hx) (not_lt.mpr hroute)
  · rw [hx] at hwaiting
    exact absurd (h.pendingRoute x hx) (not_lt.mpr hwaiting)

lemma dispatch_return (h : s.returnBinding.isSome = true) : s.dispatch.1.returnDispatched = true := by
  unfold dispatch
  rw [if_pos h]
  split
  next hdispatched => exact hdispatched
  · rfl

lemma ackReturn_of_some {b : SessionBinding} (h : s.returnBinding = some b) :
    s.ackReturn.2 = .ok b ∧ s.ackReturn.1.serviceMode = .aokieActive := by
  unfold ackReturn
  rw [h]
  exact ⟨rfl, rfl⟩

end RemoteMediaState

open RemoteMediaState

def Acknowledged (is : List (Input × Clock)) (binding : SessionBinding) : Prop :=
  ∃ n, Reply.prepared binding n ∈ step.outputs .initial is

lemma Reply.mark_eq_acknowledged_iff {reply : Reply} {binding : SessionBinding} :
    reply.mark = .acknowledged binding ↔ ∃ n, reply = .prepared binding n := by
  cases reply <;> simp [Reply.mark]

lemma inv_final {P : SessionBinding → Prop} {s : RemoteMediaState} (hs : s.Inv P) (is : List (Input × Clock)) :
    (step.final s is).Inv fun b => P b ∨ ∃ n, Reply.prepared b n ∈ step.outputs s is := by
  induction is generalizing s P with
  | nil => simpa using hs
  | cons i is ih =>
      have hrest := ih (step_inv hs i)
      simp only [Machine.final_cons, Machine.outputs_cons]
      refine ⟨hrest.claims, hrest.line.mono ?_⟩
      rintro b ((hP | hmark) | ⟨n, hn⟩)
      · exact .inl hP
      · obtain ⟨n, hn⟩ := Reply.mark_eq_acknowledged_iff.mp hmark
        exact .inr ⟨n, by simp [hn]⟩
      · exact .inr ⟨n, List.mem_cons_of_mem _ hn⟩

lemma inv_reachable (is : List (Input × Clock)) : (step.final .initial is).Inv (Acknowledged is) := by
  have h := inv_final (inv_initial (P := fun _ => False)) is
  exact ⟨h.claims, h.line.mono fun b hb => hb.resolve_left id⟩

lemma allows_active (gate : RemoteConsentGate) (mode : MediaMode) (utc : ℕ) :
    gate.allows mode.active utc = gate.allows mode utc := by
  cases mode <;> rfl

lemma Claim.Sound.allows_current {P : SessionBinding → Prop} {l : Line} {c : Claim} (h : c.Sound P l)
    (gate : RemoteConsentGate) (utc : ℕ) : gate.allows c.current.mode utc = gate.allows c.binding.mode utc := by
  cases c with
  | prepared b n m =>
      cases m with
      | none => rfl
      | some b' =>
          have hmode : b'.mode = b.mode.active := h.2.2.2.1 b' rfl
          rw [show (Claim.prepared b n (some b')).current = b' from rfl, hmode, allows_active]
          rfl
  | preparing b | consultPending b | consultActive b | routePending b | routeActive b => rfl

/-- One claimant at a time, in every state a run reaches. -/
theorem one_claimant_at_a_time (is : List (Input × Clock)) :
    let s := step.final .initial is
    s.claimsSet.count true ≤ 1 ∧
    (s.peers.filter (·.binding.mode ≠ .monitor)).length ≤ 1 ∧
    (∀ c ∈ s.claims, s.currentCallId = some c.binding.callId ∧
      s.currentRecord.map (·.callEpoch) = some c.binding.callEpoch) ∧
    (∀ binding, (s.activeRoute.map (·.permit.binding) = some binding ∨
        s.pendingRoute.map (·.permit.binding) = some binding) →
      binding.mode = .talk ∧ ∃ p, Acknowledged is p ∧ p.mode = .preparedTalk ∧ p.SameClaim binding) ∧
    (∀ binding, (s.activeConsult.map (·.binding) = some binding ∨ s.pendingConsult.map (·.binding) = some binding) →
      binding.mode = .consult ∧ ∃ p, Acknowledged is p ∧ p.mode = .preparedConsult ∧ p.SameClaim binding) ∧
    ∀ gate clock, let s' := (step s (.setRemoteConsent gate, clock)).1
      (∀ slot ∈ s'.peers, gate.allows slot.binding.mode clock.utc = true) ∧
      ∀ c ∈ s'.claims, gate.allows c.binding.mode clock.utc = true ∧ gate.allows c.current.mode clock.utc = true := by
  have hs := inv_reachable is
  dsimp only
  refine ⟨count_claimsSet hs.claims, hs.claimants, ?_, ?_, ?_, ?_⟩
  · intro c hc
    obtain ⟨hcall, o, hrecord⟩ := (hs.claim_of_mem hc).live
    refine ⟨hcall, ?_⟩
    rw [currentRecord, show (step.final .initial is).currentCallId = _ from hcall, Option.bind_some,
      show (step.final .initial is).calls c.binding.callId = _ from hrecord]
    rfl
  · rintro binding (hactive | hpending)
    · obtain ⟨route, hroute, rfl⟩ := Option.map_eq_some_iff.mp hactive
      have hsound := hs.claim_of_mem (c := .routeActive route.permit.binding) (by simp [claims, hroute])
      exact ⟨hsound.1, hsound.2.1⟩
    · obtain ⟨route, hroute, rfl⟩ := Option.map_eq_some_iff.mp hpending
      have hsound := hs.claim_of_mem (c := .routePending route.permit.binding) (by simp [claims, hroute])
      exact ⟨hsound.1, hsound.2.1⟩
  · rintro binding (hactive | hpending)
    · obtain ⟨active, hslot, rfl⟩ := Option.map_eq_some_iff.mp hactive
      have hsound := hs.claim_of_mem (c := .consultActive active.binding) (by simp [claims, hslot])
      exact ⟨hsound.1, hsound.2.1⟩
    · obtain ⟨pending, hslot, rfl⟩ := Option.map_eq_some_iff.mp hpending
      have hsound := hs.claim_of_mem (c := .consultPending pending.binding) (by simp [claims, hslot])
      exact ⟨hsound.1, hsound.2.1⟩
  · intro gate clock
    have hcut := setRemoteConsent_cutOff hs gate clock
    have hinv := step_inv hs (.setRemoteConsent gate, clock)
    refine ⟨?_, ?_⟩
    · intro slot hslot
      have hmem : slot ∈ (step.final .initial is).peers.filter fun slot => gate.allows slot.binding.mode clock.utc :=
        hcut.peers ▸ hslot
      exact (List.mem_filter.mp hmem).2
    · intro c hc
      have hallowed := hcut.allowed c (line_claim_of_mem hcut.claims hc)
      exact ⟨(hinv.claim_of_mem hc).allows_current gate clock.utc ▸ hallowed, hallowed⟩

namespace RemoteMediaState

lemma Inv.nextRadioTransition_late {P : SessionBinding → Prop} {s : RemoteMediaState} (hs : s.Inv P)
    (hreserved : s.radioReserved = true) {clock : Clock} (hlate : s.lastDeadline ≤ clock.now) :
    (s.nextRadioTransition clock).1.serviceMode = .aokieActive ∨
    (s.nextRadioTransition clock).1.returnDispatched = true ∧
      (s.nextRadioTransition clock).1.returnBinding.isSome = true := by
  have heq := expirePeers_eq s clock.now
  have hclaims : (s.expirePeers clock.now).claims = s.claims := by
    rw [heq]
    rfl
  have hcalls : (s.expirePeers clock.now).calls = s.calls := by rw [heq]
  have halike := dispatch_alike ((s.expirePeers clock.now).lapse clock.now)
  have hreturned (h : ((s.expirePeers clock.now).lapse clock.now).returnBinding.isSome = true) :
      (s.nextRadioTransition clock).1.returnDispatched = true ∧
        (s.nextRadioTransition clock).1.returnBinding.isSome = true := by
    refine ⟨dispatch_return h, ?_⟩
    rw [← halike.returnBinding] at h
    exact h
  rcases lapse_spec hs hcalls (hclaims ▸ hs.claims) clock.now with ⟨hstay, hlive⟩ | ⟨c, hc, hended⟩
  · right
    apply hreturned
    have hdeadline : (s.expirePeers clock.now).lastDeadline = s.lastDeadline := by
      rw [heq]
      rfl
    have hslots := eq_none_of_lastDeadline_le hlive (hdeadline ▸ hlate)
    rw [heq] at hslots
    obtain ⟨h₄, h₃, h₆, h₅⟩ := hslots
    dsimp only at h₃ h₄ h₅ h₆
    have hholder := hs.holder_of_reserved hreserved
    rw [hstay, heq]
    simpa [h₃, h₄, h₅, h₆] using hholder
  · rcases hended.outcome with ⟨-, -, hreturn, -⟩ | ⟨-, -, -, hmode⟩
    · right
      apply hreturned
      rw [hreturn]
      rfl
    · left
      exact halike.serviceMode.trans hmode

end RemoteMediaState

/-- The radio is never reserved for nobody: a late look at the clock and one acknowledgement give the caller back. -/
theorem reserved_for_somebody (is : List (Input × Clock)) :
    let s := step.final .initial is
    s.radioReserved = true →
      (s.pendingConsult.isSome = true ∨ s.activeConsult.isSome = true ∨ s.pendingRoute.isSome = true ∨
        s.activeRoute.isSome = true ∨ s.returnBinding.isSome = true) ∧
      ∃ T, ∀ clock : Clock, T ≤ clock.now →
        let s' := (step s (.nextRadioTransition, clock)).1
        s'.serviceMode = .aokieActive ∨
        s'.returnDispatched = true ∧ ∀ clock', ∃ binding, (step s' (.ackReturn, clock')).2 = .returned binding ∧
          (step s' (.ackReturn, clock')).1.serviceMode = .aokieActive := by
  intro s hreserved
  have hs : s.Inv (Acknowledged is) := inv_reachable is
  refine ⟨hs.holder_of_reserved hreserved, s.lastDeadline, ?_⟩
  intro clock hlate
  rcases hs.nextRadioTransition_late hreserved hlate with hactive | ⟨hdispatched, hreturn⟩
  · exact .inl hactive
  · right
    refine ⟨hdispatched, fun clock' => ?_⟩
    obtain ⟨binding, hbinding⟩ := Option.isSome_iff_exists.mp hreturn
    obtain ⟨hreply, hmode⟩ := ackReturn_of_some hbinding
    exact ⟨binding, answer_of_ok hreply, hmode⟩

section Example

/-! One device prepares, is acknowledged and asks for the caller. -/

def openGate : RemoteConsentGate := ⟨true, true, none, true, true, true, true, true⟩

def prepareBinding : SessionBinding := ⟨"r1", "c1", 1, 0, "d1", .preparedTalk, some "l1", 1⟩

def talkBinding : SessionBinding := { prepareBinding with ownerEpoch := 1, mode := .talk }

def atOnce (is : List Input) : List (Input × Clock) := is.map (·, ⟨0, 0⟩)

def takeoverRun : List (Input × Clock) := atOnce
  [.setRemoteConsent openGate, .observeCall (some "c1") true,
   .insertPeer ⟨prepareBinding, seconds 100⟩ (some 0), .requestSoftHold prepareBinding 60000, .nextRadioTransition,
   .ackPrepare prepareBinding, .closePeer "r1" "active_rebind",
   .insertPeer ⟨talkBinding, seconds 100⟩ (some 0), .requestTakeover talkBinding 60000 none]

theorem reserved_for_pending_takeover :
    (step.final .initial takeoverRun).radioReserved = true ∧
    ((step.final .initial takeoverRun).pendingConsult.isSome = true ∨
      (step.final .initial takeoverRun).activeConsult.isSome = true ∨
      (step.final .initial takeoverRun).pendingRoute.isSome = true ∨
      (step.final .initial takeoverRun).activeRoute.isSome = true ∨
      (step.final .initial takeoverRun).returnBinding.isSome = true) :=
  ⟨by decide, (reserved_for_somebody takeoverRun (by decide)).1⟩

end Example

end Aokie.Plugin.RemoteMedia
