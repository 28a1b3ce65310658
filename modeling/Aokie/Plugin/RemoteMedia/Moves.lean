import Aokie.Plugin.RemoteMedia.Line

/-! Every turn at the state lock is a move of the line, keeps at most one claim, and moves the revision on when it
changes what the line shows. -/

namespace Aokie.Plugin.RemoteMedia

open Aokie.Lib Aokie.Media

namespace RemoteMediaState

variable {P : SessionBinding → Prop} {s s' : RemoteMediaState} {mark : Mark} {binding : SessionBinding} {clock : Clock}
  {slot : PeerSlot}

structure Inv (P : SessionBinding → Prop) (s : RemoteMediaState) : Prop where
  claims : s.claims.length ≤ 1
  line : s.line.Sound P

def Risen (s s' : RemoteMediaState) : Prop :=
  s'.remoteRevision = advance s.remoteRevision ∨ s'.remoteRevision = advance (advance s.remoteRevision)

structure Turn (mark : Mark) (s s' : RemoteMediaState) : Prop where
  claims : s'.claims.length ≤ 1
  move : Move mark s.line s'.line
  revision : s.Risen s' ∨ s'.line = s.line ∧ s'.remoteRevision = s.remoteRevision

lemma Turn.inv (h : Turn mark s s') (hs : s.Inv P) : s'.Inv fun b => P b ∨ mark = .acknowledged b :=
  ⟨h.claims, h.move.sound hs.line⟩

lemma Turn.refl (h : s.Inv P) : Turn .quiet s s := ⟨h.claims, .still _, .inr ⟨rfl, rfl⟩⟩

lemma Turn.of_line (hs : s.Inv P) (hclaims : s'.claims = s.claims) (hline : s'.line = s.line)
    (hrevision : s'.remoteRevision = s.remoteRevision ∨ s.Risen s') : Turn .quiet s s' where
  claims := hclaims ▸ hs.claims
  move := hline ▸ .still _
  revision := hrevision.symm.imp_right fun h => ⟨hline, h⟩

@[simp] lemma line_bumpRevision : s.bumpRevision.line = s.line := rfl

@[simp] lemma claims_bumpRevision : s.bumpRevision.claims = s.claims := rfl

@[simp] lemma remoteRevision_bumpRevision : s.bumpRevision.remoteRevision = advance s.remoteRevision := rfl

lemma risen_bumpRevision (h : s'.remoteRevision = s.remoteRevision) : s.Risen s'.bumpRevision := by
  left
  rw [remoteRevision_bumpRevision, h]

lemma clearBindingObservations_eq (s : RemoteMediaState) (binding : SessionBinding) :
    s.clearBindingObservations binding =
      { s with microphoneMuteBinding := (s.clearBindingObservations binding).microphoneMuteBinding } := by
  unfold clearBindingObservations
  split <;> rfl

lemma claims_of_vacant (h : s.Vacant) : s.claims = [] := by
  simp [claims, h.pendingPrepare, h.preparedClaim, h.pendingConsult, h.activeConsult, h.pendingRoute, h.activeRoute]

lemma vacant_of_claims (h : s.claims = []) : s.Vacant := by
  simpa [claims, vacant_iff, and_assoc] using h

section Slots

/-! The slot that holds a claim holds the only one. -/

variable (h : s.claims.length ≤ 1)

include h

lemma vacant_of_pendingPrepare {pending : PendingPrepare} (hp : s.pendingPrepare = some pending) :
    { s with pendingPrepare := none }.Vacant := by
  rcases slots_of_claims h with hv | ⟨x, hx, hv⟩ | ⟨x, hx, hv⟩ | ⟨x, hx, hv⟩ | ⟨x, hx, hv⟩ | ⟨x, hx, hv⟩ | ⟨x, hx, hv⟩
  case inr.inl => exact hv
  all_goals exact absurd (hp.symm.trans hv.pendingPrepare) nofun

lemma vacant_of_preparedClaim {prepared : PreparedClaim} (hp : s.preparedClaim = some prepared) :
    { s with preparedClaim := none }.Vacant := by
  rcases slots_of_claims h with hv | ⟨x, hx, hv⟩ | ⟨x, hx, hv⟩ | ⟨x, hx, hv⟩ | ⟨x, hx, hv⟩ | ⟨x, hx, hv⟩ | ⟨x, hx, hv⟩
  case inr.inr.inl => exact hv
  all_goals exact absurd (hp.symm.trans hv.preparedClaim) nofun

lemma vacant_of_pendingConsult {pending : PendingConsult} (hp : s.pendingConsult = some pending) :
    { s with pendingConsult := none }.Vacant := by
  rcases slots_of_claims h with hv | ⟨x, hx, hv⟩ | ⟨x, hx, hv⟩ | ⟨x, hx, hv⟩ | ⟨x, hx, hv⟩ | ⟨x, hx, hv⟩ | ⟨x, hx, hv⟩
  case inr.inr.inr.inl => exact hv
  all_goals exact absurd (hp.symm.trans hv.pendingConsult) nofun

lemma vacant_of_activeConsult {active : ActiveConsult} (hp : s.activeConsult = some active) :
    { s with activeConsult := none }.Vacant := by
  rcases slots_of_claims h with hv | ⟨x, hx, hv⟩ | ⟨x, hx, hv⟩ | ⟨x, hx, hv⟩ | ⟨x, hx, hv⟩ | ⟨x, hx, hv⟩ | ⟨x, hx, hv⟩
  case inr.inr.inr.inr.inl => exact hv
  all_goals exact absurd (hp.symm.trans hv.activeConsult) nofun

lemma vacant_of_pendingRoute {pending : PendingRoute} (hp : s.pendingRoute = some pending) :
    { s with pendingRoute := none }.Vacant := by
  rcases slots_of_claims h with hv | ⟨x, hx, hv⟩ | ⟨x, hx, hv⟩ | ⟨x, hx, hv⟩ | ⟨x, hx, hv⟩ | ⟨x, hx, hv⟩ | ⟨x, hx, hv⟩
  case inr.inr.inr.inr.inr.inl => exact hv
  all_goals exact absurd (hp.symm.trans hv.pendingRoute) nofun

lemma vacant_of_activeRoute {active : ActiveRoute} (hp : s.activeRoute = some active) :
    { s with activeRoute := none }.Vacant := by
  rcases slots_of_claims h with hv | ⟨x, hx, hv⟩ | ⟨x, hx, hv⟩ | ⟨x, hx, hv⟩ | ⟨x, hx, hv⟩ | ⟨x, hx, hv⟩ | ⟨x, hx, hv⟩
  case inr.inr.inr.inr.inr.inr => exact hv
  all_goals exact absurd (hp.symm.trans hv.activeRoute) nofun

end Slots

lemma claims_eq_singleton (h : s.claims.length ≤ 1) {c : Claim} (hc : c ∈ s.claims) : s.claims = [c] := by
  obtain ⟨x, hx⟩ := List.length_eq_one_iff.mp (le_antisymm h (List.length_pos_of_mem hc))
  rw [hx, List.mem_singleton] at hc
  rw [hx, hc]

lemma line_claim_eq {c : Claim} (h : s.claims = [c]) : s.line.claim = some c := by
  simp [line, h]

lemma line_claim_of_mem (h : s.claims.length ≤ 1) {c : Claim} (hc : c ∈ s.claims) : s.line.claim = some c :=
  line_claim_eq (claims_eq_singleton h hc)

lemma line_claim_of_vacant (h : s.Vacant) : s.line.claim = none := by
  simp [line, claims_of_vacant h]

lemma claims_le_of_vacant (h : s.Vacant) : s.claims.length ≤ 1 := by
  simp [claims_of_vacant h]

lemma evictCalls_spec (current : Option String) (order : List String)
    (calls : String → Option CallRecord) (c : String) :
    (evictCalls current order calls).2 c = calls c ∨ ((evictCalls current order calls).2 c = none ∧
      current ≠ some c) := by
  induction order generalizing calls with
  | nil => exact .inl rfl
  | cons old order ih =>
      unfold evictCalls
      split
      · split
        · exact ih calls
        next hcurrent =>
          rcases ih (Function.update calls old none) with hsame | hgone
          · by_cases hc : c = old
            · right
              rw [hsame, hc, Function.update_self]
              exact ⟨rfl, hcurrent⟩
            · left
              rw [hsame, Function.update_of_ne hc]
          · exact .inr hgone
      · exact .inl rfl

lemma admitCall_spec {c : String} (hcall : s.currentCallId = some c) :
    ∃ calls next order, s.admitCall c = { s with calls := calls, nextCallEpoch := next, callOrder := order } ∧
      CallsAdmit s.calls calls s.nextCallEpoch next ∧ (calls c).isSome = true := by
  unfold admitCall
  split
  next hknown =>
    exact ⟨s.calls, s.nextCallEpoch, s.callOrder, rfl, ⟨fun _ _ hr => .inl hr, .inl rfl⟩, hknown⟩
  next hnew =>
    refine ⟨_, _, _, rfl, ⟨?_, .inr rfl⟩, ?_⟩
    · intro x r hr
      rcases evictCalls_spec s.currentCallId (s.callOrder ++ [c])
        (Function.update s.calls c (some ⟨advance s.nextCallEpoch, 0⟩)) x with hsame | ⟨hgone, -⟩
      · rw [hsame] at hr
        by_cases hx : x = c
        · subst hx
          rw [Function.update_self] at hr
          exact .inr ⟨by simpa using hnew, rfl, (Option.some.inj hr).symm⟩
        · rw [Function.update_of_ne hx] at hr
          exact .inl hr
      · rw [hgone] at hr
        cases hr
    · rcases evictCalls_spec s.currentCallId (s.callOrder ++ [c])
        (Function.update s.calls c (some ⟨advance s.nextCallEpoch, 0⟩)) c with hsame | ⟨-, hother⟩
      · rw [hsame, Function.update_self]
        rfl
      · exact absurd hcall hother

lemma takeClaim_spec (h : s.claims.length ≤ 1) :
    s.takeClaim = (s.clearClaims, s.line.claim.map (·.binding)) := by
  rcases slots_of_claims h with hv | ⟨x, hx, hv⟩ | ⟨x, hx, hv⟩ | ⟨x, hx, hv⟩ | ⟨x, hx, hv⟩ | ⟨x, hx, hv⟩ |
      ⟨x, hx, hv⟩ <;>
  · obtain ⟨h₁, h₂, h₃, h₄, h₅, h₆⟩ := hv
    cases s
    simp_all [takeClaim, clearClaims, line, claims, Claim.binding]

lemma leaveCall_eq (h : s.claims.length ≤ 1) (callId : Option String) (active : Bool) :
    s.leaveCall callId active =
      { s.clearClaims with
        peers := [], returnBinding := s.line.claim.map (·.binding)
        returnReason := (s.line.claim.map (·.binding)).map fun _ => "physical_call_changed"
        returnDispatched := false, currentCallId := callId, microphoneMuteBinding := none
        currentCallActive := active } := by
  have htake : { s with peers := [] }.takeClaim =
      ({ s with peers := [] }.clearClaims, s.line.claim.map (·.binding)) := takeClaim_spec h
  simp only [leaveCall, htake]
  rfl

lemma arrive_spec {callId : Option String} (hcall : s.currentCallId = callId) :
    ∃ calls next order, callId.elim s s.admitCall = { s with
        calls := calls, nextCallEpoch := next, callOrder := order } ∧
      CallsAdmit s.calls calls s.nextCallEpoch next ∧ ∀ c, callId = some c → (calls c).isSome = true := by
  cases callId with
  | none => exact ⟨_, _, _, rfl, ⟨fun _ _ hr => .inl hr, .inl rfl⟩, nofun⟩
  | some c =>
      obtain ⟨calls, next, order, hadmit, hcalls, hknown⟩ := admitCall_spec hcall
      refine ⟨calls, next, order, hadmit, hcalls, ?_⟩
      rintro x ⟨⟩
      exact hknown

theorem observeCall_turn_of_eq (hs : s.Inv P) {callId : Option String} (hcall : s.currentCallId = callId)
    (active : Bool) : Turn .quiet s (s.observeCall callId active).1 := by
  unfold observeCall
  rw [if_pos hcall]
  split
  · exact .refl hs
  · exact ⟨hs.claims, .heard s.line active _, .inl (.inl rfl)⟩

theorem observeCall_turn_of_ne (hs : s.Inv P) {callId : Option String} (hcall : s.currentCallId ≠ callId)
    (active : Bool) : Turn .changed s (s.observeCall callId active).1 := by
  unfold observeCall
  rw [if_neg hcall]
  have hleave := leaveCall_eq hs.claims callId active
  obtain ⟨calls, next, order, harrive, hcalls, hknown⟩ :=
    arrive_spec (s := s.leaveCall callId active) (by rw [hleave])
  rw [hleave] at hcalls
  simp only [harrive]
  simp only [hleave]
  refine ⟨claims_le_of_vacant ⟨rfl, rfl, rfl, rfl, rfl, rfl⟩, ?_, .inl (.inl rfl)⟩
  have hmove := Move.changed s.line active hcall hknown hcalls
  convert hmove using 1
  simp [line, claims, clearClaims, bumpRevision]

lemma withOwnerEpoch_eq (s : RemoteMediaState) (f : CallRecord → ℕ) :
    s.withOwnerEpoch f = { s with calls := (s.withOwnerEpoch f).calls } := by
  unfold withOwnerEpoch
  split <;> rfl

lemma callsRise_withOwnerEpoch {f : CallRecord → ℕ}
    (hf : ∀ c r, s.calls c = some r → r.ownerEpoch ≤ f r ∧ f r ≤ u64Max) :
    CallsRise s.calls (s.withOwnerEpoch f).calls := by
  intro c
  unfold withOwnerEpoch
  split
  · exact .inl rfl
  next callId hcall =>
    by_cases hc : c = callId
    · subst hc
      cases hr : s.calls c with
      | none => exact .inl (by simp)
      | some r => exact .inr ⟨r.callEpoch, r.ownerEpoch, f r, rfl, by simp, hf c r hr⟩
    · exact .inl (by simp [Function.update_of_ne hc])

lemma le_fenced {o : ℕ} (h : o ≤ u64Max) (b : ℕ) : o ≤ saturatingAdd (max o b) 1 ∧
    saturatingAdd (max o b) 1 ≤ u64Max := by
  simp only [saturatingAdd]
  omega

lemma fenceCancelledBinding_eq (s : RemoteMediaState) (binding : SessionBinding) :
    s.fenceCancelledBinding binding = { s with calls := (s.fenceCancelledBinding binding).calls } := by
  unfold fenceCancelledBinding
  split
  · exact withOwnerEpoch_eq s _
  · rfl

lemma Inv.ownerEpoch_le (hs : s.Inv P) (c : String) (r : CallRecord) (hr : s.calls c = some r) :
    r.ownerEpoch ≤ u64Max :=
  (hs.line.records c r hr).1

lemma Inv.callsRise_fence (hs : s.Inv P) {t : RemoteMediaState} (ht : t.calls = s.calls) (binding : SessionBinding) :
    CallsRise s.calls (t.fenceCancelledBinding binding).calls := by
  have h := hs.ownerEpoch_le
  rw [← ht] at h ⊢
  unfold fenceCancelledBinding
  split
  · exact callsRise_withOwnerEpoch fun c r hr => le_fenced (h c r hr) _
  · exact fun _ => .inl rfl

lemma revokedRoute_eq (h : s.claims.length ≤ 1) (utc : ℕ) :
    s.revokedRoute utc = s.line.claim.bind fun c =>
      if s.consent.allows c.current.mode utc then none else some (c.current, c.holdsCaller) := by
  rcases slots_of_claims h with hv | ⟨x, hx, hv⟩ | ⟨x, hx, hv⟩ | ⟨x, hx, hv⟩ | ⟨x, hx, hv⟩ | ⟨x, hx, hv⟩ |
      ⟨x, hx, hv⟩ <;>
  · obtain ⟨h₁, h₂, h₃, h₄, h₅, h₆⟩ := hv
    simp only [revokedRoute, h₁, h₂, h₃, h₄, h₅, h₆, line, claims]
    simp_all [Option.filter, Claim.current, Claim.binding, Claim.holdsCaller]
    try split_ifs <;> simp_all

lemma map_filter_sublist (s : RemoteMediaState) (p : PeerSlot → Bool) :
    ((s.peers.filter p).map (·.binding)).Sublist s.line.peers :=
  List.filter_sublist.map _

structure SameCall (s s' : RemoteMediaState) : Prop where
  nextCallEpoch : s'.nextCallEpoch = s.nextCallEpoch
  currentCallId : s'.currentCallId = s.currentCallId
  currentCallActive : s'.currentCallActive = s.currentCallActive

lemma Turn.yield {c : Claim} (hclaim : s.line.claim = some c) (hholds : c.holdsCaller = true) (hcall : SameCall s s')
    (hcalls : s'.calls = s.calls) (hpeers : (s'.peers.map (·.binding)).Sublist s.line.peers)
    (hreturn : s'.returnBinding = some c.binding) (hmode : s'.serviceMode = .returningToAokie) (hvacant : s'.Vacant)
    (hrevision : s.Risen s') : Turn .quiet s s' where
  claims := claims_le_of_vacant hvacant
  move := by
    convert Move.yielded s.line s'.microphoneMuteBinding hclaim hholds hpeers using 1
    simp [line, claims_of_vacant hvacant, hcalls, hreturn, hmode, hcall.nextCallEpoch, hcall.currentCallId,
      hcall.currentCallActive]
  revision := .inl hrevision

lemma Turn.cancel {c : Claim} (hclaim : s.line.claim = some c) (hholds : c.holdsCaller = false) (hcall : SameCall s s')
    (hcalls : CallsRise s.calls s'.calls) (hpeers : (s'.peers.map (·.binding)).Sublist s.line.peers)
    (hreturn : s'.returnBinding = s.returnBinding ∨ s'.returnBinding = none) (hmode : s'.serviceMode = .aokieActive)
    (hvacant : s'.Vacant) (hrevision : s.Risen s') : Turn .quiet s s' where
  claims := claims_le_of_vacant hvacant
  move := by
    convert Move.cancelled s.line s'.microphoneMuteBinding hclaim hholds hcalls hpeers hreturn using 1
    simp [line, claims_of_vacant hvacant, hmode, hcall.nextCallEpoch, hcall.currentCallId, hcall.currentCallActive]
  revision := .inl hrevision

lemma revokeClaim_turn (hs : s.Inv P) {c : Claim} (hclaim : s.line.claim = some c) (gate : RemoteConsentGate)
    (p : PeerSlot → Bool) :
    Turn .quiet s ({ s with consent := gate, peers := s.peers.filter p }.revokeClaim c.current c.holdsCaller) ∧
    ({ s with consent := gate, peers := s.peers.filter p }.revokeClaim c.current c.holdsCaller).peers =
      s.peers.filter p ∧
    ({ s with consent := gate, peers := s.peers.filter p }.revokeClaim c.current c.holdsCaller).line.claim = none := by
  unfold revokeClaim
  rw [clearBindingObservations_eq]
  cases hholds : c.holdsCaller with
  | true =>
      have hcurrent : c.current = c.binding := by cases c <;> first | rfl | cases hholds
      simp only [if_true, hcurrent]
      exact ⟨.yield hclaim hholds ⟨rfl, rfl, rfl⟩ rfl (map_filter_sublist s p) rfl rfl ⟨rfl, rfl, rfl, rfl, rfl, rfl⟩
        (.inl rfl), rfl, rfl⟩
  | false =>
      simp only [Bool.false_eq_true, if_false]
      rw [fenceCancelledBinding_eq]
      refine ⟨.cancel hclaim hholds ⟨rfl, rfl, rfl⟩ (hs.callsRise_fence ?_ _)
        (map_filter_sublist s p) (.inr rfl) rfl ⟨rfl, rfl, rfl, rfl, rfl, rfl⟩ (.inl rfl), rfl, rfl⟩
      rfl

/-- A turn after which nothing is left that a consent does not allow. Where only peers were cut off, the revision did
not move. -/
structure CutOff (gate : RemoteConsentGate) (utc : ℕ) (s s' : RemoteMediaState) : Prop where
  claims : s'.claims.length ≤ 1
  move : Move .quiet s.line s'.line
  revision : s.Risen s' ∨ s'.line = { s.line with peers := s'.line.peers } ∧ s'.remoteRevision = s.remoteRevision
  peers : s'.peers = s.peers.filter fun slot => gate.allows slot.binding.mode utc
  allowed : ∀ c ∈ s'.line.claim, gate.allows c.current.mode utc = true

lemma cutOff_peers (hs : s.Inv P) (gate : RemoteConsentGate) (utc : ℕ)
    (hok : ∀ c ∈ s.line.claim, gate.allows c.current.mode utc = true) :
    CutOff gate utc s { s with
        consent := gate, peers := s.peers.filter fun slot => gate.allows slot.binding.mode utc } where
  claims := hs.claims
  move := by
    refine .left s.line _ (map_filter_sublist s _) ?_
    intro c hclaim hseat
    have hcurrent : c.current = c.binding := by cases c <;> first | rfl | cases hseat
    obtain ⟨slot, hslot, hbinding⟩ := List.mem_map.mp ((hs.line.claim c hclaim).seated hseat)
    refine List.mem_map.mpr ⟨slot, List.mem_filter.mpr ⟨hslot, ?_⟩, hbinding⟩
    rw [hbinding, ← hcurrent, hok c hclaim]
  revision := .inr ⟨rfl, rfl⟩
  peers := rfl
  allowed := hok

/-- A consent cuts off what it does not allow: peers only, or a claim with them. -/
theorem setRemoteConsent_cutOff (hs : s.Inv P) (gate : RemoteConsentGate) (clock : Clock) :
    CutOff gate clock.utc s (s.setRemoteConsent gate clock).1 := by
  have hrevoked : { s with consent := gate }.revokedRoute clock.utc = s.line.claim.bind fun c =>
      if gate.allows c.current.mode clock.utc then none else some (c.current, c.holdsCaller) :=
    revokedRoute_eq (s := { s with consent := gate }) hs.claims clock.utc
  obtain hclaim | ⟨c, hclaim⟩ := s.line.claim.eq_none_or_eq_some
  · rw [hclaim, Option.bind_none] at hrevoked
    simp only [setRemoteConsent, hrevoked, Option.elim_none]
    apply cutOff_peers hs
    simp [hclaim]
  rw [hclaim, Option.bind_some] at hrevoked
  split at hrevoked
  next hok =>
    simp only [setRemoteConsent, hrevoked, Option.elim_none]
    apply cutOff_peers hs
    intro c' hc'
    obtain rfl : c' = c := Option.some.inj (hc'.symm.trans hclaim)
    exact hok
  next =>
    obtain ⟨hturn, hpeers, hnone⟩ := revokeClaim_turn hs hclaim gate
      fun slot => gate.allows slot.binding.mode clock.utc
    simp only [setRemoteConsent, hrevoked, Option.elim_some]
    refine ⟨hturn.claims, hturn.move, hturn.revision.imp_right ?_, hpeers, ?_⟩
    · rintro ⟨hline, hrevision⟩
      exact ⟨by rw [hline], hrevision⟩
    · rw [hnone]
      exact nofun

lemma peer_eq_none_iff {rtcSessionId : String} :
    s.peer rtcSessionId = none ↔ ∀ slot ∈ s.peers, slot.binding.rtcSessionId ≠ rtcSessionId := by
  simp [peer]

lemma fresh_of_peer_eq_none (h : s.peer binding.rtcSessionId = none) : s.line.Fresh binding := by
  intro p hp
  obtain ⟨slot, hslot, rfl⟩ := List.mem_map.mp hp
  exact peer_eq_none_iff.mp h slot hslot

lemma mem_of_peer {rtcSessionId : String} {slot : PeerSlot} (h : s.peer rtcSessionId = some slot) :
    slot ∈ s.peers ∧ slot.binding.rtcSessionId = rtcSessionId :=
  ⟨List.mem_of_find?_eq_some h, by simpa using List.find?_some h⟩

lemma mem_line_peers (h : s.peer binding.rtcSessionId = some slot) (hslot : slot.binding = binding) :
    binding ∈ s.line.peers :=
  List.mem_map.mpr ⟨slot, (mem_of_peer h).1, hslot⟩

lemma vacant_of_not_claimExists (h : s.claimExists = false) : s.Vacant := by
  simpa [claimExists, vacant_iff, and_assoc] using h

lemma monitors_of_not_hasClaimantPeer (h : s.hasClaimantPeer = false) : ∀ p ∈ s.line.peers, p.mode = .monitor := by
  intro p hp
  obtain ⟨slot, hslot, rfl⟩ := List.mem_map.mp hp
  have hall : ∀ x ∈ s.peers, x.binding.mode = .monitor := by simpa [hasClaimantPeer] using h
  exact hall slot hslot

lemma validateOpen_ok (h : s.validateOpen binding clock = .ok ()) :
    binding.validate = .ok () ∧ s.peer binding.rtcSessionId = none ∧
      (binding.mode = .monitor ∨
        (binding.mode.isPrepared = true ∧ s.claimExists = false ∧ s.hasClaimantPeer = false) ∨
        ∃ prepared, s.preparedClaim = some prepared ∧ preparedMatches binding prepared = true ∧
          (binding.mode = .talk ∨ (binding.mode = .consult ∧ prepared.provisionalBinding.mode =
            .preparedConsult))) := by
  simp only [validateOpen, bind_eq_ok_iff, ensure_eq_ok_iff, okOr_eq_ok_iff] at h
  obtain ⟨u, hvalid, u₁, -, u₂, -, c, -, r, -, u₃, -, u₄, hmode, u₅, -, hfree⟩ := h
  refine ⟨hvalid, hfree, ?_⟩
  cases hm : binding.mode with
  | monitor => exact .inl rfl
  | preparedConsult | preparedTalk =>
      simp only [validateMode, hm, bind_eq_ok_iff, ensure_eq_ok_iff] at hmode
      obtain ⟨-, -, hnone⟩ := hmode
      exact .inr (.inl ⟨rfl, by simpa using hnone⟩)
  | consult =>
      simp only [validateMode, hm, bind_eq_ok_iff, ensure_eq_ok_iff] at hmode
      obtain ⟨-, ⟨hprepared, -⟩, -⟩ := hmode
      obtain ⟨prepared, hclaim, hmatch⟩ := Option.any_eq_true _ _ |>.mp hprepared
      simp only [Bool.and_eq_true, beq_iff_eq] at hmatch
      exact .inr (.inr ⟨prepared, hclaim, hmatch.2, .inr ⟨rfl, hmatch.1⟩⟩)
  | talk =>
      simp only [validateMode, hm, bind_eq_ok_iff, ensure_eq_ok_iff] at hmode
      obtain ⟨-, ⟨hprepared, -⟩, -⟩ := hmode
      obtain ⟨prepared, hclaim, hmatch⟩ := Option.any_eq_true _ _ |>.mp hprepared
      exact .inr (.inr ⟨prepared, hclaim, hmatch, .inl rfl⟩)

lemma preparedMatches_iff {prepared : PreparedClaim} : preparedMatches binding prepared = true ↔
    prepared.confirmedOwnerEpoch = binding.ownerEpoch ∧ prepared.provisionalBinding.SameClaim binding := by
  simp [preparedMatches]

lemma mem_claims_preparedClaim {prepared : PreparedClaim} (h : s.preparedClaim = some prepared) :
    Claim.prepared prepared.provisionalBinding prepared.confirmedOwnerEpoch prepared.activeMediaBinding ∈ s.claims := by
  simp [claims, h]

theorem insertPeer_turn (hs : s.Inv P) (slot : PeerSlot) (clock : Clock) :
    Turn .quiet s (s.insertPeer slot clock).1 := by
  unfold insertPeer
  split
  · exact .refl hs
  next hok =>
    obtain ⟨hvalid, hfree, hwhich⟩ := validateOpen_ok hok
    have hfresh := fresh_of_peer_eq_none hfree
    rcases hwhich with hmonitor | ⟨hprepared, hnone, halone⟩ | ⟨prepared, hclaim, hmatch, hmode⟩
    · rw [if_neg (by simp [hmonitor])]
      exact ⟨hs.claims, .monitored s.line hmonitor hfresh, .inl (.inl rfl)⟩
    · have hvacant := vacant_of_not_claimExists hnone
      rw [if_neg (by cases hm : slot.binding.mode <;> simp_all [MediaMode.isPrepared])]
      exact ⟨claims_le_of_vacant (s := s) hvacant, .provisioned s.line (line_claim_of_vacant hvacant) hprepared
        (monitors_of_not_hasClaimantPeer halone) hfresh, .inl (.inl rfl)⟩
    · obtain ⟨hepoch, hsame⟩ := preparedMatches_iff.mp hmatch
      have hvacant := vacant_of_preparedClaim hs.claims hclaim
      have hline := line_claim_of_mem hs.claims (mem_claims_preparedClaim hclaim)
      obtain ⟨hpvalid, hprepared, -⟩ := hs.line.claim _ hline
      have hactive : slot.binding.mode = prepared.provisionalBinding.mode.active := by
        rcases hmode with htalk | ⟨hconsult, hpc⟩
        · rw [hsame.talk_of_prepared hpvalid hvalid hprepared htalk, htalk]
          rfl
        · rw [hpc, hconsult]
          rfl
      rw [if_pos (hmode.symm.imp_left And.left), hclaim]
      have hmove := Move.rebound s.line hline hactive hsame hfresh
      refine ⟨?_, ?_, .inl (.inl rfl)⟩
      · obtain ⟨h₁, -, h₃, h₄, h₅, h₆⟩ := hvacant
        dsimp only at h₁ h₃ h₄ h₅ h₆
        simp [claims, bumpRevision, h₁, h₃, h₄, h₅, h₆]
      · obtain ⟨h₁, -, h₃, h₄, h₅, h₆⟩ := hvacant
        dsimp only at h₁ h₃ h₄ h₅ h₆
        simpa [line, claims, bumpRevision, PreparedClaim.withMedia, hclaim, h₁, h₃, h₄, h₅, h₆] using hmove

theorem insertPeerAfterSwitchEpoch_turn (hs : s.Inv P) (slot : PeerSlot) (expected : Option ℕ) (clock : Clock) :
    Turn .quiet s (s.insertPeerAfterSwitchEpoch slot expected clock).1 := by
  unfold insertPeerAfterSwitchEpoch
  split
  · exact .refl hs
  · exact insertPeer_turn hs slot clock

lemma validateLiveBinding_ok {record : CallRecord} (h : s.validateLiveBinding binding = .ok record) :
    binding.validate = .ok () ∧ s.currentCallId = some binding.callId ∧ s.calls binding.callId = some record ∧
      record.callEpoch = binding.callEpoch := by
  simp only [validateLiveBinding, bind_eq_ok_iff, ensure_eq_ok_iff, okOr_eq_ok_iff, pure_eq_ok_iff] at h
  obtain ⟨u, hvalid, r, hrecord, u', ⟨hcall, hepoch⟩, rfl⟩ := h
  refine ⟨hvalid, hcall, ?_, hepoch⟩
  simpa [currentRecord, hcall] using hrecord

lemma owned_of_validateLiveBinding {record : CallRecord} (h : s.validateLiveBinding binding = .ok record)
    (howner : record.ownerEpoch = binding.ownerEpoch) : s.line.Owned binding := by
  obtain ⟨-, hcall, hrecord, hepoch⟩ := validateLiveBinding_ok h
  refine ⟨hcall, ?_⟩
  rw [← hepoch, ← howner]
  exact hrecord

lemma live_of_validateLiveBinding {record : CallRecord} (h : s.validateLiveBinding binding = .ok record) :
    s.line.Live binding := by
  obtain ⟨-, hcall, hrecord, hepoch⟩ := validateLiveBinding_ok h
  refine ⟨hcall, record.ownerEpoch, ?_⟩
  rw [← hepoch]
  exact hrecord

lemma softHoldChecks_ok {ttl : Duration} {expiresAt : Instant}
    (h : s.softHoldChecks binding ttl clock = .ok expiresAt) :
    binding.mode.isPrepared = true ∧ binding.validate = .ok () ∧ s.line.Owned binding ∧ binding ∈ s.line.peers ∧
      s.pendingPrepare = none ∧ s.preparedClaim = none ∧ s.pendingRoute = none ∧ s.activeRoute = none := by
  simp only [softHoldChecks, bind_eq_ok_iff, ensure_eq_ok_iff, okOr_eq_ok_iff] at h
  obtain ⟨-, hmode, -, -, record, hlive, -, howner, -, hfree, slot, hpeer, -, hslot, -⟩ := h
  have hfree : s.pendingPrepare = none ∧ s.preparedClaim = none ∧ s.pendingRoute = none ∧ s.activeRoute = none := by
    simpa [and_assoc] using hfree
  refine ⟨?_, (validateLiveBinding_ok hlive).1, owned_of_validateLiveBinding hlive howner.symm,
    mem_line_peers hpeer hslot, hfree⟩
  rcases hmode with hmode | hmode <;> rw [hmode] <;> rfl

lemma Inv.vacant_of_preparing_peer (hs : s.Inv P) (hpeer : binding ∈ s.line.peers)
    (hmode : binding.mode.isPrepared = true) (h₁ : s.pendingPrepare = none) (h₂ : s.preparedClaim = none)
    (h₅ : s.pendingRoute = none) (h₆ : s.activeRoute = none) : s.Vacant := by
  have hconsult : ∀ c ∈ s.line.claim, c.binding.mode ≠ .consult ∨ c.isSeated = false := by
    intro c hc
    by_contra hcon
    simp only [not_or, not_not, Bool.not_eq_false] at hcon
    have hseat := (hs.line.claim c hc).seated hcon.2
    have heq := hs.line.single _ hseat _ hpeer (by simp [hcon.1])
      (fun hmonitor => by simp [hmonitor, MediaMode.isPrepared] at hmode)
    rw [heq] at hcon
    simp [hcon.1, MediaMode.isPrepared] at hmode
  refine ⟨h₁, h₂, ?_, ?_, h₅, h₆⟩
  · by_contra hsome
    obtain ⟨pending, hpending⟩ := Option.ne_none_iff_exists'.mp hsome
    have hc := line_claim_of_mem hs.claims (c := .consultPending pending.binding)
      (by simp [RemoteMediaState.claims, hpending])
    rcases hconsult _ hc with hne | hseat
    · exact hne (hs.line.claim _ hc).1
    · cases hseat
  · by_contra hsome
    obtain ⟨active, hactive⟩ := Option.ne_none_iff_exists'.mp hsome
    have hc := line_claim_of_mem hs.claims (c := .consultActive active.binding)
      (by simp [RemoteMediaState.claims, hactive])
    rcases hconsult _ hc with hne | hseat
    · exact hne (hs.line.claim _ hc).1
    · cases hseat

lemma requestSoftHold_error {ttl : Duration} {e : String} (h : (s.requestSoftHold binding ttl clock).2 = .error e) :
    (s.requestSoftHold binding ttl clock).1 = s := by
  unfold requestSoftHold at h ⊢
  split at h
  · rfl
  · cases h

theorem requestSoftHold_turn (hs : s.Inv P) {ttl : Duration} (h : (s.requestSoftHold binding ttl clock).2 = .ok ()) :
    Turn .held s (s.requestSoftHold binding ttl clock).1 := by
  unfold requestSoftHold at h ⊢
  split at h
  · cases h
  next expiresAt hok =>
    obtain ⟨hmode, hvalid, howned, hpeer, h₁, h₂, h₅, h₆⟩ := softHoldChecks_ok hok
    have hvacant := hs.vacant_of_preparing_peer hpeer hmode h₁ h₂ h₅ h₆
    have hmove := Move.held s.line (line_claim_of_vacant hvacant) hpeer hmode hvalid howned.live
    obtain ⟨-, -, h₃, h₄, -, -⟩ := hvacant
    refine ⟨by simp [claims, bumpRevision, h₂, h₃, h₄, h₅, h₆], ?_, .inl (.inl rfl)⟩
    simpa [line, claims, bumpRevision, h₁, h₂, h₃, h₄, h₅, h₆] using hmove

lemma preparedMatches_of_ready {prepared : PreparedClaim} {now : Instant}
    (h : preparedIsReady binding prepared now = true) : preparedMatches binding prepared = true := by
  simp only [preparedIsReady, Bool.and_eq_true] at h
  exact h.2

lemma consultChecks_ok {ttl : Duration} {pending : PendingConsult}
    (h : s.consultChecks binding ttl clock = .ok pending) :
    pending.binding = binding ∧ binding.mode = .consult ∧ binding.validate = .ok () ∧ binding ∈ s.line.peers ∧
      ∃ prepared, s.preparedClaim = some prepared ∧ preparedMatches binding prepared = true ∧
        prepared.provisionalBinding.mode = .preparedConsult := by
  simp only [consultChecks, bind_eq_ok_iff, ensure_eq_ok_iff, okOr_eq_ok_iff, pure_eq_ok_iff] at h
  obtain ⟨-, hmode, -, -, record, hlive, -, -, -, -, slot, hpeer, -, hslot, prepared, hclaim, -, hready, -, -, rfl⟩ := h
  exact ⟨rfl, hmode, (validateLiveBinding_ok hlive).1, mem_line_peers hpeer hslot, prepared, hclaim,
    preparedMatches_of_ready hready.1, hready.2.2⟩

theorem requestConsult_turn (hs : s.Inv P) (binding : SessionBinding) (ttl : Duration) (clock : Clock) :
    Turn .quiet s (s.requestConsult binding ttl clock).1 := by
  unfold requestConsult
  split
  · exact .refl hs
  next pending hok =>
    obtain ⟨hbinding, hmode, hvalid, hpeer, prepared, hclaim, hmatch, hprepared⟩ := consultChecks_ok hok
    obtain ⟨hepoch, hsame⟩ := preparedMatches_iff.mp hmatch
    have hline := line_claim_of_mem hs.claims (mem_claims_preparedClaim hclaim)
    have hmove := Move.consultAsked s.line hline hprepared hmode hsame hepoch.symm hpeer hvalid
    obtain ⟨h₁, -, h₃, h₄, h₅, h₆⟩ := vacant_of_preparedClaim hs.claims hclaim
    dsimp only at h₁ h₃ h₄ h₅ h₆
    refine ⟨by simp [claims, bumpRevision, fenceAutonomousAokieActions, h₁, h₄, h₅, h₆], ?_, .inl (.inl rfl)⟩
    simpa [line, claims, bumpRevision, fenceAutonomousAokieActions, hbinding, h₁, h₄, h₅, h₆] using hmove

lemma takeoverChecks_ok {ttl : Duration} {permit : RoutePermit} (h : s.takeoverChecks binding ttl clock = .ok permit) :
    permit.binding = binding ∧ binding.mode = .talk ∧ binding.validate = .ok () ∧ binding ∈ s.line.peers ∧
      ∃ prepared, s.preparedClaim = some prepared ∧ preparedMatches binding prepared = true := by
  simp only [takeoverChecks, bind_eq_ok_iff, ensure_eq_ok_iff, okOr_eq_ok_iff] at h
  obtain ⟨-, hmode, -, -, record, hlive, -, -, -, -, slot, hpeer, -, hslot, prepared, hclaim, -, hready, r, -,
    hpermit⟩ := h
  obtain ⟨-, -, -, rfl⟩ := RoutePermit.new_eq_ok_iff.mp hpermit
  exact ⟨rfl, hmode, (validateLiveBinding_ok hlive).1, mem_line_peers hpeer hslot, prepared, hclaim,
    preparedMatches_of_ready hready⟩

theorem requestTakeoverGuarded_turn (hs : s.Inv P) (binding : SessionBinding) (ttl : Duration)
    (transferGuard : Option TransferActivationGuard) (clock : Clock) :
    Turn .quiet s (s.requestTakeoverGuarded binding ttl transferGuard clock).1 := by
  unfold requestTakeoverGuarded
  split
  · exact .refl hs
  next permit hok =>
    obtain ⟨hbinding, hmode, hvalid, hpeer, prepared, hclaim, hmatch⟩ := takeoverChecks_ok hok
    obtain ⟨hepoch, hsame⟩ := preparedMatches_iff.mp hmatch
    have hline := line_claim_of_mem hs.claims (mem_claims_preparedClaim hclaim)
    have hmove := Move.routeAsked s.line hline hmode hsame hepoch.symm hpeer hvalid
    obtain ⟨h₁, -, h₃, h₄, h₅, h₆⟩ := vacant_of_preparedClaim hs.claims hclaim
    dsimp only at h₁ h₃ h₄ h₅ h₆
    refine ⟨by simp [claims, bumpRevision, fenceAutonomousAokieActions, h₁, h₃, h₄, h₆], ?_, .inl (.inl rfl)⟩
    simpa [line, claims, bumpRevision, fenceAutonomousAokieActions, hbinding, h₁, h₃, h₄, h₆] using hmove

/-- Two states that differ in deadlines and observations only. -/
structure Alike (s s' : RemoteMediaState) : Prop where
  calls : s'.calls = s.calls
  nextCallEpoch : s'.nextCallEpoch = s.nextCallEpoch
  currentCallId : s'.currentCallId = s.currentCallId
  currentCallActive : s'.currentCallActive = s.currentCallActive
  serviceMode : s'.serviceMode = s.serviceMode
  peers : s'.peers.map (·.binding) = s.peers.map (·.binding)
  returnBinding : s'.returnBinding = s.returnBinding
  microphone : s'.microphoneMuteBinding = s.microphoneMuteBinding
  revision : s'.remoteRevision = s.remoteRevision
  pendingPrepare : s'.pendingPrepare.map (·.binding) = s.pendingPrepare.map (·.binding)
  preparedClaim :
    s'.preparedClaim.map (fun p => Claim.prepared p.provisionalBinding p.confirmedOwnerEpoch p.activeMediaBinding) =
    s.preparedClaim.map (fun p =>
      Claim.prepared p.provisionalBinding p.confirmedOwnerEpoch p.activeMediaBinding)
  pendingConsult : s'.pendingConsult.map (·.binding) = s.pendingConsult.map (·.binding)
  activeConsult : s'.activeConsult.map (·.binding) = s.activeConsult.map (·.binding)
  pendingRoute : s'.pendingRoute.map (·.permit.binding) = s.pendingRoute.map (·.permit.binding)
  activeRoute : s'.activeRoute.map (·.permit.binding) = s.activeRoute.map (·.permit.binding)

namespace Alike

lemma refl (s : RemoteMediaState) : Alike s s := by
  constructor <;> rfl

lemma claims (h : Alike s s') : s'.claims = s.claims := by
  have hmap (t : RemoteMediaState) : t.claims =
      ((t.pendingPrepare.map (·.binding)).map Claim.preparing).toList ++
      (t.preparedClaim.map fun p =>
        Claim.prepared p.provisionalBinding p.confirmedOwnerEpoch p.activeMediaBinding).toList ++
      ((t.pendingConsult.map (·.binding)).map Claim.consultPending).toList ++
      ((t.activeConsult.map (·.binding)).map Claim.consultActive).toList ++
      ((t.pendingRoute.map (·.permit.binding)).map Claim.routePending).toList ++
      ((t.activeRoute.map (·.permit.binding)).map Claim.routeActive).toList := by
    simp only [RemoteMediaState.claims, Option.map_map, Function.comp_def]
  rw [hmap, hmap, h.pendingPrepare, h.preparedClaim, h.pendingConsult, h.activeConsult, h.pendingRoute, h.activeRoute]

lemma line (h : Alike s s') : s'.line = s.line := by
  simp [RemoteMediaState.line, h.claims, h.calls, h.nextCallEpoch, h.currentCallId, h.currentCallActive, h.serviceMode,
    h.peers, h.returnBinding, h.microphone]

lemma trans {s'' : RemoteMediaState} (h : Alike s s') (h' : Alike s' s'') : Alike s s'' := by
  constructor
  · exact h'.calls.trans h.calls
  · exact h'.nextCallEpoch.trans h.nextCallEpoch
  · exact h'.currentCallId.trans h.currentCallId
  · exact h'.currentCallActive.trans h.currentCallActive
  · exact h'.serviceMode.trans h.serviceMode
  · exact h'.peers.trans h.peers
  · exact h'.returnBinding.trans h.returnBinding
  · exact h'.microphone.trans h.microphone
  · exact h'.revision.trans h.revision
  · exact h'.pendingPrepare.trans h.pendingPrepare
  · exact h'.preparedClaim.trans h.preparedClaim
  · exact h'.pendingConsult.trans h.pendingConsult
  · exact h'.activeConsult.trans h.activeConsult
  · exact h'.pendingRoute.trans h.pendingRoute
  · exact h'.activeRoute.trans h.activeRoute

lemma turn (h : Alike s s') (hs : s.Inv P) : Turn .quiet s s' where
  claims := h.claims ▸ hs.claims
  move := h.line ▸ .still _
  revision := .inr ⟨h.line, h.revision⟩

lemma turn_bump (h : Alike s s') (hs : s.Inv P) : Turn .quiet s s'.bumpRevision where
  claims := by
    rw [claims_bumpRevision, h.claims]
    exact hs.claims
  move := by
    rw [line_bumpRevision, h.line]
    exact .still _
  revision := .inl (risen_bumpRevision h.revision)

end Alike

lemma map_update {α β : Type} {o : Option α} {p : α → Prop} [DecidablePred p] {f : α → α} {g : α → β}
    (h : ∀ a, g (f a) = g a) : (o.map fun a => if p a then f a else a).map g = o.map g := by
  rw [Option.map_map]
  refine Option.map_congr fun a _ => ?_
  dsimp only [Function.comp]
  split
  · exact h a
  · rfl

lemma renewRoute_alike {permit : RoutePermit} (hpermit : permit.binding = binding) :
    Alike s (s.renewRoute binding permit) := by
  unfold renewRoute
  split
  next hactive =>
    obtain ⟨route, hroute, hbinding⟩ := Option.any_eq_true _ _ |>.mp hactive
    exact { Alike.refl s with activeRoute := by simp [hroute, hpermit, of_decide_eq_true hbinding] }
  next =>
    refine { Alike.refl s with pendingRoute := ?_ }
    obtain hnone | ⟨pending, hpending⟩ := s.pendingRoute.eq_none_or_eq_some
    · simp [hnone]
    · by_cases hbinding : pending.permit.binding = binding <;> simp [hpending, hbinding, hpermit]

lemma renewConsult_alike (s : RemoteMediaState) (binding : SessionBinding) (expiresAt : Instant) :
    Alike s (s.renewConsult binding expiresAt) :=
  { Alike.refl s with
    pendingConsult := map_update fun _ => rfl
    activeConsult := map_update fun _ => rfl }

/-- A renewal moves deadlines only. -/
theorem renew_turn (hs : s.Inv P) (binding : SessionBinding) (ttl : Duration) (clock : Clock) :
    Turn .quiet s (s.renew binding ttl clock).1 := by
  unfold renew
  split
  · exact .refl hs
  dsimp only
  split
  · exact .refl hs
  split
  · exact .refl hs
  · have hrenewed : Alike s { s with
          peers := s.peers.map fun slot =>
            if slot.binding.rtcSessionId = binding.rtcSessionId then { slot with leaseExpiresAt := clock.now + ttl }
            else slot
          preparedClaim := s.preparedClaim.map fun prepared =>
            if prepared.provisionalBinding.SameClaim binding then { prepared with expiresAt := clock.now + ttl }
            else prepared } := by
      refine { Alike.refl s with peers := ?_, preparedClaim := map_update fun _ => rfl }
      rw [List.map_map]
      refine List.map_congr_left fun slot _ => ?_
      dsimp only [Function.comp]
      split <;> rfl
    split
    · split
      · exact hrenewed.turn hs
      next permit hpermit =>
        obtain ⟨-, -, -, hnew⟩ := RoutePermit.new_eq_ok_iff.mp hpermit
        have hbinding : permit.binding = binding := by rw [hnew]
        exact ((hrenewed.trans (renewRoute_alike hbinding)).trans (renewConsult_alike _ _ _)).turn_bump hs
    · exact (hrenewed.trans (renewConsult_alike _ _ _)).turn_bump hs

lemma ownsRoute_iff (h : s.claims.length ≤ 1) :
    s.ownsRoute binding = true ↔ ∃ c, s.line.claim = some c ∧ c.holdsCaller = true ∧ c.binding = binding := by
  rcases slots_of_claims h with hv | ⟨x, hx, hv⟩ | ⟨x, hx, hv⟩ | ⟨x, hx, hv⟩ | ⟨x, hx, hv⟩ | ⟨x, hx, hv⟩ |
      ⟨x, hx, hv⟩ <;>
  · obtain ⟨h₁, h₂, h₃, h₄, h₅, h₆⟩ := hv
    simp_all [ownsRoute, line, claims, Claim.holdsCaller, Claim.binding]

lemma exists_claim_of_waiting (h : s.claims.length ≤ 1)
    (hwaiting : s.pendingConsult.isSome = true ∨ s.pendingPrepare.isSome = true ∨ s.preparedClaim.isSome = true) :
    ∃ c, s.line.claim = some c ∧ c.holdsCaller = false := by
  rcases slots_of_claims h with hv | ⟨x, hx, hv⟩ | ⟨x, hx, hv⟩ | ⟨x, hx, hv⟩ | ⟨x, hx, hv⟩ | ⟨x, hx, hv⟩ |
      ⟨x, hx, hv⟩ <;>
  · obtain ⟨h₁, h₂, h₃, h₄, h₅, h₆⟩ := hv
    simp_all [line, claims, Claim.holdsCaller]

lemma revokeChecks_ok {needsReturn : Bool} (h : s.revokeChecks binding = .ok needsReturn) :
    s.ownsRoute binding = needsReturn ∧ (needsReturn = false →
      s.pendingConsult.isSome = true ∨ s.pendingPrepare.isSome = true ∨ s.preparedClaim.isSome = true) := by
  simp only [revokeChecks, bind_eq_ok_iff, ensure_eq_ok_iff, pure_eq_ok_iff] at h
  obtain ⟨-, -, -, howns, rfl⟩ := h
  refine ⟨rfl, ?_⟩
  intro hfalse
  simp only [hfalse, Bool.false_or, Bool.or_eq_true] at howns
  rcases howns with (hany | hany) | hany
  · exact .inl (Option.isSome_of_any hany)
  · exact .inr (.inl (Option.isSome_of_any hany))
  · exact .inr (.inr (Option.isSome_of_any hany))

lemma peersWithout_sublist (s : RemoteMediaState) (rtcSessionId : String) :
    ((s.peersWithout rtcSessionId).map (·.binding)).Sublist s.line.peers :=
  map_filter_sublist s _

theorem requestRevoke_turn (hs : s.Inv P) (binding : SessionBinding) (reason : String) :
    Turn .quiet s (s.requestRevoke binding reason).1 := by
  unfold requestRevoke
  split
  · exact .refl hs
  next needsReturn hok =>
    obtain ⟨howns, hwaiting⟩ := revokeChecks_ok hok
    dsimp only
    rw [clearBindingObservations_eq]
    cases needsReturn with
    | true =>
        obtain ⟨c, hclaim, hholds, rfl⟩ := (ownsRoute_iff hs.claims).mp howns
        exact .yield hclaim hholds ⟨rfl, rfl, rfl⟩ rfl (List.Sublist.refl _) rfl rfl ⟨rfl, rfl, rfl, rfl, rfl, rfl⟩
          (.inl rfl)
    | false =>
        obtain ⟨c, hclaim, hholds⟩ := exists_claim_of_waiting hs.claims (hwaiting rfl)
        simp only [Bool.false_eq_true, if_false, cancelClaim]
        rw [fenceCancelledBinding_eq]
        refine .cancel hclaim hholds ⟨rfl, rfl, rfl⟩ (hs.callsRise_fence ?_ _) (peersWithout_sublist s _)
          (.inl rfl) rfl ⟨rfl, rfl, rfl, rfl, rfl, rfl⟩ (.inl rfl)
        rfl

lemma waiting_eq_none_of_holdsCaller (h : s.claims.length ≤ 1) {c : Claim} (hclaim : s.line.claim = some c)
    (hholds : c.holdsCaller = true) :
    s.pendingPrepare = none ∧ s.preparedClaim = none ∧ s.pendingConsult = none := by
  refine ⟨?_, ?_, ?_⟩ <;>
  · by_contra hsome
    obtain ⟨c', hclaim', hwaits⟩ := exists_claim_of_waiting h (by simp [Option.isSome_iff_ne_none, hsome])
    obtain rfl := Option.some.inj (hclaim.symm.trans hclaim')
    exact absurd hholds (by simp [hwaits])

lemma Inv.eq_of_rtcSessionId (hs : s.Inv P) {b b' : SessionBinding} (hb : b ∈ s.line.peers) (hb' : b' ∈ s.line.peers)
    (hrtc : b.rtcSessionId = b'.rtcSessionId) : b = b' :=
  List.inj_on_of_nodup_map hs.line.distinct hb hb' hrtc

lemma Inv.seat_of_ne (hs : s.Inv P) {c : Claim} (hclaim : c ∈ s.line.claim) (hseat : c.isSeated = true)
    {rtcSessionId : String} (hne : c.binding.rtcSessionId ≠ rtcSessionId) :
    c.binding ∈ (s.peersWithout rtcSessionId).map (·.binding) := by
  obtain ⟨slot, hslot, hbinding⟩ := List.mem_map.mp ((hs.line.claim c hclaim).seated hseat)
  refine List.mem_map.mpr ⟨slot, List.mem_filter.mpr ⟨hslot, ?_⟩, hbinding⟩
  rw [hbinding]
  exact decide_eq_true hne

theorem closePeer_turn (hs : s.Inv P) (rtcSessionId reason : String) :
    Turn .quiet s (s.closePeer rtcSessionId reason).1 := by
  unfold closePeer
  split
  · exact .refl hs
  next slot hpeer =>
    obtain ⟨hslot, hrtc⟩ := mem_of_peer hpeer
    dsimp only
    rw [clearBindingObservations_eq]
    have howns (muted : Option SessionBinding) :
        ownsRoute { s with peers := s.peersWithout rtcSessionId, microphoneMuteBinding := muted } slot.binding =
          s.ownsRoute slot.binding := rfl
    simp only [howns]
    cases hroute : s.ownsRoute slot.binding with
    | true =>
        obtain ⟨c, hclaim, hholds, hbinding⟩ := (ownsRoute_iff hs.claims).mp hroute
        obtain ⟨h₁, h₂, h₃⟩ := waiting_eq_none_of_holdsCaller hs.claims hclaim hholds
        simp only [if_true]
        rw [clearBindingObservations_eq, ← hbinding]
        refine .yield hclaim hholds ⟨rfl, rfl, rfl⟩ rfl (peersWithout_sublist s _) rfl rfl
          ⟨?_, ?_, ?_, rfl, rfl, rfl⟩ (.inl rfl) <;>
        simp [bumpRevision, beginReturn, h₁, h₂, h₃]
    | false =>
        simp only [Bool.false_eq_true, if_false]
        split
        next hwaits =>
          have hslots : (if s.pendingPrepare.any (·.binding.rtcSessionId = rtcSessionId) then none
                else s.pendingPrepare) = none ∧
              (if !preservesPreparedClaim reason &&
                  s.preparedClaim.any (·.provisionalBinding.rtcSessionId = rtcSessionId) then none
                else s.preparedClaim) = none ∧
              (if s.pendingConsult.any (·.binding.rtcSessionId = rtcSessionId) then none
                else s.pendingConsult) = none ∧
              (s.activeConsult = none ∧ s.pendingRoute = none ∧ s.activeRoute = none) ∧
              (s.pendingConsult.isSome = true ∨ s.pendingPrepare.isSome = true ∨ s.preparedClaim.isSome = true) := by
            rw [Bool.or_eq_true, Bool.or_eq_true] at hwaits
            rcases hwaits with (hany | hany) | hany
            · obtain ⟨x, hx, -⟩ := Option.any_eq_true _ _ |>.mp hany
              obtain ⟨h₁, h₂, -, h₄, h₅, h₆⟩ := vacant_of_pendingConsult hs.claims hx
              dsimp only at h₁ h₂ h₄ h₅ h₆
              rw [if_pos hany]
              simp [h₁, h₂, h₄, h₅, h₆, hx]
            · obtain ⟨x, hx, -⟩ := Option.any_eq_true _ _ |>.mp hany
              obtain ⟨-, h₂, h₃, h₄, h₅, h₆⟩ := vacant_of_pendingPrepare hs.claims hx
              dsimp only at h₂ h₃ h₄ h₅ h₆
              rw [if_pos hany]
              simp [h₂, h₃, h₄, h₅, h₆, hx]
            · obtain ⟨x, hx, -⟩ := Option.any_eq_true _ _ |>.mp (Bool.and_elim_right hany)
              obtain ⟨h₁, -, h₃, h₄, h₅, h₆⟩ := vacant_of_preparedClaim hs.claims hx
              dsimp only at h₁ h₃ h₄ h₅ h₆
              rw [if_pos hany]
              simp [h₁, h₃, h₄, h₅, h₆, hx]
          obtain ⟨h₁, h₂, h₃, ⟨h₄, h₅, h₆⟩, hwaiting⟩ := hslots
          obtain ⟨c, hclaim, hholds⟩ := exists_claim_of_waiting hs.claims hwaiting
          rw [cancelClaim, fenceCancelledBinding_eq]
          refine .cancel hclaim hholds ⟨rfl, rfl, rfl⟩ (hs.callsRise_fence ?_ _) (peersWithout_sublist s _)
            (.inl rfl) rfl
            ⟨h₁, h₂, h₃, h₄, h₅, h₆⟩ (.inl rfl)
          rfl
        next hidle =>
          simp only [Bool.or_eq_true, not_or, Bool.not_eq_true] at hidle
          obtain ⟨⟨hconsults, hprepares⟩, hprepared⟩ := hidle
          simp only [hconsults, hprepares, hprepared, Bool.false_eq_true, if_false]
          refine ⟨hs.claims, .left s.line _ (peersWithout_sublist s _) ?_, .inl (.inl rfl)⟩
          intro c hc hseat
          refine hs.seat_of_ne hc hseat ?_
          intro hsame
          have hbinding : c.binding = slot.binding := hs.eq_of_rtcSessionId ((hs.line.claim c hc).seated hseat)
            (List.mem_map_of_mem hslot) (hsame.trans hrtc.symm)
          have hmem : c ∈ s.claims := List.mem_of_head? hc
          cases hholds : c.holdsCaller with
          | true =>
              have howner := (ownsRoute_iff hs.claims).mpr ⟨c, hc, hholds, hbinding⟩
              rw [hroute] at howner
              cases howner
          | false =>
              cases c with
              | preparing b =>
                  obtain ⟨pending, hpending, rfl⟩ : ∃ x, s.pendingPrepare = some x ∧ x.binding = b := by
                    simpa [claims] using hmem
                  rw [hpending] at hprepares
                  exact absurd hsame (of_decide_eq_false hprepares)
              | consultPending b =>
                  obtain ⟨pending, hpending, rfl⟩ : ∃ x, s.pendingConsult = some x ∧ x.binding = b := by
                    simpa [claims] using hmem
                  rw [hpending] at hconsults
                  exact absurd hsame (of_decide_eq_false hconsults)
              | prepared b n m => cases hseat
              | consultActive b | routePending b | routeActive b => cases hholds

lemma takeRoute_spec (h : s.claims.length ≤ 1) :
    { s with peers := [], microphoneMuteBinding := none, pendingPrepare := none, preparedClaim := none,
             pendingConsult := none }.takeRoute =
      ({ s.clearClaims with peers := [], microphoneMuteBinding := none },
        (s.line.claim.filter Claim.holdsCaller).map (·.binding)) := by
  rcases slots_of_claims h with hv | ⟨x, hx, hv⟩ | ⟨x, hx, hv⟩ | ⟨x, hx, hv⟩ | ⟨x, hx, hv⟩ | ⟨x, hx, hv⟩ |
      ⟨x, hx, hv⟩ <;>
  · obtain ⟨h₁, h₂, h₃, h₄, h₅, h₆⟩ := hv
    simp_all [takeRoute, clearClaims, line, claims, Claim.binding, Claim.holdsCaller, Option.filter]

lemma cancelledBinding_eq (h : s.claims.length ≤ 1) :
    s.cancelledBinding = (s.line.claim.filter fun c => !c.holdsCaller).map (·.current) := by
  rcases slots_of_claims h with hv | ⟨x, hx, hv⟩ | ⟨x, hx, hv⟩ | ⟨x, hx, hv⟩ | ⟨x, hx, hv⟩ | ⟨x, hx, hv⟩ |
      ⟨x, hx, hv⟩ <;>
  · obtain ⟨h₁, h₂, h₃, h₄, h₅, h₆⟩ := hv
    simp_all [cancelledBinding, line, claims, Claim.binding, Claim.current, Claim.holdsCaller, Option.filter]

theorem failClosedAll_turn (hs : s.Inv P) (reason : String) : Turn .quiet s (s.failClosedAll reason).1 := by
  simp only [failClosedAll, takeRoute_spec hs.claims, cancelledBinding_eq hs.claims]
  obtain hclaim | ⟨c, hclaim⟩ := s.line.claim.eq_none_or_eq_some
  · simp only [hclaim, Option.filter_none, Option.map_none]
    have hvacant : s.Vacant := vacant_of_claims (List.head?_eq_none_iff.mp hclaim)
    refine ⟨claims_le_of_vacant ⟨rfl, rfl, rfl, rfl, rfl, rfl⟩, ?_, .inl (.inl rfl)⟩
    convert Move.left s.line none (List.nil_sublist _) (by simp [hclaim]) using 1
    obtain ⟨h₁, h₂, h₃, h₄, h₅, h₆⟩ := hvacant
    simp [line, bumpRevision, clearClaims, claims, h₁, h₂, h₃, h₄, h₅, h₆]
  cases hholds : c.holdsCaller with
  | true =>
      simp only [hclaim, hholds, Option.filter_some, if_true, Option.map_some]
      exact .yield hclaim hholds ⟨rfl, rfl, rfl⟩ rfl (List.nil_sublist _) rfl rfl
        ⟨rfl, rfl, rfl, rfl, rfl, rfl⟩ (.inl rfl)
  | false =>
      simp only [hclaim, hholds, Option.filter_some, Bool.false_eq_true, if_false, Bool.not_false, if_true,
        Option.map_some, Option.map_none, cancelClaim]
      rw [fenceCancelledBinding_eq]
      refine .cancel hclaim hholds ⟨rfl, rfl, rfl⟩ (hs.callsRise_fence ?_ _) (List.nil_sublist _) (.inl rfl) rfl
        ⟨rfl, rfl, rfl, rfl, rfl, rfl⟩ (.inl rfl)
      rfl

section Lapse

/-! What a look at the clock does to the one claim: nothing, or it ends it. -/

variable {now : Instant}

lemma lapseConsult_of_none (h : s.activeConsult = none) : s.lapseConsult now = s := by
  simp [lapseConsult, h]

lemma lapseRoute_of_none (h : s.activeRoute = none) : s.lapseRoute now = s := by
  simp [lapseRoute, h]

lemma lapsePendingRoute_of_none (h : s.pendingRoute = none) : s.lapsePendingRoute now = s := by
  simp [lapsePendingRoute, h]

lemma lapsePendingConsult_of_none (h : s.pendingConsult = none) : s.lapsePendingConsult now = s := by
  simp [lapsePendingConsult, h]

lemma lapsePrepare_of_none (h : s.pendingPrepare = none) : s.lapsePrepare now = s := by
  simp [lapsePrepare, h]

lemma lapsePrepared_of_none (h : s.preparedClaim = none) : s.lapsePrepared now = s := by
  simp [lapsePrepared, h]

/-- A claim that came to its end: the caller is on the way back, or the claim never held it. -/
structure Ended (c : Claim) (s s' : RemoteMediaState) : Prop where
  call : SameCall s s'
  peers : (s'.peers.map (·.binding)).Sublist s.line.peers
  vacant : s'.Vacant
  revision : s'.remoteRevision = advance s.remoteRevision
  outcome :
    (c.holdsCaller = true ∧ s'.calls = s.calls ∧ s'.returnBinding = some c.binding ∧
      s'.serviceMode = .returningToAokie) ∨
    (c.holdsCaller = false ∧ CallsRise s.calls s'.calls ∧ s'.returnBinding = s.returnBinding ∧
      s'.serviceMode = .aokieActive)

lemma ended_beginReturn {u : RemoteMediaState} {c : Claim} (hholds : c.holdsCaller = true) (hcall : SameCall s u)
    (hcalls : u.calls = s.calls) (hpeers : u.peers = s.peers) (hrevision : u.remoteRevision = s.remoteRevision)
    (hvacant : u.Vacant) (reason : String) : Ended c s (u.beginReturn c.binding reason).bumpRevision where
  call := ⟨hcall.1, hcall.2, hcall.3⟩
  peers := hpeers ▸ List.Sublist.refl _
  vacant := ⟨hvacant.1, hvacant.2, hvacant.3, hvacant.4, hvacant.5, hvacant.6⟩
  revision := hrevision ▸ rfl
  outcome := .inl ⟨hholds, hcalls, rfl, rfl⟩

lemma ended_cancelClaim (hs : s.Inv P) {t u : RemoteMediaState} (ht : t.calls = s.calls) {c : Claim}
    (hholds : c.holdsCaller = false) (hcall : SameCall t u) (hcalls : u.calls = s.calls)
    (hpeers : (u.peers.map (·.binding)).Sublist t.line.peers) (hreturn : u.returnBinding = t.returnBinding)
    (hrevision : u.remoteRevision = t.remoteRevision) (hvacant : u.Vacant) (binding : SessionBinding) :
    Ended c t (u.cancelClaim binding).bumpRevision := by
  have hfence := hs.callsRise_fence hcalls binding
  rw [← ht] at hfence
  rw [cancelClaim, fenceCancelledBinding_eq]
  refine ⟨⟨hcall.1, hcall.2, hcall.3⟩, hpeers, ⟨hvacant.1, hvacant.2, hvacant.3, hvacant.4, hvacant.5, hvacant.6⟩, ?_,
    .inr ⟨hholds, hfence, hreturn, rfl⟩⟩
  rw [remoteRevision_bumpRevision, ← hrevision]

section Slots

variable (hs : s.Inv P) {t : RemoteMediaState} (ht : t.calls = s.calls)

lemma lapseConsult_spec {active : ActiveConsult} (h : t.activeConsult = some active)
    (hv : { t with activeConsult := none }.Vacant) (now : Instant) :
    (t.lapseConsult now = t ∧ now < active.expiresAt ∧ t.peerExpired active.binding.rtcSessionId now = false) ∨
    Ended (.consultActive active.binding) t (t.lapseConsult now) := by
  simp only [lapseConsult, h]
  split
  next htimeout =>
    split at htimeout
    · cases htimeout
    next hlive => exact .inl ⟨rfl, by simpa using hlive⟩
  next reason _ =>
    right
    rw [clearBindingObservations_eq]
    apply ended_beginReturn (c := .consultActive active.binding)
    exacts [rfl, ⟨rfl, rfl, rfl⟩, rfl, rfl, rfl, ⟨hv.1, hv.2, hv.3, hv.4, hv.5, hv.6⟩]

lemma lapseRoute_spec {active : ActiveRoute} (h : t.activeRoute = some active)
    (hv : { t with activeRoute := none }.Vacant) (now : Instant) :
    (t.lapseRoute now = t ∧ now < active.permit.expiresAt ∧
      t.peerExpired active.permit.binding.rtcSessionId now = false) ∨
    Ended (.routeActive active.permit.binding) t (t.lapseRoute now) := by
  simp only [lapseRoute, h]
  split
  next htimeout =>
    split at htimeout
    · cases htimeout
    next hlive => exact .inl ⟨rfl, by simpa [RoutePermit.isCurrentFor] using hlive⟩
  next reason _ =>
    right
    rw [clearBindingObservations_eq]
    apply ended_beginReturn (c := .routeActive active.permit.binding)
    exacts [rfl, ⟨rfl, rfl, rfl⟩, rfl, rfl, rfl, ⟨hv.1, hv.2, hv.3, hv.4, hv.5, hv.6⟩]

lemma lapsePendingRoute_spec {pending : PendingRoute} (h : t.pendingRoute = some pending)
    (hv : { t with pendingRoute := none }.Vacant) (now : Instant) :
    (t.lapsePendingRoute now = t ∧ now < pending.permit.expiresAt ∧
      t.peerExpired pending.permit.binding.rtcSessionId now = false) ∨
    Ended (.routePending pending.permit.binding) t (t.lapsePendingRoute now) := by
  simp only [lapsePendingRoute, h]
  split
  · right
    apply ended_beginReturn (c := .routePending pending.permit.binding)
    exacts [rfl, ⟨rfl, rfl, rfl⟩, rfl, rfl, rfl, ⟨hv.1, hv.2, hv.3, hv.4, hv.5, hv.6⟩]
  next hlive =>
    simp only [not_or, RoutePermit.isCurrentFor, Bool.not_eq_false, Bool.and_eq_true, decide_eq_true_eq,
      Bool.not_eq_true] at hlive
    exact .inl ⟨rfl, hlive.1.1, hlive.2.1⟩

include hs ht

lemma lapsePendingConsult_spec {pending : PendingConsult} (h : t.pendingConsult = some pending)
    (hv : { t with pendingConsult := none }.Vacant) (now : Instant) :
    (t.lapsePendingConsult now = t ∧ now < pending.expiresAt ∧
      t.peerExpired pending.binding.rtcSessionId now = false) ∨
    Ended (.consultPending pending.binding) t (t.lapsePendingConsult now) := by
  simp only [lapsePendingConsult, h]
  split
  · right
    apply ended_cancelClaim hs ht
    exacts [rfl, ⟨rfl, rfl, rfl⟩, ht, peersWithout_sublist t _, rfl, rfl, ⟨hv.1, hv.2, hv.3, hv.4, hv.5, hv.6⟩]
  next hlive => exact .inl ⟨rfl, by simpa using hlive⟩

lemma lapsePrepare_spec {pending : PendingPrepare} (h : t.pendingPrepare = some pending)
    (hv : { t with pendingPrepare := none }.Vacant) (now : Instant) :
    (t.lapsePrepare now = t ∧ t.peerExpired pending.binding.rtcSessionId now = false) ∨
    Ended (.preparing pending.binding) t (t.lapsePrepare now) := by
  simp only [lapsePrepare, h]
  split
  · right
    apply ended_cancelClaim hs ht
    exacts [rfl, ⟨rfl, rfl, rfl⟩, ht, peersWithout_sublist t _, rfl, rfl, ⟨hv.1, hv.2, hv.3, hv.4, hv.5, hv.6⟩]
  next hlive =>
    simp only [not_or, Bool.not_eq_true] at hlive
    exact .inl ⟨rfl, hlive.2⟩

lemma lapsePrepared_spec {prepared : PreparedClaim} (h : t.preparedClaim = some prepared)
    (hv : { t with preparedClaim := none }.Vacant) (now : Instant) :
    t.lapsePrepared now = t ∨
    Ended (.prepared prepared.provisionalBinding prepared.confirmedOwnerEpoch prepared.activeMediaBinding) t
      (t.lapsePrepared now) := by
  simp only [lapsePrepared, h]
  split
  · right
    apply ended_cancelClaim hs ht
    exacts [rfl, ⟨rfl, rfl, rfl⟩, ht, peersWithout_sublist t _, rfl, rfl, ⟨hv.1, hv.2, hv.3, hv.4, hv.5, hv.6⟩]
  · exact .inl rfl

end Slots

structure Unlapsed (now : Instant) (s : RemoteMediaState) : Prop where
  seat : ∀ c ∈ s.line.claim, c.isSeated = true → s.peerExpired c.binding.rtcSessionId now = false
  activeConsult : ∀ active, s.activeConsult = some active → now < active.expiresAt
  activeRoute : ∀ active, s.activeRoute = some active → now < active.permit.expiresAt
  pendingRoute : ∀ pending, s.pendingRoute = some pending → now < pending.permit.expiresAt
  pendingConsult : ∀ pending, s.pendingConsult = some pending → now < pending.expiresAt

theorem lapse_spec (hs : s.Inv P) {t : RemoteMediaState} (ht : t.calls = s.calls) (hclaims : t.claims.length ≤ 1)
    (now : Instant) :
    (t.lapse now = t ∧ t.Unlapsed now) ∨ ∃ c, t.line.claim = some c ∧ Ended c t (t.lapse now) := by
  -- the look at the one slot that holds a claim decides; the others are empty before and after it
  rcases slots_of_claims hclaims with hv | ⟨x, hx, hv⟩ | ⟨x, hx, hv⟩ | ⟨x, hx, hv⟩ | ⟨x, hx, hv⟩ |
      ⟨x, hx, hv⟩ | ⟨x, hx, hv⟩
  · left
    refine ⟨?_, ?_, by simp [hv.activeConsult], by simp [hv.activeRoute], by simp [hv.pendingRoute],
      by simp [hv.pendingConsult]⟩
    · simp only [lapse, lapseConsult_of_none hv.4, lapseRoute_of_none hv.6, lapsePendingRoute_of_none hv.5,
        lapsePendingConsult_of_none hv.3, lapsePrepare_of_none hv.1, lapsePrepared_of_none hv.2]
    · rw [line_claim_of_vacant hv]
      exact nofun
  · have hclaim := line_claim_of_mem hclaims (c := .preparing x.binding)
      (by simp [claims, hx])
    have hspec := lapsePrepare_spec hs ht hx hv now
    obtain ⟨-, h₂, h₃, h₄, h₅, h₆⟩ := hv
    dsimp only at h₂ h₃ h₄ h₅ h₆
    rcases hspec with ⟨hstay, hpeer⟩ | hended
    · left
      refine ⟨?_, ?_, by simp [h₄], by simp [h₆], by simp [h₅], by simp [h₃]⟩
      · simp only [lapse, lapseConsult_of_none h₄, lapseRoute_of_none h₆, lapsePendingRoute_of_none h₅,
          lapsePendingConsult_of_none h₃, hstay, lapsePrepared_of_none h₂]
      · intro c hc hseat
        obtain rfl := Option.some.inj (hclaim.symm.trans hc)
        exact hpeer
    · right
      refine ⟨_, hclaim, ?_⟩
      simpa only [lapse, lapseConsult_of_none h₄, lapseRoute_of_none h₆, lapsePendingRoute_of_none h₅,
        lapsePendingConsult_of_none h₃, lapsePrepared_of_none hended.vacant.preparedClaim] using hended
  · have hclaim :=
        line_claim_of_mem hclaims (c := .prepared x.provisionalBinding x.confirmedOwnerEpoch x.activeMediaBinding)
      (by simp [claims, hx])
    have hspec := lapsePrepared_spec hs ht hx hv now
    obtain ⟨h₁, -, h₃, h₄, h₅, h₆⟩ := hv
    dsimp only at h₁ h₃ h₄ h₅ h₆
    rcases hspec with hstay | hended
    · left
      refine ⟨?_, ?_, by simp [h₄], by simp [h₆], by simp [h₅], by simp [h₃]⟩
      · simp only [lapse, lapseConsult_of_none h₄, lapseRoute_of_none h₆, lapsePendingRoute_of_none h₅,
          lapsePendingConsult_of_none h₃, lapsePrepare_of_none h₁, hstay]
      · intro c hc hseat
        obtain rfl := Option.some.inj (hclaim.symm.trans hc)
        cases hseat
    · right
      refine ⟨_, hclaim, ?_⟩
      simpa only [lapse, lapseConsult_of_none h₄, lapseRoute_of_none h₆, lapsePendingRoute_of_none h₅,
        lapsePendingConsult_of_none h₃, lapsePrepare_of_none h₁] using hended
  · have hclaim := line_claim_of_mem hclaims (c := .consultPending x.binding)
      (by simp [claims, hx])
    have hspec := lapsePendingConsult_spec hs ht hx hv now
    obtain ⟨h₁, h₂, -, h₄, h₅, h₆⟩ := hv
    dsimp only at h₁ h₂ h₄ h₅ h₆
    rcases hspec with ⟨hstay, hlive, hpeer⟩ | hended
    · left
      refine ⟨?_, ?_, by simp [h₄], by simp [h₆], by simp [h₅], ?_⟩
      · simp only [lapse, lapseConsult_of_none h₄, lapseRoute_of_none h₆, lapsePendingRoute_of_none h₅, hstay,
          lapsePrepare_of_none h₁, lapsePrepared_of_none h₂]
      · intro c hc hseat
        obtain rfl := Option.some.inj (hclaim.symm.trans hc)
        exact hpeer
      · intro y hy
        obtain rfl := Option.some.inj (hx.symm.trans hy)
        exact hlive
    · right
      refine ⟨_, hclaim, ?_⟩
      simpa only [lapse, lapseConsult_of_none h₄, lapseRoute_of_none h₆, lapsePendingRoute_of_none h₅,
        lapsePrepare_of_none hended.vacant.pendingPrepare, lapsePrepared_of_none hended.vacant.preparedClaim] using
        hended
  · have hclaim := line_claim_of_mem hclaims (c := .consultActive x.binding)
      (by simp [claims, hx])
    have hspec := lapseConsult_spec hx hv now
    obtain ⟨h₁, h₂, h₃, -, h₅, h₆⟩ := hv
    dsimp only at h₁ h₂ h₃ h₅ h₆
    rcases hspec with ⟨hstay, hlive, hpeer⟩ | hended
    · left
      refine ⟨?_, ?_, ?_, by simp [h₆], by simp [h₅], by simp [h₃]⟩
      · simp only [lapse, hstay, lapseRoute_of_none h₆, lapsePendingRoute_of_none h₅, lapsePendingConsult_of_none h₃,
          lapsePrepare_of_none h₁, lapsePrepared_of_none h₂]
      · intro c hc hseat
        obtain rfl := Option.some.inj (hclaim.symm.trans hc)
        exact hpeer
      · intro y hy
        obtain rfl := Option.some.inj (hx.symm.trans hy)
        exact hlive
    · right
      refine ⟨_, hclaim, ?_⟩
      simpa only [lapse, lapseRoute_of_none hended.vacant.activeRoute,
        lapsePendingRoute_of_none hended.vacant.pendingRoute, lapsePendingConsult_of_none hended.vacant.pendingConsult,
        lapsePrepare_of_none hended.vacant.pendingPrepare, lapsePrepared_of_none hended.vacant.preparedClaim] using
        hended
  · have hclaim := line_claim_of_mem hclaims (c := .routePending x.permit.binding)
      (by simp [claims, hx])
    have hspec := lapsePendingRoute_spec hx hv now
    obtain ⟨h₁, h₂, h₃, h₄, -, h₆⟩ := hv
    dsimp only at h₁ h₂ h₃ h₄ h₆
    rcases hspec with ⟨hstay, hlive, hpeer⟩ | hended
    · left
      refine ⟨?_, ?_, by simp [h₄], by simp [h₆], ?_, by simp [h₃]⟩
      · simp only [lapse, lapseConsult_of_none h₄, lapseRoute_of_none h₆, hstay, lapsePendingConsult_of_none h₃,
          lapsePrepare_of_none h₁, lapsePrepared_of_none h₂]
      · intro c hc hseat
        obtain rfl := Option.some.inj (hclaim.symm.trans hc)
        exact hpeer
      · intro y hy
        obtain rfl := Option.some.inj (hx.symm.trans hy)
        exact hlive
    · right
      refine ⟨_, hclaim, ?_⟩
      simpa only [lapse, lapseConsult_of_none h₄, lapseRoute_of_none h₆,
        lapsePendingConsult_of_none hended.vacant.pendingConsult, lapsePrepare_of_none hended.vacant.pendingPrepare,
        lapsePrepared_of_none hended.vacant.preparedClaim] using hended
  · have hclaim := line_claim_of_mem hclaims (c := .routeActive x.permit.binding)
      (by simp [claims, hx])
    have hspec := lapseRoute_spec hx hv now
    obtain ⟨h₁, h₂, h₃, h₄, h₅, -⟩ := hv
    dsimp only at h₁ h₂ h₃ h₄ h₅
    rcases hspec with ⟨hstay, hlive, hpeer⟩ | hended
    · left
      refine ⟨?_, ?_, by simp [h₄], ?_, by simp [h₅], by simp [h₃]⟩
      · simp only [lapse, lapseConsult_of_none h₄, hstay, lapsePendingRoute_of_none h₅, lapsePendingConsult_of_none h₃,
          lapsePrepare_of_none h₁, lapsePrepared_of_none h₂]
      · intro c hc hseat
        obtain rfl := Option.some.inj (hclaim.symm.trans hc)
        exact hpeer
      · intro y hy
        obtain rfl := Option.some.inj (hx.symm.trans hy)
        exact hlive
    · right
      refine ⟨_, hclaim, ?_⟩
      simpa only [lapse, lapseConsult_of_none h₄, lapsePendingRoute_of_none hended.vacant.pendingRoute,
        lapsePendingConsult_of_none hended.vacant.pendingConsult, lapsePrepare_of_none hended.vacant.pendingPrepare,
        lapsePrepared_of_none hended.vacant.preparedClaim] using hended

lemma expirePeers_eq (s : RemoteMediaState) (now : Instant) :
    s.expirePeers now = { s with
      peers := s.peers.filter (now < ·.leaseExpiresAt), remoteRevision := (s.expirePeers now).remoteRevision } := by
  unfold expirePeers
  split
  next hall =>
    have hfilter : s.peers.filter (now < ·.leaseExpiresAt) = s.peers := List.filter_eq_self.mpr (by simpa using hall)
    rw [hfilter]
  · rfl

lemma expirePeers_revision (s : RemoteMediaState) (now : Instant) :
    (s.expirePeers now).remoteRevision = advance s.remoteRevision ∨ s.expirePeers now = s := by
  unfold expirePeers
  split
  · exact .inr rfl
  · exact .inl rfl

lemma dispatch_alike (s : RemoteMediaState) : Alike s s.dispatch.1 := by
  unfold dispatch
  split
  · split <;> exact { Alike.refl s with }
  · split
    next pending hpending =>
      exact { Alike.refl s with pendingRoute := by simp [(Option.filter_eq_some_iff.mp hpending).1] }
    next pending _ hpending =>
      exact { Alike.refl s with pendingConsult := by simp [(Option.filter_eq_some_iff.mp hpending).1] }
    next pending _ _ hpending =>
      exact { Alike.refl s with pendingPrepare := by simp [(Option.filter_eq_some_iff.mp hpending).1] }
    · exact { Alike.refl s with }

lemma Ended.turn {t : RemoteMediaState} {c : Claim} (hclaim : s.line.claim = some c) (hcall : SameCall s t)
    (hcalls : t.calls = s.calls) (hpeers : (t.peers.map (·.binding)).Sublist s.line.peers)
    (hreturn : t.returnBinding = s.returnBinding) (hended : Ended c t s') (hrevision : s.Risen s') :
      Turn .quiet s s' := by
  have hcall' : SameCall s s' := ⟨hended.call.1.trans hcall.1, hended.call.2.trans hcall.2, hended.call.3.trans hcall.3⟩
  rcases hended.outcome with ⟨hholds, hsame, hreturning, hmode⟩ | ⟨hholds, hrise, hkeep, hmode⟩
  · exact .yield hclaim hholds hcall' (hsame.trans hcalls) (hended.peers.trans hpeers) hreturning hmode hended.vacant
      hrevision
  · exact .cancel hclaim hholds hcall' (hcalls ▸ hrise) (hended.peers.trans hpeers) (.inl (hkeep.trans hreturn)) hmode
      hended.vacant hrevision

lemma Inv.seat_of_unlapsed (hs : s.Inv P) {c : Claim} (hclaim : c ∈ s.line.claim) (hseat : c.isSeated = true)
    {t : RemoteMediaState} (hpeers : (t.peers.map (·.binding)).Sublist s.line.peers)
    (hlive : t.peerExpired c.binding.rtcSessionId now = false) : c.binding ∈ t.peers.map (·.binding) := by
  obtain ⟨slot, hslot, -⟩ := Option.all_eq_false _ _ |>.mp hlive
  obtain ⟨hmem, hrtc⟩ := mem_of_peer hslot
  have hbinding : slot.binding = c.binding := hs.eq_of_rtcSessionId (hpeers.mem (List.mem_map_of_mem hmem))
    ((hs.line.claim c hclaim).seated hseat) hrtc
  exact hbinding ▸ List.mem_map_of_mem hmem

theorem nextRadioTransition_turn (hs : s.Inv P) (clock : Clock) : Turn .quiet s (s.nextRadioTransition clock).1 := by
  have heq := expirePeers_eq s clock.now
  have hrev := expirePeers_revision s clock.now
  have hsub := map_filter_sublist s fun slot => clock.now < slot.leaseExpiresAt
  set t := s.expirePeers clock.now with ht
  have hpeers : (t.peers.map (·.binding)).Sublist s.line.peers := by
    rw [heq]
    exact hsub
  have hclaims : t.claims = s.claims := by
    rw [heq]
    rfl
  have hclaim : t.line.claim = s.line.claim := congrArg List.head? hclaims
  have hcalls : t.calls = s.calls := by rw [heq]
  have hcall : SameCall s t := by
    rw [heq]
    exact ⟨rfl, rfl, rfl⟩
  have halike : Alike (t.lapse clock.now) (s.nextRadioTransition clock).1 := dispatch_alike _
  suffices hturn : Turn .quiet s (t.lapse clock.now) by
    refine ⟨halike.claims ▸ hturn.claims, halike.line ▸ hturn.move, ?_⟩
    rw [halike.line, Risen, halike.revision]
    exact hturn.revision
  rcases lapse_spec hs hcalls (hclaims ▸ hs.claims) clock.now with ⟨hstay, hlive⟩ | ⟨c, hc, hended⟩
  · rw [hstay]
    refine ⟨hclaims ▸ hs.claims, ?_, ?_⟩
    · have hmove := Move.left s.line s.microphoneMuteBinding hpeers ?_
      · rw [heq] at hmove ⊢
        exact hmove
      · intro c hc hseat
        exact hs.seat_of_unlapsed hc hseat hpeers (hlive.seat c (hclaim ▸ hc) hseat)
    · rcases hrev with hrev | hrev
      · exact .inl (.inl hrev)
      · exact .inr (by rw [hrev]; exact ⟨rfl, rfl⟩)
  · refine hended.turn (hclaim ▸ hc) hcall hcalls hpeers (by rw [heq]) ?_
    rw [Risen, hended.revision]
    rcases hrev with hrev | hrev
    · exact .inr (by rw [hrev])
    · exact .inl (by rw [hrev])

end Lapse

end RemoteMediaState

end Aokie.Plugin.RemoteMedia
