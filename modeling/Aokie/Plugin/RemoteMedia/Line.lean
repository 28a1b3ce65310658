import Aokie.Plugin.RemoteMedia.Operations

/-! The line behind the media state: one caller, one claim on it, and the moves by which the claim is made, kept,
given back or lost. The six claim slots of the state hold at most one claim, and the line is what they show. -/

namespace Aokie.Plugin.RemoteMedia

open Aokie.Lib Aokie.Media

/-- A claim on the caller, from the receive-only preparation to the open route. -/
inductive Claim
  | preparing (binding : SessionBinding)
  | prepared (binding : SessionBinding) (confirmed : ℕ) (media : Option SessionBinding)
  | consultPending (binding : SessionBinding)
  | consultActive (binding : SessionBinding)
  | routePending (binding : SessionBinding)
  | routeActive (binding : SessionBinding)
  deriving DecidableEq

namespace Claim

def binding : Claim → SessionBinding
  | preparing binding | prepared binding _ _ | consultPending binding | consultActive binding
  | routePending binding | routeActive binding => binding

/-- The binding its media go by: a prepared claim moves on to that of its active peer. -/
def current : Claim → SessionBinding
  | prepared binding _ media => media.getD binding
  | claim => claim.binding

def holdsCaller : Claim → Bool
  | consultActive _ | routePending _ | routeActive _ => true
  | _ => false

def isSeated : Claim → Bool
  | prepared _ _ _ => false
  | _ => true

def mode : Claim → Option ServiceMode
  | consultPending _ => some .consultPending
  | consultActive _ => some .consultActive
  | routePending _ => some .humanPending
  | routeActive _ => some .humanActive
  | _ => none

end Claim

structure Line where
  calls : String → Option CallRecord
  nextCallEpoch : ℕ
  call : Option String
  active : Bool
  mode : ServiceMode
  peers : List SessionBinding
  claim : Option Claim
  returning : Option SessionBinding
  muted : Option SessionBinding

namespace RemoteMediaState

variable (s : RemoteMediaState)

def claims : List Claim :=
  (s.pendingPrepare.map fun pending => Claim.preparing pending.binding).toList ++
  (s.preparedClaim.map fun prepared =>
    Claim.prepared prepared.provisionalBinding prepared.confirmedOwnerEpoch prepared.activeMediaBinding).toList ++
  (s.pendingConsult.map fun pending => Claim.consultPending pending.binding).toList ++
  (s.activeConsult.map fun active => Claim.consultActive active.binding).toList ++
  (s.pendingRoute.map fun pending => Claim.routePending pending.permit.binding).toList ++
  (s.activeRoute.map fun active => Claim.routeActive active.permit.binding).toList

def line : Line where
  calls := s.calls
  nextCallEpoch := s.nextCallEpoch
  call := s.currentCallId
  active := s.currentCallActive
  mode := s.serviceMode
  peers := s.peers.map (·.binding)
  claim := s.claims.head?
  returning := s.returnBinding
  muted := s.microphoneMuteBinding

@[mk_iff] structure Vacant : Prop where
  pendingPrepare : s.pendingPrepare = none
  preparedClaim : s.preparedClaim = none
  pendingConsult : s.pendingConsult = none
  activeConsult : s.activeConsult = none
  pendingRoute : s.pendingRoute = none
  activeRoute : s.activeRoute = none

variable {s}

lemma slots_of_claims (h : s.claims.length ≤ 1) :
    s.Vacant ∨
    (∃ pending, s.pendingPrepare = some pending ∧ { s with pendingPrepare := none }.Vacant) ∨
    (∃ prepared, s.preparedClaim = some prepared ∧ { s with preparedClaim := none }.Vacant) ∨
    (∃ pending, s.pendingConsult = some pending ∧ { s with pendingConsult := none }.Vacant) ∨
    (∃ active, s.activeConsult = some active ∧ { s with activeConsult := none }.Vacant) ∨
    (∃ pending, s.pendingRoute = some pending ∧ { s with pendingRoute := none }.Vacant) ∨
    (∃ active, s.activeRoute = some active ∧ { s with activeRoute := none }.Vacant) := by
  cases h₁ : s.pendingPrepare <;> cases h₂ : s.preparedClaim <;> cases h₃ : s.pendingConsult <;>
    cases h₄ : s.activeConsult <;> cases h₅ : s.pendingRoute <;> cases h₆ : s.activeRoute <;>
    simp [claims, h₁, h₂, h₃, h₄, h₅, h₆] at h <;> simp [vacant_iff, h₁, h₂, h₃, h₄, h₅, h₆]

end RemoteMediaState

def CallsRise (calls calls' : String → Option CallRecord) : Prop :=
  ∀ c, calls' c = calls c ∨ ∃ e o o', calls c = some ⟨e, o⟩ ∧ calls' c = some ⟨e, o'⟩ ∧ o ≤ o' ∧ o' ≤ u64Max

/-- The call table after a call came to the line: old calls may be forgotten, a new one gets the next epoch. -/
def CallsAdmit (calls calls' : String → Option CallRecord) (next next' : ℕ) : Prop :=
  (∀ c r, calls' c = some r → calls c = some r ∨ (calls c = none ∧ next' = advance next ∧ r = ⟨next', 0⟩)) ∧
    (next' = next ∨ next' = advance next)

namespace Line

def Live (l : Line) (binding : SessionBinding) : Prop :=
  l.call = some binding.callId ∧ ∃ o, l.calls binding.callId = some ⟨binding.callEpoch, o⟩

/-- The binding names the call on the line and its owner epoch is the call's. -/
def Owned (l : Line) (binding : SessionBinding) : Prop :=
  l.call = some binding.callId ∧ l.calls binding.callId = some ⟨binding.callEpoch, binding.ownerEpoch⟩

def Fresh (l : Line) (binding : SessionBinding) : Prop :=
  ∀ p ∈ l.peers, p.rtcSessionId ≠ binding.rtcSessionId

lemma Owned.live {l : Line} {binding : SessionBinding} (h : l.Owned binding) : l.Live binding := ⟨h.1, _, h.2⟩

end Line

inductive Mark
  | quiet
  | changed
  | held
  | acknowledged (binding : SessionBinding)
  | entered (binding : SessionBinding)
  | returned
  deriving DecidableEq

inductive Move : Mark → Line → Line → Prop
  | still (l : Line) : Move .quiet l l
  | heard (l : Line) (active : Bool) (muted : Option SessionBinding) : Move .quiet l { l with active, muted }
  | left (l : Line) {peers : List SessionBinding} (muted : Option SessionBinding) (hpeers : peers.Sublist l.peers)
      (hseat : ∀ c ∈ l.claim, c.isSeated = true → c.binding ∈ peers) : Move .quiet l { l with peers, muted }
  | monitored (l : Line) {b : SessionBinding} (hmode : b.mode = .monitor) (hfresh : l.Fresh b) :
      Move .quiet l { l with peers := b :: l.peers }
  | provisioned (l : Line) {b : SessionBinding} (hnone : l.claim = none) (hmode : b.mode.isPrepared = true)
      (halone : ∀ p ∈ l.peers, p.mode = .monitor) (hfresh : l.Fresh b) : Move .quiet l { l with peers := b :: l.peers }
  | rebound (l : Line) {p b : SessionBinding} {n : ℕ} {m : Option SessionBinding}
      (hclaim : l.claim = some (.prepared p n m)) (hmode : b.mode = p.mode.active) (hsame : p.SameClaim b)
      (hfresh : l.Fresh b) :
      Move .quiet l { l with peers := b :: l.peers, claim := some (.prepared p n (some b)) }
  | held (l : Line) {b : SessionBinding} (hnone : l.claim = none) (hpeer : b ∈ l.peers)
      (hmode : b.mode.isPrepared = true) (hvalid : b.validate = .ok ()) (hlive : l.Live b) :
      Move .held l { l with claim := some (.preparing b), mode := .aokieActive }
  | confirmed (l : Line) {b : SessionBinding} (hclaim : l.claim = some (.preparing b)) (howned : l.Owned b) :
      Move (.acknowledged b) l { l with
        calls := Function.update l.calls b.callId (some ⟨b.callEpoch, b.ownerEpoch + 1⟩)
        claim := some (.prepared b (b.ownerEpoch + 1) none)
        mode := .aokieActive }
  | consultAsked (l : Line) {p b : SessionBinding} {n : ℕ} {m : Option SessionBinding}
      (hclaim : l.claim = some (.prepared p n m)) (hprepared : p.mode = .preparedConsult) (hmode : b.mode = .consult)
      (hsame : p.SameClaim b) (howner : b.ownerEpoch = n) (hpeer : b ∈ l.peers) (hvalid : b.validate = .ok ()) :
      Move .quiet l { l with claim := some (.consultPending b), mode := .consultPending }
  | routeAsked (l : Line) {p b : SessionBinding} {n : ℕ} {m : Option SessionBinding}
      (hclaim : l.claim = some (.prepared p n m)) (hmode : b.mode = .talk)
      (hsame : p.SameClaim b) (howner : b.ownerEpoch = n) (hpeer : b ∈ l.peers) (hvalid : b.validate = .ok ()) :
      Move .quiet l { l with claim := some (.routePending b), mode := .humanPending }
  | consultEntered (l : Line) {b : SessionBinding} (hclaim : l.claim = some (.consultPending b)) :
      Move .quiet l { l with claim := some (.consultActive b), mode := .consultActive }
  | routeEntered (l : Line) {b : SessionBinding} (hclaim : l.claim = some (.routePending b)) :
      Move (.entered b) l { l with claim := some (.routeActive b), mode := .humanActive }
  | yielded (l : Line) {c : Claim} {peers : List SessionBinding} (muted : Option SessionBinding)
      (hclaim : l.claim = some c) (hholds : c.holdsCaller = true) (hpeers : peers.Sublist l.peers) :
      Move .quiet l { l with peers, muted, claim := none, returning := some c.binding, mode := .returningToAokie }
  | cancelled (l : Line) {c : Claim} {calls : String → Option CallRecord} {peers : List SessionBinding}
      (muted : Option SessionBinding) {returning : Option SessionBinding} (hclaim : l.claim = some c)
      (hholds : c.holdsCaller = false) (hcalls : CallsRise l.calls calls) (hpeers : peers.Sublist l.peers)
      (hreturning : returning = l.returning ∨ returning = none) :
      Move .quiet l { l with calls, peers, muted, returning, claim := none, mode := .aokieActive }
  | changed (l : Line) {call : Option String} (active : Bool) {calls : String → Option CallRecord} {next : ℕ}
      (hcall : l.call ≠ call) (hknown : ∀ c, call = some c → (calls c).isSome = true)
      (hcalls : CallsAdmit l.calls calls l.nextCallEpoch next) :
      Move .changed l
        { calls, nextCallEpoch := next, call, active, peers := [], claim := none, muted := none
          returning := l.claim.map (·.binding)
          mode := if l.claim.isSome then .recovering else .aokieActive }
  | returned (l : Line) {b : SessionBinding} {calls : String → Option CallRecord} (muted : Option SessionBinding)
      (hreturning : l.returning = some b) (hcalls : CallsRise l.calls calls) :
      Move .returned l { l with calls, muted, claim := none, returning := none, mode := .aokieActive }

/-- The claim was prepared for the same lease, and the radio acknowledged the preparation. -/
def Continues (P : SessionBinding → Prop) (mode : MediaMode) (b : SessionBinding) : Prop :=
  ∃ p, P p ∧ p.mode = mode ∧ p.SameClaim b

/-- What is known of a claim on the line; `P` are the preparations the radio acknowledged. -/
def Claim.Sound (P : SessionBinding → Prop) (l : Line) : Claim → Prop
  | .preparing b => b.validate = .ok () ∧ b.mode.isPrepared = true ∧ b ∈ l.peers ∧ l.Live b
  | .prepared b n m => b.validate = .ok () ∧ b.mode.isPrepared = true ∧ P b ∧
      (∀ b' ∈ m, b'.mode = b.mode.active) ∧ (∀ p ∈ l.peers, p.mode ≠ .monitor → p.rtcSessionId = b.rtcSessionId) ∧
      l.call = some b.callId ∧ l.calls b.callId = some ⟨b.callEpoch, n⟩
  | .consultPending b | .consultActive b =>
      b.mode = .consult ∧ Continues P .preparedConsult b ∧ b ∈ l.peers ∧ l.Owned b
  | .routePending b | .routeActive b =>
      b.mode = .talk ∧ Continues P .preparedTalk b ∧ b.validate = .ok () ∧ b ∈ l.peers ∧ l.Owned b

/-- The service mode says which claim there is, or that the caller is on the way back. -/
def Line.ModeFits (l : Line) : Prop :=
  match l.claim.bind Claim.mode with
  | some mode => l.mode = mode
  | none => l.mode = .aokieActive ∨ ((l.mode = .returningToAokie ∨ l.mode = .recovering) ∧ l.returning.isSome = true)

structure Line.Sound (P : SessionBinding → Prop) (l : Line) : Prop where
  bounded : l.nextCallEpoch ≤ u64Max
  records : ∀ c r, l.calls c = some r → r.ownerEpoch ≤ u64Max ∧ r.callEpoch ≤ l.nextCallEpoch
  known : ∀ c, l.call = some c → (l.calls c).isSome = true
  distinct : (l.peers.map (·.rtcSessionId)).Nodup
  single : ∀ b ∈ l.peers, ∀ b' ∈ l.peers, b.mode ≠ .monitor → b'.mode ≠ .monitor → b = b'
  claim : ∀ c ∈ l.claim, c.Sound P l
  mode : l.ModeFits

section Preservation

variable {P : SessionBinding → Prop} {l l' : Line} {c : Claim}

lemma Continues.mono {Q : SessionBinding → Prop} (hPQ : ∀ b, P b → Q b) {mode : MediaMode} {b : SessionBinding}
    (h : Continues P mode b) : Continues Q mode b := by
  obtain ⟨p, hp, hrest⟩ := h
  exact ⟨p, hPQ p hp, hrest⟩

lemma Claim.Sound.mono {Q : SessionBinding → Prop} (hPQ : ∀ b, P b → Q b) (h : c.Sound P l) : c.Sound Q l := by
  cases c with
  | preparing b => exact h
  | prepared b n m =>
      obtain ⟨hvalid, hmode, hp, hrest⟩ := h
      exact ⟨hvalid, hmode, hPQ b hp, hrest⟩
  | consultPending b | consultActive b | routePending b | routeActive b =>
      obtain ⟨hmode, hcontinues, hrest⟩ := h
      exact ⟨hmode, hcontinues.mono hPQ, hrest⟩

lemma Claim.Sound.seated (h : c.Sound P l) (hseat : c.isSeated = true) : c.binding ∈ l.peers := by
  cases c with
  | preparing b => exact h.2.2.1
  | prepared b n m => cases hseat
  | consultPending b | consultActive b => exact h.2.2.1
  | routePending b | routeActive b => exact h.2.2.2.1

lemma Claim.Sound.live (h : c.Sound P l) : l.Live c.binding := by
  cases c with
  | preparing b => exact h.2.2.2
  | prepared b n m => exact ⟨h.2.2.2.2.2.1, n, h.2.2.2.2.2.2⟩
  | consultPending b | consultActive b => exact h.2.2.2.live
  | routePending b | routeActive b => exact h.2.2.2.2.live

lemma Line.Sound.mono {Q : SessionBinding → Prop} (hPQ : ∀ b, P b → Q b) (h : l.Sound P) : l.Sound Q :=
  { h with claim := fun c hc => (h.claim c hc).mono hPQ }

lemma Claim.Sound.of_peers (h : c.Sound P l) (hcall : l'.call = l.call) (hcalls : l'.calls = l.calls)
    (hpeers : ∀ p ∈ l'.peers, p.mode ≠ .monitor → p ∈ l.peers) (hseat : c.isSeated = true → c.binding ∈ l'.peers) :
    c.Sound P l' := by
  cases c with
  | preparing b =>
      obtain ⟨hvalid, hmode, -, hlive⟩ := h
      exact ⟨hvalid, hmode, hseat rfl, by rwa [Line.Live, hcall, hcalls]⟩
  | prepared b n m =>
      obtain ⟨hvalid, hmode, hp, hmedia, hrtc, hline⟩ := h
      refine ⟨hvalid, hmode, hp, hmedia, ?_, by rwa [hcall, hcalls]⟩
      intro p hmem hclaimant
      exact hrtc p (hpeers p hmem hclaimant) hclaimant
  | consultPending b | consultActive b =>
      obtain ⟨hmode, hcontinues, -, howned⟩ := h
      exact ⟨hmode, hcontinues, hseat rfl, by rwa [Line.Owned, hcall, hcalls]⟩
  | routePending b | routeActive b =>
      obtain ⟨hmode, hcontinues, hvalid, -, howned⟩ := h
      exact ⟨hmode, hcontinues, hvalid, hseat rfl, by rwa [Line.Owned, hcall, hcalls]⟩

lemma Line.Sound.records_of_rise (h : l.Sound P) {calls : String → Option CallRecord} (hcalls : CallsRise l.calls calls)
    (c : String) (r : CallRecord) (hr : calls c = some r) : r.ownerEpoch ≤ u64Max ∧ r.callEpoch ≤ l.nextCallEpoch := by
  rcases hcalls c with hsame | ⟨e, o, o', hold, hnew, -, hle⟩
  · exact h.records c r (hsame ▸ hr)
  · obtain rfl : r = ⟨e, o'⟩ := Option.some.inj (hr.symm.trans hnew)
    exact ⟨hle, (h.records c _ hold).2⟩

lemma Line.Sound.known_of_rise (h : l.Sound P) {calls : String → Option CallRecord} (hcalls : CallsRise l.calls calls)
    (c : String) (hc : l.call = some c) : (calls c).isSome = true := by
  rcases hcalls c with hsame | ⟨e, o, o', -, hnew, -⟩
  · exact hsame ▸ h.known c hc
  · rw [hnew]
    rfl

lemma Line.Sound.distinct_sublist (h : l.Sound P) {peers : List SessionBinding} (hpeers : peers.Sublist l.peers) :
    (peers.map (·.rtcSessionId)).Nodup := h.distinct.sublist (hpeers.map _)

lemma Line.Sound.single_sublist (h : l.Sound P) {peers : List SessionBinding} (hpeers : peers.Sublist l.peers) :
    ∀ b ∈ peers, ∀ b' ∈ peers, b.mode ≠ .monitor → b'.mode ≠ .monitor → b = b' :=
  fun b hb b' hb' => h.single b (hpeers.mem hb) b' (hpeers.mem hb')

lemma Line.Sound.distinct_cons (h : l.Sound P) {b : SessionBinding} (hfresh : l.Fresh b) :
    ((b :: l.peers).map (·.rtcSessionId)).Nodup := by
  rw [List.map_cons, List.nodup_cons]
  refine ⟨?_, h.distinct⟩
  rintro hmem
  obtain ⟨p, hp, hrtc⟩ := List.mem_map.mp hmem
  exact hfresh p hp hrtc

lemma Line.Sound.single_cons (h : l.Sound P) {b : SessionBinding}
    (halone : b.mode ≠ .monitor → ∀ p ∈ l.peers, p.mode = .monitor) :
    ∀ x ∈ b :: l.peers, ∀ y ∈ b :: l.peers, x.mode ≠ .monitor → y.mode ≠ .monitor → x = y := by
  intro x hx y hy hxm hym
  rcases List.mem_cons.mp hx with hxb | hx <;> rcases List.mem_cons.mp hy with hyb | hy
  · rw [hxb, hyb]
  · exact absurd (halone (hxb ▸ hxm) y hy) hym
  · exact absurd (halone (hyb ▸ hym) x hx) hxm
  · exact h.single x hx y hy hxm hym

/-- The line after every move of a sound one. -/
theorem Move.sound {mark : Mark} (hmove : Move mark l l') (h : l.Sound P) :
    l'.Sound fun b => P b ∨ mark = .acknowledged b := by
  have hP : ∀ b, P b → P b ∨ mark = .acknowledged b := fun b => .inl
  cases hmove with
  | still => exact h.mono hP
  | heard _ active muted =>
      refine Line.Sound.mono hP { h with claim := ?_, mode := h.mode }
      intro c hc
      have hsound := h.claim c hc
      exact hsound.of_peers rfl rfl (fun p hp _ => hp) hsound.seated
  | left _ muted hpeers hseat =>
      refine Line.Sound.mono hP { h with
        claim := ?_, mode := h.mode, distinct := h.distinct_sublist hpeers, single := h.single_sublist hpeers }
      intro c hc
      exact (h.claim c hc).of_peers rfl rfl (fun p hp _ => hpeers.mem hp) (hseat c hc)
  | @monitored _ b hmode hfresh =>
      refine Line.Sound.mono hP { h with
        claim := ?_, mode := h.mode, distinct := h.distinct_cons hfresh
        single := h.single_cons fun hclaimant => absurd hmode hclaimant }
      intro c hc
      have hsound := h.claim c hc
      refine hsound.of_peers rfl rfl ?_ fun hseat => List.mem_cons_of_mem _ (hsound.seated hseat)
      intro p hp hclaimant
      rcases List.mem_cons.mp hp with rfl | hp
      · exact absurd hmode hclaimant
      · exact hp
  | provisioned _ hnone hmode halone hfresh =>
      refine Line.Sound.mono hP { h with
        claim := ?_, mode := h.mode, distinct := h.distinct_cons hfresh, single := h.single_cons fun _ => halone }
      intro c hc
      rw [Option.mem_def, hnone] at hc
      cases hc
  | @rebound _ p b n m hclaim hmode hsame hfresh =>
      obtain ⟨hvalid, hprepared, hack, -, hrtc, hcall, hcalls⟩ := h.claim _ hclaim
      -- the peers that claim the caller carry the prepared session's identity, and that one is free
      have halone : ∀ q ∈ l.peers, q.mode = .monitor := by
        intro q hq
        by_contra hclaimant
        exact hfresh q hq ((hrtc q hq hclaimant).trans hsame.rtcSessionId)
      refine Line.Sound.mono hP { h with
        claim := ?_, mode := ?_, distinct := h.distinct_cons hfresh, single := h.single_cons fun _ => halone }
      · rintro c ⟨⟩
        refine ⟨hvalid, hprepared, hack, ?_, ?_, hcall, hcalls⟩
        · rintro b' ⟨⟩
          exact hmode
        · intro q hq hclaimant
          rcases List.mem_cons.mp hq with rfl | hq
          · exact hsame.rtcSessionId.symm
          · exact absurd (halone q hq) hclaimant
      · simpa [Line.ModeFits, hclaim, Claim.mode] using h.mode
  | held _ hnone hpeer hmode hvalid hlive =>
      refine Line.Sound.mono hP { h with claim := ?_, mode := .inl rfl }
      rintro c ⟨⟩
      exact ⟨hvalid, hmode, hpeer, hlive⟩
  | @confirmed _ b hclaim howned =>
      obtain ⟨hvalid, hmode, hpeer, -⟩ := h.claim _ hclaim
      have hbound : b.ownerEpoch + 1 ≤ u64Max := by
        have := (SessionBinding.validate_bounds hvalid).1.2
        simp only [maxSafeInteger, u64Max] at this ⊢
        omega
      refine { bounded := h.bounded, records := ?_, known := ?_, distinct := h.distinct, single := h.single,
               claim := ?_, mode := .inl rfl }
      · intro c r hr
        by_cases hc : c = b.callId
        · simp only [hc, Function.update_self, Option.some.injEq] at hr
          subst hr
          exact ⟨hbound, (h.records _ _ howned.2).2⟩
        · simp only [Function.update_of_ne hc] at hr
          exact h.records c r hr
      · intro c hc
        by_cases hcall : c = b.callId
        · simp [hcall]
        · simpa [Function.update_of_ne hcall] using h.known c hc
      · rintro c ⟨⟩
        refine ⟨hvalid, hmode, .inr rfl, by simp, ?_, howned.1, by simp⟩
        intro q hq hclaimant
        have hb : b.mode ≠ .monitor := by
          intro hmonitor
          simp [hmonitor, MediaMode.isPrepared] at hmode
        rw [h.single q hq b hpeer hclaimant hb]
  | @consultAsked _ p b n m hclaim hprepared hmode hsame howner hpeer hvalid =>
      obtain ⟨-, -, hack, -, -, hcall, hcalls⟩ := h.claim _ hclaim
      refine Line.Sound.mono hP { h with claim := ?_, mode := rfl }
      rintro c ⟨⟩
      refine ⟨hmode, ⟨p, hack, hprepared, hsame⟩, hpeer, ?_, ?_⟩
      · rw [← hsame.callId]
        exact hcall
      · rw [← hsame.callId, ← hsame.callEpoch, howner]
        exact hcalls
  | @routeAsked _ p b n m hclaim hmode hsame howner hpeer hvalid =>
      obtain ⟨hpvalid, hprepared, hack, -, -, hcall, hcalls⟩ := h.claim _ hclaim
      refine Line.Sound.mono hP { h with claim := ?_, mode := rfl }
      rintro c ⟨⟩
      refine ⟨hmode, ⟨p, hack, hsame.talk_of_prepared hpvalid hvalid hprepared hmode, hsame⟩, hvalid, hpeer, ?_, ?_⟩
      · rw [← hsame.callId]
        exact hcall
      · rw [← hsame.callId, ← hsame.callEpoch, howner]
        exact hcalls
  | consultEntered _ hclaim =>
      refine Line.Sound.mono hP { h with claim := ?_, mode := rfl }
      rintro c ⟨⟩
      exact h.claim _ hclaim
  | routeEntered _ hclaim =>
      refine Line.Sound.mono hP { h with claim := ?_, mode := rfl }
      rintro c ⟨⟩
      exact h.claim _ hclaim
  | yielded _ muted hclaim hholds hpeers =>
      exact Line.Sound.mono hP { h with
        claim := (by rintro c ⟨⟩), mode := .inr ⟨.inl rfl, rfl⟩
        distinct := h.distinct_sublist hpeers, single := h.single_sublist hpeers }
  | cancelled _ muted hclaim hholds hcalls hpeers hreturning =>
      exact Line.Sound.mono hP { h with
        records := h.records_of_rise hcalls, known := h.known_of_rise hcalls
        claim := (by rintro c ⟨⟩), mode := .inl rfl
        distinct := h.distinct_sublist hpeers, single := h.single_sublist hpeers }
  | @changed _ call active calls next hcall hknown hcalls =>
      refine Line.Sound.mono hP { bounded := ?_, records := ?_, known := hknown, distinct := .nil, single := by simp,
                                  claim := (by rintro c ⟨⟩), mode := ?_ }
      · rcases hcalls.2 with hnext | hnext
        · exact hnext ▸ h.bounded
        · exact hnext ▸ advance_le _
      · intro c r hr
        rcases hcalls.1 c r hr with hold | ⟨-, -, rfl⟩
        · obtain ⟨howner, hepoch⟩ := h.records c r hold
          refine ⟨howner, hepoch.trans ?_⟩
          rcases hcalls.2 with hnext | hnext
          · exact hnext.ge
          · exact (le_advance h.bounded).trans hnext.ge
        · exact ⟨Nat.zero_le _, le_rfl⟩
      · cases hclaim : l.claim <;> simp [Line.ModeFits]
  | returned _ muted hreturning hcalls =>
      exact Line.Sound.mono hP { h with
        records := h.records_of_rise hcalls, known := h.known_of_rise hcalls
        claim := (by rintro c ⟨⟩), mode := .inl rfl }

end Preservation

end Aokie.Plugin.RemoteMedia
