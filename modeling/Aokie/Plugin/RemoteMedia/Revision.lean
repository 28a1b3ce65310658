import Aokie.Plugin.RemoteMedia.Claims

/-! The revision as a version number: what a reader of the state sees changes only together with it. A consent that
closes peers and leaves every claim is the one turn that forgets to move it on. -/

namespace Aokie.Plugin.RemoteMedia

open Aokie.Lib Aokie.Media RemoteMediaState

structure Shown where
  call : Option String
  active : Bool
  ownerEpoch : Option ℕ
  mode : ServiceMode
  claims : List Claim
  peers : List SessionBinding
  muted : Option SessionBinding
  deriving DecidableEq

def RemoteMediaState.shown (s : RemoteMediaState) : Shown where
  call := s.currentCallId
  active := s.currentCallActive
  ownerEpoch := s.currentRecord.map (·.ownerEpoch)
  mode := s.serviceMode
  claims := s.claims
  peers := s.peers.map (·.binding)
  muted := s.microphoneMuteBinding

/-- The revision never falls in the run, and two states of it with one revision show the same. -/
def RevisionTells (is : List (Input × Clock)) : Prop :=
  ∀ i j, i ≤ j → j ≤ is.length →
    (step.final .initial (is.take i)).remoteRevision ≤ (step.final .initial (is.take j)).remoteRevision ∧
    ((step.final .initial (is.take i)).remoteRevision = (step.final .initial (is.take j)).remoteRevision →
      (step.final .initial (is.take i)).shown = (step.final .initial (is.take j)).shown)

def Input.consent : Input → Option RemoteConsentGate
  | .setRemoteConsent gate => some gate
  | _ => none

/-- A consent that closes a peer also ends a claim, and the counter is not at its end. -/
def RevisionSafe (s : RemoteMediaState) (i : Input × Clock) : Prop :=
  s.remoteRevision < u64Max ∧ ∀ gate ∈ i.1.consent,
    (∀ slot ∈ s.peers, gate.allows slot.binding.mode i.2.utc = true) ∨
    ∃ c ∈ s.claims, gate.allows c.current.mode i.2.utc = false

instance (s : RemoteMediaState) (i : Input × Clock) : Decidable (RevisionSafe s i) :=
  inferInstanceAs (Decidable (_ ∧ _))

section Revision

variable {P : SessionBinding → Prop} {s s' : RemoteMediaState}

lemma Inv.claims_eq (hs : s.claims.length ≤ 1) : s.claims = s.line.claim.toList := by
  rcases h : s.claims with _ | ⟨c, _ | ⟨c', rest⟩⟩
  · simp [line, h]
  · simp [line, h]
  · simp [h] at hs

lemma shown_eq_of_line (hs : s.claims.length ≤ 1) (hs' : s'.claims.length ≤ 1) (h : s'.line = s.line) :
    s'.shown = s.shown := by
  have hclaims : s'.claims = s.claims := by rw [Inv.claims_eq hs, Inv.claims_eq hs', h]
  have hcall : s'.currentCallId = s.currentCallId := congrArg Line.call h
  have hcalls : s'.calls = s.calls := congrArg Line.calls h
  simp only [shown, currentRecord, hclaims, hcall, hcalls]
  congr 1
  · exact congrArg Line.active h
  · exact congrArg Line.mode h
  · exact congrArg Line.peers h
  · exact congrArg Line.muted h

lemma lt_of_risen (h : s.Risen s') (hrev : s.remoteRevision < u64Max) : s.remoteRevision < s'.remoteRevision := by
  have hlt := lt_advance hrev
  rcases h with h | h
  · rwa [h]
  · rw [h]
    exact hlt.trans_le (le_advance (advance_le _))

lemma step_revision (hs : s.Inv P) (i : Input × Clock) (hi : RevisionSafe s i) :
    s.remoteRevision < (step s i).1.remoteRevision ∨
    (step s i).1.remoteRevision = s.remoteRevision ∧ (step s i).1.line = s.line := by
  obtain ⟨i, clock⟩ := i
  obtain ⟨hrev, hi⟩ := hi
  by_cases hconsent : ∃ gate, i = .setRemoteConsent gate
  · obtain ⟨gate, rfl⟩ := hconsent
    have hcut := setRemoteConsent_cutOff hs gate clock
    rcases hcut.revision with hrisen | ⟨hline, hsame⟩
    · exact .inl (lt_of_risen hrisen hrev)
    · refine .inr ⟨hsame, ?_⟩
      rcases hi gate rfl with hpeers | ⟨c, hc, hdenied⟩
      · have hkept : (s.setRemoteConsent gate clock).1.peers = s.peers := by
          rw [hcut.peers]
          exact List.filter_eq_self.mpr hpeers
        have hlinepeers : (s.setRemoteConsent gate clock).1.line.peers = s.line.peers := by
          simp only [line, hkept]
        rw [hlinepeers] at hline
        exact hline
      · have hclaim : (s.setRemoteConsent gate clock).1.line.claim = some c := by
          rw [hline]
          exact line_claim_of_mem hs.claims hc
        have hallowed := hcut.allowed c hclaim
        rw [hdenied] at hallowed
        cases hallowed
  · have hturn := step_turn hs i clock fun gate hgate => hconsent ⟨gate, hgate⟩
    rcases hturn.revision with hrisen | ⟨hline, hsame⟩
    · exact .inl (lt_of_risen hrisen hrev)
    · exact .inr ⟨hsame, hline⟩

lemma revision_final (hs : s.Inv P) {is : List (Input × Clock)} (h : step.Along RevisionSafe s is) :
    s.remoteRevision ≤ (step.final s is).remoteRevision ∧
    (s.remoteRevision = (step.final s is).remoteRevision → (step.final s is).line = s.line) := by
  induction is generalizing s P with
  | nil => exact ⟨le_rfl, fun _ => rfl⟩
  | cons i is ih =>
      obtain ⟨hi, his⟩ := h
      obtain ⟨hle, heq⟩ := ih (step_inv hs i) his
      rw [Machine.final_cons]
      rcases step_revision hs i hi with hlt | ⟨hsame, hline⟩
      · refine ⟨(hlt.trans_le hle).le, fun h => ?_⟩
        exact absurd h (hlt.trans_le hle).ne
      · rw [hsame] at hle heq
        exact ⟨hle, fun h => (heq h).trans hline⟩

end Revision

/-- While every consent that closes a peer ends a claim too, and the counter is not at its end, the revision tells one
state from another. -/
theorem revision_tells (is : List (Input × Clock)) (h : step.Along RevisionSafe .initial is) : RevisionTells is := by
  intro i j hij hj
  have htake : is.take j = is.take i ++ (is.take j).drop i := by
    conv_lhs => rw [← List.take_append_drop i (is.take j)]
    rw [List.take_take, min_eq_left hij]
  have halong : step.Along RevisionSafe .initial (is.take j) := by
    rw [← List.take_append_drop j is] at h
    exact (Machine.along_append.mp h).1
  rw [htake, Machine.along_append] at halong
  obtain ⟨hle, heq⟩ := revision_final (inv_reachable (is.take i)) halong.2
  rw [← Machine.final_append, ← htake] at hle heq
  refine ⟨hle, fun hsame => ?_⟩
  exact (shown_eq_of_line (inv_reachable _).claims (inv_reachable _).claims (heq hsame)).symm

def monitorBinding : SessionBinding := ⟨"r1", "c1", 1, 0, "d1", .monitor, some "l1", 0⟩

def monitorCutRun : List (Input × Clock) := atOnce
  [.setRemoteConsent openGate, .observeCall (some "c1") true, .insertPeer ⟨monitorBinding, seconds 100⟩ none,
   .setRemoteConsent { openGate with monitorEnabled := false }]

theorem revision_misses_closed_listener : ¬∀ is, RevisionTells is := by
  intro h
  have hsame := (h monitorCutRun 3 4 (by decide) (by decide)).2 (by decide)
  exact absurd hsame (by decide)

/-- The same run with a consent that still allows listening. -/
theorem revision_tells_of_kept_listener :
    RevisionTells (atOnce
      [.setRemoteConsent openGate, .observeCall (some "c1") true, .insertPeer ⟨monitorBinding, seconds 100⟩ none,
       .setRemoteConsent { openGate with takeoverEnabled := false }]) :=
  revision_tells _ (by decide)

end Aokie.Plugin.RemoteMedia
