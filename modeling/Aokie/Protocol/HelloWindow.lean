import Aokie.Protocol.ClaimChecks

/-! The endpoint challenge and the window of the hello proof that answers it, on two clocks that do not quite agree. -/

namespace Aokie.Protocol

open Aokie.Lib

def schemaVersion : ℕ := 2
def endpointChallengeLifetime : ℕ := 25

structure EndpointChallengeFrame where
  kind : String
  schemaVersion : ℕ
  appId : String
  subjectId : String
  role : AdmissionRole
  connectionId : String
  challengeNonce : String
  admissionJti : String
  holderKeyThumbprint : String
  expectedPeerKeyThumbprint : Option String
  approvedPeerKeyThumbprints : List String
  peerRosterRevision : Option ℕ
  peerRosterHash : Option String
  expiresAt : ℕ

namespace EndpointChallengeFrame

def validate (rosterHash : ℕ → List String → String) (c : EndpointChallengeFrame) (now : ℕ) :
    Except V2ProtocolError Unit := do
  exact "kind" c.kind "endpoint_challenge"
  check (c.schemaVersion = Protocol.schemaVersion) (.invalid "schemaVersion")
  checkSafeId "appId" c.appId
  checkSafeId "subjectId" c.subjectId
  checkSafeId "connectionId" c.connectionId
  checkSafeId "challengeNonce" c.challengeNonce
  checkSafeId "admissionJti" c.admissionJti
  checkSafeId "holderKeyThumbprint" c.holderKeyThumbprint
  validatePeerPolicy rosterHash c.role c.holderKeyThumbprint c.expectedPeerKeyThumbprint c.approvedPeerKeyThumbprints
    c.peerRosterRevision c.peerRosterHash
  safeInteger "expiresAt" c.expiresAt 1
  check (now < saturatingAdd c.expiresAt endpointProofClockSkew ∧
    c.expiresAt - now ≤ endpointProofMaxLifetime + endpointProofClockSkew) .expired

/-- The `(issuedAt, expiresAt)` that a peer signs into its hello proof. -/
def helloProofWindow (c : EndpointChallengeFrame) (localNow : ℕ) : ℕ × ℕ :=
  let gatewayMintedAt := max (c.expiresAt - endpointChallengeLifetime) 1
  let issuedAt := max (min localNow gatewayMintedAt) 1
  (issuedAt, min c.expiresAt (saturatingAdd issuedAt endpointProofMaxLifetime))

end EndpointChallengeFrame

def challengeExpiry (admissionExp : Option ℕ) (now : ℕ) : ℕ :=
  min (admissionExp.getD (now + endpointChallengeLifetime)) (now + endpointChallengeLifetime)

section Clocks

variable {rosterHash : ℕ → List String → String} {c : EndpointChallengeFrame} {admissionExp : Option ℕ}
    {minted moment localNow now : ℕ}

lemma validate_of_validate (hminted : c.validate rosterHash minted = .ok ())
    (hfresh : localNow < c.expiresAt + endpointProofClockSkew)
    (hnear : c.expiresAt ≤ localNow + (endpointProofMaxLifetime + endpointProofClockSkew)) :
      c.validate rosterHash localNow = .ok () := by
  simp only [EndpointChallengeFrame.validate, bind_eq_ok_iff, exact_eq_ok_iff, check_eq_ok_iff, checkSafeId_eq_ok_iff,
    safeInteger_eq_ok_iff]
    at hminted ⊢
  obtain ⟨_, hkind, _, hschema, _, happ, _, hsubject, _, hconnection, _, hnonce, _, hjti, _, hholder, _, hpolicy, _,
      hexpires, -⟩ := hminted
  refine ⟨(), hkind, (), hschema, (), happ, (), hsubject, (), hconnection, (), hnonce, (), hjti, (), hholder, (),
    hpolicy, (), hexpires, ?_, ?_⟩
  · obtain ⟨-, hmax⟩ := hexpires
    have hwide : maxSafeInteger + endpointProofClockSkew ≤ u64Max := by decide
    simp only [saturatingAdd]
    omega
  · omega

lemma expiresAt_of_validate (hminted : c.validate rosterHash minted = .ok ()) :
    1 ≤ c.expiresAt ∧ c.expiresAt ≤ maxSafeInteger := by
  simp only [EndpointChallengeFrame.validate, bind_eq_ok_iff, safeInteger_eq_ok_iff] at hminted
  obtain ⟨_, -, _, -, _, -, _, -, _, -, _, -, _, -, _, -, _, -, _, hexpires, -⟩ := hminted
  exact hexpires

lemma challengeExpiry_le (admissionExp : Option ℕ) (now : ℕ) :
    challengeExpiry admissionExp now ≤ now + endpointChallengeLifetime :=
  min_le_right _ _

lemma helloProofWindow_bounds (c : EndpointChallengeFrame) (localNow : ℕ) :
    1 ≤ (c.helloProofWindow localNow).1 ∧ (c.helloProofWindow localNow).1 ≤ max c.expiresAt 1 ∧
      (c.helloProofWindow localNow).2 ≤ c.expiresAt := by
  simp only [EndpointChallengeFrame.helloProofWindow]
  omega

lemma helloProofWindow_eq (hmint : c.expiresAt ≤ minted + endpointChallengeLifetime)
    (hmax : c.expiresAt ≤ maxSafeInteger)
    (hlife : minted ≤ moment) (hbehind : moment ≤ localNow + endpointProofClockSkew) :
    (c.helloProofWindow localNow).2 = c.expiresAt ∧
      (c.helloProofWindow localNow).1 ≤ max minted 1 ∧
        c.expiresAt ≤ (c.helloProofWindow localNow).1 + endpointProofMaxLifetime := by
  have hwide : maxSafeInteger + endpointProofMaxLifetime + 1 ≤ u64Max := by decide
  simp only [EndpointChallengeFrame.helloProofWindow, saturatingAdd, endpointChallengeLifetime, endpointProofClockSkew,
    endpointProofMaxLifetime] at *
  omega

/-- Within the skew a client takes a challenge during its whole life, and its proof stands until the challenge expires.
-/
theorem hello_stands_across_clocks (hmint : c.expiresAt = challengeExpiry admissionExp minted)
    (hminted : c.validate rosterHash minted = .ok ())
    (hlife : minted ≤ moment ∧ moment < c.expiresAt)
    (hskew : localNow ≤ moment + endpointProofClockSkew ∧ moment ≤ localNow + endpointProofClockSkew) :
    c.validate rosterHash localNow = .ok () ∧
      (2 ≤ c.expiresAt → ∀ now, moment ≤ now → now < c.expiresAt →
        validateSignatureWindow (c.helloProofWindow localNow).1 (c.helloProofWindow localNow).2 now = .ok ()) ∧
      ∀ (any : EndpointChallengeFrame) anyNow, 1 ≤ (any.helloProofWindow anyNow).1 ∧
        (any.helloProofWindow anyNow).1 ≤ max any.expiresAt 1 ∧ (any.helloProofWindow anyNow).2 ≤ any.expiresAt := by
  have hexpiry : c.expiresAt ≤ minted + endpointChallengeLifetime := hmint ▸ challengeExpiry_le admissionExp minted
  obtain ⟨hmin, hmax⟩ := expiresAt_of_validate hminted
  refine ⟨validate_of_validate hminted ?_ ?_, ?_, helloProofWindow_bounds⟩
  · omega
  · simp only [endpointChallengeLifetime, endpointProofClockSkew, endpointProofMaxLifetime] at *
    omega
  · intro htwo now hreceived hbefore
    obtain ⟨hexpires, hissued, hspan⟩ := helloProofWindow_eq hexpiry hmax hlife.1 hskew.2
    obtain ⟨hone, -, -⟩ := helloProofWindow_bounds c localNow
    simp only [validateSignatureWindow, bind_eq_ok_iff, safeInteger_eq_ok_iff, check_eq_ok_iff, hexpires]
    have hwide : maxSafeInteger + endpointProofClockSkew ≤ u64Max := by decide
    refine ⟨(), ⟨hone, ?_⟩, (), ⟨hmin, hmax⟩, ?_, ?_, ?_, hbefore⟩
    · omega
    · omega
    · omega
    · have hsum : now + endpointProofClockSkew ≤ u64Max := by omega
      have hsecond : 1 ≤ endpointProofClockSkew := by decide
      rw [saturatingAdd, min_eq_left hsum]
      omega

end Clocks

def sampleChallenge (expiresAt : ℕ) : EndpointChallengeFrame :=
  ⟨"endpoint_challenge", 2, "app", "phone", .mobile, "conn", "nonce", "jti", "mobile_key", some "plugin_key", [], none,
    none, expiresAt⟩

/-- Five seconds behind, at the last second of the challenge. -/
theorem late_hello_stands :
    validateSignatureWindow ((sampleChallenge 1025).helloProofWindow 1019).1
      ((sampleChallenge 1025).helloProofWindow 1019).2 1024 = .ok () := by
  have hstands := @hello_stands_across_clocks (fun _ _ => "") (sampleChallenge 1025) none 1000 1024 1019 rfl (by rfl)
      (by decide) (by decide)
  exact hstands.2.1 (by decide) 1024 le_rfl (by decide)

/-- In the first second of 1970 no proof can be dated. -/
theorem no_proof_in_the_first_second :
    ¬∀ (rosterHash : ℕ → List String → String) (c : EndpointChallengeFrame) (admissionExp : Option ℕ)
      (minted moment localNow : ℕ),
      c.expiresAt = challengeExpiry admissionExp minted → c.validate rosterHash minted = .ok () → minted ≤ moment ∧
        moment < c.expiresAt →
        localNow ≤ moment + endpointProofClockSkew ∧ moment ≤ localNow + endpointProofClockSkew →
          ∀ now, moment ≤ now → now < c.expiresAt →
            validateSignatureWindow (c.helloProofWindow localNow).1 (c.helloProofWindow localNow).2 now = .ok () := by
  intro hall
  have hstands := hall (fun _ _ => "") (sampleChallenge 1) (some 1) 0 0 0 rfl (by rfl) (by decide)
      (by decide) 0 le_rfl (by decide)
  revert hstands
  decide

end Aokie.Protocol
