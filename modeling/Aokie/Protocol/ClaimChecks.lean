import Aokie.Protocol.Claims

/-! The validators of the signed claims, and how long the texts of valid claims are. -/

namespace Aokie.Protocol

open Aokie.Lib Json

def orInvalid {α : Type} (o : Option α) (field : String) : Except V2ProtocolError α :=
  match o with
  | some a => .ok a
  | none => .error (.invalid field)

lemma orInvalid_eq_ok_iff {α : Type} {o : Option α} {field : String} {a : α} :
    orInvalid o field = .ok a ↔ o = some a := by
  cases o <;> simp [orInvalid]

def checkSafeIds (field : String) (values : List String) : Except V2ProtocolError Unit :=
  check (∀ value ∈ values, safeId value = true) (.invalid field)

/-- `rosterHash` is `peer_roster_hash`: the digest of a revision and of the approved keys. -/
def validatePeerPolicy (rosterHash : ℕ → List String → String) (role : AdmissionRole) (holder : String)
    (expectedPeer : Option String) (approvedPeers : List String) (rosterRevision : Option ℕ)
    (suppliedHash : Option String) : Except V2ProtocolError Unit :=
  match role with
  | .mobile => do
    let expected ← orInvalid expectedPeer "expectedPeerKeyThumbprint"
    checkSafeId "expectedPeerKeyThumbprint" expected
    check (expected ≠ holder) (.invalid "expectedPeerKeyThumbprint")
    check (approvedPeers = [] ∧ rosterRevision = none ∧ suppliedHash = none) (.invalid "approvedPeerKeyThumbprints")
  | .plugin => do
    check (expectedPeer = none ∧ approvedPeers ≠ [] ∧ approvedPeers.length ≤ maxApprovedPeerKeys)
      (.invalid "approvedPeerKeyThumbprints")
    checkSafeIds "approvedPeerKeyThumbprints" approvedPeers
    check (holder ∉ approvedPeers) (.invalid "approvedPeerKeyThumbprints")
    check (approvedPeers.IsChain (· < ·)) (.invalid "approvedPeerKeyThumbprints")
    let revision ← orInvalid rosterRevision "peerRosterRevision"
    safeInteger "peerRosterRevision" revision 1
    let supplied ← orInvalid suppliedHash "peerRosterHash"
    checkSafeId "peerRosterHash" supplied
    check (supplied = rosterHash revision approvedPeers) (.invalid "peerRosterHash")

def AdmissionClaims.validate (rosterHash : ℕ → List String → String) (c : AdmissionClaims) (now : ℕ) :
    Except V2ProtocolError Unit := do
  exact "aud" c.aud admissionAudience
  checkSafeId "appId" c.appId
  checkSafeId "subjectId" c.subjectId
  checkSafeId "holderKeyThumbprint" c.holderKeyThumbprint
  validatePeerPolicy rosterHash c.role c.holderKeyThumbprint c.expectedPeerKeyThumbprint c.approvedPeerKeyThumbprints
    c.peerRosterRevision c.peerRosterHash
  safeInteger "exp" c.exp 1
  checkSafeId "jti" c.jti
  check (now < c.exp) .expired
  check (c.scopes.length ≤ 16) (.invalid "scopes")
  check c.scopes.Nodup (.invalid "scopes")

def LeaseClaims.validate (c : LeaseClaims) (now : ℕ) : Except V2ProtocolError Unit := do
  exact "aud" c.aud leaseAudience
  checkSafeId "appId" c.appId
  checkSafeId "pluginId" c.pluginId
  checkSafeId "deviceId" c.deviceId
  checkSafeId "pluginKeyThumbprint" c.pluginKeyThumbprint
  checkSafeId "mobileKeyThumbprint" c.mobileKeyThumbprint
  checkSafeId "callId" c.callId
  safeInteger "callEpoch" c.callEpoch 1
  safeInteger "ownerEpoch" c.ownerEpoch 0
  safeInteger "expiresAt" c.expiresAt 1
  checkSafeId "leaseId" c.leaseId
  checkSafeId "jti" c.jti
  safeInteger "fence" c.fence 0
  checkSafeId "sessionNonce" c.sessionNonce
  checkSafeId "rtcSessionId" c.rtcSessionId
  check (now < c.expiresAt) .expired
  check (c.tracks = tracksFor c.mode c.phase) (.notSafe "lease track matrix is invalid")
  check (c.mode = .takeover → c.fence ≠ 0) (.notSafe "talk-capable leases require a positive fence")
  check (c.mode ≠ .takeover → c.fence = 0) (.notSafe "non-caller-bound leases cannot carry a talk fence")
  check (c.mode = .monitor → c.phase = .active) (.notSafe "monitor leases are immediately active")

def validateSignatureWindow (issuedAt expiresAt now : ℕ) : Except V2ProtocolError Unit := do
  safeInteger "issuedAt" issuedAt 1
  safeInteger "expiresAt" expiresAt 1
  check (issuedAt < expiresAt ∧ expiresAt - issuedAt ≤ endpointProofMaxLifetime ∧
    issuedAt ≤ saturatingAdd now endpointProofClockSkew ∧ now < expiresAt) .expired

def LeaseMode.grant : LeaseMode → Grant
  | monitor => .monitor
  | consult => .consult
  | takeover => .takeover

def validateTransferRequest (c : PendingMobileOfferClaims) : Except V2ProtocolError Unit :=
  match c.acceptedTransferRequestId with
  | none => .ok ()
  | some requestId => do
    checkSafeId "acceptedTransferRequestId" requestId
    check (c.offeredMode = .takeover) (.notSafe "accepted transfer requests require takeover offers")
    check (.assistanceRespond ∈ c.requiredGrants) (.notSafe "accepted transfer offers require AssistanceRespond")

def PendingMobileOfferClaims.validate (c : PendingMobileOfferClaims) (now : ℕ) : Except V2ProtocolError Unit := do
  checkSafeId "offerId" c.offerId
  checkSafeId "opportunityId" c.opportunityId
  checkSafeId "targetDeviceId" c.targetDeviceId
  checkSafeId "targetHolderKeyThumbprint" c.targetHolderKeyThumbprint
  checkSafeId "appId" c.appId
  checkSafeId "callId" c.callId
  safeInteger "callEpoch" c.callEpoch 1
  safeInteger "ownerEpoch" c.ownerEpoch 0
  safeInteger "switchboardRevision" c.switchboardRevision 0
  safeInteger "remoteRevision" c.remoteRevision 0
  validateTransferRequest c
  checkSafeId "requiredConsentPolicyId" c.requiredConsentPolicyId
  safeInteger "requiredConsentPolicyVersion" c.requiredConsentPolicyVersion 1
  checkSafeId "jti" c.jti
  validateSignatureWindow c.issuedAt c.expiresAt now
  check (c.expiresAt - c.issuedAt ≤ mobileOfferMaxLifetime) .expired
  check (c.surface = .voiceSystemUi → c.offeredMode ≠ .monitor)
    (.notSafe "voice system UI offers must be consult or takeover")
  check (.stateRead ∈ c.requiredGrants ∧ .rtcSignal ∈ c.requiredGrants ∧ c.offeredMode.grant ∈ c.requiredGrants)
    (.notSafe "mobile offer omits a required grant")
  check (c.requiredGrants.Nodup ∧ c.requiredGrants.length ≤ 16) (.invalid "requiredGrants")

/-! ### The length of a text -/

lemma escape_of_isIdChar {c : Char} (h : isIdChar c = true) : Json.escape c = [c] := by
  have hplain : c ≠ '"' ∧ c ≠ '\\' ∧ 0x20 ≤ c.toNat := by
    refine ⟨?_, ?_, ?_⟩
    · rintro rfl
      exact absurd h (by decide)
    · rintro rfl
      exact absurd h (by decide)
    · by_contra hlow
      have hall : ∀ n < 0x20, isIdChar (Char.ofNat n) = false := by decide
      rw [← Char.ofNat_toNat c, hall _ (by omega)] at h
      cases h
  rw [Json.escape, if_neg hplain.1, if_neg hplain.2.1, if_pos hplain.2.2]

lemma byteLength_printString {value : String} (h : safeId value = true) :
    byteLength (Json.printString value.toList) ≤ 202 := by
  simp only [safeId, Bool.and_eq_true, decide_eq_true_eq, List.all_eq_true] at h
  obtain ⟨⟨_, hlength⟩, hchars⟩ := h
  have hplain : value.toList.flatMap Json.escape = value.toList := by
    rw [List.flatMap_congr fun c hc => escape_of_isIdChar (hchars c hc), List.flatMap_singleton']
  have hquote : '"'.utf8Size = 1 := by decide
  rw [Json.printString, hplain, List.cons_append, byteLength_cons, byteLength_append, byteLength_cons, hquote]
  simp only [maxIdBytes] at hlength
  simp only [byteLength, List.map_nil, List.sum_nil] at hlength ⊢
  omega

lemma byteLength_digits (n : ℕ) : byteLength (Nat.toDigits 10 n) = (Nat.toDigits 10 n).length := by
  have hsize : ∀ c ∈ Nat.toDigits 10 n, c.utf8Size = 1 := by
    intro c hc
    have hdigit := Nat.isDigit_of_mem_toDigits (b := 10) (by decide) le_rfl hc
    have hall : ∀ k < 58, (Char.ofNat k).utf8Size = 1 := by decide
    rw [← Char.ofNat_toNat c]
    apply hall
    simp only [Char.isDigit, Bool.and_eq_true, decide_eq_true_eq] at hdigit
    exact Nat.lt_succ_of_le hdigit.2
  rw [byteLength, List.map_congr_left hsize, List.map_const', List.sum_replicate, smul_eq_mul, mul_one]

lemma byteLength_int {n : ℕ} (h : n ≤ u64Max) : byteLength (int n).print ≤ 20 := by
  have hdigits : (Nat.toDigits 10 n).length ≤ 20 := by
    apply (Nat.length_toDigits_le_iff (by decide) (by decide)).mpr
    exact lt_of_le_of_lt h (by decide)
  rw [int, Json.print, JsonNumber.ofNat, byteLength_digits]
  exact hdigits

/-- What a field takes in a printed object, its colon and its comma included. -/
def fieldLength (p : String × Json) : ℕ := byteLength (Json.printString p.1.toList) + byteLength p.2.print + 2

lemma byteLength_printFields (first : Bool) (fields : List (String × Json)) :
    byteLength (Json.printFields first fields) ≤ (fields.map fieldLength).sum + 1 := by
  have hcolon : ':'.utf8Size = 1 := by decide
  induction fields generalizing first with
  | nil =>
      rw [Json.printFields]
      decide
  | cons p fields ih =>
      obtain ⟨name, value⟩ := p
      have hcomma : byteLength (if first = true then [] else [',']) ≤ 1 := by cases first <;> decide
      have hrest := ih false
      simp only [Json.printFields, byteLength_append, byteLength_cons, hcolon, List.map_cons, List.sum_cons,
        fieldLength]
      omega

lemma byteLength_object (fields : List (String × Json)) :
    byteLength (Json.object fields).print ≤ (fields.map fieldLength).sum + 2 := by
  have hbrace : '{'.utf8Size = 1 := by decide
  have hfields := byteLength_printFields true fields
  rw [Json.print, byteLength_cons, hbrace]
  omega

lemma byteLength_printItems {bound : ℕ} (first : Bool) {items : List Json}
    (h : ∀ v ∈ items, byteLength v.print ≤ bound) :
    byteLength (Json.printItems first items) ≤ items.length * (bound + 1) + 1 := by
  induction items generalizing first with
  | nil =>
      have hclose : byteLength [']'] = 1 := by decide
      simp [Json.printItems, hclose]
  | cons v items ih =>
      obtain ⟨hv, hitems⟩ := List.forall_mem_cons.mp h
      have hcomma : byteLength (if first = true then [] else [',']) ≤ 1 := by cases first <;> decide
      have hrest := ih false hitems
      simp only [Json.printItems, byteLength_append, List.length_cons, Nat.succ_mul]
      omega

lemma byteLength_array {bound : ℕ} {items : List Json} (h : ∀ v ∈ items, byteLength v.print ≤ bound) :
    byteLength (Json.array items).print ≤ items.length * (bound + 1) + 2 := by
  have hbracket : '['.utf8Size = 1 := by decide
  have hitems := byteLength_printItems true h
  rw [Json.print, byteLength_cons, hbracket]
  omega

lemma fieldLength_le {name : String} {value : Json} {bound : ℕ} (hname : safeId name = true)
    (hvalue : byteLength value.print ≤ bound) : fieldLength (name, value) ≤ bound + 204 := by
  have hkey := byteLength_printString hname
  simp only [fieldLength]
  omega

lemma sum_fieldLength_le {fields : List (String × Json)} {bound : ℕ}
    (h : ∀ p ∈ fields, safeId p.1 = true ∧ byteLength p.2.print ≤ bound) :
    (fields.map fieldLength).sum ≤ fields.length * (bound + 204) := by
  have hall : ∀ n ∈ fields.map fieldLength, n ≤ bound + 204 := by
    intro n hn
    obtain ⟨p, hp, rfl⟩ := List.mem_map.mp hn
    exact fieldLength_le (h p hp).1 (h p hp).2
  simpa using List.sum_le_card_nsmul _ _ hall

lemma byteLength_string {value : String} (h : safeId value = true) : byteLength (Json.string value).print ≤ 202 := by
  rw [Json.print]
  exact byteLength_printString h

lemma byteLength_mode (mode : LeaseMode) : byteLength (Json.string mode.asStr).print ≤ 202 :=
  byteLength_string (by cases mode <;> decide)

lemma byteLength_tracks (mode : LeaseMode) (phase : LeasePhase) :
    byteLength (Json.array ((tracksFor mode phase).map fun t => .string t.asStr)).print ≤ 202 := by
  cases mode <;> cases phase <;> decide

lemma byteLength_grants {grants : List Grant} (h : grants.length ≤ 16) :
    byteLength (grantsJson grants).print ≤ 500 := by
  have hall : ∀ g : Grant, byteLength (Json.string g.asStr).print ≤ 30 := by
    intro g
    cases g <;> decide
  have hitems : ∀ v ∈ grants.map fun g => Json.string g.asStr, byteLength v.print ≤ 30 := by
    intro v hv
    obtain ⟨g, _, rfl⟩ := List.mem_map.mp hv
    exact hall g
  have harray := byteLength_array hitems
  rw [List.length_map] at harray
  rw [grantsJson]
  omega

def maxPayloadBytes : ℕ := 65536

theorem LeaseClaims.byteLength_le {c : LeaseClaims} {now : ℕ} (h : c.validate now = .ok ()) :
    byteLength c.toJson.print ≤ maxPayloadBytes := by
  simp only [validate, bind_eq_ok_iff, checkSafeId_eq_ok_iff, exact_eq_ok_iff, safeInteger_eq_ok_iff, check_eq_ok_iff,
    exists_const] at h
  obtain ⟨haud, happ, hplugin, hdevice, hpluginKey, hmobileKey, hcall, hcallEpoch, hownerEpoch, hexpires, hlease, hjti,
    hfence, hnonce, hrtc, _, htracks, _⟩ := h
  have hwide : maxSafeInteger ≤ u64Max := by decide
  have hint : ∀ n ≤ maxSafeInteger, byteLength (int n).print ≤ 202 := by
    intro n hn
    exact (byteLength_int (hn.trans hwide)).trans (by decide)
  have hfields : ∀ p ∈ c.fields, safeId p.1 = true ∧ byteLength p.2.print ≤ 202 := by
    simp only [fields, List.forall_mem_cons, List.not_mem_nil, false_imp_iff, implies_true, and_true]
    refine ⟨⟨by decide, byteLength_string (by rw [haud]; decide)⟩, ⟨by decide, byteLength_string happ⟩,
      ⟨by decide, byteLength_string hplugin⟩, ⟨by decide, byteLength_string hdevice⟩,
      ⟨by decide, byteLength_string hpluginKey⟩, ⟨by decide, byteLength_string hmobileKey⟩,
      ⟨by decide, byteLength_string hcall⟩, ⟨by decide, hint _ hcallEpoch.2⟩, ⟨by decide, hint _ hownerEpoch.2⟩,
      ⟨by decide, byteLength_mode _⟩, ⟨by decide, byteLength_string (by cases c.phase <;> decide)⟩,
      ⟨by decide, ?_⟩, ⟨by decide, hint _ hexpires.2⟩, ⟨by decide, byteLength_string hlease⟩,
      ⟨by decide, byteLength_string hjti⟩, ⟨by decide, hint _ hfence.2⟩, ⟨by decide, byteLength_string hnonce⟩,
      ⟨by decide, byteLength_string hrtc⟩⟩
    rw [htracks]
    exact byteLength_tracks _ _
  have hsum := sum_fieldLength_le hfields
  have hobject := byteLength_object c.fields
  have hcount : c.fields.length = 18 := rfl
  rw [hcount] at hsum
  rw [toJson, maxPayloadBytes]
  omega

lemma forall_field {α : Type} {name : String} {write : α → Json} {o : Option α} {P : String × Json → Prop}
    (h : ∀ a ∈ o, P (name, write a)) : ∀ p ∈ field name write o, P p := by
  cases o with
  | none => simp [field]
  | some a => simpa [field] using h a rfl

theorem PendingMobileOfferClaims.byteLength_le {c : PendingMobileOfferClaims} {now : ℕ} (h : c.validate now = .ok ()) :
    byteLength c.toJson.print ≤ maxPayloadBytes := by
  simp only [validate, validateSignatureWindow, bind_eq_ok_iff, checkSafeId_eq_ok_iff, safeInteger_eq_ok_iff,
    check_eq_ok_iff, exists_const, and_assoc] at h
  obtain ⟨hoffer, hopportunity, hdevice, hholder, happ, hcall, _, hcallEpoch, _, hownerEpoch, _,
      hswitchboard, _, hremote,
    ⟨⟩, hrequest, hpolicy, _, hversion, hjti, _, hissued, _, hexpires, _, _, _, _, _, _, _, _, _, _, hgrants⟩ := h
  have hwide : maxSafeInteger ≤ u64Max := by decide
  have hint : ∀ n ≤ maxSafeInteger, byteLength (int n).print ≤ 500 := by
    intro n hn
    exact (byteLength_int (hn.trans hwide)).trans (by decide)
  have htext : ∀ value, safeId value = true → byteLength (Json.string value).print ≤ 500 := by
    intro value hvalue
    exact (byteLength_string hvalue).trans (by decide)
  have hrequestId : ∀ a ∈ c.acceptedTransferRequestId, safeId a = true := by
    intro a ha
    rw [validateTransferRequest, Option.mem_def.mp ha] at hrequest
    simp only [bind_eq_ok_iff, checkSafeId_eq_ok_iff, exists_const] at hrequest
    exact hrequest.1
  have hmode : safeId c.offeredMode.asStr = true := by cases c.offeredMode <;> decide
  have hsurface : safeId c.surface.asStr = true := by cases c.surface <;> decide
  have hfields : ∀ p ∈ c.fields, safeId p.1 = true ∧ byteLength p.2.print ≤ 500 := by
    simp only [fields, List.forall_mem_append, List.forall_mem_cons, List.not_mem_nil, false_imp_iff,
      implies_true, and_true]
    refine ⟨⟨⟨⟨by decide, htext _ hoffer⟩, ⟨by decide, htext _ hopportunity⟩, ⟨by decide, htext _ hdevice⟩,
      ⟨by decide, htext _ hholder⟩, ⟨by decide, htext _ hmode⟩, ⟨by decide, htext _ hsurface⟩,
        ⟨by decide, htext _ happ⟩,
      ⟨by decide, htext _ hcall⟩, ⟨by decide, hint _ hcallEpoch⟩, ⟨by decide, hint _ hownerEpoch⟩,
      ⟨by decide, hint _ hswitchboard⟩, ⟨by decide, hint _ hremote⟩⟩, ?_⟩, ⟨by decide, htext _ hpolicy⟩,
      ⟨by decide, hint _ hversion⟩, ⟨by decide, byteLength_grants hgrants⟩, ⟨by decide, hint _ hissued⟩,
      ⟨by decide, hint _ hexpires⟩, ⟨by decide, htext _ hjti⟩⟩
    exact forall_field fun a ha => ⟨(by decide : safeId "acceptedTransferRequestId" = true), htext _ (hrequestId a ha)⟩
  have hsum := sum_fieldLength_le hfields
  have hobject := byteLength_object c.fields
  have hcount := (keys_sublist c).length_le
  rw [List.length_map] at hcount
  have hnames : names.length = 19 := rfl
  rw [toJson, maxPayloadBytes]
  omega

lemma validatePeerPolicy_eq_ok {rosterHash : ℕ → List String → String} {role : AdmissionRole} {holder : String}
    {expectedPeer : Option String} {approvedPeers : List String} {rosterRevision : Option ℕ}
      {suppliedHash : Option String}
    (h : validatePeerPolicy rosterHash role holder expectedPeer approvedPeers rosterRevision suppliedHash = .ok ()) :
    (∀ a ∈ expectedPeer, safeId a = true) ∧ approvedPeers.length ≤ maxApprovedPeerKeys ∧
      (∀ a ∈ approvedPeers, safeId a = true) ∧ (∀ n ∈ rosterRevision, n ≤ maxSafeInteger) ∧
      ∀ a ∈ suppliedHash, safeId a = true := by
  cases role with
  | mobile =>
      simp only [validatePeerPolicy, bind_eq_ok_iff, orInvalid_eq_ok_iff, checkSafeId_eq_ok_iff, check_eq_ok_iff,
        exists_const] at h
      obtain ⟨expected, rfl, hexpected, _, rfl, rfl, rfl⟩ := h
      simp [hexpected]
  | plugin =>
      simp only [validatePeerPolicy, bind_eq_ok_iff, orInvalid_eq_ok_iff, checkSafeId_eq_ok_iff, checkSafeIds,
        safeInteger_eq_ok_iff, check_eq_ok_iff, exists_const] at h
      obtain ⟨⟨rfl, _, hlength⟩, hkeys, _, _, revision, rfl, ⟨_, hrevision⟩, supplied, rfl, hhash, _⟩ := h
      refine ⟨nofun, hlength, hkeys, ?_, ?_⟩
      · rintro _ ⟨⟩
        exact hrevision
      · rintro _ ⟨⟩
        exact hhash

theorem AdmissionClaims.byteLength_le {rosterHash : ℕ → List String → String} {c : AdmissionClaims} {now : ℕ}
    (h : c.validate rosterHash now = .ok ()) : byteLength c.toJson.print ≤ maxPayloadBytes := by
  simp only [validate, bind_eq_ok_iff, checkSafeId_eq_ok_iff, exact_eq_ok_iff, safeInteger_eq_ok_iff, check_eq_ok_iff,
    exists_const] at h
  obtain ⟨haud, happ, hsubject, hholder, ⟨⟩, hpolicy, ⟨_, hexp⟩, hjti, _, hscopes, _⟩ := h
  obtain ⟨hexpected, hcount, hkeys, hrevision, hhash⟩ := validatePeerPolicy_eq_ok hpolicy
  have hwide : maxSafeInteger ≤ u64Max := by decide
  have hint : ∀ n ≤ maxSafeInteger, byteLength (int n).print ≤ 500 := by
    intro n hn
    exact (byteLength_int (hn.trans hwide)).trans (by decide)
  have htext : ∀ value, safeId value = true → byteLength (Json.string value).print ≤ 500 := by
    intro value hvalue
    exact (byteLength_string hvalue).trans (by decide)
  have happroved : byteLength (Json.array (c.approvedPeerKeyThumbprints.map .string)).print ≤ 12994 := by
    have hitems : ∀ v ∈ c.approvedPeerKeyThumbprints.map Json.string, byteLength v.print ≤ 202 := by
      intro v hv
      obtain ⟨a, ha, rfl⟩ := List.mem_map.mp hv
      exact byteLength_string (hkeys a ha)
    have harray := byteLength_array hitems
    rw [List.length_map] at harray
    simp only [maxApprovedPeerKeys] at hcount
    omega
  have hrole : safeId c.role.asStr = true := by cases c.role <;> decide
  have haudience : safeId c.aud = true := by
    rw [haud]
    decide
  -- the approved keys are the one long field
  obtain ⟨before, hbefore⟩ : ∃ fields, fields = [("aud", Json.string c.aud), ("appId", .string c.appId),
    ("subjectId", .string c.subjectId), ("role", .string c.role.asStr),
    ("holderKeyThumbprint", .string c.holderKeyThumbprint)] ++
      field "expectedPeerKeyThumbprint" .string c.expectedPeerKeyThumbprint := ⟨_, rfl⟩
  obtain ⟨behind, hbehind⟩ : ∃ fields, fields = field "peerRosterRevision" int c.peerRosterRevision ++
    field "peerRosterHash" Json.string c.peerRosterHash ++
      [("scopes", grantsJson c.scopes), ("exp", int c.exp), ("jti", .string c.jti)] := ⟨_, rfl⟩
  have hsplit : c.fields = before ++ ("approvedPeerKeyThumbprints",
      Json.array (c.approvedPeerKeyThumbprints.map .string)) :: behind := by
    simp [fields, hbefore, hbehind]
  have hshort : ∀ p ∈ before ++ behind, safeId p.1 = true ∧ byteLength p.2.print ≤ 500 := by
    simp only [hbefore, hbehind, List.forall_mem_append, List.forall_mem_cons, List.not_mem_nil, false_imp_iff,
      implies_true, and_true]
    refine ⟨⟨⟨⟨by decide, htext _ haudience⟩, ⟨by decide, htext _ happ⟩, ⟨by decide, htext _ hsubject⟩,
      ⟨by decide, htext _ hrole⟩, ⟨by decide, htext _ hholder⟩⟩, ?_⟩, ⟨?_, ?_⟩, ⟨by decide, byteLength_grants hscopes⟩,
      ⟨by decide, hint _ hexp⟩, ⟨by decide, htext _ hjti⟩⟩
    · exact forall_field fun a ha => ⟨(by decide : safeId "expectedPeerKeyThumbprint" = true), htext _ (hexpected a ha)⟩
    · exact forall_field fun n hn => ⟨(by decide : safeId "peerRosterRevision" = true), hint _ (hrevision n hn)⟩
    · exact forall_field fun a ha => ⟨(by decide : safeId "peerRosterHash" = true), htext _ (hhash a ha)⟩
  have hsum := sum_fieldLength_le hshort
  have hlong := fieldLength_le (by decide : safeId "approvedPeerKeyThumbprints" = true) happroved
  have hobject := byteLength_object c.fields
  have hnames := (keys_sublist c).length_le
  have hlength : names.length = 12 := rfl
  rw [List.length_map, hlength, hsplit, List.length_append, List.length_cons] at hnames
  rw [List.map_append, List.sum_append, List.length_append] at hsum
  rw [hsplit, List.map_append, List.sum_append, List.map_cons, List.sum_cons] at hobject
  rw [toJson, maxPayloadBytes, hsplit]
  omega

end Aokie.Protocol
