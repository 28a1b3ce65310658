import Aokie.Protocol.ClaimChecks

/-! The gateway's three kinds of signed token: admissions under one secret, leases and mobile offers under another. -/

namespace Aokie.Gateway

open Aokie.Lib Aokie.Protocol

structure GatewayError where
  code : String
  message : String
  isFatal : Bool
  deriving DecidableEq, Repr

def GatewayError.fatal (code message : String) : GatewayError := ⟨code, message, true⟩
def GatewayError.nonfatal (code message : String) : GatewayError := ⟨code, message, false⟩

structure Digest where
  bytes : Bytes
  length_bytes : bytes.length = 32
  deriving DecidableEq, Repr

section Codec

def blockBytes : ℕ := 64

def hmacKey (sha256 : Bytes → Digest) (secret : Bytes) : Bytes :=
  let key := if blockBytes < secret.length then (sha256 secret).bytes else secret
  key ++ List.replicate (blockBytes - key.length) 0

def hmacSha256 (sha256 : Bytes → Digest) (secret payload : Bytes) : Digest :=
  let key := hmacKey sha256 secret
  let inner := sha256 (key.map (· ^^^ 0x36) ++ payload)
  sha256 (key.map (· ^^^ 0x5c) ++ inner.bytes)

def constantTimeEq (expected supplied : Bytes) : Bool :=
  if expected.length ≠ supplied.length then false
  else (expected.zip supplied).foldl (fun difference pair => difference ||| (pair.1 ^^^ pair.2)) 0 == 0

/-- `b"0123456789abcdef"`. -/
def hexDigits : Bytes := [48, 49, 50, 51, 52, 53, 54, 55, 56, 57, 97, 98, 99, 100, 101, 102]

def hexPair (byte : UInt8) : Bytes :=
  [hexDigits.getD (byte >>> 4).toNat 0, hexDigits.getD (byte &&& 0x0f).toNat 0]

def hex (bytes : Bytes) : Bytes := bytes.flatMap hexPair

def hexDigit (byte : UInt8) : Option UInt8 :=
  if 48 ≤ byte ∧ byte ≤ 57 then some (byte - 48)
  else if 97 ≤ byte ∧ byte ≤ 102 then some (byte - 97 + 10)
  else none

/-- `chunks_exact(2)`: the length is even. -/
def unhexPairs : Bytes → Option Bytes
  | high :: low :: rest => do
    let high ← hexDigit high
    let low ← hexDigit low
    let bytes ← unhexPairs rest
    return (high <<< 4 ||| low) :: bytes
  | _ => some []

def unhex (encoded : Bytes) : Option Bytes :=
  if encoded.length % 2 ≠ 0 ∨ 128 * 1024 < encoded.length then none else unhexPairs encoded

end Codec

def stop : UInt8 := 46

inductive TokenKind
  | admission | lease | offer
  deriving DecidableEq, Repr

def TokenKind.label : TokenKind → Bytes
  | admission => intoBytes "aokie-adm-v2"
  | lease => intoBytes "v2"
  | offer => intoBytes "aokie-offer-v2"

/-- The refusals of one kind's verifier, in the order of its checks. -/
structure Refusals (ε : Type) where
  label : ε
  payload : ε
  supplied : ε
  format : ε
  signature : ε
  claims : ε

def okOrElse {ε α : Type} (o : Option α) (e : ε) : Except ε α :=
  match o with
  | some a => .ok a
  | none => .error e

def refuse {ε : Type} (p : Prop) [Decidable p] (e : ε) : Except ε Unit := if p then .error e else .ok ()

section Tokens

variable (sha256 : Bytes → Digest) (secret : Bytes)

def encodeToken (label payload : Bytes) : Bytes :=
  label ++ stop :: (hex payload ++ stop :: hex (hmacSha256 sha256 secret payload).bytes)

/-- The part that the three verifiers share: the signed payload of a token. -/
def openToken {ε : Type} (refusals : Refusals ε) (label token : Bytes) : Except ε Bytes := do
  let parts := token.splitOn stop
  refuse (parts[0]? ≠ some label) refusals.label
  let payload ← okOrElse (parts[1]?.bind unhex) refusals.payload
  let supplied ← okOrElse (parts[2]?.bind unhex) refusals.supplied
  refuse (parts[3]?.isSome ∨ supplied.length ≠ 32) refusals.format
  let expected := hmacSha256 sha256 secret payload
  refuse (constantTimeEq expected.bytes supplied = false) refusals.signature
  return payload

end Tokens

/-- `serde_json::to_vec`, which does not fail on claims. -/
def toVec (v : Json) : Bytes := intoBytes (String.ofList v.print)

def leaseTtl : ℕ := 20
def maxAdmissionTtl : ℕ := 300

section Admissions

structure AdmissionTokenSigner where
  secret : Bytes
  bounded : 32 ≤ secret.length ∧ secret.length ≤ 4096

def AdmissionTokenSigner.new (secret : Bytes) : Except String AdmissionTokenSigner :=
  if h : 32 ≤ secret.length ∧ secret.length ≤ 4096 then .ok ⟨secret, h⟩
  else .error "admission HMAC secret must be 32..4096 bytes"

def admissionRefusals : Refusals String where
  label := "invalid admission token prefix"
  payload := "invalid admission token payload"
  supplied := "invalid admission token signature"
  format := "invalid admission token format"
  signature := "invalid admission token signature"
  claims := "invalid admission claims"

variable (sha256 : Bytes → Digest) (rosterHash : ℕ → List String → String) (signer : AdmissionTokenSigner)

def checkAdmission (claims : AdmissionClaims) (now : ℕ) : Except String Unit := do
  (claims.validate rosterHash now).mapError toString
  refuse (maxAdmissionTtl < claims.exp - now) "admission lifetime exceeds 300 seconds"

def AdmissionTokenSigner.issue (claims : AdmissionClaims) (now : ℕ) : Except String Bytes := do
  checkAdmission rosterHash claims now
  return encodeToken sha256 signer.secret TokenKind.admission.label (toVec claims.toJson)

/-- `fromSlice` is `serde_json::from_slice`. -/
def AdmissionTokenSigner.verify (fromSlice : Bytes → Option Json) (token : Bytes) (now : ℕ) :
    Except String AdmissionClaims := do
  let payload ← openToken sha256 signer.secret admissionRefusals TokenKind.admission.label token
  let claims ← okOrElse ((fromSlice payload).bind AdmissionClaims.fromJson) admissionRefusals.claims
  checkAdmission rosterHash claims now
  return claims

end Admissions

section Leases

structure LeaseSigner where
  secret : Bytes

def leaseRefusals : Refusals GatewayError where
  label := .nonfatal "invalid_lease" "lease format is invalid"
  payload := .nonfatal "invalid_lease" "lease payload is invalid"
  supplied := .nonfatal "invalid_lease" "lease signature is invalid"
  format := .nonfatal "invalid_lease" "lease format is invalid"
  signature := .nonfatal "invalid_lease" "lease signature is invalid"
  claims := .nonfatal "invalid_lease" "lease claims are invalid"

def offerRefusals : Refusals GatewayError where
  label := .nonfatal "invalid_offer" "mobile offer format is invalid"
  payload := .nonfatal "invalid_offer" "mobile offer is invalid"
  supplied := .nonfatal "invalid_offer" "mobile offer is invalid"
  format := .nonfatal "invalid_offer" "mobile offer format is invalid"
  signature := .nonfatal "invalid_offer" "mobile offer signature is invalid"
  claims := .nonfatal "invalid_offer" "mobile offer is invalid"

variable (sha256 : Bytes → Digest) (signer : LeaseSigner)

def LeaseSigner.sign (claims : LeaseClaims) : Bytes :=
  encodeToken sha256 signer.secret TokenKind.lease.label (toVec claims.toJson)

def LeaseSigner.signMobileOffer (claims : PendingMobileOfferClaims) : Bytes :=
  encodeToken sha256 signer.secret TokenKind.offer.label (toVec claims.toJson)

variable (fromSlice : Bytes → Option Json)

def LeaseSigner.verify (token : Bytes) (now : ℕ) : Except GatewayError LeaseClaims := do
  let payload ← openToken sha256 signer.secret leaseRefusals TokenKind.lease.label token
  let claims ← okOrElse ((fromSlice payload).bind LeaseClaims.fromJson) leaseRefusals.claims
  (claims.validate now).mapError fun _ => .nonfatal "invalid_lease" "lease claims are invalid or expired"
  refuse (leaseTtl < claims.expiresAt - now) (.nonfatal "invalid_lease" "lease lifetime is invalid")
  return claims

def LeaseSigner.verifyMobileOffer (token : Bytes) (now : ℕ) : Except GatewayError PendingMobileOfferClaims := do
  let payload ← openToken sha256 signer.secret offerRefusals TokenKind.offer.label token
  let claims ← okOrElse ((fromSlice payload).bind PendingMobileOfferClaims.fromJson) offerRefusals.claims
  (claims.validate now).mapError fun _ => .nonfatal "invalid_offer" "mobile offer is invalid or stale"
  return claims

end Leases

/-! ### The codec -/

lemma okOrElse_eq_ok_iff {ε α : Type} {o : Option α} {e : ε} {a : α} : okOrElse o e = .ok a ↔ o = some a := by
  cases o <;> simp [okOrElse]

lemma refuse_eq_ok_iff {ε : Type} {p : Prop} [Decidable p] {e : ε} {u : Unit} : refuse p e = .ok u ↔ ¬p := by
  rw [refuse]
  split_ifs with h <;> simp [h]

lemma mapError_eq_ok_iff {ε ε' α : Type} {x : Except ε α} {f : ε → ε'} {a : α} : x.mapError f = .ok a ↔ x = .ok a := by
  cases x <;> simp [Except.mapError]

lemma difference_eq_zero_iff (pairs : List (UInt8 × UInt8)) (difference : UInt8) :
    pairs.foldl (fun difference pair => difference ||| (pair.1 ^^^ pair.2)) difference = 0 ↔
      difference = 0 ∧ ∀ pair ∈ pairs, pair.1 = pair.2 := by
  induction pairs generalizing difference with
  | nil => simp
  | cons pair pairs ih => simp [ih, and_assoc]

lemma constantTimeEq_iff (expected supplied : Bytes) : constantTimeEq expected supplied = true ↔
    expected = supplied := by
  rw [constantTimeEq]
  split_ifs with hlength
  · constructor
    · nofun
    · rintro rfl
      exact absurd rfl hlength
  · rw [beq_iff_eq, difference_eq_zero_iff]
    constructor
    · rintro ⟨-, hpairs⟩
      apply List.ext_getElem (not_not.mp hlength)
      intro i hi hi'
      have hpair := List.getElem_mem (l := expected.zip supplied) (n := i) (by rw [List.length_zip]; omega)
      rw [List.getElem_zip] at hpair
      exact hpairs _ hpair
    · rintro rfl
      refine ⟨rfl, fun pair hpair => ?_⟩
      obtain ⟨i, hi, rfl⟩ := List.mem_iff_getElem.mp hpair
      simp

lemma hexDigit_hexDigits : ∀ n < 16, hexDigit (hexDigits.getD n 0) = some (UInt8.ofNat n) := by decide

lemma unhexPairs_hexPair (byte : UInt8) (rest : Bytes) :
    unhexPairs (hexPair byte ++ rest) = (unhexPairs rest).map (byte :: ·) := by
  have hhigh : (byte >>> 4).toNat < 16 := by
    have hbyte := byte.toNat_lt
    rw [UInt8.toNat_shiftRight, Nat.shiftRight_eq_div_pow]
    exact Nat.div_lt_of_lt_mul hbyte
  have hlow : (byte &&& 0x0f).toNat < 16 := by
    rw [UInt8.toNat_and]
    exact Nat.lt_succ_of_le Nat.and_le_right
  have hjoin : byte >>> 4 <<< 4 ||| byte &&& 0x0f = byte := by
    apply byte_forall (P := fun byte => byte >>> 4 <<< 4 ||| byte &&& 0x0f = byte)
    decide
  simp only [hexPair, List.cons_append, List.nil_append, unhexPairs, hexDigit_hexDigits _ hhigh,
    hexDigit_hexDigits _ hlow,
    UInt8.ofNat_toNat]
  cases unhexPairs rest with
  | none => rfl
  | some bytes => simp [hjoin]

lemma unhexPairs_hex (bytes : Bytes) : unhexPairs (hex bytes) = some bytes := by
  induction bytes with
  | nil => rfl
  | cons byte bytes ih =>
      rw [hex, List.flatMap_cons, unhexPairs_hexPair]
      rw [hex] at ih
      rw [ih]
      rfl

lemma length_hex (bytes : Bytes) : (hex bytes).length = 2 * bytes.length := by
  induction bytes with
  | nil => rfl
  | cons byte bytes ih =>
      rw [hex] at ih ⊢
      rw [List.flatMap_cons, List.length_append, ih, List.length_cons, hexPair]
      simp only [List.length_cons, List.length_nil]
      omega

theorem unhex_hex {bytes : Bytes} (h : bytes.length ≤ maxPayloadBytes) : unhex (hex bytes) = some bytes := by
  simp only [maxPayloadBytes] at h
  rw [unhex, if_neg, unhexPairs_hex]
  rw [length_hex]
  omega

lemma stop_not_mem_hex (bytes : Bytes) : stop ∉ hex bytes := by
  have hdigits : ∀ n, hexDigits.getD n 0 ≠ stop := by
    intro n
    rcases Nat.lt_or_ge n 16 with hn | hn
    · have hall : ∀ n < 16, hexDigits.getD n 0 ≠ stop := by decide
      exact hall n hn
    · rw [List.getD_eq_default _ _ (by simpa [hexDigits] using hn)]
      decide
  intro hmem
  obtain ⟨byte, -, hbyte⟩ := List.mem_flatMap.mp hmem
  simp only [hexPair, List.mem_cons, List.not_mem_nil, or_false] at hbyte
  rcases hbyte with hbyte | hbyte
  · exact hdigits _ hbyte.symm
  · exact hdigits _ hbyte.symm

lemma TokenKind.stop_not_mem_label (kind : TokenKind) : stop ∉ kind.label := by cases kind <;> decide

section Opening

variable {ε : Type} {sha256 : Bytes → Digest} {secret : Bytes} {refusals : Refusals ε} {label payload token : Bytes}

lemma splitOn_encodeToken (hlabel : stop ∉ label) :
    (encodeToken sha256 secret label payload).splitOn stop =
      [label, hex payload, hex (hmacSha256 sha256 secret payload).bytes] := by
  rw [encodeToken, List.splitOn_append_cons_self_of_not_mem hlabel,
    List.splitOn_append_cons_self_of_not_mem (stop_not_mem_hex payload), List.splitOn_eq_singleton (stop_not_mem_hex _)]

theorem openToken_encodeToken (hlabel : stop ∉ label) (hpayload : payload.length ≤ maxPayloadBytes) :
    openToken sha256 secret refusals label (encodeToken sha256 secret label payload) = .ok payload := by
  have hlength := (hmacSha256 sha256 secret payload).length_bytes
  have htag : (hmacSha256 sha256 secret payload).bytes.length ≤ maxPayloadBytes := by
    rw [hlength]
    decide
  simp only [openToken, splitOn_encodeToken hlabel, bind_eq_ok_iff, refuse_eq_ok_iff, okOrElse_eq_ok_iff, exists_const]
  refine ⟨by simp, payload, by simp [unhex_hex hpayload], _, by simp [unhex_hex htag]; rfl, by simp [hlength], ?_, rfl⟩
  simp [constantTimeEq_iff]

/-- An opened token holds its payload and the tag of it, between full stops. -/
theorem openToken_eq_ok (h : openToken sha256 secret refusals label token = .ok payload) :
    (∃ part ∈ token.splitOn stop, unhex part = some payload) ∧
      ∃ part ∈ token.splitOn stop, unhex part = some (hmacSha256 sha256 secret payload).bytes := by
  simp only [openToken, bind_eq_ok_iff, refuse_eq_ok_iff, okOrElse_eq_ok_iff, exists_const,
    Option.bind_eq_some_iff] at h
  obtain ⟨-, payload', ⟨part, hpart, hpayload⟩, supplied, ⟨part', hpart', hsupplied⟩, -, htag, heq⟩ := h
  obtain rfl : payload' = payload := Except.ok.inj heq
  refine ⟨⟨part, List.mem_of_getElem? hpart, hpayload⟩, part', List.mem_of_getElem? hpart', ?_⟩
  rw [Bool.not_eq_false, constantTimeEq_iff] at htag
  rw [hsupplied, htag]

end Opening

/-! ### What was signed -/

/-- A claims value as the Rust type holds it: every integer fits its width. -/
inductive Signed
  | admission (claims : AdmissionClaims) (fits : claims.exp ≤ u64Max ∧ ∀ n ∈ claims.peerRosterRevision, n ≤ u64Max)
  | lease (claims : LeaseClaims) (fits : claims.callEpoch ≤ u64Max ∧ claims.ownerEpoch ≤ u64Max ∧
      claims.expiresAt ≤ u64Max ∧ claims.fence ≤ u64Max)
  | offer (claims : PendingMobileOfferClaims) (fits : claims.callEpoch ≤ u64Max ∧ claims.ownerEpoch ≤ u64Max ∧
      claims.switchboardRevision ≤ u64Max ∧ claims.remoteRevision ≤ u64Max ∧
      claims.requiredConsentPolicyVersion ≤ 4294967295 ∧ claims.issuedAt ≤ u64Max ∧ claims.expiresAt ≤ u64Max)

namespace Signed

def kind : Signed → TokenKind
  | admission .. => .admission
  | lease .. => .lease
  | offer .. => .offer

def toJson : Signed → Json
  | admission claims _ => claims.toJson
  | lease claims _ => claims.toJson
  | offer claims _ => claims.toJson

def payload (s : Signed) : Bytes := toVec s.toJson

lemma admission_of_fromJson {s : Signed} {claims : AdmissionClaims}
    (h : AdmissionClaims.fromJson s.toJson = some claims) :
    ∃ fits, s = admission claims fits := by
  cases s with
  | admission claims' fits =>
      rw [toJson, AdmissionClaims.fromJson_toJson claims' fits.1 fits.2] at h
      obtain rfl := Option.some.inj h
      exact ⟨fits, rfl⟩
  | lease claims' _ =>
      have hunknown : Json.recordFields AdmissionClaims.names claims'.toJson = none := by
        apply Json.recordFields_eq_none (by simp [LeaseClaims.fields] : "pluginId" ∈ _)
        decide
      rw [toJson, AdmissionClaims.fromJson, hunknown] at h
      cases h
  | offer claims' _ =>
      have hunknown : Json.recordFields AdmissionClaims.names claims'.toJson = none := by
        apply Json.recordFields_eq_none (by simp [PendingMobileOfferClaims.fields] : "offerId" ∈ _)
        decide
      rw [toJson, AdmissionClaims.fromJson, hunknown] at h
      cases h

lemma lease_of_fromJson {s : Signed} {claims : LeaseClaims} (h : LeaseClaims.fromJson s.toJson = some claims) :
    ∃ fits, s = lease claims fits := by
  cases s with
  | lease claims' fits =>
      rw [toJson, LeaseClaims.fromJson_toJson claims' fits.1 fits.2.1 fits.2.2.1 fits.2.2.2] at h
      obtain rfl := Option.some.inj h
      exact ⟨fits, rfl⟩
  | admission claims' _ =>
      have hunknown : Json.recordFields LeaseClaims.names claims'.toJson = none := by
        apply Json.recordFields_eq_none (by simp [AdmissionClaims.fields] : "subjectId" ∈ _)
        decide
      rw [toJson, LeaseClaims.fromJson, hunknown] at h
      cases h
  | offer claims' _ =>
      have hunknown : Json.recordFields LeaseClaims.names claims'.toJson = none := by
        apply Json.recordFields_eq_none (by simp [PendingMobileOfferClaims.fields] : "offerId" ∈ _)
        decide
      rw [toJson, LeaseClaims.fromJson, hunknown] at h
      cases h

lemma offer_of_fromJson {s : Signed} {claims : PendingMobileOfferClaims}
    (h : PendingMobileOfferClaims.fromJson s.toJson = some claims) : ∃ fits, s = offer claims fits := by
  cases s with
  | offer claims' fits =>
      obtain ⟨hcallEpoch, hownerEpoch, hswitchboard, hremote, hversion, hissued, hexpires⟩ := id fits
      rw [toJson, PendingMobileOfferClaims.fromJson_toJson claims' hcallEpoch hownerEpoch hswitchboard hremote hversion
        hissued hexpires] at h
      obtain rfl := Option.some.inj h
      exact ⟨fits, rfl⟩
  | admission claims' _ =>
      have hunknown : Json.recordFields PendingMobileOfferClaims.names claims'.toJson = none := by
        apply Json.recordFields_eq_none (by simp [AdmissionClaims.fields] : "aud" ∈ _)
        decide
      rw [toJson, PendingMobileOfferClaims.fromJson, hunknown] at h
      cases h
  | lease claims' _ =>
      have hunknown : Json.recordFields PendingMobileOfferClaims.names claims'.toJson = none := by
        apply Json.recordFields_eq_none (by simp [LeaseClaims.fields] : "aud" ∈ _)
        decide
      rw [toJson, PendingMobileOfferClaims.fromJson, hunknown] at h
      cases h

end Signed

/-- HMAC is not forgeable: a text that somebody presents has the tag of a payload only if the payload was signed. -/
def Unforged (sha256 : Bytes → Digest) (secret : Bytes) (issued : List Signed) (token : Bytes) : Prop :=
  ∀ payload, (∃ part ∈ token.splitOn stop, unhex part = some payload) →
    (∃ part ∈ token.splitOn stop, unhex part = some (hmacSha256 sha256 secret payload).bytes) →
      ∃ s ∈ issued, s.payload = payload

lemma length_intoBytes (text : List Char) : (intoBytes (String.ofList text)).length = byteLength text := by
  induction text with
  | nil => rfl
  | cons c text ih =>
      have hsplit : String.ofList (c :: text) = String.singleton c ++ String.ofList text := by
        apply String.toList_injective
        simp
      have hhead : (intoBytes (String.singleton c)).length = c.utf8Size :=
        String.size_toByteArray.trans String.utf8ByteSize_singleton
      rw [hsplit, intoBytes_append, List.length_append, ih, hhead, byteLength_cons]

lemma unhex_hex_eq_some {bytes bytes' : Bytes} (h : unhex (hex bytes) = some bytes') : bytes' = bytes := by
  rw [unhex] at h
  split_ifs at h
  rw [unhexPairs_hex] at h
  exact (Option.some.inj h).symm

section Kinds

variable {ε α : Type} {sha256 : Bytes → Digest} {fromSlice : Bytes → Option Json} {issued : List Signed}
  {refusals : Refusals ε} {secret other label token payload : Bytes} {read : Json → Option α} {claims : α}

lemma signed_of_opened (hread : ∀ s ∈ issued, fromSlice s.payload = some s.toJson)
    (hunforged : Unforged sha256 secret issued token)
    (hopen : openToken sha256 secret refusals label token = .ok payload)
      (hclaims : (fromSlice payload).bind read = some claims) :
    ∃ s ∈ issued, read s.toJson = some claims := by
  obtain ⟨hpayload, htag⟩ := openToken_eq_ok hopen
  obtain ⟨s, hs, rfl⟩ := hunforged payload hpayload htag
  rw [hread s hs] at hclaims
  exact ⟨s, hs, hclaims⟩

lemma read_of_relabelled {s : Signed} (hread : ∀ s ∈ issued, fromSlice s.payload = some s.toJson)
    (hs : s ∈ issued) (hlabel : stop ∉ label)
    (hopen : openToken sha256 secret refusals label (encodeToken sha256 other label s.payload) = .ok payload)
    (hclaims : (fromSlice payload).bind read = some claims) : read s.toJson = some claims := by
  simp only [openToken, splitOn_encodeToken hlabel, bind_eq_ok_iff, refuse_eq_ok_iff, okOrElse_eq_ok_iff,
    exists_const] at hopen
  obtain ⟨-, payload', hpayload, _, -, -, -, heq⟩ := hopen
  obtain rfl : payload' = payload := Except.ok.inj heq
  have heq := unhex_hex_eq_some (by simpa using hpayload)
  rw [heq, hread s hs] at hclaims
  exact hclaims

end Kinds

section Verified

variable {sha256 : Bytes → Digest} {rosterHash : ℕ → List String → String} {fromSlice : Bytes → Option Json}
  {admissions : AdmissionTokenSigner} {leases : LeaseSigner} {token : Bytes} {now : ℕ}

lemma checkAdmission_eq_ok_iff {claims : AdmissionClaims} :
    checkAdmission rosterHash claims now = .ok () ↔
      claims.validate rosterHash now = .ok () ∧ claims.exp - now ≤ maxAdmissionTtl := by
  simp only [checkAdmission, bind_eq_ok_iff, mapError_eq_ok_iff, refuse_eq_ok_iff, not_lt]
  constructor
  · rintro ⟨⟨⟩, hvalid, hshort⟩
    exact ⟨hvalid, hshort⟩
  · rintro ⟨hvalid, hshort⟩
    exact ⟨(), hvalid, hshort⟩

lemma verify_admission_eq_ok_iff {claims : AdmissionClaims} :
    admissions.verify sha256 rosterHash fromSlice token now = .ok claims ↔
      (∃ payload, openToken sha256 admissions.secret admissionRefusals TokenKind.admission.label token = .ok payload ∧
        (fromSlice payload).bind AdmissionClaims.fromJson = some claims) ∧
      claims.validate rosterHash now = .ok () ∧ claims.exp - now ≤ maxAdmissionTtl := by
  rw [← checkAdmission_eq_ok_iff]
  simp only [AdmissionTokenSigner.verify, bind_eq_ok_iff, okOrElse_eq_ok_iff]
  constructor
  · rintro ⟨payload, hopen, claims', hclaims, ⟨⟩, hcheck, heq⟩
    obtain rfl : claims' = claims := Except.ok.inj heq
    exact ⟨⟨payload, hopen, hclaims⟩, hcheck⟩
  · rintro ⟨⟨payload, hopen, hclaims⟩, hcheck⟩
    exact ⟨payload, hopen, claims, hclaims, (), hcheck, rfl⟩

lemma verify_lease_eq_ok_iff {claims : LeaseClaims} :
    leases.verify sha256 fromSlice token now = .ok claims ↔
      (∃ payload, openToken sha256 leases.secret leaseRefusals TokenKind.lease.label token = .ok payload ∧
        (fromSlice payload).bind LeaseClaims.fromJson = some claims) ∧
      claims.validate now = .ok () ∧ claims.expiresAt - now ≤ leaseTtl := by
  simp only [LeaseSigner.verify, bind_eq_ok_iff, okOrElse_eq_ok_iff, mapError_eq_ok_iff, refuse_eq_ok_iff, not_lt]
  constructor
  · rintro ⟨payload, hopen, claims', hclaims, ⟨⟩, hvalid, ⟨⟩, hshort, heq⟩
    obtain rfl : claims' = claims := Except.ok.inj heq
    exact ⟨⟨payload, hopen, hclaims⟩, hvalid, hshort⟩
  · rintro ⟨⟨payload, hopen, hclaims⟩, hvalid, hshort⟩
    exact ⟨payload, hopen, claims, hclaims, (), hvalid, (), hshort, rfl⟩

lemma verify_offer_eq_ok_iff {claims : PendingMobileOfferClaims} :
    leases.verifyMobileOffer sha256 fromSlice token now = .ok claims ↔
      (∃ payload, openToken sha256 leases.secret offerRefusals TokenKind.offer.label token = .ok payload ∧
        (fromSlice payload).bind PendingMobileOfferClaims.fromJson = some claims) ∧ claims.validate now = .ok () := by
  simp only [LeaseSigner.verifyMobileOffer, bind_eq_ok_iff, okOrElse_eq_ok_iff, mapError_eq_ok_iff]
  constructor
  · rintro ⟨payload, hopen, claims', hclaims, ⟨⟩, hvalid, heq⟩
    obtain rfl : claims' = claims := Except.ok.inj heq
    exact ⟨⟨payload, hopen, hclaims⟩, hvalid⟩
  · rintro ⟨⟨payload, hopen, hclaims⟩, hvalid⟩
    exact ⟨payload, hopen, claims, hclaims, (), hvalid, rfl⟩

lemma open_of_valid {ε : Type} {refusals : Refusals ε} {secret : Bytes} {v : Json} {kind : TokenKind}
    (h : byteLength v.print ≤ maxPayloadBytes) :
    openToken sha256 secret refusals kind.label (encodeToken sha256 secret kind.label (toVec v)) = .ok (toVec v) := by
  apply openToken_encodeToken kind.stop_not_mem_label
  rw [toVec, length_intoBytes]
  exact h

lemma admission_round_trip {claims : AdmissionClaims} {fits} {issuedAt : ℕ}
    (hread : fromSlice (Signed.admission claims fits).payload = some claims.toJson)
    (hissue : admissions.issue sha256 rosterHash claims issuedAt = .ok token)
    (hvalid : claims.validate rosterHash now = .ok ()) (hshort : claims.exp - now ≤ maxAdmissionTtl) :
    admissions.verify sha256 rosterHash fromSlice token now = .ok claims := by
  simp only [AdmissionTokenSigner.issue, bind_eq_ok_iff] at hissue
  obtain ⟨-, -, heq⟩ := hissue
  obtain rfl := Except.ok.inj heq
  refine verify_admission_eq_ok_iff.mpr ⟨⟨_, open_of_valid (AdmissionClaims.byteLength_le hvalid), ?_⟩, hvalid, hshort⟩
  have hpayload : (Signed.admission claims fits).payload = toVec claims.toJson := rfl
  rw [← hpayload, hread, Option.bind_some, AdmissionClaims.fromJson_toJson claims fits.1 fits.2]

lemma lease_round_trip {claims : LeaseClaims} {fits} (hread : fromSlice (Signed.lease claims fits).payload =
    some claims.toJson)
    (hvalid : claims.validate now = .ok ()) (hshort : claims.expiresAt - now ≤ leaseTtl) :
    leases.verify sha256 fromSlice (leases.sign sha256 claims) now = .ok claims := by
  refine verify_lease_eq_ok_iff.mpr ⟨⟨_, open_of_valid (LeaseClaims.byteLength_le hvalid), ?_⟩, hvalid, hshort⟩
  have hpayload : (Signed.lease claims fits).payload = toVec claims.toJson := rfl
  rw [← hpayload, hread, Option.bind_some, LeaseClaims.fromJson_toJson claims fits.1 fits.2.1 fits.2.2.1 fits.2.2.2]

lemma offer_round_trip {claims : PendingMobileOfferClaims} {fits}
    (hread : fromSlice (Signed.offer claims fits).payload = some claims.toJson)
      (hvalid : claims.validate now = .ok ()) :
    leases.verifyMobileOffer sha256 fromSlice (leases.signMobileOffer sha256 claims) now = .ok claims := by
  refine verify_offer_eq_ok_iff.mpr ⟨⟨_, open_of_valid (PendingMobileOfferClaims.byteLength_le hvalid), ?_⟩, hvalid⟩
  have hpayload : (Signed.offer claims fits).payload = toVec claims.toJson := rfl
  obtain ⟨hcallEpoch, hownerEpoch, hswitchboard, hremote, hversion, hissued, hexpires⟩ := id fits
  rw [← hpayload, hread, Option.bind_some,
    PendingMobileOfferClaims.fromJson_toJson claims hcallEpoch hownerEpoch hswitchboard
    hremote hversion hissued hexpires]

end Verified

/-- `issued` is what was signed under a secret. -/
theorem tokens_keep_claims_and_kind (sha256 : Bytes → Digest) (rosterHash : ℕ → List String → String)
    (fromSlice : Bytes → Option Json) (admissions : AdmissionTokenSigner) (leases : LeaseSigner)
    (issued : Bytes → List Signed) (hread : ∀ secret, ∀ s ∈ issued secret, fromSlice s.payload = some s.toJson) :
    ((∀ claims fits, .admission claims fits ∈ issued admissions.secret → ∀ issuedAt now token,
        admissions.issue sha256 rosterHash claims issuedAt = .ok token → claims.validate rosterHash now = .ok () →
        claims.exp - now ≤ maxAdmissionTtl → admissions.verify sha256 rosterHash fromSlice token now = .ok claims) ∧
      (∀ claims fits, .lease claims fits ∈ issued leases.secret → ∀ now, claims.validate now = .ok () →
        claims.expiresAt - now ≤ leaseTtl →
        leases.verify sha256 fromSlice (leases.sign sha256 claims) now = .ok claims) ∧
      ∀ claims fits, .offer claims fits ∈ issued leases.secret → ∀ now, claims.validate now = .ok () →
        leases.verifyMobileOffer sha256 fromSlice (leases.signMobileOffer sha256 claims) now = .ok claims) ∧
    (∀ token now,
      (Unforged sha256 admissions.secret (issued admissions.secret) token → ∀ claims,
        admissions.verify sha256 rosterHash fromSlice token now = .ok claims →
          ∃ fits, .admission claims fits ∈ issued admissions.secret) ∧
      (Unforged sha256 leases.secret (issued leases.secret) token →
        (∀ claims, leases.verify sha256 fromSlice token now = .ok claims →
          ∃ fits, .lease claims fits ∈ issued leases.secret) ∧
        ∀ claims, leases.verifyMobileOffer sha256 fromSlice token now = .ok claims →
          ∃ fits, .offer claims fits ∈ issued leases.secret)) ∧
    ∀ secret, ∀ s ∈ issued secret, ∀ now,
      (s.kind ≠ .admission → ∀ claims, admissions.verify sha256 rosterHash fromSlice
        (encodeToken sha256 secret TokenKind.admission.label s.payload) now ≠ .ok claims) ∧
      (s.kind ≠ .lease → ∀ claims, leases.verify sha256 fromSlice
        (encodeToken sha256 secret TokenKind.lease.label s.payload) now ≠ .ok claims) ∧
      (s.kind ≠ .offer → ∀ claims, leases.verifyMobileOffer sha256 fromSlice
        (encodeToken sha256 secret TokenKind.offer.label s.payload) now ≠ .ok claims) := by
  refine ⟨⟨?_, ?_, ?_⟩, fun token now => ⟨?_, fun hunforged => ⟨?_, ?_⟩⟩, fun secret s hs now => ⟨?_, ?_, ?_⟩⟩
  · intro claims fits hissued issuedAt now token hissue hvalid hshort
    exact admission_round_trip (hread _ _ hissued) hissue hvalid hshort
  · intro claims fits hissued now hvalid hshort
    exact lease_round_trip (hread _ _ hissued) hvalid hshort
  · intro claims fits hissued now hvalid
    exact offer_round_trip (hread _ _ hissued) hvalid
  · intro hunforged claims hverify
    obtain ⟨⟨payload, hopen, hclaims⟩, -⟩ := verify_admission_eq_ok_iff.mp hverify
    obtain ⟨s, hs, hs'⟩ := signed_of_opened (hread _) hunforged hopen hclaims
    obtain ⟨fits, rfl⟩ := Signed.admission_of_fromJson hs'
    exact ⟨fits, hs⟩
  · intro claims hverify
    obtain ⟨⟨payload, hopen, hclaims⟩, -⟩ := verify_lease_eq_ok_iff.mp hverify
    obtain ⟨s, hs, hs'⟩ := signed_of_opened (hread _) hunforged hopen hclaims
    obtain ⟨fits, rfl⟩ := Signed.lease_of_fromJson hs'
    exact ⟨fits, hs⟩
  · intro claims hverify
    obtain ⟨⟨payload, hopen, hclaims⟩, -⟩ := verify_offer_eq_ok_iff.mp hverify
    obtain ⟨s, hs, hs'⟩ := signed_of_opened (hread _) hunforged hopen hclaims
    obtain ⟨fits, rfl⟩ := Signed.offer_of_fromJson hs'
    exact ⟨fits, hs⟩
  · intro hkind claims hverify
    obtain ⟨⟨payload, hopen, hclaims⟩, -⟩ := verify_admission_eq_ok_iff.mp hverify
    obtain ⟨fits, rfl⟩ := Signed.admission_of_fromJson
      (read_of_relabelled (hread _) hs (TokenKind.stop_not_mem_label _) hopen hclaims)
    exact hkind rfl
  · intro hkind claims hverify
    obtain ⟨⟨payload, hopen, hclaims⟩, -⟩ := verify_lease_eq_ok_iff.mp hverify
    obtain ⟨fits, rfl⟩ := Signed.lease_of_fromJson
      (read_of_relabelled (hread _) hs (TokenKind.stop_not_mem_label _) hopen hclaims)
    exact hkind rfl
  · intro hkind claims hverify
    obtain ⟨⟨payload, hopen, hclaims⟩, -⟩ := verify_offer_eq_ok_iff.mp hverify
    obtain ⟨fits, rfl⟩ := Signed.offer_of_fromJson
      (read_of_relabelled (hread _) hs (TokenKind.stop_not_mem_label _) hopen hclaims)
    exact hkind rfl

def sampleLease : LeaseClaims where
  aud := leaseAudience
  appId := "app"
  pluginId := "plugin"
  deviceId := "phone"
  pluginKeyThumbprint := "pluginKey"
  mobileKeyThumbprint := "phoneKey"
  callId := "call"
  callEpoch := 1
  ownerEpoch := 0
  mode := .monitor
  phase := .active
  tracks := [.pstnIn, .pstnOut]
  expiresAt := 100
  leaseId := "lease"
  jti := "jti"
  fence := 0
  sessionNonce := "nonce"
  rtcSessionId := "rtc"

/-- The digests of the two texts that the signature of `sampleLease` under `sampleSecret` hashes. -/
def sampleSha256 (message : Bytes) : Digest :=
  if message.length = 96 then
    ⟨[232, 234, 58, 10, 96, 70, 36, 210, 244, 84, 64, 210, 186, 37, 60, 30, 193, 78, 217, 144, 146, 206, 106,
      228, 180, 133,
      192, 23, 242, 174, 82, 235], rfl⟩
  else
    ⟨[186, 53, 113, 226, 192, 41, 41, 179, 200, 57, 232, 49, 222, 27, 238, 53, 15, 86, 106, 34, 214, 170, 151,
      177, 106, 172,
      231, 59, 203, 225, 99, 29], rfl⟩

def sampleSecret : Bytes := List.replicate 32 7

theorem sample_lease_keeps_kind :
    (LeaseSigner.mk sampleSecret).verify sampleSha256 (fun _ => some sampleLease.toJson)
        ((LeaseSigner.mk sampleSecret).sign sampleSha256 sampleLease) 90 = .ok sampleLease ∧
      ∀ claims, (LeaseSigner.mk sampleSecret).verifyMobileOffer sampleSha256 (fun _ => some sampleLease.toJson)
        (encodeToken sampleSha256 sampleSecret TokenKind.offer.label (toVec sampleLease.toJson)) 90 ≠ .ok claims := by
  have hfits : sampleLease.callEpoch ≤ u64Max ∧ sampleLease.ownerEpoch ≤ u64Max ∧ sampleLease.expiresAt ≤ u64Max ∧
      sampleLease.fence ≤ u64Max := by decide
  have hread : ∀ secret : Bytes, ∀ s ∈ (fun _ : Bytes => [Signed.lease sampleLease hfits]) secret,
      (fun _ : Bytes => some sampleLease.toJson) s.payload = some s.toJson := by
    intro _ s hs
    obtain rfl := List.mem_singleton.mp hs
    rfl
  obtain ⟨⟨-, hlease, -⟩, -, hrelabelled⟩ := tokens_keep_claims_and_kind sampleSha256 (fun _ _ => "")
    (fun _ => some sampleLease.toJson)
      ⟨sampleSecret, by decide⟩ ⟨sampleSecret⟩ (fun _ => [Signed.lease sampleLease hfits]) hread
  have hmem := List.mem_singleton_self (Signed.lease sampleLease hfits)
  exact ⟨hlease sampleLease hfits hmem 90 (by decide) (by decide), (hrelabelled sampleSecret _ hmem 90).2.2 nofun⟩

/-- The signer takes a lease that is valid for longer than a lease may last; its token does not verify. -/
theorem long_lease_does_not_verify :
    ¬ ∀ (leases : LeaseSigner) (claims : LeaseClaims) (now : ℕ), claims.validate now = .ok () →
      leases.verify sampleSha256 (fun _ => some claims.toJson) (leases.sign sampleSha256 claims) now = .ok claims := by
  intro h
  have hverify := h ⟨sampleSecret⟩ sampleLease 10 (by decide)
  have hshort := (verify_lease_eq_ok_iff.mp hverify).2.2
  exact absurd hshort (by decide)

end Aokie.Gateway
