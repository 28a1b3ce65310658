import Aokie.Lib.JsonRecord
import Aokie.Protocol.Canonical

/-! The claims that the gateway signs: admissions, leases and mobile offers, as JSON objects and as their validators
take them. -/

namespace Aokie.Protocol

open Aokie.Lib Json

def leaseAudience : String := "aokie-companion-media"
def admissionAudience : String := "aokie-v2-gateway"
def maxApprovedPeerKeys : ℕ := 64
def endpointProofMaxLifetime : ℕ := 30
def endpointProofClockSkew : ℕ := 5
def mobileOfferMaxLifetime : ℕ := 30

inductive AdmissionRole
  | mobile | plugin
  deriving DecidableEq, Repr

def AdmissionRole.asStr : AdmissionRole → String
  | mobile => "mobile"
  | plugin => "plugin"

inductive LeaseMode
  | monitor | consult | takeover
  deriving DecidableEq, Repr

def LeaseMode.asStr : LeaseMode → String
  | monitor => "monitor"
  | consult => "consult"
  | takeover => "takeover"

inductive LeasePhase
  | prepared | active
  deriving DecidableEq, Repr

def LeasePhase.asStr : LeasePhase → String
  | prepared => "prepared"
  | active => "active"

inductive MediaTrack
  | pstnIn | pstnOut | consultRx | consultTx
  deriving DecidableEq, Repr

def MediaTrack.asStr : MediaTrack → String
  | pstnIn => "pstn_in"
  | pstnOut => "pstn_out"
  | consultRx => "consult_rx"
  | consultTx => "consult_tx"

inductive MobileOfferSurface
  | inApp | voiceSystemUi
  deriving DecidableEq, Repr

def MobileOfferSurface.asStr : MobileOfferSurface → String
  | inApp => "in_app"
  | voiceSystemUi => "voice_system_ui"

def tracksFor : LeaseMode → LeasePhase → List MediaTrack
  | .monitor, _ => [.pstnIn, .pstnOut]
  | .consult, .prepared => [.consultRx]
  | .consult, .active => [.consultRx, .consultTx]
  | .takeover, .prepared => [.pstnIn]
  | .takeover, .active => [.pstnIn, .pstnOut]

def readRole : Json → Option AdmissionRole := asEnum [.mobile, .plugin] AdmissionRole.asStr
def readMode : Json → Option LeaseMode := asEnum [.monitor, .consult, .takeover] LeaseMode.asStr
def readPhase : Json → Option LeasePhase := asEnum [.prepared, .active] LeasePhase.asStr
def readTrack : Json → Option MediaTrack := asEnum [.pstnIn, .pstnOut, .consultRx, .consultTx] MediaTrack.asStr
def readSurface : Json → Option MobileOfferSurface := asEnum [.inApp, .voiceSystemUi] MobileOfferSurface.asStr
def readGrant : Json → Option Grant := asEnum Grant.all Grant.asStr

def int (n : ℕ) : Json := .number (.ofNat n)
def grantsJson (grants : List Grant) : Json := .array (grants.map fun g => .string g.asStr)

/-- `skip_serializing_if = "Option::is_none"`. -/
def field {α : Type} (name : String) (write : α → Json) : Option α → List (String × Json)
  | some a => [(name, write a)]
  | none => []

structure AdmissionClaims where
  aud : String
  appId : String
  subjectId : String
  role : AdmissionRole
  holderKeyThumbprint : String
  expectedPeerKeyThumbprint : Option String
  approvedPeerKeyThumbprints : List String
  peerRosterRevision : Option ℕ
  peerRosterHash : Option String
  scopes : List Grant
  exp : ℕ
  jti : String
  deriving DecidableEq, Repr

structure LeaseClaims where
  aud : String
  appId : String
  pluginId : String
  deviceId : String
  pluginKeyThumbprint : String
  mobileKeyThumbprint : String
  callId : String
  callEpoch : ℕ
  ownerEpoch : ℕ
  mode : LeaseMode
  phase : LeasePhase
  tracks : List MediaTrack
  expiresAt : ℕ
  leaseId : String
  jti : String
  fence : ℕ
  sessionNonce : String
  rtcSessionId : String
  deriving DecidableEq, Repr

structure PendingMobileOfferClaims where
  offerId : String
  opportunityId : String
  targetDeviceId : String
  targetHolderKeyThumbprint : String
  offeredMode : LeaseMode
  surface : MobileOfferSurface
  appId : String
  callId : String
  callEpoch : ℕ
  ownerEpoch : ℕ
  switchboardRevision : ℕ
  remoteRevision : ℕ
  acceptedTransferRequestId : Option String
  requiredConsentPolicyId : String
  requiredConsentPolicyVersion : ℕ
  requiredGrants : List Grant
  issuedAt : ℕ
  expiresAt : ℕ
  jti : String
  deriving DecidableEq, Repr

namespace AdmissionClaims

def names : List String :=
  ["aud", "appId", "subjectId", "role", "holderKeyThumbprint", "expectedPeerKeyThumbprint",
    "approvedPeerKeyThumbprints", "peerRosterRevision", "peerRosterHash", "scopes", "exp", "jti"]

def fields (c : AdmissionClaims) : List (String × Json) :=
  ([("aud", .string c.aud), ("appId", .string c.appId), ("subjectId", .string c.subjectId),
      ("role", .string c.role.asStr), ("holderKeyThumbprint", .string c.holderKeyThumbprint)] ++
    field "expectedPeerKeyThumbprint" .string c.expectedPeerKeyThumbprint ++
    [("approvedPeerKeyThumbprints", .array (c.approvedPeerKeyThumbprints.map .string))] ++
    field "peerRosterRevision" int c.peerRosterRevision ++ field "peerRosterHash" .string c.peerRosterHash ++
    [("scopes", grantsJson c.scopes), ("exp", int c.exp), ("jti", .string c.jti)])

def toJson (c : AdmissionClaims) : Json := .object c.fields

def fromJson (v : Json) : Option AdmissionClaims := do
  let fields ← recordFields names v
  return {
    aud := ← required fields "aud" asStr
    appId := ← required fields "appId" asStr
    subjectId := ← required fields "subjectId" asStr
    role := ← required fields "role" readRole
    holderKeyThumbprint := ← required fields "holderKeyThumbprint" asStr
    expectedPeerKeyThumbprint := ← optional fields "expectedPeerKeyThumbprint" asStr
    approvedPeerKeyThumbprints := ← defaulted fields "approvedPeerKeyThumbprints" (asVec asStr) []
    peerRosterRevision := ← optional fields "peerRosterRevision" asU64
    peerRosterHash := ← optional fields "peerRosterHash" asStr
    scopes := ← required fields "scopes" (asVec readGrant)
    exp := ← required fields "exp" asU64
    jti := ← required fields "jti" asStr }

end AdmissionClaims

namespace LeaseClaims

def names : List String :=
  ["aud", "appId", "pluginId", "deviceId", "pluginKeyThumbprint", "mobileKeyThumbprint", "callId", "callEpoch",
    "ownerEpoch", "mode", "phase", "tracks", "expiresAt", "leaseId", "jti", "fence", "sessionNonce", "rtcSessionId"]

def fields (c : LeaseClaims) : List (String × Json) :=
  [("aud", .string c.aud), ("appId", .string c.appId), ("pluginId", .string c.pluginId),
    ("deviceId", .string c.deviceId), ("pluginKeyThumbprint", .string c.pluginKeyThumbprint),
    ("mobileKeyThumbprint", .string c.mobileKeyThumbprint), ("callId", .string c.callId),
    ("callEpoch", int c.callEpoch), ("ownerEpoch", int c.ownerEpoch), ("mode", .string c.mode.asStr),
    ("phase", .string c.phase.asStr), ("tracks", .array (c.tracks.map fun t => .string t.asStr)),
    ("expiresAt", int c.expiresAt), ("leaseId", .string c.leaseId), ("jti", .string c.jti), ("fence", int c.fence),
    ("sessionNonce", .string c.sessionNonce), ("rtcSessionId", .string c.rtcSessionId)]

def toJson (c : LeaseClaims) : Json := .object c.fields

def fromJson (v : Json) : Option LeaseClaims := do
  let fields ← recordFields names v
  return {
    aud := ← required fields "aud" asStr
    appId := ← required fields "appId" asStr
    pluginId := ← required fields "pluginId" asStr
    deviceId := ← required fields "deviceId" asStr
    pluginKeyThumbprint := ← required fields "pluginKeyThumbprint" asStr
    mobileKeyThumbprint := ← required fields "mobileKeyThumbprint" asStr
    callId := ← required fields "callId" asStr
    callEpoch := ← required fields "callEpoch" asU64
    ownerEpoch := ← required fields "ownerEpoch" asU64
    mode := ← required fields "mode" readMode
    phase := ← required fields "phase" readPhase
    tracks := ← required fields "tracks" (asVec readTrack)
    expiresAt := ← required fields "expiresAt" asU64
    leaseId := ← required fields "leaseId" asStr
    jti := ← required fields "jti" asStr
    fence := ← required fields "fence" asU64
    sessionNonce := ← required fields "sessionNonce" asStr
    rtcSessionId := ← required fields "rtcSessionId" asStr }

end LeaseClaims

namespace PendingMobileOfferClaims

def names : List String :=
  ["offerId", "opportunityId", "targetDeviceId", "targetHolderKeyThumbprint", "offeredMode", "surface",
    "appId", "callId",
    "callEpoch", "ownerEpoch", "switchboardRevision", "remoteRevision", "acceptedTransferRequestId",
    "requiredConsentPolicyId", "requiredConsentPolicyVersion", "requiredGrants", "issuedAt", "expiresAt", "jti"]

def fields (c : PendingMobileOfferClaims) : List (String × Json) :=
  ([("offerId", .string c.offerId), ("opportunityId", .string c.opportunityId),
      ("targetDeviceId", .string c.targetDeviceId), ("targetHolderKeyThumbprint", .string c.targetHolderKeyThumbprint),
      ("offeredMode", .string c.offeredMode.asStr), ("surface", .string c.surface.asStr), ("appId", .string c.appId),
      ("callId", .string c.callId), ("callEpoch", int c.callEpoch), ("ownerEpoch", int c.ownerEpoch),
      ("switchboardRevision", int c.switchboardRevision), ("remoteRevision", int c.remoteRevision)] ++
    field "acceptedTransferRequestId" .string c.acceptedTransferRequestId ++
    [("requiredConsentPolicyId", .string c.requiredConsentPolicyId),
      ("requiredConsentPolicyVersion", int c.requiredConsentPolicyVersion),
      ("requiredGrants", grantsJson c.requiredGrants), ("issuedAt", int c.issuedAt), ("expiresAt", int c.expiresAt),
      ("jti", .string c.jti)])

def toJson (c : PendingMobileOfferClaims) : Json := .object c.fields

def fromJson (v : Json) : Option PendingMobileOfferClaims := do
  let fields ← recordFields names v
  return {
    offerId := ← required fields "offerId" asStr
    opportunityId := ← required fields "opportunityId" asStr
    targetDeviceId := ← required fields "targetDeviceId" asStr
    targetHolderKeyThumbprint := ← required fields "targetHolderKeyThumbprint" asStr
    offeredMode := ← required fields "offeredMode" readMode
    surface := ← required fields "surface" readSurface
    appId := ← required fields "appId" asStr
    callId := ← required fields "callId" asStr
    callEpoch := ← required fields "callEpoch" asU64
    ownerEpoch := ← required fields "ownerEpoch" asU64
    switchboardRevision := ← required fields "switchboardRevision" asU64
    remoteRevision := ← required fields "remoteRevision" asU64
    acceptedTransferRequestId := ← optional fields "acceptedTransferRequestId" asStr
    requiredConsentPolicyId := ← required fields "requiredConsentPolicyId" asStr
    requiredConsentPolicyVersion := ← required fields "requiredConsentPolicyVersion" asU32
    requiredGrants := ← required fields "requiredGrants" (asVec readGrant)
    issuedAt := ← required fields "issuedAt" asU64
    expiresAt := ← required fields "expiresAt" asU64
    jti := ← required fields "jti" asStr }

end PendingMobileOfferClaims

/-! ### What is written is read back -/

lemma readRole_asStr (a : AdmissionRole) : readRole (.string a.asStr) = some a := by cases a <;> decide

lemma readMode_asStr (a : LeaseMode) : readMode (.string a.asStr) = some a := by cases a <;> decide

lemma readPhase_asStr (a : LeasePhase) : readPhase (.string a.asStr) = some a := by cases a <;> decide

lemma readTrack_asStr (a : MediaTrack) : readTrack (.string a.asStr) = some a := by cases a <;> decide

lemma readSurface_asStr (a : MobileOfferSurface) : readSurface (.string a.asStr) = some a := by cases a <;> decide

lemma readGrant_asStr (a : Grant) : readGrant (.string a.asStr) = some a := by cases a <;> decide

lemma readGrants (grants : List Grant) : asVec readGrant (grantsJson grants) = some grants :=
  asVec_map readGrant_asStr grants

lemma readTracks (tracks : List MediaTrack) :
    asVec readTrack (.array (tracks.map fun t => .string t.asStr)) = some tracks := asVec_map readTrack_asStr tracks

lemma readStr (text : String) : asStr (.string text) = some text := rfl

lemma readStrings (texts : List String) : asVec asStr (.array (texts.map .string)) = some texts :=
  @asVec_map String asStr .string readStr texts

lemma readInt {n : ℕ} (h : n ≤ u64Max) : asU64 (int n) = some n := asU64_ofNat h

lemma readInt32 {n : ℕ} (h : n ≤ 4294967295) : asU32 (int n) = some n := by
  have hwide : n ≤ u64Max := h.trans (by decide)
  simp [asU32, readInt hwide, h]

@[simp] lemma lookup_field {α : Type} (name other : String) (write : α → Json) (o : Option α) :
    (field name write o).lookup other = if other = name then o.map write else none := by
  cases o with
  | none => simp [field]
  | some a =>
      by_cases h : other = name
      · simp [field, h]
      · simp [field, h]

lemma keys_field {α : Type} (name : String) (write : α → Json) (o : Option α) :
    ((field name write o).map Prod.fst).Sublist [name] := by
  cases o with
  | none => exact List.nil_sublist _
  | some a => exact List.Sublist.refl _

lemma AdmissionClaims.keys_sublist (c : AdmissionClaims) : (c.fields.map Prod.fst).Sublist names := by
  simp only [fields, List.map_append]
  have hpeer := keys_field "expectedPeerKeyThumbprint" Json.string c.expectedPeerKeyThumbprint
  have hrevision := keys_field "peerRosterRevision" int c.peerRosterRevision
  have hhash := keys_field "peerRosterHash" Json.string c.peerRosterHash
  exact (((((List.Sublist.refl _).append hpeer).append (List.Sublist.refl _)).append hrevision).append hhash).append
    (List.Sublist.refl _)

lemma PendingMobileOfferClaims.keys_sublist (c : PendingMobileOfferClaims) : (c.fields.map Prod.fst).Sublist names := by
  simp only [fields, List.map_append]
  have hrequest := keys_field "acceptedTransferRequestId" Json.string c.acceptedTransferRequestId
  exact ((List.Sublist.refl _).append hrequest).append (List.Sublist.refl _)

theorem AdmissionClaims.fromJson_toJson (c : AdmissionClaims) (hexp : c.exp ≤ u64Max)
    (hpeerRosterRevision : ∀ n ∈ c.peerRosterRevision, n ≤ u64Max) :
    fromJson c.toJson = some c := by
  have hfields : recordFields names (.object c.fields) = some c.fields := by
    apply recordFields_object
    · exact keys_sublist c
    · decide
  apply bind_eq_of hfields
  apply bind_eq_of (required_of_lookup (by simp [fields]) (readStr c.aud))
  apply bind_eq_of (required_of_lookup (by simp [fields, List.lookup_cons]) (readStr c.appId))
  apply bind_eq_of (required_of_lookup (by simp [fields, List.lookup_cons]) (readStr c.subjectId))
  apply bind_eq_of (required_of_lookup (by simp [fields, List.lookup_cons]) (readRole_asStr c.role))
  apply bind_eq_of (required_of_lookup (by simp [fields, List.lookup_cons])
    (readStr c.holderKeyThumbprint))
  apply bind_eq_of (optional_of_lookup (o := c.expectedPeerKeyThumbprint)
    (by simp [fields, List.lookup_cons, List.lookup_append]) fun _ _ => ⟨readStr _, nofun⟩)
  apply bind_eq_of (defaulted_of_lookup (by simp [fields, List.lookup_cons, List.lookup_append])
    (readStrings c.approvedPeerKeyThumbprints))
  apply bind_eq_of (optional_of_lookup (o := c.peerRosterRevision)
    (by simp [fields, List.lookup_cons, List.lookup_append]) fun n hn => ⟨readInt (hpeerRosterRevision n hn), nofun⟩)
  apply bind_eq_of (optional_of_lookup (o := c.peerRosterHash)
    (by simp [fields, List.lookup_cons, List.lookup_append]) fun _ _ => ⟨readStr _, nofun⟩)
  apply bind_eq_of (required_of_lookup (by simp [fields, List.lookup_cons, List.lookup_append]) (readGrants c.scopes))
  apply bind_eq_of (required_of_lookup (by simp [fields, List.lookup_cons, List.lookup_append]) (readInt hexp))
  apply bind_eq_of (required_of_lookup (by simp [fields, List.lookup_cons, List.lookup_append]) (readStr c.jti))
  rfl

theorem LeaseClaims.fromJson_toJson (c : LeaseClaims) (hcallEpoch : c.callEpoch ≤ u64Max)
    (hownerEpoch : c.ownerEpoch ≤ u64Max) (hexpiresAt : c.expiresAt ≤ u64Max) (hfence : c.fence ≤ u64Max) :
    fromJson c.toJson = some c := by
  have hfields : recordFields names (.object c.fields) = some c.fields := by
    apply recordFields_object
    · exact List.Sublist.refl names
    · decide
  apply bind_eq_of hfields
  apply bind_eq_of (required_of_lookup (by simp [fields]) (readStr c.aud))
  apply bind_eq_of (required_of_lookup (by simp [fields, List.lookup_cons]) (readStr c.appId))
  apply bind_eq_of (required_of_lookup (by simp [fields, List.lookup_cons]) (readStr c.pluginId))
  apply bind_eq_of (required_of_lookup (by simp [fields, List.lookup_cons]) (readStr c.deviceId))
  apply bind_eq_of (required_of_lookup (by simp [fields, List.lookup_cons]) (readStr c.pluginKeyThumbprint))
  apply bind_eq_of (required_of_lookup (by simp [fields, List.lookup_cons]) (readStr c.mobileKeyThumbprint))
  apply bind_eq_of (required_of_lookup (by simp [fields, List.lookup_cons]) (readStr c.callId))
  apply bind_eq_of (required_of_lookup (by simp [fields, List.lookup_cons]) (readInt hcallEpoch))
  apply bind_eq_of (required_of_lookup (by simp [fields, List.lookup_cons]) (readInt hownerEpoch))
  apply bind_eq_of (required_of_lookup (by simp [fields, List.lookup_cons]) (readMode_asStr c.mode))
  apply bind_eq_of (required_of_lookup (by simp [fields, List.lookup_cons]) (readPhase_asStr c.phase))
  apply bind_eq_of (required_of_lookup (by simp [fields, List.lookup_cons]) (readTracks c.tracks))
  apply bind_eq_of (required_of_lookup (by simp [fields, List.lookup_cons]) (readInt hexpiresAt))
  apply bind_eq_of (required_of_lookup (by simp [fields, List.lookup_cons]) (readStr c.leaseId))
  apply bind_eq_of (required_of_lookup (by simp [fields, List.lookup_cons]) (readStr c.jti))
  apply bind_eq_of (required_of_lookup (by simp [fields, List.lookup_cons]) (readInt hfence))
  apply bind_eq_of (required_of_lookup (by simp [fields, List.lookup_cons]) (readStr c.sessionNonce))
  apply bind_eq_of (required_of_lookup (by simp [fields, List.lookup_cons]) (readStr c.rtcSessionId))
  rfl

theorem PendingMobileOfferClaims.fromJson_toJson (c : PendingMobileOfferClaims) (hcallEpoch : c.callEpoch ≤ u64Max)
    (hownerEpoch : c.ownerEpoch ≤ u64Max) (hswitchboardRevision : c.switchboardRevision ≤ u64Max)
    (hremoteRevision : c.remoteRevision ≤ u64Max)
    (hrequiredConsentPolicyVersion : c.requiredConsentPolicyVersion ≤ 4294967295) (hissuedAt : c.issuedAt ≤ u64Max)
    (hexpiresAt : c.expiresAt ≤ u64Max) :
    fromJson c.toJson = some c := by
  have hfields : recordFields names (.object c.fields) = some c.fields := by
    apply recordFields_object
    · exact keys_sublist c
    · decide
  apply bind_eq_of hfields
  apply bind_eq_of (required_of_lookup (by simp [fields]) (readStr c.offerId))
  apply bind_eq_of (required_of_lookup (by simp [fields, List.lookup_cons])
    (readStr c.opportunityId))
  apply bind_eq_of (required_of_lookup (by simp [fields, List.lookup_cons])
    (readStr c.targetDeviceId))
  apply bind_eq_of (required_of_lookup (by simp [fields, List.lookup_cons])
    (readStr c.targetHolderKeyThumbprint))
  apply bind_eq_of (required_of_lookup (by simp [fields, List.lookup_cons])
    (readMode_asStr c.offeredMode))
  apply bind_eq_of (required_of_lookup (by simp [fields, List.lookup_cons])
    (readSurface_asStr c.surface))
  apply bind_eq_of (required_of_lookup (by simp [fields, List.lookup_cons]) (readStr c.appId))
  apply bind_eq_of (required_of_lookup (by simp [fields, List.lookup_cons]) (readStr c.callId))
  apply bind_eq_of (required_of_lookup (by simp [fields, List.lookup_cons]) (readInt hcallEpoch))
  apply bind_eq_of (required_of_lookup (by simp [fields, List.lookup_cons]) (readInt hownerEpoch))
  apply bind_eq_of (required_of_lookup (by simp [fields, List.lookup_cons])
    (readInt hswitchboardRevision))
  apply bind_eq_of (required_of_lookup (by simp [fields, List.lookup_cons])
    (readInt hremoteRevision))
  apply bind_eq_of (optional_of_lookup (o := c.acceptedTransferRequestId)
    (by simp [fields, List.lookup_cons, List.lookup_append]) fun _ _ => ⟨readStr _, nofun⟩)
  apply bind_eq_of (required_of_lookup (by simp [fields, List.lookup_cons, List.lookup_append])
    (readStr c.requiredConsentPolicyId))
  apply bind_eq_of (required_of_lookup (by simp [fields, List.lookup_cons, List.lookup_append])
    (readInt32 hrequiredConsentPolicyVersion))
  apply bind_eq_of (required_of_lookup (by simp [fields, List.lookup_cons, List.lookup_append])
    (readGrants c.requiredGrants))
  apply bind_eq_of (required_of_lookup (by simp [fields, List.lookup_cons, List.lookup_append]) (readInt hissuedAt))
  apply bind_eq_of (required_of_lookup (by simp [fields, List.lookup_cons, List.lookup_append]) (readInt hexpiresAt))
  apply bind_eq_of (required_of_lookup (by simp [fields, List.lookup_cons, List.lookup_append]) (readStr c.jti))
  rfl

end Aokie.Protocol
