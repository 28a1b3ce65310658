import Aokie.Lib.Run
import Aokie.Lib.Rust

/-! The consent on record: signed grants, the floor that old ones may not fall below, and what a revoke forgets. -/

namespace Aokie.Plugin.Consent

open Aokie.Lib

structure ConsentScopes where
  bluetooth : Bool := false
  contacts : Bool := false
  sms : Bool := false
  transcription : Bool := false
  recording : Bool := false
  remoteCaptions : Bool := false
  remoteAssistance : Bool := false
  remoteMonitoring : Bool := false
  remoteConsult : Bool := false
  remoteTakeover : Bool := false
  retentionDays : Option ℕ := none
  destinations : List String := []
  deriving DecidableEq

structure ConsentGrant where
  version : ℕ
  scopes : ConsentScopes
  acceptedAt : String
  acceptedBy : Option String := none
  expiresAt : Option String := none
  signature : Option String := none
  deriving DecidableEq

structure SignedConsent where
  format : ℕ
  alg : String
  keyId : String
  payloadB64 : String
  signature : String
  deriving DecidableEq

/-- The crates under `verify_envelope`, with the Desktop's key. The decoders trim their text first. -/
structure Verifier where
  verifyKey : String
  decodeStandard : String → Except String Bytes
  decodeUrlSafe : String → Except String Bytes
  keyOfBytes : Bytes → Except String Unit
  verifies : Bytes → Bytes → Bytes → Bool
  readGrant : Bytes → Except String ConsentGrant
  decodeStandard_empty : decodeStandard "" = .ok []
  decodeUrlSafe_empty : decodeUrlSafe "" = .ok []
  readGrant_empty : ∀ grant, readGrant [] ≠ .ok grant

def verifyEnvelope (v : Verifier) (envelope : SignedConsent) : Except String ConsentGrant := do
  ensure (envelope.alg = "Ed25519") ("unsupported consent signature alg " ++ envelope.alg.quote)
  let payload ← (v.decodeStandard envelope.payloadB64).mapError ("consent payload base64: " ++ ·)
  let sig ← (v.decodeUrlSafe envelope.signature).mapError ("consent signature base64: " ++ ·)
  let key ← (v.decodeStandard v.verifyKey).mapError ("consent verify key base64: " ++ ·)
  ensure (key.length = 32) "consent verify key must be 32 bytes"
  (v.keyOfBytes key).mapError ("consent verify key invalid: " ++ ·)
  ensure (sig.length = 64) "consent signature must be 64 bytes"
  ensure (v.verifies key payload sig) "consent grant signature verification failed"
  (v.readGrant payload).mapError ("consent payload malformed: " ++ ·)

/-- What `consent.json` holds. -/
inductive ConsentFile where
  | missing
  | envelope (envelope : SignedConsent)
  | plain (grant : ConsentGrant)
  | unreadable (error : String)
  deriving DecidableEq

structure LoadedConsent where
  grant : Option ConsentGrant
  signed : Bool
  note : Option String

/-- `load_verified`, under a Desktop that signs. -/
def loadVerified (v : Verifier) : ConsentFile → LoadedConsent
  | .missing => ⟨none, false, none⟩
  | .envelope envelope =>
    if envelope.payloadB64 ≠ "" ∧ envelope.signature ≠ "" then
      match verifyEnvelope v envelope with
      | .ok grant => ⟨some grant, true, none⟩
      | .error e => ⟨none, false, some ("stored consent grant failed verification: " ++ e)⟩
    else ⟨none, false, some "consent record unreadable: missing field"⟩
  | .plain _ =>
    ⟨none, false,
      some "an unsigned (legacy) consent record is present but this Desktop signs grants — re-consent required"⟩
  | .unreadable e => ⟨none, false, some ("consent record unreadable: " ++ e)⟩

/-- The two files: the record, and the moment the floor reads as, in nanoseconds. -/
structure Disk where
  file : ConsentFile
  floor : Option ℤ
  deriving DecidableEq

/-- How a write ends. The last one has replaced the file and then failed to sync the directory. -/
inductive Write where
  | done
  | failed (error : String)
  | unsynced (error : String)
  deriving DecidableEq

def atomicWrite {α : Type} (write : Write) (old new : α) : Except String Unit × α :=
  match write with
  | .done => (.ok (), new)
  | .failed e => (.error e, old)
  | .unsynced e => (.error e, new)

/-- Times as `chrono` reads and prints them. -/
structure Chrono where
  parseInstant : String → Option ℤ
  secsText : ℤ → String

def truncSecs (t : ℤ) : ℤ := t / 1000000000 * 1000000000

section Floor

variable (chrono : Chrono)

def raiseFloor (floor : Option ℤ) (now : String) (write : Write) : Except String Unit × Option ℤ :=
  match chrono.parseInstant now with
  | none => (.error ("consent floor: " ++ now.quote ++ " is not a timestamp"), floor)
  | some new => if floor.any fun old => new ≤ old then (.ok (), floor) else atomicWrite write floor
      (some (truncSecs new))

def newest (stored : Option ConsentGrant) (floor : Option ℤ) : Option ℤ :=
  match stored.bind fun g => chrono.parseInstant g.acceptedAt, floor with
  | some a, some b => some (max a b)
  | a, b => a.or b

def replayRefusal (grant : ConsentGrant) (stored : Option ConsentGrant) (floor : Option ℤ) : Option String :=
  match chrono.parseInstant grant.acceptedAt with
  | none => some ("the grant's acceptedAt (" ++ grant.acceptedAt.quote ++ ") is not a timestamp")
  | some accepted =>
    match newest chrono stored floor with
    | none => none
    | some newest =>
      if accepted < newest then
        some ("the grant was accepted at " ++ grant.acceptedAt ++
          ", before the consent already recorded or revoked (" ++
          chrono.secsText newest ++ ") — an older grant cannot replace it")
      else none

end Floor

section Commands

variable (v : Verifier) (chrono : Chrono)

def recorded (disk : Disk) : Option ConsentGrant := (loadVerified v disk.file).grant

def refuse (why : Option String) : Except String Unit :=
  match why with
  | some why => .error ("consent.set refused: " ++ why)
  | none => .ok ()

/-- The checks of `consent_set`. `covers` is what the settings of the moment ask of a grant. -/
def checkGrant (covers : ConsentGrant → Except String Unit) (disk : Disk) (envelope : SignedConsent) :
    Except String ConsentGrant := do
  let grant ← (verifyEnvelope v envelope).mapError ("consent.set: " ++ ·)
  refuse (replayRefusal chrono grant (recorded v disk) disk.floor)
  (covers grant).mapError ("consent.set: signed grant does not cover the current configuration — " ++ ·)
  pure grant

def consentSet (covers : ConsentGrant → Except String Unit) (write : Write) (disk : Disk) (envelope : SignedConsent) :
    Disk × Except String Unit :=
  match checkGrant v chrono covers disk envelope with
  | .error e => (disk, .error e)
  | .ok _ =>
    let (result, file) := atomicWrite write disk.file (.envelope envelope)
    ({ disk with file }, result)

def consentRevoke (now : String) (floorWrite : Write) (remove : Except String Unit) (disk : Disk) :
    Disk × Except String Unit :=
  let floor := (raiseFloor chrono disk.floor now floorWrite).2
  match remove with
  | .ok () => (⟨.missing, floor⟩, .ok ())
  | .error e => ({ disk with floor }, .error e)

inductive Command where
  | set (envelope : SignedConsent) (covers : ConsentGrant → Except String Unit) (write : Write)
  | revoke (now : String) (floorWrite : Write) (remove : Except String Unit)

def step : Machine Disk Command (Except String Unit)
  | disk, .set envelope covers write => consentSet v chrono covers write disk envelope
  | disk, .revoke now floorWrite remove => consentRevoke chrono now floorWrite remove disk

end Commands

section Retired

variable {v : Verifier} {chrono : Chrono} {disk next : Disk} {command : Command} {g : ConsentGrant} {a : ℤ}

lemma mapError_eq_ok_iff {α : Type} {x : Except String α} {f : String → String} {y : α} :
    x.mapError f = .ok y ↔ x = .ok y := by
  cases x <;> simp [Except.mapError]

lemma ne_empty_of_verifyEnvelope {envelope : SignedConsent} (h : verifyEnvelope v envelope = .ok g) :
    envelope.payloadB64 ≠ "" ∧ envelope.signature ≠ "" := by
  simp only [verifyEnvelope, bind_eq_ok_iff, mapError_eq_ok_iff, ensure_eq_ok_iff] at h
  obtain ⟨_, -, payload, hpayload, sig, hsig, key, -, _, -, _, -, _, hlen, _, -, hgrant⟩ := h
  constructor
  · intro hempty
    rw [hempty, v.decodeStandard_empty] at hpayload
    obtain rfl := Except.ok.inj hpayload
    exact v.readGrant_empty g hgrant
  · intro hempty
    rw [hempty, v.decodeUrlSafe_empty] at hsig
    obtain rfl := Except.ok.inj hsig
    simp at hlen

lemma recorded_envelope {envelope : SignedConsent} {floor : Option ℤ} (h : verifyEnvelope v envelope = .ok g) :
    recorded v ⟨.envelope envelope, floor⟩ = some g := by
  simp [recorded, loadVerified, ne_empty_of_verifyEnvelope h, h]

lemma checkGrant_ok {covers : ConsentGrant → Except String Unit} {envelope : SignedConsent}
    (h : checkGrant v chrono covers disk envelope = .ok g) :
    verifyEnvelope v envelope = .ok g ∧ ∃ accepted, chrono.parseInstant g.acceptedAt = some accepted ∧
      ∀ n ∈ newest chrono (recorded v disk) disk.floor, n ≤ accepted := by
  simp only [checkGrant, bind_eq_ok_iff, mapError_eq_ok_iff] at h
  obtain ⟨grant, hverify, _, hreplay, _, -, hgrant⟩ := h
  obtain rfl := pure_eq_ok_iff.mp hgrant
  refine ⟨hverify, ?_⟩
  cases haccepted : chrono.parseInstant grant.acceptedAt with
  | none => simp [refuse, replayRefusal, haccepted] at hreplay
  | some accepted =>
    refine ⟨accepted, rfl, ?_⟩
    intro n hn
    by_contra hlt
    have hnewest : newest chrono (recorded v disk) disk.floor = some n := hn
    simp [refuse, replayRefusal, haccepted, hnewest, not_le.mp hlt] at hreplay

lemma le_newest_of_floor {stored : Option ConsentGrant} {floor : Option ℤ} {f : ℤ} (h : floor = some f) :
    ∃ n ∈ newest chrono stored floor, f ≤ n := by
  subst h
  cases hstored : stored.bind fun g => chrono.parseInstant g.acceptedAt with
  | none => exact ⟨f, by simp [newest, hstored], le_rfl⟩
  | some x => exact ⟨max x f, by simp [newest, hstored], le_max_right _ _⟩

lemma le_newest_of_stored {grant : ConsentGrant} {floor : Option ℤ} {x : ℤ}
    (h : chrono.parseInstant grant.acceptedAt = some x) :
    ∃ n ∈ newest chrono (some grant) floor, x ≤ n := by
  cases floor with
  | none => exact ⟨x, by simp [newest, h], le_rfl⟩
  | some f => exact ⟨max x f, by simp [newest, h], le_max_left _ _⟩

def Guarded (v : Verifier) (chrono : Chrono) (disk : Disk) (a : ℤ) : Prop :=
  (∃ f, disk.floor = some f ∧ a < f) ∨
    ∃ grant x, recorded v disk = some grant ∧ chrono.parseInstant grant.acceptedAt = some x ∧ a < x

lemma Guarded.lt_newest (h : Guarded v chrono disk a) : ∃ n ∈ newest chrono (recorded v disk) disk.floor, a < n := by
  rcases h with ⟨f, hfloor, hlt⟩ | ⟨grant, x, hgrant, hx, hlt⟩
  · obtain ⟨n, hn, hle⟩ := le_newest_of_floor hfloor
    exact ⟨n, hn, hlt.trans_le hle⟩
  · rw [hgrant]
    obtain ⟨n, hn, hle⟩ := le_newest_of_stored hx
    exact ⟨n, hn, hlt.trans_le hle⟩

def WholeSecs (disk : Disk) : Prop := ∀ f ∈ disk.floor, truncSecs f = f

structure Gone (v : Verifier) (chrono : Chrono) (g : ConsentGrant) (disk : Disk) : Prop where
  wholeSecs : WholeSecs disk
  off : recorded v disk ≠ some g
  guarded : ∀ a, chrono.parseInstant g.acceptedAt = some a → Guarded v chrono disk a

/-! The floor. -/

lemma truncSecs_mono {s t : ℤ} (h : s ≤ t) : truncSecs s ≤ truncSecs t := by
  simp only [truncSecs]
  omega

lemma truncSecs_le (t : ℤ) : truncSecs t ≤ t := by
  simp only [truncSecs]
  omega

lemma truncSecs_truncSecs (t : ℤ) : truncSecs (truncSecs t) = truncSecs t := by
  simp only [truncSecs]
  omega

lemma raiseFloor_wholeSecs {floor : Option ℤ} {now : String} {write : Write} (h : ∀ f ∈ floor, truncSecs f = f) :
    ∀ f ∈ (raiseFloor chrono floor now write).2, truncSecs f = f := by
  rw [raiseFloor]
  split
  · exact h
  · rename_i new _
    split_ifs
    · exact h
    · cases write with
      | failed e => exact h
      | done => simp [atomicWrite, truncSecs_truncSecs]
      | unsynced e => simp [atomicWrite, truncSecs_truncSecs]

lemma raiseFloor_le {floor : Option ℤ} {now : String} {write : Write} (h : ∀ f ∈ floor, truncSecs f = f) {f : ℤ}
    (hf : floor = some f) :
    ∃ f', (raiseFloor chrono floor now write).2 = some f' ∧ f ≤ f' := by
  subst hf
  rw [raiseFloor]
  split
  · exact ⟨f, rfl, le_rfl⟩
  · rename_i new _
    split_ifs with hold
    · exact ⟨f, rfl, le_rfl⟩
    · have hle : f ≤ truncSecs new := by
        rw [← h f rfl]
        apply truncSecs_mono
        simp only [Option.any_some, decide_eq_true_eq] at hold
        omega
      cases write with
      | failed e => exact ⟨f, rfl, le_rfl⟩
      | done => exact ⟨truncSecs new, rfl, hle⟩
      | unsynced e => exact ⟨truncSecs new, rfl, hle⟩

/-! Steps. -/

/-- When a revoke forgets a grant, the floor is left above it: the grant was below the floor already, or it is older
than the whole second of the clock and the floor is written. No write reports a failure after it has replaced the
record. -/
def Covered (v : Verifier) (chrono : Chrono) (disk : Disk) : Command → Prop
  | .set _ _ write => ∀ e, write ≠ .unsynced e
  | .revoke now floorWrite remove => remove = .ok () → ∀ grant x, recorded v disk = some grant →
      chrono.parseInstant grant.acceptedAt = some x →
        (∃ f, disk.floor = some f ∧ x < f) ∨
          ((∀ e, floorWrite ≠ .failed e) ∧ ∃ n, chrono.parseInstant now = some n ∧ x < truncSecs n)

lemma lt_raiseFloor {floor : Option ℤ} {now : String} {write : Write} {x : ℤ} (h : ∀ f ∈ floor, truncSecs f = f)
    (hx : (∃ f, floor = some f ∧ x < f) ∨ ((∀ e, write ≠ .failed e) ∧ ∃ n, chrono.parseInstant now = some n ∧
      x < truncSecs n)) :
    ∃ f, (raiseFloor chrono floor now write).2 = some f ∧ x < f := by
  obtain ⟨f, hf, hlt⟩ | ⟨hwrite, n, hn, hlt⟩ := hx
  · obtain ⟨f', hf', hle⟩ := raiseFloor_le h hf
    exact ⟨f', hf', hlt.trans_le hle⟩
  · simp only [raiseFloor, hn]
    split_ifs with hold
    · obtain ⟨f, hf, hle⟩ := (Option.any_eq_true _ _).mp hold
      simp only [decide_eq_true_eq] at hle
      exact ⟨f, hf, hlt.trans_le ((truncSecs_le n).trans hle)⟩
    · cases write with
      | failed e => exact absurd rfl (hwrite e)
      | done => exact ⟨truncSecs n, rfl, hlt⟩
      | unsynced e => exact ⟨truncSecs n, rfl, hlt⟩

lemma step_wholeSecs (h : WholeSecs disk) : WholeSecs (step v chrono disk command).1 := by
  cases command with
  | set envelope covers write =>
    simp only [step, consentSet]
    split <;> exact h
  | revoke now floorWrite remove =>
    simp only [step, consentRevoke]
    cases remove <;> exact raiseFloor_wholeSecs h

lemma consentSet_cases (covers : ConsentGrant → Except String Unit) (write : Write) (disk : Disk)
    (envelope : SignedConsent) :
    (consentSet v chrono covers write disk envelope).1 = disk ∨
      ∃ grant, checkGrant v chrono covers disk envelope = .ok grant ∧
        (consentSet v chrono covers write disk envelope).1 = { disk with file := .envelope envelope } := by
  cases hcheck : checkGrant v chrono covers disk envelope with
  | error e => exact Or.inl (by simp [consentSet, hcheck])
  | ok grant =>
    cases write with
    | failed e => exact Or.inl (by simp [consentSet, hcheck, atomicWrite])
    | done => exact Or.inr ⟨grant, rfl, by simp [consentSet, hcheck, atomicWrite]⟩
    | unsynced e => exact Or.inr ⟨grant, rfl, by simp [consentSet, hcheck, atomicWrite]⟩

lemma Gone.set (h : Gone v chrono g disk) {covers : ConsentGrant → Except String Unit} {write : Write}
    {envelope : SignedConsent} :
    Gone v chrono g (consentSet v chrono covers write disk envelope).1 := by
  obtain hsame | ⟨grant, hcheck, hnext⟩ := consentSet_cases (v := v) covers write disk envelope
  · rwa [hsame]
  · obtain ⟨hverify, accepted, haccepted, hnewest⟩ := checkGrant_ok hcheck
    rw [hnext]
    have hrecorded : recorded v ⟨.envelope envelope, disk.floor⟩ = some grant := recorded_envelope hverify
    refine ⟨h.wholeSecs, ?_, ?_⟩
    · rw [hrecorded]
      rintro hsame
      obtain rfl := Option.some.inj hsame
      obtain ⟨n, hn, hlt⟩ := (h.guarded accepted haccepted).lt_newest
      exact absurd (hnewest n hn) (not_le.mpr hlt)
    · intro a ha
      obtain ⟨f, hfloor, hlt⟩ | hstored := h.guarded a ha
      · exact Or.inl ⟨f, hfloor, hlt⟩
      · obtain ⟨n, hn, hlt⟩ := (h.guarded a ha).lt_newest
        exact Or.inr ⟨grant, accepted, hrecorded, haccepted, hlt.trans_le (hnewest n hn)⟩

lemma Gone.revoke (h : Gone v chrono g disk) {now : String} {floorWrite : Write} {remove : Except String Unit}
    (hcovered : Covered v chrono disk (.revoke now floorWrite remove)) :
    Gone v chrono g (consentRevoke chrono now floorWrite remove disk).1 := by
  have hwhole : WholeSecs (step v chrono disk (.revoke now floorWrite remove)).1 := step_wholeSecs h.wholeSecs
  cases remove with
  | ok done =>
    refine ⟨hwhole, by simp [consentRevoke, recorded, loadVerified], ?_⟩
    intro a ha
    left
    obtain ⟨f, hfloor, hlt⟩ | ⟨grant, x, hgrant, hx, hlt⟩ := h.guarded a ha
    · exact lt_raiseFloor h.wholeSecs (Or.inl ⟨f, hfloor, hlt⟩)
    · obtain ⟨f, hfloor, hle⟩ := lt_raiseFloor h.wholeSecs (hcovered rfl grant x hgrant hx)
      exact ⟨f, hfloor, hlt.trans hle⟩
  | error e =>
    refine ⟨hwhole, h.off, ?_⟩
    intro a ha
    obtain ⟨f, hfloor, hlt⟩ | hstored := h.guarded a ha
    · exact Or.inl (lt_raiseFloor h.wholeSecs (Or.inl ⟨f, hfloor, hlt⟩))
    · exact Or.inr hstored

lemma Gone.step (h : Gone v chrono g disk) (hcovered : Covered v chrono disk command) :
    Gone v chrono g (step v chrono disk command).1 := by
  cases command with
  | set envelope covers write => exact h.set
  | revoke now floorWrite remove => exact h.revoke hcovered

/-- The grant of an envelope leaves the record: a later one takes its place, or a revoke succeeds. -/
def Retires (v : Verifier) (chrono : Chrono) (disk : Disk) (command : Command) (g : ConsentGrant) : Prop :=
  recorded v disk = some g ∧
    ((∃ later a b, recorded v (Consent.step v chrono disk command).1 = some later ∧
      chrono.parseInstant g.acceptedAt = some a ∧
        chrono.parseInstant later.acceptedAt = some b ∧ a < b) ∨
      ∃ now floorWrite remove, command = .revoke now floorWrite remove ∧
        (Consent.step v chrono disk command).2 = .ok ())

lemma Retires.gone (h : Retires v chrono disk command g) (hwhole : WholeSecs disk)
    (hcovered : Covered v chrono disk command) :
    Gone v chrono g (Consent.step v chrono disk command).1 := by
  obtain ⟨hrecorded, ⟨later, a, b, hlater, ha, hb, hlt⟩ | ⟨now, floorWrite, remove, rfl, hok⟩⟩ := h
  · refine ⟨step_wholeSecs hwhole, ?_, ?_⟩
    · rw [hlater]
      rintro hsame
      obtain rfl := Option.some.inj hsame
      obtain rfl := Option.some.inj (ha.symm.trans hb)
      exact lt_irrefl a hlt
    · intro a' ha'
      obtain rfl := Option.some.inj (ha.symm.trans ha')
      exact Or.inr ⟨later, b, hlater, hb, hlt⟩
  · cases remove with
    | error e => simp [Consent.step, consentRevoke] at hok
    | ok done =>
      refine ⟨step_wholeSecs hwhole, by simp [Consent.step, consentRevoke, recorded, loadVerified], ?_⟩
      intro a ha
      exact Or.inl (lt_raiseFloor hwhole (hcovered rfl g a hrecorded ha))

/-- In a run whose revokes leave the floor above what they forget, a grant once replaced or revoked is never on
record again, and a `consent.set` that fails changes neither file. -/
theorem retired_stays_retired {file : ConsentFile} {before after : List Command}
    (hrun : (Consent.step v chrono).Along (Covered v chrono) ⟨file, none⟩ (before ++ command :: after)) :
    (∀ g, Retires v chrono ((Consent.step v chrono).final ⟨file, none⟩ before) command g →
      recorded v ((Consent.step v chrono).final ⟨file, none⟩ (before ++ command :: after)) ≠ some g) ∧
    (∀ envelope covers write e, command = .set envelope covers write →
      (Consent.step v chrono ((Consent.step v chrono).final ⟨file, none⟩ before) command).2 = .error e →
        (Consent.step v chrono ((Consent.step v chrono).final ⟨file, none⟩ before) command).1 =
          (Consent.step v chrono).final ⟨file, none⟩ before) := by
  obtain ⟨-, hcovered, hafter⟩ := Machine.along_append.mp hrun
  have hstart : WholeSecs ⟨file, none⟩ := by
    intro f hf
    simp at hf
  have hwhole := Machine.always (m := Consent.step v chrono) (fun _ _ => step_wholeSecs) hstart before
  constructor
  · intro g hretires
    rw [Machine.final_append, Machine.final_cons]
    exact (Machine.invariant (fun _ _ hc hg => hg.step hc) hafter (hretires.gone hwhole hcovered)).off
  · rintro envelope covers write e rfl hanswer
    simp only [Consent.step, consentSet] at hanswer ⊢
    split at hanswer
    · rfl
    · cases write with
      | done => simp [atomicWrite] at hanswer
      | failed e => simp [atomicWrite]
      | unsynced e => exact absurd rfl (hcovered e)

end Retired

/-! A grant, a revoke in the same second, and the grant again. -/

def sampleGrant : ConsentGrant where
  version := 3
  scopes := { bluetooth := true }
  acceptedAt := "2026-07-12T00:00:00.500Z"

def sampleEnvelope : SignedConsent := ⟨1, "Ed25519", "desktop", "Z3JhbnQ=", "c2lnbmF0dXJl"⟩

def sampleVerifier : Verifier where
  verifyKey := "a2V5"
  decodeStandard text :=
    if text = "" then .ok []
    else if text = "a2V5" then .ok (List.replicate 32 7)
    else if text = "Z3JhbnQ=" then .ok [103]
    else .error "Invalid symbol"
  decodeUrlSafe text := if text = "" then .ok [] else if text = "c2lnbmF0dXJl" then .ok
    (List.replicate 64 9) else .error "Invalid symbol"
  keyOfBytes _ := .ok ()
  verifies _ payload sig := payload == [103] && sig == List.replicate 64 9
  readGrant bytes := if bytes = [103] then .ok sampleGrant else .error "EOF while parsing a value"
  decodeStandard_empty := rfl
  decodeUrlSafe_empty := rfl
  readGrant_empty := by simp

def sampleChrono : Chrono where
  parseInstant text :=
    if text = "2026-07-12T00:00:00.500Z" then some 1783814400500000000
    else if text = "2026-07-12T00:00:00.900Z" then some 1783814400900000000
    else if text = "2026-07-12T00:00:05.000Z" then some 1783814405000000000
    else none
  secsText _ := "2026-07-12T00:00:05Z"

def setSample : Command := .set sampleEnvelope (fun _ => .ok ()) .done

lemma sample_recorded : recorded sampleVerifier ⟨.envelope sampleEnvelope, none⟩ = some sampleGrant := by
  rfl

theorem revoked_after_five_seconds :
    recorded sampleVerifier ((step sampleVerifier sampleChrono).final ⟨.missing, none⟩
      ([setSample] ++ .revoke "2026-07-12T00:00:05.000Z" .done (.ok ()) :: [setSample])) ≠ some sampleGrant := by
  have hfirst : (step sampleVerifier sampleChrono).final ⟨.missing, none⟩ [setSample] =
      ⟨.envelope sampleEnvelope, none⟩ := by
    rfl
  apply (retired_stays_retired ?_).1
  · refine ⟨by rw [hfirst]; exact sample_recorded, Or.inr ⟨_, _, _, rfl, rfl⟩⟩
  · refine ⟨by simp [Covered, setSample], ?_, by simp [Covered, setSample], trivial⟩
    intro _ grant x hgrant hx
    right
    refine ⟨by simp, 1783814405000000000, rfl, ?_⟩
    have hsame : some sampleGrant = some grant := hgrant
    obtain rfl := Option.some.inj hsame
    have hmoment : some 1783814400500000000 = some x := hx
    obtain rfl := Option.some.inj hmoment
    decide

theorem revoked_grant_returns :
    ¬ ∀ (v : Verifier) (chrono : Chrono) (file : ConsentFile) (before : List Command) (command : Command)
      (after : List Command)
        (g : ConsentGrant), Retires v chrono ((step v chrono).final ⟨file, none⟩ before) command g →
      recorded v ((step v chrono).final ⟨file, none⟩ (before ++ command :: after)) ≠ some g := by
  intro h
  have hfirst : (step sampleVerifier sampleChrono).final ⟨.missing, none⟩ [setSample] =
      ⟨.envelope sampleEnvelope, none⟩ := by
    rfl
  refine h sampleVerifier sampleChrono .missing [setSample] (.revoke "2026-07-12T00:00:00.900Z" .done (.ok ()))
    [setSample] sampleGrant
    ⟨by rw [hfirst]; exact sample_recorded, Or.inr ⟨_, _, _, rfl, rfl⟩⟩ ?_
  rfl

end Aokie.Plugin.Consent
