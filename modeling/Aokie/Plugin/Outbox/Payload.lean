import Aokie.Lib.Json
import Aokie.Lib.Rfc3339
import Aokie.Lib.Rust

/-! Events, their fingerprints, and how a payload is sealed for the file and opened again. -/

namespace Aokie.Plugin.Outbox

open Aokie.Lib

inductive EventSeverity
  | debug | info | warning | error
  deriving DecidableEq, Repr

def EventSeverity.asStr : EventSeverity → String
  | debug => "debug"
  | info => "info"
  | warning => "warning"
  | error => "error"

abbrev Text := List Char

structure DesktopEvent where
  schemaVersion : ℕ
  source : String
  name : String
  correlationId : String
  idempotencyKey : String
  occurredAt : String
  data : Json
  pluginId : Option String
  connectorId : Option String
  severity : Option EventSeverity

/-- `obj.remove("at")` where the data are an object. -/
def removeAt : Json → Json
  | .object fields => .object (fields.filter fun field => field.1 != "at")
  | data => data

/-- The envelope's fields as they are written, the optional ones where there are any. -/
def DesktopEvent.toJson (event : DesktopEvent) : Json :=
  .object ([("schemaVersion", .number (.ofNat event.schemaVersion)), ("source", .string event.source),
    ("name", .string event.name), ("correlationId", .string event.correlationId),
    ("idempotencyKey", .string event.idempotencyKey), ("occurredAt", .string event.occurredAt),
    ("data", event.data)] ++
    event.pluginId.toList.map (fun id => ("pluginId", .string id)) ++
    event.connectorId.toList.map (fun id => ("connectorId", .string id)) ++
    event.severity.toList.map (fun severity => ("severity", .string severity.asStr)))

def eventToString (event : DesktopEvent) : Text := event.toJson.print

inductive PayloadProtection
  | dpapi | keychain | devPlaintext | unavailable
  deriving DecidableEq, Repr

inductive Platform
  | windows | macos | linux | other
  deriving DecidableEq, Repr

/-- The two ways to seal and to open a text, which the outbox takes from outside, with the nonce drawn. -/
structure System where
  platform : Platform
  dpapiProtect : ℕ → Text → Except String Text
  dpapiUnprotect : Text → Except String Text
  protect : ℕ → Text → Except String Text
  unprotect : Text → Except String Text

def dpapiPrefix : Text := "dpapi1:".toList
def keychainPrefix : Text := "keychain1:".toList
def quarantinedPayload : Text := "quarantined:".toList

def startsWith (text start : Text) : Bool := start.isPrefixOf text

/-- `text LIKE 'start%'`: SQLite folds the case of ASCII letters. -/
def like (text start : Text) : Bool := (start.map Char.toLower).isPrefixOf (text.map Char.toLower)

/-- A clock and key as a thread finds them at one moment: the key is given, or refused with a text. -/
structure Env where
  now : ℤ
  instant : Instant
  key : Except String Unit
  nonce : ℕ
  sqlFails : Bool

def fnvOffset : UInt64 := 0xcbf29ce484222325
def fnvPrime : UInt64 := 0x00000100000001b3

def payloadFingerprint (event : DesktopEvent) : String :=
  let data := removeAt event.data
  let canonical := event.name ++ "\n" ++ event.correlationId ++ "\n" ++ String.ofList data.print
  let hash := (intoBytes canonical).foldl (fun hash byte => (hash ^^^ byte.toUInt64) * fnvPrime) fnvOffset
  "fnv1a64:" ++ hex 16 hash.toNat

def nowIso8601 (env : Env) : String := rfc3339 env.now

def iso8601AfterSecs (env : Env) (secs : ℤ) : String := rfc3339 (env.now + secs * 1000)

lemma eventToString_head (event : DesktopEvent) : ∃ rest, eventToString event = '{' :: rest := by
  simp only [eventToString, DesktopEvent.toJson, Json.print]
  exact ⟨_, rfl⟩

lemma EventSeverity.asStr_injective : Function.Injective EventSeverity.asStr := by
  intro a b h
  cases a <;> cases b <;> first | rfl | simp [asStr] at h

theorem eventToString_injective : Function.Injective eventToString := by
  intro a b h
  have hjson := Json.print_injective h
  rcases a with ⟨version, source, name, corr, key, at_, data, plugin, connector, severity⟩
  rcases b with ⟨version', source', name', corr', key', at', data', plugin', connector', severity'⟩
  simp only [DesktopEvent.toJson, Json.object.injEq, List.cons_append, List.nil_append, List.cons.injEq, Prod.mk.injEq,
    true_and, Json.number.injEq, Json.string.injEq, JsonNumber.ofNat_injective.eq_iff] at hjson
  obtain ⟨rfl, rfl, rfl, rfl, rfl, rfl, rfl, hrest⟩ := hjson
  have hoptional : plugin = plugin' ∧ connector = connector' ∧ severity = severity' := by
    rcases plugin with - | plugin <;> rcases plugin' with - | plugin' <;> rcases connector with - | connector <;>
      rcases connector' with - | connector' <;> rcases severity with - | severity <;>
      rcases severity' with - | severity' <;> simp_all [EventSeverity.asStr_injective.eq_iff]
  obtain ⟨rfl, rfl, rfl⟩ := hoptional
  rfl

namespace System

variable (sys : System)

def platformProtection (allowUnprotected : Bool) : PayloadProtection :=
  match sys.platform with
  | .windows => .dpapi
  | .macos | .linux => if allowUnprotected then .devPlaintext else .keychain
  | .other => if allowUnprotected then .devPlaintext else .unavailable

def protectPayload (env : Env) (mode : PayloadProtection) (plain : Text) : Except String Text :=
  match mode with
  | .dpapi =>
    if sys.platform = .windows then env.key.bind fun _ => sys.dpapiProtect env.nonce plain
    else .error "DPAPI is not available on this platform"
  | .keychain => env.key.bind fun _ => sys.protect env.nonce plain
  | .devPlaintext => .ok plain
  | .unavailable => .error ("no OS payload protection on this platform " ++
      "(set AOKIE_ALLOW_UNPROTECTED_OUTBOX=1 to accept plaintext in dev)")

def unprotectPayload (key : Except String Unit) (stored : Text) : Except String Text :=
  if startsWith stored quarantinedPayload then
    .error ("payload was quarantined at write (" ++
      String.ofList (stored.drop quarantinedPayload.length) ++ ")")
  else if startsWith stored keychainPrefix then
    key.bind fun _ => sys.unprotect stored
  else if startsWith stored dpapiPrefix then
    if sys.platform = .windows then
      key.bind fun _ => sys.dpapiUnprotect (stored.drop dpapiPrefix.length)
    else .error "protected payload requires Windows DPAPI"
  else .ok stored

def isSealed (stored : Text) : Bool := startsWith stored keychainPrefix || startsWith stored dpapiPrefix

def opened (stored : Text) : Option Text := (sys.unprotectPayload (.ok ()) stored).toOption

/-- What the outbox relies on of the code it takes from outside. -/
structure Lawful : Prop where
  dpapi_opens {nonce : ℕ} {plain token : Text} (hplatform : sys.platform = .windows)
    (h : sys.dpapiProtect nonce plain = .ok token) :
    ∃ rest, token = dpapiPrefix ++ rest ∧ sys.dpapiUnprotect rest = .ok plain
  keychain_opens {nonce : ℕ} {plain token : Text} (hplatform : sys.platform = .macos ∨ sys.platform = .linux)
    (h : sys.protect nonce plain = .ok token) :
    startsWith token keychainPrefix = true ∧ sys.unprotect token = .ok plain

variable {sys}

lemma unprotectPayload_of_quarantined (sys : System) (key : Except String Unit) {stored : Text}
    (h : startsWith stored quarantinedPayload = true) : ∃ e, sys.unprotectPayload key stored = .error e := by
  simp only [unprotectPayload, h, if_true]
  exact ⟨_, rfl⟩

lemma opened_of_quarantined {stored : Text} (h : startsWith stored quarantinedPayload = true) :
    sys.opened stored = none := by
  obtain ⟨e, he⟩ := unprotectPayload_of_quarantined sys (.ok ()) h
  simp [opened, he, Except.toOption]

lemma not_quarantined_of_opened {stored text : Text} (h : sys.opened stored = some text) :
    startsWith stored quarantinedPayload = false := by
  by_contra hq
  rw [opened_of_quarantined (by simpa using hq)] at h
  simp at h

lemma opened_of_unprotect {key : Except String Unit} {stored text : Text}
    (h : sys.unprotectPayload key stored = .ok text) : sys.opened stored = some text := by
  rcases key with e | ⟨⟩
  · simp only [unprotectPayload, Except.bind] at h
    split_ifs at h with hq hk hd
    rw [opened, unprotectPayload, if_neg hq, if_neg hk, if_neg hd, h]
    rfl
  · rw [opened, h]
    rfl

lemma opened_of_not_sealed {key : Except String Unit} {stored : Text} {e : String} (hs : ¬isSealed stored = true)
    (h : sys.unprotectPayload key stored = .error e) : sys.opened stored = none := by
  simp only [isSealed, Bool.or_eq_true, not_or] at hs
  rw [unprotectPayload, if_neg hs.1, if_neg hs.2] at h
  split_ifs at h with hq
  exact opened_of_quarantined hq

lemma head_of_startsWith {text start : Text} {c : Char} {rest : List Char} (hstart : start = c :: rest)
    (h : startsWith text start = true) : ∃ more, text = c :: more := by
  simp only [startsWith, hstart] at h
  rcases htext : text with - | ⟨d, more⟩
  · simp [htext] at h
  · simp only [htext, List.isPrefixOf, Bool.and_eq_true, beq_iff_eq] at h
    exact ⟨more, by rw [h.1]⟩

lemma startsWith_of_head {text start : Text} {c d : Char} {rest more : List Char} (hstart : start = c :: rest)
    (htext : text = d :: more) (h : c ≠ d) : startsWith text start = false := by
  simp [startsWith, hstart, htext, List.isPrefixOf, h]

lemma like_of_head {text start : Text} {c d : Char} {rest more : List Char} (hstart : start = c :: rest)
    (htext : text = d :: more) (h : c.toLower ≠ d.toLower) : like text start = false := by
  simp [like, hstart, htext, List.isPrefixOf, h]

lemma marks : quarantinedPayload = 'q' :: "uarantined:".toList ∧ keychainPrefix = 'k' :: "eychain1:".toList ∧
    dpapiPrefix = 'd' :: "papi1:".toList := by decide

/-- A sealed event: it opens to the event's text and is no quarantine marker. -/
structure Seals (sys : System) (token : Text) (event : DesktopEvent) : Prop where
  opens : sys.opened token = some (eventToString event)
  not_like : like token quarantinedPayload = false

lemma Lawful.seals (hsys : sys.Lawful) {env : Env} {allow : Bool} {event : DesktopEvent} {token : Text}
    (h : sys.protectPayload env (sys.platformProtection allow) (eventToString event) = .ok token) :
    sys.Seals token event := by
  obtain ⟨hq, hk, hd⟩ := marks
  -- the three modes that seal: each token shows by its first character which way it is opened
  have hplain : sys.Seals (eventToString event) event := by
    obtain ⟨rest, htext⟩ := eventToString_head event
    refine ⟨?_, like_of_head hq htext (by decide)⟩
    rw [opened, unprotectPayload, startsWith_of_head hq htext (by decide), startsWith_of_head hk htext (by decide),
      startsWith_of_head hd htext (by decide)]
    rfl
  have hkeychain (hp : sys.platform = .macos ∨ sys.platform = .linux)
      (h : sys.protectPayload env .keychain (eventToString event) = .ok token) : sys.Seals token event := by
    rw [protectPayload] at h
    rcases hkey : env.key with e | ⟨⟩
    · simp [hkey, Except.bind] at h
    · rw [hkey] at h
      obtain ⟨hstart, hopen⟩ := hsys.keychain_opens hp h
      obtain ⟨more, hmore⟩ := head_of_startsWith hk hstart
      refine ⟨?_, like_of_head hq hmore (by decide)⟩
      rw [opened, unprotectPayload, startsWith_of_head hq hmore (by decide), hstart, hopen]
      simp [Except.bind, Except.toOption]
  have hdpapi (hp : sys.platform = .windows)
      (h : sys.protectPayload env .dpapi (eventToString event) = .ok token) : sys.Seals token event := by
    rw [protectPayload, if_pos hp] at h
    rcases hkey : env.key with e | ⟨⟩
    · simp [hkey, Except.bind] at h
    · rw [hkey] at h
      obtain ⟨rest, htoken, hopen⟩ := hsys.dpapi_opens hp h
      have hhead : token = 'd' :: ("papi1:".toList ++ rest) := by rw [htoken, hd]; rfl
      have hstart : startsWith token dpapiPrefix = true := by simp [startsWith, htoken]
      refine ⟨?_, like_of_head hq hhead (by decide)⟩
      rw [opened, unprotectPayload, startsWith_of_head hq hhead (by decide),
        startsWith_of_head hk hhead (by decide), hstart, if_pos hp, htoken, List.drop_left, hopen]
      rfl
  rcases hp : sys.platform with - | - | - | - <;> rw [platformProtection, hp] at h
  · exact hdpapi hp h
  · split_ifs at h
    · obtain rfl : eventToString event = token := Except.ok.inj h
      exact hplain
    · exact hkeychain (.inl hp) h
  · split_ifs at h
    · obtain rfl : eventToString event = token := Except.ok.inj h
      exact hplain
    · exact hkeychain (.inr hp) h
  · split_ifs at h
    · obtain rfl : eventToString event = token := Except.ok.inj h
      exact hplain
    · simp [protectPayload] at h

lemma Seals.not_quarantined {token : Text} {event : DesktopEvent} (h : sys.Seals token event) :
    startsWith token quarantinedPayload = false := not_quarantined_of_opened h.opens

def glass : System where
  platform := .linux
  dpapiProtect _ _ := .error "DPAPI protect failed"
  dpapiUnprotect _ := .error "DPAPI unprotect failed (different user context?)"
  protect _ plain := .ok (keychainPrefix ++ plain)
  unprotect stored :=
    match stripPrefix keychainPrefix stored with
    | some plain => .ok plain
    | none => .error "value is not Keychain-sealed"

lemma glass_lawful : glass.Lawful where
  dpapi_opens h := by simp [glass] at h
  keychain_opens := by
    intro nonce plain token _ h
    obtain rfl := Except.ok.inj h
    exact ⟨by simp [startsWith], by simp [glass, stripPrefix]⟩

end System

end Aokie.Plugin.Outbox
