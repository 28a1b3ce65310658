import Aokie.Lib.JsonValue
import Aokie.Lib.Keyed
import Aokie.Plugin.Consent

/-! The consent gate of the radio: what the settings ask of the grant on record, when the radio is held back, and how
`settings.set`, `consent.set` and `consent.revoke` move the block. -/

namespace Aokie.Plugin.ConsentGate

open Aokie.Lib Consent

def currentConsentVersion : ℕ := 3

def strip (text : String) : String := String.ofList (trim text.toList)

def stripLower (text : String) : String := String.ofList ((trim text.toList).map Char.toLower)

inductive ConsentMode
  | enforce | warn | off
  deriving DecidableEq

def ConsentMode.fromSetting (value : Option String) : ConsentMode :=
  match value.map stripLower with
  | some "warn" => .warn
  | some "off" => .off
  | _ => .enforce

inductive Scope
  | bluetooth | transcription
  deriving DecidableEq

def Scope.asStr : Scope → String
  | bluetooth => "bluetooth"
  | transcription => "transcription"

def scopeGranted (scopes : ConsentScopes) : Scope → Bool
  | .bluetooth => scopes.bluetooth
  | .transcription => scopes.transcription

inductive ConsentDecision
  | allow
  | warn (reason : String)
  | deny (reason : String)
  deriving DecidableEq

def hasPassed (chrono : Chrono) (at_ now : String) : Bool :=
  match chrono.parseInstant at_, chrono.parseInstant now with
  | some t, some n => t ≤ n
  | none, _ => true
  | some _, none => at_ ≤ now

def expired (chrono : Chrono) (grant : ConsentGrant) (now : String) : Bool :=
  grant.expiresAt.any fun e => hasPassed chrono e now

def refusal (chrono : Chrono) (grant : Option ConsentGrant) (requiredVersion : ℕ) (scope : Scope) (now : String) :
    Option String :=
  match grant with
  | none => some "no consent has been recorded for this device"
  | some g =>
    if g.version ≠ requiredVersion then
      some ("consent version " ++ toString g.version ++ " was accepted but " ++ toString requiredVersion ++
        " is now required — re-consent needed")
    else if expired chrono g now then some ("consent expired at " ++ g.expiresAt.getD "" ++ " — re-consent needed")
    else if !scopeGranted g.scopes scope then some ("consent does not cover " ++ scope.asStr)
    else none

def evaluate (chrono : Chrono) (grant : Option ConsentGrant) (requiredVersion : ℕ) (mode : ConsentMode) (scope : Scope)
    (now : String) :
    ConsentDecision :=
  if mode = .off then .allow
  else
    match refusal chrono grant requiredVersion scope now with
    | none => .allow
    | some reason => if mode = .enforce then .deny reason else .warn reason

abbrev Settings := Keyed String Json

def Settings.str (settings : Settings) (key : String) : Option String := (settings.get key).bind Json.asStr

/-- What the connector reads of an endpoint's URL. -/
structure Endpoints where
  codexLiveCallModel : String → Option String
  validateEndpoint : String → Except String String
  validateDestinationOrigin : String → Except String String
  isLoopbackEndpoint : String → Bool
  canonicalDestination : String → Except String String

section Destinations

variable (ep : Endpoints)

def codexLiveCallDestination : String := "OpenAI ChatGPT via Codex"

def effectiveConsentDestination (url : String) : Except String (Option String) :=
  let url := strip url
  if url = "" then .ok none
  else if (ep.codexLiveCallModel url).isSome then .ok (some codexLiveCallDestination)
  else if (ep.validateEndpoint url).isOk then .ok none
  else if ep.isLoopbackEndpoint url then .ok none
  else (ep.canonicalDestination url).map some

def normalizeGrantedDestination (value : String) : Except String (Option String) :=
  let value := strip value
  if value = codexLiveCallDestination || (ep.codexLiveCallModel value).isSome then .ok (some codexLiveCallDestination)
  else effectiveConsentDestination ep value

def consentDestinationSettingKeys : List String :=
  ["aiEndpoint", "audioTranscriptEndpoint", "realtimeVoiceEndpoint", "realtimeVoiceDestination"]

def notConsented (key destination : String) : String :=
  key ++ ": " ++ destination ++
    " is not a consented destination — review consent in Aokie's Consent tab to add it before use"

def checkDestination (settings : Settings) (grant : Option ConsentGrant) (key : String) : Except String Unit :=
  match settings.str key with
  | none => .ok ()
  | some url =>
    match effectiveConsentDestination ep url with
    | .error e => .error e
    | .ok none => .ok ()
    | .ok (some destination) =>
      if grant.any fun g => g.scopes.destinations.any fun candidate =>
          (normalizeGrantedDestination ep candidate).toOption.join = some destination then .ok ()
      else .error (notConsented key destination)

def validateEffectiveDestinations (settings : Settings) (grant : Option ConsentGrant) : Except String Unit :=
  consentDestinationSettingKeys.forM (checkDestination ep settings grant)

def isEffectiveDestinationBlock (reason : String) : Bool :=
  consentDestinationSettingKeys.any fun key => (key ++ ":").toList.isPrefixOf reason.toList

end Destinations

section Realtime

variable (ep : Endpoints)

def realtimeVoiceSelected (settings : Settings) : Bool := settings.str "realtimeVoiceMode" = some "desktop_realtime"

def agentEnabled (settings : Settings) : Bool :=
  match settings.get "aiReceptionist" with
  | some (.bool b) => b
  | some value => value.asStr = some "true"
  | none => false

def transportNative (settings : Settings) : Bool := (settings.str "transportMode").map stripLower = some "native"

def given (settings : Settings) (key : String) : Option String := ((settings.str key).map strip).filter (· ≠ "")

def validateRealtimeVoiceSettings (settings : Settings) : Except String Unit := do
  if realtimeVoiceSelected settings then
    ensure (agentEnabled settings) "realtimeVoiceMode=desktop_realtime requires aiReceptionist=true"
    ensure (!transportNative settings)
      "realtimeVoiceMode=desktop_realtime requires the USB dongle (transportMode dongle, or auto with the dongle plugged in) because Realtime still needs the Aokie SCO phone-audio link"
    let endpoint ← okOr (given settings "realtimeVoiceEndpoint")
      "realtimeVoiceEndpoint is required when realtimeVoiceMode=desktop_realtime"
    let _ ← (ep.validateEndpoint endpoint).mapError ("realtimeVoiceEndpoint rejected: " ++ ·)
    let destination ← okOr (given settings "realtimeVoiceDestination")
      "realtimeVoiceDestination is required when realtimeVoiceMode=desktop_realtime"
    let canonical ← (ep.validateDestinationOrigin destination).mapError ("realtimeVoiceDestination rejected: " ++ ·)
    ensure (canonical = destination) "realtimeVoiceDestination must be stored as a canonical HTTPS origin"
  else pure ()

def explicitTranscription : ConsentDecision → Except String Unit
  | .allow => .ok ()
  | .warn reason | .deny reason => .error ("Realtime voice requires explicit transcription consent: " ++ reason)

/-- Realtime's export of the caller's audio asks for a grant under every `consentMode`. -/
def validateRealtimeVoiceConsent (chrono : Chrono) (settings : Settings) (grant : Option ConsentGrant) (now : String) :
    Except String Unit := do
  if realtimeVoiceSelected settings then
    validateRealtimeVoiceSettings ep settings
    explicitTranscription (evaluate chrono grant currentConsentVersion .enforce .transcription now)
    let destination ← okOr (settings.str "realtimeVoiceDestination") "Realtime voice has no upstream destination"
    let destination ← ep.validateDestinationOrigin destination
    ensure (grant.any fun g => g.scopes.destinations.any fun candidate =>
        (ep.validateDestinationOrigin candidate).toOption = some destination)
      ("realtimeVoiceDestination: " ++ destination ++
      " is not a consented destination — review consent in Aokie's Consent tab")
  else pure ()

end Realtime

/-- A running radio, and whether its speech-to-text worker was started without consent to transcribe. -/
structure Radio where
  transcriptionDisabled : Bool
  deriving DecidableEq

/-- The settings in use and in the file, the consent files, the radio, and why consent holds it back. -/
structure Connector where
  settings : Settings
  stored : Settings
  disk : Disk
  radio : Option Radio := none
  consentBlocked : Option String := none

/-- What is fixed while the plugin runs: dev mode, the Desktop's key, and the crates and checks outside the gate. -/
structure Host where
  devMode : Bool
  key : Option Verifier
  chrono : Chrono
  endpoints : Endpoints
  validateSetting : String → Json → Except String Unit
  sealPin : String → Except String String

/-- `load_verified`, with the Desktop's key or without. -/
def consentLoaded (key : Option Verifier) (disk : Disk) : Option ConsentGrant :=
  match key, disk.file with
  | some v, _ => recorded v disk
  | none, .plain grant => some grant
  | none, _ => none

namespace Connector

variable (h : Host) (s : Connector)

def grant : Option ConsentGrant := consentLoaded h.key s.disk

end Connector

def consentModeForSettings (h : Host) (settings : Settings) : ConsentMode :=
  if h.devMode then .off else .fromSetting (settings.str "consentMode")

def startBlock (h : Host) (settings : Settings) (grant : Option ConsentGrant) (now : String) : Option String :=
  match validateRealtimeVoiceConsent h.endpoints h.chrono settings grant now with
  | .error reason => some reason
  | .ok () =>
    let mode := consentModeForSettings h settings
    match if mode = .enforce then validateEffectiveDestinations h.endpoints settings grant else .ok () with
    | .error reason => some reason
    | .ok () =>
      match evaluate h.chrono grant currentConsentVersion mode .bluetooth now with
      | .deny reason => some reason
      | _ => none

namespace Connector

variable (h : Host)

def consentMode (s : Connector) : ConsentMode := consentModeForSettings h s.settings

def consentGate (s : Connector) (scope : Scope) (now : String) : ConsentDecision :=
  evaluate h.chrono (s.grant h) currentConsentVersion (s.consentMode h) scope now

def blockRadioForConsent (s : Connector) (reason : String) : Connector :=
  { s with radio := none, consentBlocked := some reason }

def bringUp (s : Connector) (sttDisabled comesUp : Bool) : Connector :=
  if h.devMode || s.radio.isSome || !comesUp then s else { s with radio := some ⟨sttDisabled⟩ }

def ensureRadioStarted (s : Connector) (now : String) (comesUp : Bool) : Connector :=
  match startBlock h s.settings (s.grant h) now with
  | some reason => s.blockRadioForConsent reason
  | none =>
    let s := { s with consentBlocked := none }
    match s.consentGate h .transcription now with
    | .deny reason =>
      if s.radio.any fun radio =>
        !radio.transcriptionDisabled then s.blockRadioForConsent reason else s.bringUp h true comesUp
    | _ => s.bringUp h false comesUp

def stopRadioIfConsentExpired (s : Connector) (now : String) (onCall : Bool) : Connector :=
  let enforced := s.consentMode h = .enforce || realtimeVoiceSelected s.settings
  let grant := if enforced then s.grant h else none
  match s.radio, grant with
  | some _, some g =>
    if !onCall && expired h.chrono g now then
      s.blockRadioForConsent ("consent expired at " ++ g.expiresAt.getD "" ++ " — re-consent needed")
    else s
  | _, _ => s

def enforceRecordedConsent (s : Connector) : Connector :=
  if h.devMode || ConsentMode.fromSetting (s.settings.str "consentMode") = .enforce then s
  else { s with settings := s.settings.insert "consentMode" (.string "enforce") }

def saveConfig (s : Connector) (saved : Bool) : Connector := if saved then { s with stored := s.settings } else s

end Connector

def prospective (settings : Settings) (obj : List (String × Json)) : Settings :=
  obj.foldl (fun settings entry => settings.insert entry.1 entry.2) settings

abbrev Patch := Settings

def normalizeCodexLiveCallSettings (ep : Endpoints) (patch : Patch) (current : Settings) : Patch :=
  let endpoint := match patch.get "aiEndpoint" with
    | some (.string value) => if strip value ≠ "" then some value else none
    | some _ => none
    | none => current.str "aiEndpoint"
  match endpoint.bind ep.codexLiveCallModel with
  | none => patch
  | some model => (patch.insert "aiModel" (.string model)).insert "sendAudio" (.bool false)

def checkConsentMode (h : Host) (s : Connector) (patch : Patch) : Except String Unit :=
  match patch.str "consentMode" with
  | none => .ok ()
  | some mode =>
    if ConsentMode.fromSetting (some mode) ≠ ConsentMode.enforce ∧ h.devMode = false then do
      ensure h.key.isNone ("settings.set refused: consentMode " ++ mode.quote ++
        " — this Desktop signs consent grants, so enforcement stays on (revoke consent to stop sensitive processing)")
      ensure ((consentLoaded none s.disk).isNone && s.disk.floor.isNone)
        ("settings.set refused: consentMode " ++ mode.quote ++
        " — consent has been recorded on this computer, so enforcement stays on (revoke consent to stop sensitive processing, or record it again to change what it allows)")
    else .ok ()

/-- What of a prospective configuration the grant on record does not cover. -/
def destinationBlock (h : Host) (settings : Settings) (grant : Option ConsentGrant) (now : String) : Option String :=
  match validateRealtimeVoiceConsent h.endpoints h.chrono settings grant now with
  | .error reason => some reason
  | .ok () =>
    if consentModeForSettings h settings = .enforce then
      match validateEffectiveDestinations h.endpoints settings grant with
      | .error reason => some reason
      | .ok () => none
    else none

def consentRelevant (patch : Patch) : Bool :=
  patch.contains "consentMode" || consentDestinationSettingKeys.any fun key => patch.contains key

namespace Connector

variable (h : Host)

def scopeBlock (s : Connector) (now : String) : Option String :=
  [Scope.bluetooth, .transcription].findSome? fun scope =>
    match s.consentGate h scope now with
    | .deny reason => some reason
    | _ => none

/-- The checks of `settings.set`, and the patch that is written. -/
def checkPatch (s : Connector) (patch : Patch) : Except String Patch := do
  ensure (patch.entries ≠ []) "settings.set payload is empty"
  patch.entries.forM fun entry => h.validateSetting entry.1 entry.2
  checkConsentMode h s patch
  let patch := normalizeCodexLiveCallSettings h.endpoints patch s.settings
  validateRealtimeVoiceSettings h.endpoints (prospective s.settings patch.entries)
  match patch.get "managerPin" with
  | none => pure patch
  | some value => do
    let token ← (h.sealPin (value.asStr.getD "")).mapError ("cannot secure managerPin: " ++ ·)
    pure (patch.insert "managerPin" (.string token))

/-- What `settings.set` does once the settings are written. -/
def reconcile (s : Connector) (patch : Patch) (block : Option String) (now : String) (comesUp : Bool) : Connector :=
  let s :=
    if block = none ∧ s.consentMode h = .enforce ∧ patch.contains "consentMode" = true then
      match s.scopeBlock h now with
      | some reason => s.blockRadioForConsent reason
      | none => s
    else s
  if block = none ∧ consentRelevant patch = true ∧ s.consentBlocked.any isEffectiveDestinationBlock = true then
    ({ s with consentBlocked := none } : Connector).ensureRadioStarted h now comesUp
  else s

def settingsSet (s : Connector) (patch : Patch) (now : String) (saved comesUp : Bool) :
    Connector × Except String Unit :=
  match s.checkPatch h patch with
  | .error e => (s, .error e)
  | .ok patch =>
    let settings := prospective s.settings patch.entries
    let block := destinationBlock h settings (s.grant h) now
    let s := match block with
      | some reason => s.blockRadioForConsent reason
      | none => s
    let s := { s with settings := settings }
    if saved then ((s.saveConfig saved).reconcile h patch block now comesUp, .ok ()) else (s,
      .error "cannot save settings")

/-- A grant that does not cover the settings is refused, and a radio that the one on record does not cover stops. -/
def validateCandidateConsentDestinations (s : Connector) (grant : ConsentGrant) (signed : Bool) :
    Connector × Except String Unit :=
  match validateEffectiveDestinations h.endpoints s.settings (some grant) with
  | .ok () => (s, .ok ())
  | .error reason =>
    let s :=
      if s.consentMode h = .enforce then
        match validateEffectiveDestinations h.endpoints s.settings (s.grant h) with
        | .error current => s.blockRadioForConsent current
        | .ok () => s
      else s
    (s, .error ("consent.set: " ++ (if signed then "signed " else "") ++
      "grant does not cover the current configuration — " ++ reason))

/-- What `consent.set` does once a grant is on record. -/
def consentRecorded (s : Connector) (now : String) (saved comesUp : Bool) : Connector :=
  let t := s.enforceRecordedConsent h
  let s := if ConsentMode.fromSetting (s.settings.str "consentMode") =
    .enforce || h.devMode then t else t.saveConfig saved
  ({ s with consentBlocked := none } : Connector).ensureRadioStarted h now comesUp

end Connector

/-- The body of a `consent.set`, and the two moments that `save` stamps a plain grant with. -/
structure ConsentBody where
  envelope : Option SignedConsent := none
  scopes : ConsentScopes := {}
  version : ℕ := currentConsentVersion
  acceptedBy : Option String := none
  signature : Option String := none
  acceptedAt : String
  expiresAt : String

def ConsentBody.candidate (body : ConsentBody) : ConsentGrant :=
  ⟨body.version, body.scopes, "", body.acceptedBy, none, body.signature⟩

def ConsentBody.saved (body : ConsentBody) : ConsentGrant :=
  { body.candidate with acceptedAt := body.acceptedAt, expiresAt := some body.expiresAt }

/-- The record that an accepted `consent.set` leaves in `consent.json`. -/
def ConsentBody.file (key : Option Verifier) (body : ConsentBody) : ConsentFile :=
  match key, body.envelope with
  | some _, some envelope => .envelope envelope
  | some _, none => .missing
  | none, _ => .plain body.saved

/-- How the writes of a command end, and whether the radio comes up where it may. -/
structure Ends where
  file : Write := .done
  floor : Write := .done
  remove : Except String Unit := .ok ()
  saved : Bool := true
  comesUp : Bool := true

inductive Command
  | settingsSet (patch : Patch) (now : String) (ends : Ends)
  | consentSet (body : ConsentBody) (now : String) (ends : Ends)
  | consentRevoke (now : String) (ends : Ends)
  | start (now : String) (comesUp : Bool)
  | expiry (now : String) (onCall : Bool)
  | radioEnded

namespace Connector

variable (h : Host)

def recordGrant (s : Connector) (grant : ConsentGrant) (signed : Bool) (file : ConsentFile) (now : String)
    (ends : Ends) :
    Connector × Except String Unit :=
  match s.validateCandidateConsentDestinations h grant signed with
  | (s, .error e) => (s, .error e)
  | (s, .ok ()) =>
    match atomicWrite ends.file s.disk.file file with
    | (.error e, file) => ({ s with disk := { s.disk with file := file } }, .error e)
    | (.ok (), file) =>
        (({ s with disk := { s.disk with file := file } } : Connector).consentRecorded h now ends.saved ends.comesUp,
        .ok ())

def consentSet (s : Connector) (body : ConsentBody) (now : String) (ends : Ends) : Connector × Except String Unit :=
  match h.key with
  | some v =>
    match body.envelope with
    | none => (s,
        .error "consent.set: this Desktop signs consent grants — send {envelope: <signed grant>} (issued by the Desktop consent wizard), not a plain grant")
    | some envelope =>
      match verifyEnvelope v envelope with
      | .error e => (s, .error ("consent.set: " ++ e))
      | .ok grant =>
        match replayRefusal h.chrono grant (s.grant h) s.disk.floor with
        | some why => (s, .error ("consent.set refused: " ++ why))
        | none => s.recordGrant h grant true (.envelope envelope) now ends
  | none => s.recordGrant h body.candidate false (.plain body.saved) now ends

def consentRevoke (s : Connector) (now : String) (ends : Ends) : Connector × Except String Unit :=
  let s := s.blockRadioForConsent "consent was revoked"
  match Consent.consentRevoke h.chrono now ends.floor ends.remove s.disk with
  | (disk, .error e) => ({ s with disk := disk }, .error e)
  | (disk, .ok ()) =>
    let s := ({ s with disk := disk } : Connector).enforceRecordedConsent h
    (({ s with settings := s.settings.insert "autoAnswer" (.bool false) } : Connector).saveConfig ends.saved, .ok ())

end Connector

def step (h : Host) : Machine Connector Command (Except String Unit)
  | s, .settingsSet patch now ends => s.settingsSet h patch now ends.saved ends.comesUp
  | s, .consentSet body now ends => s.consentSet h body now ends
  | s, .consentRevoke now ends => s.consentRevoke h now ends
  | s, .start now comesUp => (s.ensureRadioStarted h now comesUp, .ok ())
  | s, .expiry now onCall => (s.stopRadioIfConsentExpired h now onCall, .ok ())
  | s, .radioEnded => ({ s with radio := none }, .ok ())

section Gate

variable {h : Host} {s : Connector} {settings : Settings} {grant : Option ConsentGrant} {now : String}

def Stands (chrono : Chrono) (g : ConsentGrant) (scope : Scope) (now : String) : Prop :=
  g.version = currentConsentVersion ∧ expired chrono g now = false ∧ scopeGranted g.scopes scope = true

lemma stands_of_refusal_none {chrono : Chrono} {scope : Scope}
    (hnone : refusal chrono grant currentConsentVersion scope now = none) :
    ∃ g, grant = some g ∧ Stands chrono g scope now := by
  cases grant with
  | none => simp [refusal] at hnone
  | some g =>
      simp only [refusal] at hnone
      split_ifs at hnone with hversion hexpired hscope
      exact ⟨g, rfl, not_not.mp hversion, by simpa using hexpired, by simpa using hscope⟩

lemma stands_of_not_denied {chrono : Chrono} {scope : Scope}
    (hdeny : ∀ reason, evaluate chrono grant currentConsentVersion .enforce scope now ≠ .deny reason) :
    ∃ g, grant = some g ∧ Stands chrono g scope now := by
  apply stands_of_refusal_none
  cases hreason : refusal chrono grant currentConsentVersion scope now with
  | none => rfl
  | some reason => exact absurd (by simp [evaluate, hreason]) (hdeny reason)

lemma not_denied_of_mode {chrono : Chrono} {mode : ConsentMode} {scope : Scope} (hmode : mode ≠ .enforce)
    (reason : String) :
    evaluate chrono grant currentConsentVersion mode scope now ≠ .deny reason := by
  cases mode with
  | enforce => exact absurd rfl hmode
  | off => simp [evaluate]
  | warn =>
      simp only [evaluate]
      cases refusal chrono grant currentConsentVersion scope now <;> simp

/-- The upstream destination of Realtime voice is one that the grant names. -/
def RealtimeGranted (ep : Endpoints) (settings : Settings) (g : ConsentGrant) : Prop :=
  ∃ destination origin, settings.str "realtimeVoiceDestination" = some destination ∧
    ep.validateDestinationOrigin destination = .ok origin ∧
    ∃ candidate ∈ g.scopes.destinations, ep.validateDestinationOrigin candidate = .ok origin

lemma toOption_eq_some_iff {α : Type} {x : Except String α} {a : α} : x.toOption = some a ↔ x = .ok a := by
  cases x <;> simp [Except.toOption]

lemma realtime_granted {chrono : Chrono} {ep : Endpoints} (hselected : realtimeVoiceSelected settings = true)
    (hok : validateRealtimeVoiceConsent ep chrono settings grant now = .ok ()) :
    ∃ g, grant = some g ∧ Stands chrono g .transcription now ∧ RealtimeGranted ep settings g := by
  simp only [validateRealtimeVoiceConsent, hselected, if_true, bind_eq_ok_iff] at hok
  obtain ⟨_, -, _, hgate, destination, hdestination, origin, horigin, hgranted⟩ := hok
  obtain ⟨g, rfl, hstands⟩ : ∃ g, grant = some g ∧ Stands chrono g .transcription now := by
    apply stands_of_not_denied
    intro reason hdeny
    rw [hdeny] at hgate
    simp [explicitTranscription] at hgate
  refine ⟨g, rfl, hstands, destination, origin, okOr_eq_ok_iff.mp hdestination, horigin, ?_⟩
  have hany := ensure_eq_ok_iff.mp hgranted
  simp only [Option.any_some, List.any_eq_true, decide_eq_true_eq] at hany
  obtain ⟨candidate, hmem, heq⟩ := hany
  exact ⟨candidate, hmem, toOption_eq_some_iff.mp heq⟩

lemma startBlock_eq_none (hnone : startBlock h settings grant now = none) :
    validateRealtimeVoiceConsent h.endpoints h.chrono settings grant now = .ok () ∧
      (consentModeForSettings h settings = .enforce →
        validateEffectiveDestinations h.endpoints settings grant = .ok ()) ∧
      ∀ reason, evaluate h.chrono grant currentConsentVersion
        (consentModeForSettings h settings) .bluetooth now ≠ .deny reason := by
  simp only [startBlock] at hnone
  cases hrealtime : validateRealtimeVoiceConsent h.endpoints h.chrono settings grant now with
  | error reason => simp [hrealtime] at hnone
  | ok done =>
      rw [hrealtime] at hnone
      dsimp only at hnone
      split at hnone
      · simp at hnone
      · next hdestinations =>
          refine ⟨rfl, ?_, ?_⟩
          · intro hmode
            rw [if_pos hmode] at hdestinations
            exact hdestinations
          · intro reason hdeny
            rw [hdeny] at hnone
            simp at hnone

end Gate

/-- A running radio has the consent that its settings ask for, and a blocked one does not run. -/
structure Licensed (h : Host) (s : Connector) : Prop where
  enforced : s.consentMode h = .enforce → ∀ radio, s.radio = some radio → ∃ g, s.grant h = some g ∧
    g.version = currentConsentVersion ∧ g.scopes.bluetooth = true ∧
    validateEffectiveDestinations h.endpoints s.settings (some g) = .ok () ∧
    (radio.transcriptionDisabled = false → g.scopes.transcription = true)
  realtime : realtimeVoiceSelected s.settings = true → s.radio ≠ none → ∃ g, s.grant h = some g ∧
    g.version = currentConsentVersion ∧ g.scopes.transcription = true ∧ RealtimeGranted h.endpoints s.settings g
  blocked : s.consentBlocked ≠ none → s.radio = none

namespace Connector

variable {h : Host} {s : Connector} {now : String}

def Withdrawn (h : Host) (s : Connector) (now : String) : Prop :=
  ∃ radio reason, s.radio = some radio ∧ radio.transcriptionDisabled = false ∧
    s.consentGate h .transcription now = .deny reason

/-- What `ensure_radio_started` comes to. -/
inductive Started (h : Host) (s : Connector) (now : String) (comesUp : Bool) : Connector → Prop
  | blocked {reason : String} (hblock : startBlock h s.settings (s.grant h) now = some reason) :
      Started h s now comesUp (s.blockRadioForConsent reason)
  | withdrawn {reason : String} (hblock : startBlock h s.settings (s.grant h) now = none)
      (hwithdrawn : s.Withdrawn h now) :
      Started h s now comesUp (s.blockRadioForConsent reason)
  | up {disabled : Bool} (hblock : startBlock h s.settings (s.grant h) now = none) (hnot : ¬s.Withdrawn h now)
      (hdenied : disabled = false → ∀ reason, s.consentGate h .transcription now ≠ .deny reason)
      (hkept : disabled = true → ∀ radio, s.radio = some radio → radio.transcriptionDisabled = true) :
      Started h s now comesUp (({ s with consentBlocked := none } : Connector).bringUp h disabled comesUp)

lemma started (h : Host) (s : Connector) (now : String) (comesUp : Bool) :
    Started h s now comesUp (s.ensureRadioStarted h now comesUp) := by
  simp only [ensureRadioStarted]
  cases hblock : startBlock h s.settings (s.grant h) now with
  | some reason => exact .blocked hblock
  | none =>
      have hgate : ({ s with consentBlocked := none } : Connector).consentGate h .transcription now =
          s.consentGate h .transcription now := rfl
      dsimp only
      rw [hgate]
      cases hdecision : s.consentGate h .transcription now with
      | deny reason =>
          dsimp only
          split_ifs with hruns
          · obtain ⟨radio, hradio, hdisabled⟩ := (Option.any_eq_true _ _).mp hruns
            exact .withdrawn hblock ⟨radio, reason, hradio, by simpa using hdisabled, hdecision⟩
          · have hkept (radio : Radio) (hradio : s.radio = some radio) : radio.transcriptionDisabled = true := by
              simpa [hradio] using hruns
            refine .up hblock ?_ (fun hfalse => absurd hfalse (by simp)) fun _ => hkept
            rintro ⟨radio, other, hradio, hdisabled, -⟩
            rw [hkept radio hradio] at hdisabled
            simp at hdisabled
      | _ =>
          refine .up hblock ?_ (fun _ reason hdeny => ?_) fun htrue => absurd htrue (by simp)
          · rintro ⟨radio, reason, -, -, hdeny⟩
            rw [hdecision] at hdeny
            simp at hdeny
          · rw [hdecision] at hdeny
            simp at hdeny

@[simp] lemma bringUp_settings (s : Connector) (disabled comesUp : Bool) :
  (s.bringUp h disabled comesUp).settings = s.settings := by
  rw [bringUp]
  split_ifs <;> rfl

@[simp] lemma bringUp_stored (s : Connector) (disabled comesUp : Bool) :
  (s.bringUp h disabled comesUp).stored = s.stored := by
  rw [bringUp]
  split_ifs <;> rfl

@[simp] lemma bringUp_disk (s : Connector) (disabled comesUp : Bool) :
  (s.bringUp h disabled comesUp).disk = s.disk := by
  rw [bringUp]
  split_ifs <;> rfl

@[simp] lemma bringUp_consentBlocked (s : Connector) (disabled comesUp : Bool) :
    (s.bringUp h disabled comesUp).consentBlocked = s.consentBlocked := by
  rw [bringUp]
  split_ifs <;> rfl

lemma bringUp_radio {disabled comesUp : Bool} {radio : Radio}
    (hradio : (s.bringUp h disabled comesUp).radio = some radio) :
    s.radio = some radio ∨ radio.transcriptionDisabled = disabled := by
  rw [bringUp] at hradio
  split_ifs at hradio
  · exact .inl hradio
  · obtain rfl := Option.some.inj hradio
    exact .inr rfl

lemma ensureRadioStarted_frame (h : Host) (s : Connector) (now : String) (comesUp : Bool) :
    (s.ensureRadioStarted h now comesUp).settings = s.settings ∧
      (s.ensureRadioStarted h now comesUp).stored = s.stored ∧
      (s.ensureRadioStarted h now comesUp).disk = s.disk := by
  have hstarted := started h s now comesUp
  generalize s.ensureRadioStarted h now comesUp = t at hstarted ⊢
  cases hstarted with
  | blocked | withdrawn => exact ⟨rfl, rfl, rfl⟩
  | up => simp

lemma ensureRadioStarted_consentBlocked (h : Host) (s : Connector) (now : String) (comesUp : Bool) :
    (s.ensureRadioStarted h now comesUp).consentBlocked ≠ none ↔
      startBlock h s.settings (s.grant h) now ≠ none ∨ s.Withdrawn h now := by
  have hstarted := started h s now comesUp
  generalize s.ensureRadioStarted h now comesUp = t at hstarted ⊢
  cases hstarted with
  | blocked hblock => simp [blockRadioForConsent, hblock]
  | withdrawn hblock hwithdrawn => simp [blockRadioForConsent, hwithdrawn]
  | up hblock hnot => simp [hblock, hnot]

lemma licensed_blockRadioForConsent (h : Host) (s : Connector) (reason : String) :
    Licensed h (s.blockRadioForConsent reason) where
  enforced := by simp [blockRadioForConsent]
  realtime := by simp [blockRadioForConsent]
  blocked := by simp [blockRadioForConsent]

lemma grant_congr {t : Connector} (hdisk : t.disk = s.disk) : t.grant h = s.grant h := by rw [grant, grant, hdisk]

lemma licensed_ensureRadioStarted (h : Host) (s : Connector) (now : String) (comesUp : Bool) :
    Licensed h (s.ensureRadioStarted h now comesUp) := by
  have hstarted := started h s now comesUp
  generalize s.ensureRadioStarted h now comesUp = t at hstarted ⊢
  cases hstarted with
  | blocked | withdrawn => exact licensed_blockRadioForConsent h s _
  | @up disabled hblock hnot hdenied hkept =>
      obtain ⟨hrealtime, hdestinations, hbluetooth⟩ := startBlock_eq_none hblock
      have hgrant : (({ s with consentBlocked := none } : Connector).bringUp h disabled comesUp).grant h = s.grant h :=
        grant_congr (by simp)
      constructor
      · intro hmode radio hradio
        simp only [consentMode, bringUp_settings] at hmode
        obtain ⟨g, hg, hversion, -, hscope⟩ := stands_of_not_denied (hmode ▸ hbluetooth)
        refine ⟨g, hgrant.trans hg, hversion, hscope, ?_, ?_⟩
        · rw [bringUp_settings, ← hg]
          exact hdestinations hmode
        · intro henabled
          have hdisabled : disabled = false := by
            obtain hold | hnew := bringUp_radio hradio
            · by_contra hne
              have hdisabled : disabled = true := by simpa using hne
              rw [hkept hdisabled radio hold] at henabled
              simp at henabled
            · exact hnew ▸ henabled
          have hgate := hdenied hdisabled
          simp only [consentGate, consentMode] at hgate
          obtain ⟨g', hg', -, -, hscope'⟩ := stands_of_not_denied (hmode ▸ hgate)
          obtain rfl := Option.some.inj (hg.symm.trans hg')
          exact hscope'
      · intro hselected _
        rw [bringUp_settings] at hselected
        obtain ⟨g, hg, ⟨hversion, -, hscope⟩, hnamed⟩ := realtime_granted hselected hrealtime
        refine ⟨g, hgrant.trans hg, hversion, hscope, ?_⟩
        rwa [bringUp_settings]
      · simp

end Connector

section Patches

variable {h : Host} {s : Connector} {patch written : Patch} {now : String}

lemma get_prospective (settings : Settings) {l : List (String × Json)} (hnodup : (l.map Prod.fst).Nodup)
    (key : String) :
    (prospective settings l).get key = (l.lookup key).or (settings.get key) := by
  induction l generalizing settings with
  | nil => rfl
  | cons entry l ih =>
      obtain ⟨name, value⟩ := entry
      obtain ⟨hfresh, hnodup⟩ := List.nodup_cons.mp hnodup
      have hstep : prospective settings ((name, value) :: l) = prospective (settings.insert name value) l := rfl
      rw [hstep, ih _ hnodup, Keyed.get_insert, List.lookup_cons]
      by_cases hkey : key = name
      · subst hkey
        have hnone : l.lookup key = none := by
          cases hget : l.lookup key with
          | none => rfl
          | some other => exact absurd (List.mem_map.mpr ⟨_, Keyed.mem_of_lookup hget, rfl⟩) hfresh
        simp [hnone]
      · simp [beq_false_of_ne hkey, hkey]

lemma get_prospective_patch (settings : Settings) (patch : Patch) (key : String) :
    (prospective settings patch.entries).get key = (patch.get key).or (settings.get key) :=
  get_prospective settings patch.nodup key

def addedKeys : List String := ["aiModel", "sendAudio", "managerPin"]

lemma get_normalize (ep : Endpoints) (patch : Patch) (current : Settings) {key : String} (hkey : key ∉ addedKeys) :
    (normalizeCodexLiveCallSettings ep patch current).get key = patch.get key := by
  simp only [addedKeys, List.mem_cons, List.not_mem_nil, or_false, not_or] at hkey
  simp only [normalizeCodexLiveCallSettings]
  split
  · rfl
  · simp [hkey]

lemma get_checkPatch (hwritten : s.checkPatch h patch = .ok written) {key : String} (hkey : key ∉ addedKeys) :
    written.get key = patch.get key := by
  simp only [Connector.checkPatch, bind_eq_ok_iff] at hwritten
  obtain ⟨_, -, _, -, _, -, _, -, hpin⟩ := hwritten
  split at hpin
  · obtain rfl := pure_eq_ok_iff.mp hpin
    exact get_normalize _ _ _ hkey
  · simp only [bind_eq_ok_iff] at hpin
    obtain ⟨token, -, hpin⟩ := hpin
    obtain rfl := pure_eq_ok_iff.mp hpin
    have hne : key ≠ "managerPin" := fun heq => hkey (by simp [addedKeys, heq])
    rw [Keyed.get_insert, if_neg hne]
    exact get_normalize _ _ _ hkey

lemma contains_checkPatch (hwritten : s.checkPatch h patch = .ok written) {key : String} (hkey : key ∉ addedKeys) :
    written.contains key = patch.contains key := by rw [Keyed.contains, Keyed.contains, get_checkPatch hwritten hkey]

lemma consentRelevant_checkPatch (hwritten : s.checkPatch h patch = .ok written) :
    consentRelevant written = consentRelevant patch := by
  simp only [consentRelevant, consentDestinationSettingKeys, List.any_cons, List.any_nil]
  rw [contains_checkPatch hwritten (by decide), contains_checkPatch hwritten (by decide),
    contains_checkPatch hwritten (by decide),
    contains_checkPatch hwritten (by decide), contains_checkPatch hwritten (by decide)]

lemma mode_prospective (h : Host) (settings : Settings) (hpatch : patch.contains "consentMode" = false) :
    consentModeForSettings h (prospective settings patch.entries) = consentModeForSettings h settings := by
  rw [Keyed.contains_eq_false_iff] at hpatch
  simp [consentModeForSettings, Settings.str, get_prospective_patch, hpatch]

lemma destinationBlock_eq_none {settings : Settings} {grant : Option ConsentGrant}
    (hnone : destinationBlock h settings grant now = none) :
    validateRealtimeVoiceConsent h.endpoints h.chrono settings grant now = .ok () ∧
      (consentModeForSettings h settings = .enforce → validateEffectiveDestinations h.endpoints settings grant =
        .ok ()) := by
  simp only [destinationBlock] at hnone
  cases hrealtime : validateRealtimeVoiceConsent h.endpoints h.chrono settings grant now with
  | error reason => simp [hrealtime] at hnone
  | ok done =>
      refine ⟨rfl, ?_⟩
      intro hmode
      cases hdestinations : validateEffectiveDestinations h.endpoints settings grant with
      | error reason => simp [hrealtime, hmode, hdestinations] at hnone
      | ok done => rfl

lemma startBlock_ne_none_iff {settings : Settings} {grant : Option ConsentGrant} :
    startBlock h settings grant now ≠ none ↔ destinationBlock h settings grant now ≠ none ∨
      ∃ reason, evaluate h.chrono grant currentConsentVersion (consentModeForSettings h settings) .bluetooth now =
        .deny reason := by
  simp only [startBlock, destinationBlock]
  cases validateRealtimeVoiceConsent h.endpoints h.chrono settings grant now with
  | error reason => simp
  | ok done =>
      by_cases hmode : consentModeForSettings h settings = .enforce
      · rw [if_pos hmode, if_pos hmode]
        cases validateEffectiveDestinations h.endpoints settings grant with
        | error reason => simp
        | ok done =>
            cases hgate : evaluate h.chrono grant currentConsentVersion
              (consentModeForSettings h settings) .bluetooth now <;> simp
      · rw [if_neg hmode, if_neg hmode]
        cases hgate : evaluate h.chrono grant currentConsentVersion
          (consentModeForSettings h settings) .bluetooth now <;> simp

lemma scopeBlock_eq_none (hnone : s.scopeBlock h now = none) (scope : Scope) (reason : String) :
    s.consentGate h scope now ≠ .deny reason := by
  intro hdeny
  have hall := List.findSome?_eq_none_iff.mp hnone scope (by cases scope <;> simp)
  simp [hdeny] at hall

lemma exists_of_scopeBlock {reason : String} (hsome : s.scopeBlock h now = some reason) :
    ∃ scope, s.consentGate h scope now = .deny reason := by
  obtain ⟨scope, -, hscope⟩ := List.exists_of_findSome?_eq_some hsome
  refine ⟨scope, ?_⟩
  split at hscope
  · next other hdeny => rw [hdeny, Option.some.inj hscope]
  · simp at hscope

end Patches

section Runs

variable {h : Host} {s : Connector} {patch written : Patch} {now : String}

lemma licensed_of_radio_none (hradio : s.radio = none) : Licensed h s where
  enforced := by simp [hradio]
  realtime := by simp [hradio]
  blocked := fun _ => hradio

/-- Accepted, a write comes to a block, to a start, or to the new settings alone. -/
inductive Written (h : Host) (s : Connector) (written : Patch) (now : String) (comesUp : Bool) : Connector → Prop
  | blocked {reason : String} (hblock : destinationBlock h (prospective s.settings written.entries) (s.grant h) now =
      some reason) :
      Written h s written now comesUp
        ({ s.blockRadioForConsent reason with settings := prospective s.settings written.entries,
                                              stored := prospective s.settings written.entries } : Connector)
  | started {t : Connector} (hblock : destinationBlock h (prospective s.settings written.entries)
      (s.grant h) now = none)
      (hsettings : t.settings = prospective s.settings written.entries) (hdisk : t.disk = s.disk)
        (hradio : t.radio = none) :
      Written h s written now comesUp (t.ensureRadioStarted h now comesUp)
  | transition {reason : String} {scope : Scope} {t : Connector}
      (ht : t = { s with
          settings := prospective s.settings written.entries, stored := prospective s.settings written.entries })
      (hmode : t.consentMode h = .enforce) (hpatch : written.contains "consentMode" = true)
      (hdeny : t.consentGate h scope now = .deny reason) :
      Written h s written now comesUp (t.blockRadioForConsent reason)
  | kept {t : Connector} (ht : t = { s with
      settings := prospective s.settings written.entries, stored := prospective s.settings written.entries })
      (hblock : destinationBlock h t.settings (s.grant h) now = none)
      (hgates : written.contains "consentMode" = true → t.consentMode h = .enforce → ∀ scope reason,
        t.consentGate h scope now ≠ .deny reason)
      (hreason : consentRelevant written = true → s.consentBlocked.any isEffectiveDestinationBlock = false) :
      Written h s written now comesUp t

lemma exists_written {saved comesUp : Bool} (hblocked : s.consentBlocked ≠ none → s.radio = none)
    (hok : (s.settingsSet h patch now saved comesUp).2 = .ok ()) :
    ∃ written, s.checkPatch h patch = .ok written ∧ Written h s written now comesUp
      (s.settingsSet h patch now saved comesUp).1 := by
  simp only [Connector.settingsSet] at hok ⊢
  cases hcheck : s.checkPatch h patch with
  | error e => simp [hcheck] at hok
  | ok written =>
      refine ⟨written, rfl, ?_⟩
      rw [hcheck] at hok
      dsimp only at hok ⊢
      cases saved with
      | false => simp at hok
      | true =>
          rw [if_pos rfl]
          cases hblock : destinationBlock h (prospective s.settings written.entries) (s.grant h) now with
          | some reason =>
              have hdone := @Written.blocked h s written now comesUp reason hblock
              simpa [Connector.reconcile, Connector.saveConfig] using hdone
          | none =>
              simp only [Connector.reconcile, Connector.saveConfig, if_true, true_and]
              generalize ht : ({ s with settings := prospective s.settings written.entries,
                                        stored := prospective s.settings written.entries } : Connector) = t
              have hsettings : t.settings = prospective s.settings written.entries := by rw [← ht]
              have hdisk : t.disk = s.disk := by rw [← ht]
              have hradio : t.radio = s.radio := by rw [← ht]
              have hold : t.consentBlocked = s.consentBlocked := by rw [← ht]
              have hstarted (hstart : consentRelevant written = true ∧
                  t.consentBlocked.any isEffectiveDestinationBlock = true) :
                  Written h s written now comesUp
                    (({ t with consentBlocked := none } : Connector).ensureRadioStarted h now comesUp) := by
                refine .started hblock hsettings hdisk (hradio.trans (hblocked fun hnone => ?_))
                simp [hold, hnone] at hstart
              by_cases htransition : t.consentMode h = .enforce ∧ written.contains "consentMode" = true
              · rw [if_pos htransition]
                cases hscope : t.scopeBlock h now with
                | some reason =>
                    dsimp only
                    split_ifs with hstart
                    · exact .started hblock hsettings hdisk rfl
                    · obtain ⟨scope, hdeny⟩ := exists_of_scopeBlock hscope
                      exact .transition ht.symm htransition.1 htransition.2 hdeny
                | none =>
                    dsimp only
                    split_ifs with hstart
                    · exact hstarted hstart
                    · refine .kept ht.symm (hsettings ▸ hblock) (fun _ _ => scopeBlock_eq_none hscope) fun hrelevant =>
                        ?_
                      rw [← hold]
                      simpa [hrelevant] using hstart
              · rw [if_neg htransition]
                split_ifs with hstart
                · exact hstarted hstart
                · refine .kept ht.symm (hsettings ▸ hblock) (fun hpatch hmode =>
                    absurd ⟨hmode, hpatch⟩ htransition) fun hrelevant => ?_
                  rw [← hold]
                  simpa [hrelevant] using hstart

lemma licensed_settingsSet {saved comesUp : Bool} (hold : Licensed h s)
    (hok : (s.settingsSet h patch now saved comesUp).2 = .ok ()) :
    Licensed h (s.settingsSet h patch now saved comesUp).1 := by
  obtain ⟨written, -, hwritten⟩ := exists_written hold.blocked hok
  generalize (s.settingsSet h patch now saved comesUp).1 = t at hwritten ⊢
  cases hwritten with
  | blocked => exact licensed_of_radio_none rfl
  | started => exact Connector.licensed_ensureRadioStarted h _ now comesUp
  | transition => exact licensed_of_radio_none rfl
  | kept ht hblock hgates =>
      obtain ⟨hrealtime, hdestinations⟩ := destinationBlock_eq_none hblock
      have hgrant : t.grant h = s.grant h := Connector.grant_congr (by rw [ht])
      have hradio : t.radio = s.radio := by rw [ht]
      constructor
      · intro hmode radio hruns
        -- Bluetooth and transcription stand: the write kept the mode, or the change of mode was checked against them.
        obtain ⟨g, hg, hversion, hbluetooth, htranscription⟩ :
            ∃ g, s.grant h = some g ∧ g.version = currentConsentVersion ∧
            g.scopes.bluetooth = true ∧ (radio.transcriptionDisabled = false → g.scopes.transcription = true) := by
          cases hpatch : written.contains "consentMode" with
          | false =>
              have hsame : s.consentMode h = t.consentMode h := by
                rw [Connector.consentMode, Connector.consentMode, ht]
                exact (mode_prospective h s.settings hpatch).symm
              obtain ⟨g, hg, hversion, hbluetooth, -, htranscription⟩ :=
                  hold.enforced (hsame.trans hmode) radio (hradio ▸ hruns)
              exact ⟨g, hg, hversion, hbluetooth, htranscription⟩
          | true =>
              have hstands (scope : Scope) : ∃ g, s.grant h = some g ∧ Stands h.chrono g scope now := by
                have hgate := hgates hpatch hmode scope
                simp only [Connector.consentGate, hmode, hgrant] at hgate
                exact stands_of_not_denied hgate
              obtain ⟨g, hg, hversion, -, hbluetooth⟩ := hstands .bluetooth
              obtain ⟨g', hg', -, -, htranscription⟩ := hstands .transcription
              obtain rfl := Option.some.inj (hg.symm.trans hg')
              exact ⟨g, hg, hversion, hbluetooth, fun _ => htranscription⟩
        exact ⟨g, hgrant.trans hg, hversion, hbluetooth, hg ▸ hdestinations hmode, htranscription⟩
      · intro hselected _
        obtain ⟨g, hg, ⟨hversion, -, htranscription⟩, hnamed⟩ := realtime_granted hselected hrealtime
        exact ⟨g, hgrant.trans hg, hversion, htranscription, hnamed⟩
      · intro hblocked
        rw [hradio]
        exact hold.blocked (by rwa [ht] at hblocked)

lemma exists_consentSet {body : ConsentBody} {ends : Ends} (hok : (s.consentSet h body now ends).2 = .ok ()) :
    ∃ (u : Connector), u.radio = s.radio ∧ u.settings = s.settings ∧ u.disk = { s.disk with file := body.file h.key } ∧
      (s.consentSet h body now ends).1 = u.consentRecorded h now ends.saved ends.comesUp := by
  have hrecord (grant : ConsentGrant) (signed : Bool) (file : ConsentFile)
      (hok : (s.recordGrant h grant signed file now ends).2 = .ok ()) :
      ∃ (u : Connector), u.radio = s.radio ∧ u.settings = s.settings ∧ u.disk = { s.disk with file := file } ∧
        (s.recordGrant h grant signed file now ends).1 = u.consentRecorded h now ends.saved ends.comesUp := by
    simp only [Connector.recordGrant, Connector.validateCandidateConsentDestinations] at hok ⊢
    cases hvalid : validateEffectiveDestinations h.endpoints s.settings (some grant) with
    | error reason => simp [hvalid] at hok
    | ok done =>
        rw [hvalid] at hok
        dsimp only at hok ⊢
        cases hend : ends.file with
        | done => exact ⟨{ s with disk := { s.disk with file := file } }, rfl, rfl, rfl, rfl⟩
        | failed e | unsynced e => simp [hend, atomicWrite] at hok
  simp only [Connector.consentSet] at hok ⊢
  cases hkey : h.key with
  | none =>
      rw [hkey] at hok
      simpa [ConsentBody.file, hkey] using hrecord _ _ _ hok
  | some v =>
      rw [hkey] at hok
      cases henvelope : body.envelope with
      | none => simp [henvelope] at hok
      | some envelope =>
          rw [henvelope] at hok
          dsimp only at hok ⊢
          cases hverify : verifyEnvelope v envelope with
          | error e => simp [hverify] at hok
          | ok grant =>
              rw [hverify] at hok
              dsimp only at hok ⊢
              cases hreplay : replayRefusal h.chrono grant (s.grant h) s.disk.floor with
              | some why => simp [hreplay] at hok
              | none =>
                  rw [hreplay] at hok
                  simpa [ConsentBody.file, hkey, henvelope] using hrecord _ _ _ hok

@[simp] lemma enforceRecordedConsent_radio (h : Host) (s : Connector) :
  (s.enforceRecordedConsent h).radio = s.radio := by
  rw [Connector.enforceRecordedConsent]
  split_ifs <;> rfl

@[simp] lemma enforceRecordedConsent_consentBlocked (h : Host) (s : Connector) :
    (s.enforceRecordedConsent h).consentBlocked = s.consentBlocked := by
  rw [Connector.enforceRecordedConsent]
  split_ifs <;> rfl

@[simp] lemma enforceRecordedConsent_disk (h : Host) (s : Connector) : (s.enforceRecordedConsent h).disk = s.disk := by
  rw [Connector.enforceRecordedConsent]
  split_ifs <;> rfl

lemma saveConfig_frame (s : Connector) (saved : Bool) :
    (s.saveConfig saved).radio = s.radio ∧ (s.saveConfig saved).settings = s.settings ∧
      (s.saveConfig saved).disk = s.disk ∧
      (s.saveConfig saved).consentBlocked = s.consentBlocked := by
  rw [Connector.saveConfig]
  split_ifs <;> exact ⟨rfl, rfl, rfl, rfl⟩

lemma consentRecorded_disk (h : Host) (s : Connector) (now : String) (saved comesUp : Bool) :
    (s.consentRecorded h now saved comesUp).disk = s.disk := by
  rw [Connector.consentRecorded, (Connector.ensureRadioStarted_frame h _ now comesUp).2.2]
  split_ifs <;> simp [(saveConfig_frame _ _).2.2.1]

lemma consentRevoke_blocked (h : Host) (s : Connector) (now : String) (ends : Ends) :
    (s.consentRevoke h now ends).1.radio = none ∧ (s.consentRevoke h now ends).1.consentBlocked =
      some "consent was revoked" := by
  simp only [Connector.consentRevoke, Connector.blockRadioForConsent]
  rcases Consent.consentRevoke h.chrono now ends.floor ends.remove s.disk with ⟨disk, e | done⟩
  · exact ⟨rfl, rfl⟩
  · obtain ⟨hradio, -, -, hblocked⟩ := saveConfig_frame
      ({ (({ s with
          radio := none, consentBlocked := some "consent was revoked",
          disk := disk } : Connector).enforceRecordedConsent h) with
        settings :=
          ((({ s with
              radio := none, consentBlocked := some "consent was revoked",
              disk := disk } : Connector).enforceRecordedConsent
          h).settings.insert "autoAnswer" (.bool false)) } : Connector) ends.saved
    exact ⟨hradio.trans (by simp), hblocked.trans (by simp)⟩

lemma licensed_step {c : Command} (hold : Licensed h s) (hok : (step h s c).2 = .ok ()) :
    Licensed h (step h s c).1 := by
  cases c with
  | settingsSet patch now ends => exact licensed_settingsSet hold hok
  | consentSet body now ends =>
      obtain ⟨u, -, -, -, hu⟩ := exists_consentSet hok
      simp only [step, hu]
      exact Connector.licensed_ensureRadioStarted h _ now _
  | consentRevoke now ends => exact licensed_of_radio_none (consentRevoke_blocked h s now ends).1
  | start now comesUp => exact Connector.licensed_ensureRadioStarted h s now comesUp
  | expiry now onCall =>
      simp only [step, Connector.stopRadioIfConsentExpired]
      split
      · split_ifs
        · exact Connector.licensed_blockRadioForConsent h s _
        · exact hold
      · exact hold
  | radioEnded => exact licensed_of_radio_none rfl

end Runs

section Fresh

variable {h : Host} {s : Connector} {settings other : Settings} {grant : Option ConsentGrant} {patch written : Patch}
    {at_ now : String}

def opened (settings : Settings) (disk : Disk) : Connector := ⟨settings, settings, disk, none, none⟩

def freshStart (h : Host) (s : Connector) (now : String) : Connector :=
  (opened s.stored s.disk).ensureRadioStarted h now true

lemma freshStart_consentBlocked (h : Host) (s : Connector) (now : String) :
    (freshStart h s now).consentBlocked ≠ none ↔ startBlock h s.stored (s.grant h) now ≠ none := by
  have hblocked := Connector.ensureRadioStarted_consentBlocked h (opened s.stored s.disk) now true
  refine hblocked.trans ⟨?_, .inl⟩
  rintro (hblock | ⟨radio, _, hradio, -⟩)
  · exact hblock
  · simp [opened] at hradio

def SameExpiry (h : Host) (grant : Option ConsentGrant) (at_ now : String) : Prop :=
  ∀ g ∈ grant, expired h.chrono g at_ = expired h.chrono g now

lemma evaluate_sameExpiry (hsame : SameExpiry h grant at_ now) (mode : ConsentMode) (scope : Scope) :
    evaluate h.chrono grant currentConsentVersion mode scope at_ =
      evaluate h.chrono grant currentConsentVersion mode scope now := by
  have hrefusal : refusal h.chrono grant currentConsentVersion scope at_ =
      refusal h.chrono grant currentConsentVersion scope now := by
    cases grant with
    | none => rfl
    | some g => simp only [refusal, hsame g rfl]
  simp only [evaluate, hrefusal]

lemma startBlock_sameExpiry (hsame : SameExpiry h grant at_ now) (settings : Settings) :
    startBlock h settings grant at_ = startBlock h settings grant now := by
  simp only [startBlock, validateRealtimeVoiceConsent, evaluate_sameExpiry hsame]

def consentSettingKeys : List String :=
  ["consentMode", "realtimeVoiceMode", "aiReceptionist", "transportMode"] ++ consentDestinationSettingKeys

lemma startBlock_congr (hsame : ∀ key ∈ consentSettingKeys, settings.get key = other.get key) :
    startBlock h settings grant now = startBlock h other grant now := by
  have hstr (key : String) (hkey : key ∈ consentSettingKeys) : settings.str key = other.str key := by
    rw [Settings.str, Settings.str, hsame key hkey]
  have hagent : agentEnabled settings =
      agentEnabled other := by rw [agentEnabled, agentEnabled, hsame "aiReceptionist" (by decide)]
  simp only [consentSettingKeys, consentDestinationSettingKeys, List.cons_append, List.nil_append,
    List.forall_mem_cons] at hstr
  obtain ⟨hmode, hvoice, -, htransport, hai, htranscript, hendpoint, hdestination, -⟩ := hstr
  have hselected : realtimeVoiceSelected settings =
      realtimeVoiceSelected other := by rw [realtimeVoiceSelected, realtimeVoiceSelected, hvoice]
  have hvalid : validateRealtimeVoiceSettings h.endpoints settings =
      validateRealtimeVoiceSettings h.endpoints other := by
    have hnative : transportNative settings =
        transportNative other := by rw [transportNative, transportNative, htransport]
    have hgiven (key : String) (hkey : settings.str key = other.str key) : given settings key = given other key := by
      rw [given, given, hkey]
    simp only [validateRealtimeVoiceSettings, hselected, hagent, hnative, hgiven _ hendpoint, hgiven _ hdestination]
  have hrealtime : validateRealtimeVoiceConsent h.endpoints h.chrono settings grant now =
      validateRealtimeVoiceConsent h.endpoints h.chrono other grant now := by
    simp only [validateRealtimeVoiceConsent, hselected, hvalid, hdestination]
  have heffective : validateEffectiveDestinations h.endpoints settings grant =
      validateEffectiveDestinations h.endpoints other grant := by
    simp only [validateEffectiveDestinations, consentDestinationSettingKeys, List.forM_eq_forM, List.forM_cons,
      List.forM_nil,
      checkDestination, hai, htranscript, hendpoint, hdestination]
  have henforced : consentModeForSettings h settings = consentModeForSettings h other := by
    rw [consentModeForSettings, consentModeForSettings, hmode]
  simp only [startBlock, hrealtime, heffective, henforced]

lemma not_mem_addedKeys {key : String} (hkey : key ∈ consentSettingKeys) : key ∉ addedKeys := by
  revert key
  decide

lemma get_written (hwritten : s.checkPatch h patch = .ok written) :
    ∀ key ∈ consentSettingKeys, (prospective s.settings written.entries).get key =
      (prospective s.settings patch.entries).get key := by
  intro key hkey
  rw [get_prospective_patch, get_prospective_patch, get_checkPatch hwritten (not_mem_addedKeys hkey)]

lemma startBlock_ne_none_of_bluetooth {reason : String}
    (hdeny : evaluate h.chrono grant currentConsentVersion (consentModeForSettings h settings) .bluetooth now =
      .deny reason) :
    startBlock h settings grant now ≠ none := startBlock_ne_none_iff.mpr (.inr ⟨reason, hdeny⟩)

lemma startBlock_of_expired {g : ConsentGrant} (hexpired : expired h.chrono g now = true)
    (henforced : consentModeForSettings h settings = .enforce ∨ realtimeVoiceSelected settings = true) :
    startBlock h settings (some g) now ≠ none := by
  intro hnone
  obtain ⟨hrealtime, -, hbluetooth⟩ := startBlock_eq_none hnone
  obtain hmode | hselected := henforced
  · obtain ⟨g', hg', -, hfresh, -⟩ := stands_of_not_denied (hmode ▸ hbluetooth)
    obtain rfl := Option.some.inj hg'
    simp [hexpired] at hfresh
  · obtain ⟨g', hg', ⟨-, hfresh, -⟩, -⟩ := realtime_granted hselected hrealtime
    obtain rfl := Option.some.inj hg'
    simp [hexpired] at hfresh

end Fresh

def Command.moment : Command → Option String
  | settingsSet _ now _ | consentSet _ now _ | consentRevoke now _ | start now _ | expiry now _ => some now
  | radioEnded => none

/-- The grants around a command are expired at `now` exactly if they are when it runs. -/
def Steady (h : Host) (now : String) (s : Connector) (c : Command) : Prop :=
  ∀ at_ ∈ c.moment, SameExpiry h (s.grant h) at_ now ∧ SameExpiry h ((step h s c).1.grant h) at_ now

def Closed (h : Host) (s : Connector) (now : String) : Prop :=
  startBlock h s.settings (s.grant h) now ≠ none → s.consentBlocked ≠ none

def Founded (h : Host) (s : Connector) (now : String) : Prop :=
  s.consentBlocked ≠ none → startBlock h s.settings (s.grant h) now ≠ none

section Steps

variable {h : Host} {s : Connector} {patch : Patch} {now : String}

lemma closed_settingsSet {saved comesUp : Bool} (hold : Licensed h s) (hclosed : Closed h s now)
    (hok : (s.settingsSet h patch now saved comesUp).2 = .ok ()) :
      Closed h (s.settingsSet h patch now saved comesUp).1 now := by
  obtain ⟨written, -, hwritten⟩ := exists_written hold.blocked hok
  generalize (s.settingsSet h patch now saved comesUp).1 = t at hwritten ⊢
  cases hwritten with
  | blocked => exact fun _ => by simp [Connector.blockRadioForConsent]
  | started hblock hsettings hdisk hradio =>
      intro hstart
      rw [(Connector.ensureRadioStarted_frame h _ now comesUp).1,
        Connector.grant_congr (Connector.ensureRadioStarted_frame h _ now comesUp).2.2]
        at hstart
      exact (Connector.ensureRadioStarted_consentBlocked h _ now comesUp).mpr (.inl hstart)
  | transition => exact fun _ => by simp [Connector.blockRadioForConsent]
  | kept ht hblock hgates =>
      intro hstart
      have hgrant : t.grant h = s.grant h := Connector.grant_congr (by rw [ht])
      obtain hdestination | ⟨reason, hdeny⟩ := startBlock_ne_none_iff.mp hstart
      · rw [hgrant] at hdestination
        exact absurd hblock hdestination
      · cases hpatch : written.contains "consentMode" with
        | true =>
            have hmode : t.consentMode h = .enforce := by
              by_contra hmode
              exact not_denied_of_mode hmode reason hdeny
            exact absurd hdeny (hgates hpatch hmode .bluetooth reason)
        | false =>
            have hsame : consentModeForSettings h t.settings = consentModeForSettings h s.settings := by
              rw [ht]
              exact mode_prospective h s.settings hpatch
            rw [hsame, hgrant] at hdeny
            have hblocked := hclosed (startBlock_ne_none_of_bluetooth hdeny)
            rwa [ht]

/-- Nothing holds a radio back: Realtime voice and every destination are covered, and Bluetooth is not denied. -/
def GatesOpen (h : Host) (settings : Settings) (grant : Option ConsentGrant) (now : String) : Prop :=
  destinationBlock h settings grant now = none ∧
    ∀ reason, evaluate h.chrono grant currentConsentVersion
      (consentModeForSettings h settings) .bluetooth now ≠ .deny reason

lemma gatesOpen_iff {settings : Settings} {grant : Option ConsentGrant} :
    GatesOpen h settings grant now ↔ startBlock h settings grant now = none := by
  rw [← not_iff_not, ← ne_eq (startBlock h settings grant now), startBlock_ne_none_iff, GatesOpen]
  simp only [not_and_or, not_forall, not_not, ne_eq]

/-- What keeps a write's block one that a start would make: a change of mode does not deny transcription, and the write
does not open the gates under a block that it does not look at. -/
def PlainWrite (h : Host) (s : Connector) (patch : Patch) (now : String) : Prop :=
  let settings := prospective s.settings patch.entries
  (patch.contains "consentMode" = true → ∀ reason,
      evaluate h.chrono (s.grant h) currentConsentVersion
        (consentModeForSettings h settings) .transcription now ≠ .deny reason) ∧
    (s.consentBlocked = none ∨ (consentRelevant patch = true ∧
      s.consentBlocked.any isEffectiveDestinationBlock = true) ∨
      ¬GatesOpen h settings (s.grant h) now)

lemma founded_settingsSet {saved comesUp : Bool} (hold : Licensed h s)
    (hok : (s.settingsSet h patch now saved comesUp).2 = .ok ()) (hplain : PlainWrite h s patch now) :
    Founded h (s.settingsSet h patch now saved comesUp).1 now := by
  obtain ⟨written, hcheck, hwritten⟩ := exists_written hold.blocked hok
  have hrelevant := consentRelevant_checkPatch hcheck
  have hmodePatch : written.contains "consentMode" = patch.contains "consentMode" :=
      contains_checkPatch hcheck (by decide)
  have hkeys := get_written hcheck
  generalize (s.settingsSet h patch now saved comesUp).1 = t at hwritten ⊢
  obtain ⟨htranscription, hstanding⟩ := hplain
  cases hwritten with
  | blocked hblock =>
      intro _
      exact startBlock_ne_none_iff.mpr (.inl (ne_of_eq_of_ne hblock (Option.some_ne_none _)))
  | started hblock hsettings hdisk hradio =>
      intro hblocked
      rw [(Connector.ensureRadioStarted_frame h _ now comesUp).1,
        Connector.grant_congr (Connector.ensureRadioStarted_frame h _ now comesUp).2.2]
      obtain hstart | ⟨radio, _, hruns, -⟩ := (Connector.ensureRadioStarted_consentBlocked h _ now comesUp).mp hblocked
      · exact hstart
      · rw [hradio] at hruns
        simp at hruns
  | @transition reason scope u hu hmode hpatch hdeny =>
      intro _
      cases scope with
      | bluetooth => exact startBlock_ne_none_of_bluetooth hdeny
      | transcription =>
          subst hu
          refine absurd hdeny ?_
          simpa [Connector.consentGate, Connector.grant, Connector.consentMode, consentModeForSettings, Settings.str,
            hkeys "consentMode" (by decide)] using htranscription (hmodePatch ▸ hpatch) reason
  | kept ht hblock hgates hreason =>
      intro hblocked
      have hsame : t.consentBlocked = s.consentBlocked := by rw [ht]
      rw [hsame] at hblocked
      obtain hnone | ⟨hconsent, hany⟩ | hshut := hstanding
      · exact absurd hnone hblocked
      · rw [hreason (hrelevant.trans hconsent)] at hany
        simp at hany
      · rw [Connector.grant_congr (show t.disk =
          s.disk by rw [ht]), show t.settings = prospective s.settings written.entries by rw [ht],
          startBlock_congr hkeys]
        exact mt gatesOpen_iff.mpr hshut

lemma mode_enforceRecordedConsent (hdev : h.devMode = false) :
    (s.enforceRecordedConsent h).consentMode h = .enforce := by
  simp only [Connector.enforceRecordedConsent, Connector.consentMode, consentModeForSettings, hdev, Bool.false_or,
    Bool.false_eq_true, if_false]
  split_ifs with hset
  · simpa using hset
  · have hwritten : Settings.str (s.settings.insert "consentMode" (.string "enforce")) "consentMode" =
        some "enforce" := by
      rw [Settings.str, Keyed.get_insert, if_pos rfl]
      rfl
    rw [hwritten]
    decide

lemma startBlock_of_revoked {ends : Ends} (hdev : h.devMode = false) (hok : (s.consentRevoke h now ends).2 = .ok ()) :
    startBlock h (s.consentRevoke h now ends).1.settings ((s.consentRevoke h now ends).1.grant h) now ≠ none := by
  simp only [Connector.consentRevoke, Consent.consentRevoke] at hok ⊢
  cases hremove : ends.remove with
  | error e => simp [hremove] at hok
  | ok done =>
      dsimp only
      generalize hu : ({ s.blockRadioForConsent _ with disk := _ } : Connector) = u
      have hmode : consentModeForSettings h ((u.enforceRecordedConsent h).settings.insert "autoAnswer" (.bool false)) =
          .enforce := by
        have henforced := mode_enforceRecordedConsent (s := u) hdev
        simpa [Connector.consentMode, consentModeForSettings, Settings.str] using henforced
      have hfile : u.disk.file = .missing := by rw [← hu]
      have hgrant : consentLoaded h.key u.disk = none := by
        cases hkey : h.key <;> simp [consentLoaded, recorded, loadVerified, hfile]
      obtain ⟨-, hsettings, hdisk, -⟩ := saveConfig_frame
        ({ u.enforceRecordedConsent h with
            settings := (u.enforceRecordedConsent h).settings.insert "autoAnswer" (.bool false) } : Connector)
        ends.saved
      rw [Connector.grant, hsettings, hdisk, enforceRecordedConsent_disk, hgrant]
      have hdeny : evaluate h.chrono none currentConsentVersion .enforce .bluetooth now =
          .deny "no consent has been recorded for this device" := rfl
      rw [← hmode] at hdeny
      exact startBlock_ne_none_of_bluetooth hdeny

/-- What keeps a block one that a start would make: a write is plain, no radio is stopped for transcription alone, and a
revoke enforces. -/
def Plain (h : Host) (s : Connector) : Command → Prop
  | .settingsSet patch now _ => PlainWrite h s patch now
  | .consentSet body now _ => ∀ radio, s.radio = some radio → radio.transcriptionDisabled = false → ∀ reason,
      evaluate h.chrono (consentLoaded h.key { s.disk with
        file := body.file h.key }) currentConsentVersion .enforce .transcription now ≠
        .deny reason
  | .start now _ => ∀ radio, s.radio = some radio → radio.transcriptionDisabled = false → ∀ reason,
      s.consentGate h .transcription now ≠ .deny reason
  | .consentRevoke _ _ => h.devMode = false
  | .expiry _ _ | .radioEnded => True

lemma consentGate_congr {t : Connector} (hsettings : t.settings = s.settings) (hdisk : t.disk = s.disk) (scope : Scope)
    (now : String) :
    t.consentGate h scope now = s.consentGate h scope now := by
  rw [Connector.consentGate, Connector.consentGate, Connector.grant_congr hdisk, Connector.consentMode,
    Connector.consentMode, hsettings]

lemma consentBlocked_of_start (h : Host) (s : Connector) (now : String) (comesUp : Bool) :
    (s.ensureRadioStarted h now comesUp).consentBlocked ≠ none ↔
      startBlock h (s.ensureRadioStarted h now comesUp).settings
        ((s.ensureRadioStarted h now comesUp).grant h) now ≠ none ∨
        ∃ radio reason, s.radio = some radio ∧ radio.transcriptionDisabled = false ∧
          (s.ensureRadioStarted h now comesUp).consentGate h .transcription now = .deny reason := by
  obtain ⟨hsettings, -, hdisk⟩ := Connector.ensureRadioStarted_frame h s now comesUp
  have hgate := consentGate_congr (h := h) hsettings hdisk .transcription now
  rw [Connector.ensureRadioStarted_consentBlocked, hsettings, Connector.grant_congr hdisk, hgate, Connector.Withdrawn]

lemma closed_start {at_ : String} {comesUp : Bool} (hsame : SameExpiry h
    ((step h s (.start at_ comesUp)).1.grant h) at_ now) :
    Closed h (step h s (.start at_ comesUp)).1 now := by
  rw [Closed, ← startBlock_sameExpiry hsame]
  exact fun hblock => (consentBlocked_of_start h s at_ comesUp).mpr (.inl hblock)

lemma founded_start {at_ : String} {comesUp : Bool} (hsame : SameExpiry h
    ((step h s (.start at_ comesUp)).1.grant h) at_ now)
    (hplain : Plain h s (.start at_ comesUp)) : Founded h (step h s (.start at_ comesUp)).1 now := by
  rw [Founded, ← startBlock_sameExpiry hsame]
  intro hblocked
  obtain hstart | ⟨radio, reason, hruns, hdisabled, hdeny⟩ := (consentBlocked_of_start h s at_ comesUp).mp hblocked
  · exact hstart
  · obtain ⟨hsettings, -, hdisk⟩ := Connector.ensureRadioStarted_frame h s at_ comesUp
    have hsame := consentGate_congr (h := h) hsettings hdisk .transcription at_
    exact absurd (hsame.symm.trans hdeny) (hplain radio hruns hdisabled reason)

lemma closed_step {c : Command} (hold : Licensed h s) (hclosed : Closed h s now) (hok : (step h s c).2 = .ok ())
    (hsteady : Steady h now s c) :
    Closed h (step h s c).1 now := by
  -- At the command's own moment the check says what it says at `now`.
  have hmoved {at_ : String} (hat : at_ ∈ c.moment) (hthen : Closed h s at_ → Closed h (step h s c).1 at_) :
      Closed h (step h s c).1 now := by
    obtain ⟨hbefore, hafter⟩ := hsteady at_ hat
    have hnow := hthen (by rwa [Closed, startBlock_sameExpiry hbefore])
    rwa [Closed, startBlock_sameExpiry hafter] at hnow
  cases c with
  | settingsSet patch at_ ends => exact hmoved rfl fun hthen => closed_settingsSet hold hthen hok
  | consentSet body at_ ends =>
      apply hmoved rfl
      intro _
      obtain ⟨u, -, -, -, hu⟩ := exists_consentSet hok
      simp only [step, hu]
      exact fun hstart => (consentBlocked_of_start h _ at_ _).mpr (.inl hstart)
  | consentRevoke at_ ends => exact fun _ => by simp [step, (consentRevoke_blocked h s at_ ends).2]
  | start at_ comesUp => exact closed_start (hsteady at_ rfl).2
  | expiry at_ onCall =>
      simp only [step, Connector.stopRadioIfConsentExpired]
      split
      · split_ifs
        · exact fun _ => by simp [Connector.blockRadioForConsent]
        · exact hclosed
      · exact hclosed
  | radioEnded => exact hclosed

lemma founded_step {c : Command} (hold : Licensed h s) (hfounded : Founded h s now) (hok : (step h s c).2 = .ok ())
    (hsteady : Steady h now s c) (hplain : Plain h s c) : Founded h (step h s c).1 now := by
  have hmoved {at_ : String} (hat : at_ ∈ c.moment) (hthen : Founded h s at_ → Founded h (step h s c).1 at_) :
      Founded h (step h s c).1 now := by
    obtain ⟨hbefore, hafter⟩ := hsteady at_ hat
    have hnow := hthen (by rwa [Founded, startBlock_sameExpiry hbefore])
    rwa [Founded, startBlock_sameExpiry hafter] at hnow
  cases c with
  | settingsSet patch at_ ends => exact hmoved rfl fun _ => founded_settingsSet hold hok hplain
  | consentSet body at_ ends =>
      apply hmoved rfl
      intro _
      obtain ⟨u, hradio, -, hdisk, hu⟩ := exists_consentSet hok
      simp only [step, hu]
      intro hblocked
      obtain hstart | ⟨radio, reason, hruns, hdisabled, hdeny⟩ := (consentBlocked_of_start h _ at_ _).mp hblocked
      · exact hstart
      · exfalso
        have hgrant : (u.consentRecorded h at_ ends.saved ends.comesUp).grant h =
            consentLoaded h.key { s.disk with file := body.file h.key } := by
          rw [Connector.grant, consentRecorded_disk, hdisk]
        change (u.consentRecorded h at_ ends.saved ends.comesUp).consentGate h .transcription at_ =
          .deny reason at hdeny
        rw [Connector.consentGate, hgrant] at hdeny
        by_cases hmode : (u.consentRecorded h at_ ends.saved ends.comesUp).consentMode h = .enforce
        · rw [hmode] at hdeny
          refine hplain radio ?_ hdisabled reason hdeny
          rw [← hradio, ← hruns]
          split_ifs <;> simp [(saveConfig_frame _ _).1]
        · exact not_denied_of_mode hmode reason hdeny
  | consentRevoke at_ ends => exact hmoved rfl fun _ _ => startBlock_of_revoked hplain hok
  | start at_ comesUp => exact founded_start (hsteady at_ rfl).2 hplain
  | expiry at_ onCall =>
      apply hmoved rfl
      intro hthen
      simp only [step, Connector.stopRadioIfConsentExpired]
      split
      · next radio g hradio hgrant =>
          split_ifs with hexpired
          · intro _
            obtain ⟨henforced, hg⟩ : (s.consentMode h = .enforce ∨ realtimeVoiceSelected s.settings = true) ∧
                s.grant h = some g := by
              split_ifs at hgrant with henforced
              exact ⟨by simpa using henforced, hgrant⟩
            have hblock : startBlock h s.settings (some g) at_ ≠ none :=
                startBlock_of_expired (Bool.and_eq_true_iff.mp hexpired).2 henforced
            rwa [← hg] at hblock
          · exact hthen
      · exact hthen
  | radioEnded => exact hfounded

end Steps

abbrev Accepted (h : Host) (s : Connector) (c : Command) : Prop := (step h s c).2 = .ok ()

section Run

variable {h : Host} {s : Connector} {commands : List Command} {now : String}

lemma along_and {σ ι ω : Type*} {m : Machine σ ι ω} {C D : σ → ι → Prop} {s : σ} {is : List ι} (hC : m.Along C s is)
    (hD : m.Along D s is) :
    m.Along (fun s i => C s i ∧ D s i) s is := by
  induction is generalizing s with
  | nil => trivial
  | cons i is ih => exact ⟨⟨hC.1, hD.1⟩, ih hC.2 hD.2⟩

lemma licensed_run (hold : Licensed h s) (haccepted : (step h).Along (Accepted h) s commands) :
    Licensed h ((step h).final s commands) :=
  Machine.invariant (fun _ _ hok hold => licensed_step hold hok) haccepted hold

lemma closed_run (hold : Licensed h s) (hclosed : Closed h s now) (haccepted : (step h).Along (Accepted h) s commands)
    (hsteady : (step h).Along (Steady h now) s commands) : Closed h ((step h).final s commands) now := by
  have hinv : Licensed h ((step h).final s commands) ∧ Closed h ((step h).final s commands) now := by
    refine Machine.invariant (P := fun s => Licensed h s ∧ Closed h s now) ?_ (along_and haccepted hsteady)
      ⟨hold, hclosed⟩
    rintro s c ⟨hok, hsteady⟩ ⟨hold, hclosed⟩
    exact ⟨licensed_step hold hok, closed_step hold hclosed hok hsteady⟩
  exact hinv.2

lemma founded_run (hold : Licensed h s) (hfounded : Founded h s now)
    (haccepted : (step h).Along (Accepted h) s commands)
    (hsteady : (step h).Along (Steady h now) s commands) (hplain : (step h).Along (Plain h) s commands) :
    Founded h ((step h).final s commands) now := by
  have hinv : Licensed h ((step h).final s commands) ∧ Founded h ((step h).final s commands) now := by
    refine Machine.invariant (P := fun s => Licensed h s ∧ Founded h s now) ?_
      (along_and haccepted (along_and hsteady hplain)) ⟨hold, hfounded⟩
    rintro s c ⟨hok, hsteady, hplain⟩ ⟨hold, hfounded⟩
    exact ⟨licensed_step hold hok, founded_step hold hfounded hok hsteady hplain⟩
  exact hinv.2

end Run

/-- A running radio has its consent after every run of accepted commands; and from a start on a radio that a fresh start
would hold back is blocked, and where the commands are plain a blocked one is one that a fresh start would hold back. -/
theorem radio_runs_with_consent (h : Host) (settings : Settings) (disk : Disk) (commands : List Command)
    (haccepted : (step h).Along (Accepted h) (opened settings disk) commands) :
    Licensed h ((step h).final (opened settings disk) commands) ∧
      ∀ before at_ comesUp after now, commands = before ++ .start at_ comesUp :: after →
        let begun := (step h).final (opened settings disk) before
        let s := (step h).final begun (.start at_ comesUp :: after)
        (step h).Along (Steady h now) begun (.start at_ comesUp :: after) → s.stored = s.settings →
          ((freshStart h s now).consentBlocked ≠ none → s.consentBlocked ≠ none) ∧
            ((step h).Along (Plain h) begun (.start at_ comesUp :: after) →
              (s.consentBlocked ≠ none ↔ (freshStart h s now).consentBlocked ≠ none)) := by
  have hopened : Licensed h (opened settings disk) := licensed_of_radio_none rfl
  refine ⟨licensed_run hopened haccepted, ?_⟩
  rintro before at_ comesUp after now rfl begun s hsteady hstored
  obtain ⟨hbefore, hafter⟩ := Machine.along_append.mp haccepted
  have hbegun : Licensed h begun := licensed_run hopened hbefore
  have hsame := (hsteady.1 at_ rfl).2
  have hstarted := licensed_step hbegun hafter.1
  rw [freshStart_consentBlocked, hstored]
  have hclosed : Closed h s now := closed_run (s := (step h begun (.start at_ comesUp)).1) hstarted
      (closed_start hsame) hafter.2 hsteady.2
  refine ⟨hclosed, ?_⟩
  intro hplain
  exact ⟨founded_run (s := (step h begun (.start at_ comesUp)).1) hstarted
    (founded_start hsame hplain.1) hafter.2 hsteady.2 hplain.2, hclosed⟩

section Sample

def desktopRoute : String := "ws://127.0.0.1:17872/api/ai/providers/openai/v1/realtime/stream"

/-- A host whose endpoints are the Desktop's route and texts that are their own canonical form. -/
def sampleHost : Host where
  devMode := false
  key := none
  chrono := ⟨fun text => if text = "2027-07-12T00:00:00Z" then some 1815350400000000000 else some 1783814400000000000,
    fun _ => ""⟩
  endpoints := ⟨fun _ => none, fun url => if url = desktopRoute then .ok "openai" else .error "not the Desktop's route",
    .ok,
    fun _ => false, .ok⟩
  validateSetting _ _ := .ok ()
  sealPin := .ok

def sampleMoment : String := "2026-07-12T00:00:00Z"

def sampleDisk : Disk :=
  ⟨.plain ⟨3, { bluetooth := true, transcription := true, destinations := ["https://ai.example.com:443"] },
    sampleMoment, none,
    some "2027-07-12T00:00:00Z", none⟩, none⟩

/-- An endpoint the grant does not cover is written, and then one that it does. -/
def endpointWrites : List Command :=
  [.start sampleMoment true,
    .settingsSet (Keyed.empty.insert "aiEndpoint" (.string "https://other.example.com:443")) sampleMoment {},
    .settingsSet (Keyed.empty.insert "aiEndpoint" (.string "https://ai.example.com:443")) sampleMoment {}]

set_option maxRecDepth 16000 in
theorem cleared_as_a_fresh_start :
    let s := (step sampleHost).final (opened .empty sampleDisk) endpointWrites
    Licensed sampleHost s ∧ (s.consentBlocked ≠ none ↔
      (freshStart sampleHost s sampleMoment).consentBlocked ≠ none) := by
  have haccepted : (step sampleHost).Along (Accepted sampleHost) (opened .empty sampleDisk) endpointWrites := by
    refine ⟨rfl, ?_, ?_, trivial⟩ <;> decide
  obtain ⟨hlicensed, hfresh⟩ := radio_runs_with_consent sampleHost .empty sampleDisk endpointWrites haccepted
  refine ⟨hlicensed, (hfresh [] _ _ _ sampleMoment rfl ?_ ?_).2 ?_⟩
  · refine ⟨?_, ?_, ?_, trivial⟩
    all_goals
      rintro at_ hat
      obtain rfl := Option.some.inj hat
      exact ⟨fun _ _ => rfl, fun _ _ => rfl⟩
  · rfl
  · refine ⟨?_, ⟨?_, .inl ?_⟩, ⟨?_, .inr (.inl ?_)⟩, trivial⟩
    · intro radio hradio
      simp [opened] at hradio
    · exact fun hmode => absurd hmode (by decide)
    · decide
    · exact fun hmode => absurd hmode (by decide)
    · decide

def warned : Settings :=
  (((Keyed.empty.insert "consentMode" (.string "warn")).insert "aiReceptionist"
    (.bool true)).insert "realtimeVoiceEndpoint"
    (.string desktopRoute)).insert "realtimeVoiceDestination" (.string "https://api.openai.com")

def realtimeTried : List Command :=
  [.start sampleMoment true,
    .settingsSet (Keyed.empty.insert "realtimeVoiceMode" (.string "desktop_realtime")) sampleMoment {},
    .settingsSet (Keyed.empty.insert "realtimeVoiceMode" (.string "legacy")) sampleMoment {}]

set_option maxRecDepth 16000 in
/-- The block that Realtime voice made outlives it, and a fresh start would not make it. -/
theorem realtime_block_outlives_realtime :
    ¬∀ (h : Host) (settings : Settings) (disk : Disk) (commands : List Command) (now : String),
      (step h).Along (Accepted h) (opened settings disk) commands → (∀ c ∈ commands, c.moment = some now) →
        let s := (step h).final (opened settings disk) commands
        s.consentBlocked.isSome = (freshStart h s now).consentBlocked.isSome := by
  intro hall
  have haccepted : (step sampleHost).Along (Accepted sampleHost) (opened warned ⟨.missing, none⟩) realtimeTried := by
    refine ⟨rfl, ?_, ?_, trivial⟩ <;> decide
  have hequal := hall sampleHost warned ⟨.missing, none⟩ realtimeTried sampleMoment haccepted (by decide)
  revert hequal
  decide

end Sample

end Aokie.Plugin.ConsentGate
