import Aokie.Plugin.ConsentGate

/-! `settings.set`: the checks, the settings in memory and in the file, and the environment the radio reads. -/

namespace Aokie.Plugin.SettingsSet

open Aokie.Lib ConsentGate

abbrev Environment := String → Option String

namespace Environment

def setVar (env : Environment) (name value : String) : Environment := Function.update env name (some value)

def removeVar (env : Environment) (name : String) : Environment := Function.update env name none

end Environment

structure ConfigFile where
  settings : Settings
  configVersion : ℕ

/-- The gate with its settings in memory, their version, the file on disk and the environment. -/
structure PluginState where
  gate : Connector
  configVersion : ℕ
  file : Option ConfigFile
  env : Environment

/-- How `save` ends: the new file is in place, the old one is left as it was, or it was removed and the new one could
not take its place. -/
inductive SaveEnd
  | done
  | failed (error : String)
  | lost (error : String)
  deriving DecidableEq, Repr

def asI64 : Json → Option ℤ
  | .number n =>
    match n.text with
    | '-' :: digits => ((parseDigits digits).filter (· ≤ 2 ^ 63)).map fun n => -(n : ℤ)
    | digits => ((parseDigits digits).filter (· < 2 ^ 63)).map fun n => (n : ℤ)
  | _ => none

/-! ### What the running radio is told through the environment -/

section Environment

variable (settings : Settings)

def applyEndpointEnvFromSettings (settingKey envKey : String) (env : Environment) : Environment :=
  match (settings.str settingKey).map strip with
  | some ep => if ep ≠ "" then env.setVar envKey ep else env.removeVar envKey
  | none => env.removeVar envKey

def endpointEnvs : List (String × String) :=
  [("aiEndpoint", "AOKIE_AI_ENDPOINT"), ("realtimeVoiceEndpoint", "AOKIE_REALTIME_VOICE_ENDPOINT"),
    ("realtimeVoiceDestination", "AOKIE_REALTIME_VOICE_DESTINATION")]

def realtimeEnvs : List (String × String × String) :=
  [("realtimeVoice", "AOKIE_REALTIME_VOICE", "marin"), ("realtimeTurnDetection",
    "AOKIE_REALTIME_TURN_DETECTION", "server_vad")]

def screeningEnvs : List (String × String) :=
  [("blockedNumbers", "AOKIE_BLOCKED_NUMBERS"), ("acceptPattern", "AOKIE_ACCEPT_PATTERN"),
    ("allowedNumbers", "AOKIE_ALLOWED_NUMBERS"),
    ("otherCallers", "AOKIE_OTHER_CALLERS"), ("screenMessage", "AOKIE_SCREEN_MESSAGE"),
    ("blockedMessage", "AOKIE_BLOCKED_MESSAGE"),
    ("managerNumbers", "AOKIE_MANAGER_NUMBERS"), ("managerPin", "AOKIE_MANAGER_PIN")]

def screeningKeys : List String :=
  ["blockedNumbers", "acceptPattern", "rejectPrivate", "allowedNumbers", "callsAllowedOnly", "otherCallers",
    "screenMessage",
    "blockedMessage", "managerNumbers", "managerPin"]

def settingOn (key : String) : Bool :=
  match settings.get key with
  | some (.bool b) => b
  | some value => value.asStr = some "true"
  | none => false

/-- `reveal` opens the sealed manager PIN. -/
def applyScreeningEnv (reveal : String → String) (env : Environment) : Environment :=
  let env := screeningEnvs.foldl (fun env (key, name) =>
    let stored := strip ((settings.str key).getD "")
    let value := if key = "managerPin" then reveal stored else stored
    if strip value = "" then env.removeVar name else env.setVar name value) env
  let env := if settingOn settings "rejectPrivate" then env.setVar "AOKIE_REJECT_PRIVATE" "1"
    else env.removeVar "AOKIE_REJECT_PRIVATE"
  if settingOn settings "callsAllowedOnly" then env.setVar "AOKIE_CALLS_ALLOWED_ONLY" "1"
  else env.removeVar "AOKIE_CALLS_ALLOWED_ONLY"

def applyEnv (reveal : String → String) (patch : Patch) (env : Environment) : Environment :=
  let env := endpointEnvs.foldl (fun env (key, name) =>
    if patch.contains key then applyEndpointEnvFromSettings settings key name env else env) env
  let env :=
    if patch.contains "realtimeVoiceMode" then
      if realtimeVoiceSelected settings then env.setVar "AOKIE_REALTIME_VOICE_MODE" "desktop_realtime"
      else env.removeVar "AOKIE_REALTIME_VOICE_MODE"
    else env
  let env := realtimeEnvs.foldl (fun env (key, name, fallback) =>
    if patch.contains key then env.setVar name (((settings.str key).filter fun value =>
      strip value ≠ "").getD fallback) else env) env
  let env :=
    if patch.contains "realtimeMaxOutputTokens" then
      let value := ((settings.get "realtimeMaxOutputTokens").bind asI64).getD 4096
      env.setVar "AOKIE_REALTIME_MAX_OUTPUT_TOKENS" (toString (max 64 (min value 4096)))
    else env
  if screeningKeys.any fun key => patch.contains key then applyScreeningEnv settings reveal env else env

end Environment

/-- The command; a payload that is no object is `none`. -/
def settingsSet (h : Host) (reveal : String → String) (p : PluginState) (payload : Option Patch) (now : String)
    (save : SaveEnd)
    (comesUp : Bool) : PluginState × Except String Unit :=
  match payload with
  | none => (p, .error "settings.set payload must be an object of key/value pairs")
  | some patch =>
    match p.gate.checkPatch h patch with
    | .error e => (p, .error e)
    | .ok patch =>
      let settings := prospective p.gate.settings patch.entries
      let block := destinationBlock h settings (p.gate.grant h) now
      let gate := match block with
        | some reason => p.gate.blockRadioForConsent reason
        | none => p.gate
      let gate := { gate with settings := settings }
      let p := { p with gate := gate, configVersion := p.configVersion + 1 }
      match save with
      | .failed error => (p, .error ("cannot persist settings: " ++ error))
      | .lost error => ({ p with file := none }, .error ("cannot persist settings: " ++ error))
      | .done =>
        ({ gate := (gate.saveConfig true).reconcile h patch block now comesUp
           configVersion := p.configVersion
           file := some ⟨settings, p.configVersion⟩
           env := applyEnv settings reveal patch p.env }, .ok ())

/-- An error leaves everything as it was, and a success leaves on disk what is in memory. -/
structure AllOrNothing (p : PluginState) (result : PluginState × Except String Unit) : Prop where
  nothing : ∀ e, result.2 = .error e → result.1.gate.settings = p.gate.settings ∧
    result.1.configVersion = p.configVersion ∧
    result.1.file = p.file ∧ result.1.env = p.env
  all : result.2 = .ok () → ∃ file, result.1.file = some file ∧ file.settings = result.1.gate.settings ∧
    file.configVersion = result.1.configVersion

def Refused (h : Host) (p : PluginState) (payload : Option Patch) : Prop :=
  ∀ patch, payload = some patch → ∃ e, p.gate.checkPatch h patch = .error e

section Settings

variable {h : Host} {s : Connector} {patch : Patch} {block : Option String} {now : String} {comesUp : Bool}

@[simp] lemma blockRadioForConsent_settings (reason : String) :
  (s.blockRadioForConsent reason).settings = s.settings := rfl

lemma ensureRadioStarted_settings : (s.ensureRadioStarted h now comesUp).settings = s.settings := by
  unfold Connector.ensureRadioStarted
  split
  · rfl
  · dsimp only
    split
    · split_ifs
      · rfl
      · exact Connector.bringUp_settings _ _ _
    · exact Connector.bringUp_settings _ _ _

lemma reconcile_settings : (s.reconcile h patch block now comesUp).settings = s.settings := by
  have hscope : (match s.scopeBlock h now with
      | some reason => s.blockRadioForConsent reason
      | none => s).settings = s.settings := by split <;> rfl
  unfold Connector.reconcile
  dsimp only
  split_ifs
  · rw [ensureRadioStarted_settings]
    exact hscope
  · exact hscope
  · exact ensureRadioStarted_settings
  · rfl

end Settings

/-- All or nothing, exactly where a check refuses the request or the file is written. -/
theorem settingsSet_all_or_nothing_iff (h : Host) (reveal : String → String) (p : PluginState)
    (payload : Option Patch) (now : String)
    (save : SaveEnd) (comesUp : Bool) :
    AllOrNothing p (settingsSet h reveal p payload now save comesUp) ↔ Refused h p payload ∨ save = .done := by
  cases payload with
  | none =>
    refine iff_of_true ⟨fun _ _ => ⟨rfl, rfl, rfl, rfl⟩,
      fun hok => by cases hok⟩ (.inl fun patch hpatch => by cases hpatch)
  | some patch =>
    cases hcheck : p.gate.checkPatch h patch with
    | error e =>
      have hresult : settingsSet h reveal p (some patch) now save comesUp =
          (p, .error e) := by simp [settingsSet, hcheck]
      rw [hresult]
      refine iff_of_true ⟨fun _ _ => ⟨rfl, rfl, rfl, rfl⟩, fun hok => by cases hok⟩ (.inl fun patch' hpatch => ?_)
      cases hpatch
      exact ⟨e, hcheck⟩
    | ok checked =>
      have hpasses : ¬Refused h p (some patch) := by
        intro hrefused
        obtain ⟨e, he⟩ := hrefused patch rfl
        rw [hcheck] at he
        cases he
      cases save with
      | done =>
        refine iff_of_true ⟨fun e he => ?_, fun _ => ?_⟩ (.inr rfl)
        · simp [settingsSet, hcheck] at he
        · simp only [settingsSet, hcheck]
          refine ⟨_, rfl, ?_, rfl⟩
          rw [reconcile_settings]
          rfl
      | failed error =>
        refine iff_of_false (fun hall => ?_) fun hor => hor.elim hpasses (by simp)
        have hversion := (hall.nothing ("cannot persist settings: " ++ error) (by simp only [settingsSet, hcheck])).2.1
        simp [settingsSet, hcheck] at hversion
      | lost error =>
        refine iff_of_false (fun hall => ?_) fun hor => hor.elim hpasses (by simp)
        have hversion := (hall.nothing ("cannot persist settings: " ++ error) (by simp only [settingsSet, hcheck])).2.1
        simp [settingsSet, hcheck] at hversion

/-- A disk that is full: the command fails and the greeting is in memory all the same. -/
theorem failed_write_keeps_settings : ¬∀ h reveal p payload now save comesUp,
    AllOrNothing p (settingsSet h reveal p payload now save comesUp) := by
  intro hall
  have hnothing := (hall sampleHost id ⟨⟨.empty, .empty, sampleDisk, none, none⟩, 0, some ⟨.empty, 0⟩, fun _ => none⟩
    (some (Keyed.empty.insert "greeting" (.string "Hello"))) "2026-07-12T00:00:00Z"
      (.failed "No space left on device") true).nothing
    "cannot persist settings: No space left on device" (by decide +kernel)
  have hversion := hnothing.2.1
  revert hversion
  decide +kernel

end Aokie.Plugin.SettingsSet
