import Aokie.Lib.Rfc3339
import Aokie.Plugin.ConsentGate

/-! The consent a remote listener stands on: the gate the Companion is given, against the rule for the same scope. -/

namespace Aokie.Plugin.RemoteConsent

open Aokie.Lib Consent ConsentGate

def remotePolicyId : String := "aokie_remote_access"

inductive RemoteScope
  | captions | assistance | monitoring | consult | takeover
  deriving DecidableEq, Repr

def RemoteScope.asStr : RemoteScope → String
  | captions => "remote_captions"
  | assistance => "remote_assistance"
  | monitoring => "remote_monitoring"
  | consult => "remote_consult"
  | takeover => "remote_takeover"

def scopeGranted (scopes : ConsentScopes) : RemoteScope → Bool
  | .captions => scopes.remoteCaptions
  | .assistance => scopes.remoteAssistance
  | .monitoring => scopes.remoteMonitoring
  | .consult => scopes.remoteConsult
  | .takeover => scopes.remoteTakeover

def refusal (chrono : Chrono) (grant : Option ConsentGrant) (requiredVersion : ℕ) (scope : RemoteScope) (now : String) :
    Option String :=
  match grant with
  | none => some "no consent has been recorded for this device"
  | some g =>
    if g.version ≠ requiredVersion then
      some ("consent version " ++ toString g.version ++ " was accepted but " ++ toString requiredVersion ++
        " is now required — re-consent needed")
    else if expired chrono g now then some ("consent expired at " ++ g.expiresAt.getD "" ++ " — re-consent needed")
    else if !scopeGranted g.scopes scope then some ("consent does not cover " ++ scope.asStr)
    else none

def evaluate (chrono : Chrono) (grant : Option ConsentGrant) (requiredVersion : ℕ) (mode : ConsentMode)
    (scope : RemoteScope)
    (now : String) : ConsentDecision :=
  if mode = .off then .allow
  else
    match refusal chrono grant requiredVersion scope now with
    | none => .allow
    | some reason => if mode = .enforce then .deny reason else .warn reason

structure RemoteConsentGate where
  policyId : String
  policyVersion : ℕ
  enabled : Bool
  acknowledged : Bool
  acknowledgedAt : Option String
  expiresAt : Option String
  captionsEnabled : Bool
  assistanceEnabled : Bool
  monitorEnabled : Bool
  consultEnabled : Bool
  takeoverEnabled : Bool
  deriving DecidableEq

def current (grant : Option ConsentGrant) (now : String) : Bool :=
  grant.any fun g => g.version = currentConsentVersion && g.expiresAt.all fun expiry => now < expiry

def remoteConsentGate (grant : Option ConsentGrant) (now : String) : RemoteConsentGate :=
  let current := current grant now
  let captions := current && grant.any (·.scopes.remoteCaptions)
  let assistance := current && grant.any (·.scopes.remoteAssistance)
  let monitor := current && grant.any (·.scopes.remoteMonitoring)
  let consult := current && grant.any (·.scopes.remoteConsult)
  let takeover := current && grant.any (·.scopes.remoteTakeover)
  { policyId := remotePolicyId
    policyVersion := currentConsentVersion
    enabled := captions || assistance || monitor || consult || takeover
    acknowledged := current
    acknowledgedAt := (grant.filter fun _ => current).map (·.acceptedAt)
    expiresAt := grant.bind (·.expiresAt)
    captionsEnabled := captions
    assistanceEnabled := assistance
    monitorEnabled := monitor
    consultEnabled := consult
    takeoverEnabled := takeover }

def RemoteConsentGate.modeEnabled (gate : RemoteConsentGate) : RemoteScope → Bool
  | .captions => gate.captionsEnabled
  | .assistance => gate.assistanceEnabled
  | .monitoring => gate.monitorEnabled
  | .consult => gate.consultEnabled
  | .takeover => gate.takeoverEnabled

/-- The first millisecond of the years of four digits by which an expiry has passed. -/
def lapse (chrono : Chrono) (expiry : String) : ℤ :=
  match chrono.parseInstant expiry with
  | none => yearsStart
  | some t => max yearsStart (min ((t + 999999) / 1000000) yearsEnd)

/-- The expiry's text stands where the clock's texts stand at its lapse: after the one before it, and not after its own.
-/
def SpeltAtItsLapse (chrono : Chrono) (expiry : String) : Prop :=
  (InYears (lapse chrono expiry - 1) → rfc3339 (lapse chrono expiry - 1) < expiry) ∧
    (InYears (lapse chrono expiry) → expiry ≤ rfc3339 (lapse chrono expiry))

section Agreement

variable {chrono : Chrono} {grant : Option ConsentGrant} {g : ConsentGrant} {scope : RemoteScope} {now expiry : String}

theorem modeEnabled_eq : (remoteConsentGate grant now).modeEnabled scope =
    (current grant now && grant.any fun g => scopeGranted g.scopes scope) := by
  cases scope <;> rfl

theorem evaluate_enforce_allow :
    evaluate chrono grant currentConsentVersion .enforce scope now = .allow ↔
      refusal chrono grant currentConsentVersion scope now = none := by
  rw [evaluate, if_neg (by decide)]
  cases refusal chrono grant currentConsentVersion scope now <;> simp

theorem refusal_none : refusal chrono (some g) currentConsentVersion scope now = none ↔
    g.version = currentConsentVersion ∧ expired chrono g now = false ∧ scopeGranted g.scopes scope = true := by
  rw [refusal]
  split_ifs with hversion hexpired hscope
  · exact iff_of_false (by simp) fun h => hversion h.1
  · exact iff_of_false (by simp) fun h => by rw [hexpired] at h; cases h.2.1
  · exact iff_of_false (by simp) fun h => by rw [h.2.2] at hscope; cases hscope
  · exact iff_of_true rfl ⟨not_not.1 hversion, by simpa using hexpired, by simpa using hscope⟩

lemma agrees_at_iff :
    ((remoteConsentGate grant now).modeEnabled scope = true ↔
      evaluate chrono grant currentConsentVersion .enforce scope now = .allow) ↔
    ∀ g, grant = some g → g.version = currentConsentVersion → scopeGranted g.scopes scope = true →
      ∀ expiry, g.expiresAt = some expiry → (now < expiry ↔ hasPassed chrono expiry now = false) := by
  rw [modeEnabled_eq, evaluate_enforce_allow]
  cases grant with
  | none => exact iff_of_true (by simp [current, refusal]) fun g h => by cases h
  | some g =>
    rw [refusal_none]
    simp only [current, expired, Option.any_some, Bool.and_eq_true, decide_eq_true_eq, Option.some.injEq, forall_eq']
    cases hexpiry : g.expiresAt with
    | none => exact iff_of_true (by simp) fun _ _ expiry h => by cases h
    | some expiry =>
      simp only [Option.all_some, Option.any_some, decide_eq_true_eq, Option.some.injEq, forall_eq']
      constructor
      · intro h hversion hscope
        constructor
        · exact fun hlater => (h.1 ⟨⟨hversion, hlater⟩, hscope⟩).2.1
        · exact fun hstands => (h.2 ⟨hversion, hstands, hscope⟩).1.2
      · intro h
        constructor
        · rintro ⟨⟨hversion, hlater⟩, hscope⟩
          exact ⟨hversion, (h hversion hscope).1 hlater, hscope⟩
        · rintro ⟨hversion, hstands, hscope⟩
          exact ⟨⟨hversion, (h hversion hscope).2 hstands⟩, hscope⟩

section Spelling

variable (hparse : ∀ t, InYears t → chrono.parseInstant (rfc3339 t) = some (t * 1000000))
include hparse

lemma hasPassed_iff {n : ℤ} (hn : InYears n) : hasPassed chrono expiry (rfc3339 n) = true ↔
    lapse chrono expiry ≤ n := by
  rw [hasPassed, hparse n hn, lapse]
  obtain ⟨hstart, hend⟩ := hn
  cases chrono.parseInstant expiry with
  | none => simpa using hstart
  | some t =>
    simp only [decide_eq_true_eq]
    omega

lemma spelt_iff : (∀ n, InYears n → (rfc3339 n < expiry ↔ hasPassed chrono expiry (rfc3339 n) = false)) ↔
    SpeltAtItsLapse chrono expiry := by
  constructor
  · intro h
    constructor
    · intro hbefore
      rw [h _ hbefore, ← Bool.not_eq_true, hasPassed_iff hparse hbefore]
      omega
    · intro hlapse
      have hpassed := (hasPassed_iff hparse hlapse).2 le_rfl
      rw [← not_lt, h _ hlapse, hpassed]
      exact Bool.noConfusion
  · rintro ⟨hbefore, hlapse⟩ n hn
    rw [← Bool.not_eq_true, hasPassed_iff hparse hn, not_le]
    have hlow : yearsStart ≤ lapse chrono expiry ∧ lapse chrono expiry ≤ yearsEnd := by
      rw [lapse]
      cases chrono.parseInstant expiry with
      | none => exact ⟨le_rfl, by decide⟩
      | some t =>
        simp only [yearsStart, yearsEnd]
        omega
    obtain ⟨hstart, hend⟩ := id hn
    constructor
    · intro hlt
      by_contra hge
      have hyears : InYears (lapse chrono expiry) := ⟨hlow.1, by omega⟩
      have hle := (rfc3339_le hyears hn).2 (not_lt.1 hge)
      exact absurd (hlt.trans_le (hlapse hyears)) (not_lt.2 hle)
    · intro hlt
      have hyears : InYears (lapse chrono expiry - 1) := ⟨by omega, by omega⟩
      exact ((rfc3339_le hn hyears).2 (by omega)).trans_lt (hbefore hyears)

lemma speltAtItsLapse_rfc3339 {t : ℤ} (ht : InYears t) : SpeltAtItsLapse chrono (rfc3339 t) := by
  apply (spelt_iff hparse).1
  intro n hn
  rw [rfc3339_lt hn ht, hasPassed, hparse t ht, hparse n hn]
  simp only [decide_eq_false_iff_not, not_le]
  omega

end Spelling

end Agreement

/-- The gate lets a remote mode run as the rule does, at every moment, exactly where the expiry that matters is spelt
as the clock spells its moment. -/
theorem gate_agrees_iff (chrono : Chrono) (grant : Option ConsentGrant) (scope : RemoteScope)
    (hparse : ∀ t, InYears t → chrono.parseInstant (rfc3339 t) = some (t * 1000000)) :
    (∀ n, InYears n →
      ((remoteConsentGate grant (rfc3339 n)).modeEnabled scope = true ↔
        evaluate chrono grant currentConsentVersion .enforce scope (rfc3339 n) = .allow)) ↔
    ∀ g, grant = some g → g.version = currentConsentVersion → scopeGranted g.scopes scope = true →
      ∀ expiry, g.expiresAt = some expiry → SpeltAtItsLapse chrono expiry := by
  constructor
  · intro h g hg hversion hscope expiry hexpiry
    apply (spelt_iff hparse).1
    intro n hn
    exact agrees_at_iff.1 (h n hn) g hg hversion hscope expiry hexpiry
  · intro h n hn
    apply agrees_at_iff.2
    intro g hg hversion hscope expiry hexpiry
    exact (spelt_iff hparse).2 (h g hg hversion hscope expiry hexpiry) n hn

def yearGrant : ConsentGrant where
  version := currentConsentVersion
  scopes := { remoteMonitoring := true }
  acceptedAt := "2026-01-01T00:00:00.000Z"
  expiresAt := some (rfc3339 1798761600000)

theorem gate_agrees_over_the_year :
    ∃ chrono : Chrono, ∀ n, InYears n →
      ((remoteConsentGate (some yearGrant) (rfc3339 n)).modeEnabled .monitoring = true ↔
        evaluate chrono (some yearGrant) currentConsentVersion .enforce .monitoring (rfc3339 n) = .allow) := by
  classical
  let chrono : Chrono :=
    { parseInstant := fun text =>
        if h : ∃ t, InYears t ∧ rfc3339 t = text then some (h.choose * 1000000) else none
      secsText := fun _ => "" }
  have hparse : ∀ t, InYears t → chrono.parseInstant (rfc3339 t) = some (t * 1000000) := by
    intro t ht
    have hex : ∃ s, InYears s ∧ rfc3339 s = rfc3339 t := ⟨t, ht, rfl⟩
    have hsame : hex.choose = t := rfc3339_strictMonoOn.injOn hex.choose_spec.1 ht hex.choose_spec.2
    simp only [chrono, dif_pos hex, hsame]
  refine ⟨chrono, (gate_agrees_iff chrono (some yearGrant) .monitoring hparse).2 ?_⟩
  rintro _ ⟨⟩ - - _ ⟨⟩
  exact speltAtItsLapse_rfc3339 hparse (by decide)

def sydneyChrono : Chrono where
  parseInstant text :=
    if text = "2027-01-01T10:00:00+11:00" then some 1798758000000000000
    else if text = "2026-12-31T23:30:00.000Z" then some 1798759800000000000
    else none
  secsText _ := ""

/-- A grant that ran out half an hour ago, by a clock eleven hours ahead. -/
theorem listener_outlives_consent : ¬∀ chrono grant scope now,
    (remoteConsentGate grant now).modeEnabled scope = true ↔
      evaluate chrono grant currentConsentVersion .enforce scope now = .allow := by
  intro h
  have hboth := h sydneyChrono (some { yearGrant with expiresAt := some "2027-01-01T10:00:00+11:00" }) .monitoring
    "2026-12-31T23:30:00.000Z"
  have henabled := hboth.1 (by decide +kernel)
  revert henabled
  decide +kernel

end Aokie.Plugin.RemoteConsent
