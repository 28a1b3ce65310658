import Aokie.Lib.Rust
import Aokie.Lib.Run

/-! The identity of one native peer connection, the permit that opens the caller-bound route for it, and the gate
inside the peer that holds such a permit. -/

namespace Aokie.Media

open Aokie.Lib

def maxSafeInteger : ℕ := 9007199254740991

inductive MediaMode
  | monitor | preparedConsult | preparedTalk | consult | talk
  deriving DecidableEq, Repr

namespace MediaMode

def mayTransmitToCaller : MediaMode → Bool
  | talk => true
  | _ => false

def isPrepared : MediaMode → Bool
  | preparedConsult | preparedTalk => true
  | _ => false

def active : MediaMode → MediaMode
  | preparedConsult => consult
  | preparedTalk => talk
  | mode => mode

end MediaMode

structure SessionBinding where
  rtcSessionId : String
  callId : String
  callEpoch : ℕ
  ownerEpoch : ℕ
  deviceId : String
  mode : MediaMode
  leaseId : Option String
  fence : ℕ
  deriving DecidableEq, Repr

def safeId (value : String) : Bool :=
  !value.isEmpty && decide (value.utf8ByteSize ≤ 200) &&
    value.toList.all fun c => c.isAlphanum || c == '-' || c == '_' || c == '.' || c == ':'

def invalidBinding (what : String) : String := "invalid media binding: " ++ what

def unsafeTransition (what : String) : String := "unsafe media transition: " ++ what

namespace SessionBinding

def fenceFits (b : SessionBinding) : Bool :=
  match b.mode with
  | .monitor | .preparedConsult | .consult => b.fence == 0
  | .preparedTalk | .talk => decide (1 ≤ b.fence ∧ b.fence ≤ maxSafeInteger)

def fenceError : MediaMode → String
  | .monitor => "monitor requires a lease and fence zero"
  | .preparedConsult => "prepared consult requires a lease and fence zero"
  | .preparedTalk => "prepared talk requires a lease and positive fence"
  | .consult => "consult requires a lease and fence zero"
  | .talk => "talk requires a lease and positive fence"

def validate (b : SessionBinding) : Except String Unit := do
  ensure ([b.rtcSessionId, b.callId, b.deviceId].all safeId) (invalidBinding "identity")
  ensure (b.callEpoch ≤ maxSafeInteger ∧ b.ownerEpoch ≤ maxSafeInteger) (invalidBinding "epoch")
  ensure (b.leaseId.any safeId ∧ b.fenceFits) (invalidBinding (fenceError b.mode))

/-- The fields that stay the same when a prepared lease is rotated into its active phase. -/
structure SameClaim (a b : SessionBinding) : Prop where
  callId : a.callId = b.callId
  callEpoch : a.callEpoch = b.callEpoch
  deviceId : a.deviceId = b.deviceId
  rtcSessionId : a.rtcSessionId = b.rtcSessionId
  leaseId : a.leaseId = b.leaseId
  fence : a.fence = b.fence

instance (a b : SessionBinding) : Decidable (SameClaim a b) :=
  decidable_of_iff (a.callId = b.callId ∧ a.callEpoch = b.callEpoch ∧ a.deviceId = b.deviceId ∧
      a.rtcSessionId = b.rtcSessionId ∧ a.leaseId = b.leaseId ∧ a.fence = b.fence)
    ⟨fun ⟨h₁, h₂, h₃, h₄, h₅, h₆⟩ => ⟨h₁, h₂, h₃, h₄, h₅, h₆⟩,
      fun h => ⟨h.callId, h.callEpoch, h.deviceId, h.rtcSessionId, h.leaseId, h.fence⟩⟩

variable {a b : SessionBinding}

lemma validate_bounds (h : b.validate = .ok ()) :
    (b.callEpoch ≤ maxSafeInteger ∧ b.ownerEpoch ≤ maxSafeInteger) ∧ b.fenceFits = true := by
  simp only [validate, bind_eq_ok_iff, ensure_eq_ok_iff] at h
  obtain ⟨-, -, -, hepochs, -, hfits⟩ := h
  exact ⟨hepochs, hfits⟩

lemma SameClaim.talk_of_prepared (h : SameClaim a b) (ha : a.validate = .ok ()) (hb : b.validate = .ok ())
    (hprepared : a.mode.isPrepared = true) (htalk : b.mode = .talk) : a.mode = .preparedTalk := by
  have hfits := (validate_bounds ha).2
  have hfits' := (validate_bounds hb).2
  cases hmode : a.mode <;> simp_all [fenceFits, MediaMode.isPrepared, h.fence]

end SessionBinding

structure RoutePermit where
  binding : SessionBinding
  expiresAt : Instant
  deriving DecidableEq, Repr

def RoutePermit.new (binding : SessionBinding) (lifetime : Duration) (now : Instant) : Except String RoutePermit := do
  binding.validate
  ensure (binding.mode.mayTransmitToCaller = true)
    (unsafeTransition "only a talk lease can open the caller-bound route")
  ensure (lifetime ≠ 0) (unsafeTransition "route permit is already expired")
  return ⟨binding, now + lifetime⟩

def RoutePermit.isCurrentFor (permit : RoutePermit) (binding : SessionBinding) (now : Instant) : Bool :=
  decide (now < permit.expiresAt) && decide (permit.binding = binding)

lemma RoutePermit.new_eq_ok_iff {binding : SessionBinding} {lifetime : Duration} {now : Instant}
    {permit : RoutePermit} :
    RoutePermit.new binding lifetime now = .ok permit ↔
      binding.validate = .ok () ∧ binding.mode = .talk ∧ lifetime ≠ 0 ∧ permit = ⟨binding, now + lifetime⟩ := by
  have hmode : binding.mode.mayTransmitToCaller = true ↔ binding.mode = .talk := by
    cases binding.mode <;> simp [MediaMode.mayTransmitToCaller]
  simp only [RoutePermit.new, bind_eq_ok_iff, ensure_eq_ok_iff, pure_eq_ok_iff, hmode]
  constructor
  · rintro ⟨u, hvalid, v, htalk, w, hlife, rfl⟩
    exact ⟨hvalid, htalk, hlife, rfl⟩
  · rintro ⟨hvalid, htalk, hlife, rfl⟩
    exact ⟨(), hvalid, (), htalk, (), hlife, rfl⟩

abbrev RouteGate := Option RoutePermit

namespace RouteGate

variable (gate : RouteGate)

def authorize (permit : RoutePermit) : RouteGate × Except String Unit :=
  let checks : Except String Unit := do
    permit.binding.validate
    match gate with
    | none => pure ()
    | some existing =>
        let old := existing.binding
        let new := permit.binding
        ensure (old.callId = new.callId ∧ old.callEpoch = new.callEpoch)
          (unsafeTransition "a live route must be revoked before changing calls")
        ensure (old.ownerEpoch < new.ownerEpoch ∧ old.fence < new.fence)
          (unsafeTransition "replacement route must advance owner epoch and fence")
  match checks with
  | .ok () => (some permit, .ok ())
  | .error e => (gate, .error e)

def revoke (_ : RouteGate) : RouteGate := none

def renew (binding : SessionBinding) (lifetime : Duration) (now : Instant) : RouteGate × Except String Unit :=
  if lifetime = 0 then (gate, .error (unsafeTransition "route renewal is already expired"))
  else
    match gate with
    | none => (gate, .error (unsafeTransition "no live route to renew"))
    | some existing =>
        if existing.isCurrentFor binding now then
          (some { existing with expiresAt := max existing.expiresAt (now + lifetime) }, .ok ())
        else (none, .error (unsafeTransition "route renewal does not match a current permit"))

def allows (binding : SessionBinding) (now : Instant) : RouteGate × Bool :=
  match gate with
  | none => (none, false)
  | some permit =>
      if permit.isCurrentFor binding now then (some permit, true)
      else if permit.expiresAt ≤ now then (none, false)
      else (some permit, false)

/-- What is asked of a gate between two authorizations. -/
inductive Ask
  | revoke
  | renew (binding : SessionBinding) (lifetime : Duration)
  | allows (binding : SessionBinding)

def ask : Machine RouteGate (Ask × Instant) Bool
  | gate, (.revoke, _) => (gate.revoke, false)
  | gate, (.renew binding lifetime, now) =>
      ((gate.renew binding lifetime now).1, (gate.renew binding lifetime now).2.isOk)
  | gate, (.allows binding, now) => gate.allows binding now

def LapsedAt (t : Instant) : Prop := ∀ permit ∈ gate, permit.expiresAt ≤ t

variable {gate}

lemma ask_of_lapsed {t : Instant} (h : gate.LapsedAt t) {i : Ask × Instant} (hi : t ≤ i.2) :
    (ask gate i).1.LapsedAt t ∧ (ask gate i).2 = false := by
  obtain ⟨asked, now⟩ := i
  cases gate with
  | none =>
      cases asked with
      | renew binding lifetime =>
          simp only [ask, renew]
          split <;> exact ⟨h, rfl⟩
      | revoke | allows => exact ⟨h, rfl⟩
  | some permit =>
      have hexpired : permit.expiresAt ≤ now := (h permit rfl).trans hi
      have hnot (binding : SessionBinding) : permit.isCurrentFor binding now = false := by
        simp [RoutePermit.isCurrentFor, hexpired]
      cases asked with
      | revoke => simp [ask, revoke, LapsedAt]
      | renew binding lifetime =>
          simp only [ask, renew, hnot]
          split
          · exact ⟨h, rfl⟩
          · exact ⟨by simp [LapsedAt], rfl⟩
      | allows binding => simp [ask, allows, hnot, hexpired, LapsedAt]

/-- Once its permit has lapsed a gate reports nothing current until it is authorized anew. -/
theorem outputs_of_lapsed {t : Instant} (h : gate.LapsedAt t) {asked : List (Ask × Instant)}
    (hlater : ∀ i ∈ asked, t ≤ i.2) : ∀ current ∈ ask.outputs gate asked, current = false := by
  induction asked generalizing gate with
  | nil => simp
  | cons i asked ih =>
      obtain ⟨hi, hlater⟩ := List.forall_mem_cons.mp hlater
      obtain ⟨hnext, hout⟩ := ask_of_lapsed h hi
      rw [Machine.outputs_cons]
      exact List.forall_mem_cons.mpr ⟨hout, ih hnext hlater⟩

end RouteGate

end Aokie.Media
