import Aokie.Protocol.Wire

/-! The errors of the version 2 protocol and the checks that all its frames share. -/

namespace Aokie.Protocol

inductive V2ProtocolError
  | malformed
  | wrongDirection
  | invalid (field : String)
  | notSafe (message : String)
  | expired
  deriving DecidableEq, Repr

instance : ToString V2ProtocolError where
  toString
    | .malformed => "malformed frame"
    | .wrongDirection => "frame is not valid in this direction"
    | .invalid field => "invalid " ++ field
    | .notSafe message => message
    | .expired => "lease expired"

def maxSafeInteger : ℕ := 9007199254740991

def check (p : Prop) [Decidable p] (e : V2ProtocolError) : Except V2ProtocolError Unit := if p then .ok () else .error e

def exact (field value expected : String) : Except V2ProtocolError Unit := check (value = expected) (.invalid field)

def safeInteger (field : String) (value minimum : ℕ) : Except V2ProtocolError Unit :=
  check (minimum ≤ value ∧ value ≤ maxSafeInteger) (.invalid field)

def checkSafeId (field value : String) : Except V2ProtocolError Unit := check (safeId value = true) (.invalid field)

lemma check_eq_ok_iff {p : Prop} [Decidable p] {e : V2ProtocolError} {u : Unit} : check p e = .ok u ↔ p := by
  unfold check
  split_ifs with h <;> simp [h]

lemma exact_eq_ok_iff {field value expected : String} {u : Unit} :
    exact field value expected = .ok u ↔ value = expected := check_eq_ok_iff

lemma safeInteger_eq_ok_iff {field : String} {value minimum : ℕ} {u : Unit} :
    safeInteger field value minimum = .ok u ↔ minimum ≤ value ∧ value ≤ maxSafeInteger := check_eq_ok_iff

lemma checkSafeId_eq_ok_iff {field value : String} {u : Unit} :
    checkSafeId field value = .ok u ↔ safeId value = true := check_eq_ok_iff

end Aokie.Protocol
