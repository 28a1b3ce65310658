import Aokie.Lib.JsonValue

/-! Structs as JSON objects, as `serde` derives their readers when unknown fields are denied. -/

namespace Aokie.Lib.Json

def recordFields (names : List String) : Json → Option (List (String × Json))
  | object fields => if (∀ name ∈ fields.map Prod.fst, name ∈ names) ∧
      (fields.map Prod.fst).Nodup then some fields else none
  | _ => none

section Readers

variable {α : Type} (fields : List (String × Json)) (name : String) (read : Json → Option α)

def required : Option α := (fields.lookup name).bind read

/-- `#[serde(default)]` on an `Option`. -/
def optional : Option (Option α) :=
  match fields.lookup name with
  | none | some null => some none
  | some v => (read v).map some

/-- `#[serde(default)]`. -/
def defaulted (value : α) : Option α :=
  match fields.lookup name with
  | none => some value
  | some v => read v

def asVec : Json → Option (List α)
  | array items => items.mapM read
  | _ => none

def asEnum (all : List α) (asStr : α → String) : Json → Option α
  | string text => all.find? fun a => asStr a == text
  | _ => none

end Readers

def asU32 (v : Json) : Option ℕ := v.asU64.filter fun n => n ≤ 4294967295

lemma digitsValue_toDigits (n : ℕ) : digitsValue (Nat.toDigits 10 n) = n := by
  have hread : Nat.ofDigitChars 10 (Nat.toDigits 10 n) 0 = n := Nat.ofDigitChars_ten_toDigits
  simpa [digitsValue, Nat.ofDigitChars, Nat.mul_comm] using hread

lemma asU64_ofNat {n : ℕ} (h : n ≤ u64Max) : asU64 (.number (.ofNat n)) = some n := by
  have hdigits : (Nat.toDigits 10 n).all Char.isDigit = true := by
    apply List.all_eq_true.mpr
    intro c hc
    exact Nat.isDigit_of_mem_toDigits (by decide) le_rfl hc
  have hne : (Nat.toDigits 10 n).isEmpty = false := by simp
  simp [asU64, JsonNumber.ofNat, parseDigits, hdigits, digitsValue_toDigits, Nat.not_lt.mpr h]

lemma asVec_map {α : Type} {read : Json → Option α} {write : α → Json} (h : ∀ a, read (write a) = some a)
    (items : List α) :
    asVec read (.array (items.map write)) = some items := by
  simp only [asVec]
  induction items with
  | nil => rfl
  | cons a items ih => simp [List.mapM_cons, h, ih]

lemma bind_eq_of {α β : Type} {x : Option α} {a : α} {f : α → Option β} {r : Option β} (hx : x = some a) (h : f a = r) :
    x >>= f = r := by
  rw [hx]
  exact h

section Reading

variable {α : Type} {fields : List (String × Json)} {names : List String} {name : String} {read : Json → Option α}

lemma recordFields_object (h : (fields.map Prod.fst).Sublist names) (hnames : names.Nodup) :
    recordFields names (.object fields) = some fields := by
  rw [recordFields, if_pos]
  exact ⟨fun name hname => h.subset hname, hnames.sublist h⟩

lemma recordFields_eq_none (h : name ∈ fields.map Prod.fst) (hunknown : name ∉ names) :
    recordFields names (.object fields) = none := by
  rw [recordFields, if_neg]
  exact fun hknown => hunknown (hknown.1 name h)

lemma required_of_lookup {v : Json} {a : α} (h : fields.lookup name = some v) (hread : read v = some a) :
    required fields name read = some a := by
  rw [required, h]
  exact hread

lemma defaulted_of_lookup {v : Json} {a value : α} (h : fields.lookup name = some v) (hread : read v = some a) :
    defaulted fields name read value = some a := by
  rw [defaulted, h]
  exact hread

lemma optional_of_lookup {write : α → Json} {o : Option α} (h : fields.lookup name = o.map write)
    (hread : ∀ a ∈ o, read (write a) = some a ∧ write a ≠ .null) : optional fields name read = some o := by
  cases o with
  | none =>
      rw [optional, h]
      rfl
  | some a =>
      obtain ⟨hsome, hnull⟩ := hread a rfl
      rw [optional, h, Option.map_some]
      split
      next heq => cases heq
      next heq => exact absurd (Option.some.inj heq) hnull
      next v _ heq =>
        rw [← Option.some.inj heq, hsome]
        rfl

end Reading

end Aokie.Lib.Json
