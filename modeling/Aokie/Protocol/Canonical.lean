import Aokie.Lib.JsonCanonical
import Aokie.Protocol.Errors

/-! The bytes that endpoint signatures cover: a domain label, a zero byte and the canonical JSON of the payload. -/

namespace Aokie.Protocol

open Aokie.Lib

/-- A `serde_json::Value`: an object holds a key once. -/
structure Value where
  json : Json
  distinct : json.Distinct

def isDecimal (digits : List Char) : Bool := Nat.toDigits 10 (digitsValue digits) = digits

/-- `number.is_i64() || number.is_u64()`. -/
def isInteger (n : JsonNumber) : Bool :=
  match n.text with
  | '-' :: digits => isDecimal digits && 0 < digitsValue digits && digitsValue digits ≤ 9223372036854775808
  | digits => isDecimal digits && digitsValue digits ≤ u64Max

def commaSeparated : Bool → List (List Char) → List Char
  | _, [] => []
  | first, text :: rest => (if first then [] else [',']) ++ (text ++ commaSeparated false rest)

mutual

def write : Json → Except V2ProtocolError (List Char)
  | .null => .ok "null".toList
  | .bool b => .ok (if b then "true".toList else "false".toList)
  | .number n => if isInteger n then .ok n.text else .error (.invalid "signedPayload")
  | .string text => .ok (Json.printString text.toList)
  | .array values => do
      let texts ← writeItems values
      return '[' :: (commaSeparated true texts ++ [']'])
  | .object values => do
      let entries ← writeFields values
      return '{' :: (commaSeparated true ((Json.sortByKey entries).map fun e =>
        Json.printString e.1.toList ++ ':' :: e.2) ++
        ['}'])

def writeItems : List Json → Except V2ProtocolError (List (List Char))
  | [] => .ok []
  | value :: values => do
      let text ← write value
      let texts ← writeItems values
      return text :: texts

def writeFields : List (String × Json) → Except V2ProtocolError (List (String × List Char))
  | [] => .ok []
  | (key, value) :: values => do
      let text ← write value
      let entries ← writeFields values
      return (key, text) :: entries

end

def canonicalJsonValue (value : Value) : Except V2ProtocolError Bytes :=
  (write value.json).map fun text => intoBytes (String.ofList text)

def domainSeparatedCanonical (domain : String) (payload : Value) : Except V2ProtocolError Bytes := do
  let canonical ← canonicalJsonValue payload
  return intoBytes domain ++ 0 :: canonical

mutual

def Integral : Json → Prop
  | .number n => isInteger n = true
  | .array values => IntegralItems values
  | .object values => IntegralFields values
  | _ => True

def IntegralItems : List Json → Prop
  | [] => True
  | value :: values => Integral value ∧ IntegralItems values

def IntegralFields : List (String × Json) → Prop
  | [] => True
  | (_, value) :: values => Integral value ∧ IntegralFields values

end

/-! ### The canonical text is the compact text of the sorted value -/

lemma printItems_eq (first : Bool) (values : List Json) :
    Json.printItems first values = commaSeparated first (values.map Json.print) ++ [']'] := by
  induction values generalizing first with
  | nil => rfl
  | cons value values ih => simp [Json.printItems, commaSeparated, ih]

lemma printFields_eq (first : Bool) (fields : List (String × Json)) :
    Json.printFields first fields =
      commaSeparated first (fields.map fun p => Json.printString p.1.toList ++ ':' :: p.2.print) ++ ['}'] := by
  induction fields generalizing first with
  | nil => rfl
  | cons p fields ih => simp [Json.printFields, commaSeparated, ih]

mutual

theorem write_eq : ∀ v : Json, Integral v → write v = .ok v.sorted.print
  | .null, _ => rfl
  | .bool b, _ => by cases b <;> rfl
  | .number n, h => by
      rw [Integral] at h
      rw [write, if_pos h]
      rfl
  | .string text, _ => by
      rw [write]
      rfl
  | .array values, h => by
      rw [Integral] at h
      rw [write, writeItems_eq values h, Json.sorted, Json.print, printItems_eq, Json.sortedItems_eq, List.map_map]
      rfl
  | .object values, h => by
      rw [Integral] at h
      have hentries := Json.map_sortByKey (fun p : String × Json => (p.1, p.2.sorted.print)) (fun _ => rfl) values
      rw [write, writeFields_eq values h, Json.sorted, Json.print, printFields_eq, ← Json.sortedFields_sortByKey,
        Json.sortedFields_eq, List.map_map]
      simp only [bind, Except.bind, pure, Except.pure, ← hentries, List.map_map]
      rfl

theorem writeItems_eq : ∀ values : List Json, IntegralItems values →
    writeItems values = .ok (values.map fun v => v.sorted.print)
  | [], _ => rfl
  | value :: values, h => by
      rw [IntegralItems] at h
      rw [writeItems, write_eq value h.1, writeItems_eq values h.2]
      rfl

theorem writeFields_eq : ∀ fields : List (String × Json), IntegralFields fields →
    writeFields fields = .ok (fields.map fun p => (p.1, p.2.sorted.print))
  | [], _ => rfl
  | (key, value) :: fields, h => by
      rw [IntegralFields] at h
      rw [writeFields, write_eq value h.1, writeFields_eq fields h.2]
      rfl

end

/-! ### No zero byte in the text -/

lemma nul_not_mem_escape (c : Char) : '\x00' ∉ Json.escape c := by
  simp only [Json.escape]
  split_ifs with hquote hslash hplain
  · decide
  · decide
  · rw [List.mem_singleton]
    rintro rfl
    exact absurd hplain (by decide)
  · decide
  · decide
  · decide
  · decide
  · decide
  · have hc : c.toNat < 32 := by omega
    generalize c.toNat = n at hc
    interval_cases n <;> decide

lemma nul_not_mem_printString (text : List Char) : '\x00' ∉ Json.printString text := by
  intro hin
  simp only [Json.printString, List.cons_append, List.mem_cons, List.mem_append, List.mem_flatMap, List.not_mem_nil,
    or_false] at hin
  rcases hin with hquote | ⟨c, -, hc⟩ | hquote
  · exact absurd hquote (by decide)
  · exact nul_not_mem_escape c hc
  · exact absurd hquote (by decide)

mutual

theorem nul_not_mem_print : ∀ v : Json, '\x00' ∉ v.print
  | .null => by decide
  | .bool true => by decide
  | .bool false => by decide
  | .number n => fun hin => absurd (n.numeric _ hin) (by decide)
  | .string text => nul_not_mem_printString text.toList
  | .array values => by
      rw [Json.print, List.mem_cons, not_or]
      exact ⟨by decide, nul_not_mem_printItems true values⟩
  | .object fields => by
      rw [Json.print, List.mem_cons, not_or]
      exact ⟨by decide, nul_not_mem_printFields true fields⟩

theorem nul_not_mem_printItems : ∀ (first : Bool) (values : List Json), '\x00' ∉ Json.printItems first values
  | _, [] => by
      rw [Json.printItems]
      decide
  | first, value :: values => by
      have hvalue := nul_not_mem_print value
      have hvalues := nul_not_mem_printItems false values
      rw [Json.printItems, List.mem_append, List.mem_append, not_or, not_or]
      exact ⟨by cases first <;> decide, hvalue, hvalues⟩

theorem nul_not_mem_printFields : ∀ (first : Bool) (fields : List (String × Json)),
    '\x00' ∉ Json.printFields first fields
  | _, [] => by
      rw [Json.printFields]
      decide
  | first, (key, value) :: fields => by
      have hkey := nul_not_mem_printString key.toList
      have hvalue := nul_not_mem_print value
      have hfields := nul_not_mem_printFields false fields
      rw [Json.printFields, List.mem_append, List.mem_append, List.mem_cons, List.mem_append]
      rintro (hin | hin | hin | hin | hin)
      · cases first <;> exact absurd hin (by decide)
      · exact hkey hin
      · exact absurd hin (by decide)
      · exact hvalue hin
      · exact hfields hin

end

lemma split_at_nul {s t r u : List Char} (hr : '\x00' ∉ r) (hu : '\x00' ∉ u) (h : s ++ '\x00' :: r = t ++ '\x00' :: u) :
    s = t ∧ r = u := by
  rcases List.append_eq_append_iff.mp h with ⟨m, rfl, hm⟩ | ⟨m, rfl, hm⟩
  · cases m with
    | nil =>
        rw [List.append_nil]
        exact ⟨rfl, (List.cons.inj hm).2⟩
    | cons c m =>
        obtain ⟨-, rfl⟩ := List.cons.inj hm
        exact absurd (by simp) hr
  · cases m with
    | nil =>
        rw [List.append_nil]
        exact ⟨rfl, (List.cons.inj hm).2.symm⟩
    | cons c m =>
        obtain ⟨-, rfl⟩ := List.cons.inj hm
        exact absurd (by simp) hu

lemma intoBytes_injective : Function.Injective intoBytes := by
  intro s t h
  have hread := fromUtf8_intoBytes s
  rw [h, fromUtf8_intoBytes] at hread
  exact (Option.some.inj hread).symm

lemma intoBytes_append (s t : String) : intoBytes (s ++ t) = intoBytes s ++ intoBytes t := by
  simp [intoBytes]

lemma message_eq (domain : String) (text : List Char) :
    intoBytes domain ++ 0 :: intoBytes (String.ofList text) =
      intoBytes (String.ofList (domain.toList ++ '\x00' :: text)) := by
  have hsplit : String.ofList (domain.toList ++ '\x00' :: text) =
      domain ++ (String.ofList ['\x00'] ++ String.ofList text) := by
    apply String.toList_injective
    simp
  have hnul : intoBytes (String.ofList ['\x00']) = [0] := by decide
  rw [hsplit, intoBytes_append, intoBytes_append, hnul]
  rfl

lemma integralFields_iff {fields : List (String × Json)} : IntegralFields fields ↔ ∀ p ∈ fields, Integral p.2 := by
  induction fields with
  | nil => simp [IntegralFields]
  | cons p fields ih => simp [IntegralFields, ih]

mutual

theorem integral_sorted : ∀ v : Json, Integral v.sorted ↔ Integral v
  | .array values => by
      rw [Json.sorted, Integral, Integral]
      exact integral_sortedItems values
  | .object fields => by
      have hfields := integral_sortedFields fields
      rw [Json.sorted, Integral, Integral, ← hfields, integralFields_iff, integralFields_iff]
      have hperm := Json.perm_sortByKey (Json.sortedFields fields)
      exact forall_congr' fun p => by rw [hperm.mem_iff]
  | .null | .bool _ | .number _ | .string _ => Iff.rfl

theorem integral_sortedItems : ∀ values : List Json, IntegralItems (Json.sortedItems values) ↔ IntegralItems values
  | [] => Iff.rfl
  | value :: values => by
      rw [Json.sortedItems, IntegralItems, IntegralItems, integral_sorted value, integral_sortedItems values]

theorem integral_sortedFields : ∀ fields : List (String × Json),
    IntegralFields (Json.sortedFields fields) ↔ IntegralFields fields
  | [] => Iff.rfl
  | (key, value) :: fields => by
      rw [Json.sortedFields, IntegralFields, IntegralFields, integral_sorted value, integral_sortedFields fields]

end

lemma canonicalJsonValue_eq {v : Value} (hv : Integral v.json) :
    canonicalJsonValue v = .ok (intoBytes (String.ofList v.json.sorted.print)) := by
  rw [canonicalJsonValue, write_eq _ hv]
  rfl

lemma domainSeparatedCanonical_eq (domain : String) {v : Value} (hv : Integral v.json) :
    domainSeparatedCanonical domain v =
      .ok (intoBytes (String.ofList (domain.toList ++ '\x00' :: v.json.sorted.print))) := by
  rw [domainSeparatedCanonical, canonicalJsonValue_eq hv, ← message_eq]
  rfl

lemma message_eq_iff {domain domain' : String} {v w : Value} :
    intoBytes (String.ofList (domain.toList ++ '\x00' :: v.json.sorted.print)) =
        intoBytes (String.ofList (domain'.toList ++ '\x00' :: w.json.sorted.print)) ↔
      domain = domain' ∧ v.json.Same w.json := by
  rw [Json.same_iff _ _ v.distinct w.distinct]
  constructor
  · intro h
    have htext := String.ofList_injective (intoBytes_injective h)
    obtain ⟨hdomain, hprint⟩ := split_at_nul (nul_not_mem_print _) (nul_not_mem_print _) htext
    exact ⟨String.toList_injective hdomain, Json.print_injective hprint⟩
  · rintro ⟨rfl, hsorted⟩
    rw [hsorted]

/-- A message tells its label and its payload; and whatever value a parser that reads compact texts right makes of the
canonical text has that text again. -/
theorem signed_bytes_are_unambiguous (fromSlice : Bytes → Option Value) (v : Value) (hv : Integral v.json)
    (hread : ∀ u : Value, u.json.Same v.json →
      ∃ w, fromSlice (intoBytes (String.ofList u.json.print)) = some w ∧ w.json.Same u.json) :
    (∀ (domain domain' : String) (w : Value), Integral w.json →
      ∃ message message', domainSeparatedCanonical domain v = .ok message ∧
        domainSeparatedCanonical domain' w = .ok message' ∧
        (message = message' ↔ domain = domain' ∧ v.json.Same w.json)) ∧
    ∃ bytes w, canonicalJsonValue v = .ok bytes ∧ fromSlice bytes = some w ∧ canonicalJsonValue w = .ok bytes := by
  constructor
  · intro domain domain' w hw
    exact ⟨_, _, domainSeparatedCanonical_eq domain hv, domainSeparatedCanonical_eq domain' hw, message_eq_iff⟩
  · have hdistinct := Json.distinct_sorted _ v.distinct
    obtain ⟨w, hw, hsame⟩ := hread ⟨v.json.sorted, hdistinct⟩
      ((Json.same_iff _ _ hdistinct v.distinct).mpr (Json.sorted_sorted _))
    have hsorted : w.json.sorted = v.json.sorted :=
      ((Json.same_iff _ _ w.distinct hdistinct).mp hsame).trans (Json.sorted_sorted _)
    have hintegral : Integral w.json := by
      rw [← integral_sorted, hsorted, integral_sorted]
      exact hv
    refine ⟨_, w, canonicalJsonValue_eq hv, hw, ?_⟩
    rw [canonicalJsonValue_eq hintegral, hsorted]

/-- The payload `{"b":1,"a":[true]}`. -/
def samplePayload : Value where
  json := .object [("b", .number (.ofNat 1)), ("a", .array [.bool true])]
  distinct := by simp [Json.Distinct, Json.DistinctFields, Json.DistinctItems]

theorem sample_signed_bytes :
    (∀ (domain domain' : String) (w : Value), Integral w.json →
      ∃ message message', domainSeparatedCanonical domain samplePayload = .ok message ∧
        domainSeparatedCanonical domain' w = .ok message' ∧
        (message = message' ↔ domain = domain' ∧ samplePayload.json.Same w.json)) ∧
    ∃ bytes w, canonicalJsonValue samplePayload = .ok bytes ∧ some samplePayload = some w ∧
      canonicalJsonValue w = .ok bytes := by
  apply signed_bytes_are_unambiguous (fun _ => some samplePayload) samplePayload
  · simp only [samplePayload, Integral, IntegralFields, IntegralItems, and_true]
    decide
  · intro u hu
    refine ⟨samplePayload, rfl, ?_⟩
    rw [Json.same_iff _ _ u.distinct samplePayload.distinct] at hu
    rw [Json.same_iff _ _ samplePayload.distinct u.distinct]
    exact hu.symm

end Aokie.Protocol
