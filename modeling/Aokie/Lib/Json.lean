import Mathlib

/-! Compact JSON text of a value, as `serde_json::to_string` writes it, and that no two values share a text. -/

namespace Aokie.Lib

def isNumeric (c : Char) : Bool := c.isDigit || c = '-' || c = '+' || c = '.' || c = 'e' || c = 'E'

structure JsonNumber where
  text : List Char
  ne_nil : text ≠ []
  numeric : ∀ c ∈ text, isNumeric c = true

inductive Json
  | null
  | bool (b : Bool)
  | number (n : JsonNumber)
  | string (text : String)
  | array (items : List Json)
  | object (fields : List (String × Json))

def JsonNumber.ofNat (n : ℕ) : JsonNumber where
  text := Nat.toDigits 10 n
  ne_nil := Nat.toDigits_ne_nil
  numeric := by
    intro c hc
    simp [isNumeric, Nat.isDigit_of_mem_toDigits (by decide) le_rfl hc]

lemma JsonNumber.ofNat_injective : Function.Injective JsonNumber.ofNat := by
  intro n m h
  have htext : Nat.toDigits 10 n = Nat.toDigits 10 m := congrArg JsonNumber.text h
  have hn := Nat.ofDigitChars_toDigits (b := 10) (n := n) (by decide) le_rfl
  rw [htext, Nat.ofDigitChars_toDigits (by decide) le_rfl] at hn
  exact hn.symm

namespace Json

def hexDigit (n : ℕ) : Char := if n < 10 then Char.ofNat (48 + n) else Char.ofNat (87 + n)

def escape (c : Char) : List Char :=
  if c = '"' then ['\\', '"']
  else if c = '\\' then ['\\', '\\']
  else if 0x20 ≤ c.toNat then [c]
  else if c.toNat = 8 then ['\\', 'b']
  else if c.toNat = 9 then ['\\', 't']
  else if c.toNat = 10 then ['\\', 'n']
  else if c.toNat = 12 then ['\\', 'f']
  else if c.toNat = 13 then ['\\', 'r']
  else ['\\', 'u', '0', '0', hexDigit (c.toNat / 16), hexDigit (c.toNat % 16)]

def hexValue (c : Char) : ℕ := if c.toNat < 58 then c.toNat - 48 else c.toNat - 87

def unescape : List Char → Option (Char × List Char)
  | '\\' :: 'u' :: '0' :: '0' :: h :: l :: rest => some (Char.ofNat (16 * hexValue h + hexValue l), rest)
  | '\\' :: 'b' :: rest => some (Char.ofNat 8, rest)
  | '\\' :: 't' :: rest => some (Char.ofNat 9, rest)
  | '\\' :: 'n' :: rest => some (Char.ofNat 10, rest)
  | '\\' :: 'f' :: rest => some (Char.ofNat 12, rest)
  | '\\' :: 'r' :: rest => some (Char.ofNat 13, rest)
  | '\\' :: c :: rest => some (c, rest)
  | c :: rest => some (c, rest)
  | [] => none

lemma unescape_escape (c : Char) (rest : List Char) : unescape (escape c ++ rest) = some (c, rest) := by
  by_cases hquote : c = '"'
  · subst hquote; rfl
  by_cases hslash : c = '\\'
  · subst hslash; rfl
  by_cases hplain : 0x20 ≤ c.toNat
  · simp [escape, hquote, hslash, hplain, unescape]
  · have hc : c = Char.ofNat c.toNat := (Char.ofNat_toNat c).symm
    generalize c.toNat = n at hc hplain
    subst hc
    -- the control characters, one by one
    interval_cases n <;> rfl

def printString (text : List Char) : List Char := '"' :: text.flatMap escape ++ ['"']

lemma escape_head (c : Char) : ∃ d more, escape c = d :: more ∧ d ≠ '"' := by
  simp only [escape]
  split_ifs with hquote
  · exact ⟨_, _, rfl, by decide⟩
  · exact ⟨_, _, rfl, by decide⟩
  · exact ⟨_, _, rfl, hquote⟩
  all_goals exact ⟨_, _, rfl, by decide⟩

lemma inside_inj {s t r u : List Char} (h : s.flatMap escape ++ '"' :: r = t.flatMap escape ++ '"' :: u) :
    s = t ∧ r = u := by
  induction s generalizing t with
  | nil =>
      cases t with
      | nil => simpa using h
      | cons c t =>
          obtain ⟨d, more, heq, hd⟩ := escape_head c
          simp only [List.flatMap_nil, List.nil_append, List.flatMap_cons, heq, List.cons_append, List.cons.injEq] at h
          exact absurd h.1.symm hd
  | cons c s ih =>
      cases t with
      | nil =>
          obtain ⟨d, more, heq, hd⟩ := escape_head c
          simp only [List.flatMap_nil, List.nil_append, List.flatMap_cons, heq, List.cons_append, List.cons.injEq] at h
          exact absurd h.1 hd
      | cons c' t =>
          have hnext := congrArg unescape h
          simp only [List.flatMap_cons, List.append_assoc, unescape_escape, Option.some.injEq, Prod.mk.injEq] at hnext
          obtain ⟨rfl, hrest⟩ := hnext
          obtain ⟨rfl, rfl⟩ := ih hrest
          exact ⟨rfl, rfl⟩

lemma printString_inj {s t : String} {r u : List Char}
    (h : printString s.toList ++ r = printString t.toList ++ u) : s = t ∧ r = u := by
  simp only [printString, List.cons_append, List.append_assoc, List.nil_append, List.cons.injEq, true_and] at h
  obtain ⟨hs, hr⟩ := inside_inj h
  exact ⟨String.toList_injective hs, hr⟩

mutual

def print : Json → List Char
  | null => "null".toList
  | bool true => "true".toList
  | bool false => "false".toList
  | number n => n.text
  | string text => printString text.toList
  | array items => '[' :: printItems true items
  | object fields => '{' :: printFields true fields

def printItems : Bool → List Json → List Char
  | _, [] => [']']
  | first, item :: rest => (if first then [] else [',']) ++ (item.print ++ printItems false rest)

def printFields : Bool → List (String × Json) → List Char
  | _, [] => ['}']
  | first, (name, value) :: rest =>
    (if first then [] else [',']) ++ (printString name.toList ++ ':' :: (value.print ++ printFields false rest))

end

def Stops (text : List Char) : Prop := ∀ c ∈ text.head?, isNumeric c = false

lemma stops_items (items : List Json) (rest : List Char) : Stops (printItems false items ++ rest) := by
  cases items <;> simp [Stops, printItems, isNumeric]

lemma stops_fields (fields : List (String × Json)) (rest : List Char) : Stops (printFields false fields ++ rest) := by
  rcases fields with - | ⟨⟨name, value⟩, fields⟩ <;> simp [Stops, printFields, isNumeric]

lemma numeric_inj {s t r u : List Char} (hs : ∀ c ∈ s, isNumeric c = true) (ht : ∀ c ∈ t, isNumeric c = true)
    (hr : Stops r) (hu : Stops u) (h : s ++ r = t ++ u) : s = t ∧ r = u := by
  induction s generalizing t with
  | nil =>
      cases t with
      | nil => exact ⟨rfl, h⟩
      | cons c t =>
          have hc := ht c List.mem_cons_self
          rw [hr c (by simp [show r = c :: (t ++ u) from h])] at hc
          simp at hc
  | cons c s ih =>
      cases t with
      | nil =>
          have hc := hs c List.mem_cons_self
          rw [hu c (by simp [← show c :: (s ++ r) = u from h])] at hc
          simp at hc
      | cons d t =>
          simp only [List.cons_append, List.cons.injEq] at h
          obtain ⟨rfl, hrest⟩ := h
          obtain ⟨rfl, rfl⟩ := ih (fun c hc => hs c (List.mem_cons_of_mem _ hc))
            (fun c hc => ht c (List.mem_cons_of_mem _ hc)) hrest
          exact ⟨rfl, rfl⟩

inductive Kind
  | null | true | false | number | string | array | object
  deriving DecidableEq

def kind : Json → Kind
  | .null => .null
  | .bool .true => .true
  | .bool .false => .false
  | .number _ => .number
  | .string _ => .string
  | .array _ => .array
  | .object _ => .object

def kindOf (c : Char) : Option Kind :=
  if c = 'n' then some .null
  else if c = 't' then some .true
  else if c = 'f' then some .false
  else if c = '"' then some .string
  else if c = '[' then some .array
  else if c = '{' then some .object
  else if isNumeric c then some .number
  else none

lemma print_head (v : Json) : ∃ c rest, v.print = c :: rest ∧ kindOf c = some v.kind := by
  rcases v with - | ⟨- | -⟩ | n | text | items | fields
  · exact ⟨'n', _, rfl, rfl⟩
  · exact ⟨'f', _, rfl, rfl⟩
  · exact ⟨'t', _, rfl, rfl⟩
  · rcases htext : n.text with - | ⟨c, rest⟩
    · exact absurd htext n.ne_nil
    · refine ⟨c, rest, by simp [print, htext], ?_⟩
      have hc := n.numeric c (by simp [htext])
      have hne {d : Char} (hd : isNumeric d = false) : c ≠ d := by
        rintro rfl
        simp [hd] at hc
      simp [kindOf, hc, kind, hne (d := 'n') rfl, hne (d := 't') rfl, hne (d := 'f') rfl, hne (d := '"') rfl,
        hne (d := '[') rfl, hne (d := '{') rfl]
  · exact ⟨'"', _, rfl, rfl⟩
  · exact ⟨'[', printItems true items, by rw [print], rfl⟩
  · exact ⟨'{', printFields true fields, by rw [print], rfl⟩

lemma kind_eq {v w : Json} {r u : List Char} (h : v.print ++ r = w.print ++ u) : v.kind = w.kind := by
  obtain ⟨c, rest, hc, hkind⟩ := print_head v
  obtain ⟨d, rest', hd, hkind'⟩ := print_head w
  rw [hc, hd, List.cons_append, List.cons_append, List.cons.injEq] at h
  rw [h.1] at hkind
  exact Option.some.inj (hkind.symm.trans hkind')

lemma print_ne_close (v : Json) (c : Char) (hc : kindOf c = none) (r u : List Char) : v.print ++ r ≠ c :: u := by
  intro h
  obtain ⟨d, rest, hd, hkind⟩ := print_head v
  rw [hd, List.cons_append, List.cons.injEq] at h
  rw [h.1, hc] at hkind
  simp at hkind

mutual

/-- A value and what follows it can be told from the text. -/
theorem print_append_inj : ∀ (v w : Json) (r u : List Char), Stops r → Stops u → v.print ++ r = w.print ++ u →
    v = w ∧ r = u
  | .null, w, r, u, _, _, h => by
      have hkind := kind_eq h
      cases w with
      | null => exact ⟨rfl, List.append_cancel_left h⟩
      | bool b => cases b <;> simp [kind] at hkind
      | number | string | array | object => simp [kind] at hkind
  | .bool b, w, r, u, _, _, h => by
      have hkind := kind_eq h
      cases w with
      | bool b' =>
          cases b <;> cases b' <;> simp [kind] at hkind
          · exact ⟨rfl, List.append_cancel_left h⟩
          · exact ⟨rfl, List.append_cancel_left h⟩
      | null | number | string | array | object => cases b <;> simp [kind] at hkind
  | .number n, w, r, u, hr, hu, h => by
      have hkind := kind_eq h
      cases w with
      | number m =>
          obtain ⟨htext, hrest⟩ := numeric_inj n.numeric m.numeric hr hu (by simpa only [print] using h)
          refine ⟨?_, hrest⟩
          cases n
          cases m
          cases htext
          rfl
      | bool b => cases b <;> simp [kind] at hkind
      | null | string | array | object => simp [kind] at hkind
  | .string s, w, r, u, _, _, h => by
      have hkind := kind_eq h
      cases w with
      | string t =>
          obtain ⟨rfl, hrest⟩ := printString_inj (by simpa only [print] using h)
          exact ⟨rfl, hrest⟩
      | bool b => cases b <;> simp [kind] at hkind
      | null | number | array | object => simp [kind] at hkind
  | .array items, w, r, u, _, _, h => by
      have hkind := kind_eq h
      cases w with
      | array items' =>
          simp only [print, List.cons_append, List.cons.injEq, true_and] at h
          obtain ⟨rfl, hrest⟩ := printItems_append_inj items items' true r u h
          exact ⟨rfl, hrest⟩
      | bool b => cases b <;> simp [kind] at hkind
      | null | number | string | object => simp [kind] at hkind
  | .object fields, w, r, u, _, _, h => by
      have hkind := kind_eq h
      cases w with
      | object fields' =>
          simp only [print, List.cons_append, List.cons.injEq, true_and] at h
          obtain ⟨rfl, hrest⟩ := printFields_append_inj fields fields' true r u h
          exact ⟨rfl, hrest⟩
      | bool b => cases b <;> simp [kind] at hkind
      | null | number | string | array => simp [kind] at hkind

theorem printItems_append_inj : ∀ (vs ws : List Json) (first : Bool) (r u : List Char),
    printItems first vs ++ r = printItems first ws ++ u → vs = ws ∧ r = u
  | [], [], _, r, u, h => ⟨rfl, List.append_cancel_left h⟩
  | [], w :: ws, first, r, u, h => by
      cases first
      · simp [printItems] at h
      · simp only [printItems, if_true, List.nil_append, List.append_assoc, List.cons_append] at h
        exact absurd h.symm (print_ne_close w ']' rfl _ _)
  | v :: vs, [], first, r, u, h => by
      cases first
      · simp [printItems] at h
      · simp only [printItems, if_true, List.nil_append, List.append_assoc, List.cons_append] at h
        exact absurd h (print_ne_close v ']' rfl _ _)
  | v :: vs, w :: ws, first, r, u, h => by
      simp only [printItems, List.append_assoc] at h
      obtain ⟨rfl, hrest⟩ := print_append_inj v w _ _ (stops_items vs r) (stops_items ws u) (List.append_cancel_left h)
      obtain ⟨rfl, rfl⟩ := printItems_append_inj vs ws false r u hrest
      exact ⟨rfl, rfl⟩

theorem printFields_append_inj : ∀ (vs ws : List (String × Json)) (first : Bool) (r u : List Char),
    printFields first vs ++ r = printFields first ws ++ u → vs = ws ∧ r = u
  | [], [], _, r, u, h => ⟨rfl, List.append_cancel_left h⟩
  | [], (name, w) :: ws, first, r, u, h => by
      cases first <;> simp [printFields, printString] at h
  | (name, v) :: vs, [], first, r, u, h => by
      cases first <;> simp [printFields, printString] at h
  | (name, v) :: vs, (name', w) :: ws, first, r, u, h => by
      simp only [printFields, List.append_assoc] at h
      obtain ⟨rfl, htail⟩ := printString_inj (List.append_cancel_left h)
      simp only [List.cons_append, List.append_assoc, List.cons.injEq, true_and] at htail
      obtain ⟨rfl, hrest⟩ := print_append_inj v w _ _ (stops_fields vs r) (stops_fields ws u) htail
      obtain ⟨rfl, rfl⟩ := printFields_append_inj vs ws false r u hrest
      exact ⟨rfl, rfl⟩

end

theorem print_injective : Function.Injective print := by
  intro v w h
  exact (print_append_inj v w [] [] (by simp [Stops]) (by simp [Stops]) (by rw [h])).1

end Json

end Aokie.Lib
