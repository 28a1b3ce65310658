import Mathlib

/-! The pieces of the Rust standard library that the modelled code calls: bytes, clocks and text. -/

namespace Aokie.Lib

abbrev Bytes := List UInt8

abbrev Instant := ℕ

abbrev Duration := ℕ

def saturatingDurationSince (now earlier : Instant) : Duration := now - earlier

def hex (width n : ℕ) : String :=
  let digits := Nat.toDigits 16 n
  String.ofList (List.replicate (width - digits.length) '0' ++ digits)

def fractionDigits (width n : ℕ) : List Char :=
  let digits := Nat.toDigits 10 n
  (List.replicate (width - digits.length) '0' ++ digits).rdropWhile (· == '0')

def decimal (whole width fraction : ℕ) : String :=
  let digits := fractionDigits width fraction
  toString whole ++ (if digits.isEmpty then "" else "." ++ String.ofList digits)

/-- The `Debug` text of a `Duration`: the largest unit that is not zero, and no trailing zeros. -/
def Duration.debug (d : Duration) : String :=
  if 1000000000 ≤ d then decimal (d / 1000000000) 9 (d % 1000000000) ++ "s"
  else if 1000000 ≤ d then decimal (d / 1000000) 6 (d % 1000000) ++ "ms"
  else if 1000 ≤ d then decimal (d / 1000) 3 (d % 1000) ++ "µs"
  else toString d ++ "ns"

def ensure (p : Prop) [Decidable p] (message : String) : Except String Unit :=
  if p then .ok () else .error message

lemma ensure_eq_ok_iff {p : Prop} [Decidable p] {message : String} {u : Unit} :
    ensure p message = .ok u ↔ p := by
  unfold ensure
  split_ifs with h <;> simp [h]

lemma bind_eq_ok_iff {ε α β : Type} {x : Except ε α} {f : α → Except ε β} {b : β} :
    x >>= f = .ok b ↔ ∃ a, x = .ok a ∧ f a = .ok b := by
  cases x <;> simp [bind, Except.bind]

lemma pure_eq_ok_iff {ε α : Type} {a b : α} : (pure a : Except ε α) = .ok b ↔ a = b := by
  simp [pure, Except.pure]

def okOr {α : Type} (o : Option α) (message : String) : Except String α :=
  match o with
  | some a => .ok a
  | none => .error message

lemma okOr_eq_ok_iff {α : Type} {o : Option α} {message : String} {a : α} :
    okOr o message = .ok a ↔ o = some a := by
  cases o <;> simp [okOr]

def u64Max : ℕ := 18446744073709551615

/-- `u64::saturating_add`. -/
def saturatingAdd (a b : ℕ) : ℕ := min (a + b) u64Max

def advance (n : ℕ) : ℕ := max (saturatingAdd n 1) 1

lemma le_saturatingAdd {n : ℕ} (h : n ≤ u64Max) : n ≤ saturatingAdd n 1 := by
  simp only [saturatingAdd]
  omega

lemma lt_saturatingAdd {n : ℕ} (h : n < u64Max) : n < saturatingAdd n 1 := by
  simp only [saturatingAdd]
  omega

lemma saturatingAdd_le (a b : ℕ) : saturatingAdd a b ≤ u64Max := min_le_right _ _

lemma advance_le (n : ℕ) : advance n ≤ u64Max := by
  simp only [advance, saturatingAdd, u64Max]
  omega

lemma le_advance {n : ℕ} (h : n ≤ u64Max) : n ≤ advance n := (le_saturatingAdd h).trans (le_max_left _ _)

lemma lt_advance {n : ℕ} (h : n < u64Max) : n < advance n := (lt_saturatingAdd h).trans_le (le_max_left _ _)

def intoBytes (text : String) : Bytes := text.toUTF8.data.toList

def fromUtf8 (bytes : Bytes) : Option String := String.fromUTF8? ⟨bytes.toArray⟩

@[simp] lemma fromUtf8_intoBytes (text : String) : fromUtf8 (intoBytes text) = some text := by
  have hbytes : (⟨text.toUTF8.data.toList.toArray⟩ : ByteArray) = text.toByteArray := rfl
  simp only [fromUtf8, intoBytes, hbytes, String.fromUTF8?]
  rw [dif_pos text.isValidUTF8]
  rfl

lemma fromUtf8_append {xs ys : Bytes} {text more : String} (hxs : fromUtf8 xs = some text)
    (hys : fromUtf8 ys = some more) : fromUtf8 (xs ++ ys) = some (text ++ more) := by
  simp only [fromUtf8, String.fromUTF8?, Option.dite_none_right_eq_some, Option.some.injEq] at hxs hys ⊢
  obtain ⟨hvalid, rfl⟩ := hxs
  obtain ⟨hvalid', rfl⟩ := hys
  have hbytes : (⟨(xs ++ ys).toArray⟩ : ByteArray) = ⟨xs.toArray⟩ ++ ⟨ys.toArray⟩ := by
    ext1
    simp
  refine ⟨hbytes ▸ hvalid.append hvalid', ?_⟩
  apply String.toByteArray_inj.mp
  simp [String.fromUTF8, hbytes]

lemma fromUtf8_flatten {frames : List Bytes} (h : ∀ frame ∈ frames, (fromUtf8 frame).isSome) :
    (fromUtf8 frames.flatten).isSome := by
  induction frames with
  | nil => decide
  | cons frame frames ih =>
      obtain ⟨hframe, hframes⟩ := List.forall_mem_cons.mp h
      obtain ⟨text, htext⟩ := Option.isSome_iff_exists.mp hframe
      obtain ⟨more, hmore⟩ := Option.isSome_iff_exists.mp (ih hframes)
      rw [List.flatten_cons, fromUtf8_append htext hmore]
      rfl

def toLeBytes (n : UInt16) : Bytes := [n.toUInt8, (n >>> 8).toUInt8]

def leBytes (width n : ℕ) : Bytes := (List.range width).map fun i => UInt8.ofNat (n >>> (8 * i))

def fromLeBytes (lo hi : UInt8) : UInt16 := lo.toUInt16 ||| (hi.toUInt16 <<< 8)

lemma byte_forall {P : UInt8 → Prop} (h : ∀ upper < 16, ∀ lower < 16,
    P (UInt8.ofNat (16 * upper + lower))) (b : UInt8) :
    P b := by
  have hlt := b.toNat_lt
  have hb := h (b.toNat / 16) (by omega) (b.toNat % 16) (by omega)
  rwa [Nat.div_add_mod, UInt8.ofNat_toNat] at hb

@[simp] lemma fromLeBytes_toLeBytes (n : UInt16) : fromLeBytes n.toUInt8 (n >>> 8).toUInt8 = n := by
  apply UInt16.toNat_inj.mp
  have hn := n.toNat_lt
  simp only [fromLeBytes, UInt16.toNat_or, UInt8.toNat_toUInt16, UInt16.toNat_toUInt8,
    UInt16.toNat_shiftLeft, UInt16.toNat_shiftRight, UInt16.toNat_ofNat, Nat.shiftRight_eq_div_pow,
    Nat.shiftLeft_eq]
  rw [Nat.or_comm]
  have hh := Nat.shiftLeft_add_eq_or_of_lt (a := n.toNat / 256) (b := n.toNat % 256) (i := 8) (by omega)
  rw [Nat.shiftLeft_eq] at hh
  norm_num at hn hh ⊢
  have hs : n.toNat / 256 % 256 * 256 % 65536 = n.toNat / 256 * 256 := by omega
  rw [hs, ← hh]
  omega

/-- Unicode `White_Space`, what `str::trim` removes. -/
def isWhitespace (c : Char) : Bool :=
  let n := c.toNat
  (0x9 ≤ n && n ≤ 0xd) || n == 0x20 || n == 0x85 || n == 0xa0 || n == 0x1680 ||
    (0x2000 ≤ n && n ≤ 0x200a) || n == 0x2028 || n == 0x2029 || n == 0x202f || n == 0x205f || n == 0x3000

def trim (text : List Char) : List Char := (text.dropWhile isWhitespace).rdropWhile isWhitespace

/-- `text.trim().parse::<i32>().ok()`. -/
def parseI32 (value : List Char) : Option ℤ :=
  let text := trim value
  let (negative, digits) := match text with
    | '-' :: rest => (true, rest)
    | '+' :: rest => (false, rest)
    | _ => (false, text)
  if digits.isEmpty || !digits.all Char.isDigit then none
  else
    let n : ℤ := digits.foldl (fun acc c => acc * 10 + (c.toNat - '0'.toNat : ℕ)) 0
    let v := if negative then -n else n
    if -2147483648 ≤ v ∧ v ≤ 2147483647 then some v else none

def u8TryFrom (n : ℤ) : Option UInt8 := if 0 ≤ n ∧ n ≤ 255 then some (UInt8.ofNat n.toNat) else none

def eqIgnoreAsciiCase (a b : List Char) : Bool := a.map Char.toLower == b.map Char.toLower

def stripPrefix (start text : List Char) : Option (List Char) :=
  if start.isPrefixOf text then some (text.drop start.length) else none

lemma insert_insert {α β : Type*} {cmp : α → α → Ordering} [Std.TransCmp cmp] [Std.LawfulEqCmp cmp]
    (m : Std.ExtTreeMap α β cmp) (key : α) (old new : β) : (m.insert key old).insert key new = m.insert key new := by
  apply Std.ExtTreeMap.ext_getElem?
  intro k
  simp only [Std.ExtTreeMap.getElem?_insert]
  split_ifs <;> rfl

end Aokie.Lib
