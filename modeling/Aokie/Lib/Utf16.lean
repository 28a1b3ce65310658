import Mathlib

/-! UTF-16: the code units of a text, and the strict decoder that refuses unpaired surrogates. -/

namespace Aokie.Lib

def encodeChar (c : Char) : List UInt16 :=
  if c.toNat < 0x10000 then [UInt16.ofNat c.toNat]
  else [UInt16.ofNat (0xd800 + (c.toNat - 0x10000) / 0x400), UInt16.ofNat (0xdc00 + (c.toNat - 0x10000) % 0x400)]

/-- `str::encode_utf16`. -/
def encodeUtf16 (text : List Char) : List UInt16 := text.flatMap encodeChar

/-- `String::from_utf16`. -/
def decodeUtf16 : List UInt16 → Option (List Char)
  | [] => some []
  | u :: rest =>
    if u.toNat < 0xd800 ∨ 0xdfff < u.toNat then (decodeUtf16 rest).map (Char.ofNat u.toNat :: ·)
    else if 0xdc00 ≤ u.toNat then none
    else
      match rest with
      | [] => none
      | v :: rest =>
        if 0xdc00 ≤ v.toNat ∧ v.toNat ≤ 0xdfff then
          (decodeUtf16 rest).map (Char.ofNat (0x10000 + ((u.toNat - 0xd800) * 0x400 + (v.toNat - 0xdc00))) :: ·)
        else none

lemma Char.toNat_valid (c : Char) : c.toNat < 0xd800 ∨ 0xdfff < c.toNat ∧ c.toNat < 0x110000 := c.valid

lemma decodeUtf16_encodeChar_append (c : Char) (rest : List UInt16) :
    decodeUtf16 (encodeChar c ++ rest) = (decodeUtf16 rest).map (c :: ·) := by
  have hvalid := Char.toNat_valid c
  by_cases hplane : c.toNat < 0x10000
  · have hunit : (UInt16.ofNat c.toNat).toNat = c.toNat := UInt16.toNat_ofNat_of_lt hplane
    have hscalar : c.toNat < 0xd800 ∨ 0xdfff < c.toNat := by omega
    rw [encodeChar, if_pos hplane, List.singleton_append, decodeUtf16.eq_def]
    simp only [hunit, if_pos hscalar, Char.ofNat_toNat]
  · have hhigh : (UInt16.ofNat (0xd800 + (c.toNat - 0x10000) / 0x400)).toNat = 0xd800 + (c.toNat - 0x10000) / 0x400 :=
      UInt16.toNat_ofNat_of_lt (by rw [UInt16.size]; omega)
    have hlow : (UInt16.ofNat (0xdc00 + (c.toNat - 0x10000) % 0x400)).toNat = 0xdc00 + (c.toNat - 0x10000) % 0x400 :=
      UInt16.toNat_ofNat_of_lt (by rw [UInt16.size]; omega)
    have hcode : 0x10000 + ((0xd800 + (c.toNat - 0x10000) / 0x400 - 0xd800) * 0x400 +
        (0xdc00 + (c.toNat - 0x10000) % 0x400 - 0xdc00)) = c.toNat := by omega
    simp only [encodeChar, if_neg hplane, List.cons_append, List.nil_append, decodeUtf16, hhigh, hlow]
    rw [if_neg (by omega), if_neg (by omega), if_pos (by omega), hcode, Char.ofNat_toNat]

/-- Every text survives. -/
theorem decodeUtf16_encodeUtf16 (text : List Char) : decodeUtf16 (encodeUtf16 text) = some text := by
  induction text with
  | nil => rfl
  | cons c text ih => rw [encodeUtf16, List.flatMap_cons, decodeUtf16_encodeChar_append, ← encodeUtf16, ih]; rfl

end Aokie.Lib
