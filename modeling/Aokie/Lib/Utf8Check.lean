import Aokie.Lib.Utf8

/-! `str::from_utf8` on text that arrives in pieces: it stops at the first character that is not complete, and tells
a cut character from a wrong one. -/

namespace Aokie.Lib

open String (utf8EncodeChar)

structure Utf8Error where
  validUpTo : ℕ
  /-- `none` when the input ends inside a character. -/
  errorLen : Option ℕ
  deriving DecidableEq, Repr

def checkChar (lead : UInt8) (rest : Bytes) : Option Utf8Error :=
  let len := sequenceLength lead
  if len = 1 then none
  else if len = 0 then some ⟨0, some 1⟩
  else
    let got := continuationCount lead rest
    if got + 1 = len then none
    else if got = rest.length then some ⟨0, none⟩
    else some ⟨0, some (got + 1)⟩

def checkFrom : ℕ → Bytes → Option Utf8Error
  | 0, _ => none
  | _, [] => none
  | fuel + 1, lead :: rest =>
    match checkChar lead rest with
    | some e => some e
    | none =>
      let len := sequenceLength lead
      (checkFrom fuel (rest.drop (len - 1))).map fun e => { e with validUpTo := e.validUpTo + len }

/-- The error of `str::from_utf8`, if there is one. -/
def utf8Error (bytes : Bytes) : Option Utf8Error := checkFrom bytes.length bytes

def encode (text : List Char) : Bytes := text.flatMap utf8EncodeChar

@[simp] lemma encode_nil : encode [] = [] := rfl

@[simp] lemma encode_cons (c : Char) (text : List Char) : encode (c :: text) = utf8EncodeChar c ++ encode text := rfl

@[simp] lemma encode_append (front back : List Char) : encode (front ++ back) = encode front ++ encode back :=
  List.flatMap_append

section Bytes

lemma sequenceLength_ofNat {n : ℕ} (hn : n < 256) : sequenceLength (UInt8.ofNat n) =
    if n < 0x80 then 1
    else if 0xc2 ≤ n && n ≤ 0xdf then 2
    else if 0xe0 ≤ n && n ≤ 0xef then 3
    else if 0xf0 ≤ n && n ≤ 0xf4 then 4
    else 0 := by
  simp only [sequenceLength, UInt8.lt_iff_toNat_lt, UInt8.le_iff_toNat_le, UInt8.toNat_ofNat_of_lt' hn]
  rfl

lemma isContinuation_ofNat : ∀ n < 64, isContinuation (UInt8.ofNat (n + 128)) = true := by decide

lemma secondByteOk_ofNat {lead second : ℕ} (hlead : lead < 256) (hsecond : second < 64)
    (h3 : lead = 0xe0 → 32 ≤ second) (h3' : lead = 0xed → second < 32) (h4 : lead = 0xf0 → 16 ≤ second)
    (h4' : lead = 0xf4 → second < 16) :
    secondByteOk (UInt8.ofNat lead) (UInt8.ofNat (second + 128)) = true := by
  have hlead' : ∀ n < 256, (UInt8.ofNat lead == UInt8.ofNat n) = decide (lead = n) := by
    intro n hn
    simp only [beq_eq_decide, ← UInt8.toNat_inj, UInt8.toNat_ofNat_of_lt' hlead, UInt8.toNat_ofNat_of_lt' hn]
  have hbyte : second + 128 < 256 := by omega
  simp only [secondByteOk, UInt8.le_iff_toNat_le, UInt8.toNat_ofNat_of_lt' hbyte, isContinuation_ofNat second hsecond]
  have he0 := hlead' 0xe0 (by decide)
  have hed := hlead' 0xed (by decide)
  have hf0 := hlead' 0xf0 (by decide)
  have hf4 := hlead' 0xf4 (by decide)
  simp only [show (0xe0 : UInt8) = UInt8.ofNat 0xe0 from rfl, show (0xed : UInt8) = UInt8.ofNat 0xed from rfl,
    show (0xf0 : UInt8) = UInt8.ofNat 0xf0 from rfl, show (0xf4 : UInt8) = UInt8.ofNat 0xf4 from rfl, he0,
      hed, hf0, hf4]
  simp only [show (0xa0 : UInt8).toNat = 160 from rfl, show (0xbf : UInt8).toNat = 191 from rfl,
    show (0x80 : UInt8).toNat = 128 from rfl, show (0x9f : UInt8).toNat = 159 from rfl,
    show (0x90 : UInt8).toNat = 144 from rfl, show (0x8f : UInt8).toNat = 143 from rfl]
  split_ifs with h1 h2 h3 h4 <;> simp_all <;> omega

lemma continuationCount_cons {lead second : UInt8} {more rest : Bytes} (hlen : more.length + 2 ≤ sequenceLength lead)
    (hsecond : secondByteOk lead second = true) (hmore : ∀ b ∈ more, isContinuation b = true)
    (hstop : rest = [] ∨ more.length + 2 = sequenceLength lead) :
    continuationCount lead (second :: (more ++ rest)) = more.length + 1 := by
  have htake : (more ++ rest).take (sequenceLength lead - 2) = more := by
    rcases hstop with rfl | hstop
    · rw [List.append_nil, List.take_of_length_le (by omega)]
    · rw [List.take_append_of_le_length (by omega), List.take_of_length_le (by omega)]
  rw [continuationCount, if_pos hsecond, htake, List.takeWhile_eq_self_iff.mpr hmore]
  omega

structure IsSequence (c : Char) (lead : UInt8) (tail : Bytes) : Prop where
  length : sequenceLength lead = tail.length + 1
  whole : ∀ rest, checkChar lead (tail ++ rest) = none
  cut : ∀ k < tail.length, checkChar lead (tail.take k) = some ⟨0, none⟩
  decoded : ∀ rest, decodeLossy lead (tail ++ rest) = (c, rest)

lemma isSequence_cons {c : Char} {lead second : UInt8} {more : Bytes}
    (hlen : sequenceLength lead = more.length + 2) (hsecond : secondByteOk lead second = true)
    (hmore : ∀ b ∈ more, isContinuation b = true)
    (hvalue : Char.ofNat ((second :: more).foldl (fun acc b => acc * 64 + b.toNat % 64)
      (lead.toNat % (if sequenceLength lead = 2 then 32 else if sequenceLength lead = 3 then 16 else 8))) = c) :
    IsSequence c lead (second :: more) := by
  have hcount : ∀ rest, continuationCount lead (second :: more ++ rest) = more.length + 1 :=
    fun rest => continuationCount_cons (by omega) hsecond hmore (.inr hlen.symm)
  refine ⟨by simpa using hlen, ?_, ?_, ?_⟩
  · intro rest
    simp only [checkChar, hcount, hlen]
    split_ifs with h1 h2 <;> simp_all
  · intro k hk
    have hcut : continuationCount lead ((second :: more).take k) = k := by
      cases k with
      | zero => rfl
      | succ k =>
          have hfits : (more.take k).length + 2 ≤ sequenceLength lead := by
            simp only [List.length_take, hlen]
            omega
          have hshort := continuationCount_cons hfits hsecond (fun b hb => hmore b (List.mem_of_mem_take hb))
              (.inl (rfl : [] = []))
          rw [List.length_cons] at hk
          rwa [List.length_take, Nat.min_eq_left (by omega), List.append_nil] at hshort
    simp only [List.length_cons] at hk
    simp only [checkChar, hcut, hlen, List.length_take, List.length_cons]
    rw [if_neg (by omega), if_neg (by omega), if_neg (by omega), if_pos (by omega)]
  · intro rest
    simp only [decodeLossy, hcount]
    rw [if_neg (by omega), if_neg (by omega), if_pos (by omega), ← hvalue]
    simp

lemma isSequence_encodeChar (c : Char) : ∃ lead tail, utf8EncodeChar c = lead :: tail ∧ IsSequence c lead tail := by
  have hvalid := c.valid
  have hc : Char.ofNat c.val.toNat = c := Char.ofNat_toNat c
  simp only [UInt32.isValidChar, Nat.isValidChar] at hvalid
  simp only [utf8EncodeChar]
  generalize c.val.toNat = n at hvalid hc ⊢
  split_ifs with h1 h2 h3
  · refine ⟨_, _, rfl, ?_⟩
    have hlen : sequenceLength (UInt8.ofNat n) = 1 := by
      rw [sequenceLength_ofNat (by omega), if_pos (by omega)]
    refine ⟨hlen, ?_, nofun, ?_⟩
    · intro rest
      simp [checkChar, hlen]
    · intro rest
      simp only [decodeLossy, hlen, if_true, UInt8.toNat_ofNat_of_lt' (show n < 256 by omega), hc, List.nil_append]
  · refine ⟨_, _, rfl, ?_⟩
    have hlen : sequenceLength (UInt8.ofNat (n / 64 % 32 + 192)) = 2 := by
      rw [sequenceLength_ofNat (by omega), if_neg (by omega), if_pos (by simp; omega)]
    apply isSequence_cons hlen
    · exact secondByteOk_ofNat (by omega) (by omega) (by omega) (by omega) (by omega) (by omega)
    · simp
    · rw [hlen]
      simp only [List.foldl_cons, List.foldl_nil, if_true,
        UInt8.toNat_ofNat_of_lt' (show n / 64 % 32 + 192 < 256 by omega),
        UInt8.toNat_ofNat_of_lt' (show n % 64 + 128 < 256 by omega), ← hc]
      congr 1
      omega
  · refine ⟨_, _, rfl, ?_⟩
    have hlen : sequenceLength (UInt8.ofNat (n / 4096 % 16 + 224)) = 3 := by
      rw [sequenceLength_ofNat (by omega), if_neg (by omega), if_neg (by simp), if_pos (by simp; omega)]
    apply isSequence_cons hlen
    · exact secondByteOk_ofNat (by omega) (by omega) (by omega) (by omega) (by omega) (by omega)
    · intro b hb
      rw [List.mem_singleton.mp hb]
      exact isContinuation_ofNat _ (by omega)
    · rw [hlen]
      simp only [List.foldl_cons, List.foldl_nil, UInt8.toNat_ofNat_of_lt' (show n / 4096 % 16 + 224 < 256 by omega),
        UInt8.toNat_ofNat_of_lt' (show n / 64 % 64 + 128 < 256 by omega),
        UInt8.toNat_ofNat_of_lt' (show n % 64 + 128 < 256 by omega), ← hc]
      congr 1
      norm_num
      omega
  · refine ⟨_, _, rfl, ?_⟩
    have hlen : sequenceLength (UInt8.ofNat (n / 262144 % 8 + 240)) = 4 := by
      rw [sequenceLength_ofNat (by omega), if_neg (by omega), if_neg (by simp), if_neg (by simp),
        if_pos (by simp; omega)]
    apply isSequence_cons hlen
    · exact secondByteOk_ofNat (by omega) (by omega) (by omega) (by omega) (by omega) (by omega)
    · intro b hb
      simp only [List.mem_cons, List.not_mem_nil, or_false] at hb
      rcases hb with rfl | rfl
      · exact isContinuation_ofNat _ (by omega)
      · exact isContinuation_ofNat _ (by omega)
    · rw [hlen]
      simp only [List.foldl_cons, List.foldl_nil, UInt8.toNat_ofNat_of_lt' (show n / 262144 % 8 + 240 < 256 by omega),
        UInt8.toNat_ofNat_of_lt' (show n / 4096 % 64 + 128 < 256 by omega),
        UInt8.toNat_ofNat_of_lt' (show n / 64 % 64 + 128 < 256 by omega),
        UInt8.toNat_ofNat_of_lt' (show n % 64 + 128 < 256 by omega), ← hc]
      congr 1
      norm_num
      omega

end Bytes

lemma encodeChar_ne_nil (c : Char) : utf8EncodeChar c ≠ [] := by
  obtain ⟨lead, tail, hbytes, -⟩ := isSequence_encodeChar c
  simp [hbytes]

lemma checkFrom_encodeChar {fuel : ℕ} {bytes : Bytes} (c : Char) (hfuel : (utf8EncodeChar c ++ bytes).length ≤ fuel) :
    ∃ fuel', bytes.length ≤ fuel' ∧ checkFrom fuel (utf8EncodeChar c ++ bytes) =
      (checkFrom fuel' bytes).map fun e => { e with validUpTo := e.validUpTo + (utf8EncodeChar c).length } := by
  obtain ⟨lead, tail, hbytes, hseq⟩ := isSequence_encodeChar c
  rw [hbytes] at hfuel ⊢
  simp only [List.cons_append, List.length_cons, List.length_append] at hfuel
  obtain ⟨fuel, rfl⟩ : ∃ m, fuel = m + 1 := ⟨fuel - 1, by omega⟩
  refine ⟨fuel, by omega, ?_⟩
  simp only [List.cons_append, checkFrom, hseq.whole, hseq.length, List.length_cons, Nat.add_sub_cancel,
    List.drop_left]

lemma checkFrom_encode {fuel : ℕ} (text : List Char) (bytes : Bytes) (hfuel : (encode text ++ bytes).length ≤ fuel) :
    ∃ fuel', bytes.length ≤ fuel' ∧ checkFrom fuel (encode text ++ bytes) =
      (checkFrom fuel' bytes).map fun e => { e with validUpTo := e.validUpTo + (encode text).length } := by
  induction text generalizing fuel with
  | nil => exact ⟨fuel, hfuel, by simp⟩
  | cons c text ih =>
      rw [encode_cons, List.append_assoc] at hfuel ⊢
      obtain ⟨fuel', hfuel', hcheck⟩ := checkFrom_encodeChar c hfuel
      obtain ⟨fuel'', hfuel'', hrest⟩ := ih hfuel'
      refine ⟨fuel'', hfuel'', ?_⟩
      rw [hcheck, hrest, Option.map_map, List.length_append]
      congr 1
      funext e
      simp only [Function.comp_apply, Utf8Error.mk.injEq, and_true]
      omega

lemma utf8Error_encode (text : List Char) : utf8Error (encode text) = none := by
  obtain ⟨fuel, -, hcheck⟩ := checkFrom_encode text [] le_rfl
  rw [List.append_nil] at hcheck
  rw [utf8Error, hcheck]
  cases fuel <;> rfl

def Partial (part : Bytes) : Prop := part ≠ [] ∧ ∃ c, part <+: utf8EncodeChar c ∧ part ≠ utf8EncodeChar c

lemma utf8Error_encode_partial (text : List Char) {part : Bytes} (hpart : Partial part) :
    utf8Error (encode text ++ part) = some ⟨(encode text).length, none⟩ := by
  obtain ⟨hne, c, ⟨more, hmore⟩, hcut⟩ := hpart
  obtain ⟨fuel, hfuel, hcheck⟩ := checkFrom_encode text part le_rfl
  rw [utf8Error, hcheck]
  obtain ⟨lead, tail, hbytes, hseq⟩ := isSequence_encodeChar c
  cases part with
  | nil => exact absurd rfl hne
  | cons first part =>
      rw [hbytes, List.cons_append, List.cons.injEq] at hmore
      obtain ⟨rfl, rfl⟩ := hmore
      have hshort : part.length < (part ++ more).length := by
        have : more ≠ [] := by
          rintro rfl
          simp [hbytes] at hcut
        have := List.length_pos_iff.mpr this
        simp only [List.length_append]
        omega
      have hstop := hseq.cut part.length hshort
      rw [List.take_left] at hstop
      obtain ⟨fuel, rfl⟩ : ∃ m, fuel = m + 1 := ⟨fuel - 1, by simp only [List.length_cons] at hfuel; omega⟩
      simp [checkFrom, hstop]

lemma fromUtf8Lossy_encode (text : List Char) : fromUtf8Lossy (encode text) = text := by
  suffices hall : ∀ fuel, (encode text).length ≤ fuel → lossyFrom fuel (encode text) = text from hall _ le_rfl
  induction text with
  | nil =>
      intro fuel _
      cases fuel <;> rfl
  | cons c text ih =>
      intro fuel hfuel
      obtain ⟨lead, tail, hbytes, hseq⟩ := isSequence_encodeChar c
      rw [encode_cons, hbytes] at hfuel ⊢
      simp only [List.cons_append, List.length_cons, List.length_append] at hfuel
      obtain ⟨fuel, rfl⟩ : ∃ m, fuel = m + 1 := ⟨fuel - 1, by omega⟩
      simp only [List.cons_append, lossyFrom, hseq.decoded, ih fuel (by omega)]

lemma cut_encode {text : List Char} {front back : Bytes} (h : encode text = front ++ back) :
    ∃ done rest part, text = done ++ rest ∧ front = encode done ++ part ∧ encode rest = part ++ back ∧
      (part = [] ∨ Partial part) := by
  induction text generalizing front with
  | nil =>
      obtain ⟨rfl, rfl⟩ := List.append_eq_nil_iff.mp h.symm
      exact ⟨[], [], [], rfl, rfl, rfl, .inl rfl⟩
  | cons c text ih =>
      rw [encode_cons] at h
      rcases List.append_eq_append_iff.mp h with ⟨more, rfl, hback⟩ | ⟨more, hc, hback⟩
      · obtain ⟨done, rest, part, rfl, rfl, hrest, hpart⟩ := ih hback
        exact ⟨c :: done, rest, part, rfl, by simp, hrest, hpart⟩
      · by_cases hmore : more = []
        · subst hmore
          rw [List.append_nil] at hc
          refine ⟨[c], text, [], rfl, by simp [encode, hc], by simpa using hback.symm, .inl rfl⟩
        · refine ⟨[], c :: text, front, rfl, rfl, by rw [encode_cons, hc, hback, List.append_assoc], ?_⟩
          by_cases hfront : front = []
          · exact .inl hfront
          · refine .inr ⟨hfront, c, ⟨more, hc.symm⟩, ?_⟩
            rw [hc]
            simpa using hmore

end Aokie.Lib
