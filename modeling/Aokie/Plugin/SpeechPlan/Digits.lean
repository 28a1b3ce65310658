import Aokie.Plugin.SpeechPlan.Plan

/-! What a plan keeps of its sentence: every word outside the markers, and every digit of a span that names no date. -/

namespace Aokie.Plugin.SpeechPlan

open Aokie.Lib Aokie.Protocol

variable {ρ : Type} {h : Host ρ}

/-- The pieces of a sentence once each of its tokens is cut out. -/
inductive Cuts (h : Host ρ) : List Char → List (List Char) → Prop
  | last {text : List Char} (hnone : nextBracketToken h text = none) : Cuts h text [text]
  | token {text : List Char} {token : BracketToken} {pieces : List (List Char)}
      (hnext : nextBracketToken h text = some token)
      (hrest : Cuts h token.after pieces) : Cuts h text (token.before :: pieces)

def HoldsDate (h : Host ρ) (text : List Char) : Prop :=
  ∃ before date after, text = before ++ (date ++ after) ∧ (isoDate h date).isSome = true ∧
    (∀ c ∈ before.getLast?, partOfIdentifier h c = false) ∧ ∀ c ∈ after.head?, partOfIdentifier h c = false

section Tokens

variable {text : List Char} {token : BracketToken}

lemma findClose_suffix {double : Bool} {at_ : ℕ} {found : List Char × List Char}
    (hfound : findClose double at_ text = some found) :
    ∃ middle, text = middle ++ found.2 := by
  induction text generalizing at_ found with
  | nil => cases hfound
  | cons c rest ih =>
      simp only [findClose] at hfound
      split_ifs at hfound
      · obtain rfl := Option.some.inj hfound
        cases rest with
        | nil => exact ⟨[c], rfl⟩
        | cons d rest => exact ⟨[c, d], rfl⟩
      · obtain rfl := Option.some.inj hfound
        exact ⟨[c], rfl⟩
      · obtain ⟨found', hfound', rfl⟩ := Option.map_eq_some_iff.1 hfound
        obtain ⟨middle, hmiddle⟩ := ih hfound'
        exact ⟨c :: middle, congrArg (c :: ·) hmiddle⟩

lemma nextBracketToken_split (hnext : nextBracketToken h text = some token) :
    ∃ middle, text = token.before ++ '[' :: (middle ++ token.after) := by
  induction text generalizing token with
  | nil => cases hnext
  | cons c rest ih =>
      have hlater (hmap : (nextBracketToken h rest).map (.behind c) = some token) :
          ∃ middle, c :: rest = token.before ++ '[' :: (middle ++ token.after) := by
        obtain ⟨found, hfound, rfl⟩ := Option.map_eq_some_iff.1 hmap
        obtain ⟨middle, hmiddle⟩ := ih hfound
        exact ⟨middle, congrArg (c :: ·) hmiddle⟩
      rw [nextBracketToken] at hnext
      by_cases hopen : c = '['
      · obtain rfl := hopen
        have htail : ∃ front, rest = front ++ (if rest.head? == some '[' then rest.tail else rest) := by
          split_ifs
          · cases rest with
            | nil => exact ⟨[], rfl⟩
            | cons d rest => exact ⟨[d], rfl⟩
          · exact ⟨[], rfl⟩
        obtain ⟨front, hfront⟩ := htail
        simp only [if_true] at hnext
        split at hnext
        · rename_i inner after hfound
          by_cases htoken : (rest.head? == some '[' || isControlWord h inner) = true
          · rw [if_pos htoken] at hnext
            obtain rfl := Option.some.inj hnext
            obtain ⟨middle, hmiddle⟩ := findClose_suffix hfound
            refine ⟨front ++ middle, ?_⟩
            rw [List.nil_append, List.append_assoc]
            exact congrArg ('[' :: ·) (hfront.trans (congrArg (front ++ ·) hmiddle))
          · rw [if_neg htoken] at hnext
            exact hlater hnext
        · exact hlater hnext
      · rw [if_neg hopen] at hnext
        exact hlater hnext

lemma length_after_lt (hnext : nextBracketToken h text = some token) : token.after.length < text.length := by
  obtain ⟨middle, hmiddle⟩ := nextBracketToken_split hnext
  have := congrArg List.length hmiddle
  simp only [List.length_append, List.length_cons] at this
  omega

lemma exists_cuts (pace : PaceState ρ) {fuel : ℕ} (mode : Mode ρ) (hfuel : text.length < fuel) :
    ∃ pieces, Cuts h text pieces ∧
      (segmentsFrom h pace fuel mode text).flatMap (fun segment => splitWhitespace segment.1) =
        pieces.flatMap splitWhitespace := by
  induction fuel generalizing text mode with
  | zero => omega
  | succ fuel ih =>
      cases hnext : nextBracketToken h text with
      | none =>
          refine ⟨[text], .last hnext, ?_⟩
          simp only [segmentsFrom, hnext]
          split_ifs with hnil
          · rw [hnil]
            rfl
          · simp
      | some token =>
          have hlt := length_after_lt hnext
          have hshorter : token.after.length < fuel := by omega
          obtain ⟨pieces, hcuts, hwords⟩ := ih (nextMode h pace mode token.inner) hshorter
          refine ⟨token.before :: pieces, .token hnext hcuts, ?_⟩
          simp only [segmentsFrom, hnext, List.flatMap_append, hwords, List.flatMap_cons]
          congr 1
          split_ifs with hnil
          · rw [hnil]
            rfl
          · simp

end Tokens

section Trim

variable {p : Char → Bool} {text : List Char} {c : Char}

lemma mem_dropWhile_or (hc : c ∈ text) : c ∈ text.dropWhile p ∨ p c = true := by
  rw [← List.takeWhile_append_dropWhile (p := p) (l := text)] at hc
  rcases List.mem_append.1 hc with hc | hc
  · exact .inr (List.mem_takeWhile_imp hc)
  · exact .inl hc

lemma mem_rdropWhile_or (hc : c ∈ text) : c ∈ text.rdropWhile p ∨ p c = true := by
  rw [List.rdropWhile, List.mem_reverse]
  exact mem_dropWhile_or (List.mem_reverse.2 hc)

lemma mem_trimMatches_or (hc : c ∈ text) : c ∈ trimMatches p text ∨ p c = true := by
  rcases mem_dropWhile_or (p := p) hc with hc | hc
  · exact mem_rdropWhile_or hc
  · exact .inr hc

lemma trim_joinWords {words : List (List Char)} (hwords : ∀ word ∈ words, IsWord word)
    (htrim : trim (joinWords words) = []) :
    words = [] := by
  by_contra hne
  obtain ⟨word, hword⟩ := List.exists_mem_of_ne_nil _ hne
  obtain ⟨c, hc⟩ := List.exists_mem_of_ne_nil _ (hwords word hword).ne_nil
  rcases mem_trimMatches_or (p := isWhitespace) (mem_joinWords_of_mem hword hc) with hmem | hspace
  · rw [show trimMatches isWhitespace (joinWords words) = [] from htrim] at hmem
    cases hmem
  · rw [(hwords word hword).plain c hc] at hspace
    cases hspace

end Trim

section Spelling

variable {c : Char} {token : List Char} {tokens : List (List Char)} {e : Expansion}

def Spelled (text : List Char) : Prop := ∀ c ∈ text, c.isDigit = false ∧ c ≠ '['

instance (text : List Char) : Decidable (Spelled text) := inferInstanceAs (Decidable (∀ c ∈ text, _ ∧ _))

lemma Spelled.append {text more : List Char} (htext : Spelled text) (hmore : Spelled more) :
    Spelled (text ++ more) := by
  intro c hc
  rcases List.mem_append.1 hc with hc | hc
  · exact htext c hc
  · exact hmore c hc

lemma mem_digits (hc : c.isDigit = true) : c ∈ "0123456789".toList := by
  simp only [Char.isDigit, Bool.and_eq_true, decide_eq_true_eq] at hc
  have hrange : ∀ n < 10, Char.ofNat (48 + n) ∈ "0123456789".toList := by decide
  have hlow : 48 ≤ c.toNat := hc.1
  have hhigh : c.toNat ≤ 57 := hc.2
  have := hrange (c.toNat - 48) (by omega)
  rwa [Nat.add_sub_cancel' hlow, Char.ofNat_toNat] at this

lemma digitText_spec (hc : c.isDigit = true) : Spelled (digitText c) ∧ digitsOf (digitText c) = [c] ∧
    ∀ d ∈ digitText c, d.toNat < 128 ∧ d.isAlphanum = true := by
  have hall : ∀ c ∈ "0123456789".toList, Spelled (digitText c) ∧ digitsOf (digitText c) = [c] ∧
      ∀ d ∈ digitText c, d.toNat < 128 ∧ d.isAlphanum = true := by decide
  exact hall c (mem_digits hc)

lemma spelled_push (he : Spelled e.out) : Spelled (e.push c).out := by
  unfold Expansion.push
  split_ifs with hdigit hout hsep hplus hpoint
  · exact (he.append (by decide)).append (digitText_spec hdigit).1
  · exact (he.append (by decide)).append (digitText_spec hdigit).1
  · exact (he.append (by decide)).append (digitText_spec hdigit).1
  · exact show Spelled "plus".toList by decide
  · exact he
  · exact he

lemma spelled_expand (token : List Char) : Spelled (expandNumeralToken token) := by
  have hfold : ∀ (core : List Char) (e : Expansion), Spelled e.out → Spelled (core.foldl Expansion.push e).out := by
    intro core
    induction core with
    | nil => exact fun _ he => he
    | cons c core ih => exact fun e he => ih _ (spelled_push he)
  apply (hfold _ ⟨[], false⟩ (by decide)).append
  intro c hc
  have hmark : oneOf ".,!?;" c = true := List.mem_takeWhile_imp (List.mem_reverse.1 hc)
  have hall : ∀ c ∈ ".,!?;".toList, c.isDigit = false ∧ c ≠ '[' := by decide
  exact hall c (by simpa [oneOf] using hmark)

lemma spelled_joinPaused (tokens : List (List Char)) : Spelled (joinPaused tokens) := by
  unfold joinPaused
  induction tokens with
  | nil => decide
  | cons token rest ih =>
      cases rest with
      | nil =>
          rw [List.map_cons, List.map_nil, List.intercalate_singleton]
          exact spelled_expand token
      | cons next rest =>
          rw [List.map_cons, List.map_cons, List.intercalate_cons_cons]
          exact ((spelled_expand token).append (by decide)).append ih

end Spelling

section Dates

variable {text more date : List Char} {c : Char}

lemma isoDate_spec (hdate : (isoDate h date).isSome = true) :
    (∀ c ∈ date, c.isDigit = true ∨ c = '-') ∧ ∃ c ∈ date, c.isDigit = true := by
  unfold isoDate at hdate
  split_ifs at hdate with hshape
  · obtain ⟨hlength, hfour, hseven, hall⟩ := hshape
    have hfigure : ∀ i c, date[i]? = some c → i = 4 ∨ i = 7 ∨ c.isDigit = true := by
      intro i c hget
      have := List.all_eq_true.1 hall (c, i) (List.mk_mem_zipIdx_iff_getElem?.2 hget)
      simpa [or_assoc] using this
    constructor
    · intro c hc
      obtain ⟨i, hget⟩ := List.mem_iff_getElem?.1 hc
      rcases hfigure i c hget with rfl | rfl | hdigit
      · exact .inr (Option.some.inj (hget.symm.trans hfour))
      · exact .inr (Option.some.inj (hget.symm.trans hseven))
      · exact .inl hdigit
    · have hpos : 0 < date.length := by omega
      obtain ⟨c, hget⟩ : ∃ c, date[0]? = some c := ⟨_, List.getElem?_eq_getElem hpos⟩
      rcases hfigure 0 _ hget with hzero | hzero | hdigit
      · cases hzero
      · cases hzero
      · exact ⟨_, List.mem_of_getElem? hget, hdigit⟩
  · cases hdate

lemma partOfIdentifier_space : partOfIdentifier h ' ' = false := by
  simp only [partOfIdentifier, h.isAlphanumeric_ascii ' ' (by decide)]
  decide

lemma space_not_mem (hdate : (isoDate h date).isSome = true) : ' ' ∉ date := by
  intro hspace
  rcases (isoDate_spec hdate).1 _ hspace with hdigit | hhyphen
  · exact absurd hdigit (by decide)
  · exact absurd hhyphen (by decide)

lemma not_holdsDate_of_spelled (htext : Spelled text) : ¬HoldsDate h text := by
  rintro ⟨before, date, after, rfl, hdate, -⟩
  obtain ⟨c, hc, hdigit⟩ := (isoDate_spec hdate).2
  rw [(htext c (by simp [hc])).1] at hdigit
  cases hdigit

lemma holdsDate_space : HoldsDate h (text ++ ' ' :: more) ↔ HoldsDate h text ∨ HoldsDate h more := by
  constructor
  · rintro ⟨before, date, after, heq, hdate, hbefore, hafter⟩
    have hspace := space_not_mem hdate
    rcases List.append_eq_append_iff.1 heq with ⟨middle, rfl, hrest⟩ | ⟨middle, rfl, hrest⟩
    · -- the date begins behind the space
      cases middle with
      | nil =>
          cases date with
          | nil => exact absurd (isoDate_spec hdate).2 (by simp)
          | cons d date =>
              obtain ⟨rfl, -⟩ := List.cons.inj hrest
              simp at hspace
      | cons d middle =>
          obtain ⟨rfl, rfl⟩ := List.cons.inj hrest
          refine .inr ⟨middle, date, after, rfl, hdate, ?_, hafter⟩
          intro c hc
          apply hbefore c
          rw [List.getLast?_append, List.getLast?_cons, Option.mem_def.1 hc]
          rfl
    · rcases List.append_eq_append_iff.1 hrest with ⟨back, rfl, hback⟩ | ⟨back, rfl, hback⟩
      · refine .inl ⟨before, date, back, rfl, hdate, hbefore, ?_⟩
        intro c hc
        apply hafter c
        rw [hback, List.head?_append, Option.mem_def.1 hc]
        rfl
      · cases back with
        | nil => exact .inl ⟨before, middle, [], by simp, by simpa using hdate, hbefore, by simp⟩
        | cons d back =>
            obtain ⟨rfl, -⟩ := List.cons.inj hback
            simp at hspace
  · rintro (⟨before, date, after, rfl, hdate, hbefore, hafter⟩ | ⟨before, date, after, rfl, hdate, hbefore, hafter⟩)
    · refine ⟨before, date, after ++ ' ' :: more, by simp, hdate, hbefore, ?_⟩
      intro c hc
      cases after with
      | nil =>
          obtain rfl : ' ' = c := by simpa using hc
          exact partOfIdentifier_space
      | cons d after => exact hafter c hc
    · refine ⟨text ++ ' ' :: before, date, after, by simp, hdate, ?_, hafter⟩
      intro c hc
      cases hlast : before.getLast? with
      | none =>
          rw [List.getLast?_eq_none_iff] at hlast
          obtain rfl : ' ' = c := by simpa [hlast] using hc
          exact partOfIdentifier_space
      | some d =>
          apply hbefore c
          rw [List.getLast?_append, List.getLast?_cons, hlast] at hc
          rw [hlast]
          exact hc

lemma holdsDate_joinWords {words : List (List Char)} : HoldsDate h (joinWords words) ↔ ∃ word ∈ words,
    HoldsDate h word := by
  induction words with
  | nil =>
      simp only [List.not_mem_nil, false_and, exists_false, iff_false]
      exact not_holdsDate_of_spelled (by decide)
  | cons word rest ih =>
      cases rest with
      | nil => simp [joinWords_singleton]
      | cons next rest =>
          rw [joinWords_cons_cons, holdsDate_space, ih]
          simp only [List.exists_mem_cons_iff]

lemma calendarFrom_eq {before out : List Char} (htext : ¬HoldsDate h (before ++ text)) :
    calendarFrom h 0 before.getLast? out text = out ++ text := by
  induction text generalizing before out with
  | nil => simp [calendarFrom]
  | cons c rest ih =>
      have hnone : dateAt h before.getLast? (c :: rest) = none := by
        by_contra hsome
        obtain ⟨date, hdate⟩ := Option.ne_none_iff_exists'.1 hsome
        obtain ⟨hiso, hapart⟩ := Option.filter_eq_some_iff.1 hdate
        simp only [Bool.and_eq_true, Option.all_eq_true, Bool.not_eq_true'] at hapart
        exact htext ⟨before, (c :: rest).take 10,
          (c :: rest).drop 10, by rw [List.take_append_drop], by rw [hiso]; rfl, hapart.1, hapart.2⟩
      simp only [calendarFrom, hnone]
      have hrest : ¬HoldsDate h ((before ++ [c]) ++ rest) := by simpa using htext
      have hread : calendarFrom h 0 (before ++ [c]).getLast? (out ++ [c]) rest = (out ++ [c]) ++ rest := ih hrest
      simpa using hread

lemma normalizeCalendarDates_eq (htext : ¬HoldsDate h text) : normalizeCalendarDates h text = text :=
  show calendarFrom h 0 ([] : List Char).getLast? [] text = [] ++ text from calendarFrom_eq htext

end Dates

section Digits

variable {text more token : List Char} {tokens : List (List Char)} {c : Char}

lemma isAlphanumeric_of_isDigit (hc : c.isDigit = true) : h.isAlphanumeric c = true := by
  have hall : ∀ c ∈ "0123456789".toList, c.toNat < 128 ∧ c.isAlphanum = true := by decide
  obtain ⟨hascii, halnum⟩ := hall c (mem_digits hc)
  rw [h.isAlphanumeric_ascii c hascii, halnum]

lemma isAlphanumeric_mark (hc : oneOf "()+-.,!?; " c = true) : h.isAlphanumeric c = false := by
  have hall : ∀ c ∈ "()+-.,!?; ".toList, c.toNat < 128 ∧ c.isAlphanum = false := by decide
  obtain ⟨hascii, halnum⟩ := hall c (by simpa [oneOf] using hc)
  rw [h.isAlphanumeric_ascii c hascii, halnum]

lemma spokenDigits_append_cons (hc : h.isAlphanumeric c = false) (text more : List Char) :
    spokenDigits h (text ++ c :: more) = spokenDigits h text ++ spokenDigits h more := by
  rw [spokenDigits, List.splitOnP_append_cons text more (by rw [hc]; rfl), List.flatMap_append]
  rfl

lemma spokenDigits_space (text more : List Char) : spokenDigits h (text ++ ' ' :: more) =
    spokenDigits h text ++ spokenDigits h more :=
  spokenDigits_append_cons (isAlphanumeric_mark (by decide)) text more

lemma spokenDigits_pause (text more : List Char) : spokenDigits h (text ++ ", ".toList ++ more) =
    spokenDigits h text ++ spokenDigits h more := by
  have hcomma := spokenDigits_append_cons (isAlphanumeric_mark (h := h) (c := ',') (by decide)) text (' ' :: more)
  have hspace := spokenDigits_space (h := h) [] more
  rw [List.nil_append] at hspace
  rw [List.append_assoc]
  exact hcomma.trans (congrArg (spokenDigits h text ++ ·) hspace)

lemma spokenDigits_joinWords (words : List (List Char)) :
    spokenDigits h (joinWords words) = words.flatMap (spokenDigits h) := by
  induction words with
  | nil => rfl
  | cons word rest ih =>
      cases rest with
      | nil => simp [joinWords_singleton]
      | cons next rest =>
          rw [joinWords_cons_cons, spokenDigits_space, ih]
          rfl

lemma spokenDigits_figures (htext : ∀ c ∈ text, c.isDigit = true ∨ oneOf "()+-.,!?; " c = true) :
    spokenDigits h text = text.filter Char.isDigit := by
  have hdigit : ∀ c ∈ text, h.isAlphanumeric c = c.isDigit := by
    intro c hc
    rcases htext c hc with hdigit | hmark
    · rw [hdigit, isAlphanumeric_of_isDigit hdigit]
    · have hall : ∀ c ∈ "()+-.,!?; ".toList, c.isDigit = false := by decide
      rw [isAlphanumeric_mark hmark, hall c (by simpa [oneOf] using hmark)]
  have hpiece : ∀ piece ∈ text.splitOnP (!h.isAlphanumeric ·), digitsOf piece = piece := by
    intro piece hpiece
    rw [digitsOf, if_pos]
    rw [List.all_eq_true]
    intro c hc
    rw [← hdigit c ((infix_of_mem_splitOnP hpiece).subset hc)]
    simpa using eq_false_of_mem_splitOnP hpiece c hc
  rw [spokenDigits, List.flatMap_congr hpiece, List.flatMap_id', flatten_splitOnP]
  apply List.filter_congr
  intro c hc
  rw [Bool.not_not, hdigit c hc]

lemma spokenDigits_digitText (hc : c.isDigit = true) : spokenDigits h (digitText c) = [c] := by
  obtain ⟨-, hdigits, hascii⟩ := digitText_spec hc
  rw [spokenDigits, List.splitOnP_eq_singleton]
  · simpa using hdigits
  · intro d hd
    rw [h.isAlphanumeric_ascii d (hascii d hd).1, (hascii d hd).2]
    rfl

lemma spokenDigits_push (e : Expansion) (c : Char) :
    spokenDigits h (e.push c).out = spokenDigits h e.out ++ if c.isDigit then [c] else [] := by
  unfold Expansion.push
  split_ifs with hdigit hout hsep hplus hpoint
  · simp [hout, spokenDigits_digitText hdigit, show spokenDigits h [] = [] from rfl]
  · rw [spokenDigits_pause, spokenDigits_digitText hdigit]
  · rw [List.append_assoc, List.singleton_append, spokenDigits_space, spokenDigits_digitText hdigit]
  · have hplus' : spokenDigits h "plus".toList = [] := by
      rw [spokenDigits, List.splitOnP_eq_singleton]
      · decide
      · have hall : ∀ c ∈ "plus".toList, c.toNat < 128 ∧ c.isAlphanum = true := by decide
        intro c hc
        rw [h.isAlphanumeric_ascii c (hall c hc).1, (hall c hc).2]
        rfl
    rw [hplus', hplus.2]
    rfl
  · rw [List.append_nil]
  · rw [List.append_nil]

lemma isNumeralish_spec (htoken : isNumeralish h token = true) :
    ∀ c ∈ token, c.isDigit = true ∨ oneOf "()+-.,!?; " c = true := by
  have hwider : ∀ s ∈ ["()+-.,", ".,!?;"], ∀ c ∈ s.toList, oneOf "()+-.,!?; " c = true := by decide
  unfold isNumeralish at htoken
  split_ifs at htoken
  obtain ⟨-, hcore⟩ := Bool.and_eq_true_iff.1 htoken
  intro c hc
  rcases mem_trimMatches_or (p := oneOf ".,!?;") hc with hc | hmark
  · rcases Bool.or_eq_true_iff.1 (List.all_eq_true.1 hcore c hc) with hdigit | hmark
    · exact .inl hdigit
    · exact .inr (hwider "()+-.," (by simp) c (by simpa [oneOf] using hmark))
  · exact .inr (hwider ".,!?;" (by simp) c (by simpa [oneOf] using hmark))

lemma spokenDigits_expand (htoken : isNumeralish h token = true) :
    spokenDigits h (expandNumeralToken token) = spokenDigits h token := by
  have hfold : ∀ (core : List Char) (e : Expansion),
      spokenDigits h (core.foldl Expansion.push e).out = spokenDigits h e.out ++ core.filter Char.isDigit := by
    intro core
    induction core with
    | nil => simp
    | cons c core ih =>
        intro e
        rw [List.foldl_cons, ih, spokenDigits_push, List.filter_cons]
        split_ifs <;> simp
  have hmarks : ∀ c ∈ token.rtakeWhile (oneOf ".,!?;"), oneOf "()+-.,!?; " c = true ∧ c.isDigit = false := by
    have hall : ∀ c ∈ ".,!?;".toList, oneOf "()+-.,!?; " c = true ∧ c.isDigit = false := by decide
    intro c hc
    have hmark : oneOf ".,!?;" c = true := List.mem_takeWhile_imp (List.mem_reverse.1 hc)
    exact hall c (by simpa [oneOf] using hmark)
  have hnone : (token.rtakeWhile (oneOf ".,!?;")).filter Char.isDigit = [] := by
    rw [List.filter_eq_nil_iff]
    intro c hc
    rw [(hmarks c hc).2]
    decide
  have hparts : token.rdropWhile (oneOf ".,!?;") ++ token.rtakeWhile (oneOf ".,!?;") = token := by
    rw [List.rdropWhile, List.rtakeWhile, ← List.reverse_append, List.takeWhile_append_dropWhile, List.reverse_reverse]
  have hfigures : spokenDigits h token = (token.rdropWhile (oneOf ".,!?;")).filter Char.isDigit := by
    rw [spokenDigits_figures (isNumeralish_spec htoken)]
    conv_lhs => rw [← hparts]
    rw [List.filter_append, hnone, List.append_nil]
  rw [expandNumeralToken, hfigures]
  cases htrailing : token.rtakeWhile (oneOf ".,!?;") with
  | nil =>
      rw [List.append_nil, hfold]
      rfl
  | cons c trailing =>
      rw [htrailing] at hmarks hnone
      have hc := hmarks c List.mem_cons_self
      have hrest : spokenDigits h trailing = [] := by
        rw [spokenDigits_figures fun d hd => .inr (hmarks d (List.mem_cons_of_mem _ hd)).1]
        rw [List.filter_cons_of_neg (by simp [hc.2])] at hnone
        exact hnone
      rw [spokenDigits_append_cons (isAlphanumeric_mark hc.1), hrest, List.append_nil, hfold]
      rfl

lemma spokenDigits_joinPaused (htokens : ∀ token ∈ tokens, isNumeralish h token = true) :
    spokenDigits h (joinPaused tokens) = tokens.flatMap (spokenDigits h) := by
  unfold joinPaused
  induction tokens with
  | nil => rfl
  | cons token rest ih =>
      obtain ⟨htoken, hrest⟩ := List.forall_mem_cons.1 htokens
      cases rest with
      | nil => simp [spokenDigits_expand htoken]
      | cons next rest =>
          rw [List.map_cons, List.map_cons, List.intercalate_cons_cons, spokenDigits_pause, spokenDigits_expand htoken,
            ← List.map_cons, ih hrest]
          rfl

end Digits

section Runs

variable {tokens rest : List (List Char)} {runs : List DetailRun} {run : DetailRun}

/-- A run lies within the tokens, and what is expanded of it are numerals. -/
structure DetailRun.Within (h : Host ρ) (tokens : List (List Char)) (run : DetailRun) : Prop where
  start_lt : run.start < run.ended
  ended_le : run.ended ≤ tokens.length
  numerals : run.expand = true → ∀ token ∈ window tokens run.start run.ended, isNumeralish h token = true

def Fits (h : Host ρ) (tokens : List (List Char)) : ℕ → List DetailRun → Prop
  | _, [] => True
  | at_, run :: runs => at_ ≤ run.start ∧ run.Within h tokens ∧ Fits h tokens run.ended runs

lemma Fits.mono {low at_ : ℕ} (hle : low ≤ at_) (hfits : Fits h tokens at_ runs) : Fits h tokens low runs := by
  cases runs with
  | nil => trivial
  | cons run runs => exact ⟨hle.trans hfits.1, hfits.2⟩

lemma Fits.within {at_ : ℕ} (hfits : Fits h tokens at_ runs) : ∀ run ∈ runs, run.Within h tokens := by
  induction runs generalizing at_ with
  | nil => simp
  | cons run runs ih => exact List.forall_mem_cons.2 ⟨hfits.2.1, ih hfits.2.2⟩

lemma window_of_drop {i n : ℕ} (hrest : tokens.drop i = rest) : window tokens i (i + n) = rest.take n := by
  rw [window, List.drop_take, hrest, Nat.add_sub_cancel_left]

lemma within_takeWhile {i : ℕ} {p : List Char → Bool} {expand : Bool} {token : List Char}
    (hrest : tokens.drop i = token :: rest)
    (htoken : p token = true) (hp : expand = true → p = isNumeralish h) :
    DetailRun.Within h tokens ⟨i, i + ((token :: rest).takeWhile p).length, expand⟩ where
  start_lt := by
    rw [List.takeWhile_cons_of_pos htoken, List.length_cons]
    dsimp only
    omega
  ended_le := by
    have hlength := congrArg List.length hrest
    have hle := (List.takeWhile_prefix p (l := token :: rest)).length_le
    rw [List.length_drop] at hlength
    have : 0 < (token :: rest).length := by simp
    dsimp only
    omega
  numerals := by
    intro hexpand other hother
    rw [window_of_drop hrest, List.prefix_iff_eq_take.1 (List.takeWhile_prefix p) |>.symm] at hother
    rw [← hp hexpand]
    exact List.mem_takeWhile_imp hother

lemma fits_detailRuns {skip i : ℕ} {before : Option (List Char)} (hrest : tokens.drop i = rest) :
    Fits h tokens (i + skip) (detailRunsFrom h skip before i rest) := by
  induction rest generalizing skip i before with
  | nil => trivial
  | cons token rest ih =>
      have hnext : tokens.drop (i + 1) = rest := by rw [← List.drop_drop, hrest, List.drop_one, List.tail_cons]
      cases skip with
      | succ skip =>
          have hbehind : Fits h tokens (i + 1 + skip) (detailRunsFrom h skip (some token) (i + 1) rest) := ih hnext
          rwa [Nat.add_right_comm, Nat.add_assoc] at hbehind
      | zero =>
          -- a run of some length, and the runs behind it
          have hrun : ∀ (p : List Char → Bool) (expand : Bool) (keep : Prop) [Decidable keep], p token = true →
              (expand = true → p = isNumeralish h) →
              Fits h tokens i ((if keep then [⟨i, i + ((token :: rest).takeWhile p).length, expand⟩] else []) ++
                detailRunsFrom h (((token :: rest).takeWhile p).length - 1) (some token) (i + 1) rest) := by
            intro p expand keep _ htoken hp
            have hlength : 1 ≤ ((token :: rest).takeWhile p).length := by
              rw [List.takeWhile_cons_of_pos htoken, List.length_cons]
              omega
            have hbehind : Fits h tokens (i + 1 + (((token :: rest).takeWhile p).length - 1))
                (detailRunsFrom h (((token :: rest).takeWhile p).length - 1) (some token) (i + 1) rest) := ih hnext
            rw [show i + 1 + (((token :: rest).takeWhile p).length - 1) = i +
              ((token :: rest).takeWhile p).length by omega] at hbehind
            by_cases hkeep : keep
            · rw [if_pos hkeep]
              exact ⟨le_rfl, within_takeWhile hrest htoken hp, hbehind⟩
            · rw [if_neg hkeep]
              exact hbehind.mono (by omega)
          rw [detailRunsFrom]
          by_cases hnumeral : (isNumeralish h token && !isMoneyStyle token) = true
          · rw [if_pos hnumeral]
            exact hrun _ true _ (Bool.and_eq_true_iff.1 hnumeral).1 fun _ => rfl
          · rw [if_neg hnumeral]
            by_cases hword : digitWord (lowered token) = true
            · rw [if_pos hword]
              exact hrun (fun token => digitWord (lowered token)) false _ hword (by simp)
            · rw [if_neg hword]
              have hbehind : Fits h tokens (i + 1 + 0) (detailRunsFrom h 0 (some token) (i + 1) rest) := ih hnext
              exact hbehind.mono (by omega)

lemma fits_findDetailRuns (tokens : List (List Char)) : Fits h tokens 0 (findDetailRuns h tokens) :=
  show Fits h tokens (0 + 0) (detailRunsFrom h 0 none 0 tokens) from fits_detailRuns List.drop_zero

lemma mem_expandFrom {skip i : ℕ} {item : List Char} (hitem : item ∈ expandFrom tokens runs skip i rest) :
    item ∈ rest ∨ Spelled item := by
  induction rest generalizing skip i with
  | nil => cases hitem
  | cons token rest ih =>
      cases skip with
      | succ skip => exact (ih hitem).imp_left (List.mem_cons_of_mem _)
      | zero =>
          simp only [expandFrom] at hitem
          split at hitem
          · rcases List.mem_cons.1 hitem with rfl | hitem
            · exact .inr (spelled_joinPaused _)
            · exact (ih hitem).imp_left (List.mem_cons_of_mem _)
          · rcases List.mem_cons.1 hitem with rfl | hitem
            · exact .inl List.mem_cons_self
            · exact (ih hitem).imp_left (List.mem_cons_of_mem _)

lemma spokenDigits_expandFrom {skip i : ℕ} (hruns : ∀ run ∈ runs, run.Within h tokens) (hrest : tokens.drop i = rest) :
    (expandFrom tokens runs skip i rest).flatMap (spokenDigits h) = (rest.drop skip).flatMap (spokenDigits h) := by
  induction rest generalizing skip i with
  | nil => simp [expandFrom]
  | cons token rest ih =>
      have hnext : tokens.drop (i + 1) = rest := by rw [← List.drop_drop, hrest, List.drop_one, List.tail_cons]
      cases skip with
      | succ skip => exact ih hnext
      | zero =>
          simp only [expandFrom]
          split
          · rename_i run hfind
            have hwithin := hruns run (List.mem_of_find?_eq_some hfind)
            obtain ⟨hexpand, hstart⟩ : run.expand = true ∧ run.start = i := by simpa using List.find?_some hfind
            have hlt := hwithin.start_lt
            have hwindow : window tokens run.start run.ended = (token :: rest).take (run.ended - i) := by
              rw [hstart, ← window_of_drop hrest]
              congr 1
              omega
            rw [List.flatMap_cons, ih hnext, spokenDigits_joinPaused (hwithin.numerals hexpand), hwindow,
              show run.ended - i = run.ended - i - 1 + 1 by omega,
              List.take_succ_cons, List.flatMap_cons, List.append_assoc,
              Nat.add_sub_cancel, ← List.flatMap_append, List.take_append_drop, List.drop_zero, List.flatMap_cons]
          · rw [List.flatMap_cons, ih hnext]
            rfl

end Runs

section Spans

variable {tokens : List (List Char)} {span : SpeechSpan ρ} {pace : PaceState ρ} {rate : ρ} {policy : InterruptPolicy}
  {expandDigits : Bool} {start ended : ℕ}

lemma mem_pushSpan (hspan : span ∈ pushSpan h tokens start ended rate policy expandDigits) :
    span.text = joinWords (window tokens start ended) ∧ window tokens start ended ≠ [] ∧ ∃ items,
      span.ttsText = normalizeCalendarDates h (joinWords items) ∧
      (∀ item ∈ items, item ∈ window tokens start ended ∨ Spelled item) ∧
      items.flatMap (spokenDigits h) = (window tokens start ended).flatMap (spokenDigits h) := by
  simp only [pushSpan] at hspan
  by_cases htrim : trim (joinWords (window tokens start ended)) = []
  · rw [if_pos htrim] at hspan
    cases hspan
  · rw [if_neg htrim] at hspan
    have hne : window tokens start ended ≠ [] := by
      intro hnil
      rw [hnil] at htrim
      exact htrim rfl
    obtain rfl := List.mem_singleton.1 hspan
    refine ⟨rfl, hne, ?_⟩
    dsimp only
    split_ifs
    · exact ⟨_, rfl, fun item hitem => mem_expandFrom hitem,
        spokenDigits_expandFrom (fits_findDetailRuns _).within List.drop_zero⟩
    · exact ⟨_, rfl, fun item hitem => .inl hitem, rfl⟩

lemma words_pushSpan (htokens : ∀ token ∈ tokens, IsWord token) :
    (pushSpan h tokens start ended rate policy expandDigits).flatMap (splitWhitespace ·.text) =
      window tokens start ended := by
  have hwindow : ∀ token ∈ window tokens start ended, IsWord token :=
    fun token htoken => htokens token (List.mem_of_mem_take (List.mem_of_mem_drop htoken))
  simp only [pushSpan]
  by_cases htrim : trim (joinWords (window tokens start ended)) = []
  · rw [if_pos htrim, trim_joinWords hwindow htrim]
    rfl
  · rw [if_neg htrim, List.flatMap_singleton, splitWhitespace_joinWords hwindow]

/-- A span of a plan: some of a segment's tokens, and what is read for them. -/
structure Spoken (h : Host ρ) (tokens : List (List Char)) (span : SpeechSpan ρ) : Prop where
  text : ∃ words, words ≠ [] ∧ (∀ word ∈ words, word ∈ tokens) ∧ span.text = joinWords words
  ttsText : ∃ items, (∀ item ∈ items, item ∈ tokens ∨ Spelled item) ∧
    (span.ttsText = joinWords items ∨ span.ttsText = normalizeCalendarDates h (joinWords items))
  digits : ¬HoldsDate h span.text → spokenDigits h span.ttsText = spokenDigits h span.text

lemma mem_of_mem_window {token : List Char} (htoken : token ∈ window tokens start ended) : token ∈ tokens :=
  List.mem_of_mem_take (List.mem_of_mem_drop htoken)

lemma spoken_pushSpan (hspan : span ∈ pushSpan h tokens start ended rate policy expandDigits) :
    Spoken h tokens span := by
  obtain ⟨htext, hne, items, htts, hitems, hdigits⟩ := mem_pushSpan hspan
  refine ⟨⟨_, hne, fun word hword => mem_of_mem_window hword, htext⟩,
    ⟨items, fun item hitem => (hitems item hitem).imp_left mem_of_mem_window, .inr htts⟩, ?_⟩
  intro hdate
  have hplain : ¬HoldsDate h (joinWords items) := by
    rw [holdsDate_joinWords]
    rintro ⟨item, hitem, hholds⟩
    rcases hitems item hitem with htoken | hspelled
    · exact hdate (htext ▸ holdsDate_joinWords.2 ⟨item, htoken, hholds⟩)
    · exact not_holdsDate_of_spelled hspelled hholds
  rw [htts, normalizeCalendarDates_eq hplain, htext, spokenDigits_joinWords, spokenDigits_joinWords, hdigits]

lemma window_ne_nil {run : DetailRun} (hrun : run.Within h tokens) : window tokens run.start run.ended ≠ [] := by
  intro hnil
  have hlength := congrArg List.length hnil
  have := hrun.start_lt
  have := hrun.ended_le
  simp only [window, List.length_drop, List.length_take, List.length_nil] at hlength
  omega

lemma spoken_detailSpan {run : DetailRun} (hrun : run.Within h tokens) (pace : PaceState ρ) :
    Spoken h tokens (detailSpan tokens run pace) := by
  refine ⟨⟨_, window_ne_nil hrun, fun word hword => mem_of_mem_window hword, rfl⟩, ?_, ?_⟩
  · cases hexpand : run.expand with
    | true => exact ⟨[joinPaused (window tokens run.start run.ended)], by simp [spelled_joinPaused],
        .inl (by simp [detailSpan, hexpand, joinWords_singleton])⟩
    | false => exact ⟨window tokens run.start run.ended, fun item hitem => .inl (mem_of_mem_window hitem),
        .inl (by simp [detailSpan, hexpand])⟩
  · intro _
    cases hexpand : run.expand with
    | true => simp [detailSpan, hexpand, spokenDigits_joinPaused (hrun.numerals hexpand), spokenDigits_joinWords]
    | false => simp [detailSpan, hexpand]

lemma spoken_baseSpans {runs : List DetailRun} {cursor : ℕ} (hfits : Fits h tokens cursor runs) :
    ∀ span ∈ baseSpans h pace tokens cursor runs, Spoken h tokens span := by
  induction runs generalizing cursor with
  | nil =>
      intro span hspan
      simp only [baseSpans] at hspan
      split_ifs at hspan
      · exact spoken_pushSpan hspan
      · cases hspan
  | cons run runs ih =>
      intro span hspan
      obtain ⟨-, hrun, hrest⟩ := hfits
      simp only [baseSpans, List.mem_append, List.mem_cons] at hspan
      rcases hspan with hspan | rfl | hspan
      · split_ifs at hspan
        · exact spoken_pushSpan hspan
        · cases hspan
      · exact spoken_detailSpan hrun pace
      · exact ih hrest span hspan

lemma spoken_segmentSpans {protectedMaxMs : ℕ} {segment : List Char × Mode ρ}
    (hspan : span ∈ segmentSpans h pace protectedMaxMs segment) :
    Spoken h (splitWhitespace segment.1) span := by
  simp only [segmentSpans] at hspan
  split_ifs at hspan
  · cases hspan
  · split at hspan
    · exact spoken_pushSpan hspan
    · exact spoken_pushSpan hspan
    · exact spoken_baseSpans (fits_findDetailRuns _) span hspan

lemma window_append_drop {first second : ℕ} (hle : first ≤ second) (hlength : second ≤ tokens.length) :
    window tokens first second ++ tokens.drop second = tokens.drop first := by
  conv_rhs => rw [← List.take_append_drop second tokens]
  rw [List.drop_append_of_le_length (by rw [List.length_take]; omega)]
  rfl

lemma words_baseSpans (htokens : ∀ token ∈ tokens, IsWord token) {runs : List DetailRun} {cursor : ℕ}
    (hfits : Fits h tokens cursor runs) :
    (baseSpans h pace tokens cursor runs).flatMap (fun span => splitWhitespace span.text) = tokens.drop cursor := by
  induction runs generalizing cursor with
  | nil =>
      simp only [baseSpans]
      split_ifs with hless
      · rw [words_pushSpan htokens, window, List.take_length]
      · rw [List.drop_eq_nil_of_le (by omega)]
        rfl
  | cons run runs ih =>
      obtain ⟨hle, hrun, hrest⟩ := hfits
      have hstart := hrun.start_lt
      have hended := hrun.ended_le
      have hfront :
          (if cursor < run.start then pushSpan h tokens cursor run.start pace.base .yield false else []).flatMap
          (fun span => splitWhitespace span.text) = window tokens cursor run.start := by
        split_ifs with hless
        · exact words_pushSpan htokens
        · rw [window, List.drop_eq_nil_of_le (by rw [List.length_take]; omega)]
          rfl
      have hdetail : splitWhitespace (detailSpan tokens run pace).text = window tokens run.start run.ended :=
        splitWhitespace_joinWords fun token htoken => htokens token (mem_of_mem_window htoken)
      rw [baseSpans, List.flatMap_append, hfront, List.flatMap_cons, hdetail, ih hrest,
        window_append_drop (by omega) hended,
        window_append_drop hle (by omega)]

lemma words_segmentSpans (protectedMaxMs : ℕ) (segment : List Char × Mode ρ) :
    (segmentSpans h pace protectedMaxMs segment).flatMap (fun span => splitWhitespace span.text) =
      splitWhitespace segment.1 := by
  have htokens : ∀ token ∈ splitWhitespace segment.1, IsWord token := fun token htoken => isWord_of_mem htoken
  have hwhole : window (splitWhitespace segment.1) 0 (splitWhitespace segment.1).length =
      splitWhitespace segment.1 := by
    rw [window, List.take_length, List.drop_zero]
  simp only [segmentSpans]
  split_ifs with hnil
  · rw [hnil]
    rfl
  · split
    · rw [words_pushSpan htokens, hwhole]
    · rw [words_pushSpan htokens, hwhole]
    · rw [words_baseSpans htokens (fits_findDetailRuns _), List.drop_zero]

lemma words_planSpans (sentence : List Char) (pace : PaceState ρ) (protectedMaxMs : ℕ) :
    (planSpans h sentence pace protectedMaxMs).flatMap (fun span => splitWhitespace span.text) =
      (segments h pace sentence).flatMap fun segment => splitWhitespace segment.1 := by
  rw [planSpans, List.flatMap_assoc]
  exact List.flatMap_congr fun segment _ => words_segmentSpans _ segment

end Spans

/-- A plan's spans hold the words of the sentence's pieces in order; none of them is empty; and a span that names no
date is read with its digits. -/
theorem plan_keeps_words_and_digits (h : Host ρ) (sentence : List Char) (pace : PaceState ρ) (protectedMaxMs : ℕ) :
    (∃ pieces, Cuts h sentence pieces ∧
      (planSpans h sentence pace protectedMaxMs).flatMap (fun span => splitWhitespace span.text) =
        pieces.flatMap splitWhitespace) ∧
    ∀ span ∈ planSpans h sentence pace protectedMaxMs,
      span.text ≠ [] ∧ (¬HoldsDate h span.text → spokenDigits h span.ttsText = spokenDigits h span.text) := by
  constructor
  · obtain ⟨pieces, hcuts, hwords⟩ := exists_cuts pace .base (Nat.lt_succ_self sentence.length)
    exact ⟨pieces, hcuts, (words_planSpans sentence pace protectedMaxMs).trans hwords⟩
  · intro span hspan
    obtain ⟨segment, -, hspan⟩ := List.mem_flatMap.1 hspan
    have hspoken := spoken_segmentSpans hspan
    refine ⟨?_, hspoken.digits⟩
    obtain ⟨words, hne, hwords, htext⟩ := hspoken.text
    obtain ⟨word, hword⟩ := List.exists_mem_of_ne_nil _ hne
    obtain ⟨c, hc⟩ := List.exists_mem_of_ne_nil _ (isWord_of_mem (hwords word hword)).ne_nil
    rw [htext]
    exact List.ne_nil_of_mem (mem_joinWords_of_mem hword hc)

end Aokie.Plugin.SpeechPlan
