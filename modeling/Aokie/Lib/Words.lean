import Mathlib.Data.List.Infix
import Aokie.Lib.Rust

/-! The words of a text: what `split_whitespace` gives, and words joined again by one space each. -/

namespace Aokie.Lib

def splitWhitespace (text : List Char) : List (List Char) := (text.splitOnP isWhitespace).filter (· ≠ [])

def joinWords (words : List (List Char)) : List Char := [' '].intercalate words

instance decidableForallMem (text : List Char) (p : Char → Prop) [DecidablePred p] : Decidable (∀ c ∈ text, p c) :=
  List.decidableBAll p text

structure IsWord (word : List Char) : Prop where
  ne_nil : word ≠ []
  plain : ∀ c ∈ word, isWhitespace c = false

section Split

variable {p : Char → Bool} {text word : List Char}

lemma prefix_of_splitOnP {front : List Char} {rest : List (List Char)} (h : text.splitOnP p = front :: rest) :
    front <+: text ∧ ∀ word ∈ rest, word <:+: text := by
  induction text generalizing front rest with
  | nil =>
      rw [List.splitOnP_nil, List.cons.injEq] at h
      obtain ⟨rfl, rfl⟩ := h
      exact ⟨List.nil_prefix, by simp⟩
  | cons c text ih =>
      obtain ⟨front', rest', hsplit⟩ := List.exists_cons_of_ne_nil (List.splitOnP_ne_nil p text)
      obtain ⟨hfront, hrest⟩ := ih hsplit
      rw [List.splitOnP_cons_eq_if_modifyHead, hsplit] at h
      split_ifs at h
      · obtain ⟨rfl, rfl⟩ := List.cons.inj h
        refine ⟨List.nil_prefix, ?_⟩
        intro word hword
        rcases List.mem_cons.1 hword with rfl | hword
        · exact (hfront.isInfix).trans (List.suffix_cons c text).isInfix
        · exact (hrest word hword).trans (List.suffix_cons c text).isInfix
      · rw [List.modifyHead_cons] at h
        obtain ⟨rfl, rfl⟩ := List.cons.inj h
        exact ⟨(List.cons_prefix_cons.2 ⟨rfl, hfront⟩), fun word hword =>
          (hrest word hword).trans (List.suffix_cons c text).isInfix⟩

lemma infix_of_mem_splitOnP (h : word ∈ text.splitOnP p) : word <:+: text := by
  obtain ⟨front, rest, hsplit⟩ := List.exists_cons_of_ne_nil (List.splitOnP_ne_nil p text)
  obtain ⟨hfront, hrest⟩ := prefix_of_splitOnP hsplit
  rw [hsplit] at h
  rcases List.mem_cons.1 h with rfl | h
  · exact hfront.isInfix
  · exact hrest word h

lemma eq_false_of_mem_splitOnP (h : word ∈ text.splitOnP p) : ∀ c ∈ word, p c = false := by
  induction text generalizing word with
  | nil =>
      rw [List.splitOnP_nil, List.mem_singleton] at h
      simp [h]
  | cons first text ih =>
      rw [List.splitOnP_cons_eq_if_modifyHead] at h
      split_ifs at h with hfirst
      · rcases List.mem_cons.1 h with rfl | h
        · simp
        · exact ih h
      · obtain ⟨front, rest, hsplit⟩ := List.exists_cons_of_ne_nil (List.splitOnP_ne_nil p text)
        rw [hsplit, List.modifyHead_cons] at h
        rcases List.mem_cons.1 h with rfl | h
        · rintro c hc
          rcases List.mem_cons.1 hc with rfl | hc
          · simpa using hfirst
          · exact ih (hsplit ▸ List.mem_cons_self) c hc
        · exact ih (hsplit ▸ List.mem_cons_of_mem _ h)

lemma flatten_splitOnP (p : Char → Bool) (text : List Char) : (text.splitOnP p).flatten = text.filter (!p ·) := by
  induction text with
  | nil => rfl
  | cons c text ih =>
      rw [List.splitOnP_cons_eq_if_modifyHead]
      cases hc : p c with
      | true => simp [hc, ih]
      | false =>
          obtain ⟨front, rest, hsplit⟩ := List.exists_cons_of_ne_nil (List.splitOnP_ne_nil p text)
          rw [hsplit] at ih ⊢
          simpa [hc] using ih

lemma isWord_of_mem (h : word ∈ splitWhitespace text) : IsWord word where
  ne_nil := by simpa using (List.mem_filter.1 h).2
  plain := eq_false_of_mem_splitOnP (List.mem_of_mem_filter h)

lemma infix_of_mem_splitWhitespace (h : word ∈ splitWhitespace text) : word <:+: text :=
  infix_of_mem_splitOnP (List.mem_of_mem_filter h)

lemma splitWhitespace_append (text more : List Char) :
    splitWhitespace (text ++ ' ' :: more) = splitWhitespace text ++ splitWhitespace more := by
  rw [splitWhitespace, List.splitOnP_append_cons text more (by decide), List.filter_append]
  rfl

lemma splitWhitespace_of_isWord (h : IsWord word) : splitWhitespace word = [word] := by
  rw [splitWhitespace, List.splitOnP_eq_singleton h.plain]
  simp [h.ne_nil]

end Split

section Join

variable {word text more pattern : List Char} {words : List (List Char)}

lemma joinWords_singleton (word : List Char) : joinWords [word] = word := List.intercalate_singleton

lemma joinWords_cons_cons (word next : List Char) (rest : List (List Char)) :
    joinWords (word :: next :: rest) = word ++ ' ' :: joinWords (next :: rest) := by
  rw [joinWords, List.intercalate_cons_cons, List.append_assoc]
  rfl

lemma mem_joinWords_of_mem {c : Char} (hword : word ∈ words) (hc : c ∈ word) : c ∈ joinWords words := by
  induction words with
  | nil => cases hword
  | cons first rest ih =>
      cases rest with
      | nil =>
          rw [List.mem_singleton] at hword
          rwa [joinWords_singleton, ← hword]
      | cons next rest =>
          rw [joinWords_cons_cons]
          rcases List.mem_cons.1 hword with rfl | hword
          · exact List.mem_append_left _ hc
          · exact List.mem_append_right _ (List.mem_cons_of_mem _ (ih hword))

lemma splitWhitespace_joinWords (h : ∀ word ∈ words, IsWord word) : splitWhitespace (joinWords words) = words := by
  induction words with
  | nil => rfl
  | cons word rest ih =>
      obtain ⟨hword, hrest⟩ := List.forall_mem_cons.1 h
      cases rest with
      | nil => rw [joinWords_singleton, splitWhitespace_of_isWord hword]
      | cons next rest => rw [joinWords_cons_cons, splitWhitespace_append, splitWhitespace_of_isWord hword, ih hrest,
          List.singleton_append]

lemma infix_append_cons {c : Char} (hc : c ∉ pattern) (h : pattern <:+: text ++ c :: more) :
    pattern <:+: text ∨ pattern <:+: more := by
  obtain ⟨before, after, h⟩ := h
  rw [List.append_assoc] at h
  rcases List.append_eq_append_iff.1 h with ⟨middle, rfl, hrest⟩ | ⟨middle, rfl, hrest⟩
  · rcases List.append_eq_append_iff.1 hrest with ⟨back, rfl, -⟩ | ⟨back, rfl, hback⟩
    · exact .inl ⟨before, back, by simp⟩
    · cases back with
      | nil => exact .inl ⟨before, [], by simp⟩
      | cons d back =>
          obtain ⟨rfl, -⟩ := List.cons.inj hback
          simp at hc
  · cases middle with
    | nil =>
        cases pattern with
        | nil => exact .inl List.nil_infix
        | cons d pattern =>
            obtain ⟨rfl, -⟩ := List.cons.inj hrest
            simp at hc
    | cons d middle =>
        obtain ⟨rfl, rfl⟩ := List.cons.inj hrest
        exact .inr ⟨middle, after, by simp⟩

lemma infix_joinWords (hspace : ' ' ∉ pattern) (hne : pattern ≠ []) (h : pattern <:+: joinWords words) :
    ∃ word ∈ words, pattern <:+: word := by
  induction words with
  | nil => exact absurd (List.infix_nil.1 h) hne
  | cons word rest ih =>
      cases rest with
      | nil => exact ⟨word, List.mem_cons_self, joinWords_singleton word ▸ h⟩
      | cons next rest =>
          rw [joinWords_cons_cons] at h
          rcases infix_append_cons hspace h with hword | hrest
          · exact ⟨word, List.mem_cons_self, hword⟩
          · obtain ⟨found, hfound, hmem⟩ := ih hrest
            exact ⟨found, List.mem_cons_of_mem _ hfound, hmem⟩

lemma infix_splitWhitespace (hplain : ∀ c ∈ pattern, isWhitespace c = false) (hne : pattern ≠ [])
    (h : pattern <:+: text) :
    ∃ word ∈ splitWhitespace text, pattern <:+: word := by
  induction hn : text.length using Nat.strong_induction_on generalizing text with
  | _ n ih =>
      by_cases hsplit : ∃ c ∈ text, isWhitespace c = true
      · obtain ⟨c, hc, hspace⟩ := hsplit
        obtain ⟨before, after, rfl⟩ := List.append_of_mem hc
        have hnot : c ∉ pattern := by
          intro hmem
          rw [hplain c hmem] at hspace
          cases hspace
        have hwords : splitWhitespace (before ++ c :: after) = splitWhitespace before ++ splitWhitespace after := by
          rw [splitWhitespace, List.splitOnP_append_cons before after hspace, List.filter_append]
          rfl
        rw [List.length_append, List.length_cons] at hn
        rw [hwords]
        rcases infix_append_cons hnot h with hbefore | hafter
        · obtain ⟨word, hword, hfound⟩ := ih before.length (by omega) hbefore rfl
          exact ⟨word, List.mem_append_left _ hword, hfound⟩
        · obtain ⟨word, hword, hfound⟩ := ih after.length (by omega) hafter rfl
          exact ⟨word, List.mem_append_right _ hword, hfound⟩
      · have hword : IsWord text := by
          constructor
          · rintro rfl
            exact hne (List.infix_nil.1 h)
          · intro c hc
            by_contra hspace
            exact hsplit ⟨c, hc, by simpa using hspace⟩
        exact ⟨text, by rw [splitWhitespace_of_isWord hword]; exact List.mem_cons_self, h⟩

end Join

end Aokie.Lib
