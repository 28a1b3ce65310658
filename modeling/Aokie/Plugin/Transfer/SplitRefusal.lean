import Aokie.Plugin.Transfer.Phrase

/-! A refusal that a pause splits: what may end its first half and begin its second, and the block that is to read the
two together. -/

namespace Aokie.Plugin.Transfer.Phrase

open Aokie.Lib Regex

def spaced (ws : List (List Char)) : List Char := ws.flatMap (· ++ [' '])

def Word (w : List Char) : Prop := w ≠ [] ∧ w.all wordChar = true

instance (w : List Char) : Decidable (Word w) := inferInstanceAs (Decidable (_ ∧ _))

section Words

variable {before after : List Char} {next : Place}

@[simp] lemma spaced_nil : spaced [] = [] := rfl

@[simp] lemma spaced_cons (w : List Char) (ws : List (List Char)) : spaced (w :: ws) = w ++ ' ' :: spaced ws := by
  simp [spaced]

lemma mem_word : next ∈ ends (seqs [.char wordChar, wordRest, text " "]) (before, after) ↔
    ∃ w rest, Word w ∧ after = w ++ ' ' :: rest ∧ next = (' ' :: w.reverse ++ before, rest) := by
  simp only [mem_seqs_cons, mem_seqs_nil]
  constructor
  · rintro ⟨mid, hmid, ⟨later, after'⟩, hrun, last, hspace, rfl⟩
    cases after with
    | nil => simp [ends] at hmid
    | cons c after =>
        rw [ends] at hmid
        split_ifs at hmid with hc
        · obtain rfl := List.mem_singleton.mp hmid
          obtain ⟨run, rest, rfl, hchars, hlater⟩ := mem_star_char.mp hrun
          obtain ⟨rfl, rfl⟩ := Prod.mk.inj hlater
          obtain ⟨rest, rfl, rfl⟩ := mem_lit.mp hspace
          exact ⟨c :: run, rest, ⟨List.cons_ne_nil _ _, List.all_eq_true.mpr (List.forall_mem_cons.mpr ⟨hc, hchars⟩)⟩,
            rfl, by simp⟩
        · cases hmid
  · rintro ⟨w, rest, ⟨hne, hw⟩, rfl, rfl⟩
    obtain ⟨c, run, rfl⟩ := List.exists_cons_of_ne_nil hne
    obtain ⟨hc, hrun⟩ := List.forall_mem_cons.mp (List.all_eq_true.mp hw)
    refine ⟨(c :: before, run ++ ' ' :: rest), ?_, (run.reverse ++ c :: before, ' ' :: rest), ?_, _, ?_, rfl⟩
    · simp [ends, hc]
    · exact mem_star_char.mpr ⟨run, ' ' :: rest, rfl, hrun, rfl⟩
    · exact mem_lit.mpr ⟨rest, rfl, by simp⟩

lemma mem_words {n : ℕ} : next ∈ ends (words n) (before, after) ↔
    ∃ ws rest, ws.length ≤ n ∧ (∀ w ∈ ws, Word w) ∧ after = spaced ws ++ rest ∧
      next = ((spaced ws).reverse ++ before, rest) := by
  induction n generalizing before after with
  | zero =>
      rw [words, upTo, ends, List.mem_singleton]
      constructor
      · rintro rfl
        exact ⟨[], after, le_rfl, by simp, rfl, rfl⟩
      · rintro ⟨ws, rest, hlen, -, rfl, rfl⟩
        obtain rfl := List.length_eq_zero_iff.mp (Nat.le_zero.mp hlen)
        rfl
  | succ n ih =>
      rw [words, upTo, mem_opt, mem_seq, ← words]
      constructor
      · rintro (⟨mid, hmid, hnext⟩ | rfl)
        · obtain ⟨w, rest, hw, rfl, rfl⟩ := mem_word.mp hmid
          obtain ⟨ws, rest, hlen, hws, rfl, rfl⟩ := ih.mp hnext
          refine ⟨w :: ws, rest, Nat.succ_le_succ hlen, List.forall_mem_cons.mpr ⟨hw, hws⟩, by simp, by simp⟩
        · exact ⟨[], after, Nat.zero_le _, by simp, rfl, rfl⟩
      · rintro ⟨ws, rest, hlen, hws, rfl, rfl⟩
        cases ws with
        | nil => exact Or.inr rfl
        | cons w ws =>
            obtain ⟨hw, hws⟩ := List.forall_mem_cons.mp hws
            refine Or.inl ⟨(' ' :: w.reverse ++ before, spaced ws ++ rest), mem_word.mpr ⟨w, _, hw, by simp, rfl⟩, ?_⟩
            exact ih.mpr ⟨ws, rest, Nat.le_of_succ_le_succ hlen, hws, rfl, by simp⟩

lemma mem_any {ss : List String} : next ∈ ends (any ss) (before, after) ↔
    ∃ s ∈ ss, ∃ rest, after = s.toList ++ rest ∧ next = (s.toList.reverse ++ before, rest) := by
  rw [any, mem_oneOf]
  simp only [List.mem_map, exists_exists_and_eq_and, mem_lit]

lemma mem_maybe {ss : List String} : next ∈ ends (maybe ss) (before, after) ↔
    (∃ s ∈ ss, ∃ rest, after = s.toList ++ rest ∧ next = (s.toList.reverse ++ before, rest)) ∨
      next = (before, after) := by
  rw [maybe, mem_opt, mem_any]

end Words

section Blocked

lemma isBlocked_of_mem {block : Regex} {sentence : List Char} (hblock : block ∈ blocks)
    (h : block.isMatch sentence = true) : isBlocked sentence = true := List.any_eq_true.mpr ⟨block, hblock, h⟩

lemma refusal_mem_blocks : refusal ∈ blocks := List.mem_append_right _ List.mem_cons_self

variable {front : List Char} {negation verb : String} {ws : List (List Char)} {run rest : List Char}

lemma refusal_isMatch (hnegation : negation ∈ negations)
    (hfront : atBoundary (front.reverse, negation.toList) = true) (hlen : ws.length ≤ 3) (hws : ∀ w ∈ ws, Word w)
    (hverb : verb ∈ verbs) (hrun : ∀ c ∈ run, wordChar c = true)
    (hend : atBoundary ((verb.toList ++ run).reverse, rest) = true) :
    refusal.isMatch (front ++ (negation.toList ++ ' ' :: (spaced ws ++ (verb.toList ++ (run ++ rest))))) = true := by
  have hne : ∀ negation ∈ negations, negation.toList ≠ [] := by decide
  have hverbs : ∀ verb ∈ verbs, verb.toList ≠ [] := by decide
  refine isMatch_iff.mpr ⟨front, _, rfl, ?_⟩
  obtain ⟨c, negation', hc⟩ := List.exists_cons_of_ne_nil (hne negation hnegation)
  have hstart : atBoundary (front.reverse,
      negation.toList ++ ' ' :: (spaced ws ++ (verb.toList ++ (run ++ rest)))) = true := by
    rw [atBoundary, hc] at hfront ⊢
    exact hfront
  have hstop : ∀ before : List Char, atBoundary ((verb.toList ++ run).reverse ++ before, rest) = true := by
    intro before
    obtain ⟨d, last, hd⟩ := List.exists_cons_of_ne_nil
      (List.reverse_ne_nil_iff.mpr (List.append_ne_nil_of_left_ne_nil (hverbs verb hverb) run))
    rw [atBoundary, hd] at hend ⊢
    exact hend
  refine ⟨(run.reverse ++ (verb.toList.reverse ++ ((spaced ws).reverse ++ (" ".toList.reverse ++
    (negation.toList.reverse ++ front.reverse)))), rest), ?_⟩
  simp only [refusal, mem_seqs_cons, mem_seqs_nil]
  refine ⟨_, mem_boundary.mpr ⟨hstart, rfl⟩, _, mem_any.mpr ⟨negation, hnegation, _, rfl, rfl⟩, _,
    mem_lit.mpr ⟨_, rfl, rfl⟩, _, mem_words.mpr ⟨ws, _, hlen, hws, rfl, rfl⟩, _,
    mem_any.mpr ⟨verb, hverb, _, rfl, rfl⟩, _, mem_star_char.mpr ⟨run, rest, rfl, hrun, rfl⟩, _,
    mem_boundary.mpr ⟨?_, rfl⟩, rfl⟩
  rw [← List.append_assoc, ← List.reverse_append]
  exact hstop _

end Blocked

section Halves

/-- A place where the first half of a refusal can stop: its negation, with the words after it. -/
structure Begun (sentence : List Char) (negation : String) (ws : List (List Char)) : Prop where
  split : ∃ front, sentence = front ++ (negation.toList ++ ws.flatMap (' ' :: ·)) ∧
    atBoundary (front.reverse, negation.toList) = true

def BegunWords (negation : String) (ws : List (List Char)) : Prop :=
  (negation ∈ begunNegations ∧ ∃ verb ∈ begunVerbs, ws = [verb.toList] ∨ ws = [verb.toList, "to".toList]) ∨
    (negation ∈ begunPhrases ∧ ws = []) ∨ (negation ∈ begunNegations ∧ ws = [])

lemma atBoundary_of_append {before s t : List Char} (hs : s ≠ []) (h : atBoundary (before, s ++ t) = true) :
    atBoundary (before, s) = true := by
  obtain ⟨c, s, rfl⟩ := List.exists_cons_of_ne_nil hs
  exact h

lemma begun_of_unfinished {sentence : List Char} {ending : Ending} (h : unfinished sentence ending = true) :
    ∃ negation ws, BegunWords negation ws ∧ Begun sentence negation ws := by
  have hnegations : ∀ negation ∈ begunNegations, negation.toList ≠ [] := by decide
  have hphrases : ∀ phrase ∈ begunPhrases, phrase.toList ≠ [] := by decide
  have halways : unfinishedAlways.isMatch sentence = true → ∃ negation ws, BegunWords negation ws ∧
      Begun sentence negation ws := by
    intro hmatch
    obtain ⟨front, after, rfl, next, hnext⟩ := isMatch_iff.mp hmatch
    simp only [unfinishedAlways, mem_seqs_cons, mem_seqs_nil] at hnext
    obtain ⟨mid, hmid, stop, hstop, last, hlast, rfl⟩ := hnext
    obtain ⟨hbound, rfl⟩ := mem_boundary.mp hmid
    obtain ⟨before', after'⟩ := stop
    obtain ⟨rfl, rfl⟩ := mem_finish.mp hlast
    obtain hverb | hphrase := mem_alt.mp hstop
    · simp only [mem_seqs_cons, mem_seqs_nil] at hverb
      obtain ⟨p, hp, q, hq, r, hr, z, hz, hended⟩ := hverb
      obtain ⟨negation, hnegation, rest, rfl, rfl⟩ := mem_any.mp hp
      obtain ⟨rest, rfl, rfl⟩ := mem_lit.mp hq
      obtain ⟨verb, hverb, rest, rfl, rfl⟩ := mem_any.mp hr
      have hstart := atBoundary_of_append (hnegations negation hnegation) hbound
      obtain ⟨s, hs, rest', rfl, rfl⟩ | rfl := mem_maybe.mp hz
      · obtain rfl := List.mem_singleton.mp hs
        obtain ⟨-, rfl⟩ := Prod.mk.inj hended
        refine ⟨negation, _, Or.inl ⟨hnegation, verb, hverb, Or.inr rfl⟩, ⟨front, ?_, hstart⟩⟩
        simp
      · obtain ⟨-, rfl⟩ := Prod.mk.inj hended
        refine ⟨negation, _, Or.inl ⟨hnegation, verb, hverb, Or.inl rfl⟩, ⟨front, ?_, hstart⟩⟩
        simp
    · obtain ⟨phrase, hmem, rest, rfl, hended⟩ := mem_any.mp hphrase
      obtain ⟨-, rfl⟩ := Prod.mk.inj hended
      refine ⟨phrase, [], Or.inr (Or.inl ⟨hmem, rfl⟩), ⟨front, by simp, ?_⟩⟩
      exact atBoundary_of_append (hphrases phrase hmem) hbound
  have hbare : unfinishedBare.isMatch sentence = true → ∃ negation ws, BegunWords negation ws ∧
      Begun sentence negation ws := by
    intro hmatch
    obtain ⟨front, after, rfl, next, hnext⟩ := isMatch_iff.mp hmatch
    simp only [unfinishedBare, mem_seqs_cons, mem_seqs_nil] at hnext
    obtain ⟨mid, hmid, stop, hstop, last, hlast, rfl⟩ := hnext
    obtain ⟨hbound, rfl⟩ := mem_boundary.mp hmid
    obtain ⟨negation, hnegation, rest, rfl, rfl⟩ := mem_any.mp hstop
    obtain ⟨rfl, -⟩ := mem_finish.mp hlast
    refine ⟨negation, [], Or.inr (Or.inr ⟨hnegation, rfl⟩), ⟨front, by simp, ?_⟩⟩
    exact atBoundary_of_append (hnegations negation hnegation) hbound
  cases ending with
  | hard => cases h
  | stop => exact halways h
  | opened => exact (Bool.or_eq_true _ _ ▸ h).elim halways hbare
  | trailing => exact (Bool.or_eq_true _ _ ▸ h).elim halways hbare

def JoinWords (ws : List (List Char)) : Prop :=
  ws = [] ∨ ws = ["to".toList] ∨ ws = ["be".toList] ∨ ws = ["to".toList, "be".toList]

lemma mem_maybe_word {before after w : List Char} {s : String} {next : Place} (hs : s.toList = w ++ [' ']) :
    next ∈ ends (maybe [s]) (before, after) ↔ ∃ ws rest, (ws = [] ∨ ws = [w]) ∧ after = spaced ws ++ rest ∧
      next = ((spaced ws).reverse ++ before, rest) := by
  rw [mem_maybe]
  constructor
  · rintro (⟨s', hs', rest, rfl, rfl⟩ | rfl)
    · obtain rfl := List.mem_singleton.mp hs'
      exact ⟨[w], rest, Or.inr rfl, by simp [hs], by simp [hs]⟩
    · exact ⟨[], after, Or.inl rfl, rfl, rfl⟩
  · rintro ⟨ws, rest, rfl | rfl, rfl, rfl⟩
    · exact Or.inr rfl
    · exact Or.inl ⟨s, List.mem_cons_self, rest, by simp [hs], by simp [hs]⟩

lemma join_of_unfinishedJoins {sentence : List Char} (h : unfinishedJoins.isMatch sentence = true) :
    ∃ ws verb run rest, JoinWords ws ∧ verb ∈ verbs ∧ (∀ c ∈ run, wordChar c = true) ∧
      sentence = spaced ws ++ (verb.toList ++ (run ++ rest)) ∧
        atBoundary ((verb.toList ++ run).reverse, rest) = true := by
  obtain ⟨front, after, rfl, next, hnext⟩ := isMatch_iff.mp h
  simp only [unfinishedJoins, mem_seqs_cons, mem_seqs_nil] at hnext
  obtain ⟨p, hp, q, hq, r, hr, s, hs, t, ht, z, hz, rfl⟩ := hnext
  obtain ⟨hfront, rfl⟩ := mem_start.mp hp
  obtain ⟨first, rest, hfirst, rfl, rfl⟩ := (mem_maybe_word (by decide : "to ".toList = "to".toList ++ [' '])).mp hq
  obtain ⟨second, rest, hsecond, rfl, rfl⟩ := (mem_maybe_word (by decide : "be ".toList = "be".toList ++ [' '])).mp hr
  obtain ⟨verb, hverb, rest, rfl, rfl⟩ := mem_any.mp hs
  obtain ⟨run, rest, rfl, hrun, rfl⟩ := mem_star_char.mp ht
  obtain ⟨hbound, -⟩ := mem_boundary.mp hz
  obtain rfl := List.reverse_eq_nil_iff.mp hfront
  refine ⟨first ++ second, verb, run, rest, ?_, hverb, hrun, by simp [spaced], ?_⟩
  · rw [JoinWords]
    obtain rfl | rfl := hfirst <;> obtain rfl | rfl := hsecond <;> simp
  · have hverbs : ∀ verb ∈ verbs, verb.toList ≠ [] := by decide
    obtain ⟨d, last, hd⟩ := List.exists_cons_of_ne_nil
      (List.reverse_ne_nil_iff.mpr (List.append_ne_nil_of_left_ne_nil (hverbs verb hverb) run))
    rw [← List.append_assoc, ← List.reverse_append, atBoundary, hd] at hbound
    rw [atBoundary, hd]
    exact hbound

end Halves

section Joined

lemma joined_refusal {before sentence : List Char} {negation : String} {ws ws' : List (List Char)} {verb : String}
    {run rest : List Char} (hnegation : negation ∈ negations) (hbegun : Begun before negation ws)
    (hlen : (ws ++ ws').length ≤ 3) (hws : ∀ w ∈ ws ++ ws', Word w) (hverb : verb ∈ verbs)
    (hrun : ∀ c ∈ run, wordChar c = true) (hsentence : sentence = spaced ws' ++ (verb.toList ++ (run ++ rest)))
    (hend : atBoundary ((verb.toList ++ run).reverse, rest) = true) : isBlocked (joined before sentence) = true := by
  obtain ⟨front, rfl, hfront⟩ := hbegun.split
  have hspaced : ∀ (ws : List (List Char)) (t : List Char), ws.flatMap (' ' :: ·) ++ ' ' :: t = ' ' ::
      (spaced ws ++ t) := by
    intro ws t
    induction ws with
    | nil => rfl
    | cons w ws ih => simp [ih]
  have hall : joined (front ++ (negation.toList ++ ws.flatMap (' ' :: ·))) sentence =
      front ++ (negation.toList ++ ' ' :: (spaced (ws ++ ws') ++ (verb.toList ++ (run ++ rest)))) := by
    rw [joined, List.append_assoc, List.append_assoc, hspaced, hsentence]
    simp [spaced]
  rw [hall]
  exact isBlocked_of_mem refusal_mem_blocks (refusal_isMatch hnegation hfront hlen hws hverb hrun hend)

/-- The negation is a longer one that takes the verb in: "not going to", "not gonna", "not able to". -/
def TakenIn (negation verb : String) : Prop :=
  negation ∈ ["do not", "does not", "did not", "will not", "would not", "should not", "can not"] ∧
    verb ∈ ["going", "gonna", "able"]

instance (negation verb : String) : Decidable (TakenIn negation verb) := inferInstanceAs (Decidable (_ ∧ _))

/-- Four words stand between the negation and the verb: the first half ends in a verb and "to", the second begins with
"to be". -/
def FourBetween (before sentence : List Char) : Prop :=
  "to be ".toList <+: sentence ∧ ∃ negation ∈ begunNegations, ∃ verb ∈ begunVerbs, ¬TakenIn negation verb ∧
    Begun before negation [verb.toList, "to".toList]

lemma Begun.takenIn {before : List Char} {negation verb : String} (h : Begun before negation [verb.toList, "to".toList])
    (htaken : TakenIn negation verb) : ∃ negation' ∈ negations, ∃ ws :
      List (List Char), ws.length ≤ 1 ∧ (∀ w ∈ ws, Word w) ∧
      Begun before negation' ws := by
  obtain ⟨front, rfl, -⟩ := h.split
  obtain ⟨hnegation, hverb⟩ := htaken
  have hnot : ∃ aux, negation.toList = aux ++ " not".toList := by
    have hall : ∀ negation ∈ ["do not", "does not", "did not", "will not", "would not", "should not", "can not"],
        negation.toList = negation.toList.take (negation.toList.length - 4) ++ " not".toList := by
      decide
    exact ⟨_, hall negation hnegation⟩
  obtain ⟨aux, haux⟩ := hnot
  have hbound : ∀ t : List Char, atBoundary ((front ++ (aux ++ [' '])).reverse, 'n' :: t) = true := by
    intro t
    simp [atBoundary, wordChar]
  have hwhole : ∀ verb ∈ ["going", "gonna", "able"], ∃ negation' ∈ negations, ∃ ws : List (List Char), ws.length ≤ 1 ∧
      (∀ w ∈ ws, Word w) ∧ negation'.toList.head? = some 'n' ∧
      "not".toList ++ [verb.toList, "to".toList].flatMap (' ' :: ·) = negation'.toList ++ ws.flatMap (' ' :: ·) := by
    intro verb hverb
    simp only [List.mem_cons, List.not_mem_nil, or_false] at hverb
    obtain rfl | rfl | rfl := hverb
    · exact ⟨"not going to", by decide, [], by simp, by simp, by decide, by decide⟩
    · exact ⟨"not gonna", by decide, ["to".toList], by simp, by decide, by decide, by decide⟩
    · exact ⟨"not able to", by decide, [], by simp, by simp, by decide, by decide⟩
  obtain ⟨negation', hmem, ws, hlen, hws, hhead, heq⟩ := hwhole verb hverb
  refine ⟨negation', hmem, ws, hlen, hws, ⟨front ++ (aux ++ [' ']), ?_, ?_⟩⟩
  · rw [← heq, haux]
    have hspace : " not".toList = ' ' :: "not".toList := by decide
    rw [hspace]
    simp
  · obtain ⟨t, ht⟩ := List.head?_eq_some_iff.mp hhead
    rw [ht]
    exact hbound t

lemma begunNegations_subset : ∀ negation ∈ begunNegations, negation ∈ negations := by decide

lemma begunPhrases_subset : ∀ phrase ∈ begunPhrases, phrase ∈ negations := by decide

lemma begunVerbs_words : ∀ verb ∈ begunVerbs, Word verb.toList := by decide

end Joined

def ReadAsRefusal (before sentence : List Char) : Prop :=
  isBlocked (joined before sentence) = true ∧
    ∀ ending, (readSentences (some before) [(sentence, ending)]).isSome = true

lemma readAsRefusal_iff {before sentence : List Char} (hjoins : unfinishedJoins.isMatch sentence = true) :
    ReadAsRefusal before sentence ↔ isBlocked (joined before sentence) = true := by
  refine ⟨fun h => h.1, fun h => ⟨h, fun ending => ?_⟩⟩
  have hasks : sentenceAsks (joined before sentence) = false := by
    rw [sentenceAsks, h]
    rfl
  simp [readSentences, hjoins, hasks]

/-- A refusal split by a pause is read as one, unless four words stand between its negation and its verb. -/
theorem split_refusal_read (before sentence : List Char) (ending : Ending)
    (hunfinished : unfinished before ending = true) (hjoins : unfinishedJoins.isMatch sentence = true)
    (hfour : ¬FourBetween before sentence) : ReadAsRefusal before sentence := by
  rw [readAsRefusal_iff hjoins]
  obtain ⟨negation, ws, hwords, hbegun⟩ := begun_of_unfinished hunfinished
  obtain ⟨ws', verb, run, rest, hjoin, hverb, hrun, hsentence, hend⟩ := join_of_unfinishedJoins hjoins
  have hjoinLen : ws'.length ≤ 2 := by
    obtain rfl | rfl | rfl | rfl := hjoin <;> simp
  have hjoinWords : ∀ w ∈ ws', Word w := by
    obtain rfl | rfl | rfl | rfl := hjoin <;> decide
  have hread : ∀ {negation : String} {ws : List (List Char)}, negation ∈ negations → Begun before negation ws →
      ws.length ≤ 1 → (∀ w ∈ ws, Word w) → isBlocked (joined before sentence) = true := by
    intro negation ws hnegation hbegun hlen hws
    refine joined_refusal hnegation hbegun ?_ ?_ hverb hrun hsentence hend
    · rw [List.length_append]
      omega
    · exact List.forall_mem_append.mpr ⟨hws, hjoinWords⟩
  obtain ⟨hnegation, begun, hbegunVerb, rfl | rfl⟩ | ⟨hphrase, rfl⟩ | ⟨hnegation, rfl⟩ := hwords
  · refine hread (begunNegations_subset _ hnegation) hbegun le_rfl ?_
    simpa using begunVerbs_words begun hbegunVerb
  · by_cases htaken : TakenIn negation begun
    · obtain ⟨negation', hnegation', ws, hlen, hws, hbegun'⟩ := hbegun.takenIn htaken
      exact hread hnegation' hbegun' hlen hws
    · have hshort : ws'.length ≤ 1 := by
        obtain rfl | rfl | rfl | rfl := hjoin
        · simp
        · simp
        · simp
        · refine absurd ⟨?_, negation, hnegation, begun, hbegunVerb, htaken, hbegun⟩ hfour
          rw [hsentence]
          exact List.prefix_append _ _
      refine joined_refusal (begunNegations_subset _ hnegation) hbegun ?_ ?_ hverb hrun hsentence hend
      · simp
        omega
      · refine List.forall_mem_append.mpr ⟨?_, hjoinWords⟩
        have hto : Word "to".toList := by decide
        simpa using ⟨begunVerbs_words begun hbegunVerb, hto⟩
  · exact hread (begunPhrases_subset _ hphrase) hbegun (Nat.zero_le _) (by simp)
  · exact hread (begunNegations_subset _ hnegation) hbegun (Nat.zero_le _) (by simp)

theorem split_refusal_read_to_be : ReadAsRefusal "no need to".toList "be put through".toList := by
  refine split_refusal_read "no need to".toList "be put through".toList .opened (by decide +kernel)
    (by decide +kernel) ?_
  rintro ⟨hto, -⟩
  exact absurd hto (by decide)

/-- "I don't want to", and then "to be put through to the owner", asks for the owner. -/
theorem split_refusal_asks : ¬∀ (before sentence : List Char) (ending : Ending), unfinished before ending = true →
    unfinishedJoins.isMatch sentence = true → ReadAsRefusal before sentence := by
  intro h
  have hread := h "i don't want to".toList "to be put through to the owner".toList .opened (by decide +kernel)
    (by decide +kernel)
  exact absurd (hread.2 .opened) (by decide +kernel)

end Aokie.Plugin.Transfer.Phrase
