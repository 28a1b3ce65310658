import Mathlib

/-! Reading a text line by line as it arrives: what is complete is read at once, the unfinished last line waits
for the rest. -/

namespace Aokie.Lib.Lines

variable {α β : Type*} (isBreak : α → Bool)

def complete (text : List α) : List α := text.rdropWhile (!isBreak ·)

def unfinished (text : List α) : List α := text.rtakeWhile (!isBreak ·)

@[simp] lemma complete_append_unfinished (text : List α) : complete isBreak text ++ unfinished isBreak text = text :=
  List.rdropWhile_append_rtakeWhile

lemma complete_eq (text : List α) :
    complete isBreak text = [] ∨ ∃ front c, complete isBreak text = front ++ [c] ∧ isBreak c = true := by
  by_cases hempty : complete isBreak text = []
  · exact .inl hempty
  · have hlast := List.rdropWhile_last_not (!isBreak ·) text hempty
    refine .inr ⟨(complete isBreak text).dropLast, (complete isBreak text).getLast hempty, ?_, ?_⟩
    · exact (List.dropLast_append_getLast hempty).symm
    · simpa [complete] using hlast

variable {isBreak}

lemma unfinished_eq_self {text : List α} (h : ∀ c ∈ text, isBreak c = false) : unfinished isBreak text = text :=
  List.rtakeWhile_eq_self_iff.mpr fun c hc => by simp [h c hc]

lemma complete_eq_nil {text : List α} (h : ∀ c ∈ text, isBreak c = false) : complete isBreak text = [] :=
  List.rdropWhile_eq_nil_iff.mpr fun c hc => by simp [h c hc]

lemma isBreak_of_mem_unfinished {text : List α} {c : α} (hc : c ∈ unfinished isBreak text) : isBreak c = false := by
  simpa using List.mem_rtakeWhile_imp hc

lemma cut_append (front : List α) {c : α} (hc : isBreak c = true) (text : List α) :
    complete isBreak (front ++ [c] ++ text) = front ++ [c] ++ complete isBreak text ∧
      unfinished isBreak (front ++ [c] ++ text) = unfinished isBreak text := by
  induction text using List.reverseRecOn with
  | nil => simp [complete, unfinished, hc]
  | append_singleton text d ih =>
      obtain ⟨hcomplete, hunfinished⟩ := ih
      simp only [complete, unfinished] at hcomplete hunfinished ⊢
      rw [← List.append_assoc, List.rdropWhile_concat, List.rtakeWhile_concat, List.rdropWhile_concat,
        List.rtakeWhile_concat, hcomplete, hunfinished]
      cases isBreak d <;> simp

lemma complete_append (text more : List α) : complete isBreak (text ++ more) =
    complete isBreak text ++ complete isBreak (unfinished isBreak text ++ more) := by
  conv_lhs => rw [← complete_append_unfinished isBreak text, List.append_assoc]
  rcases complete_eq isBreak text with hempty | ⟨front, c, hfront, hc⟩
  · rw [hempty, List.nil_append, List.nil_append]
  · rw [hfront, (cut_append front hc _).1]

lemma unfinished_append (text more : List α) :
    unfinished isBreak (text ++ more) = unfinished isBreak (unfinished isBreak text ++ more) := by
  conv_lhs => rw [← complete_append_unfinished isBreak text, List.append_assoc]
  rcases complete_eq isBreak text with hempty | ⟨front, c, hfront, hc⟩
  · rw [hempty, List.nil_append]
  · rw [hfront, (cut_append front hc _).2]

lemma filterMap_splitOnP_append {read : List α → Option β} (hread : read [] = none) (text more : List α) :
    ((complete isBreak text ++ more).splitOnP isBreak).filterMap read =
      ((complete isBreak text).splitOnP isBreak).filterMap read ++ (more.splitOnP isBreak).filterMap read := by
  rcases complete_eq isBreak text with hempty | ⟨front, c, hfront, hc⟩
  · simp [hempty, hread]
  · rw [hfront, List.append_assoc, List.singleton_append, List.splitOnP_append_cons front more hc,
      List.splitOnP_append_cons front [] hc]
    simp [hread]

lemma mem_splitOnP_of_unfinished {text more line : List α}
    (hline : line ∈ (unfinished isBreak text ++ more).splitOnP isBreak) : line ∈ (text ++ more).splitOnP isBreak := by
  rw [← complete_append_unfinished isBreak text, List.append_assoc]
  rcases complete_eq isBreak text with hempty | ⟨front, c, hfront, hc⟩
  · rwa [hempty]
  · rw [hfront, List.append_assoc, List.singleton_append, List.splitOnP_append_cons front _ hc]
    exact List.mem_append_right _ hline

lemma splitOnP_append_eq_cons {text : List α} (h : ∀ c ∈ text, isBreak c = false) (more : List α) :
    ∃ line rest, (text ++ more).splitOnP isBreak = line :: rest ∧ text <+: line := by
  induction text with
  | nil =>
      obtain ⟨line, rest, hsplit⟩ := List.exists_cons_of_ne_nil (List.splitOnP_ne_nil isBreak more)
      exact ⟨line, rest, hsplit, List.nil_prefix⟩
  | cons c text ih =>
      obtain ⟨hc, htext⟩ := List.forall_mem_cons.mp h
      obtain ⟨line, rest, hsplit, hline⟩ := ih htext
      refine ⟨c :: line, rest, ?_, ?_⟩
      · rw [List.cons_append, List.splitOnP_cons_eq_if_modifyHead, hc, hsplit]
        rfl
      · exact (List.prefix_cons_inj c).mpr hline

lemma splitOn_flatMap_splitOn [BEq α] (a b : α) (text : List α) :
    (text.splitOn a).flatMap (·.splitOn b) = text.splitOnP fun c => c == a || c == b := by
  simp only [List.splitOn_eq_splitOnP]
  induction text with
  | nil => simp
  | cons c text ih =>
      obtain ⟨line, rest, hsplit⟩ := List.exists_cons_of_ne_nil (List.splitOnP_ne_nil (· == a) text)
      rw [hsplit, List.flatMap_cons] at ih
      rw [List.splitOnP_cons_eq_if_modifyHead, List.splitOnP_cons_eq_if_modifyHead, ← ih, hsplit]
      by_cases ha : c == a
      · simp [ha]
      · obtain ⟨line', rest', hsplit'⟩ := List.exists_cons_of_ne_nil (List.splitOnP_ne_nil (· == b) line)
        by_cases hb : c == b <;> simp [ha, hb, List.splitOnP_cons_eq_if_modifyHead, hsplit']

end Aokie.Lib.Lines
