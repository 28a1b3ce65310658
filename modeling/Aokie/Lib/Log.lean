import Mathlib

/-! An append-only log whose entries carry ascending keys, and the part of it between two cursors. -/

namespace Aokie.Lib.Log

variable {α : Type*} (key : α → ℕ)

def Ascending (log : List α) : Prop := log.Pairwise (key · < key ·)

def window (lo hi : ℕ) (log : List α) : List α := log.filter fun a => lo < key a ∧ key a ≤ hi

def cursor (start : ℕ) (read : List α) : ℕ := read.foldl (fun at_ a => max at_ (key a)) start

variable {key} {log : List α}

@[simp] lemma cursor_nil (start : ℕ) : cursor key start [] = start := rfl

@[simp] lemma cursor_cons (start : ℕ) (a : α) (read : List α) :
    cursor key start (a :: read) = cursor key (max start (key a)) read := rfl

lemma cursor_append (start : ℕ) (read more : List α) :
    cursor key start (read ++ more) = cursor key (cursor key start read) more := List.foldl_append

lemma le_cursor (start : ℕ) (read : List α) : start ≤ cursor key start read := by
  induction read generalizing start with
  | nil => exact le_rfl
  | cons a read ih => exact (le_max_left _ _).trans (ih _)

lemma mem_le_cursor {start : ℕ} {read : List α} {a : α} (ha : a ∈ read) : key a ≤ cursor key start read := by
  induction read generalizing start with
  | nil => simp at ha
  | cons b read ih =>
      rcases List.mem_cons.mp ha with rfl | ha
      · exact (le_max_right _ _).trans (le_cursor _ _)
      · exact ih ha

lemma cursor_mem (start : ℕ) (read : List α) :
    cursor key start read = start ∨ ∃ a ∈ read, cursor key start read = key a := by
  induction read generalizing start with
  | nil => exact .inl rfl
  | cons b read ih =>
      rcases ih (max start (key b)) with hstart | ⟨a, ha, hcursor⟩
      · rw [cursor_cons, hstart]
        rcases max_choice start (key b) with hmax | hmax
        · exact .inl hmax
        · exact .inr ⟨b, List.mem_cons_self, hmax⟩
      · exact .inr ⟨a, List.mem_cons_of_mem b ha, hcursor⟩

lemma window_self (lo : ℕ) : window key lo lo log = [] := by
  apply List.filter_eq_nil_iff.mpr
  intro a _
  simp only [decide_eq_true_eq]
  omega

lemma window_append (lo hi : ℕ) (front back : List α) :
    window key lo hi (front ++ back) = window key lo hi front ++ window key lo hi back := List.filter_append _ _

lemma window_concat {lo hi : ℕ} {a : α} (ha : hi < key a) : window key lo hi (log ++ [a]) = window key lo hi log := by
  rw [window_append]
  simp [window, Nat.not_le.mpr ha]

lemma window_append_window (h : Ascending key log) {lo mid hi : ℕ} (hlo : lo ≤ mid) (hhi : mid ≤ hi) :
    window key lo mid log ++ window key mid hi log = window key lo hi log := by
  induction log with
  | nil => rfl
  | cons a log ih =>
      obtain ⟨ha, hlog⟩ := List.pairwise_cons.mp h
      by_cases hmid : key a ≤ mid
      · rw [← List.singleton_append, window_append, window_append, window_append, List.append_assoc]
        have hskip : window key mid hi [a] = [] := by simp [window, Nat.not_lt.mpr hmid]
        have hkeep : window key lo mid [a] = window key lo hi [a] := by
          apply List.filter_congr
          intro b hb
          rw [List.mem_singleton.mp hb]
          simp only [hmid, hmid.trans hhi]
        rw [hskip, List.nil_append, ih hlog, hkeep]
      · -- nothing from here on is below the middle
        have hempty : window key lo mid (a :: log) = [] := by
          apply List.filter_eq_nil_iff.mpr
          intro b hb
          have hlt : mid < key b := by
            rcases List.mem_cons.mp hb with rfl | hb
            · omega
            · exact (Nat.lt_of_not_le hmid).trans (ha b hb)
          simp only [decide_eq_true_eq]
          omega
        rw [hempty, List.nil_append]
        apply List.filter_congr
        intro b hb
        have hlt : mid < key b := by
          rcases List.mem_cons.mp hb with rfl | hb
          · omega
          · exact (Nat.lt_of_not_le hmid).trans (ha b hb)
        simp only [decide_eq_decide]
        omega

lemma eq_window_of_prefix (h : Ascending key log) {since : ℕ} {read : List α}
    (hread : read <+: log.filter fun a => since < key a) : read = window key since (cursor key since read) log := by
  obtain ⟨more, hmore⟩ := hread
  have hascending : Ascending key (read ++ more) := by
    rw [hmore]
    exact h.sublist List.filter_sublist
  have hfilter : window key since (cursor key since read) log =
      (read ++ more).filter fun a => key a ≤ cursor key since read := by
    rw [hmore, List.filter_filter]
    apply List.filter_congr
    intro a _
    simp only [Bool.decide_and]
    exact Bool.and_comm _ _
  have hall : read.filter (fun a => key a ≤ cursor key since read) = read :=
    List.filter_eq_self.mpr fun a ha => by simpa using mem_le_cursor ha
  have hnone : more.filter (fun a => key a ≤ cursor key since read) = [] := by
    apply List.filter_eq_nil_iff.mpr
    intro b hb
    have hsince : since < key b := by
      have hmem : b ∈ log.filter fun a => since < key a := hmore ▸ List.mem_append_right read hb
      simpa using (List.mem_filter.mp hmem).2
    have hlater : ∀ a ∈ read, key a < key b := fun a ha => (List.pairwise_append.mp hascending).2.2 a ha b hb
    rcases @cursor_mem α key since read with hstart | ⟨a, ha, hcursor⟩
    · simpa [hstart] using hsince
    · simpa [hcursor] using hlater a ha
  rw [hfilter, List.filter_append, hall, hnone, List.append_nil]

section EachAfter

variable {P : List α → α → Prop}

def EachAfter (P : List α → α → Prop) (log : List α) : Prop := ∀ front a back, log = front ++ a :: back → P front a

lemma eachAfter_nil : EachAfter P [] := by
  intro front a back h
  simp at h

lemma eachAfter_concat {a : α} (h : EachAfter P log) (ha : P log a) : EachAfter P (log ++ [a]) := by
  intro front b back heq
  rcases List.eq_nil_or_concat back with rfl | ⟨back, c, rfl⟩
  · obtain ⟨rfl, hlast⟩ := List.append_inj' heq rfl
    obtain rfl := (List.cons.inj hlast).1
    exact ha
  · rw [List.concat_eq_append, ← List.cons_append, ← List.append_assoc] at heq
    exact h front b back (List.append_inj' heq rfl).1

end EachAfter

end Aokie.Lib.Log
