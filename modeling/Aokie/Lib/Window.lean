import Mathlib

/-! Sliding windows: where each entry finds only so many others within the span before it, every window of that span
holds only so many. -/

namespace Aokie.Lib

def recent (span now : ℕ) (times : List ℕ) : List ℕ := times.filter fun time => now - time < span

def Spaced (n span : ℕ) (times : List ℕ) : Prop :=
  ∀ front time back, times = front ++ time :: back → (recent span time front).length < n

section Recent

variable {n span now later start : ℕ} {times more : List ℕ}

lemma recent_append (times more : List ℕ) : recent span now (times ++ more) =
    recent span now times ++ recent span now more :=
  List.filter_append times more

lemma recent_recent (h : now ≤ later) : recent span later (recent span now times) = recent span later times := by
  rw [recent, recent, List.filter_filter]
  apply List.filter_congr
  intro time _
  simp only [Bool.and_eq_decide, decide_eq_decide, decide_eq_true_eq]
  omega

lemma mem_recent {time : ℕ} : time ∈ recent span now times ↔ time ∈ times ∧ now - time < span := by
  simp [recent]

lemma dropWhile_eq_recent (h : times.Pairwise (· ≤ ·)) :
    times.dropWhile (fun time => decide (span ≤ now - time)) = recent span now times := by
  induction times with
  | nil => rfl
  | cons time times ih =>
      obtain ⟨hfirst, hrest⟩ := List.pairwise_cons.1 h
      by_cases hold : span ≤ now - time
      · rw [List.dropWhile_cons_of_pos (by simpa using hold), ih hrest, recent, recent,
          List.filter_cons_of_neg (by simpa using hold)]
      · rw [List.dropWhile_cons_of_neg (by simpa using hold)]
        symm
        apply List.filter_eq_self.2
        intro other hother
        rw [decide_eq_true_eq]
        rcases List.mem_cons.1 hother with rfl | hother
        · omega
        · have := hfirst other hother
          omega

lemma Spaced.nil : Spaced n span [] := by
  rintro front time back heq
  simp at heq

lemma Spaced.concat {time : ℕ} (h : Spaced n span times) (hfew : (recent span time times).length < n) :
    Spaced n span (times ++ [time]) := by
  intro front other back heq
  rcases List.eq_nil_or_concat back with rfl | ⟨rest, last, rfl⟩
  · obtain ⟨rfl, hlast⟩ := List.append_inj' heq rfl
    obtain rfl := List.singleton_inj.1 hlast
    exact hfew
  · rw [List.concat_eq_append, ← List.cons_append, ← List.append_assoc] at heq
    obtain ⟨hsplit, -⟩ := List.append_inj' heq rfl
    exact h front other rest hsplit

lemma Spaced.front (h : Spaced n span (times ++ more)) : Spaced n span times := by
  rintro front time back rfl
  exact h front time (back ++ more) (by simp)

theorem Spaced.window (h : Spaced n span times) (start : ℕ) :
    (times.filter fun time => start ≤ time ∧ time < start + span).length ≤ n := by
  induction times using List.reverseRecOn with
  | nil => simp
  | append_singleton times time ih =>
      rw [List.filter_append, List.length_append]
      by_cases hin : start ≤ time ∧ time < start + span
      · -- the others of the window are recent for the last one of it
        have hfew := h times time [] rfl
        have hothers :
            (times.filter fun time => start ≤ time ∧ time < start + span).length ≤ (recent span time times).length := by
          rw [recent, ← List.countP_eq_length_filter, ← List.countP_eq_length_filter]
          apply List.countP_mono_left
          intro other _ hother
          simp only [decide_eq_true_eq] at hother ⊢
          omega
        simp only [List.filter_cons, hin, and_self, decide_true, if_true, List.filter_nil, List.length_cons,
          List.length_nil]
        omega
      · have hearlier := ih h.front
        simp only [List.filter_cons, hin, decide_false, Bool.false_eq_true, if_false, List.filter_nil, List.length_nil]
        omega

end Recent

end Aokie.Lib
