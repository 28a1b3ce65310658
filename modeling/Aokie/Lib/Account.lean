import Aokie.Lib.Run

/-! Permits along a run: a use takes the permit, and only a grant gives it back. -/

namespace Aokie.Lib.Machine

open scoped Classical

variable {σ ι ω : Type*} {m : Machine σ ι ω} {P : σ → Prop} {U G : σ → ι → Prop} {F : σ → Prop} {s : σ}

noncomputable def count (m : Machine σ ι ω) (C : σ → ι → Prop) : σ → List ι → ℕ
  | _, [] => 0
  | s, i :: is => (if C s i then 1 else 0) + count m C (m s i).1 is

@[simp] lemma count_nil (C : σ → ι → Prop) (s : σ) : m.count C s [] = 0 := rfl

@[simp] lemma count_cons (C : σ → ι → Prop) (s : σ) (i : ι) (is : List ι) :
    m.count C s (i :: is) = (if C s i then 1 else 0) + m.count C (m s i).1 is := rfl

lemma count_eq_zero {C : σ → ι → Prop} {is : List ι} (h : m.Along (fun s i => ¬C s i) s is) : m.count C s is = 0 := by
  induction is generalizing s with
  | nil => rfl
  | cons i is ih => rw [count_cons, if_neg h.1, ih h.2]

/-- Where a use needs the permit and takes it, and only a grant gives it back, there are no more uses than grants and
the one permit that may be there at the start. -/
theorem uses_le_grants (hkeep : ∀ s i, P s → P (m s i).1) (huse : ∀ s i, P s → U s i → F s ∧ ¬F (m s i).1)
    (hgrant : ∀ s i, P s → ¬F s → F (m s i).1 → G s i) (hs : P s) (is : List ι) :
    m.count U s is ≤ (if F s then 1 else 0) + m.count G s is := by
  induction is generalizing s with
  | nil => simp
  | cons i is ih =>
      have hrest := ih (hkeep s i hs)
      rw [count_cons, count_cons]
      by_cases hused : U s i
      · obtain ⟨hfree, hnot⟩ := huse s i hs hused
        rw [if_neg hnot] at hrest
        rw [if_pos hused, if_pos hfree]
        omega
      · rw [if_neg hused]
        by_cases hnext : F (m s i).1
        · by_cases hfree : F s
          · rw [if_pos hnext] at hrest
            rw [if_pos hfree]
            omega
          · rw [if_pos hnext] at hrest
            rw [if_pos (hgrant s i hs hfree hnext)]
            omega
        · rw [if_neg hnext] at hrest
          omega

end Aokie.Lib.Machine
