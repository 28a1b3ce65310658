import Mathlib

/-! A table of rows under atomic statements: rows changed where a condition holds, rows deleted, and a row added
unless its key is taken. -/

namespace Aokie.Lib.Table

variable {ρ κ : Type*}

def update (p : ρ → Bool) (f : ρ → ρ) (rows : List ρ) : List ρ := rows.map fun row => if p row then f row else row

def delete (p : ρ → Bool) (rows : List ρ) : List ρ := rows.filter fun row => !p row

def hasKey [DecidableEq κ] (key : ρ → κ) (k : κ) (rows : List ρ) : Bool := rows.any fun row => key row = k

/-- The `UNIQUE` constraint. -/
def UniqueKeys (key : ρ → κ) (rows : List ρ) : Prop := (rows.map key).Nodup

variable {p : ρ → Bool} {f : ρ → ρ} {key : ρ → κ} {rows : List ρ} {row other : ρ}

lemma mem_update : row ∈ update p f rows ↔ ∃ old ∈ rows, (if p old then f old else old) = row := by
  simp [update]

lemma mem_delete : row ∈ delete p rows ↔ row ∈ rows ∧ p row = false := by
  simp [delete]

lemma mem_update_of_not (h : row ∈ rows) (hp : p row = false) : row ∈ update p f rows := by
  apply mem_update.mpr
  exact ⟨row, h, by simp [hp]⟩

lemma mem_update_of (h : row ∈ rows) (hp : p row = true) : f row ∈ update p f rows := by
  apply mem_update.mpr
  exact ⟨row, h, by simp [hp]⟩

lemma map_update (hf : ∀ row, key (f row) = key row) : (update p f rows).map key = rows.map key := by
  induction rows with
  | nil => rfl
  | cons first rest ih =>
      simp only [update, List.map_cons] at ih ⊢
      rw [ih]
      split_ifs <;> simp [hf]

lemma UniqueKeys.eq (h : UniqueKeys key rows) (hrow : row ∈ rows) (hother : other ∈ rows)
    (hkey : key row = key other) : row = other := List.inj_on_of_nodup_map h hrow hother hkey

lemma UniqueKeys.update (h : UniqueKeys key rows) (hf : ∀ row, key (f row) = key row) :
    UniqueKeys key (Table.update p f rows) := by
  rw [UniqueKeys, map_update hf]
  exact h

lemma UniqueKeys.delete (h : UniqueKeys key rows) : UniqueKeys key (Table.delete p rows) :=
  h.sublist (List.filter_sublist.map key)

variable [DecidableEq κ] {k : κ}

lemma hasKey_iff : hasKey key k rows = true ↔ ∃ row ∈ rows, key row = k := by
  simp [hasKey]

lemma UniqueKeys.countP_le_one (h : UniqueKeys key rows) (hp : ∀ row, p row = true → key row = k) :
    rows.countP p ≤ 1 := by
  calc rows.countP p ≤ rows.countP fun row => key row == k := by
        apply List.countP_mono_left
        intro row _ hrow
        simpa using hp row hrow
    _ = (rows.map key).count k := by
        rw [List.count, List.countP_map]
        rfl
    _ ≤ 1 := List.nodup_iff_count_le_one.mp h k

lemma UniqueKeys.append (h : UniqueKeys key rows) (hnew : ¬hasKey key (key row) rows = true) :
    UniqueKeys key (rows ++ [row]) := by
  rw [UniqueKeys, List.map_append, List.nodup_append]
  refine ⟨h, by simp, ?_⟩
  intro k hk k' hk'
  obtain ⟨old, hold, rfl⟩ := List.mem_map.mp hk
  obtain rfl : k' = key row := by simpa using hk'
  intro heq
  exact hnew (hasKey_iff.mpr ⟨old, hold, heq⟩)

end Aokie.Lib.Table
