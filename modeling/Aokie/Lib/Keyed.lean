import Mathlib

/-! Finite maps as lists of entries with each key once: what a hash map of a program holds, in some order. -/

namespace Aokie.Lib

structure Keyed (κ ν : Type*) where
  entries : List (κ × ν)
  nodup : (entries.map Prod.fst).Nodup

namespace Keyed

variable {κ ν : Type*}

def empty : Keyed κ ν := ⟨[], List.nodup_nil⟩

instance : Inhabited (Keyed κ ν) := ⟨empty⟩

def size (m : Keyed κ ν) : ℕ := m.entries.length

def keys (m : Keyed κ ν) : List κ := m.entries.map Prod.fst

def values (m : Keyed κ ν) : List ν := m.entries.map Prod.snd

lemma nodup_filter {l : List (κ × ν)} (p : κ × ν → Bool) (h : (l.map Prod.fst).Nodup) :
    ((l.filter p).map Prod.fst).Nodup := h.sublist (List.filter_sublist.map _)

def retain (m : Keyed κ ν) (p : κ → ν → Bool) : Keyed κ ν :=
  ⟨m.entries.filter fun e => p e.1 e.2, nodup_filter _ m.nodup⟩

def mapValues (m : Keyed κ ν) (f : κ → ν → ν) : Keyed κ ν :=
  ⟨m.entries.map fun e => (e.1, f e.1 e.2), by
    rw [List.map_map]
    exact m.nodup⟩

variable [DecidableEq κ]

def get (m : Keyed κ ν) (k : κ) : Option ν := m.entries.lookup k

def contains (m : Keyed κ ν) (k : κ) : Bool := (m.get k).isSome

def erase (m : Keyed κ ν) (k : κ) : Keyed κ ν := m.retain fun k' _ => k' ≠ k

def insert (m : Keyed κ ν) (k : κ) (v : ν) : Keyed κ ν :=
  ⟨(k, v) :: (m.erase k).entries, by
    rw [List.map_cons, List.nodup_cons]
    refine ⟨?_, (m.erase k).nodup⟩
    intro hk
    obtain ⟨e, he, rfl⟩ := List.mem_map.mp hk
    simpa using (List.mem_filter.mp he).2⟩

/-- `get_mut`. -/
def modify (m : Keyed κ ν) (k : κ) (f : ν → ν) : Keyed κ ν := m.mapValues fun k' v => if k' = k then f v else v

section Lookup

variable {l : List (κ × ν)} {k : κ} {v : ν}

lemma mem_of_lookup (h : l.lookup k = some v) : (k, v) ∈ l := by
  obtain ⟨front, back, rfl, -⟩ := List.lookup_eq_some_iff.mp h
  simp

lemma lookup_of_mem (hnodup : (l.map Prod.fst).Nodup) (h : (k, v) ∈ l) : l.lookup k = some v := by
  induction l with
  | nil => simp at h
  | cons e l ih =>
      obtain ⟨hfresh, hnodup⟩ := List.nodup_cons.mp hnodup
      rcases List.mem_cons.mp h with rfl | h
      · simp
      · have hne : k ≠ e.1 := by
          rintro rfl
          exact hfresh (List.mem_map.mpr ⟨_, h, rfl⟩)
        rw [List.lookup_cons, beq_false_of_ne hne]
        exact ih hnodup h

end Lookup

section Get

variable {m : Keyed κ ν} {k k' : κ} {v v' : ν}

lemma get_eq_some_iff : m.get k = some v ↔ (k, v) ∈ m.entries := ⟨mem_of_lookup, lookup_of_mem m.nodup⟩

@[simp] lemma contains_iff : m.contains k = true ↔ ∃ v, m.get k = some v := Option.isSome_iff_exists

lemma contains_eq_false_iff : m.contains k = false ↔ m.get k = none := by simp [contains]

@[simp] lemma get_empty (k : κ) : (empty : Keyed κ ν).get k = none := rfl

@[simp] lemma get_retain (m : Keyed κ ν) (p : κ → ν → Bool) (k : κ) : (m.retain p).get k = (m.get k).filter (p k) := by
  apply Option.ext
  intro v
  rw [get_eq_some_iff, Option.filter_eq_some_iff, get_eq_some_iff]
  exact List.mem_filter

@[simp] lemma get_erase (m : Keyed κ ν) (k k' : κ) : (m.erase k).get k' = if k' = k then none else m.get k' := by
  rw [erase, get_retain]
  by_cases h : k' = k
  · cases m.get k' <;> simp [h]
  · cases m.get k' <;> simp [h]

@[simp] lemma get_insert (m : Keyed κ ν) (k k' : κ) (v : ν) :
    (m.insert k v).get k' = if k' = k then some v else m.get k' := by
  by_cases h : k' = k
  · simp [get, insert, h]
  · have herase := get_erase m k k'
    rw [if_neg h] at herase ⊢
    rw [← herase, get, insert, List.lookup_cons, beq_false_of_ne h]
    rfl

@[simp] lemma get_mapValues (m : Keyed κ ν) (f : κ → ν → ν) (k : κ) : (m.mapValues f).get k = (m.get k).map (f k) := by
  apply Option.ext
  intro v
  rw [get_eq_some_iff, Option.map_eq_some_iff]
  constructor
  · intro h
    obtain ⟨e, he, heq⟩ := List.mem_map.mp h
    obtain ⟨rfl, rfl⟩ := Prod.mk.inj heq
    exact ⟨e.2, get_eq_some_iff.mpr he, rfl⟩
  · rintro ⟨w, hw, rfl⟩
    exact List.mem_map_of_mem (f := fun e => (e.1, f e.1 e.2)) (get_eq_some_iff.mp hw)

@[simp] lemma get_modify (m : Keyed κ ν) (k k' : κ) (f : ν → ν) :
    (m.modify k f).get k' = if k' = k then (m.get k').map f else m.get k' := by
  rw [modify, get_mapValues]
  by_cases h : k' = k
  · simp [h]
  · cases m.get k' <;> simp [h]

lemma mem_keys_iff : k ∈ m.keys ↔ ∃ v, m.get k = some v := by
  simp only [keys, List.mem_map, get_eq_some_iff]
  constructor
  · rintro ⟨e, he, rfl⟩
    exact ⟨e.2, he⟩
  · rintro ⟨v, hv⟩
    exact ⟨(k, v), hv, rfl⟩

end Get

end Keyed

end Aokie.Lib
