import Aokie.Lib.Json

/-! The canonical form of a JSON value, with the keys of every object in order: two values are equal as JSON exactly
when they have the same one. -/

namespace Aokie.Lib.Json

mutual

def Distinct : Json → Prop
  | array items => DistinctItems items
  | object fields => (fields.map Prod.fst).Nodup ∧ DistinctFields fields
  | _ => True

def DistinctItems : List Json → Prop
  | [] => True
  | v :: vs => v.Distinct ∧ DistinctItems vs

def DistinctFields : List (String × Json) → Prop
  | [] => True
  | (_, v) :: fields => v.Distinct ∧ DistinctFields fields

end

mutual

def Same : Json → Json → Prop
  | null, null => True
  | bool b, bool b' => b = b'
  | number n, number m => n = m
  | string s, string t => s = t
  | array vs, array ws => SameItems vs ws
  | object fields, object fields' => fields.length = fields'.length ∧ SameFields fields fields'
  | _, _ => False

def SameItems : List Json → List Json → Prop
  | [], [] => True
  | v :: vs, w :: ws => Same v w ∧ SameItems vs ws
  | _, _ => False

def SameFields : List (String × Json) → List (String × Json) → Prop
  | [], _ => True
  | (key, v) :: fields, fields' => (∃ w, (key, w) ∈ fields' ∧ Same v w) ∧ SameFields fields fields'

end

def keyLe {α : Type} (a b : String × α) : Prop := a.1 ≤ b.1

instance {α : Type} : DecidableRel (@keyLe α) := fun a b => inferInstanceAs (Decidable (a.1 ≤ b.1))

instance {α : Type} : Std.Total (@keyLe α) := ⟨fun a b => le_total a.1 b.1⟩

instance {α : Type} : IsTrans (String × α) keyLe := ⟨fun _ _ _ => le_trans⟩

def sortByKey {α : Type} (entries : List (String × α)) : List (String × α) := entries.insertionSort keyLe

mutual

def sorted : Json → Json
  | array items => array (sortedItems items)
  | object fields => object (sortByKey (sortedFields fields))
  | v => v

def sortedItems : List Json → List Json
  | [] => []
  | v :: vs => v.sorted :: sortedItems vs

def sortedFields : List (String × Json) → List (String × Json)
  | [] => []
  | (key, v) :: fields => (key, v.sorted) :: sortedFields fields

end

section Keys

variable {α : Type} {entries entries' : List (String × α)}

lemma perm_sortByKey (entries : List (String × α)) : (sortByKey entries).Perm entries := List.perm_insertionSort _ _

lemma eq_of_key (h : (entries.map Prod.fst).Nodup) {a b : String × α} (ha : a ∈ entries) (hb : b ∈ entries)
    (hkey : a.1 = b.1) : a = b := List.inj_on_of_nodup_map h ha hb hkey

lemma sortByKey_eq_of_perm (h : (entries.map Prod.fst).Nodup) (hperm : entries.Perm entries') :
    sortByKey entries = sortByKey entries' := by
  have hsorted := (perm_sortByKey entries).trans (hperm.trans (perm_sortByKey entries').symm)
  refine List.Perm.eq_of_pairwise ?_ (List.pairwise_insertionSort keyLe _) (List.pairwise_insertionSort keyLe _) hsorted
  intro a b ha hb hab hba
  apply eq_of_key h
  · exact (perm_sortByKey entries).mem_iff.mp ha
  · exact hperm.mem_iff.mpr ((perm_sortByKey entries').mem_iff.mp hb)
  · exact le_antisymm hab hba

lemma map_sortByKey {β : Type} (f : String × α → String × β) (hf : ∀ a, (f a).1 = a.1) (entries : List (String × α)) :
    (sortByKey entries).map f = sortByKey (entries.map f) := by
  apply List.map_insertionSort
  intro a _ b _
  rw [keyLe, keyLe, hf, hf]

end Keys

section Values

variable {vs ws : List Json} {fields fields' : List (String × Json)}

lemma sortedItems_eq : ∀ vs : List Json, sortedItems vs = vs.map sorted
  | [] => rfl
  | v :: vs => by rw [sortedItems, sortedItems_eq vs, List.map_cons]

lemma sortedFields_eq : ∀ fields : List (String × Json), sortedFields fields = fields.map fun p => (p.1, p.2.sorted)
  | [] => rfl
  | (key, v) :: fields => by rw [sortedFields, sortedFields_eq fields, List.map_cons]

lemma keys_sortedFields (fields : List (String × Json)) : (sortedFields fields).map Prod.fst = fields.map Prod.fst := by
  rw [sortedFields_eq, List.map_map]
  rfl

lemma distinctFields_iff : DistinctFields fields ↔ ∀ p ∈ fields, p.2.Distinct := by
  induction fields with
  | nil => simp [DistinctFields]
  | cons p fields ih => simp [DistinctFields, ih]

lemma sameFields_iff : SameFields fields fields' ↔ ∀ p ∈ fields, ∃ w, (p.1, w) ∈ fields' ∧ Same p.2 w := by
  induction fields with
  | nil => simp [SameFields]
  | cons p fields ih => simp [SameFields, ih]

lemma perm_of_subset {α : Type} {entries entries' : List (String × α)} (h : (entries.map Prod.fst).Nodup)
    (hlen : entries.length = entries'.length) (hsub : entries ⊆ entries') : entries.Perm entries' := by
  have hnodup : entries.Nodup := List.Nodup.of_map _ h
  apply (List.subperm_of_subset hnodup hsub).perm_of_length_le
  exact hlen.ge

mutual

theorem same_iff : ∀ v w : Json, v.Distinct → w.Distinct → (v.Same w ↔ v.sorted = w.sorted)
  | .array vs, w, hv, hw => by
      cases w with
      | array ws =>
          rw [Same, sorted, sorted, array.injEq]
          exact sameItems_iff vs ws hv hw
      | null | bool | number | string | object => simp [Same, sorted]
  | .object fields, w, hv, hw => by
      cases w with
      | object fields' =>
          rw [Distinct] at hv hw
          obtain ⟨hkeys, hvalues⟩ := hv
          obtain ⟨hkeys', hvalues'⟩ := hw
          rw [distinctFields_iff] at hvalues'
          have hfields := same_iff_fields fields hvalues
          rw [← keys_sortedFields] at hkeys
          rw [Same, sorted, sorted, object.injEq, sameFields_iff]
          constructor
          · rintro ⟨hlen, hsame⟩
            apply sortByKey_eq_of_perm hkeys
            apply perm_of_subset hkeys
            · simpa [sortedFields_eq] using hlen
            · rw [sortedFields_eq, sortedFields_eq]
              intro q hq
              obtain ⟨p, hp, rfl⟩ := List.mem_map.mp hq
              obtain ⟨w, hw, hpw⟩ := hsame p hp
              exact List.mem_map.mpr ⟨(p.1, w), hw, by rw [(hfields p hp w (hvalues' _ hw)).mp hpw]⟩
          · intro heq
            have hperm := (perm_sortByKey (sortedFields fields)).symm.trans
              (heq ▸ perm_sortByKey (sortedFields fields'))
            rw [sortedFields_eq, sortedFields_eq] at hperm
            refine ⟨by simpa using hperm.length_eq, ?_⟩
            intro p hp
            have hin := hperm.mem_iff.mp (List.mem_map_of_mem hp)
            obtain ⟨q, hq, hpq⟩ := List.mem_map.mp hin
            obtain ⟨hkey, hvalue⟩ := Prod.mk.inj hpq
            refine ⟨q.2, hkey ▸ hq, ?_⟩
            exact (hfields p hp q.2 (hvalues' q hq)).mpr hvalue.symm
      | null | bool | number | string | array => simp [Same, sorted]
  | .null, w, _, _ => by cases w <;> simp [Same, sorted]
  | .bool b, w, _, _ => by cases w <;> simp [Same, sorted]
  | .number n, w, _, _ => by cases w <;> simp [Same, sorted]
  | .string s, w, _, _ => by cases w <;> simp [Same, sorted]

theorem sameItems_iff : ∀ vs ws : List Json, DistinctItems vs → DistinctItems ws →
    (SameItems vs ws ↔ sortedItems vs = sortedItems ws)
  | [], [], _, _ => by simp [SameItems]
  | [], _ :: _, _, _ => by simp [SameItems, sortedItems]
  | _ :: _, [], _, _ => by simp [SameItems, sortedItems]
  | v :: vs, w :: ws, hv, hw => by
      rw [DistinctItems] at hv hw
      rw [SameItems, sortedItems, sortedItems, List.cons.injEq, same_iff v w hv.1 hw.1, sameItems_iff vs ws hv.2 hw.2]

theorem same_iff_fields : ∀ fields : List (String × Json), DistinctFields fields →
    ∀ p ∈ fields, ∀ w : Json, w.Distinct → (p.2.Same w ↔ p.2.sorted = w.sorted)
  | [], _, _, hp, _, _ => absurd hp List.not_mem_nil
  | (key, v) :: fields, h, p, hp, w, hw => by
      rw [DistinctFields] at h
      rcases List.mem_cons.mp hp with rfl | hp
      · exact same_iff v w h.1 hw
      · exact same_iff_fields fields h.2 p hp w hw

end

lemma sortByKey_sortByKey {α : Type} (entries : List (String × α)) :
    sortByKey (sortByKey entries) = sortByKey entries :=
  (List.pairwise_insertionSort keyLe entries).insertionSort_eq

lemma sortedFields_sortByKey (fields : List (String × Json)) :
    sortedFields (sortByKey fields) = sortByKey (sortedFields fields) := by
  rw [sortedFields_eq, sortedFields_eq, map_sortByKey (fun p : String × Json => (p.1, p.2.sorted)) fun _ => rfl]

mutual

theorem sorted_sorted : ∀ v : Json, v.sorted.sorted = v.sorted
  | .array vs => by rw [sorted, sorted, sortedItems_sorted vs]
  | .object fields => by
      have hvalues := sortedFields_sorted fields
      rw [sorted, sorted, sortedFields_sortByKey, hvalues, sortByKey_sortByKey]
  | .null | .bool _ | .number _ | .string _ => rfl

theorem sortedItems_sorted : ∀ vs : List Json, sortedItems (sortedItems vs) = sortedItems vs
  | [] => rfl
  | v :: vs => by rw [sortedItems, sortedItems, sorted_sorted v, sortedItems_sorted vs]

theorem sortedFields_sorted : ∀ fields : List (String × Json), sortedFields (sortedFields fields) = sortedFields fields
  | [] => rfl
  | (key, v) :: fields => by rw [sortedFields, sortedFields, sorted_sorted v, sortedFields_sorted fields]

end

mutual

theorem distinct_sorted : ∀ v : Json, v.Distinct → v.sorted.Distinct
  | .array vs, h => by
      rw [Distinct] at h
      rw [sorted, Distinct]
      exact distinct_sortedItems vs h
  | .object fields, h => by
      rw [Distinct] at h
      rw [sorted, Distinct]
      have hperm := perm_sortByKey (sortedFields fields)
      refine ⟨?_, ?_⟩
      · rw [(hperm.map Prod.fst).nodup_iff, keys_sortedFields]
        exact h.1
      · have hvalues := distinctFields_iff.mp (distinct_sortedFields fields h.2)
        apply distinctFields_iff.mpr
        intro p hp
        exact hvalues p (hperm.mem_iff.mp hp)
  | .null, h | .bool _, h | .number _, h | .string _, h => h

theorem distinct_sortedItems : ∀ vs : List Json, DistinctItems vs → DistinctItems (sortedItems vs)
  | [], h => h
  | v :: vs, h => by
      rw [DistinctItems] at h
      rw [sortedItems, DistinctItems]
      exact ⟨distinct_sorted v h.1, distinct_sortedItems vs h.2⟩

theorem distinct_sortedFields : ∀ fields : List (String × Json), DistinctFields fields →
    DistinctFields (sortedFields fields)
  | [], h => h
  | (key, v) :: fields, h => by
      rw [DistinctFields] at h
      rw [sortedFields, DistinctFields]
      exact ⟨distinct_sorted v h.1, distinct_sortedFields fields h.2⟩

end

end Values

end Aokie.Lib.Json
