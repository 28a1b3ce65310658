import Mathlib

/-! Runs of a machine that reads inputs and writes outputs: what holds along a run, invariants, and two
machines run side by side. -/

namespace Aokie.Lib

variable {σ τ ι ω ε α β : Type*}

abbrev Machine (σ ι ω : Type*) := σ → ι → σ × ω

namespace Machine

variable (m : Machine σ ι ω)

def final : σ → List ι → σ
  | s, [] => s
  | s, i :: is => final (m s i).1 is

def outputs : σ → List ι → List ω
  | _, [] => []
  | s, i :: is => (m s i).2 :: outputs (m s i).1 is

def Along (C : σ → ι → Prop) : σ → List ι → Prop
  | _, [] => True
  | s, i :: is => C s i ∧ Along C (m s i).1 is

variable {m}

@[simp] lemma final_nil (s : σ) : m.final s [] = s := rfl

@[simp] lemma final_cons (s : σ) (i : ι) (is : List ι) : m.final s (i :: is) = m.final (m s i).1 is := rfl

@[simp] lemma outputs_nil (s : σ) : m.outputs s [] = [] := rfl

@[simp] lemma outputs_cons (s : σ) (i : ι) (is : List ι) :
    m.outputs s (i :: is) = (m s i).2 :: m.outputs (m s i).1 is := rfl

@[simp] lemma along_nil (C : σ → ι → Prop) (s : σ) : m.Along C s [] := trivial

@[simp] lemma along_cons {C : σ → ι → Prop} {s : σ} {i : ι} {is : List ι} :
    m.Along C s (i :: is) ↔ C s i ∧ m.Along C (m s i).1 is := Iff.rfl

lemma final_append (s : σ) (is js : List ι) : m.final s (is ++ js) = m.final (m.final s is) js := by
  induction is generalizing s with
  | nil => rfl
  | cons i is ih => exact ih (m s i).1

lemma outputs_append (s : σ) (is js : List ι) :
    m.outputs s (is ++ js) = m.outputs s is ++ m.outputs (m.final s is) js := by
  induction is generalizing s with
  | nil => rfl
  | cons i is ih => rw [List.cons_append, outputs_cons, outputs_cons, ih, List.cons_append, final_cons]

lemma along_append {C : σ → ι → Prop} {s : σ} {is js : List ι} :
    m.Along C s (is ++ js) ↔ m.Along C s is ∧ m.Along C (m.final s is) js := by
  induction is generalizing s with
  | nil => simp
  | cons i is ih => simp [ih, and_assoc]

lemma Along.mono {C D : σ → ι → Prop} {s : σ} {is : List ι} (hC : m.Along C s is) (h : ∀ s i, C s i → D s i) :
    m.Along D s is := by
  induction is generalizing s with
  | nil => trivial
  | cons i is ih => exact ⟨h s i hC.1, ih hC.2⟩

lemma along_of_forall {p : ι → Prop} {is : List ι} (h : ∀ i ∈ is, p i) {s : σ} : m.Along (fun _ => p) s is := by
  induction is generalizing s with
  | nil => trivial
  | cons i is ih =>
      obtain ⟨hi, his⟩ := List.forall_mem_cons.mp h
      exact ⟨hi, ih his⟩

instance Along.decidable (C : σ → ι → Prop) [∀ s i, Decidable (C s i)] :
    ∀ s is, Decidable (m.Along C s is)
  | _, [] => .isTrue trivial
  | s, i :: is => @instDecidableAnd _ _ _ (Along.decidable C (m s i).1 is)

theorem invariant {C : σ → ι → Prop} {P : σ → Prop}
    (hstep : ∀ s i, C s i → P s → P (m s i).1) {s : σ} {is : List ι} (hC : m.Along C s is) (hs : P s) :
    P (m.final s is) := by
  induction is generalizing s with
  | nil => exact hs
  | cons i is ih => exact ih hC.2 (hstep s i hC.1 hs)

theorem always {P : σ → Prop} (hstep : ∀ s i, P s → P (m s i).1) {s : σ} (hs : P s) (is : List ι) :
    P (m.final s is) := by
  induction is generalizing s with
  | nil => exact hs
  | cons i is ih => exact ih (hstep s i hs)

/-- What a step shows in every state that keeps an invariant, every step of the run shows. -/
theorem along_of_invariant {C D : σ → ι → Prop} {P : σ → Prop}
    (hstep : ∀ s i, C s i → P s → D s i ∧ P (m s i).1) {s : σ} {is : List ι} (hC : m.Along C s is) (hs : P s) :
    m.Along D s is := by
  induction is generalizing s with
  | nil => trivial
  | cons i is ih =>
      obtain ⟨hD, hP⟩ := hstep s i hC.1 hs
      exact ⟨hD, ih hC.2 hP⟩

/-- Two machines whose steps keep a relation and have related outputs have related outputs on whole runs. -/
theorem outputs_forall₂ {υ : Type*} {n : Machine τ ι υ} {C : σ → ι → Prop} {R : σ → τ → Prop} {Q : ω → υ → Prop}
    (hstep : ∀ s t i, C s i → R s t → R (m s i).1 (n t i).1 ∧ Q (m s i).2 (n t i).2)
    {s : σ} {t : τ} {is : List ι} (hC : m.Along C s is) (hR : R s t) :
    List.Forall₂ Q (m.outputs s is) (n.outputs t is) := by
  induction is generalizing s t with
  | nil => exact .nil
  | cons i is ih =>
      obtain ⟨hnext, hout⟩ := hstep s t i hC.1 hR
      exact .cons hout (ih hC.2 hnext)

/-- An observer reads what a machine writes. If each step keeps the two in relation and shows the observer only
what it accepts, so does the whole run. -/
theorem observed {n : Machine τ β α} {C : σ → ι → Prop} {D : τ → β → Prop} {R : τ → σ → Prop}
    {m : Machine σ ι (List β)}
    (hstep : ∀ t s i, C s i → R t s → n.Along D t (m s i).2 ∧ R (n.final t (m s i).2) (m s i).1)
    {t : τ} {s : σ} {is : List ι} (hC : m.Along C s is) (hR : R t s) :
    n.Along D t (m.outputs s is).flatten ∧ R (n.final t (m.outputs s is).flatten) (m.final s is) := by
  induction is generalizing t s with
  | nil => exact ⟨trivial, hR⟩
  | cons i is ih =>
      obtain ⟨hseen, hnext⟩ := hstep t s i hC.1 hR
      obtain ⟨hrest, hfinal⟩ := ih hC.2 hnext
      rw [outputs_cons, List.flatten_cons, along_append, final_append]
      exact ⟨⟨hseen, hrest⟩, hfinal⟩

/-- The `for` loop that gathers what its steps give. -/
def collect (m : Machine σ ι (List β)) : σ → List ι → σ × List β
  | s, [] => (s, [])
  | s, i :: is => ((collect m (m s i).1 is).1, (m s i).2 ++ (collect m (m s i).1 is).2)

@[simp] lemma collect_nil (m : Machine σ ι (List β)) (s : σ) : m.collect s [] = (s, []) := rfl

lemma collect_cons (m : Machine σ ι (List β)) (s : σ) (i : ι) (is : List ι) :
    m.collect s (i :: is) = (m.collect (m s i).1 is).map id ((m s i).2 ++ ·) := rfl

lemma collect_append (m : Machine σ ι (List β)) (s : σ) (is js : List ι) :
    m.collect s (is ++ js) = (m.collect (m.collect s is).1 js).map id ((m.collect s is).2 ++ ·) := by
  induction is generalizing s with
  | nil => rfl
  | cons i is ih =>
      rw [List.cons_append, collect_cons, ih, collect_cons]
      refine Prod.ext rfl ?_
      simp

lemma collect_flatMap {κ : Type*} (m : Machine σ κ (List β)) (n : Machine σ ι (List β)) {f : ι → List κ}
    (h : ∀ s i, m.collect s (f i) = n s i) (s : σ) (is : List ι) : m.collect s (is.flatMap f) = n.collect s is := by
  induction is generalizing s with
  | nil => rfl
  | cons i is ih => rw [List.flatMap_cons, collect_append, h, ih, collect_cons]

lemma collect_eq (m : Machine σ ι (List β)) (s : σ) (is : List ι) :
    m.collect s is = (m.final s is, (m.outputs s is).flatten) := by
  induction is generalizing s with
  | nil => rfl
  | cons i is ih => simp [collect_cons, ih]

end Machine

/-- The `for` loop of a fallible method: the first error ends it and keeps the state reached. -/
def tryFor (step : σ → α → σ × Except ε (List β)) : σ → List α → σ × Except ε (List β)
  | s, [] => (s, .ok [])
  | s, a :: as =>
    match step s a with
    | (s, .error e) => (s, .error e)
    | (s, .ok out) => (tryFor step s as).map id (Except.map (out ++ ·))

lemma tryFor_cons_ok (step : σ → α → σ × Except ε (List β)) {s t : σ} {a : α} {out : List β}
    (h : step s a = (t, .ok out)) (as : List α) :
    tryFor step s (a :: as) = (tryFor step t as).map id (Except.map (out ++ ·)) := by
  simp only [tryFor, h]

lemma tryFor_ok {step : σ → α → σ × Except ε (List β)} {C : σ → α → Prop} {P : σ → Prop}
    (hstep : ∀ s a, C s a → P s → ∃ t out, step s a = (t, .ok out) ∧ P t) {s : σ} {as : List α}
    (hC : Machine.Along step C s as) (hs : P s) : ∃ t out, tryFor step s as = (t, .ok out) ∧ P t := by
  induction as generalizing s with
  | nil => exact ⟨s, [], rfl, hs⟩
  | cons a as ih =>
      obtain ⟨t, out, ht, hP⟩ := hstep s a hC.1 hs
      obtain ⟨-, hrest⟩ := Machine.along_cons.mp hC
      rw [ht] at hrest
      obtain ⟨u, rest, hu, hQ⟩ := ih hrest hP
      exact ⟨u, out ++ rest, by rw [tryFor_cons_ok step ht, hu]; rfl, hQ⟩

@[simp] lemma tryFor_singleton (step : σ → α → σ × Except ε (List β)) (s : σ) (a : α) :
    tryFor step s [a] = step s a := by
  rcases hstep : step s a with ⟨t, out⟩
  cases out <;> simp [tryFor, hstep, Except.map]

end Aokie.Lib
