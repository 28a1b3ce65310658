import Mathlib

/-! Regular expressions with word boundaries and anchors, read at a place in a text: where each match can end. -/

namespace Aokie.Lib

inductive Regex
  | empty
  | char (p : Char → Bool)
  | seq (r s : Regex)
  | alt (r s : Regex)
  | star (r : Regex)
  | boundary
  | start
  | finish

/-- A place in a text: what is before it, last character first, and what is after it. -/
abbrev Place := List Char × List Char

def wordChar (c : Char) : Bool := c.isAlphanum || c == '_'

namespace Regex

/-- `\b` -/
def atBoundary (at_ : Place) : Bool := at_.1.head?.any wordChar != at_.2.head?.any wordChar

def rounds (step : Place → List Place) : ℕ → Place → List Place
  | 0, at_ => [at_]
  | n + 1, at_ => at_ :: ((step at_).filter fun next => next.2.length < at_.2.length).flatMap (rounds step n)

def ends : Regex → Place → List Place
  | .empty, at_ => [at_]
  | .char _, (_, []) => []
  | .char p, (before, c :: after) => if p c then [(c :: before, after)] else []
  | .seq r s, at_ => (ends r at_).flatMap (ends s)
  | .alt r s, at_ => ends r at_ ++ ends s at_
  | .star r, at_ => rounds (ends r) at_.2.length at_
  | .boundary, at_ => if atBoundary at_ then [at_] else []
  | .start, at_ => if at_.1.isEmpty then [at_] else []
  | .finish, at_ => if at_.2.isEmpty then [at_] else []

def places (text : List Char) : List Place :=
  (List.range (text.length + 1)).map fun i => ((text.take i).reverse, text.drop i)

/-- `is_match`: somewhere in the text. -/
def isMatch (r : Regex) (text : List Char) : Bool := (places text).any fun at_ => !(ends r at_).isEmpty

section Notations

def lit : List Char → Regex
  | [] => .empty
  | c :: rest => .seq (.char (· == c)) (lit rest)

/-- `(?:a|b|c)` of texts. -/
def oneOf : List (List Char) → Regex
  | [] => .char fun _ => false
  | [text] => lit text
  | text :: rest => .alt (lit text) (oneOf rest)

def opt (r : Regex) : Regex := .alt r .empty

/-- `{0,n}` -/
def upTo : ℕ → Regex → Regex
  | 0, _ => .empty
  | n + 1, r => opt (.seq r (upTo n r))

def seqs : List Regex → Regex
  | [] => .empty
  | [r] => r
  | r :: rest => .seq r (seqs rest)

end Notations

section Ends

variable {r s : Regex} {at_ next : Place} {before after : List Char}

section Choice

attribute [local simp] ends rounds lit oneOf seqs opt upTo

lemma mem_seq : next ∈ ends (.seq r s) at_ ↔ ∃ mid ∈ ends r at_, next ∈ ends s mid := List.mem_flatMap

lemma mem_alt : next ∈ ends (.alt r s) at_ ↔ next ∈ ends r at_ ∨ next ∈ ends s at_ := List.mem_append

lemma mem_opt : next ∈ ends (opt r) at_ ↔ next ∈ ends r at_ ∨ next = at_ := by simp

end Choice

lemma mem_seqs_cons {rest : List Regex} :
    next ∈ ends (seqs (r :: rest)) at_ ↔ ∃ mid ∈ ends r at_, next ∈ ends (seqs rest) mid := by
  cases rest with
  | nil => simp [seqs, ends]
  | cons s rest => exact mem_seq

@[simp] lemma mem_seqs_nil : next ∈ ends (seqs []) at_ ↔ next = at_ := List.mem_singleton

lemma mem_lit {text : List Char} : next ∈ ends (lit text) (before, after) ↔
    ∃ rest, after = text ++ rest ∧ next = (text.reverse ++ before, rest) := by
  induction text generalizing before after with
  | nil => simp [lit, ends]
  | cons c text ih =>
      rw [lit, mem_seq]
      cases after with
      | nil => simp [ends]
      | cons d after =>
          rw [ends]
          by_cases hc : d = c
          · simp [hc, ih]
          · simp [hc]

lemma mem_oneOf {texts : List (List Char)} :
    next ∈ ends (oneOf texts) at_ ↔ ∃ text ∈ texts, next ∈ ends (lit text) at_ := by
  induction texts with
  | nil =>
      obtain ⟨before, after⟩ := at_
      cases after <;> simp [oneOf, ends]
  | cons text texts ih =>
      cases texts with
      | nil => simp [oneOf]
      | cons second texts =>
          change next ∈ ends (.alt (lit text) (oneOf (second :: texts))) at_ ↔ _
          rw [mem_alt, ih]
          simp

lemma mem_boundary : next ∈ ends .boundary at_ ↔ atBoundary at_ = true ∧ next = at_ := by
  rw [ends]
  split_ifs with h <;> simp [h]

lemma mem_start : next ∈ ends .start (before, after) ↔ before = [] ∧ next = (before, after) := by
  rw [ends]
  cases before <;> simp

lemma mem_finish : next ∈ ends .finish (before, after) ↔ after = [] ∧ next = (before, after) := by
  rw [ends]
  cases after <;> simp

lemma mem_star_char {p : Char → Bool} : next ∈ ends (.star (.char p)) (before, after) ↔
    ∃ run rest, after = run ++ rest ∧ (∀ c ∈ run, p c = true) ∧ next = (run.reverse ++ before, rest) := by
  rw [ends]
  induction after generalizing before with
  | nil => simp [rounds]
  | cons c after ih =>
      rw [List.length_cons, rounds, List.mem_cons, ends]
      constructor
      · rintro (rfl | hnext)
        · exact ⟨[], c :: after, rfl, by simp, rfl⟩
        · by_cases hc : p c = true
          · rw [if_pos hc] at hnext
            have hnext : next ∈ rounds (ends (.char p)) after.length (c :: before, after) := by simpa using hnext
            obtain ⟨run, rest, rfl, hrun, rfl⟩ := ih.mp hnext
            refine ⟨c :: run, rest, rfl, ?_, by simp⟩
            exact List.forall_mem_cons.mpr ⟨hc, hrun⟩
          · simp [hc] at hnext
      · rintro ⟨run, rest, hsplit, hrun, hnext⟩
        cases run with
        | nil =>
            refine Or.inl (hnext.trans ?_)
            rw [hsplit]
            rfl
        | cons d run =>
            obtain ⟨rfl, rfl⟩ := List.cons_eq_cons.mp hsplit
            obtain ⟨hc, hrun⟩ := List.forall_mem_cons.mp hrun
            have hrest : next ∈ rounds (ends (.char p)) (run ++ rest).length (c :: before, run ++ rest) := by
              refine ih.mpr ⟨run, rest, rfl, hrun, ?_⟩
              simpa using hnext
            refine Or.inr ?_
            rw [if_pos hc]
            simpa using hrest

lemma isMatch_iff {text : List Char} : isMatch r text = true ↔
    ∃ before after, text = before ++ after ∧ ∃ next, next ∈ ends r (before.reverse, after) := by
  rw [isMatch, List.any_eq_true]
  constructor
  · rintro ⟨at_, hat, hends⟩
    obtain ⟨i, -, rfl⟩ := List.mem_map.mp hat
    obtain ⟨next, hnext⟩ := List.exists_mem_of_ne_nil _ (by simpa using hends)
    exact ⟨text.take i, text.drop i, (List.take_append_drop i text).symm, next, hnext⟩
  · rintro ⟨before, after, rfl, next, hnext⟩
    refine ⟨(before.reverse, after), List.mem_map.mpr ⟨before.length, ?_, by simp⟩, ?_⟩
    · simp
    · simpa using List.ne_nil_of_mem hnext

end Ends

end Regex

end Aokie.Lib
