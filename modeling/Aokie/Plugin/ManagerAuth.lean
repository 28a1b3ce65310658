import Aokie.Lib.Run
import Aokie.Lib.Rust

/-! The manager's PIN: how wrong attempts lock it, for how long, and what that bounds over a whole run. -/

namespace Aokie.Plugin.ManagerAuth

open Aokie.Lib

def u32Max : ℕ := 4294967295

abbrev U32 := { n : ℕ // n ≤ u32Max }
abbrev U64 := { n : ℕ // n ≤ u64Max }

def U32.saturatingAdd (a : U32) (b : ℕ) : U32 := ⟨min (a + b) u32Max, min_le_right _ _⟩

def U64.saturatingAdd (a : U64) (b : ℕ) : U64 := ⟨Lib.saturatingAdd a b, saturatingAdd_le a b⟩

def checkedSub (a b : ℕ) : Option ℕ := if b ≤ a then some (a - b) else none

def maxFailures : ℕ := 5

def lockoutStepsSecs : List ℕ := [15 * 60, 60 * 60, 4 * 60 * 60, 24 * 60 * 60]

def lockoutMemorySecs : ℕ := 7 * 24 * 60 * 60

structure State where
  failures : U32 := ⟨0, Nat.zero_le _⟩
  lockoutUntil : U64 := ⟨0, Nat.zero_le _⟩
  lockouts : U32 := ⟨0, Nat.zero_le _⟩
  lastFailure : U64 := ⟨0, Nat.zero_le _⟩
  deriving DecidableEq

/-- The lockout that follows so many earlier ones; `none` is an index out of bounds. -/
def lockoutSecs (lockouts : ℕ) : Option ℕ := lockoutStepsSecs[min lockouts (lockoutStepsSecs.length - 1)]?

def longestSecs : ℕ := lockoutStepsSecs.getLast (List.cons_ne_nil _ _)

def remaining (state : State) (now : U64) : ℕ := min (state.lockoutUntil - now : ℕ) longestSecs

inductive Decision
  | verified
  | rejected (remaining : ℕ)
  | locked (retryAfterSecs : ℕ) (began : Bool)
  deriving DecidableEq, Repr

def ctEq (a b : Bytes) : Bool :=
  if a.length ≠ b.length then false
  else (List.zip a b).foldl (fun diff byte => diff ||| (byte.1 ^^^ byte.2)) (0 : UInt8) == 0

def load (stored : Option State) : State := stored.getD {}

def State.noteFailure (state : State) (now : U64) : State :=
  { state with
    lockouts := if state.lastFailure.1 ≠ 0 ∧ lockoutMemorySecs < (now - state.lastFailure : ℕ) then ⟨0, Nat.zero_le _⟩
      else state.lockouts
    lastFailure := now
    failures := U32.saturatingAdd state.failures 1 }

def State.lock (state : State) (now : U64) (secs : ℕ) : State :=
  { state with
    failures := ⟨0, Nat.zero_le _⟩
    lockouts := U32.saturatingAdd state.lockouts 1
    lockoutUntil := U64.saturatingAdd now secs }

/-- One attempt, and what is stored after it; `none` is a panic. -/
def verifyAt (stored : Option State) (expected given : Bytes) (now : U64) : Option (Decision × Option State) := do
  let state := load stored
  let left := remaining state now
  if 0 < left then
    -- A lockout of more than the longest step is cut to it on disk as well.
    let stored := if left < (state.lockoutUntil - now : ℕ) then
      some { state with lockoutUntil := U64.saturatingAdd now left } else stored
    return (.locked left false, stored)
  else if !expected.isEmpty && ctEq expected given then
    return (.verified, some {})
  else
    let state := state.noteFailure now
    if maxFailures ≤ state.failures.1 then
      let secs ← lockoutSecs state.lockouts
      return (.locked secs true, some (state.lock now secs))
    else
      let remaining ← checkedSub maxFailures state.failures
      return (.rejected remaining, some state)

lemma longestSecs_eq : longestSecs = 86400 := rfl

lemma remaining_eq_zero_iff {state : State} {now : U64} : remaining state now = 0 ↔ state.lockoutUntil.1 ≤ now.1 := by
  have hlongest := longestSecs_eq
  simp only [remaining]
  omega

lemma foldl_or_xor_eq_zero_iff (pairs : List (UInt8 × UInt8)) (diff : UInt8) :
    pairs.foldl (fun diff byte => diff ||| (byte.1 ^^^ byte.2)) diff = 0 ↔ diff = 0 ∧ ∀ byte ∈ pairs,
      byte.1 = byte.2 := by
  induction pairs generalizing diff with
  | nil => simp
  | cons byte pairs ih =>
      rw [List.foldl_cons, ih, List.forall_mem_cons, UInt8.or_eq_zero_iff, UInt8.xor_eq_zero_iff, and_assoc]

lemma zip_eq_iff {a b : Bytes} (hlen : a.length = b.length) : (∀ byte ∈ List.zip a b, byte.1 = byte.2) ↔ a = b := by
  induction a generalizing b with
  | nil => simp [List.eq_nil_of_length_eq_zero hlen.symm]
  | cons x a ih =>
      cases b with
      | nil => simp at hlen
      | cons y b => rw [List.zip_cons_cons, List.forall_mem_cons, ih (by simpa using hlen), List.cons.injEq]

lemma ctEq_iff (a b : Bytes) : ctEq a b = true ↔ a = b := by
  rw [ctEq]
  split_ifs with hlen
  · exact iff_of_false id fun h => hlen (congrArg List.length h)
  · rw [beq_iff_eq, foldl_or_xor_eq_zero_iff, zip_eq_iff (not_not.mp hlen)]
    simp

/-- The step that follows so many lockouts: a quarter of an hour, one hour, four, and then a day each. -/
def stepSecs (lockouts : ℕ) : ℕ := lockoutStepsSecs.getD lockouts longestSecs

lemma lockoutSecs_eq (lockouts : ℕ) : lockoutSecs lockouts = some (stepSecs lockouts) := by
  match lockouts with
  | 0 | 1 | 2 => rfl
  | lockouts + 3 =>
    have hmin : min (lockouts + 3) (lockoutStepsSecs.length - 1) = 3 := Nat.min_eq_right (Nat.le_add_left 3 lockouts)
    rw [lockoutSecs, hmin]
    cases lockouts <;> rfl

lemma stepSecs_le (lockouts : ℕ) : stepSecs lockouts ≤ longestSecs := by
  match lockouts with
  | 0 | 1 | 2 | 3 => decide
  | lockouts + 4 => exact le_refl _

def RightPin (expected given : Bytes) : Prop := expected ≠ [] ∧ given = expected

instance (expected given : Bytes) : Decidable (RightPin expected given) := inferInstanceAs (Decidable (_ ∧ _))

lemma compared_iff (expected given : Bytes) : (!expected.isEmpty && ctEq expected given) = true ↔
    RightPin expected given := by
  rw [Bool.and_eq_true, ctEq_iff, RightPin, eq_comm (a := given)]
  simp

inductive Outcome (state : State) (expected given : Bytes) (now : U64) : Decision → State → Prop
  | locked (hleft : 0 < remaining state now) (stored : State) (hfailures : stored.failures = state.failures)
      (hlockouts : stored.lockouts = state.lockouts) (hlast : stored.lastFailure = state.lastFailure)
      (huntil : stored.lockoutUntil.1 = min state.lockoutUntil.1 (now.1 + longestSecs)) :
      Outcome state expected given now (.locked (remaining state now) false) stored
  | verified (hleft : remaining state now = 0) (hright : RightPin expected given) :
      Outcome state expected given now .verified {}
  | rejected (hleft : remaining state now = 0) (hwrong : ¬RightPin expected given)
      (hfew : (state.noteFailure now).failures.1 < maxFailures) :
      Outcome state expected given now (.rejected (maxFailures - (state.noteFailure now).failures))
        (state.noteFailure now)
  | began (hleft : remaining state now = 0) (hwrong : ¬RightPin expected given)
      (hmany : maxFailures ≤ (state.noteFailure now).failures.1) :
      Outcome state expected given now (.locked (stepSecs (state.noteFailure now).lockouts) true)
        ((state.noteFailure now).lock now (stepSecs (state.noteFailure now).lockouts))

lemma verifyAt_outcome (stored : Option State) (expected given : Bytes) (now : U64) :
    ∃ decision stored', verifyAt stored expected given now = some (decision, stored') ∧
      Outcome (load stored) expected given now decision (load stored') := by
  simp only [verifyAt]
  have hmax := (load stored).lockoutUntil.2
  split_ifs with hleft hclamp hright hmany
  · refine ⟨_, _, rfl, .locked hleft _ rfl rfl rfl ?_⟩
    change Lib.saturatingAdd now.1 (remaining (load stored) now) = _
    rw [Lib.saturatingAdd]
    simp only [remaining] at hclamp ⊢
    omega
  · refine ⟨_, _, rfl, .locked hleft _ rfl rfl rfl ?_⟩
    simp only [remaining] at hclamp
    omega
  · exact ⟨_, _, rfl, .verified (Nat.eq_zero_of_not_pos hleft) ((compared_iff _ _).mp hright)⟩
  · rw [lockoutSecs_eq]
    exact ⟨_, _, rfl, .began (Nat.eq_zero_of_not_pos hleft) (mt (compared_iff _ _).mpr hright) hmany⟩
  · have hfew := Nat.lt_of_not_le hmany
    rw [checkedSub, if_pos hfew.le]
    exact ⟨_, _, rfl, .rejected (Nat.eq_zero_of_not_pos hleft) (mt (compared_iff _ _).mpr hright) hfew⟩

lemma verifyAt_isSome (stored : Option State) (expected given : Bytes) (now : U64) :
    (verifyAt stored expected given now).isSome := by
  obtain ⟨_, _, hverify, -⟩ := verifyAt_outcome stored expected given now
  simp [hverify]

/-- Somebody says `given` while `expected` is the manager's PIN. -/
structure Attempt where
  expected : Bytes
  given : Bytes
  now : U64

/-- The attempts one after another; all that is kept between them, also over a restart, is what is on disk. -/
def attempting : Machine (Option State) Attempt (Attempt × Decision) := fun stored a =>
  let answer := (verifyAt stored a.expected a.given a.now).get (verifyAt_isSome _ _ _ _)
  (answer.2, (a, answer.1))

lemma attempting_outcome (stored : Option State) (a : Attempt) :
    (attempting stored a).2.1 = a ∧
      Outcome (load stored) a.expected a.given a.now (attempting stored a).2.2 (load (attempting stored a).1) := by
  obtain ⟨decision, stored', hverify, houtcome⟩ := verifyAt_outcome stored a.expected a.given a.now
  refine ⟨rfl, ?_⟩
  simpa only [attempting, hverify, Option.get_some] using houtcome

def history (stored : Option State) (attempts : List Attempt) : List (Attempt × Decision) :=
  attempting.outputs stored attempts

def Decision.isWrong : Decision → Bool
  | .rejected _ => true
  | .locked _ began => began
  | .verified => false

def Decision.began : Decision → Bool
  | .locked _ began => began
  | _ => false

def Ordered (attempts : List Attempt) : Prop := attempts.Pairwise fun a b => a.now.1 ≤ b.now.1

instance (attempts : List Attempt) : Decidable (Ordered attempts) := inferInstanceAs (Decidable (List.Pairwise _ _))

def Early (attempts : List Attempt) : Prop := ∀ a ∈ attempts, a.now.1 + longestSecs ≤ u64Max

instance (attempts : List Attempt) : Decidable (Early attempts) := inferInstanceAs (Decidable (∀ a ∈ attempts, _))

def decisionAfter (stored : Option State) (before : List Attempt) (a : Attempt) : Decision :=
  (attempting (attempting.final stored before) a).2.2

section Waits

variable {stored : Option State} {a : Attempt}

lemma waits_at_most_a_day {secs : ℕ} {began : Bool} (h : (attempting stored a).2.2 = .locked secs began) :
    secs ≤ longestSecs := by
  have houtcome := (attempting_outcome stored a).2
  rw [h] at houtcome
  generalize load (attempting stored a).1 = stored' at houtcome
  cases houtcome with
  | locked => exact min_le_right _ _
  | began => exact stepSecs_le _

lemma lockoutUntil_le (stored : Option State) (a : Attempt) :
    (load (attempting stored a).1).lockoutUntil.1 ≤ a.now.1 + longestSecs := by
  have houtcome := (attempting_outcome stored a).2
  generalize (attempting stored a).2.2 = decision at houtcome
  generalize load (attempting stored a).1 = stored' at houtcome
  cases houtcome with
  | locked _ _ _ _ _ huntil => exact huntil ▸ min_le_right _ _
  | verified => exact Nat.zero_le _
  | rejected hleft =>
      have hle := remaining_eq_zero_iff.mp hleft
      change (load stored).lockoutUntil.1 ≤ _
      omega
  | began =>
      change Lib.saturatingAdd a.now.1 _ ≤ _
      exact (min_le_left _ _).trans (Nat.add_le_add_left (stepSecs_le _) _)

lemma lockoutUntil_le_of_not_wrong (h : (attempting stored a).2.2.isWrong = false) :
    (load (attempting stored a).1).lockoutUntil.1 ≤ (load stored).lockoutUntil.1 := by
  have houtcome := (attempting_outcome stored a).2
  generalize (attempting stored a).2.2 = decision at houtcome h
  generalize load (attempting stored a).1 = stored' at houtcome
  cases houtcome with
  | locked _ _ _ _ _ huntil => exact huntil ▸ min_le_left _ _
  | verified => exact Nat.zero_le _
  | rejected => exact absurd h Bool.true_eq_false_eq_False
  | began => exact absurd h Bool.true_eq_false_eq_False

lemma lockoutUntil_final_le {rest : List Attempt} (h : ∀ e ∈ history stored rest, e.2.isWrong = false) :
    (load (attempting.final stored rest)).lockoutUntil.1 ≤ (load stored).lockoutUntil.1 := by
  induction rest generalizing stored with
  | nil => exact le_refl _
  | cons b rest ih =>
      obtain ⟨hb, hrest⟩ := List.forall_mem_cons.mp h
      exact (ih hrest).trans (lockoutUntil_le_of_not_wrong hb)

lemma verified_of_unlocked (hleft : (load stored).lockoutUntil.1 ≤ a.now.1) (hright : RightPin a.expected a.given) :
    (attempting stored a).2.2 = .verified := by
  have hzero : remaining (load stored) a.now = 0 := remaining_eq_zero_iff.mpr hleft
  have houtcome := (attempting_outcome stored a).2
  generalize (attempting stored a).2.2 = decision at houtcome
  generalize load (attempting stored a).1 = stored' at houtcome
  cases houtcome with
  | locked hpos => omega
  | verified => rfl
  | rejected _ hwrong => exact absurd hright hwrong
  | began _ hwrong => exact absurd hright hwrong

lemma verified_a_day_later {first last : Attempt} {rest : List Attempt}
    (hquiet : ∀ e ∈ history (attempting stored first).1 rest, e.2.isWrong = false)
    (hright : RightPin last.expected last.given) (hday : first.now.1 + longestSecs ≤ last.now.1) :
    decisionAfter stored (first :: rest) last = .verified :=
  verified_of_unlocked (((lockoutUntil_final_le hquiet).trans (lockoutUntil_le stored first)).trans hday) hright

end Waits

section Silence

variable {stored : Option State}

lemma lockoutUntil_final_eq {u : ℕ} {mid : List Attempt} (hu : (load stored).lockoutUntil.1 = u)
    (hmid : ∀ b ∈ mid, b.now.1 < u ∧ u ≤ b.now.1 + longestSecs) :
    (load (attempting.final stored mid)).lockoutUntil.1 = u := by
  induction mid generalizing stored with
  | nil => exact hu
  | cons b mid ih =>
      obtain ⟨⟨hlt, hle⟩, hmid⟩ := List.forall_mem_cons.mp hmid
      have hleft : remaining (load stored) b.now ≠ 0 := by
        rw [ne_eq, remaining_eq_zero_iff]
        omega
      refine ih ?_ hmid
      have houtcome := (attempting_outcome stored b).2
      generalize (attempting stored b).2.2 = decision at houtcome
      generalize load (attempting stored b).1 = stored' at houtcome
      cases houtcome with
      | locked _ _ _ _ _ huntil => omega
      | verified hzero => exact absurd hzero hleft
      | rejected hzero => exact absurd hzero hleft
      | began hzero => exact absurd hzero hleft

lemma decision_of_locked {a : Attempt} (hlt : a.now.1 < (load stored).lockoutUntil.1)
    (hle : (load stored).lockoutUntil.1 ≤ a.now.1 + longestSecs) :
    (attempting stored a).2.2 = .locked ((load stored).lockoutUntil.1 - a.now.1) false := by
  have hleft : remaining (load stored) a.now = (load stored).lockoutUntil.1 - a.now.1 := by
    simp only [remaining]
    omega
  have houtcome := (attempting_outcome stored a).2
  generalize (attempting stored a).2.2 = decision at houtcome
  generalize load (attempting stored a).1 = stored' at houtcome
  cases houtcome with
  | locked => rw [hleft]
  | verified hzero => omega
  | rejected hzero => omega
  | began hzero => omega

lemma lockoutUntil_of_began {a : Attempt} {secs : ℕ} (h : (attempting stored a).2.2 = .locked secs true)
    (hearly : a.now.1 + longestSecs ≤ u64Max) : (load (attempting stored a).1).lockoutUntil.1 = a.now.1 + secs := by
  have houtcome := (attempting_outcome stored a).2
  rw [h] at houtcome
  generalize load (attempting stored a).1 = stored' at houtcome
  cases houtcome with
  | began =>
      have hle := stepSecs_le ((load stored).noteFailure a.now).lockouts
      exact min_eq_left (by omega)

lemma silent_while_locked {before mid after : List Attempt} {a b : Attempt} {secs : ℕ}
    (hordered : Ordered (before ++ a :: mid ++ b :: after)) (hearly : a.now.1 + longestSecs ≤ u64Max)
    (hbegan : decisionAfter stored before a = .locked secs true) (hlasts : b.now.1 < a.now.1 + secs) :
    decisionAfter stored (before ++ a :: mid) b = .locked (a.now.1 + secs - b.now.1) false := by
  have huntil := lockoutUntil_of_began hbegan hearly
  have hsecs : secs ≤ longestSecs := waits_at_most_a_day hbegan
  obtain ⟨hfirst, -, hacross⟩ := List.pairwise_append.mp hordered
  have hab : ∀ m ∈ a :: mid, a.now.1 ≤ m.now.1 := by
    have ha := (List.pairwise_append.mp hfirst).2.1
    exact List.forall_mem_cons.mpr ⟨le_refl _, (List.pairwise_cons.mp ha).1⟩
  have hmb : ∀ m ∈ a :: mid, m.now.1 ≤ b.now.1 := fun m hm =>
    hacross m (List.mem_append_right _ hm) b List.mem_cons_self
  have hfinal : (load (attempting.final stored (before ++ a :: mid))).lockoutUntil.1 = a.now.1 + secs := by
    rw [Machine.final_append, Machine.final_cons]
    refine lockoutUntil_final_eq huntil fun m hm => ?_
    have ham := hab m (List.mem_cons_of_mem a hm)
    have hmb := hmb m (List.mem_cons_of_mem a hm)
    omega
  have hab := hmb a List.mem_cons_self
  rw [decisionAfter, decision_of_locked (by omega) (by omega), hfinal]

end Silence

section Window

variable {stored : Option State} {w : ℕ}

lemma history_cons (stored : Option State) (a : Attempt) (attempts : List Attempt) :
    history stored (a :: attempts) = (a, (attempting stored a).2.2) :: history (attempting stored a).1 attempts := rfl

lemma mem_of_mem_history {attempts : List Attempt} {e : Attempt × Decision} (h : e ∈ history stored attempts) :
    e.1 ∈ attempts := by
  induction attempts generalizing stored with
  | nil => simp [history] at h
  | cons a attempts ih =>
      rw [history_cons, List.mem_cons] at h
      obtain rfl | h := h
      · exact List.mem_cons_self
      · exact List.mem_cons_of_mem a (ih h)

/-- A day from `w` on, its end not included. -/
def inWindow (w : ℕ) (e : Attempt × Decision) : Bool := decide (w ≤ e.1.now.1 ∧ e.1.now.1 < w + 24 * 60 * 60)

def judged (w : ℕ) (entries : List (Attempt × Decision)) : ℕ := entries.countP fun e => inWindow w e && e.2.isWrong

lemma judged_eq_zero_of_late {attempts : List Attempt} (h : ∀ a ∈ attempts, w + 86400 ≤ a.now.1) :
    judged w (history stored attempts) = 0 := by
  refine List.countP_eq_zero.mpr fun e he => ?_
  have hlate := h e.1 (mem_of_mem_history he)
  simp only [inWindow, Bool.and_eq_true, decide_eq_true_eq]
  omega

/-- How many wrong PINs can still be judged in the window: what is left to the next lockout, and five for each step
that is shorter than the window. -/
def budget (w : ℕ) (state : State) : ℕ :=
  if w + 86400 ≤ state.lockoutUntil.1 then 0
  else 5 * (4 - min state.lockouts.1 3) - min state.failures.1 4

lemma noteFailure_lockouts {state : State} {now : U64} (h : now.1 ≤ state.lastFailure.1 + lockoutMemorySecs) :
    (state.noteFailure now).lockouts = state.lockouts := by
  rw [State.noteFailure, if_neg (by omega)]

lemma u32Max_eq : u32Max = 4294967295 := rfl

lemma failures_noteFailure (state : State) (now : U64) :
    (state.noteFailure now).failures.1 = min (state.failures.1 + 1) u32Max := rfl

@[simp] lemma failures_lock (state : State) (now : U64) (secs : ℕ) : (state.lock now secs).failures.1 = 0 := rfl

lemma lockouts_lock (state : State) (now : U64) (secs : ℕ) :
    (state.lock now secs).lockouts.1 = min (state.lockouts.1 + 1) u32Max := rfl

lemma lockoutUntil_lock (state : State) {now : U64} (hearly : now.1 + longestSecs ≤ u64Max) (lockouts : ℕ) :
    (state.lock now (stepSecs lockouts)).lockoutUntil.1 = now.1 + stepSecs lockouts :=
  min_eq_left ((Nat.add_le_add_left (stepSecs_le lockouts) _).trans hearly)

lemma stepSecs_of_three_le {lockouts : ℕ} (h : 3 ≤ lockouts) : stepSecs lockouts = 86400 := by
  match lockouts, h with
  | 3, _ | _ + 4, _ => rfl

lemma judged_one_le {a : Attempt} (hw : w ≤ a.now.1) (hin : a.now.1 < w + 86400)
    (hlast : w ≤ (load stored).lastFailure.1)
    (hearly : a.now.1 + longestSecs ≤ u64Max) (hunverified : (attempting stored a).2.2 ≠ .verified) :
    w ≤ (load (attempting stored a).1).lastFailure.1 ∧
      (attempting stored a).2.2.isWrong.toNat + budget w (load (attempting stored a).1) ≤ budget w (load stored) := by
  have hlongest := longestSecs_eq
  have hmax := u32Max_eq
  have houtcome := (attempting_outcome stored a).2
  generalize (attempting stored a).2.2 = decision at houtcome hunverified
  generalize load (attempting stored a).1 = stored' at houtcome
  have hsame : ((load stored).noteFailure a.now).lockouts = (load stored).lockouts :=
    noteFailure_lockouts (by simp only [lockoutMemorySecs]; omega)
  cases houtcome with
  | locked hleft _ hfailures hlockouts hlastFailure huntil =>
      refine ⟨hlastFailure ▸ hlast, ?_⟩
      simp only [Decision.isWrong, Bool.toNat_false, budget, hfailures, hlockouts]
      split_ifs <;> omega
  | verified => exact absurd rfl hunverified
  | rejected hleft _ hfew =>
      have hle := remaining_eq_zero_iff.mp hleft
      have hfailures := failures_noteFailure (load stored) a.now
      have huntil : ((load stored).noteFailure a.now).lockoutUntil = (load stored).lockoutUntil := rfl
      refine ⟨hw, ?_⟩
      simp only [Decision.isWrong, Bool.toNat_true, budget, hsame, huntil, maxFailures] at hfew ⊢
      rw [if_neg (by omega), if_neg (by omega)]
      omega
  | began hleft _ hmany =>
      have hle := remaining_eq_zero_iff.mp hleft
      have hfailures := failures_noteFailure (load stored) a.now
      refine ⟨hw, ?_⟩
      rw [hsame]
      have huntil := lockoutUntil_lock ((load stored).noteFailure a.now) hearly (load stored).lockouts.1
      have hlockouts := lockouts_lock ((load stored).noteFailure a.now) a.now (stepSecs (load stored).lockouts.1)
      rw [hsame] at hlockouts
      simp only [Decision.isWrong, Bool.toNat_true, budget, huntil, hlockouts, failures_lock, maxFailures] at hmany ⊢
      rw [if_neg (by omega : ¬w + 86400 ≤ (load stored).lockoutUntil.1)]
      by_cases hshort : (load stored).lockouts.1 < 3
      · rw [Nat.min_eq_left (by omega : (load stored).lockouts.1 + 1 ≤ u32Max)]
        clear hmax
        split_ifs
        · omega
        · omega
      · rw [stepSecs_of_three_le (by omega), if_pos (by omega)]
        omega

lemma judged_le_budget {attempts : List Attempt} (hordered : Ordered attempts) (hearly : Early attempts)
    (hunverified : ∀ e ∈ history stored attempts, inWindow w e → e.2 ≠ .verified) (hw : ∀ a ∈ attempts, w ≤ a.now.1)
    (hlast : w ≤ (load stored).lastFailure.1) : judged w (history stored attempts) ≤ budget w (load stored) := by
  induction attempts generalizing stored with
  | nil => exact Nat.zero_le _
  | cons a attempts ih =>
      obtain ⟨hafter, hordered'⟩ := List.pairwise_cons.mp hordered
      obtain ⟨hearlyA, hearly'⟩ := List.forall_mem_cons.mp hearly
      obtain ⟨hwA, hw'⟩ := List.forall_mem_cons.mp hw
      rw [history_cons] at hunverified
      obtain ⟨hunverifiedA, hunverified'⟩ := List.forall_mem_cons.mp hunverified
      by_cases hin : a.now.1 < w + 86400
      · have hwindow : inWindow w (a, (attempting stored a).2.2) = true := by simp [inWindow, hwA, hin]
        obtain ⟨hlast', hspent⟩ := judged_one_le hwA hin hlast hearlyA (hunverifiedA hwindow)
        have hrest := ih hordered' hearly' hunverified' hw' hlast'
        rw [history_cons, judged, List.countP_cons, hwindow, Bool.true_and]
        rw [judged] at hrest
        cases hwrong : (attempting stored a).2.2.isWrong <;> simp [hwrong] at hspent ⊢ <;> omega
      · rw [judged_eq_zero_of_late]
        · exact Nat.zero_le _
        · exact List.forall_mem_cons.mpr ⟨by omega, fun b hb => by have := hafter b hb; omega⟩

lemma budget_le (w : ℕ) {state : State} (h : 1 ≤ state.lockouts.1 ∨ 1 ≤ state.failures.1) : budget w state ≤ 19 := by
  rw [budget]
  split_ifs <;> omega

lemma budget_after_wrong {a : Attempt} (h : (attempting stored a).2.2.isWrong) :
    budget w (load (attempting stored a).1) ≤ 19 ∧ (load (attempting stored a).1).lastFailure = a.now := by
  have houtcome := (attempting_outcome stored a).2
  generalize (attempting stored a).2.2 = decision at houtcome h
  generalize load (attempting stored a).1 = stored' at houtcome
  cases houtcome with
  | locked => exact absurd h Bool.false_ne_true
  | verified => exact absurd h Bool.false_ne_true
  | rejected =>
      refine ⟨budget_le w (.inr ?_), rfl⟩
      have hmax := u32Max_eq
      rw [failures_noteFailure]
      omega
  | began =>
      refine ⟨budget_le w (.inl ?_), rfl⟩
      have hmax := u32Max_eq
      rw [lockouts_lock]
      omega

lemma judged_le_twenty {attempts : List Attempt} (hordered : Ordered attempts) (hearly : Early attempts)
    (hunverified : ∀ e ∈ history stored attempts, inWindow w e → e.2 ≠ .verified) :
    judged w (history stored attempts) ≤ 20 := by
  induction attempts generalizing stored with
  | nil => exact Nat.zero_le _
  | cons a attempts ih =>
      obtain ⟨hafter, hordered'⟩ := List.pairwise_cons.mp hordered
      obtain ⟨hearlyA, hearly'⟩ := List.forall_mem_cons.mp hearly
      rw [history_cons] at hunverified
      obtain ⟨-, hunverified'⟩ := List.forall_mem_cons.mp hunverified
      have hrest := ih hordered' hearly' hunverified'
      rw [history_cons, judged, List.countP_cons]
      rw [judged] at hrest
      split_ifs with hjudged
      · -- The first wrong PIN of the window: from here on the memory of it cannot run out in the window.
        obtain ⟨hwindow, hwrong⟩ := Bool.and_eq_true_iff.mp hjudged
        have hw : w ≤ a.now.1 := (of_decide_eq_true hwindow).1
        obtain ⟨hbudget, hlast⟩ := budget_after_wrong (w := w) hwrong
        have hspent := judged_le_budget hordered' hearly' hunverified' (fun b hb => hw.trans (hafter b hb))
          (by rw [hlast]; exact hw)
        rw [judged] at hspent
        omega
      · omega

end Window

section Steps

variable {stored : Option State}

def wrongTimes (entries : List (Attempt × Decision)) : List ℕ :=
  (entries.filter fun e => e.2.isWrong).map fun e => e.1.now.1

/-- No right PIN, and no week without a wrong one. -/
structure Unbroken (entries : List (Attempt × Decision)) : Prop where
  unverified : ∀ e ∈ entries, e.2 ≠ .verified
  close : (wrongTimes entries).IsChain fun earlier later => later ≤ earlier + lockoutMemorySecs

/-- The steps start again between the two parts of a history: at its beginning, after a right PIN, or after a week
without a wrong one. A wrong PIN in the second 0 is not remembered as one. -/
def StartsOver (stored : Option State) (before era : List (Attempt × Decision)) : Prop :=
  before = [] ∧ (load stored).lockouts.1 = 0 ∨ (∃ e ∈ before.getLast?, e.2 = .verified) ∨
    ∃ earlier ∈ (wrongTimes before).getLast?, ∃ later ∈ (wrongTimes era).head?,
      earlier ≠ 0 ∧ earlier + lockoutMemorySecs < later

lemma history_concat (stored : Option State) (attempts : List Attempt) (a : Attempt) :
    history stored (attempts ++ [a]) = history stored attempts ++ [(a, decisionAfter stored attempts a)] := by
  rw [history, Machine.outputs_append]
  rfl

lemma wrongTimes_append (entries more : List (Attempt × Decision)) :
    wrongTimes (entries ++ more) = wrongTimes entries ++ wrongTimes more := by
  rw [wrongTimes, List.filter_append, List.map_append]
  rfl

/-- What a wrong PIN leaves of the steps; the memory of an earlier one may have run out. -/
def counted (state : State) (now : ℕ) : ℕ :=
  if state.lastFailure.1 ≠ 0 ∧ lockoutMemorySecs < now - state.lastFailure.1 then 0 else state.lockouts.1

inductive StepsMove (state : State) (now : ℕ) : Decision → State → Prop
  | kept (d : Decision) (stored : State) (hlocked : d ≠ .verified) (hwrong : d.isWrong = false)
      (hbegan : d.began = false)
      (hlockouts : stored.lockouts = state.lockouts) (hlast : stored.lastFailure = state.lastFailure) :
      StepsMove state now d stored
  | verified : StepsMove state now .verified {}
  | wrong (d : Decision) (stored : State) (hwrong : d.isWrong) (hlast : stored.lastFailure.1 = now)
      (hlockouts : stored.lockouts.1 = min (counted state now + d.began.toNat) u32Max)
      (hsecs : ∀ secs, d = .locked secs true → secs = stepSecs (counted state now)) : StepsMove state now d stored

lemma stepsMove (stored : Option State) (a : Attempt) :
    StepsMove (load stored) a.now.1 (attempting stored a).2.2 (load (attempting stored a).1) := by
  have hcounted : ((load stored).noteFailure a.now).lockouts.1 = counted (load stored) a.now.1 := by
    simp only [State.noteFailure, counted]
    split_ifs <;> rfl
  have hbound := ((load stored).noteFailure a.now).lockouts.2
  have houtcome := (attempting_outcome stored a).2
  generalize (attempting stored a).2.2 = decision at houtcome
  generalize load (attempting stored a).1 = stored' at houtcome
  cases houtcome with
  | locked _ _ _ hlockouts hlast => exact .kept _ _ nofun rfl rfl hlockouts hlast
  | verified => exact .verified
  | rejected =>
      refine .wrong _ _ rfl rfl ?_ nofun
      rw [hcounted] at hbound ⊢
      exact (min_eq_left hbound).symm
  | began =>
      refine .wrong _ _ rfl rfl ?_ ?_
      · rw [lockouts_lock, hcounted]
        rfl
      · rintro secs h
        rw [← hcounted]
        exact (Decision.locked.inj h).1.symm

lemma lastFailure_final {before : List Attempt} {u : ℕ} (hu : (wrongTimes (history stored before)).getLast? = some u) :
    (load (attempting.final stored before)).lastFailure.1 = u ∨
      (load (attempting.final stored before)).lockouts.1 = 0 ∧
        (load (attempting.final stored before)).lastFailure.1 = 0 := by
  induction before using List.reverseRecOn generalizing u with
  | nil => simp [history, wrongTimes] at hu
  | append_singleton before a ih =>
      have hmove := stepsMove (attempting.final stored before) a
      rw [history_concat, wrongTimes_append] at hu
      rw [Machine.final_append, Machine.final_cons, Machine.final_nil]
      rw [decisionAfter] at hu
      generalize (attempting (attempting.final stored before) a).2.2 = decision at hmove hu
      generalize load (attempting (attempting.final stored before) a).1 = stored' at hmove ⊢
      cases hmove with
      | kept _ _ _ hwrong _ hlockouts hlast =>
          rw [hlockouts, hlast]
          exact ih (by simpa [wrongTimes, hwrong] using hu)
      | verified => exact .inr ⟨rfl, rfl⟩
      | wrong _ _ hwrong hlast =>
          left
          simpa [wrongTimes, hwrong, hlast] using hu

/-- As far as the steps go, `n` lockouts have been counted when the next wrong PIN comes. -/
def Counts (state : State) (n : ℕ) (entries : List (Attempt × Decision)) : Prop :=
  ∀ now ∈ (wrongTimes entries).head?, min (counted state now) 3 = min n 3

lemma min_u32Max_three (n : ℕ) : min (min n u32Max) 3 = min n 3 := by
  rw [min_assoc, min_eq_right (by decide : 3 ≤ u32Max)]

lemma stepSecs_congr {n m : ℕ} (h : min n 3 = min m 3) : stepSecs n = stepSecs m := by
  by_cases hn : n < 3
  · obtain rfl : n = m := by omega
    rfl
  · rw [stepSecs_of_three_le (by omega), stepSecs_of_three_le (by omega)]

lemma counts_zero {state : State} (h : state.lockouts.1 = 0) (entries : List (Attempt × Decision)) :
    Counts state 0 entries := by
  intro now _
  rw [counted, h, ite_self]

lemma StartsOver.counts {before : List Attempt} {era : List (Attempt × Decision)}
    (h : StartsOver stored (history stored before) era) : Counts (load (attempting.final stored before)) 0 era := by
  obtain ⟨hnil, hzero⟩ | ⟨e, he, hverified⟩ | ⟨earlier, hearlier, later, hlater, hne, hgap⟩ := h
  · obtain rfl : before = [] := by
      cases before with
      | nil => rfl
      | cons a before => simp [history_cons] at hnil
    exact counts_zero hzero era
  · induction before using List.reverseRecOn with
    | nil => simp [history] at he
    | append_singleton before a =>
        obtain rfl : (a, decisionAfter stored before a) = e := by simpa [history_concat] using he
        have hmove := stepsMove (attempting.final stored before) a
        rw [decisionAfter] at hverified
        rw [hverified] at hmove
        rw [Machine.final_append, Machine.final_cons, Machine.final_nil]
        generalize load (attempting (attempting.final stored before) a).1 = stored' at hmove ⊢
        cases hmove with
        | kept _ _ hlocked => exact absurd rfl hlocked
        | verified => exact counts_zero rfl era
        | wrong _ _ hwrong => exact absurd hwrong Bool.false_ne_true
  · obtain hlast | ⟨hzero, -⟩ := lastFailure_final hearlier
    · intro now hnow
      obtain rfl : later = now := Option.some.inj (hlater.symm.trans hnow)
      rw [counted, if_pos (by omega)]
    · exact counts_zero hzero era

lemma Unbroken.tail {e : Attempt × Decision} {entries : List (Attempt × Decision)} (h : Unbroken (e :: entries)) :
    Unbroken entries := by
  refine ⟨fun x hx => h.unverified x (List.mem_cons_of_mem e hx), ?_⟩
  have hclose := h.close
  rw [show e :: entries = [e] ++ entries from rfl, wrongTimes_append] at hclose
  exact hclose.right_of_append

lemma lockout_lasts_step {era : List Attempt} {a : Attempt} {n secs : ℕ}
    (hcounts : Counts (load stored) n (history stored (era ++ [a])))
      (hunbroken : Unbroken (history stored (era ++ [a])))
    (hbegan : decisionAfter stored era a = .locked secs true) :
    secs = stepSecs (n + (history stored era).countP fun e => e.2.began) := by
  induction era generalizing stored n with
  | nil =>
      have hmove := stepsMove stored a
      rw [decisionAfter, Machine.final_nil] at hbegan
      have hhead : a.now.1 ∈ (wrongTimes (history stored ([] ++ [a]))).head? := by
        simp [history, wrongTimes, attempting_outcome, hbegan, Decision.isWrong]
      rw [hbegan] at hmove
      generalize load (attempting stored a).1 = stored' at hmove
      cases hmove with
      | kept _ _ _ _ hquiet => exact absurd hquiet Bool.true_eq_false_eq_False
      | wrong _ _ _ _ _ hsecs =>
          rw [hsecs secs rfl]
          exact stepSecs_congr (hcounts _ hhead)
  | cons b era ih =>
      have hmove := stepsMove stored b
      rw [decisionAfter, Machine.final_cons, ← decisionAfter] at hbegan
      rw [List.cons_append, history_cons] at hcounts hunbroken
      rw [history_cons, List.countP_cons]
      have hnext : Counts (load (attempting stored b).1) (n + (attempting stored b).2.2.began.toNat)
          (history (attempting stored b).1 (era ++ [a])) := by
        have hclose := hunbroken.close
        have hunverified := hunbroken.unverified _ List.mem_cons_self
        generalize history (attempting stored b).1 (era ++ [a]) = rest at hcounts hclose ⊢
        generalize (attempting stored b).2.2 = decision at hmove hcounts hclose hunverified ⊢
        generalize load (attempting stored b).1 = stored' at hmove ⊢
        cases hmove with
        | kept _ _ _ hwrong hquiet hlockouts hlast =>
            intro now hnow
            rw [hquiet, counted, hlockouts, hlast]
            exact hcounts now (by simpa [wrongTimes, hwrong] using hnow)
        | verified => exact absurd rfl hunverified
        | wrong _ _ hwrong hlast hlockouts =>
            intro now hnow
            have hhead : wrongTimes ((b, decision) :: rest) = b.now.1 :: wrongTimes rest := by simp [wrongTimes, hwrong]
            rw [hhead] at hclose
            have hcount := hcounts b.now.1 (by simp [hhead])
            obtain ⟨more, hmore⟩ : ∃ more, wrongTimes rest = now :: more := List.head?_eq_some_iff.mp hnow
            rw [hmore, List.isChain_cons_cons] at hclose
            rw [counted, if_neg (by omega), hlockouts, min_u32Max_three]
            omega
      rw [ih hnext hunbroken.tail hbegan]
      congr 1
      cases (attempting stored b).2.2.began <;> simp
      omega

end Steps

lemma verifyAt_of_locked {stored : Option State} {now : U64} (hleft : 0 < remaining (load stored) now)
    (expected given expected' given' : Bytes) : verifyAt stored expected given now =
      verifyAt stored expected' given' now := by
  simp only [verifyAt, if_pos hleft]

/-- What the throttle promises of a run of attempts that begins with `stored` on disk. -/
structure Throttle (stored : Option State) (attempts : List Attempt) : Prop where
  total : ∀ stored expected given now, (verifyAt stored expected given now).isSome
  waits : ∀ stored a secs began, (attempting stored a).2.2 = .locked secs began → secs ≤ 24 * 60 * 60
  blind : ∀ stored now, 0 < remaining (load stored) now → ∀ expected given expected' given',
    verifyAt stored expected given now = verifyAt stored expected' given' now
  recovers : ∀ first rest last after, attempts = first :: rest ++ last :: after →
    (∀ e ∈ history (attempting stored first).1 rest, e.2.isWrong = false) → RightPin last.expected last.given →
      first.now.1 + 24 * 60 * 60 ≤ last.now.1 → decisionAfter stored (first :: rest) last = .verified
  silent : Early attempts → ∀ before a mid b after secs, attempts = before ++ a :: mid ++ b :: after →
    decisionAfter stored before a = .locked secs true → b.now.1 < a.now.1 + secs →
      decisionAfter stored (before ++ a :: mid) b = .locked (a.now.1 + secs - b.now.1) false
  window : Early attempts → ∀ w, (∀ e ∈ history stored attempts, inWindow w e → e.2 ≠ .verified) →
    judged w (history stored attempts) ≤ 20
  steps : ∀ before era a after secs, attempts = before ++ era ++ a :: after →
    StartsOver stored (history stored before) (history (attempting.final stored before) (era ++ [a])) →
      Unbroken (history (attempting.final stored before) (era ++ [a])) →
        decisionAfter stored (before ++ era) a = .locked secs true →
          secs = stepSecs ((history (attempting.final stored before) era).countP fun e => e.2.began)

/-- The throttle keeps its promises in every run whose clock does not go back. -/
theorem pin_throttle (stored : Option State) (attempts : List Attempt) (hordered : Ordered attempts) :
    Throttle stored attempts where
  total := verifyAt_isSome
  waits _ _ _ _ h := waits_at_most_a_day h
  blind _ _ hleft := verifyAt_of_locked hleft
  recovers _ _ _ _ _ hquiet hright hday := verified_a_day_later hquiet hright hday
  silent hearly _ a _ _ _ _ hattempts hbegan hlasts :=
    silent_while_locked (hattempts ▸ hordered) (hearly a (by simp [hattempts])) hbegan hlasts
  window hearly _ hunverified := judged_le_twenty hordered hearly hunverified
  steps _ _ _ _ _ _ hstarts hunbroken hbegan := by
    rw [decisionAfter, Machine.final_append] at hbegan
    simpa using lockout_lasts_step hstarts.counts hunbroken hbegan

section Session

def guess (now : ℕ) (h : now ≤ u64Max) : Attempt := ⟨[55], [48], ⟨now, h⟩⟩

def guesses : List Attempt :=
  List.replicate 4 (guess 1800000000 (by decide)) ++ guess 1800000000 (by decide) :: [] ++
    guess 1800000060 (by decide) :: []

/-- Five wrong PINs lock it, and a minute later there are fourteen to go. -/
theorem pin_throttle_guesses :
    decisionAfter none (List.replicate 4 (guess 1800000000 (by decide)) ++ guess 1800000000 (by decide) :: [])
      (guess 1800000060 (by decide)) = .locked (1800000000 + 900 - 1800000060) false := by
  have hthrottle := pin_throttle none guesses (by decide)
  exact hthrottle.silent (by decide) _ _ _ _ _ 900 rfl (by decide) (by decide)

set_option maxRecDepth 8000 in
/-- In the last second of the clock no lockout lasts, and a wrong PIN in its first is not remembered: twenty-one are
judged at once, and after a week the steps go on. -/
theorem throttle_at_the_ends_of_the_clock :
    (∀ e ∈ history none (List.replicate 21 (guess u64Max (le_refl _))), e.2 ≠ .verified) ∧
      judged u64Max (history none (List.replicate 21 (guess u64Max (le_refl _)))) = 21 ∧
      decisionAfter none (List.replicate 5 (guess 0 (by decide)) ++ List.replicate 4 (guess 604801 (by decide)))
        (guess 604801 (by decide)) = .locked 3600 true := by
  decide

end Session

end Aokie.Plugin.ManagerAuth
