import Aokie.Lib.Run
import Aokie.Lib.Rust

/-! An endpoint's view of the server's clock: an offset held against a steady clock. -/

namespace Aokie.Protocol.ServerClock

open Aokie.Lib

/-! ### The arithmetic of `i64` -/

def i64Max : ℤ := 9223372036854775807
def i64Min : ℤ := -9223372036854775808

inductive Overflow
  | overflow
  deriving DecidableEq, Repr

def i64TryFrom (n : ℕ) : Option ℤ := if (n : ℤ) ≤ i64Max then some n else none

def clampI64 (n : ℤ) : ℤ := max i64Min (min n i64Max)

def saturatingSub (a b : ℤ) : ℤ := clampI64 (a - b)

def checkedSub (a b : ℤ) : Option ℤ := if i64Min ≤ a - b ∧ a - b ≤ i64Max then some (a - b) else none

/-- `i64::abs`: the least number has no opposite. -/
def abs (a : ℤ) : Except Overflow ℤ := if a = i64Min then .error .overflow else .ok |a|

def sub (a b : ℤ) : Except Overflow ℤ := if i64Min ≤ a - b ∧ a - b ≤ i64Max then .ok (a - b) else .error .overflow

/-! ### The clock -/

def maxClockOffsetSeconds : ℤ := 60 * 60

def clockOffsetDeadBandSeconds : ℤ := 2

/-- `parse` reads an HTTP date as Unix seconds. -/
def offsetFromHttpDate (parse : String → Option ℤ) (date : String) (localNow : ℕ) : Except Overflow (Option ℤ) :=
  match parse date, i64TryFrom localNow with
  | some serverNow, some localNow =>
    match checkedSub serverNow localNow with
    | some offset => do
      if (← abs offset) ≤ clockOffsetDeadBandSeconds then pure (some 0)
      else if (← abs offset) ≤ maxClockOffsetSeconds then pure (some offset)
      else pure none
    | none => .ok none
  | _, _ => .ok none

/-- `localNow` moved onto the server's clock. -/
def correctedNow (localNow : ℕ) (offset : ℤ) : ℕ :=
  if 0 ≤ offset then saturatingAdd localNow offset.natAbs else max (localNow - offset.natAbs) 1

/-- The computer's clock in seconds and the steady one in milliseconds, at the last read. -/
structure Anchor where
  localTime : ℕ
  steadyMs : ℕ
  deriving DecidableEq, Repr

structure ClockState where
  offset : ℤ := 0
  anchor : Option Anchor := none
  deriving DecidableEq, Repr

def followStep (offset step slack : ℤ) : Except Overflow ℤ := do
  if slack < (← abs step) then
    let moved := saturatingSub offset step
    if (← abs moved) ≤ maxClockOffsetSeconds then pure moved else pure offset
  else pure offset

namespace ClockState

def settleOffset (s : ClockState) (anchor : Anchor) (localNow steadyMs : ℕ) : Except Overflow ℤ :=
  if steadyMs < anchor.steadyMs then .ok s.offset
  else
    match i64TryFrom localNow, i64TryFrom anchor.localTime with
    | some now, some then_ =>
      let steadyElapsedMs := steadyMs - anchor.steadyMs
      let steadyElapsed := (i64TryFrom (steadyElapsedMs / 1000)).getD i64Max
      let step := saturatingSub (saturatingSub now then_) steadyElapsed
      let slack := clampI64 (clockOffsetDeadBandSeconds + (i64TryFrom (steadyElapsedMs / 1000000)).getD i64Max)
      followStep s.offset step slack
    | _, _ => .ok s.offset

def settle (s : ClockState) (localNow : ℕ) (steadyMs : Option ℕ) : Except Overflow ClockState :=
  match s.anchor, steadyMs with
  | some anchor, some steadyMs => do
    let offset ← s.settleOffset anchor localNow steadyMs
    pure ⟨offset, some ⟨localNow, steadyMs⟩⟩
  | _, _ => .ok s

/-- What a `Date` makes of a settled state. -/
def observed (parse : String → Option ℤ) (s : ClockState) (date : Option String) (localNow : ℕ) (steadyMs : Option ℕ) :
    Except Overflow ClockState :=
  match date with
  | none => .ok s
  | some date => do
    match ← offsetFromHttpDate parse date localNow with
    | none => pure s
    | some observed =>
      let offset := if clockOffsetDeadBandSeconds < (← abs (← sub observed s.offset)) then observed else s.offset
      pure ⟨offset, steadyMs.map fun steadyMs => ⟨localNow, steadyMs⟩⟩

end ClockState

/-- A read of the offset or of the time, or the `Date` of a response. The computer's clock has no reading before 1970.
-/
inductive Input
  | offset (localNow : Option ℕ) (steadyMs : Option ℕ)
  | now (localNow : ℕ) (steadyMs : Option ℕ)
  | observe (date : Option String) (localNow : ℕ) (steadyMs : Option ℕ)

def step (parse : String → Option ℤ) : Machine ClockState Input (Except Overflow ℤ)
  | s, .offset none _ => (s, .ok s.offset)
  | s, .offset (some localNow) steadyMs =>
    match s.settle localNow steadyMs with
    | .ok s => (s, .ok s.offset)
    | .error e => (s, .error e)
  | s, .now localNow steadyMs =>
    match s.settle localNow steadyMs with
    | .ok s => (s, .ok (correctedNow localNow s.offset))
    | .error e => (s, .error e)
  | s, .observe date localNow steadyMs =>
    match s.settle localNow steadyMs with
    | .error e => (s, .error e)
    | .ok s =>
      match s.observed parse date localNow steadyMs with
      | .ok s => (s, .ok s.offset)
      | .error e => (s, .error e)

section Settling

variable {s : ClockState} {anchor : Anchor} {localNow steadyMs : ℕ}

/-- How far the computer's clock moved against the steady one, in whole seconds. -/
def Anchor.step (a : Anchor) (localNow steadyMs : ℕ) : ℤ :=
  localNow - a.localTime - ((steadyMs - a.steadyMs) / 1000 : ℕ)

def Anchor.slack (a : Anchor) (steadyMs : ℕ) : ℤ := 2 + ((steadyMs - a.steadyMs) / 1000000 : ℕ)

lemma i64TryFrom_of_le {n : ℕ} (h : (n : ℤ) ≤ i64Max) : i64TryFrom n = some (n : ℤ) := if_pos h

lemma clampI64_of_mem {n : ℤ} (hmin : i64Min ≤ n) (hmax : n ≤ i64Max) : clampI64 n = n := by
  rw [clampI64, min_eq_left hmax, max_eq_right hmin]

lemma abs_eq_ok {a : ℤ} (h : a ≠ i64Min) : abs a = .ok |a| := if_neg h

/-- A step is followed where it shows and the offset that follows it is within bounds. -/
def follow (offset step slack : ℤ) : ℤ :=
  if slack < |step| ∧ |offset - step| ≤ maxClockOffsetSeconds then offset - step else offset

lemma followStep_eq_ok {offset step slack : ℤ} (hoffset : |offset| ≤ maxClockOffsetSeconds) (hstep : i64Min < step)
    (hmoved : i64Min < offset - step) : followStep offset step slack = .ok (follow offset step slack) := by
  have hbounds : -3600 ≤ offset ∧ offset ≤ 3600 := abs_le.mp hoffset
  simp only [followStep, follow, abs_eq_ok hstep.ne', bind, Except.bind, pure, Except.pure]
  by_cases hshows : slack < |step|
  · have hnot : saturatingSub offset step ≠ i64Min := by
      simp only [saturatingSub, clampI64, i64Min, i64Max] at *
      omega
    rw [if_pos hshows, abs_eq_ok hnot]
    dsimp only
    by_cases hmax : offset - step ≤ i64Max
    · rw [saturatingSub, clampI64_of_mem hmoved.le hmax]
      by_cases hfollows : |offset - step| ≤ maxClockOffsetSeconds
      · rw [if_pos hfollows, if_pos ⟨hshows, hfollows⟩]
      · rw [if_neg hfollows, if_neg fun h => hfollows h.2]
    · have hsat : saturatingSub offset step = i64Max := by
        simp only [saturatingSub, clampI64, i64Min, i64Max] at *
        omega
      have hfar : ¬|offset - step| ≤ maxClockOffsetSeconds := by
        intro hle
        have hle := (abs_le.mp hle).2
        simp only [i64Max, maxClockOffsetSeconds] at hmax hle
        omega
      rw [hsat, if_neg (by decide), if_neg fun h => hfar h.2]
  · rw [if_neg hshows, if_neg fun h => hshows h.1]

lemma abs_follow {offset step slack : ℤ} (hoffset : |offset| ≤ maxClockOffsetSeconds) :
    |follow offset step slack| ≤ maxClockOffsetSeconds := by
  rw [follow]
  split_ifs with h
  · exact h.2
  · exact hoffset

/-- The offset is one that is followed, and the anchor is within reach of `i64`. -/
structure Sound (s : ClockState) : Prop where
  offset : |s.offset| ≤ maxClockOffsetSeconds
  anchor : ∀ a ∈ s.anchor, (a.localTime : ℤ) ≤ i64Max

/-- The readings are within reach of `i64`: the computer's clock is, and neither its step nor the offset after it is the
least number. -/
def Within (s : ClockState) (localNow : ℕ) (steadyMs : Option ℕ) : Prop :=
  (localNow : ℤ) ≤ i64Max ∧ ∀ ms ∈ steadyMs, ms ≤ u64Max ∧ ∀ a ∈ s.anchor, a.steadyMs ≤ ms →
    i64Min < a.step localNow ms ∧ i64Min < s.offset - a.step localNow ms

lemma settleOffset_eq (hsound : Sound s) (hanchor : s.anchor = some anchor)
    (hwithin : Within s localNow (some steadyMs)) :
    s.settleOffset anchor localNow steadyMs =
      .ok (if steadyMs < anchor.steadyMs then s.offset else follow s.offset (anchor.step localNow steadyMs)
      (anchor.slack steadyMs)) := by
  obtain ⟨hnow, hsteady⟩ := hwithin
  obtain ⟨hms, hsteps⟩ := hsteady steadyMs rfl
  have hthen := hsound.anchor anchor hanchor
  rw [ClockState.settleOffset]
  split_ifs with hback
  · rfl
  obtain ⟨hstep, hmoved⟩ := hsteps anchor hanchor (by omega)
  have helapsed : (((steadyMs - anchor.steadyMs) / 1000 : ℕ) : ℤ) ≤ i64Max := by
    simp only [i64Max, u64Max] at *
    omega
  have hdrift : (((steadyMs - anchor.steadyMs) / 1000000 : ℕ) : ℤ) + 2 ≤ i64Max := by
    simp only [i64Max, u64Max] at *
    omega
  have hmoves : saturatingSub localNow anchor.localTime = localNow - anchor.localTime := by
    rw [saturatingSub, clampI64_of_mem]
    · simp only [i64Max, i64Min] at *
      omega
    · omega
  have hexact : saturatingSub (saturatingSub localNow anchor.localTime) ((steadyMs - anchor.steadyMs) / 1000 : ℕ) =
      anchor.step localNow steadyMs := by
    rw [hmoves, saturatingSub, ← Anchor.step, clampI64_of_mem hstep.le]
    rw [Anchor.step]
    omega
  rw [i64TryFrom_of_le hnow, i64TryFrom_of_le hthen]
  dsimp only
  rw [i64TryFrom_of_le helapsed, i64TryFrom_of_le (by omega), Option.getD_some, Option.getD_some, hexact,
    clampI64_of_mem]
  · exact followStep_eq_ok hsound.offset hstep hmoved
  · simp only [clockOffsetDeadBandSeconds, i64Min]
    omega
  · simp only [clockOffsetDeadBandSeconds]
    omega

lemma settle_eq_ok (hsound : Sound s) {steady : Option ℕ} (hwithin : Within s localNow steady) :
    ∃ t, s.settle localNow steady = .ok t ∧ Sound t := by
  cases hanchor : s.anchor with
  | none => exact ⟨s, by simp [ClockState.settle, hanchor], hsound⟩
  | some anchor =>
      cases steady with
      | none => exact ⟨s, by simp [ClockState.settle, hanchor], hsound⟩
      | some ms =>
          refine ⟨⟨_, some ⟨localNow,
            ms⟩⟩, by simp only [ClockState.settle, hanchor, settleOffset_eq hsound hanchor hwithin]; rfl, ?_, ?_⟩
          · split_ifs
            · exact hsound.offset
            · exact abs_follow hsound.offset
          · rintro a ha
            obtain rfl := Option.some.inj ha
            exact hwithin.1

end Settling

section Observing

variable {parse : String → Option ℤ} {s : ClockState} {localNow : ℕ}

lemma offsetFromHttpDate_eq_ok {text : String} (hdate : ∀ serverNow ∈ parse text, serverNow - localNow ≠ i64Min) :
    ∃ read, offsetFromHttpDate parse text localNow = .ok read ∧ ∀ offset ∈ read, |offset| ≤ maxClockOffsetSeconds := by
  simp only [offsetFromHttpDate, i64TryFrom]
  cases hparse : parse text with
  | none => exact ⟨none, rfl, by simp⟩
  | some serverNow =>
      split_ifs with hlocal
      · simp only [checkedSub]
        split_ifs with hfits
        · dsimp only
          rw [abs_eq_ok (hdate serverNow hparse)]
          simp only [bind, Except.bind, pure, Except.pure]
          split_ifs with hband hmax
          · exact ⟨some 0, rfl, by simp [maxClockOffsetSeconds]⟩
          · exact ⟨some _, rfl, by simpa using hmax⟩
          · exact ⟨none, rfl, by simp⟩
        · exact ⟨none, rfl, by simp⟩
      · exact ⟨none, rfl, by simp⟩

lemma observed_eq_ok (steady : Option ℕ) (hsound : Sound s) {date : Option String} (hlocal : (localNow : ℤ) ≤ i64Max)
    (hdate : ∀ text ∈ date, ∀ serverNow ∈ parse text, serverNow - localNow ≠ i64Min) :
    ∃ t, s.observed parse date localNow steady = .ok t ∧ Sound t := by
  cases date with
  | none => exact ⟨s, rfl, hsound⟩
  | some text =>
      obtain ⟨read, hread, hbound⟩ := offsetFromHttpDate_eq_ok (hdate text rfl)
      simp only [ClockState.observed, hread, bind, Except.bind]
      cases read with
      | none => exact ⟨s, rfl, hsound⟩
      | some observed =>
          have hobserved : -3600 ≤ observed ∧ observed ≤ 3600 := abs_le.mp (hbound observed rfl)
          have hoffset : -3600 ≤ s.offset ∧ s.offset ≤ 3600 := abs_le.mp hsound.offset
          have hsub : sub observed s.offset = .ok (observed - s.offset) := by
            rw [sub, if_pos]
            simp only [i64Min, i64Max]
            omega
          have habs : abs (observed - s.offset) = .ok |observed - s.offset| := by
            apply abs_eq_ok
            simp only [i64Min]
            omega
          refine ⟨_, by simp only [hsub, habs]; rfl, ?_, ?_⟩
          · dsimp only
            split_ifs
            · exact hbound observed rfl
            · exact hsound.offset
          · rintro a ha
            obtain ⟨ms, -, rfl⟩ := Option.mem_map.mp ha
            exact hlocal

/-- The readings of an input, and its `Date`, are within reach of `i64`. -/
def Input.Within (parse : String → Option ℤ) (s : ClockState) : Input → Prop
  | .offset none _ => True
  | .offset (some localNow) steadyMs | .now localNow steadyMs => ServerClock.Within s localNow steadyMs
  | .observe date localNow steadyMs => ServerClock.Within s localNow steadyMs ∧
      ∀ text ∈ date, ∀ serverNow ∈ parse text, serverNow - localNow ≠ i64Min

lemma step_sound (hsound : Sound s) {i : Input} (hwithin : i.Within parse s) :
    (∃ out, (step parse s i).2 = .ok out) ∧ Sound (step parse s i).1 := by
  cases i with
  | offset localNow steady =>
      cases localNow with
      | none => exact ⟨⟨_, rfl⟩, hsound⟩
      | some localNow =>
          obtain ⟨t, ht, hsound'⟩ := settle_eq_ok hsound hwithin
          simp only [step, ht]
          exact ⟨⟨_, rfl⟩, hsound'⟩
  | now localNow steady =>
      obtain ⟨t, ht, hsound'⟩ := settle_eq_ok hsound hwithin
      simp only [step, ht]
      exact ⟨⟨_, rfl⟩, hsound'⟩
  | observe date localNow steady =>
      obtain ⟨t, ht, hsound'⟩ := settle_eq_ok hsound hwithin.1
      obtain ⟨u, hu, hsound''⟩ := observed_eq_ok steady hsound' hwithin.1.1 hwithin.2
      simp only [step, ht, hu]
      exact ⟨⟨_, rfl⟩, hsound''⟩

lemma outputs_ok {inputs : List Input} (hsound : Sound s)
    (hwithin : (step parse).Along (fun s i => i.Within parse s) s inputs) :
    ∀ out ∈ (step parse).outputs s inputs, ∃ n, out = .ok n := by
  induction inputs generalizing s with
  | nil => simp
  | cons i inputs ih =>
      obtain ⟨hok, hsound'⟩ := step_sound hsound hwithin.1
      exact List.forall_mem_cons.mpr ⟨hok, ih hsound' hwithin.2⟩

end Observing

/-! ### Two clocks -/

/-- What a computer's clock, in seconds, and a steady one, in seconds, show at one moment, within reach of their
numbers. -/
structure Moment where
  localTime : ℝ
  steadyTime : ℝ
  local_nonneg : 0 ≤ localTime
  steady_nonneg : 0 ≤ steadyTime
  local_lt : localTime < 2 ^ 63
  steady_lt : 1000 * steadyTime < 2 ^ 64

/-- The computer's clock reads whole seconds, the steady one whole milliseconds. -/
noncomputable def Moment.reading (m : Moment) : Anchor := ⟨⌊m.localTime⌋₊, ⌊1000 * m.steadyTime⌋₊⟩

/-- Between the moments the computer's clock drifts against the steady one by at most 1000 parts per million. -/
def Drifts (m m' : Moment) : Prop :=
  m.steadyTime ≤ m'.steadyTime ∧
    |m'.localTime - m.localTime - (m'.steadyTime - m.steadyTime)| ≤ (m'.steadyTime - m.steadyTime) / 1000

/-- A read at a moment, where there is a steady clock or not. -/
inductive IsRead (m : Moment) : Input → Prop
  | offset : IsRead m (.offset (some m.reading.localTime) (some m.reading.steadyMs))
  | offsetAlone : IsRead m (.offset (some m.reading.localTime) none)
  | before : IsRead m (.offset none none)
  | now : IsRead m (.now m.reading.localTime (some m.reading.steadyMs))
  | nowAlone : IsRead m (.now m.reading.localTime none)

section Drifting

variable {m m' : Moment}

lemma Moment.steadyMs_le (m : Moment) : m.reading.steadyMs ≤ u64Max := by
  have hlt : m.reading.steadyMs < 2 ^ 64 :=
      (Nat.floor_lt (by linarith [m.steady_nonneg])).mpr (by exact_mod_cast m.steady_lt)
  simp only [u64Max]
  omega

lemma Moment.localTime_le (m : Moment) : (m.reading.localTime : ℤ) ≤ i64Max := by
  have hlt : m.reading.localTime < 2 ^ 63 := (Nat.floor_lt m.local_nonneg).mpr (by exact_mod_cast m.local_lt)
  simp only [i64Max]
  omega

lemma Drifts.steadyMs_le (h : Drifts m m') : m.reading.steadyMs ≤ m'.reading.steadyMs :=
  Nat.floor_le_floor (by linarith [h.1])

lemma Drifts.abs_step_le (h : Drifts m m') :
    |m.reading.step m'.reading.localTime m'.reading.steadyMs| ≤ m.reading.slack m'.reading.steadyMs := by
  obtain ⟨horder, hdrift⟩ := h
  obtain ⟨hslow, hfast⟩ := abs_le.mp hdrift
  have hl : (m.reading.localTime : ℝ) ≤ m.localTime := Nat.floor_le m.local_nonneg
  have hl' : m.localTime < m.reading.localTime + 1 := Nat.lt_floor_add_one _
  have hL : (m'.reading.localTime : ℝ) ≤ m'.localTime := Nat.floor_le m'.local_nonneg
  have hL' : m'.localTime < m'.reading.localTime + 1 := Nat.lt_floor_add_one _
  have hs : (m.reading.steadyMs : ℝ) ≤ 1000 * m.steadyTime := Nat.floor_le (by linarith [m.steady_nonneg])
  have hs' : 1000 * m.steadyTime < m.reading.steadyMs + 1 := Nat.lt_floor_add_one _
  have hS : (m'.reading.steadyMs : ℝ) ≤ 1000 * m'.steadyTime := Nat.floor_le (by linarith [m'.steady_nonneg])
  have hS' : 1000 * m'.steadyTime < m'.reading.steadyMs + 1 := Nat.lt_floor_add_one _
  have hle : m.reading.steadyMs ≤ m'.reading.steadyMs := Nat.floor_le_floor (by linarith)
  simp only [Anchor.step, Anchor.slack]
  generalize m.reading.localTime = l at *
  generalize m'.reading.localTime = L at *
  generalize m.reading.steadyMs = ms at *
  generalize m'.reading.steadyMs = ms' at *
  obtain ⟨elapsed, rfl⟩ := Nat.exists_eq_add_of_le hle
  rw [Nat.add_sub_cancel_left]
  -- The milliseconds that elapsed, as thousands of seconds, seconds and the rest.
  obtain ⟨kilo, seconds, rest, helapsed, hseconds, hrest, hq, ha⟩ :
      ∃ kilo seconds rest, elapsed = 1000000 * kilo + 1000 * seconds + rest ∧
      seconds ≤ 999 ∧ rest ≤ 999 ∧ elapsed / 1000 = 1000 * kilo + seconds ∧ elapsed / 1000000 = kilo :=
    ⟨elapsed / 1000000, elapsed / 1000 % 1000, elapsed % 1000, by omega, by omega, by omega, by omega, by omega⟩
  rw [hq, ha]
  have hcast : (elapsed : ℝ) = 1000000 * kilo + 1000 * seconds + rest := by exact_mod_cast helapsed
  push_cast [hcast] at hS hS'
  have hsecondsR : (seconds : ℝ) ≤ 999 := by exact_mod_cast hseconds
  have hrestR : (rest : ℝ) ≤ 999 := by exact_mod_cast hrest
  have hsecondsR0 : (0 : ℝ) ≤ seconds := Nat.cast_nonneg _
  have hrestR0 : (0 : ℝ) ≤ rest := Nat.cast_nonneg _
  have hupper : ((L : ℤ) : ℝ) - (l : ℤ) - ((1000 * kilo + seconds : ℕ) : ℤ) < 3 + (kilo : ℤ) := by
    push_cast
    linarith
  have hlower : -(3 + (kilo : ℤ) : ℝ) < ((L : ℤ) : ℝ) - (l : ℤ) - ((1000 * kilo + seconds : ℕ) : ℤ) := by
    push_cast
    linarith
  have hupperZ : (L : ℤ) - l - (1000 * kilo + seconds : ℕ) < 3 + kilo := by exact_mod_cast hupper
  have hlowerZ : -(3 + kilo : ℤ) < (L : ℤ) - l - (1000 * kilo + seconds : ℕ) := by exact_mod_cast hlower
  rw [abs_le]
  omega

variable {parse : String → Option ℤ} {s : ClockState}

def AnchoredAt (s : ClockState) (m : Moment) : Prop := ∀ a ∈ s.anchor, a = m.reading

lemma follow_of_le {offset step slack : ℤ} (h : |step| ≤ slack) : follow offset step slack = offset :=
  if_neg fun hshows => absurd hshows.1 (by omega)

lemma Drifts.within (h : Drifts m m') (hsound : Sound s) (hanchored : AnchoredAt s m) (steady : Option ℕ)
    (hsteady : ∀ ms ∈ steady, ms = m'.reading.steadyMs) : Within s m'.reading.localTime steady := by
  refine ⟨m'.localTime_le, ?_⟩
  rintro ms hms
  obtain rfl := hsteady ms hms
  refine ⟨m'.steadyMs_le, ?_⟩
  rintro a ha -
  obtain rfl := hanchored a ha
  have hstep := abs_le.mp h.abs_step_le
  have hoffset := abs_le.mp hsound.offset
  have hslack : m.reading.slack m'.reading.steadyMs ≤ 2 + u64Max / 1000000 := by
    have hms := m'.steadyMs_le
    simp only [Anchor.slack]
    omega
  simp only [i64Min, u64Max, maxClockOffsetSeconds] at *
  omega

lemma Drifts.settle (h : Drifts m m') (hsound : Sound s) (hanchored : AnchoredAt s m) (steady : Option ℕ)
    (hsteady : ∀ ms ∈ steady, ms = m'.reading.steadyMs) :
    ∃ t, s.settle m'.reading.localTime steady = .ok t ∧ t.offset = s.offset ∧ Sound t ∧ (t = s ∨ AnchoredAt t m') := by
  have hwithin := h.within hsound hanchored steady hsteady
  obtain ⟨t, ht, hsound'⟩ := settle_eq_ok hsound hwithin
  refine ⟨t, ht, ?_⟩
  cases hanchor : s.anchor with
  | none =>
      obtain rfl : s = t := by simpa [ClockState.settle, hanchor] using ht
      exact ⟨rfl, hsound, .inl rfl⟩
  | some anchor =>
      cases steady with
      | none =>
          obtain rfl : s = t := by simpa [ClockState.settle, hanchor] using ht
          exact ⟨rfl, hsound, .inl rfl⟩
      | some ms =>
          obtain rfl := hsteady ms rfl
          obtain rfl := hanchored anchor hanchor
          simp only [ClockState.settle, hanchor, settleOffset_eq hsound hanchor hwithin] at ht
          rw [if_neg (by have hle := h.steadyMs_le; omega), follow_of_le h.abs_step_le] at ht
          obtain rfl := Except.ok.inj ht
          refine ⟨rfl, hsound', .inr ?_⟩
          rintro a ha
          exact (Option.some.inj ha).symm

lemma Drifts.step (h : Drifts m m') (hsound : Sound s) (hanchored : AnchoredAt s m) {i : Input} (hread : IsRead m' i) :
    (step parse s i).1.offset = s.offset ∧ Sound (step parse s i).1 ∧
      ((step parse s i).1 = s ∨ AnchoredAt (step parse s i).1 m') := by
  have hsome := h.settle hsound hanchored (some m'.reading.steadyMs) (by simp)
  have hnone := h.settle hsound hanchored none (by simp)
  cases hread with
  | before => exact ⟨rfl, hsound, .inl rfl⟩
  | offset =>
      obtain ⟨t, ht, hkept⟩ := hsome
      simpa only [ServerClock.step, ht] using hkept
  | offsetAlone =>
      obtain ⟨t, ht, hkept⟩ := hnone
      simpa only [ServerClock.step, ht] using hkept
  | now =>
      obtain ⟨t, ht, hkept⟩ := hsome
      simpa only [ServerClock.step, ht] using hkept
  | nowAlone =>
      obtain ⟨t, ht, hkept⟩ := hnone
      simpa only [ServerClock.step, ht] using hkept

lemma offset_of_drift {moments : List Moment} {reads : List Input} (hdrift : (m :: moments).Pairwise Drifts)
    (hreads : List.Forall₂ IsRead moments reads) (hsound : Sound s) (hanchored : AnchoredAt s m) :
    ((ServerClock.step parse).final s reads).offset = s.offset := by
  induction hreads generalizing s m with
  | nil => rfl
  | @cons m' i moments reads hread hreads ih =>
      obtain ⟨hfirst, hrest⟩ := List.pairwise_cons.mp hdrift
      obtain ⟨hoffset, hsound', hsame | hanchored'⟩ :=
          @Drifts.step m m' parse s (hfirst m' (by simp)) hsound hanchored i hread
      · rw [Machine.final_cons, hsame]
        exact ih (hdrift.sublist (by simp)) hsound hanchored
      · rw [Machine.final_cons, ih hrest hsound' hanchored', hoffset]

end Drifting

section Setting

variable {s : ClockState} {anchor : Anchor} {localNow steadyMs : ℕ}

/-- Where the steady clock puts the server's time; no time reads below one. -/
def steadyTime (s : ClockState) (anchor : Anchor) (steadyMs : ℕ) : ℚ :=
  max 1 (anchor.localTime + s.offset + ((steadyMs - anchor.steadyMs : ℕ) : ℚ) / 1000)

lemma correctedNow_near {offset whole : ℤ} {time bound : ℚ} (hlocal : (localNow : ℤ) ≤ i64Max)
    (hoffset : |offset| ≤ maxClockOffsetSeconds) (hwhole : localNow + offset = whole) (hbound : 1 ≤ bound)
    (hnear : |(whole : ℚ) - time| ≤ bound) : |(correctedNow localNow offset : ℚ) - max 1 time| ≤ bound := by
  have hbounds : -3600 ≤ offset ∧ offset ≤ 3600 := abs_le.mp hoffset
  have hreported : (correctedNow localNow offset : ℤ) = whole ∧ 0 ≤ whole ∨
      (correctedNow localNow offset : ℤ) = 1 ∧ whole ≤ 1 := by
    simp only [correctedNow, saturatingAdd, i64Max, u64Max] at *
    split_ifs <;> omega
  obtain ⟨hlow, hhigh⟩ := abs_le.mp hnear
  have hmax : time ≤ max 1 time := le_max_right _ _
  obtain ⟨hreported, hpos⟩ | ⟨hreported, hone⟩ := hreported
  · have hcast : (correctedNow localNow offset : ℚ) = whole := by exact_mod_cast hreported
    have hposQ : (0 : ℚ) ≤ whole := by exact_mod_cast hpos
    have hle : max 1 time ≤ whole + bound := max_le (by linarith) (by linarith)
    rw [hcast, abs_le]
    constructor <;> linarith
  · have hcast : (correctedNow localNow offset : ℚ) = 1 := by exact_mod_cast hreported
    have honeQ : (whole : ℚ) ≤ 1 := by exact_mod_cast hone
    have hle : max 1 time ≤ 1 + bound := max_le (by linarith) (by linarith)
    have hge : (1 : ℚ) ≤ max 1 time := le_max_left _ _
    rw [hcast, abs_le]
    constructor <;> linarith

/-- A set back that counts as the slack's whole seconds, with more begun of a second than of a thousand seconds. -/
def Anchor.Hides (a : Anchor) (localNow steadyMs : ℕ) : Prop :=
  a.step localNow steadyMs = -a.slack steadyMs ∧
    (steadyMs - a.steadyMs) % 1000000 < 1000 * ((steadyMs - a.steadyMs) % 1000)

instance (a : Anchor) (localNow steadyMs : ℕ) : Decidable (a.Hides localNow steadyMs) :=
  inferInstanceAs (Decidable (_ ∧ _))

lemma Anchor.step_near (hstep : |anchor.step localNow steadyMs| ≤ anchor.slack steadyMs)
    (hhides : ¬anchor.Hides localNow steadyMs) :
    |(anchor.step localNow steadyMs : ℚ) - ((steadyMs - anchor.steadyMs) % 1000 : ℕ) / 1000| ≤
      2 + ((steadyMs - anchor.steadyMs : ℕ) : ℚ) / 1000000 := by
  obtain ⟨hlow, hhigh⟩ := abs_le.mp hstep
  simp only [Anchor.Hides, Anchor.slack] at hlow hhigh hhides
  generalize anchor.step localNow steadyMs = step at *
  generalize steadyMs - anchor.steadyMs = elapsed at *
  have hmicro : -(2000000 + (elapsed : ℤ)) ≤ 1000000 * step - 1000 * (elapsed % 1000 : ℕ) ∧
      1000000 * step - 1000 * (elapsed % 1000 : ℕ) ≤ 2000000 + (elapsed : ℤ) := by omega
  generalize elapsed % 1000 = rest at *
  have hlowQ := (Int.cast_le (R := ℚ)).mpr hmicro.1
  have hhighQ := (Int.cast_le (R := ℚ)).mpr hmicro.2
  push_cast at hlowQ hhighQ
  rw [abs_le]
  constructor <;> linarith

lemma read_near {parse : String → Option ℤ} (hsound : Sound s) (hanchor : s.anchor = some anchor)
    (hwithin : Within s localNow (some steadyMs)) (horder : anchor.steadyMs ≤ steadyMs)
    (hbound : anchor.slack steadyMs < |anchor.step localNow steadyMs| →
      |s.offset - anchor.step localNow steadyMs| ≤ maxClockOffsetSeconds)
    (hhides : ¬anchor.Hides localNow steadyMs) :
    ∃ time : ℕ, (step parse s (.now localNow (some steadyMs))).2 = .ok (time : ℤ) ∧
      |(time : ℚ) - steadyTime s anchor steadyMs| ≤ 2 + ((steadyMs - anchor.steadyMs : ℕ) : ℚ) / 1000000 := by
  have hdrift : (0 : ℚ) ≤ ((steadyMs - anchor.steadyMs : ℕ) : ℚ) / 1000000 := by positivity
  have hparts : ((steadyMs - anchor.steadyMs : ℕ) : ℚ) / 1000 =
      ((steadyMs - anchor.steadyMs) / 1000 : ℕ) + ((steadyMs - anchor.steadyMs) % 1000 : ℕ) / 1000 := by
    have hdivmod := Nat.div_add_mod (steadyMs - anchor.steadyMs) 1000
    have hcast : (1000 : ℚ) * ((steadyMs - anchor.steadyMs) / 1000 : ℕ) + ((steadyMs - anchor.steadyMs) % 1000 : ℕ) =
        (steadyMs - anchor.steadyMs : ℕ) := by exact_mod_cast hdivmod
    linarith
  refine ⟨correctedNow localNow (follow s.offset (anchor.step localNow steadyMs) (anchor.slack steadyMs)), ?_, ?_⟩
  · simp only [step, ClockState.settle, hanchor, settleOffset_eq hsound hanchor hwithin]
    rw [if_neg (by omega)]
    rfl
  by_cases hshows : anchor.slack steadyMs < |anchor.step localNow steadyMs|
  · -- The step is followed: only a part of a second is left.
    have hwhole : (localNow : ℤ) + (s.offset - anchor.step localNow steadyMs) =
        anchor.localTime + s.offset + ((steadyMs - anchor.steadyMs) / 1000 : ℕ) := by
      rw [Anchor.step]
      omega
    have hrest : (((steadyMs - anchor.steadyMs) % 1000 : ℕ) : ℚ) < 1000 := by
      exact_mod_cast Nat.mod_lt _ (by decide : 1000 > 0)
    have hrestPos : (0 : ℚ) ≤ ((steadyMs - anchor.steadyMs) % 1000 : ℕ) := Nat.cast_nonneg _
    rw [follow, if_pos ⟨hshows, hbound hshows⟩]
    refine correctedNow_near hwithin.1 (hbound hshows) hwhole (by linarith) ?_
    rw [hparts, abs_le]
    simp only [Int.cast_add, Int.cast_natCast]
    constructor <;> linarith
  · have hwhole : (localNow : ℤ) + s.offset = anchor.localTime + s.offset +
        ((steadyMs - anchor.steadyMs) / 1000 : ℕ) + anchor.step localNow steadyMs := by
      rw [Anchor.step]
      omega
    have hnear := Anchor.step_near (not_lt.mp hshows) hhides
    rw [follow, if_neg fun h => hshows h.1]
    refine correctedNow_near hwithin.1 hsound.offset hwhole (by linarith) ?_
    rw [hparts]
    simp only [Int.cast_add, Int.cast_natCast]
    have heq : (anchor.localTime : ℚ) + s.offset + ((steadyMs - anchor.steadyMs) / 1000 : ℕ) +
        anchor.step localNow steadyMs - (anchor.localTime + s.offset + (((steadyMs - anchor.steadyMs) / 1000 : ℕ) +
          ((steadyMs - anchor.steadyMs) % 1000 : ℕ) / 1000)) =
        anchor.step localNow steadyMs - ((steadyMs - anchor.steadyMs) % 1000 : ℕ) / 1000 := by ring
    rw [heq]
    exact hnear

end Setting

/-- In every run whose readings are within reach of `i64` nothing overflows, the offset is within bounds, a drift
changes it at no read, and a read reports the time where the steady clock puts it however the computer's clock was set:
unless the offset would leave its bounds, or the set hides in whole seconds. -/
theorem server_clock_holds (parse : String → Option ℤ) {inputs : List Input}
    (hwithin : (step parse).Along (fun s i => i.Within parse s) {} inputs) :
    let s := (step parse).final {} inputs
    (∀ out ∈ (step parse).outputs {} inputs, ∃ n, out = .ok n) ∧ |s.offset| ≤ maxClockOffsetSeconds ∧
      (∀ (m : Moment) (moments : List Moment) (reads : List Input), AnchoredAt s m → (m :: moments).Pairwise Drifts →
        List.Forall₂ IsRead moments reads → ((step parse).final s reads).offset = s.offset) ∧
      ∀ anchor localNow steadyMs, s.anchor = some anchor → Within s localNow (some steadyMs) →
        anchor.steadyMs ≤ steadyMs →
        (anchor.slack steadyMs < |anchor.step localNow steadyMs| →
          |s.offset - anchor.step localNow steadyMs| ≤ maxClockOffsetSeconds) →
        ¬anchor.Hides localNow steadyMs →
          ∃ time : ℕ, (step parse s (.now localNow (some steadyMs))).2 = .ok (time : ℤ) ∧
            |(time : ℚ) - steadyTime s anchor steadyMs| ≤ 2 + ((steadyMs - anchor.steadyMs : ℕ) : ℚ) / 1000000 := by
  have hstart : Sound {} := ⟨by decide, by simp⟩
  have hsound : Sound ((step parse).final {} inputs) :=
    Machine.invariant (P := Sound) (fun _ _ hi hs => (step_sound hs hi).2) hwithin hstart
  refine ⟨?_, hsound.offset, ?_, ?_⟩
  · exact outputs_ok hstart hwithin
  · intro m moments reads hanchored hdrift hreads
    exact offset_of_drift hdrift hreads hsound hanchored
  · intro anchor localNow steadyMs hanchor hwithin horder hbound hhides
    exact read_near hsound hanchor hwithin horder hbound hhides

def putRight : List Input := [.observe (some "Wed, 26 Aug 2026 00:00:00 GMT") 1787702420 (some 5000000)]

def sampleParse (text : String) : Option ℤ :=
  if text = "Wed, 26 Aug 2026 00:00:00 GMT" then some 1787702400
  else if text = "Wed, 31 Dec 1969 23:59:59 GMT" then some (-1)
  else none

theorem put_right_is_taken_up :
    ∃ time : ℕ, (step sampleParse ((step sampleParse).final {} putRight) (.now 1787702460 (some 5060000))).2 =
      .ok (time : ℤ) ∧
      |(time : ℚ) - steadyTime ((step sampleParse).final {} putRight) ⟨1787702420, 5000000⟩ 5060000| ≤ 2 +
          ((60000 : ℕ) : ℚ) / 1000000 := by
  have hrun : (step sampleParse).final {} putRight = ⟨-20, some ⟨1787702420, 5000000⟩⟩ := by rfl
  have hwithin : (step sampleParse).Along (fun s i => i.Within sampleParse s) {} putRight := by
    refine ⟨⟨⟨by decide, ?_⟩, ?_⟩, trivial⟩
    · rintro ms hms
      obtain rfl := Option.some.inj hms
      exact ⟨by decide, by simp⟩
    · rintro text htext serverNow hserver
      obtain rfl := Option.some.inj htext
      obtain rfl := Option.some.inj hserver
      decide
  obtain ⟨-, -, -, hset⟩ := server_clock_holds sampleParse hwithin
  refine hset ⟨1787702420, 5000000⟩ 1787702460 5060000 (by rw [hrun]) ?_ (by decide) ?_ (by decide)
  rotate_left
  · rw [hrun]
    decide
  rw [hrun]
  refine ⟨by decide, ?_⟩
  rintro ms hms
  obtain rfl := Option.some.inj hms
  refine ⟨by decide, ?_⟩
  rintro a ha -
  obtain rfl := Option.some.inj ha
  decide

/-- A `Date` exactly `2^63` seconds behind the computer's clock overflows. -/
theorem date_far_behind_overflows :
    ¬∀ (parse : String → Option ℤ) (inputs : List Input), ∀ out ∈ (step parse).outputs {} inputs, ∃ n, out = .ok n := by
  intro hall
  obtain ⟨n, hn⟩ := hall sampleParse [.observe (some "Wed, 31 Dec 1969 23:59:59 GMT") 9223372036854775807 none]
      (.error .overflow) (by decide)
  simp at hn

end Aokie.Protocol.ServerClock
