import Mathlib

/-! The RFC 3339 text of a moment in UTC, with milliseconds and `Z`: in the years of four digits, texts compare as
the moments do. -/

namespace Aokie.Lib

def daysBeforeYear (year : ℕ) : ℕ := 365 * year + (year + 3) / 4 + (year + 399) / 400 - (year + 99) / 100

def isLeapYear (year : ℕ) : Bool := year % 4 = 0 && (year % 100 != 0 || year % 400 = 0)

def yearOf (day : ℕ) : ℕ :=
  let guess := day * 400 / 146097
  if daysBeforeYear (guess + 1) ≤ day then guess + 1
  else if daysBeforeYear guess ≤ day then guess
  else guess - 1

def monthStarts (leap : Bool) : List ℕ :=
  if leap then [0, 31, 60, 91, 121, 152, 182, 213, 244, 274, 305, 335]
  else [0, 31, 59, 90, 120, 151, 181, 212, 243, 273, 304, 334]

def monthOf (leap : Bool) (dayOfYear : ℕ) : ℕ := (monthStarts leap).countP (· ≤ dayOfYear)

def monthStart (leap : Bool) (month : ℕ) : ℕ := (monthStarts leap).getD (month - 1) 0

def digit (n : ℕ) : Char := Char.ofNat (48 + n % 10)

def pad : ℕ → ℕ → List Char
  | 0, _ => []
  | width + 1, n => pad width (n / 10) ++ [digit n]

def yearText (year : ℕ) : List Char := if year < 10000 then pad 4 year else '+' :: Nat.toDigits 10 year

def dateText (day : ℕ) : List Char :=
  let year := yearOf day
  let dayOfYear := day - daysBeforeYear year
  let month := monthOf (isLeapYear year) dayOfYear
  yearText year ++ ('-' :: pad 2 month ++ ('-' :: pad 2 (dayOfYear - monthStart (isLeapYear year) month + 1)))

def timeText (ms : ℕ) : List Char :=
  pad 2 (ms / 3600000) ++ (':' :: pad 2 (ms / 60000 % 60) ++ (':' :: pad 2 (ms / 1000 % 60) ++
    ('.' :: pad 3 (ms % 1000) ++ ['Z'])))

def epochMs : ℤ := 62167219200000

def rfc3339 (t : ℤ) : String :=
  let ms := (t + epochMs).toNat
  String.ofList (dateText (ms / 86400000) ++ 'T' :: timeText (ms % 86400000))

def yearsStart : ℤ := -62167219200000

def yearsEnd : ℤ := 253402300800000

def InYears (t : ℤ) : Prop := yearsStart ≤ t ∧ t < yearsEnd

instance (t : ℤ) : Decidable (InYears t) := inferInstanceAs (Decidable (_ ∧ _))

section Lists

variable {a b x y : List Char}

lemma append_lt_of_lt (hlen : a.length = b.length) (h : a < b) : a ++ x < b ++ y := by
  induction a generalizing b with
  | nil =>
      obtain rfl : b = [] := List.length_eq_zero_iff.mp hlen.symm
      exact absurd h (lt_irrefl _)
  | cons c a ih =>
      cases b with
      | nil => simp at hlen
      | cons d b =>
          rw [List.cons_append, List.cons_append, List.cons_lt_cons_iff]
          rcases List.cons_lt_cons_iff.mp h with hlt | ⟨heq, hlt⟩
          · exact .inl hlt
          · exact .inr ⟨heq, ih (by simpa using hlen) hlt⟩

lemma append_lt_append (h : x < y) : a ++ x < a ++ y := by
  induction a with
  | nil => exact h
  | cons c a ih =>
      rw [List.cons_append, List.cons_append, List.cons_lt_cons_iff]
      exact .inr ⟨rfl, ih⟩

lemma field_lt (hlen : a.length = b.length) (h : a < b ∨ a = b ∧ x < y) : a ++ x < b ++ y := by
  rcases h with h | ⟨rfl, h⟩
  · exact append_lt_of_lt hlen h
  · exact append_lt_append h

lemma cons_lt (c : Char) (h : x < y) : c :: x < c :: y := List.cons_lt_cons_iff.mpr (.inr ⟨rfl, h⟩)

end Lists

@[simp] lemma length_pad (width n : ℕ) : (pad width n).length = width := by
  induction width generalizing n with
  | zero => rfl
  | succ width ih => simp [pad, ih]

lemma digit_lt {n m : ℕ} (h : n % 10 < m % 10) : digit n < digit m := by
  have hn := Nat.mod_lt n (by decide : 10 > 0)
  have hm := Nat.mod_lt m (by decide : 10 > 0)
  have hdigits : ∀ a < 10, ∀ b < 10, a < b → Char.ofNat (48 + a) < Char.ofNat (48 + b) := by decide
  exact hdigits _ hn _ hm h

lemma pad_lt {width n m : ℕ} (hm : m < 10 ^ width) (h : n < m) : pad width n < pad width m := by
  induction width generalizing n m with
  | zero => omega
  | succ width ih =>
      apply field_lt (by simp)
      rcases Nat.lt_or_ge (n / 10) (m / 10) with hlt | hge
      · exact .inl (ih (by omega) hlt)
      · have heq : n / 10 = m / 10 := by omega
        refine .inr ⟨by rw [heq], List.cons_lt_cons_iff.mpr (.inl (digit_lt (by omega)))⟩

lemma year_spec (day : ℕ) : daysBeforeYear (yearOf day) ≤ day ∧ day < daysBeforeYear (yearOf day + 1) := by
  have hlow : 146097 * (day * 400 / 146097) ≤ day * 400 := Nat.mul_div_le _ _
  have hhigh : day * 400 < 146097 * (day * 400 / 146097 + 1) := Nat.lt_mul_div_succ _ (by decide)
  simp only [yearOf]
  generalize day * 400 / 146097 = guess at hlow hhigh
  -- the guess is off by less than a year either way
  split_ifs with hnext hthis
  · refine ⟨hnext, ?_⟩
    simp only [daysBeforeYear] at *
    omega
  · exact ⟨hthis, by omega⟩
  · cases guess with
    | zero => simp [daysBeforeYear] at hthis
    | succ guess =>
        refine ⟨?_, by simpa using hthis⟩
        simp only [daysBeforeYear, Nat.add_sub_cancel] at *
        omega

lemma daysBeforeYear_strictMono : StrictMono daysBeforeYear := by
  apply strictMono_nat_of_lt_succ
  intro year
  simp only [daysBeforeYear]
  omega

lemma yearOf_mono {day day' : ℕ} (h : day ≤ day') : yearOf day ≤ yearOf day' := by
  by_contra hlt
  have hstep := daysBeforeYear_strictMono.monotone (show yearOf day' + 1 ≤ yearOf day by omega)
  have hlow := (year_spec day).1
  have hhigh := (year_spec day').2
  omega

lemma yearOf_lt {day : ℕ} (h : day < daysBeforeYear 10000) : yearOf day < 10000 := by
  by_contra hge
  have hstep := daysBeforeYear_strictMono.monotone (show 10000 ≤ yearOf day by omega)
  have hlow := (year_spec day).1
  omega

lemma dayOfYear_lt (day : ℕ) : day - daysBeforeYear (yearOf day) < 366 := by
  have hspec := year_spec day
  simp only [daysBeforeYear] at *
  omega

lemma monthOf_mono (leap : Bool) {d d' : ℕ} (h : d ≤ d') : monthOf leap d ≤ monthOf leap d' := by
  apply List.countP_mono_left
  intro start _ hstart
  simp only [decide_eq_true_eq] at hstart ⊢
  omega

lemma monthOf_le (leap : Bool) (d : ℕ) : monthOf leap d ≤ 12 := by
  refine (List.countP_le_length).trans ?_
  cases leap <;> decide

lemma start_spec {first d : ℕ} {starts : List ℕ} (h : (first :: starts).IsChain fun a b => a < b ∧ b ≤ a + 31)
    (hfirst : first ≤ d) (hlast : d ≤ (first :: starts).getLast (by simp) + 31) :
    (first :: starts).getD ((first :: starts).countP (· ≤ d) - 1) 0 ≤ d ∧
      d ≤ (first :: starts).getD ((first :: starts).countP (· ≤ d) - 1) 0 + 31 := by
  induction starts generalizing first with
  | nil => simpa [hfirst] using hlast
  | cons second starts ih =>
      obtain ⟨⟨hlt, hnear⟩, hchain⟩ := List.isChain_cons_cons.mp h
      by_cases hsecond : second ≤ d
      · have hrest := ih hchain hsecond (by simpa using hlast)
        obtain ⟨k, hk⟩ : ∃ k, (second :: starts).countP (· ≤ d) = k + 1 :=
            ⟨_, List.countP_cons_of_pos (by simpa using hsecond)⟩
        rw [List.countP_cons_of_pos (by simpa using hfirst), hk]
        rw [hk] at hrest
        simpa using hrest
      · -- the starts only grow
        have hpairs : (second :: starts).IsChain (· < ·) := hchain.imp fun _ _ hstep => hstep.1
        have hnone : (second :: starts).countP (· ≤ d) = 0 := by
          rw [List.countP_eq_zero]
          intro start hstart
          have hge : second ≤ start := by
            rcases List.mem_cons.mp hstart with rfl | hmem
            · exact le_rfl
            · exact ((List.pairwise_cons.mp hpairs.pairwise).1 start hmem).le
          simp only [decide_eq_true_eq]
          omega
        rw [List.countP_cons_of_pos (by simpa using hfirst), hnone]
        simp only [Nat.zero_add, Nat.sub_self, List.getD_cons_zero]
        omega

lemma monthStart_spec (leap : Bool) {d : ℕ} (h : d < 366) :
    monthStart leap (monthOf leap d) ≤ d ∧ d ≤ monthStart leap (monthOf leap d) + 31 := by
  cases leap with
  | false =>
      apply start_spec (by decide) (Nat.zero_le d)
      simp only [List.getLast]
      omega
  | true =>
      apply start_spec (by decide) (Nat.zero_le d)
      simp only [List.getLast]
      omega

lemma dateText_lt {day day' : ℕ} (h : day < day') (h' : day' < daysBeforeYear 10000) :
    dateText day < dateText day' ∧ (dateText day).length = (dateText day').length := by
  have hyear' := yearOf_lt h'
  have hyear := (yearOf_mono h.le).trans_lt hyear'
  have hlen {n m : ℕ} (hn : n < 10000) (hm : m < 10000) : (yearText n).length = (yearText m).length := by
    simp [yearText, hn, hm]
  refine ⟨?_, by simp [dateText, hlen hyear hyear']⟩
  apply field_lt (hlen hyear hyear')
  rcases (yearOf_mono h.le).lt_or_eq with hlt | heq
  · left
    simpa [yearText, hyear, hyear'] using pad_lt (by omega) hlt
  right
  refine ⟨by rw [heq], ?_⟩
  have hlow := (year_spec day).1
  have hd' := dayOfYear_lt day'
  rw [heq] at hlow
  simp only [heq]
  generalize isLeapYear (yearOf day') = leap
  have hdays : day - daysBeforeYear (yearOf day') < day' - daysBeforeYear (yearOf day') := by omega
  generalize day - daysBeforeYear (yearOf day') = d at *
  generalize day' - daysBeforeYear (yearOf day') = d' at *
  rw [List.cons_append, List.cons_append]
  apply cons_lt
  apply field_lt (by simp)
  rcases (monthOf_mono leap hdays.le).lt_or_eq with hlt | hsame
  · exact .inl (pad_lt (by have := monthOf_le leap d'; omega) hlt)
  · right
    refine ⟨by rw [hsame], ?_⟩
    have hstart := (monthStart_spec leap (hdays.trans hd')).1
    have hnear := (monthStart_spec leap hd').2
    rw [hsame] at hstart ⊢
    apply cons_lt
    apply pad_lt <;> omega

lemma timeText_lt {ms ms' : ℕ} (h : ms < ms') (h' : ms' < 86400000) : timeText ms < timeText ms' := by
  apply field_lt (by simp)
  rcases Nat.lt_or_ge (ms / 3600000) (ms' / 3600000) with hlt | hge
  · exact .inl (pad_lt (by omega) hlt)
  refine .inr ⟨by rw [show ms / 3600000 = ms' / 3600000 by omega], ?_⟩
  rw [List.cons_append, List.cons_append]
  apply cons_lt
  apply field_lt (by simp)
  rcases Nat.lt_or_ge (ms / 60000 % 60) (ms' / 60000 % 60) with hlt | hge
  · exact .inl (pad_lt (by omega) hlt)
  refine .inr ⟨by rw [show ms / 60000 % 60 = ms' / 60000 % 60 by omega], ?_⟩
  rw [List.cons_append, List.cons_append]
  apply cons_lt
  apply field_lt (by simp)
  rcases Nat.lt_or_ge (ms / 1000 % 60) (ms' / 1000 % 60) with hlt | hge
  · exact .inl (pad_lt (by omega) hlt)
  refine .inr ⟨by rw [show ms / 1000 % 60 = ms' / 1000 % 60 by omega], ?_⟩
  apply cons_lt
  apply field_lt (by simp)
  exact .inl (pad_lt (by omega) (by omega))

theorem rfc3339_strictMonoOn : StrictMonoOn rfc3339 {t | InYears t} := by
  intro s hs t ht h
  obtain ⟨hs, -⟩ := hs
  obtain ⟨-, ht⟩ := ht
  have hlt : (s + epochMs).toNat < (t + epochMs).toNat := by
    simp only [yearsStart, epochMs] at *
    omega
  have hbound : (t + epochMs).toNat < 86400000 * daysBeforeYear 10000 := by
    simp only [epochMs, yearsEnd, daysBeforeYear] at *
    omega
  simp only [rfc3339]
  generalize (s + epochMs).toNat = n at *
  generalize (t + epochMs).toNat = m at *
  rw [String.lt_iff_toList_lt, String.toList_ofList, String.toList_ofList]
  rcases Nat.lt_or_ge (n / 86400000) (m / 86400000) with hday | hday
  · obtain ⟨hdate, hlen⟩ := dateText_lt hday (by omega)
    exact append_lt_of_lt hlen hdate
  · rw [show n / 86400000 = m / 86400000 by omega]
    exact append_lt_append (cons_lt 'T' (timeText_lt (by omega) (by omega)))

theorem rfc3339_lt {s t : ℤ} (hs : InYears s) (ht : InYears t) : rfc3339 s < rfc3339 t ↔ s < t :=
  rfc3339_strictMonoOn.lt_iff_lt hs ht

theorem rfc3339_le {s t : ℤ} (hs : InYears s) (ht : InYears t) : rfc3339 s ≤ rfc3339 t ↔ s ≤ t :=
  rfc3339_strictMonoOn.le_iff_le hs ht

example : rfc3339 1709208061007 = "2024-02-29T12:01:01.007Z" ∧ rfc3339 (-1) = "1969-12-31T23:59:59.999Z" := by
  decide

end Aokie.Lib
