import Aokie.Lib.Run

/-! The caller's audio on its way up: a resampler that goes from one rate to a higher one, chunk by chunk. -/

namespace Aokie.Plugin.RealtimeVoice

open Aokie.Lib

def clampI16 (x : ℤ) : Int16 := Int16.ofInt (max (-32768) (min x 32767))

/-- A resampler between rates that do not fall, which has no anti-alias filter. The counters are exact. -/
structure StreamingResampler where
  fromRate : ℕ
  toRate : ℕ
  previous : Option Int16
  inputIndex : ℕ
  nextOutputPosition : ℕ
  rates : 0 < fromRate ∧ fromRate ≤ toRate

namespace StreamingResampler

def new (fromRate toRate : ℕ) (h : fromRate ≤ toRate) : StreamingResampler where
  fromRate := max fromRate 1
  toRate := max toRate 1
  previous := none
  inputIndex := 0
  nextOutputPosition := 0
  rates := by omega

/-- Between two samples, `alpha` of `to` on the way; `/` drops what is behind the point. -/
def interpolated (toRate : ℕ) (previous current : Int16) (alpha : ℕ) : Int16 :=
  let delta := current.toInt - previous.toInt
  clampI16 (previous.toInt + (delta * alpha + (toRate / 2 : ℕ)).tdiv toRate)

/-- The `while` loop up to `right`: what it writes, and the next position. -/
def drain (step toRate : ℕ) (previous current : Int16) (left right : ℕ) : ℕ → ℕ → List Int16 × ℕ
  | 0, next => ([], next)
  | fuel + 1, next =>
    if next ≤ right then
      let rest := drain step toRate previous current left right fuel (next + step)
      (interpolated toRate previous current (min (next - left) toRate) :: rest.1, rest.2)
    else ([], next)

/-- One sample of the `for` loop. -/
def push : Machine StreamingResampler Int16 (List Int16) := fun r current =>
  match r.previous with
  | some previous =>
    let right := r.inputIndex * r.toRate
    let left := right - r.toRate
    let (output, next) := drain r.fromRate r.toRate previous current left right
      (right + 1 - r.nextOutputPosition) r.nextOutputPosition
    ({ r with previous := some current, inputIndex := r.inputIndex + 1, nextOutputPosition := next }, output)
  | none =>
    ({ r with previous := some current, inputIndex := r.inputIndex + 1, nextOutputPosition := r.fromRate }, [current])

/-- `process`: the samples of one chunk. -/
def process : Machine StreamingResampler (List Int16) (List Int16) := fun r input =>
  (push.final r input, (push.outputs r input).flatten)

def processed (r : StreamingResampler) (chunks : List (List Int16)) : List Int16 := (process.outputs r chunks).flatten

end StreamingResampler

/-! ### Linear interpolation, in units of one over the rate -/

/-- `to` times the interpolation of the samples at position `p / to`. -/
def lerp (samples : List Int16) (toRate p : ℕ) : ℤ :=
  let x := (samples.getD (p / toRate) 0).toInt
  x * toRate + ((samples.getD (p / toRate + 1) 0).toInt - x) * (p % toRate : ℕ)

def Nearest (samples : List Int16) (toRate p : ℕ) (y : Int16) : Prop :=
  2 * |y.toInt * toRate - lerp samples toRate p| ≤ toRate

/-- What the code divides for the output at position `p`: the step it lies on, its end taken with it. -/
def dividend (samples : List Int16) (toRate p : ℕ) : ℤ :=
  let i := (p - 1) / toRate
  ((samples.getD (i + 1) 0).toInt - (samples.getD i 0).toInt) * (p - i * toRate : ℕ) + (toRate / 2 : ℕ)

namespace StreamingResampler

/-- The output at position `p`, of the samples it lies between. -/
def outputAt (samples : List Int16) (toRate p : ℕ) : Int16 :=
  let i := (p - 1) / toRate
  if p = 0 then samples.getD 0 0 else interpolated toRate (samples.getD i 0) (samples.getD (i + 1) 0) (p - i * toRate)

/-- What the outputs of a resampler over all chunks are to be. -/
structure Upsamples (fromRate toRate : ℕ) (h : fromRate ≤ toRate) (chunks : List (List Int16)) : Prop where
  cuts : ∀ chunks', chunks'.flatten = chunks.flatten → processed (new fromRate toRate h) chunks' = processed
    (new fromRate toRate h) chunks
  count : ∀ n, chunks.flatten.length = n + 1 →
    (processed (new fromRate toRate h) chunks).length = n * max toRate 1 / max fromRate 1 + 1
  nearest : ∀ k y, (processed (new fromRate toRate h) chunks)[k]? = some y →
    Nearest chunks.flatten (max toRate 1) (k * max fromRate 1) y
  equal : fromRate = toRate → processed (new fromRate toRate h) chunks = chunks.flatten

/-- Where the rounding is right at every output: the number divided is not negative, or nothing is dropped of it. -/
def RoundsWell (fromRate toRate : ℕ) (samples : List Int16) : Prop :=
  ∀ k, 0 < k → k * max fromRate 1 ≤ (samples.length - 1) * max toRate 1 →
    0 ≤ dividend samples (max toRate 1) (k * max fromRate 1) ∨
      ((max toRate 1 : ℕ) : ℤ) ∣ dividend samples (max toRate 1) (k * max fromRate 1)

/-! ### One rounding -/

section Rounding

variable {toRate : ℕ} {delta : ℤ} {alpha : ℕ}

lemma quotient_between (delta : ℤ) (hto : 0 < toRate) (halpha : alpha ≤ toRate) :
    (0 ≤ delta → 0 ≤ (delta * alpha + (toRate / 2 : ℕ)).tdiv toRate ∧
      (delta * alpha + (toRate / 2 : ℕ)).tdiv toRate ≤ delta) ∧
      (delta ≤ 0 → delta ≤ (delta * alpha + (toRate / 2 : ℕ)).tdiv toRate ∧
        (delta * alpha + (toRate / 2 : ℕ)).tdiv toRate ≤ 0) := by
  have hpos : (0 : ℤ) < toRate := by exact_mod_cast hto
  have hhalf : ((toRate / 2 : ℕ) : ℤ) < toRate := by omega
  constructor
  · intro hdelta
    have hstep : delta * alpha ≤ delta * toRate := mul_le_mul_of_nonneg_left (by exact_mod_cast halpha) hdelta
    have hnonneg : 0 ≤ delta * alpha := mul_nonneg hdelta (by positivity)
    rw [Int.tdiv_eq_ediv_of_nonneg (by omega)]
    refine ⟨Int.ediv_nonneg (by omega) hpos.le, ?_⟩
    have hlt : (delta * alpha + (toRate / 2 : ℕ)) / toRate < delta + 1 := by
      rw [Int.ediv_lt_iff_lt_mul hpos, add_mul, one_mul]
      omega
    omega
  · intro hdelta
    have hstep : delta * toRate ≤ delta * alpha := mul_le_mul_of_nonpos_left (by exact_mod_cast halpha) hdelta
    have hnonpos : delta * alpha ≤ 0 := mul_nonpos_of_nonpos_of_nonneg hdelta (by positivity)
    rcases le_or_gt 0 (delta * alpha + (toRate / 2 : ℕ)) with hsign | hsign
    · rw [Int.tdiv_eq_ediv_of_nonneg hsign, Int.ediv_eq_zero_of_lt hsign (by omega)]
      exact ⟨hdelta, le_refl 0⟩
    · have hneg : (delta * alpha + (toRate / 2 : ℕ)).tdiv toRate =
          -((-(delta * alpha + (toRate / 2 : ℕ))) / toRate) := by
        rw [← Int.tdiv_eq_ediv_of_nonneg (by omega), Int.neg_tdiv, neg_neg]
      rw [hneg]
      have hlow : 0 ≤ (-(delta * alpha + (toRate / 2 : ℕ))) / toRate := Int.ediv_nonneg (by omega) hpos.le
      have hhigh : (-(delta * alpha + (toRate / 2 : ℕ))) / toRate < -delta + 1 := by
        rw [Int.ediv_lt_iff_lt_mul hpos, add_mul, one_mul, neg_mul]
        omega
      omega

lemma quotient_nearest (hto : 0 < toRate) (d : ℤ) :
    2 * |(d + (toRate / 2 : ℕ)).tdiv toRate * toRate - d| ≤ toRate ↔ 0 ≤ d + (toRate / 2 : ℕ) ∨
    (toRate : ℤ) ∣ d + (toRate / 2 : ℕ) := by
  have hpos : (0 : ℤ) < toRate := by exact_mod_cast hto
  rcases le_or_gt 0 (d + (toRate / 2 : ℕ)) with hsign | hsign
  · -- rounded down from the half above
    refine iff_of_true ?_ (.inl hsign)
    rw [Int.tdiv_eq_ediv_of_nonneg hsign]
    have hrest := Int.emod_nonneg (d + (toRate / 2 : ℕ)) hpos.ne'
    have hsmall := Int.emod_lt_of_pos (d + (toRate / 2 : ℕ)) hpos
    have hdiv := Int.emod_add_ediv_mul (d + (toRate / 2 : ℕ)) toRate
    have hhalves : -(toRate : ℤ) ≤ 2 * ((d + (toRate / 2 : ℕ)) / toRate * toRate - d) ∧
        2 * ((d + (toRate / 2 : ℕ)) / toRate * toRate - d) ≤ toRate := by omega
    rcases abs_cases ((d + (toRate / 2 : ℕ)) / toRate * toRate - d) with ⟨habs, -⟩ | ⟨habs, -⟩ <;> rw [habs] <;> omega
  · by_cases hdvd : (toRate : ℤ) ∣ d + (toRate / 2 : ℕ)
    · refine iff_of_true ?_ (.inr hdvd)
      rw [Int.tdiv_mul_cancel hdvd]
      rw [abs_of_nonneg (by omega)]
      omega
    · -- rounded up from the half above, which is more than one half too far
      refine iff_of_false ?_ fun h => h.elim (not_le.2 hsign) hdvd
      have hneg : (d + (toRate / 2 : ℕ)).tdiv toRate = -((-(d + (toRate / 2 : ℕ))) / toRate) := by
        rw [← Int.tdiv_eq_ediv_of_nonneg (by omega), Int.neg_tdiv, neg_neg]
      have hrest : 0 < (-(d + (toRate / 2 : ℕ))) % toRate := by
        apply lt_of_le_of_ne (Int.emod_nonneg _ hpos.ne')
        intro hzero
        exact hdvd (Int.dvd_neg.1 (Int.dvd_of_emod_eq_zero hzero.symm))
      have hdiv := Int.emod_add_ediv_mul (-(d + (toRate / 2 : ℕ))) toRate
      rw [hneg, neg_mul, abs_of_nonneg (by omega)]
      omega

end Rounding

/-! ### One output -/

lemma clampI16_between {a b : Int16} {x : ℤ} (h : a.toInt ≤ x ∧ x ≤ b.toInt ∨ b.toInt ≤ x ∧ x ≤ a.toInt) :
    (clampI16 x).toInt = x := by
  have ha := a.le_toInt
  have hb := b.le_toInt
  have ha' := a.toInt_lt
  have hb' := b.toInt_lt
  have hclamp : max (-32768) (min x 32767) = x := by omega
  rw [clampI16, hclamp, Int16.toInt_ofInt_of_le (by omega) (by omega)]

lemma interpolated_toInt {toRate : ℕ} (hto : 0 < toRate) (previous current : Int16) {alpha : ℕ}
    (halpha : alpha ≤ toRate) :
    (interpolated toRate previous current alpha).toInt =
      previous.toInt + ((current.toInt - previous.toInt) * alpha + (toRate / 2 : ℕ)).tdiv toRate := by
  obtain ⟨hrise, hfall⟩ := quotient_between (current.toInt - previous.toInt) hto halpha
  apply clampI16_between (a := previous) (b := current)
  rcases le_total 0 (current.toInt - previous.toInt) with h | h
  · have := hrise h
    exact .inl (by omega)
  · have := hfall h
    exact .inr (by omega)

lemma lerp_on_step (samples : List Int16) {toRate p : ℕ} (hto : 0 < toRate) (hp : 0 < p) :
    lerp samples toRate p = (samples.getD ((p - 1) / toRate) 0).toInt * toRate +
      ((samples.getD ((p - 1) / toRate + 1) 0).toInt - (samples.getD ((p - 1) / toRate) 0).toInt) *
        (p - (p - 1) / toRate * toRate : ℕ) := by
  have hpred := Nat.div_add_mod (p - 1) toRate
  have hrest := Nat.mod_lt (p - 1) hto
  by_cases hend : (p - 1) % toRate + 1 = toRate
  · -- the end of the step is the next sample
    have hwhole : p = ((p - 1) / toRate + 1) * toRate := by rw [add_mul, one_mul, mul_comm]; omega
    have hdiv : p / toRate = (p - 1) / toRate + 1 := by
      conv_lhs => rw [hwhole]
      exact Nat.mul_div_cancel _ hto
    have hmod : p % toRate = 0 := by
      rw [hwhole]
      exact Nat.mul_mod_left _ _
    have halpha : p - (p - 1) / toRate * toRate = toRate := by
      rw [mul_comm] at hpred
      omega
    rw [lerp, hdiv, hmod, halpha]
    push_cast
    ring
  · have hdiv : p / toRate = (p - 1) / toRate := by
      apply Nat.div_eq_of_lt_le
      · rw [mul_comm]
        omega
      · rw [add_mul, one_mul, mul_comm]
        omega
    have hmod : p % toRate = p - (p - 1) / toRate * toRate := by
      have := Nat.div_add_mod p toRate
      rw [hdiv, mul_comm] at this
      omega
    rw [lerp, hdiv, hmod]

lemma alpha_le {toRate p : ℕ} (hto : 0 < toRate) (hp : 0 < p) : p - (p - 1) / toRate * toRate ≤ toRate := by
  have hpred := Nat.div_add_mod (p - 1) toRate
  have hrest := Nat.mod_lt (p - 1) hto
  rw [mul_comm] at hpred
  omega

theorem outputAt_nearest (samples : List Int16) {toRate p : ℕ} (hto : 0 < toRate) (hp : 0 < p) :
    Nearest samples toRate p (outputAt samples toRate p) ↔
      0 ≤ dividend samples toRate p ∨ (toRate : ℤ) ∣ dividend samples toRate p := by
  rw [Nearest, lerp_on_step samples hto hp]
  simp only [outputAt, if_neg hp.ne', dividend]
  rw [interpolated_toInt hto _ _ (alpha_le hto hp), ← quotient_nearest hto, add_mul, add_sub_add_left_eq_sub]

theorem outputAt_zero_nearest (samples : List Int16) (toRate : ℕ) :
    Nearest samples toRate 0 (outputAt samples toRate 0) := by
  simp [Nearest, lerp, outputAt]

/-! ### The loop -/

lemma drain_eq {step toRate : ℕ} (hstep : 0 < step) (previous current : Int16) (left right : ℕ) :
    ∀ fuel next, right + 1 ≤ next + fuel →
      drain step toRate previous current left right fuel next =
        ((List.range ((right + step - next) / step)).map fun j =>
          interpolated toRate previous current (min (next + j * step - left) toRate),
          next + (right + step - next) / step * step) := by
  intro fuel
  induction fuel with
  | zero =>
    intro next hfuel
    have hnone : (right + step - next) / step = 0 := Nat.div_eq_of_lt (by omega)
    simp [drain, hnone]
  | succ fuel ih =>
    intro next hfuel
    rw [drain]
    split_ifs with hnext
    · have hmore : (right + step - next) / step = (right + step - (next + step)) / step + 1 := by
        rw [← Nat.add_div_right _ hstep]
        congr 1
        omega
      rw [ih (next + step) (by omega), hmore, List.range_succ_eq_map, List.map_cons, List.map_map]
      refine Prod.ext (List.cons_eq_cons.2 ⟨by simp, List.map_congr_left fun j _ => ?_⟩) ?_
      · simp only [Function.comp_apply, Nat.succ_eq_add_one, add_mul, one_mul]
        congr 3
        omega
      · simp only [add_mul, one_mul]
        omega
    · have hnone : (right + step - next) / step = 0 := Nat.div_eq_of_lt (by omega)
      simp [hnone]

/-! ### The run -/

def produced (fromRate toRate n : ℕ) : ℕ := if n = 0 then 0 else (n - 1) * toRate / fromRate + 1

/-- After these samples: what the resampler carries and what it has written. -/
structure Tracks (fromRate toRate : ℕ) (samples : List Int16) (r : StreamingResampler) (output : List Int16) :
    Prop where
  fromRate_eq : r.fromRate = fromRate
  toRate_eq : r.toRate = toRate
  previous : r.previous = samples[samples.length - 1]?
  inputIndex : r.inputIndex = samples.length
  next : samples ≠ [] → r.nextOutputPosition = produced fromRate toRate samples.length * fromRate
  output : output = (List.range (produced fromRate toRate samples.length)).map fun k =>
    outputAt samples toRate (k * fromRate)

lemma tracks_new (fromRate toRate : ℕ) (h : fromRate ≤ toRate) :
    Tracks (max fromRate 1) (max toRate 1) [] (new fromRate toRate h) [] where
  fromRate_eq := rfl
  toRate_eq := rfl
  previous := rfl
  inputIndex := rfl
  next h := absurd rfl h
  output := rfl

lemma outputAt_append (samples : List Int16) (x : Int16) {toRate p : ℕ} (hto : 0 < toRate) (hsome : samples ≠ [])
    (hp : p ≤ (samples.length - 1) * toRate) : outputAt (samples ++ [x]) toRate p = outputAt samples toRate p := by
  have hlength := List.length_pos_of_ne_nil hsome
  by_cases hzero : p = 0
  · simp only [outputAt, hzero, if_true]
    exact List.getD_append _ _ _ _ hlength
  · have hstep : (p - 1) / toRate < samples.length - 1 := by
      rw [Nat.div_lt_iff_lt_mul hto]
      omega
    simp only [outputAt, if_neg hzero]
    rw [List.getD_append _ _ _ _ (by omega), List.getD_append _ _ _ _ (by omega)]

lemma outputAt_newest {samples : List Int16} {n : ℕ} (hlast : n < samples.length)
    (hn : samples.length = n + 1) (x : Int16)
    {toRate p : ℕ} (hlow : n * toRate < p) (hhigh : p ≤ (n + 1) * toRate) :
    outputAt (samples ++ [x]) toRate p = interpolated toRate samples[n] x
      (min (p - ((n + 1) * toRate - toRate)) toRate) := by
  have hstep : (p - 1) / toRate = n := by
    apply Nat.div_eq_of_lt_le
    · omega
    · omega
  have hleft : (n + 1) * toRate - toRate = n * toRate := by rw [add_mul, one_mul, Nat.add_sub_cancel]
  have hstart : (samples ++ [x]).getD n 0 = samples[n] := by
    rw [List.getD_append _ _ _ _ hlast]
    exact List.getD_eq_getElem _ _ hlast
  have hend : (samples ++ [x]).getD (n + 1) 0 = x := by simp [← hn]
  have halpha : min (p - n * toRate) toRate = p - n * toRate := by
    rw [add_mul, one_mul] at hhigh
    omega
  simp only [outputAt, if_neg (by omega : p ≠ 0)]
  rw [hstep, hstart, hend, hleft, halpha]

lemma produced_mul_le {fromRate toRate n k : ℕ} (hfrom : 0 < fromRate) (hn : n ≠ 0) :
    k < produced fromRate toRate n ↔ k * fromRate ≤ (n - 1) * toRate := by
  rw [produced, if_neg hn, Nat.lt_succ_iff, Nat.le_div_iff_mul_le hfrom]

/-- One sample keeps track. -/
theorem Tracks.push {fromRate toRate : ℕ} {samples : List Int16} {r : StreamingResampler} {output : List Int16}
    (h : Tracks fromRate toRate samples r output) (x : Int16) :
    Tracks fromRate toRate (samples ++ [x]) (StreamingResampler.push r x).1
      (output ++ (StreamingResampler.push r x).2) := by
  obtain ⟨hfrom, hle⟩ := r.rates
  rw [h.fromRate_eq] at hfrom hle
  rw [h.toRate_eq] at hle
  have hto : 0 < toRate := by omega
  by_cases hsamples : samples = []
  case pos =>
    subst hsamples
    have hprevious : r.previous = none := h.previous
    have houtput : output = [] := h.output
    have hone : produced fromRate toRate 1 = 1 := by simp [produced]
    constructor <;> simp [StreamingResampler.push, hprevious, houtput, h.fromRate_eq, h.toRate_eq, h.inputIndex,
      hone, outputAt]
  case neg =>
    have hlength := List.length_pos_of_ne_nil hsamples
    obtain ⟨n, hn⟩ : ∃ n, samples.length = n + 1 := ⟨samples.length - 1, by omega⟩
    have hlast : n < samples.length := by omega
    have hprevious :
        r.previous = some samples[n] := by rw [h.previous, hn, Nat.add_sub_cancel, List.getElem?_eq_getElem hlast]
    have hnext : r.nextOutputPosition = (n * toRate / fromRate + 1) * fromRate := by
      rw [h.next hsamples, hn, produced, if_neg (Nat.succ_ne_zero n), Nat.add_sub_cancel]
    -- what the loop adds: the positions after the last one up to the new sample
    have hadded : ((n + 1) * toRate + fromRate - (n * toRate / fromRate + 1) * fromRate) / fromRate =
        (n + 1) * toRate / fromRate - n * toRate / fromRate := by
      rw [add_mul (n * toRate / fromRate), one_mul, Nat.add_sub_add_right, mul_comm (n * toRate / fromRate),
        Nat.sub_mul_div]
    have hmono : n * toRate / fromRate ≤ (n + 1) * toRate / fromRate :=
        Nat.div_le_div_right (Nat.mul_le_mul_right _ (by omega))
    have hpush : StreamingResampler.push r x =
        ({ r with
            previous := some x
            inputIndex := n + 1 + 1
            nextOutputPosition := (n * toRate / fromRate + 1) * fromRate +
              ((n + 1) * toRate / fromRate - n * toRate / fromRate) * fromRate },
          (List.range ((n + 1) * toRate / fromRate - n * toRate / fromRate)).map fun j =>
            interpolated toRate samples[n] x
            (min ((n * toRate / fromRate + 1) * fromRate + j * fromRate - ((n + 1) * toRate - toRate)) toRate)) := by
      rw [StreamingResampler.push, hprevious]
      simp only [h.inputIndex, h.toRate_eq, h.fromRate_eq, hn, hnext]
      rw [drain_eq hfrom _ _ _ _ _ _ (by omega), hadded]
    have hcount : produced fromRate toRate (samples ++ [x]).length =
        produced fromRate toRate samples.length + ((n + 1) * toRate / fromRate - n * toRate / fromRate) := by
      simp only [List.length_append, List.length_singleton, hn, produced, if_neg (Nat.succ_ne_zero _),
        Nat.add_sub_cancel]
      omega
    have hproduced : produced fromRate toRate samples.length = n * toRate / fromRate + 1 := by
      rw [hn, produced, if_neg (Nat.succ_ne_zero n), Nat.add_sub_cancel]
    rw [hpush]
    refine ⟨h.fromRate_eq, h.toRate_eq, by simp, by simp [hn], fun _ => ?_, ?_⟩
    · rw [hcount, hproduced]
      exact (add_mul _ _ _).symm
    · rw [hcount, List.range_add, List.map_append, List.map_map, h.output]
      congr 1
      · apply List.map_congr_left
        intro k hk
        have hbefore := (produced_mul_le hfrom (by omega)).1 (List.mem_range.1 hk)
        exact (outputAt_append samples x hto hsamples hbefore).symm
      · apply List.map_congr_left
        intro j hj
        have hj := List.mem_range.1 hj
        have hlow : n * toRate < (n * toRate / fromRate + 1 + j) * fromRate := by
          have := Nat.lt_succ_iff.2 (Nat.le_add_right (n * toRate / fromRate) j)
          exact (Nat.div_lt_iff_lt_mul hfrom).1 (by omega)
        have hhigh : (n * toRate / fromRate + 1 + j) * fromRate ≤ (n + 1) * toRate :=
          (Nat.le_div_iff_mul_le hfrom).1 (by omega)
        simp only [Function.comp_apply, hproduced]
        rw [outputAt_newest hlast hn x hlow hhigh, add_mul _ j]

theorem Tracks.run {fromRate toRate : ℕ} {samples : List Int16} {r : StreamingResampler} {output : List Int16}
    (h : Tracks fromRate toRate samples r output) (xs : List Int16) :
    Tracks fromRate toRate (samples ++ xs) (StreamingResampler.push.final r xs)
      (output ++ (StreamingResampler.push.outputs r xs).flatten) := by
  induction xs generalizing samples r output with
  | nil => simpa using h
  | cons x xs ih => simpa using ih (h.push x)

/-! ### The chunks -/

/-- The cuts do not matter. -/
theorem processed_eq (r : StreamingResampler) (chunks : List (List Int16)) :
    processed r chunks = (StreamingResampler.push.outputs r chunks.flatten).flatten := by
  induction chunks generalizing r with
  | nil => rfl
  | cons chunk chunks ih =>
    have hrest := ih (StreamingResampler.push.final r chunk)
    rw [processed] at hrest ⊢
    rw [Machine.outputs_cons, List.flatten_cons, List.flatten_cons, Machine.outputs_append,
      List.flatten_append, ← hrest]
    rfl

theorem processed_new (fromRate toRate : ℕ) (h : fromRate ≤ toRate) (chunks : List (List Int16)) :
    processed (new fromRate toRate h) chunks =
      (List.range (produced (max fromRate 1) (max toRate 1) chunks.flatten.length)).map fun k =>
        outputAt chunks.flatten (max toRate 1) (k * max fromRate 1) := by
  have hrun := ((tracks_new fromRate toRate h).run chunks.flatten).output
  rw [processed_eq]
  simpa using hrun

lemma eq_of_nearest {samples : List Int16} {rate k : ℕ} {y : Int16} (hrate : 0 < rate)
    (h : Nearest samples rate (k * rate) y) : y = samples.getD k 0 := by
  have hpos : (0 : ℤ) < rate := by exact_mod_cast hrate
  rw [Nearest, lerp, Nat.mul_div_cancel _ hrate, Nat.mul_mod_left] at h
  apply Int16.toInt.inj
  by_contra hne
  have hfar : (rate : ℤ) ≤ |y.toInt - (samples.getD k 0).toInt| * rate := by
    apply le_mul_of_one_le_left hpos.le
    exact Int.one_le_abs (sub_ne_zero.2 hne)
  rw [Nat.cast_zero, mul_zero, add_zero, ← sub_mul, abs_mul, abs_of_pos hpos] at h
  omega

/-- Cut as the input may be, the outputs are the nearest integers to its linear interpolation exactly where the rounding
is right at every output. -/
theorem upsamples_iff (fromRate toRate : ℕ) (h : fromRate ≤ toRate) (chunks : List (List Int16)) :
    Upsamples fromRate toRate h chunks ↔ RoundsWell fromRate toRate chunks.flatten := by
  have hfrom : 0 < max fromRate 1 := by omega
  have hto : 0 < max toRate 1 := by omega
  constructor
  · intro hup k hk hpos
    have hsome : chunks.flatten.length ≠ 0 := by
      intro hnone
      have : 0 < k * max fromRate 1 := Nat.mul_pos hk hfrom
      rw [hnone] at hpos
      omega
    have hnearest := hup.nearest k (outputAt chunks.flatten (max toRate 1) (k * max fromRate 1)) (by
      rw [processed_new, List.getElem?_map, List.getElem?_range ((produced_mul_le hfrom hsome).2 hpos)]
      rfl)
    exact (outputAt_nearest _ hto (Nat.mul_pos hk hfrom)).1 hnearest
  · intro hrounds
    have hnearest : ∀ k y, (processed (new fromRate toRate h) chunks)[k]? = some y →
        Nearest chunks.flatten (max toRate 1) (k * max fromRate 1) y := by
      intro k y hy
      rw [processed_new, List.getElem?_map, Option.map_eq_some_iff] at hy
      obtain ⟨j, hj, rfl⟩ := hy
      obtain ⟨hlt, rfl⟩ := List.getElem?_eq_some_iff.1 hj
      rw [List.length_range] at hlt
      rw [List.getElem_range]
      rcases Nat.eq_zero_or_pos k with rfl | hk
      · rw [zero_mul]
        exact outputAt_zero_nearest _ _
      · have hsome : chunks.flatten.length ≠ 0 := by
          intro hnone
          simp [produced, hnone] at hlt
        exact (outputAt_nearest _ hto (Nat.mul_pos hk hfrom)).2 (hrounds k hk ((produced_mul_le hfrom hsome).1 hlt))
    refine ⟨?_, ?_, hnearest, ?_⟩
    · intro chunks' hflatten
      rw [processed_eq, processed_eq, hflatten]
    · intro n hn
      rw [processed_new, List.length_map, List.length_range, hn, produced, if_neg (Nat.succ_ne_zero n),
        Nat.add_sub_cancel]
    · rintro rfl
      have hlength : (processed (new fromRate fromRate h) chunks).length = chunks.flatten.length := by
        rw [processed_new, List.length_map, List.length_range, produced]
        split_ifs with hnone
        · exact hnone.symm
        · rw [Nat.mul_div_cancel _ hfrom]
          omega
      apply List.ext_getElem hlength
      intro k hk hk'
      have hy := eq_of_nearest hfrom (hnearest k _ (List.getElem?_eq_getElem hk))
      rw [hy]
      exact List.getD_eq_getElem _ _ hk'

theorem upsamples_iff_rising : Upsamples 8000 24000 (by decide) [[1, 2], [3]] ↔ RoundsWell 8000 24000 [1, 2, 3] :=
  upsamples_iff 8000 24000 (by decide) [[1, 2], [3]]

/-- A third of the way down from 10 to 0 comes out as 8. -/
theorem falling_step_rounds_up : ¬∀ fromRate toRate h chunks, Upsamples fromRate toRate h chunks := by
  intro h
  have hnearest := (h 8000 24000 (by decide) [[10, 0]]).nearest 1 8 (by decide +kernel)
  revert hnearest
  simp only [Nearest, lerp]
  decide +kernel

end StreamingResampler

end Aokie.Plugin.RealtimeVoice
