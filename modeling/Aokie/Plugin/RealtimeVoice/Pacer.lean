import Aokie.Lib.Run

/-! The pace at which the assistant's audio is handed to the line, and what of it the caller can have heard. -/

namespace Aokie.Plugin.RealtimeVoice

open Aokie.Lib

def maxOutputBufferMs : ℕ := 30000
def outputLeadMs : ℕ := 80

def perSecond : ℕ := 1000000000

def elapsedSamples (rate : ℕ) (time : ℕ) : ℕ := time * rate / perSecond

structure OutputPacer where
  sampleRate : ℕ
  queued : List Int16
  startedAt : Option ℕ
  sentSamples : ℕ
  activeItem : Option String
  itemDone : Bool
  rate_pos : 0 < sampleRate

inductive OutputPacerPushError
  | staleItem | capacityExceeded
  deriving DecidableEq, Repr

namespace OutputPacer

def new (sampleRate : ℕ) : OutputPacer where
  sampleRate := max sampleRate 1
  queued := []
  startedAt := none
  sentSamples := 0
  activeItem := none
  itemDone := false
  rate_pos := by omega

variable (p : OutputPacer)

def startItem (itemId : String) : Except String OutputPacer :=
  if p.activeItem.any (· ≠ itemId) ∨ p.queued ≠ [] then .error "Desktop realtime attempted overlapping output playout"
  else .ok { p with activeItem := some itemId, itemDone := false, startedAt := none, sentSamples := 0 }

def push (itemId : String) (samples : List Int16) : Except OutputPacerPushError OutputPacer :=
  if p.activeItem ≠ some itemId then .error .staleItem
  else if p.sampleRate * maxOutputBufferMs / 1000 < p.queued.length + samples.length then .error .capacityExceeded
  else .ok { p with queued := p.queued ++ samples }

def settled : OutputPacer := { p with activeItem := none, itemDone := false, startedAt := none }

def finishItem (itemId : String) : Except String OutputPacer :=
  if p.activeItem ≠ some itemId then .error "Desktop realtime finished a stale output item"
  else if p.queued = [] then .ok p.settled
  else .ok { p with itemDone := true }

def leadSamples : ℕ := p.sampleRate * outputLeadMs / 1000

def takeReady (now : ℕ) (maxSamples : ℕ) : OutputPacer × List Int16 :=
  if p.queued = [] then (p, [])
  else
    let startedAt := p.startedAt.getD now
    let allowedTotal := elapsedSamples p.sampleRate (now - startedAt) + p.leadSamples
    let allowedNow := allowedTotal - p.sentSamples
    let take := min (min allowedNow maxSamples) p.queued.length
    let taken := { p with
        queued := p.queued.drop take, startedAt := some startedAt, sentSamples := p.sentSamples + take }
    (if taken.queued = [] ∧ taken.itemDone then taken.settled else taken, p.queued.take take)

def audiblePlayedMs (now : ℕ) : ℕ :=
  match p.startedAt with
  | none => 0
  | some startedAt => min p.sentSamples (elapsedSamples p.sampleRate (now - startedAt)) * 1000 / p.sampleRate

end OutputPacer

/-! ### The line -/

/-- A sink that plays what it was handed, in order and at its rate, as soon as it has it. It has been playing without a
break since an instant before which it had played `before` samples. -/
structure Sink where
  rate : ℕ
  since : ℕ
  before : ℕ
  handed : ℕ
  deriving Repr

namespace Sink

def idle (rate : ℕ) : Sink := ⟨rate, 0, 0, 0⟩

variable (s : Sink)

def played (now : ℕ) : ℕ := min s.handed (s.before + elapsedSamples s.rate (now - s.since))

def playedMs (now : ℕ) : ℕ := s.played now * 1000 / s.rate

def hand (now : ℕ) (count : ℕ) : Sink :=
  if s.played now = s.handed then { s with since := now, before := s.handed, handed := s.handed + count }
  else { s with handed := s.handed + count }

end Sink

/-! ### A run over one item -/

inductive Op
  | push (itemId : String) (samples : List Int16)
  | takeReady (now : ℕ) (maxSamples : ℕ)
  | finishItem (itemId : String)
  deriving DecidableEq, Repr

/-- The pacer and the line, with all that was pushed and all that was taken, and the time of the last take. -/
structure Playout where
  pacer : OutputPacer
  sink : Sink
  pushed : List Int16
  taken : List Int16
  now : ℕ

namespace Playout

def start (sampleRate : ℕ) (itemId : String) : Playout where
  pacer := ((OutputPacer.new sampleRate).startItem itemId).toOption.getD (OutputPacer.new sampleRate)
  sink := .idle (max sampleRate 1)
  pushed := []
  taken := []
  now := 0

def step : Machine Playout Op Unit := fun s op =>
  (match op with
  | .push itemId samples =>
    match s.pacer.push itemId samples with
    | .ok pacer => { s with pacer := pacer, pushed := s.pushed ++ samples }
    | .error _ => s
  | .takeReady now maxSamples =>
    let (pacer, output) := s.pacer.takeReady now maxSamples
    { s with
      pacer := pacer
      taken := s.taken ++ output
      sink := if output = [] then s.sink else s.sink.hand now output.length
      now := now }
  | .finishItem itemId =>
    match s.pacer.finishItem itemId with
    | .ok pacer => { s with pacer := pacer }
    | .error _ => s, ())

def Timely (s : Playout) : Op → Prop
  | .takeReady now _ => s.now ≤ now
  | _ => True

def InOrder (s : Playout) : Prop := s.taken ++ s.pacer.queued = s.pushed

/-- The line is not ahead of the allowance, and nobody is taken to have heard what it has not played. -/
structure Paced (s : Playout) : Prop where
  lead : ∀ t, s.now ≤ t → s.sink.handed - s.sink.played t ≤ s.pacer.leadSamples
  audible : ∀ t, s.now ≤ t → s.pacer.audiblePlayedMs t ≤ s.sink.playedMs t

/-- The line has not stood still: where the clock runs as more is taken, all that was sent had not been played out
before. -/
def Fed (s : Playout) : Op → Prop
  | .takeReady now _ =>
    s.pacer.queued ≠ [] → ∀ startedAt, s.pacer.startedAt = some startedAt →
      (now - startedAt) * s.pacer.sampleRate ≤ s.pacer.sentSamples * perSecond
  | _ => True

end Playout

/-! ### What a take does -/

namespace OutputPacer

variable {p : OutputPacer}

/-- What a take with something queued leaves: `n` samples are taken, no more than the clock and the lead allow, and the
clock runs on unless the item is over. -/
structure Took (p : OutputPacer) (startedAt now : ℕ) (n : ℕ) (r : OutputPacer × List Int16) : Prop where
  output : r.2 = p.queued.take n
  queued : r.1.queued = p.queued.drop n
  count : n ≤ p.queued.length
  sampleRate : r.1.sampleRate = p.sampleRate
  sent : r.1.sentSamples = p.sentSamples + n
  allowed : p.sentSamples + n ≤ max p.sentSamples (elapsedSamples p.sampleRate (now - startedAt) + p.leadSamples)
  clock : r.1.startedAt = some startedAt ∨ r.1.startedAt = none ∧ r.1.activeItem = none ∧ r.1.queued = []

lemma takeReady_took (hqueued : p.queued ≠ []) (now : ℕ) (maxSamples : ℕ) :
    ∃ n, p.Took (p.startedAt.getD now) now n (p.takeReady now maxSamples) := by
  refine ⟨min (min (elapsedSamples p.sampleRate
    (now - p.startedAt.getD now) + p.leadSamples - p.sentSamples) maxSamples)
    p.queued.length, ?_⟩
  rw [takeReady, if_neg hqueued]
  simp only
  split_ifs with hover
  · refine ⟨rfl, rfl, by omega, rfl, rfl, by omega, .inr ⟨rfl, rfl, hover.1⟩⟩
  · exact ⟨rfl, rfl, by omega, rfl, rfl, by omega, .inl rfl⟩

lemma takeReady_empty (hqueued : p.queued = []) (now : ℕ) (maxSamples : ℕ) : p.takeReady now maxSamples = (p, []) := by
  rw [takeReady, if_pos hqueued]

lemma push_ok {itemId : String} {samples : List Int16} {p' : OutputPacer} (h : p.push itemId samples = .ok p') :
    p.activeItem = some itemId ∧ p' = { p with queued := p.queued ++ samples } := by
  unfold push at h
  split_ifs at h with hitem
  exact ⟨not_not.1 hitem, (Except.ok.inj h).symm⟩

lemma finishItem_ok {itemId : String} {p' : OutputPacer} (h : p.finishItem itemId = .ok p') :
    p.queued = [] ∧ p' = p.settled ∨ p' = { p with itemDone := true } := by
  unfold finishItem at h
  split_ifs at h with hitem hqueued
  · exact .inl ⟨hqueued, (Except.ok.inj h).symm⟩
  · exact .inr (Except.ok.inj h).symm

end OutputPacer

/-! ### A line in step with a clock -/

lemma elapsedSamples_mono (rate : ℕ) {a b : ℕ} (h : a ≤ b) : elapsedSamples rate a ≤ elapsedSamples rate b :=
  Nat.div_le_div_right (Nat.mul_le_mul_right rate h)

namespace Sink

variable {s : Sink} {origin now : ℕ}

/-- The line has played since this instant as if it had never run dry. -/
structure InStep (s : Sink) (origin now : ℕ) : Prop where
  began : origin ≤ s.since
  since_le : s.since ≤ now
  before_eq : s.before * perSecond = (s.since - origin) * s.rate

lemma InStep.played (h : s.InStep origin now) {t : ℕ} (ht : now ≤ t) :
    s.played t = min s.handed (elapsedSamples s.rate (t - origin)) := by
  have hsplit : (t - origin) * s.rate = (t - s.since) * s.rate + s.before * perSecond := by
    have hsum : t - origin = (t - s.since) + (s.since - origin) := by
      have := h.began
      have := h.since_le
      omega
    rw [h.before_eq, hsum, add_mul]
  rw [Sink.played, elapsedSamples, elapsedSamples, hsplit, Nat.add_mul_div_right _ _ (by decide), add_comm]

lemma InStep.mono (h : s.InStep origin now) {t : ℕ} (ht : now ≤ t) : s.InStep origin t :=
  ⟨h.began, h.since_le.trans ht, h.before_eq⟩

@[simp] lemma hand_handed (s : Sink) (now : ℕ) (count : ℕ) : (s.hand now count).handed = s.handed + count := by
  unfold hand
  split_ifs <;> rfl

@[simp] lemma hand_rate (s : Sink) (now : ℕ) (count : ℕ) : (s.hand now count).rate = s.rate := by
  unfold hand
  split_ifs <;> rfl

lemma InStep.hand (h : s.InStep origin now) {t : ℕ} (ht : now ≤ t) (hfed : (t - origin) * s.rate ≤ s.handed * perSecond)
    (count : ℕ) : (s.hand t count).InStep origin t := by
  unfold Sink.hand
  split_ifs with hdry
  · -- it runs dry at this very instant
    refine ⟨h.began.trans (h.since_le.trans ht), le_refl t, ?_⟩
    rw [h.played ht] at hdry
    have hplayed : s.handed ≤ (t - origin) * s.rate / perSecond := by
      change s.handed ≤ elapsedSamples s.rate (t - origin)
      omega
    exact le_antisymm ((Nat.le_div_iff_mul_le (by decide)).1 hplayed) hfed
  · exact ⟨h.began, h.since_le.trans ht, h.before_eq⟩

lemma inStep_hand_first (hnone : s.handed = 0) (t : ℕ) (count : ℕ) : (s.hand t count).InStep t t := by
  have hdry : s.played t = s.handed := by simp [Sink.played, hnone]
  rw [Sink.hand, if_pos hdry]
  exact ⟨le_refl t, le_refl t, by simp [hnone]⟩

end Sink

/-! ### Every run -/

namespace Playout

variable {s : Playout}

theorem inOrder_start (sampleRate : ℕ) (itemId : String) : (start sampleRate itemId).InOrder := rfl

theorem inOrder_step (s : Playout) (op : Op) (h : s.InOrder) : (step s op).1.InOrder := by
  unfold InOrder at h ⊢
  cases op with
  | push itemId samples =>
    cases hpush : s.pacer.push itemId samples with
    | error e => simpa [step, hpush] using h
    | ok pacer =>
      obtain ⟨-, rfl⟩ := OutputPacer.push_ok hpush
      simp [step, hpush, ← h]
  | takeReady now maxSamples =>
    by_cases hqueued : s.pacer.queued = []
    · simpa [step, OutputPacer.takeReady_empty hqueued] using h
    · obtain ⟨n, htook⟩ := OutputPacer.takeReady_took hqueued now maxSamples
      simp [step, htook.output, htook.queued, ← h]
  | finishItem itemId =>
    cases hfinish : s.pacer.finishItem itemId with
    | error e => simpa [step, hfinish] using h
    | ok pacer =>
      rcases OutputPacer.finishItem_ok hfinish with ⟨-, rfl⟩ | rfl
      · simpa [step, hfinish, OutputPacer.settled] using h
      · simpa [step, hfinish] using h

/-- What a run that keeps the line fed keeps: the line is in step with the pacer's clock, and has no more than the
allowance. -/
structure Kept (s : Playout) : Prop where
  rate : s.sink.rate = s.pacer.sampleRate
  ended : s.pacer.startedAt = none → s.sink.handed = 0 ∧ s.pacer.sentSamples = 0 ∨ s.pacer.activeItem = none ∧
    s.pacer.queued = []
  clock : ∀ startedAt, s.pacer.startedAt = some startedAt → startedAt ≤ s.now ∧ s.sink.handed = s.pacer.sentSamples
  line : s.sink.handed = 0 ∨ ∃ origin, s.sink.InStep origin s.now ∧
    s.sink.handed ≤ elapsedSamples s.pacer.sampleRate (s.now - origin) + s.pacer.leadSamples ∧
    ∀ startedAt, s.pacer.startedAt = some startedAt → startedAt = origin

theorem kept_start (sampleRate : ℕ) (itemId : String) : (start sampleRate itemId).Kept where
  rate := rfl
  ended _ := .inl ⟨rfl, rfl⟩
  clock startedAt h := by simp [start, OutputPacer.startItem, OutputPacer.new, Except.toOption] at h
  line := .inl rfl

theorem Kept.paced (h : s.Kept) : s.Paced := by
  constructor
  · intro t ht
    rcases h.line with hnone | ⟨origin, hstep, hbound, -⟩
    · omega
    · rw [hstep.played ht, h.rate]
      have := elapsedSamples_mono s.pacer.sampleRate (Nat.sub_le_sub_right ht origin)
      omega
  · intro t ht
    rw [OutputPacer.audiblePlayedMs]
    cases hstarted : s.pacer.startedAt with
    | none => exact Nat.zero_le _
    | some startedAt =>
      have hsent := (h.clock startedAt hstarted).2
      rcases h.line with hnone | ⟨origin, hstep, -, horigin⟩
      · simp [← hsent, hnone]
      · obtain rfl := horigin startedAt hstarted
        rw [Sink.playedMs, hstep.played ht, h.rate, hsent]

lemma Kept.later (h : s.Kept) {now : ℕ} (hnow : s.now ≤ now) : { s with now := now }.Kept where
  rate := h.rate
  ended := h.ended
  clock startedAt hstarted := ⟨(h.clock startedAt hstarted).1.trans hnow, (h.clock startedAt hstarted).2⟩
  line := by
    refine h.line.imp_right ?_
    rintro ⟨origin, hstep, hbound, horigin⟩
    refine ⟨origin, hstep.mono hnow, hbound.trans ?_, horigin⟩
    exact Nat.add_le_add_right (elapsedSamples_mono _ (Nat.sub_le_sub_right hnow origin)) _

/-- The sink after a take of `n` samples. -/
def sinkAfter (s : Playout) (now n : ℕ) : Sink := if n = 0 then s.sink else s.sink.hand now n

lemma sinkAfter_handed (s : Playout) (now n : ℕ) : (s.sinkAfter now n).handed = s.sink.handed + n := by
  unfold sinkAfter
  split_ifs with hn
  · rw [hn, Nat.add_zero]
  · rw [Sink.hand_handed]

lemma sinkAfter_rate (s : Playout) (now n : ℕ) : (s.sinkAfter now n).rate = s.sink.rate := by
  unfold sinkAfter
  split_ifs
  · rfl
  · rw [Sink.hand_rate]

lemma Kept.inStep_after (h : s.Kept) {now n : ℕ} (hnow : s.now ≤ now) (hqueued : s.pacer.queued ≠ [])
    (hfed : ∀ startedAt, s.pacer.startedAt = some startedAt →
      (now - startedAt) * s.pacer.sampleRate ≤ s.pacer.sentSamples * perSecond) (hsome : s.sink.handed + n ≠ 0) :
    (s.sinkAfter now n).InStep (s.pacer.startedAt.getD now) now := by
  rcases Nat.eq_zero_or_pos s.sink.handed with hnone | hhanded
  · -- nothing was handed over before: the clock starts now, or started at this instant
    have hnow' : s.pacer.startedAt.getD now = now := by
      cases hclock : s.pacer.startedAt with
      | none => rfl
      | some startedAt =>
        obtain ⟨hle, hsent⟩ := h.clock startedAt hclock
        have hzero := hfed startedAt hclock
        rw [← hsent, hnone, zero_mul, Nat.le_zero, Nat.mul_eq_zero] at hzero
        have := hzero.resolve_right s.pacer.rate_pos.ne'
        change startedAt = now
        omega
    rw [sinkAfter, if_neg (by omega), hnow']
    exact Sink.inStep_hand_first hnone now n
  · obtain ⟨origin, hstep, -, horigin⟩ := h.line.resolve_left hhanded.ne'
    cases hclock : s.pacer.startedAt with
    | none =>
      rcases h.ended hclock with ⟨hzero, -⟩ | ⟨-, hempty⟩
      · exact absurd hzero hhanded.ne'
      · exact absurd hempty hqueued
    | some startedAt =>
      obtain rfl := horigin startedAt hclock
      have hplays := hfed startedAt hclock
      rw [← h.rate, ← (h.clock startedAt hclock).2] at hplays
      rw [sinkAfter, Option.getD_some]
      split_ifs
      · exact hstep.mono hnow
      · exact hstep.hand hnow hplays n

lemma Kept.handed_after (h : s.Kept) {now n : ℕ} (hnow : s.now ≤ now) (hqueued : s.pacer.queued ≠ [])
    (hsame : s.sink.handed = s.pacer.sentSamples)
    (hallowed : s.pacer.sentSamples + n ≤ max s.pacer.sentSamples
      (elapsedSamples s.pacer.sampleRate (now - s.pacer.startedAt.getD now) + s.pacer.leadSamples)) :
    s.sink.handed + n ≤ elapsedSamples s.pacer.sampleRate (now - s.pacer.startedAt.getD now) + s.pacer.leadSamples := by
  rcases h.line with hnone | ⟨origin, -, hbound, horigin⟩
  · omega
  · cases hclock : s.pacer.startedAt with
    | none =>
      have hnone := (h.ended hclock).resolve_right fun hended => hqueued hended.2
      rw [hclock] at hallowed
      omega
    | some startedAt =>
      obtain rfl := horigin startedAt hclock
      rw [hclock, Option.getD_some] at hallowed
      have := elapsedSamples_mono s.pacer.sampleRate (Nat.sub_le_sub_right hnow startedAt)
      rw [Option.getD_some]
      omega

lemma Kept.takeReady (h : s.Kept) {now maxSamples : ℕ} (hnow : s.now ≤ now) (hqueued : s.pacer.queued ≠ [])
    (hfed : ∀ startedAt, s.pacer.startedAt = some startedAt →
      (now - startedAt) * s.pacer.sampleRate ≤ s.pacer.sentSamples * perSecond) :
    (step s (.takeReady now maxSamples)).1.Kept := by
  obtain ⟨n, htook⟩ := OutputPacer.takeReady_took hqueued now maxSamples
  -- the pacer and the line count the same samples
  have hsame : s.sink.handed = s.pacer.sentSamples := by
    cases hclock : s.pacer.startedAt with
    | none =>
      obtain ⟨hhanded, hsent⟩ := (h.ended hclock).resolve_right fun hended => hqueued hended.2
      rw [hhanded, hsent]
    | some startedAt => exact (h.clock startedAt hclock).2
  have horigin : s.pacer.startedAt.getD now ≤ now := by
    cases hclock : s.pacer.startedAt with
    | none => exact le_refl now
    | some startedAt => exact (h.clock startedAt hclock).1.trans hnow
  have hstarted : ∀ startedAt, (s.pacer.takeReady now maxSamples).1.startedAt = some startedAt →
      startedAt = s.pacer.startedAt.getD now := by
    intro startedAt hsome
    rcases htook.clock with hclock | ⟨hclock, -⟩ <;> rw [hclock] at hsome
    · exact (Option.some.inj hsome).symm
    · cases hsome
  have hsink : (step s (.takeReady now maxSamples)).1.sink = s.sinkAfter now n := by
    have hlength : (s.pacer.takeReady now maxSamples).2.length = n := by
      rw [htook.output, List.length_take, Nat.min_eq_left htook.count]
    simp only [step, sinkAfter, ← List.length_eq_zero_iff, hlength]
  have hlead : (s.pacer.takeReady now maxSamples).1.leadSamples = s.pacer.leadSamples := by
    rw [OutputPacer.leadSamples, htook.sampleRate, OutputPacer.leadSamples]
  constructor
  · rw [hsink, sinkAfter_rate, h.rate]
    exact htook.sampleRate.symm
  · intro hover
    refine .inr ?_
    rcases htook.clock with hclock | ⟨-, hended⟩
    · cases hclock.symm.trans hover
    · exact hended
  · intro startedAt hsome
    obtain rfl := hstarted startedAt hsome
    refine ⟨horigin, ?_⟩
    rw [hsink, sinkAfter_handed, hsame]
    exact htook.sent.symm
  · by_cases hnone : s.sink.handed + n = 0
    · rw [hsink, sinkAfter_handed]
      exact .inl hnone
    · refine .inr ⟨s.pacer.startedAt.getD now, ?_, ?_, hstarted⟩
      · rw [hsink]
        exact h.inStep_after hnow hqueued hfed hnone
      · rw [hsink, sinkAfter_handed]
        change s.sink.handed + n ≤ elapsedSamples (s.pacer.takeReady now maxSamples).1.sampleRate _ +
          (s.pacer.takeReady now maxSamples).1.leadSamples
        rw [htook.sampleRate, hlead]
        exact h.handed_after hnow hqueued hsame htook.allowed

theorem kept_step (s : Playout) (op : Op) (hop : s.Timely op ∧ s.Fed op) (h : s.Kept) : (step s op).1.Kept := by
  cases op with
  | push itemId samples =>
    cases hpush : s.pacer.push itemId samples with
    | error e => simpa [step, hpush] using h
    | ok pacer =>
      obtain ⟨hitem, rfl⟩ := OutputPacer.push_ok hpush
      simp only [step, hpush]
      refine ⟨h.rate, fun hstarted => ?_, h.clock, h.line⟩
      refine (h.ended hstarted).imp_right fun hover => ?_
      rw [hover.1] at hitem
      cases hitem
  | takeReady now maxSamples =>
    by_cases hqueued : s.pacer.queued = []
    · simpa [step, OutputPacer.takeReady_empty hqueued] using h.later hop.1
    · exact h.takeReady hop.1 hqueued (hop.2 hqueued)
  | finishItem itemId =>
    cases hfinish : s.pacer.finishItem itemId with
    | error e => simpa [step, hfinish] using h
    | ok pacer =>
      simp only [step, hfinish]
      rcases OutputPacer.finishItem_ok hfinish with ⟨hqueued, rfl⟩ | rfl
      · refine ⟨h.rate, fun _ => .inr ⟨rfl, hqueued⟩, fun _ hstarted => by simp [OutputPacer.settled] at hstarted, ?_⟩
        refine h.line.imp_right ?_
        rintro ⟨origin, hstep, hbound, -⟩
        exact ⟨origin, hstep, hbound, fun _ hstarted => by simp [OutputPacer.settled] at hstarted⟩
      · exact ⟨h.rate, h.ended, h.clock, h.line⟩

/-- Of one item every sample is taken in its order; and where the line is fed at every take, it is never ahead of the
allowance and nobody is taken to have heard what it has not played. -/
theorem fed_run_paced (sampleRate : ℕ) (itemId : String) (ops : List Op) :
    (step.final (start sampleRate itemId) ops).InOrder ∧
      (step.Along (fun s op => s.Timely op ∧ s.Fed op) (start sampleRate itemId) ops →
        (step.final (start sampleRate itemId) ops).Paced) := by
  constructor
  · exact Machine.always inOrder_step (inOrder_start sampleRate itemId) ops
  · intro hops
    exact (Machine.invariant kept_step hops (kept_start sampleRate itemId)).paced

/-- An item that comes in time is paced to its end. -/
theorem item_in_time_paced :
    (step.final (start 8000 "item") [.push "item" [1, 2, 3], .takeReady 5 2, .takeReady 6 10,
      .finishItem "item"]).Paced :=
  (fed_run_paced 8000 "item" [.push "item" [1, 2, 3], .takeReady 5 2, .takeReady 6 10, .finishItem "item"]).2 (by
    refine ⟨⟨trivial, trivial⟩, ⟨Nat.zero_le _, ?_⟩, ⟨(by decide : 5 ≤ 6), ?_⟩, ⟨trivial, trivial⟩, trivial⟩
    · rintro - startedAt h
      cases h
    · rintro - startedAt h
      obtain rfl : 5 = startedAt := Option.some.inj h
      decide)

/-- A second of nothing, and then eight samples at once: a millisecond is taken for heard of which one sample was
played. -/
theorem silence_counts_as_heard : ¬∀ sampleRate itemId ops, step.Along Timely (start sampleRate itemId) ops →
    (step.final (start sampleRate itemId) ops).InOrder ∧ (step.final (start sampleRate itemId) ops).Paced := by
  intro h
  have hpaced := (h 8000 "item" [.push "item" [1], .takeReady 0 100, .push "item" [1, 2, 3, 4, 5, 6, 7, 8],
    .takeReady 1000000000 100] ⟨trivial, Nat.zero_le _, trivial, Nat.zero_le _, trivial⟩).2
  have haudible := hpaced.audible 1000000000 (by decide)
  revert haudible
  decide +kernel

end Playout

end Aokie.Plugin.RealtimeVoice
