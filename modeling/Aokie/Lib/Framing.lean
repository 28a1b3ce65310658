import Aokie.Lib.Run

/-! Cutting a stream into frames: a greedy reader that takes complete frames off the front of its buffer reads
the same frames however the stream is delivered. -/

namespace Aokie.Lib.Framing

variable {α : Type*}

/-- The first frame of a buffer and what follows it, once the frame is complete. -/
abbrev Next (α : Type*) := List α → Option (List α × List α)

/-- A frame is the front of the buffer, is not empty, and does not depend on what follows it. -/
structure Next.Lawful (next : Next α) : Prop where
  splits : ∀ {buffer frame rest}, next buffer = some (frame, rest) → buffer = frame ++ rest
  nonempty : ∀ {buffer frame rest}, next buffer = some (frame, rest) → frame ≠ []
  stable : ∀ {buffer frame rest}, next buffer = some (frame, rest) →
    ∀ more, next (buffer ++ more) = some (frame, rest ++ more)

def drainWith (next : Next α) : ℕ → List α → List (List α) × List α
  | 0, buffer => ([], buffer)
  | fuel + 1, buffer =>
    match next buffer with
    | none => ([], buffer)
    | some (frame, rest) => (drainWith next fuel rest).map (frame :: ·) id

def drain (next : Next α) (buffer : List α) : List (List α) × List α := drainWith next buffer.length buffer

variable {next : Next α}

section Fuel

attribute [local simp] drainWith

lemma Next.Lawful.length_lt (h : next.Lawful) {buffer frame rest : List α} (hnext : next buffer = some (frame, rest)) :
    rest.length < buffer.length := by
  have hlen := congrArg List.length (h.splits hnext)
  have hpos : 0 < frame.length := List.length_pos_iff.mpr (h.nonempty hnext)
  rw [List.length_append] at hlen
  omega

lemma drainWith_eq_drain (h : next.Lawful) {fuel : ℕ} {buffer : List α} (hfuel : buffer.length ≤ fuel) :
    drainWith next fuel buffer = drain next buffer := by
  suffices hall : ∀ n fuel fuel' : ℕ, ∀ buffer : List α, buffer.length ≤ n → n ≤ fuel → n ≤ fuel' →
      drainWith next fuel buffer = drainWith next fuel' buffer from
    hall buffer.length fuel buffer.length buffer le_rfl hfuel le_rfl
  intro n
  induction n with
  | zero =>
      intro fuel fuel' buffer hn _ _
      have hempty : next buffer = none := by
        by_contra hsome
        obtain ⟨⟨frame, rest⟩, hnext⟩ := Option.ne_none_iff_exists'.mp hsome
        have := h.length_lt hnext
        omega
      cases fuel <;> cases fuel' <;> simp [hempty]
  | succ n ih =>
      intro fuel fuel' buffer hn hfuel hfuel'
      obtain ⟨fuel, rfl⟩ : ∃ m, fuel = m + 1 := ⟨fuel - 1, by omega⟩
      obtain ⟨fuel', rfl⟩ : ∃ m, fuel' = m + 1 := ⟨fuel' - 1, by omega⟩
      simp only [drainWith]
      cases hnext : next buffer with
      | none => rfl
      | some cut =>
          obtain ⟨frame, rest⟩ := cut
          have hlt := h.length_lt hnext
          simp only [ih fuel fuel' rest (by omega) (by omega) (by omega)]

end Fuel

lemma drain_of_none {buffer : List α} (hnext : next buffer = none) : drain next buffer = ([], buffer) := by
  unfold drain
  cases buffer.length <;> simp [drainWith, hnext]

lemma drain_of_some (h : next.Lawful) {buffer frame rest : List α} (hnext : next buffer = some (frame, rest)) :
    drain next buffer = (drain next rest).map (frame :: ·) id := by
  have hlt := h.length_lt hnext
  obtain ⟨fuel, hfuel⟩ : ∃ m, buffer.length = m + 1 := ⟨buffer.length - 1, by omega⟩
  rw [drain, hfuel, drainWith, hnext]
  simp only [drainWith_eq_drain h (show rest.length ≤ fuel by omega)]

/-- Frames taken early are the frames that would have been taken later. -/
theorem drain_append (h : next.Lawful) (buffer more : List α) :
    drain next (buffer ++ more) =
      (drain next ((drain next buffer).2 ++ more)).map ((drain next buffer).1 ++ ·) id := by
  induction hn : buffer.length using Nat.strong_induction_on generalizing buffer with
  | _ n ih =>
      cases hnext : next buffer with
      | none =>
          rw [drain_of_none hnext]
          rfl
      | some cut =>
          obtain ⟨frame, rest⟩ := cut
          rw [drain_of_some h (h.stable hnext more), drain_of_some h hnext,
            ih rest.length (hn ▸ h.length_lt hnext) rest rfl]
          rfl

/-- A reader that skips to the next frame: what it takes is a frame with what was skipped before it, and while no
frame is complete it lets go of a prefix that cannot belong to one. -/
structure Next.Resyncs {β : Type*} (next : Next α) (trim : List α → List α) (emit : List α → β) : Prop where
  lawful : next.Lawful
  trims : ∀ {buffer}, next buffer = none → ∃ skipped, buffer = skipped ++ trim buffer ∧
    ∀ more, next (buffer ++ more) = (next (trim buffer ++ more)).map (Prod.map (skipped ++ ·) id)
  emits : ∀ {buffer taken rest}, next buffer = some (taken, rest) → ∀ skipped, emit (skipped ++ taken) = emit taken

section Resyncs

variable {β : Type*} {trim : List α → List α} {emit : List α → β}

lemma drain_next_eq_none (h : next.Lawful) (buffer : List α) : next (drain next buffer).2 = none := by
  induction hn : buffer.length using Nat.strong_induction_on generalizing buffer with
  | _ n ih =>
      cases hnext : next buffer with
      | none => rw [drain_of_none hnext, hnext]
      | some cut =>
          obtain ⟨frame, rest⟩ := cut
          rw [drain_of_some h hnext]
          exact ih rest.length (hn ▸ h.length_lt hnext) rest rfl

lemma Next.Resyncs.drain_trim (h : next.Resyncs trim emit) {buffer : List α} (hnone : next buffer = none)
    (more : List α) :
    (drain next (trim buffer ++ more)).1.map emit = (drain next (buffer ++ more)).1.map emit := by
  obtain ⟨skipped, -, hskip⟩ := h.trims hnone
  have hnext := hskip more
  cases htrim : next (trim buffer ++ more) with
  | none =>
      rw [htrim] at hnext
      rw [drain_of_none htrim, drain_of_none hnext]
  | some cut =>
      obtain ⟨frame, rest⟩ := cut
      rw [htrim] at hnext
      rw [drain_of_some h.lawful htrim, drain_of_some h.lawful hnext]
      simp only [Prod.map_fst, List.map_cons, h.emits htrim, id_eq]

def deliver (next : Next α) (trim : List α → List α) (emit : List α → β) (buffer chunk : List α) : List α × List β :=
  (trim (drain next (buffer ++ chunk)).2, (drain next (buffer ++ chunk)).1.map emit)

/-- What a reader emits depends on the stream, not on how it is delivered. -/
theorem Next.Resyncs.collect_deliver (h : next.Resyncs trim emit) (chunks : List (List α)) {buffer : List α}
    (hnone : next buffer = none) :
    (Machine.collect (deliver next trim emit) (trim buffer) chunks).2 =
      (drain next (buffer ++ chunks.flatten)).1.map emit := by
  induction chunks generalizing buffer with
  | nil =>
      rw [List.flatten_nil, List.append_nil, drain_of_none hnone]
      rfl
  | cons chunk chunks ih =>
      have hrest := ih (drain_next_eq_none h.lawful (trim buffer ++ chunk))
      rw [Machine.collect_cons, List.flatten_cons, ← h.drain_trim hnone, ← List.append_assoc,
        drain_append h.lawful (trim buffer ++ chunk)]
      simp only [Prod.map_snd, Prod.map_fst, List.map_append, ← hrest]
      rfl

end Resyncs

end Aokie.Lib.Framing
