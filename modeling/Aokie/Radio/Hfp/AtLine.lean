import Aokie.Radio.Hfp.RetryNotes

/-! The AT line of a connection, the phone's calls and the commands it has not answered: which refused commands are
sent once more, and for which call. -/

namespace Aokie.Radio.Hfp

open Aokie.Lib

/-- The state of the calls, and the names of the commands that wait for their answer. -/
structure AtLine where
  call : HfpHandsFreeState
  unanswered : List String

inductive AtLineInput
  | call (input : HandsFreeInput)
  /-- The oldest command was accepted, or is no longer waited for. -/
  | answered
  | refused
  deriving DecidableEq

namespace AtLine

variable (l : AtLine)

def oldest : String := l.unanswered.head?.getD "unsolicited"

def again : Option HfpAtCommand := (l.call.afterRefusal l.oldest).2

def wait (unanswered : List String) (name : String) : List String :=
  (if OutstandingCommands.max ≤ unanswered.length then unanswered.tail else unanswered) ++ [name]

def queued : AtLineInput → List String
  | .call (.sent command) => if l.call.serviceLevelReady then [atCommandName command] else []
  | _ => []

def step : Machine AtLine AtLineInput Unit
  | l, .call input => (⟨(HfpHandsFreeState.step l.call input).1, (l.queued (.call input)).foldl wait l.unanswered⟩, ())
  | l, .answered => (⟨l.call, l.unanswered.tail⟩, ())
  | l, .refused => (⟨(l.call.afterRefusal l.oldest).1, l.unanswered.tail⟩, ())

/-- The names of all commands of a run that were to be answered, in their order. -/
def queuedNames : AtLine → List AtLineInput → List String
  | _, [] => []
  | l, input :: inputs => l.queued input ++ queuedNames (step l input).1 inputs

def Fresh : AtLineInput → Prop
  | .call input => l.call.FreshSetup input
  | .answered | .refused => False

def BeginsRing (input : AtLineInput) : Prop :=
  (step l input).1.call.ringing = true ∧ (l.call.ringing = false ∨ l.Fresh input)

def Changes : AtLineInput → Prop
  | .call input => l.call.ChangesCall input
  | .answered | .refused => False

instance : DecidablePred l.Fresh
  | .call input => inferInstanceAs (Decidable (l.call.FreshSetup input))
  | .answered | .refused => .isFalse id

instance : DecidablePred l.BeginsRing := fun _ => inferInstanceAs (Decidable (_ ∧ _))

instance : DecidablePred l.Changes
  | .call input => inferInstanceAs (Decidable (l.call.ChangesCall input))
  | .answered | .refused => .isFalse id

def changes : AtLine → List AtLineInput → ℕ
  | _, [] => 0
  | l, input :: inputs => (if l.Changes input then 1 else 0) + changes (step l input).1 inputs

def Steady (inputs : List AtLineInput) : Prop :=
  step.Along (fun t _ => t.call.callShape = l.call.callShape) l inputs ∧
    (step.final l inputs).call.callShape = l.call.callShape

def OneRing (inputs : List AtLineInput) : Prop :=
  step.Along (fun t input => t.call.ringing = true ∧ ¬t.BeginsRing input) l inputs

instance (inputs : List AtLineInput) : Decidable (l.OneRing inputs) :=
  inferInstanceAs (Decidable (step.Along _ l inputs))

structure HangupsSafe (inputs : List AtLineInput) : Prop where
  /-- A hang-up that is sent once more went out on a live call, and nothing changed since. -/
  hangup : ∀ before after, inputs = before ++ .refused :: after →
    (step.final l before).again = some .rejectOrHangup →
      ∃ earlier since, before = earlier ++ .call (.sent .rejectOrHangup) :: since ∧
        (step.final l earlier).call.callActive = true ∧
        (step.final l earlier).Steady (.call (.sent .rejectOrHangup) :: since)
  /-- Between two hang-ups that are sent once more a call comes up or ends. -/
  hangupOnce : ∀ first between rest, inputs = first ++ .refused :: (between ++ .refused :: rest) →
    (step.final l first).again = some .rejectOrHangup →
    (step.final l (first ++ .refused :: between)).again = some .rejectOrHangup →
      ¬step.Along (fun t _ => t.call.callActive = true) (step.final l first) (.refused :: between)

structure AnswersSafe (inputs : List AtLineInput) : Prop where
  /-- An answer that is sent once more went out in the ring that goes on, which we did not refuse. -/
  answer : ∀ before after, inputs = before ++ .refused :: after → (step.final l before).again = some .answer →
    (step.final l before).call.ringing = true ∧ (step.final l before).call.setupRefused = false ∧
      ∃ earlier since, before = earlier ++ .call (.sent .answer) :: since ∧
        (step.final l earlier).call.serviceLevelReady = true ∧
        (step.final l before).unanswered =
          "ATA" :: queuedNames (step.final l (earlier ++ [.call (.sent .answer)])) since ∧
        (step.final l earlier).OneRing (.call (.sent .answer) :: since)
  /-- Between two answers that are sent once more another ring begins. -/
  answerOnce : ∀ first between rest, inputs = first ++ .refused :: (between ++ .refused :: rest) →
    (step.final l first).again = some .answer → (step.final l (first ++ .refused :: between)).again = some .answer →
      ¬step.Along (fun t input => ¬t.BeginsRing input) (step.final l first) (.refused :: between)

/-- What is sent once more after a refusal, along a run. -/
structure RetriesSafe (inputs : List AtLineInput) : Prop extends HangupsSafe l inputs, AnswersSafe l inputs

def Answerable : Prop :=
  l.call.incomingCall = true ∧ l.call.callActive = false ∧ l.call.setupRefused = false ∧ l.call.answerRetried = false

/-- Whenever the oldest command is an answer and is refused during such a ring, no command still waits that went out
before that ring began. -/
def RefusedInRing (inputs : List AtLineInput) : Prop :=
  ∀ before after, inputs = before ++ .refused :: after → (step.final l before).oldest = "ATA" →
    (step.final l before).Answerable →
      ∃ earlier since, before = earlier ++ since ∧
        step.Along (fun t input => ¬t.BeginsRing input) (step.final l earlier) since ∧
        (step.final l before).unanswered.length ≤ (queuedNames (step.final l earlier) since).length

variable {l}

lemma again_hangup (h : l.again = some .rejectOrHangup) : l.call.callActive = true ∧ l.call.hangupRetried = false ∧
    l.call.hangupSentLive = some l.call.callChanges ∧ (step l .refused).1.call.hangupRetried = true := by
  simp only [again, step, HfpHandsFreeState.afterRefusal] at h ⊢
  split_ifs at h ⊢ <;> simp_all

lemma again_answer_iff : l.again = some .answer ↔ l.oldest = "ATA" ∧ l.Answerable := by
  simp only [again, Answerable, HfpHandsFreeState.afterRefusal]
  split_ifs <;> simp_all

lemma answerRetried_of_again (h : l.again = some .answer) : (step l .refused).1.call.answerRetried = true := by
  simp only [again, step, HfpHandsFreeState.afterRefusal] at h ⊢
  split_ifs at h ⊢ <;> simp_all

lemma Answerable.ringing (h : l.Answerable) : l.call.ringing = true := by
  obtain ⟨hincoming, hactive, -⟩ := h
  rw [HfpHandsFreeState.ringing, hincoming, hactive]
  rfl

lemma retryNotes (input : AtLineInput) :
    ((l.call.answerRetried = true → (step l input).1.call.answerRetried = true) ∨ l.Fresh input ∨
        (step l input).1.call.callActive ≠ l.call.callActive) ∧
      ((l.call.hangupRetried = true → (step l input).1.call.hangupRetried = true) ∨
        (step l input).1.call.callActive ≠ l.call.callActive) := by
  cases input with
  | call input =>
      cases HfpHandsFreeState.retryNotes_step (s := l.call) input with
      | kept hanswer hhangup => exact ⟨Or.inl hanswer, Or.inl hhangup⟩
      | rang hfresh hhangup => exact ⟨Or.inr (Or.inl hfresh), Or.inl hhangup.trans⟩
      | changed hactive => exact ⟨Or.inr (Or.inr hactive), Or.inr hactive⟩
  | answered => exact ⟨Or.inl id, Or.inl id⟩
  | refused =>
      cases HfpHandsFreeState.retryNotes_step (s := l.call) (.refused l.oldest) with
      | kept hanswer hhangup => exact ⟨Or.inl hanswer, Or.inl hhangup⟩
      | rang hfresh hhangup => exact hfresh.elim
      | changed hactive => exact ⟨Or.inr (Or.inr hactive), Or.inr hactive⟩

lemma answerRetried_along {inputs : List AtLineInput} (hrings : step.Along
    (fun t input => ¬t.BeginsRing input) l inputs)
    (hl : l.call.ringing = true → l.call.answerRetried = true) :
    (step.final l inputs).call.ringing = true → (step.final l inputs).call.answerRetried = true := by
  refine Machine.invariant (P := fun t => t.call.ringing = true → t.call.answerRetried = true) ?_ hrings hl
  intro t input hring ht hringing
  have hboth : t.call.ringing = true ∧ ¬t.Fresh input := by
    refine ⟨?_, fun hfresh => hring ⟨hringing, Or.inr hfresh⟩⟩
    by_contra hsilent
    exact hring ⟨hringing, Or.inl (Bool.not_eq_true _ ▸ hsilent)⟩
  have hidle : ∀ {s : HfpHandsFreeState}, s.ringing = true → s.callActive = false := by
    simp [HfpHandsFreeState.ringing]
  obtain hkept | hfresh | hactive := (retryNotes (l := t) input).1
  · exact hkept (ht hboth.1)
  · exact absurd hfresh hboth.2
  · exact absurd ((hidle hringing).trans (hidle hboth.1).symm) hactive

lemma hangupRetried_along {inputs : List AtLineInput} (hup : step.Along (fun t _ => t.call.callActive = true) l inputs)
    (hl : l.call.callActive = true → l.call.hangupRetried = true) :
    (step.final l inputs).call.callActive = true → (step.final l inputs).call.hangupRetried = true := by
  refine Machine.invariant (P := fun t => t.call.callActive = true → t.call.hangupRetried = true) ?_ hup hl
  intro t input hactive ht hstill
  obtain hkept | hchanged := (retryNotes (l := t) input).2
  · exact hkept (ht hactive)
  · exact absurd (hstill.trans hactive.symm) hchanged

lemma oneRing_of_ringing {inputs : List AtLineInput} (hrings : step.Along (fun t input => ¬t.BeginsRing input) l inputs)
    (hringing : (step.final l inputs).call.ringing = true) : l.call.ringing = true ∧ l.OneRing inputs := by
  induction inputs generalizing l with
  | nil => exact ⟨hringing, trivial⟩
  | cons input inputs ih =>
      obtain ⟨hring, hrings⟩ := hrings
      obtain ⟨hnext, hrest⟩ := ih hrings hringing
      have hl : l.call.ringing = true := by
        by_contra hsilent
        exact hring ⟨hnext, Or.inl (Bool.not_eq_true _ ▸ hsilent)⟩
      exact ⟨hl, ⟨hl, hring⟩, hrest⟩

section Live

lemma callChanges_step (input : AtLineInput) :
    (step l input).1.call.callChanges = l.call.callChanges + if l.Changes input then 1 else 0 := by
  cases input with
  | call input => exact HfpHandsFreeState.callChanges_step input
  | answered => exact (UInt32.add_zero _).symm
  | refused =>
      have hother : ∀ result, HandsFreeInput.refused l.oldest ≠ .result result := nofun
      exact (HfpHandsFreeState.callChanges_other hother).trans (UInt32.add_zero _).symm

lemma callChanges_final (inputs : List AtLineInput) :
    (step.final l inputs).call.callChanges = l.call.callChanges + UInt32.ofNat (changes l inputs) := by
  induction inputs generalizing l with
  | nil => exact (UInt32.add_zero _).symm
  | cons input inputs ih =>
      rw [Machine.final_cons, ih, callChanges_step, changes, UInt32.ofNat_add, UInt32.add_assoc]
      split_ifs <;> rfl

lemma changes_append (inputs inputs' : List AtLineInput) :
    changes l (inputs ++ inputs') = changes l inputs + changes (step.final l inputs) inputs' := by
  induction inputs generalizing l with
  | nil => simp [changes]
  | cons input inputs ih => rw [List.cons_append, changes, changes, ih, Machine.final_cons, Nat.add_assoc]

lemma Steady.concat {inputs : List AtLineInput} {input : AtLineInput} (h : l.Steady inputs)
    (hshape : (step (step.final l inputs) input).1.call.callShape = (step.final l inputs).call.callShape) :
    l.Steady (inputs ++ [input]) := by
  refine ⟨Machine.along_append.mpr ⟨h.1, h.2, trivial⟩, ?_⟩
  rw [Machine.final_append]
  exact hshape.trans h.2

/-- The last hang-up that is noted went out on a live call. Since then nothing changed, or a change was counted, or no
call is up. -/
def LiveSince (l : AtLine) (inputs : List AtLineInput) (noted : UInt32) : Prop :=
  ∃ earlier since, inputs = earlier ++ .call (.sent .rejectOrHangup) :: since ∧
    (step.final l earlier).call.callActive = true ∧ (step.final l earlier).call.callChanges = noted ∧
    ((step.final l earlier).Steady (.call (.sent .rejectOrHangup) :: since) ∨
      0 < changes (step.final l earlier) (.call (.sent .rejectOrHangup) :: since) ∨
      (step.final l inputs).call.callActive = false)

lemma LiveSince.concat {inputs : List AtLineInput} {input : AtLineInput} {noted : UInt32} (h : LiveSince l inputs noted)
    (hnext : (step (step.final l inputs) input).1.call.callShape = (step.final l inputs).call.callShape ∨
      (step.final l inputs).Changes input ∨ (step (step.final l inputs) input).1.call.callActive = false) :
    LiveSince l (inputs ++ [input]) noted := by
  obtain ⟨earlier, since, rfl, hactive, hnoted, hsince⟩ := h
  refine ⟨earlier, since ++ [input], by simp, hactive, hnoted, ?_⟩
  rw [Machine.final_append, ← List.cons_append]
  rw [Machine.final_append] at hnext hsince
  obtain hshape | hchange | hidle := hnext
  · obtain hsteady | hchanged | hidle := hsince
    · exact Or.inl (hsteady.concat hshape)
    · refine Or.inr (Or.inl ?_)
      rw [changes_append]
      exact Nat.add_pos_left hchanged _
    · refine Or.inr (Or.inr ?_)
      have hsame := congrArg Prod.fst hshape
      rw [Machine.final_append]
      exact hsame.trans hidle
  · refine Or.inr (Or.inl ?_)
    have hone : changes (step.final (step.final l earlier) (.call (.sent .rejectOrHangup) :: since)) [input] = 1 := by
      simp only [changes, if_pos hchange, Nat.add_zero]
    rw [changes_append, hone]
    exact Nat.succ_pos _
  · refine Or.inr (Or.inr ?_)
    rw [Machine.final_append]
    exact hidle

lemma liveSince {inputs : List AtLineInput} {noted : UInt32} (hnew : l.call.hangupSentLive = none)
    (h : (step.final l inputs).call.hangupSentLive = some noted) : LiveSince l inputs noted := by
  induction inputs using List.reverseRecOn generalizing noted with
  | nil => exact absurd (hnew.symm.trans h) nofun
  | append_singleton inputs input ih =>
      rw [Machine.final_append] at h
      cases input with
      | call input =>
          cases HfpHandsFreeState.liveNote_step (s := (step.final l inputs).call) input with
          | hungUp hsent hlive hshape =>
              subst hsent
              have hnoted := hlive.symm.trans h
              split_ifs at hnoted with hactive
              exact ⟨inputs, [], rfl, hactive, Option.some.inj hnoted, Or.inl ⟨⟨rfl, trivial⟩, hshape⟩⟩
          | dropped hlive => exact absurd (hlive.symm.trans h) nofun
          | dialed hlive hactive => exact (ih (hlive.symm.trans h)).concat (Or.inr (Or.inr hactive))
          | kept hlive hshape => exact (ih (hlive.symm.trans h)).concat (Or.inl hshape)
          | changed hlive hchanges => exact (ih (hlive.symm.trans h)).concat (Or.inr (Or.inl hchanges))
      | answered => exact (ih h).concat (Or.inl rfl)
      | refused =>
          cases HfpHandsFreeState.liveNote_step (s := (step.final l inputs).call)
            (.refused (step.final l inputs).oldest) with
          | hungUp hsent hlive hshape => exact absurd hsent nofun
          | dropped hlive => exact absurd (hlive.symm.trans h) nofun
          | dialed hlive hactive => exact (ih (hlive.symm.trans h)).concat (Or.inr (Or.inr hactive))
          | kept hlive hshape => exact (ih (hlive.symm.trans h)).concat (Or.inl hshape)
          | changed hlive hchanges => exact hchanges.1.elim nofun

lemma hangup_of_again {before : List AtLineInput} (hnew : l.call.hangupSentLive = none)
    (hfew : changes l before < 2 ^ 32) (h : (step.final l before).again = some .rejectOrHangup) :
    ∃ earlier since, before = earlier ++ .call (.sent .rejectOrHangup) :: since ∧
      (step.final l earlier).call.callActive = true ∧
      (step.final l earlier).Steady (.call (.sent .rejectOrHangup) :: since) := by
  obtain ⟨hactive, -, hlive, -⟩ := again_hangup h
  obtain ⟨earlier, since, rfl, hup, hnoted, hsince⟩ := liveSince hnew hlive
  refine ⟨earlier, since, rfl, hup, ?_⟩
  obtain hsteady | hchanged | hidle := hsince
  · exact hsteady
  · exfalso
    have hbound : changes (step.final l earlier) (.call (.sent .rejectOrHangup) :: since) < 2 ^ 32 := by
      rw [changes_append] at hfew
      omega
    -- As many changes as were counted since then make a full turn of the counter.
    rw [Machine.final_append, callChanges_final (l := step.final l earlier)] at hnoted
    have hzero : UInt32.ofNat (changes (step.final l earlier) (.call (.sent .rejectOrHangup) :: since)) = 0 := by
      simpa using hnoted
    have hnat := congrArg UInt32.toNat hzero
    rw [UInt32.toNat_ofNat_of_lt' hbound] at hnat
    exact absurd hnat (Nat.pos_iff_ne_zero.mp hchanged)
  · exact absurd (hactive.symm.trans hidle) (by decide)

end Live

section Oldest

lemma unanswered_step (input : AtLineInput) : (step l input).1.unanswered <:+ l.unanswered ++ l.queued input := by
  have hwait : ∀ name, wait l.unanswered name <:+ l.unanswered ++ [name] := by
    intro name
    simp only [wait]
    split_ifs
    · obtain ⟨front, hfront⟩ := List.tail_suffix l.unanswered
      exact ⟨front, by rw [← List.append_assoc, hfront]⟩
    · exact List.suffix_rfl
  cases input with
  | call input =>
      have hqueued : l.queued (.call input) = [] ∨ ∃ name, l.queued (.call input) = [name] := by
        cases input with
        | sent command =>
            simp only [queued]
            split_ifs
            · exact Or.inr ⟨_, rfl⟩
            · exact Or.inl rfl
        | _ => exact Or.inl rfl
      simp only [step]
      obtain hnone | ⟨name, hname⟩ := hqueued
      · rw [hnone, List.append_nil]
        exact List.suffix_rfl
      · rw [hname]
        exact hwait name
  | answered | refused => exact (List.tail_suffix _).trans (by simp [queued])

lemma unanswered_suffix (inputs : List AtLineInput) :
    (step.final l inputs).unanswered <:+ l.unanswered ++ queuedNames l inputs := by
  induction inputs generalizing l with
  | nil => exact (List.append_nil l.unanswered).symm ▸ List.suffix_rfl
  | cons input inputs ih =>
      refine ih.trans ?_
      obtain ⟨front, hfront⟩ := unanswered_step (l := l) input
      exact ⟨front, by rw [queuedNames, ← List.append_assoc, ← List.append_assoc, hfront]⟩

lemma queuedNames_append (inputs inputs' : List AtLineInput) :
    queuedNames l (inputs ++ inputs') = queuedNames l inputs ++ queuedNames (step.final l inputs) inputs' := by
  induction inputs generalizing l with
  | nil => rfl
  | cons input inputs ih => rw [List.cons_append, queuedNames, queuedNames, ih, Machine.final_cons, List.append_assoc]

lemma sent_of_suffix {inputs : List AtLineInput} {name : String} {names : List String}
    (h : name :: names <:+ queuedNames l inputs) : ∃ before command after,
      inputs = before ++ .call (.sent command) :: after ∧ atCommandName command = name ∧
      (step.final l before).call.serviceLevelReady = true ∧
      queuedNames (step.final l (before ++ [.call (.sent command)])) after = names := by
  induction inputs generalizing l with
  | nil => exact absurd (List.suffix_nil.mp h) (List.cons_ne_nil _ _)
  | cons input inputs ih =>
      rw [queuedNames] at h
      have hlater : name :: names <:+ queuedNames (step l input).1 inputs → ∃ before command after,
          input :: inputs = before ++ .call (.sent command) :: after ∧ atCommandName command = name ∧
          (step.final l before).call.serviceLevelReady = true ∧
          queuedNames (step.final l (before ++ [.call (.sent command)])) after = names := by
        intro hrest
        obtain ⟨before, command, after, rfl, hname, hready, hafter⟩ := ih hrest
        exact ⟨input :: before, command, after, rfl, hname, hready, hafter⟩
      cases input with
      | call input =>
          cases input with
          | sent command =>
              by_cases hready : l.call.serviceLevelReady = true
              · simp only [queued, if_pos hready, List.singleton_append] at h
                obtain hhere | hrest := List.suffix_cons_iff.mp h
                · obtain ⟨rfl, rfl⟩ := List.cons_eq_cons.mp hhere
                  exact ⟨[], command, inputs, rfl, rfl, hready, rfl⟩
                · exact hlater hrest
              · simp only [queued, if_neg hready, List.nil_append] at h
                exact hlater h
          | _ => exact hlater h
      | answered | refused => exact hlater h

lemma eq_answer {command : HfpAtCommand} (h : atCommandName command = "ATA") : command = .answer := by
  cases command <;> simp [atCommandName] at h ⊢

lemma unanswered_of_oldest (h : l.oldest = "ATA") : ∃ names, l.unanswered = "ATA" :: names := by
  simp only [oldest] at h
  cases hunanswered : l.unanswered with
  | nil => simp [hunanswered] at h
  | cons name names =>
      rw [hunanswered] at h
      exact ⟨names, congrArg (· :: names) h⟩

lemma answer_of_inRing {earlier since : List AtLineInput} (hstart : l.unanswered = [])
    (hrings : step.Along (fun t input => ¬t.BeginsRing input) (step.final l earlier) since)
    (holdest : (step.final l (earlier ++ since)).oldest = "ATA")
    (hringing : (step.final l (earlier ++ since)).call.ringing = true)
    (hyoung : (step.final l (earlier ++ since)).unanswered.length ≤ (queuedNames (step.final l earlier) since).length) :
    ∃ before after, earlier ++ since = before ++ .call (.sent .answer) :: after ∧
      (step.final l before).call.serviceLevelReady = true ∧
      (step.final l (earlier ++ since)).unanswered =
        "ATA" :: queuedNames (step.final l (before ++ [.call (.sent .answer)])) after ∧
      (step.final l before).OneRing (.call (.sent .answer) :: after) := by
  have hsuffix := unanswered_suffix (l := l) (earlier ++ since)
  rw [hstart, List.nil_append, queuedNames_append] at hsuffix
  obtain ⟨names, hnames⟩ := unanswered_of_oldest holdest
  have hlast := List.suffix_of_suffix_length_le hsuffix (List.suffix_append _ _) hyoung
  rw [hnames] at hlast
  obtain ⟨before, command, after, rfl, hname, hready, hafter⟩ := sent_of_suffix hlast
  obtain rfl := eq_answer hname
  refine ⟨earlier ++ before, after, (List.append_assoc ..).symm, ?_, ?_, ?_⟩
  · rw [Machine.final_append]
    exact hready
  · rw [hnames, List.append_assoc, Machine.final_append, hafter]
  · rw [Machine.final_append, Machine.final_append] at hringing
    rw [Machine.final_append]
    exact (oneRing_of_ringing (Machine.along_append.mp hrings).2 hringing).2

end Oldest

section Safe

variable {inputs : List AtLineInput}

lemma hangup_once {first between : List AtLineInput} (hfirst : (step.final l first).again = some .rejectOrHangup)
    (hsecond : (step.final l (first ++ .refused :: between)).again = some .rejectOrHangup) :
    ¬step.Along (fun t _ => t.call.callActive = true) (step.final l first) (.refused :: between) := by
  intro hup
  obtain ⟨hactive, hretried, -, -⟩ := again_hangup hsecond
  rw [Machine.final_append, Machine.final_cons] at hactive hretried
  have hnoted := hangupRetried_along hup.2 (fun _ => (again_hangup hfirst).2.2.2) hactive
  exact absurd (hretried.symm.trans hnoted) (by decide)

lemma answer_once {first between : List AtLineInput} (hfirst : (step.final l first).again = some .answer)
    (hsecond : (step.final l (first ++ .refused :: between)).again = some .answer) :
    ¬step.Along (fun t input => ¬t.BeginsRing input) (step.final l first) (.refused :: between) := by
  intro hrings
  obtain ⟨-, hanswerable⟩ := again_answer_iff.mp hsecond
  have hringing := hanswerable.ringing
  have hretried := hanswerable.2.2.2
  rw [Machine.final_append, Machine.final_cons] at hringing hretried
  have hnoted := answerRetried_along hrings.2 (fun _ => answerRetried_of_again hfirst) hringing
  exact absurd (hretried.symm.trans hnoted) (by decide)

lemma hangupsSafe (hnew : l.call.hangupSentLive = none) (hfew : changes l inputs < 2 ^ 32) : l.HangupsSafe inputs := by
  refine ⟨?_, fun first between rest _ => hangup_once⟩
  intro before after hinputs hagain
  refine hangup_of_again hnew (lt_of_le_of_lt ?_ hfew) hagain
  rw [hinputs, changes_append]
  exact Nat.le_add_right ..

lemma RefusedInRing.answersSafe (hstart : l.unanswered = []) (h : l.RefusedInRing inputs) : l.AnswersSafe inputs := by
  refine ⟨?_, fun first between rest _ => answer_once⟩
  intro before after hinputs hagain
  obtain ⟨holdest, hanswerable⟩ := again_answer_iff.mp hagain
  obtain ⟨earlier, since, rfl, hrings, hyoung⟩ := h before after hinputs holdest hanswerable
  exact ⟨hanswerable.ringing, hanswerable.2.2.1, answer_of_inRing hstart hrings holdest hanswerable.ringing hyoung⟩

lemma AnswersSafe.refusedInRing (h : l.AnswersSafe inputs) : l.RefusedInRing inputs := by
  intro before after hinputs holdest hanswerable
  obtain ⟨-, -, earlier, since, hbefore, hready, hwaiting, hrings⟩ :=
    h.answer before after hinputs (again_answer_iff.mpr ⟨holdest, hanswerable⟩)
  refine ⟨earlier, .call (.sent .answer) :: since, hbefore, hrings.mono fun _ _ hinput => hinput.2, ?_⟩
  have hqueued : queuedNames (step.final l earlier) (.call (.sent .answer) :: since) =
      "ATA" :: queuedNames (step.final l (earlier ++ [.call (.sent .answer)])) since := by
    rw [queuedNames, Machine.final_append]
    simp only [queued, if_pos hready]
    rfl
  rw [hqueued, hwaiting]

lemma retriesSafe_iff (hstart : l.unanswered = []) (hnew : l.call.hangupSentLive = none)
    (hfew : changes l inputs < 2 ^ 32) : l.RetriesSafe inputs ↔ l.RefusedInRing inputs :=
  ⟨fun h => h.toAnswersSafe.refusedInRing, fun h => ⟨hangupsSafe hnew hfew, h.answersSafe hstart⟩⟩

end Safe

end AtLine

end Aokie.Radio.Hfp
