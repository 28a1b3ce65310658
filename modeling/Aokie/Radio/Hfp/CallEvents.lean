import Aokie.Lib.Run
import Aokie.Radio.Hfp.CallState

/-! What the consumer hears of a call: how the call events of a run follow each other, and which of them the
phone's status reads leave out. -/

namespace Aokie.Radio.Hfp

open Aokie.Lib

/-- All that happens to the call state of a connection. -/
inductive HandsFreeInput
  | result (result : HfpAgResult)
  | sent (command : HfpAtCommand)
  | refused (command : String)
  | ready
  | definitionsRetry
  | probeError (command : HfpAtCommand)
  | ccwaAccepted
  | callWaitingEnabled (enabled : Bool)
  | wbsSupported (supported : Bool)
  deriving DecidableEq

def HandsFreeInput.NoDial : HandsFreeInput → Prop
  | .sent (.dial _) => False
  | _ => True

def HfpEvent.isCallEvent : HfpEvent → Bool
  | .incomingCall | .outgoingDialing | .callAnswered | .callActiveAtConnect | .callTerminated => true
  | _ => false

def callEvents (events : List HfpEvent) : List HfpEvent := events.filter (·.isCallEvent)

@[simp] lemma callEvents_append (events events' : List HfpEvent) :
    callEvents (events ++ events') = callEvents events ++ callEvents events' := List.filter_append ..

lemma mem_callEvents {event : HfpEvent} {events : List HfpEvent} :
    event ∈ callEvents events ↔ event ∈ events ∧ event.isCallEvent = true := List.mem_filter

structure CallView where
  active : Bool
  setup : Bool
  pending : Bool
  deriving DecidableEq

/-- All that one result can do to a call, and the call events it raises. A call is found up without an event only
under `silent`, a setup is forgotten only under `drops`. -/
inductive CallStep (silent drops : Prop) : CallView → CallView → List HfpEvent → Prop
  | quiet {a x x' p : Bool} (h : x = true → x' = true ∨ a = true ∨ p = true) :
      CallStep silent drops ⟨a, x, p⟩ ⟨a, x', p⟩ []
  | dropped (h : drops) : CallStep silent drops ⟨false, true, false⟩ ⟨false, false, false⟩ []
  | held {p : Bool} : CallStep silent drops ⟨false, true, p⟩ ⟨false, false, true⟩ []
  | refused {p : Bool} : CallStep silent drops ⟨false, true, p⟩ ⟨false, false, p⟩ [.callTerminated]
  | abandoned {x x' : Bool} : CallStep silent drops ⟨false, x, true⟩ ⟨false, x', false⟩ [.callTerminated]
  | rang {x p : Bool} : CallStep silent drops ⟨false, x, p⟩ ⟨false, true, false⟩ [.incomingCall]
  | rangAgain {x : Bool} :
    CallStep silent drops ⟨false, x, true⟩ ⟨false, true, false⟩ [.callTerminated, .incomingCall]
  | dialing {x : Bool} : CallStep silent drops ⟨false, x, false⟩ ⟨false, true, false⟩ [.outgoingDialing]
  | dialingAgain {a x p : Bool} (h : a = true ∨ p = true) :
    CallStep silent drops ⟨a, x, p⟩ ⟨false, true, false⟩ [.callTerminated, .outgoingDialing]
  | answered {x x' p : Bool} : CallStep silent drops ⟨false, x, p⟩ ⟨true, x', false⟩ [.callAnswered]
  | found {x x' : Bool} : CallStep silent drops ⟨false, x, false⟩ ⟨true, x', false⟩ [.callActiveAtConnect]
  | unannounced {x x' : Bool} (h : silent) : CallStep silent drops ⟨false, x, false⟩ ⟨true, x', false⟩ []
  | ended {x x' : Bool} : CallStep silent drops ⟨true, x, false⟩ ⟨false, x', false⟩ [.callTerminated]
  | replaced {x : Bool} :
    CallStep silent drops ⟨true, x, false⟩ ⟨false, true, false⟩ [.callTerminated, .incomingCall]

lemma CallStep.imp {silent drops silent' drops' : Prop} {v v' : CallView} {events : List HfpEvent}
    (h : CallStep silent drops v v' events) (hsilent : silent → silent') (hdrops : drops → drops') :
    CallStep silent' drops' v v' events := by
  cases h with
  | quiet h => exact .quiet h
  | dropped h => exact .dropped (hdrops h)
  | unannounced h => exact .unannounced (hsilent h)
  | dialingAgain h => exact .dialingAgain h
  | _ => constructor

lemma CallStep.same {silent drops : Prop} (v : CallView) : CallStep silent drops v v [] :=
  .quiet fun hsetup => .inl hsetup

section Heard

variable {silent drops : Prop} {v v' : CallView} {events : List HfpEvent}

/-- Whether a call has been answered and not ended since, from the events alone. -/
def answerHeard : Machine Bool HfpEvent Unit
  | _, .callAnswered => (true, ())
  | _, .callTerminated => (false, ())
  | up, _ => (up, ())

def AnswersIdle (up : Bool) (event : HfpEvent) : Prop := event = .callAnswered → up = false

lemma answerHeard_of_not_callEvent {event : HfpEvent} (h : event.isCallEvent = false) (up : Bool) :
    answerHeard up event = (up, ()) ∧ AnswersIdle up event := by
  cases event <;> simp_all [HfpEvent.isCallEvent, answerHeard, AnswersIdle]

lemma answerHeard_callEvents (up : Bool) (events : List HfpEvent) :
    answerHeard.final up (callEvents events) = answerHeard.final up events ∧
      (answerHeard.Along AnswersIdle up (callEvents events) → answerHeard.Along AnswersIdle up events) := by
  induction events generalizing up with
  | nil => exact ⟨rfl, id⟩
  | cons event events ih =>
      cases hcall : event.isCallEvent with
      | true =>
          have hcons : callEvents (event :: events) = event :: callEvents events := List.filter_cons_of_pos hcall
          rw [hcons]
          exact ⟨(ih _).1, And.imp_right (ih _).2⟩
      | false =>
          have hskip : callEvents (event :: events) = callEvents events := by
            simp [callEvents, hcall]
          obtain ⟨hup, hidle⟩ := answerHeard_of_not_callEvent hcall up
          rw [hskip, Machine.final_cons, Machine.along_cons, hup]
          exact ⟨(ih up).1, fun h => ⟨hidle, (ih up).2 h⟩⟩

lemma CallStep.answers (h : CallStep silent drops v v' events)
    {up : Bool} (hup : up = true → v.active = true) :
    answerHeard.Along AnswersIdle up events ∧ (answerHeard.final up events = true → v'.active = true) := by
  cases h <;> cases up <;> simp_all [answerHeard, AnswersIdle]

lemma terminated_between {up : Bool} {before between after : List HfpEvent}
    (h : answerHeard.Along AnswersIdle up (before ++ .callAnswered :: between ++ .callAnswered :: after)) :
    HfpEvent.callTerminated ∈ between := by
  rw [List.append_assoc, Machine.along_append, List.cons_append, Machine.along_cons, Machine.along_append] at h
  have hidle : answerHeard.final true between = false := h.2.2.2.1 rfl
  by_contra hnone
  have hstays : ∀ events : List HfpEvent, HfpEvent.callTerminated ∉ events → answerHeard.final true events = true := by
    intro events hevents
    induction events with
    | nil => rfl
    | cons event events ih =>
        have hfirst : (answerHeard true event).1 = true := by
          cases event <;> simp_all [answerHeard]
        rw [Machine.final_cons, hfirst]
        exact ih fun h => hevents (List.mem_cons_of_mem _ h)
  exact absurd (hidle.symm.trans (hstays between hnone)) (by decide)

lemma CallStep.terminated (h : CallStep silent drops v v' events) :
    events.count .callTerminated ≤ 1 ∧
      (.callTerminated ∈ events → (v.active || v.setup || v.pending) = true) := by
  cases h with
  | dialingAgain h => simpa [or_right_comm] using h.imp_left .inl
  | _ => simp_all

lemma CallStep.announced (h : CallStep silent drops v v' events) (hsilent : ¬silent) (hbefore : v.active = false)
    (hafter : v'.active = true) : .callAnswered ∈ events ∨ .callActiveAtConnect ∈ events := by
  cases h <;> simp_all

def lastHeard : Machine (Option HfpEvent) HfpEvent Unit
  | last, event => (if event.isCallEvent then some event else last, ())

lemma final_lastHeard (last : Option HfpEvent) (events : List HfpEvent) :
    lastHeard.final last events = (callEvents events).getLast?.or last := by
  induction events generalizing last with
  | nil => rfl
  | cons event events ih =>
      rw [Machine.final_cons, ih]
      cases hcall : event.isCallEvent with
      | true =>
          have hcons : callEvents (event :: events) = event :: callEvents events := List.filter_cons_of_pos hcall
          rw [hcons, List.getLast?_cons]
          cases (callEvents events).getLast? <;> simp [lastHeard, hcall]
      | false =>
          have hskip : callEvents (event :: events) = callEvents events := by simp [callEvents, hcall]
          simp [lastHeard, hcall, hskip]

def StillOn (last : Option HfpEvent) (v : CallView) : Prop :=
  ∀ event ∈ last, event ≠ .callTerminated → (v.active || v.setup || v.pending) = true

lemma CallStep.stillOn (h : CallStep silent drops v v' events) (hdrops : ¬drops) {last : Option HfpEvent}
    (hlast : StillOn last v) : StillOn (events.getLast?.or last) v' := by
  cases h with
  | quiet h =>
      intro event hevent hne
      have hon := hlast event hevent hne
      simp only [Bool.or_eq_true] at hon ⊢
      grind
  | dropped h => exact absurd h hdrops
  | held => exact fun _ _ _ => by simp
  | refused | abandoned | rang | rangAgain | dialing | dialingAgain | answered | found | ended | replaced =>
      intro event hevent hne
      simp_all
  | unannounced h => exact fun _ _ _ => by simp

end Heard

namespace HfpHandsFreeState

def step : Machine HfpHandsFreeState HandsFreeInput (List HfpEvent)
  | s, .result result => s.applyResult result
  | s, .sent command => (s.markCommandSent command, [])
  | s, .refused command => ((s.afterRefusal command).1, [])
  | s, .ready => s.markServiceLevelReady.map id Option.toList
  | s, .definitionsRetry => (s.needsIndicatorDefinitionsRetry.1, [])
  | s, .probeError command => ((s.noteSlcProbeError command).1, [])
  | s, .ccwaAccepted => (s.noteCcwaAccepted, [])
  | s, .callWaitingEnabled enabled => (s.setCallWaitingEnabled enabled, [])
  | s, .wbsSupported supported => (s.setWbsSupported supported, [])

def callView (s : HfpHandsFreeState) : CallView := ⟨s.callActive, s.incomingCall || s.outgoingSetup, s.terminatePending⟩

def HeldAlone (s : HfpHandsFreeState) : Prop :=
  s.terminatePending = true → s.callActive = false ∧ s.callWaiting = false

/-- A status read that finds a call up and says nothing: no verdict is held, and the connection is ready or a
second setup waits for the read. -/
def SilentRead (s : HfpHandsFreeState) : HfpAgResult → Prop
  | .indicatorStatus _ => s.terminatePending = false ∧ (s.serviceLevelReady = true ∨ s.secondSetupUnverified = true)
  | _ => False

/-- A status read without a call and without a setup, while a setup is tracked and no verdict on it is held. -/
def DropsSetup (s : HfpHandsFreeState) : HfpAgResult → Prop
  | .indicatorStatus values =>
    s.callView = ⟨false, true, false⟩ ∧
      (∀ call ∈ indicatorStatusValue values s.callIndicatorIndex, call = 0) ∧
      ∃ callsetup ∈ indicatorStatusValue values s.callsetupIndicatorIndex, callsetup ∉ ({1, 2, 3} : Finset ℤ)
  | _ => False

variable {s : HfpHandsFreeState} {silent drops : Prop}

lemma HeldAlone.not_pending (h : s.HeldAlone) (hactive : s.callActive = true) : s.terminatePending = false := by
  by_contra hpending
  have hidle := (h (by simpa using hpending)).1
  exact absurd (hidle.symm.trans hactive) (by decide)

lemma callStep_secondSetupWhileActive :
    CallStep silent drops s.callView s.secondSetupWhileActive.1.callView (callEvents s.secondSetupWhileActive.2) := by
  simp only [secondSetupWhileActive]
  split_ifs <;> exact CallStep.same _

lemma callStep_updateCallsetupIdle :
    CallStep silent drops s.callView s.updateCallsetupIdle.1.callView (callEvents s.updateCallsetupIdle.2) := by
  simp only [updateCallsetupIdle]
  split_ifs with hwaiting hsecond hsetup hrefused
  · exact CallStep.same _
  · exact CallStep.same _
  · simp only [Bool.and_eq_true, Bool.not_eq_true'] at hsetup
    simp only [callView, hsetup]
    exact .refused
  · simp only [Bool.and_eq_true, Bool.not_eq_true'] at hsetup
    simp only [callView, hsetup]
    exact .held
  · exact CallStep.same _

lemma callStep_updateCallsetupIncoming :
    CallStep silent drops s.callView s.updateCallsetupIncoming.1.callView (callEvents s.updateCallsetupIncoming.2) := by
  simp only [updateCallsetupIncoming]
  split_ifs with hnegotiated hwaiting hactive hpending
  · exact CallStep.same _
  · exact CallStep.same _
  · exact callStep_secondSetupWhileActive
  · simp only [callView, hpending, Bool.eq_false_iff.mpr hactive]
    exact .rangAgain
  · simp only [callView, Bool.eq_false_iff.mpr hpending, Bool.eq_false_iff.mpr hactive]
    exact .rang

lemma callStep_updateCallsetupDialing (hs : s.HeldAlone) :
    CallStep silent drops s.callView s.updateCallsetupDialing.1.callView (callEvents s.updateCallsetupDialing.2) := by
  simp only [updateCallsetupDialing]
  split_ifs with hpending hactive
  · simp only [callView, hpending, (hs hpending).1]
    exact .dialingAgain (.inr rfl)
  · simp only [callView, hactive, hs.not_pending hactive]
    exact .dialingAgain (.inl rfl)
  · simp only [callView, Bool.eq_false_iff.mpr hpending, Bool.eq_false_iff.mpr hactive]
    exact .dialing

lemma callStep_updateCallsetup (hs : s.HeldAlone) (value : ℤ) :
    CallStep silent drops s.callView (s.updateCallsetup value).1.callView (callEvents (s.updateCallsetup value).2) := by
  simp only [updateCallsetup]
  split_ifs with hidle hincoming hdialing halerting hactive
  · exact callStep_updateCallsetupIdle
  · exact callStep_updateCallsetupIncoming
  · exact callStep_updateCallsetupDialing hs
  · refine .quiet fun _ => .inl ?_
    exact Bool.or_true _
  · exact CallStep.same _
  · exact CallStep.same _

lemma callView_noteCallState (active : Bool) :
    (s.noteCallState active).callView = ⟨s.callActive, s.incomingCall || s.outgoingSetup,
      s.terminatePending && !active⟩ := by
  simp only [noteCallState]
  split_ifs <;> simp_all [callView]

lemma callStep_callEnded (hactive : s.callActive = true) (hpending : s.terminatePending = false) :
    CallStep silent drops s.callView (s.callChanged false).1.callView (callEvents (s.callChanged false).2) := by
  simp only [callChanged, Bool.false_eq_true, if_false]
  split_ifs with hwaiting hheld hsecond <;> simp only [callView, hactive, hpending]
  · exact .ended
  · exact .replaced
  · exact .replaced
  · exact .ended

lemma callStep_updateCallState (hs : s.HeldAlone) (active : Bool) :
    CallStep silent drops s.callView (s.updateCallState active).1.callView
      (callEvents (s.updateCallState active).2) := by
  have hview := callView_noteCallState (s := s) active
  have hactive : (s.noteCallState active).callActive = s.callActive := congrArg CallView.active hview
  have hpending : (s.noteCallState active).terminatePending = (s.terminatePending && !active) :=
    congrArg CallView.pending hview
  rw [updateCallState_eq, hactive, hpending]
  cases hup : s.callActive with
  | true =>
      have hnone := hs.not_pending hup
      have hsame : (s.noteCallState active).callView = s.callView := by
        rw [hview, hnone, Bool.false_and, callView, hnone]
      cases active with
      | true => exact hsame ▸ CallStep.same _
      | false =>
          rw [← hsame]
          exact callStep_callEnded (hactive.trans hup) (hpending.trans (by rw [hnone, Bool.false_and]))
  | false =>
      cases active with
      | true =>
          simp only [callView, hup]
          exact hpending.trans (Bool.and_false _) ▸ CallStep.answered
      | false =>
          have hsame : (s.noteCallState false).callView = s.callView := by
            rw [hview, Bool.not_false, Bool.and_true, callView]
          cases hheld : s.terminatePending with
          | true =>
              have hnow : (s.noteCallState false).callActive = false := hactive.trans hup
              simp only [callView, hup, hheld]
              change CallStep silent drops _ ⟨(s.noteCallState false).callActive, _, false⟩ [.callTerminated]
              rw [hnow]
              exact .abandoned
          | false => exact hsame ▸ CallStep.same _

lemma callStep_applyIndicator (hs : s.HeldAlone) (index : UInt8) (value : ℤ) :
    CallStep silent drops s.callView (s.applyIndicator index value).1.callView
      (callEvents (s.applyIndicator index value).2) := by
  simp only [applyIndicator, updateCallheld]
  split_ifs
  · exact callStep_updateCallState hs _
  · exact callStep_updateCallsetup hs value
  · exact CallStep.same _
  · exact CallStep.same _
  · exact CallStep.same _

lemma callStep_applyRing (hs : s.HeldAlone) :
    CallStep silent drops s.callView s.applyRing.1.callView (callEvents s.applyRing.2) := by
  simp only [applyRing]
  split_ifs with hwaiting hactive
  · -- The verdict that the ring takes back is held only while nobody waits.
    simp only [Bool.and_eq_true] at hwaiting
    have hnone : s.terminatePending = false := by
      by_contra hpending
      have hidle := (hs (by simpa using hpending)).2
      exact absurd (hidle.symm.trans hwaiting.1) (by decide)
    simp only [callView, hnone]
    exact CallStep.same _
  · have hsame : HfpHandsFreeState.callView { s with terminatePending := false } = s.callView := by
      simp only [callView, hs.not_pending hactive]
    rw [← hsame]
    exact callStep_secondSetupWhileActive
  · simp only [callView, Bool.eq_false_iff.mpr hactive]
    exact .rang

def setupRead (values : List ℤ) (t : HfpHandsFreeState) : Bool :=
  match indicatorStatusValue values t.callsetupIndicatorIndex with
  | some callsetup => (callsetup == 1 || callsetup == 2 || callsetup == 3) && !t.callActive
  | none => t.incomingCall || t.outgoingSetup

lemma callView_settleStatus (values : List ℤ) :
    (s.settleStatus values).callView = ⟨s.callActive, setupRead values s, s.terminatePending⟩ := by
  have hheld : ∀ t : HfpHandsFreeState, HfpHandsFreeState.callView
      (match t.callheldIndicatorIndex.bind (indicatorStatusValue values) with
        | some held => { t with callHeld := held }
        | none => t) = t.callView := by
    intro t
    split <;> rfl
  simp only [settleStatus, setupRead]
  cases indicatorStatusValue values s.callsetupIndicatorIndex with
  | none => exact hheld s
  | some callsetup =>
      refine (hheld _).trans ?_
      simp only [applyCallsetupSnapshot, Bool.and_or_distrib_right, Bool.or_assoc]
      split_ifs <;> simp [callView]

lemma callStep_readIdle {values : List ℤ} (hactive : s.callActive = false) (hpending : s.terminatePending = false)
    (hcall : ∀ call ∈ indicatorStatusValue values s.callIndicatorIndex, call = 0) :
    CallStep silent (s.DropsSetup (.indicatorStatus values)) s.callView ⟨false, setupRead values s, false⟩ [] := by
  simp only [callView, hactive, hpending]
  cases hsetup : s.incomingCall || s.outgoingSetup with
  | false => exact .quiet nofun
  | true =>
      cases hread : setupRead values s with
      | true => exact CallStep.same _
      | false =>
          refine .dropped ⟨?_, hcall, ?_⟩
          · simp only [callView, hactive, hpending, hsetup]
          · simp only [setupRead, hactive, hsetup] at hread
            cases hvalue : indicatorStatusValue values s.callsetupIndicatorIndex with
            | none => simp [hvalue] at hread
            | some callsetup =>
                refine ⟨callsetup, rfl, ?_⟩
                simpa [hvalue, and_assoc] using hread

lemma applyCallSnapshot_pending (call : ℤ) (ringingNow : Bool) :
    (s.applyCallSnapshot call ringingNow).1.terminatePending = false := by
  have hsettled : ∀ active, (s.settleCallSnapshot active ringingNow).1.terminatePending = false := by
    intro active
    simp only [settleCallSnapshot]
    split_ifs <;> simp_all
  simp only [applyCallSnapshot]
  split_ifs <;> exact hsettled _

lemma applyCallSnapshot_active (call : ℤ) (ringingNow : Bool) :
    (s.applyCallSnapshot call ringingNow).1.callActive = (call != 0) := by
  simp only [applyCallSnapshot]
  split_ifs <;> rfl

lemma callStep_readCall (hs : s.HeldAlone) (values : List ℤ) (ringingNow x' : Bool) :
    CallStep (s.SilentRead (.indicatorStatus values)) drops s.callView ⟨true, x', false⟩
      (callEvents (s.settleCallSnapshot true ringingNow).2) := by
  cases hactive : s.callActive with
  | true =>
      have hpending := hs.not_pending hactive
      have hsilent : callEvents (s.settleCallSnapshot true ringingNow).2 = [] := by
        simp only [settleCallSnapshot, hpending, hactive]
        split_ifs <;> simp_all [callEvents, HfpEvent.isCallEvent]
      rw [hsilent]
      simp only [callView, hactive, hpending]
      exact .quiet fun _ => .inr (.inl rfl)
  | false =>
      simp only [callView, hactive]
      cases hpending : s.terminatePending with
      | true =>
          simp only [settleCallSnapshot, hpending, hactive]
          exact .answered
      | false =>
          cases hsecond : s.secondSetupUnverified with
          | true =>
              have hsilent : callEvents (s.settleCallSnapshot true ringingNow).2 = [] := by
                simp only [settleCallSnapshot, hpending, hactive, hsecond]
                split_ifs <;> simp_all [callEvents, HfpEvent.isCallEvent]
              rw [hsilent]
              exact .unannounced ⟨hpending, .inr hsecond⟩
          | false =>
              cases hready : s.serviceLevelReady with
              | true =>
                  simp only [settleCallSnapshot, hpending, hactive, hsecond, hready]
                  exact .unannounced ⟨hpending, .inl hready⟩
              | false =>
                  simp only [settleCallSnapshot, hpending, hactive, hsecond, hready]
                  exact .found

lemma callStep_readEnded (hactive : s.callActive = true) (hpending : s.terminatePending = false) {ringingNow x' : Bool}
    (hringing : ringingNow = true → x' = true) :
    CallStep silent drops s.callView ⟨false, x', false⟩ (callEvents (s.settleCallSnapshot false ringingNow).2) := by
  simp only [callView, hactive, hpending]
  cases ringingNow with
  | false =>
      have hevents : callEvents (s.settleCallSnapshot false false).2 = [.callTerminated] := by
        simp only [settleCallSnapshot, hpending, hactive]
        split_ifs <;> simp_all [callEvents, HfpEvent.isCallEvent]
      rw [hevents]
      exact .ended
  | true =>
      have hevents : callEvents (s.settleCallSnapshot false true).2 = [.callTerminated] ∨
          callEvents (s.settleCallSnapshot false true).2 = [.callTerminated, .incomingCall] := by
        simp only [settleCallSnapshot, hpending, hactive]
        split_ifs <;> simp_all [callEvents, HfpEvent.isCallEvent]
      obtain hevents | hevents := hevents
      · rw [hevents]
        exact .ended
      · rw [hevents, hringing rfl]
        exact .replaced

lemma setupRead_ringing {values : List ℤ} (hactive : s.callActive = false)
    (hringing : (indicatorStatusValue values s.callsetupIndicatorIndex == some 1) = true) :
      setupRead values s = true := by
  rw [setupRead, beq_iff_eq.mp hringing, hactive]
  rfl

lemma applyCallSnapshot_callsetupIndicatorIndex (call : ℤ) (ringingNow : Bool) :
    (s.applyCallSnapshot call ringingNow).1.callsetupIndicatorIndex = s.callsetupIndicatorIndex := by
  have hsettled : ∀ active, (s.settleCallSnapshot active ringingNow).1.callsetupIndicatorIndex =
      s.callsetupIndicatorIndex := by
    intro active
    simp only [settleCallSnapshot]
    split_ifs <;> rfl
  simp only [applyCallSnapshot]
  split_ifs <;> exact hsettled _

lemma callStep_applyIndicatorStatus (hs : s.HeldAlone) (values : List ℤ) :
    CallStep (s.SilentRead (.indicatorStatus values)) (s.DropsSetup (.indicatorStatus values)) s.callView
      (s.applyIndicatorStatus values).1.callView (callEvents (s.applyIndicatorStatus values).2) := by
  rw [applyIndicatorStatus_eq, Prod.map_fst, Prod.map_snd, callView_settleStatus]
  cases hvalue : indicatorStatusValue values s.callIndicatorIndex with
  | none =>
      cases hactive : s.callActive with
      | true =>
          simp only [callView, hactive]
          exact .quiet fun _ => .inr (.inl rfl)
      | false =>
          cases hpending : s.terminatePending with
          | true =>
              simp only [callView, hactive, hpending]
              exact .quiet fun _ => .inr (.inr rfl)
          | false => exact callStep_readIdle hactive hpending (by simp [hvalue])
  | some call =>
      simp only [applyCallSnapshot_active, applyCallSnapshot_pending]
      by_cases hcall : call = 0
      · subst hcall
        cases hactive : s.callActive with
        | true =>
            refine callStep_readEnded hactive (hs.not_pending hactive) fun hringing => ?_
            apply setupRead_ringing (applyCallSnapshot_active 0 _)
            rw [applyCallSnapshot_callsetupIndicatorIndex]
            exact hringing
        | false =>
            cases hpending : s.terminatePending with
            | true =>
                simp only [callView, hactive, hpending, applyCallSnapshot, settleCallSnapshot]
                exact .abandoned
            | false =>
                have hidle : CallStep (s.SilentRead (.indicatorStatus values)) (s.DropsSetup (.indicatorStatus values))
                    s.callView ⟨false, setupRead values s, false⟩ [] :=
                  callStep_readIdle hactive hpending (by simp [hvalue])
                simp only [applyCallSnapshot, settleCallSnapshot, hactive, hpending]
                simpa [setupRead, hactive, callEvents] using hidle
      · have hup : (call != 0) = true := by simpa using hcall
        simp only [applyCallSnapshot, hup]
        exact callStep_readCall hs values _ _

lemma applyIndicatorDefinitions_keeps {α : Type} (f : HfpHandsFreeState → α)
    (hname : ∀ t index name, f (noteIndicatorName t index name) = f t)
    (hseen : ∀ t : HfpHandsFreeState, f { t with indicatorDefinitionsSeen := true } = f t) (names : List String) :
    f (s.applyIndicatorDefinitions names) = f s := by
  have hfold : ∀ (entries : List (String × ℕ)) (t : HfpHandsFreeState),
      f (entries.foldl (fun t entry => t.noteIndicatorName (UInt8.ofNat (entry.2 + 1)) entry.1) t) = f t := by
    intro entries
    induction entries with
    | nil => exact fun _ => rfl
    | cons entry entries ih => exact fun t => (ih _).trans (hname ..)
  simp only [applyIndicatorDefinitions]
  split_ifs
  · exact (hseen _).trans (hfold _ s)
  · exact hfold _ s

lemma callView_applyIndicatorDefinitions (names : List String) :
    (s.applyIndicatorDefinitions names).callView = s.callView := by
  refine applyIndicatorDefinitions_keeps callView (fun t index name => ?_) (fun _ => rfl) names
  simp only [noteIndicatorName]
  split_ifs <;> rfl

lemma callEvents_callListEvents (entry : ClccEntry) : callEvents (callListEvents entry) = [] := by
  simp only [callListEvents]
  split
  · split_ifs <;> rfl
  · rfl

lemma callStep_applyResultToState (hs : s.HeldAlone) (result : HfpAgResult) :
    CallStep (s.SilentRead result) (s.DropsSetup result) s.callView (s.applyResultToState result).1.callView
      (callEvents (s.applyResultToState result).2) := by
  cases result with
  | ok | supportedFeatures features | callHoldModes modes | error | unknown line => exact CallStep.same _
  | ring => exact callStep_applyRing hs
  | indicators names =>
      simp only [applyResultToState, callView_applyIndicatorDefinitions]
      exact CallStep.same _
  | indicatorUpdate index value => exact callStep_applyIndicator hs index value
  | indicatorStatus values => exact callStep_applyIndicatorStatus hs values
  | callListEntry entry =>
      simp only [applyResultToState, callEvents_callListEvents]
      exact CallStep.same _
  | callWaitingNotification number =>
      simp only [applyResultToState, applyCallWaitingNotification]
      split_ifs <;> exact CallStep.same _
  | callerId number =>
      simp only [applyResultToState]
      split_ifs <;> exact CallStep.same _
  | selectedCodec codec =>
      simp only [applyResultToState, codecEvent]
      split_ifs <;> exact CallStep.same _

theorem callStep_applyResult (hs : s.HeldAlone) (result : HfpAgResult) :
    CallStep (s.SilentRead result) (s.DropsSetup result) s.callView (s.applyResult result).1.callView
      (callEvents (s.applyResult result).2) := by
  have hstep := callStep_applyResultToState hs result
  simp only [applyResult]
  split_ifs <;> exact hstep

section HeldAlone

lemma heldAlone_secondSetupWhileActive (hs : s.HeldAlone) : s.secondSetupWhileActive.1.HeldAlone := by
  simp only [secondSetupWhileActive]
  split_ifs <;> exact hs

lemma heldAlone_updateCallsetup (hs : s.HeldAlone) (value : ℤ) : (s.updateCallsetup value).1.HeldAlone := by
  have hsecond := heldAlone_secondSetupWhileActive hs
  simp only [updateCallsetup, updateCallsetupIdle, updateCallsetupIncoming, updateCallsetupDialing]
  split_ifs
  all_goals first
    | exact hs
    | exact hsecond
    | simp_all [HeldAlone]

lemma heldAlone_updateCallState (hs : s.HeldAlone) (active : Bool) : (s.updateCallState active).1.HeldAlone := by
  simp only [updateCallState, callChanged]
  split_ifs <;> simp_all [HeldAlone]

lemma heldAlone_settleStatus (hs : s.HeldAlone) (values : List ℤ) : (s.settleStatus values).HeldAlone := by
  have hsetup : ∀ callsetup, (s.applyCallsetupSnapshot callsetup).HeldAlone := by
    intro callsetup
    simp only [applyCallsetupSnapshot]
    split_ifs
    · exact fun hpending => ⟨(hs hpending).1, rfl⟩
    · exact hs
  simp only [settleStatus]
  split <;> split
  · exact hsetup _
  · exact hs
  · exact hsetup _
  · exact hs

lemma heldAlone_applyIndicatorStatus (hs : s.HeldAlone) (values : List ℤ) :
    (s.applyIndicatorStatus values).1.HeldAlone := by
  rw [applyIndicatorStatus_eq, Prod.map_fst]
  apply heldAlone_settleStatus
  split
  · intro hpending
    exact absurd (hpending.symm.trans (applyCallSnapshot_pending _ _)) (by decide)
  · exact hs

lemma heldAlone_applyRing : s.applyRing.1.HeldAlone := by
  simp only [applyRing]
  split_ifs
  · rintro ⟨⟩
  · exact heldAlone_secondSetupWhileActive (by rintro ⟨⟩)
  · rintro ⟨⟩

lemma heldAlone_applyResult (hs : s.HeldAlone) (result : HfpAgResult) : (s.applyResult result).1.HeldAlone := by
  have hstate : (s.applyResultToState result).1.HeldAlone := by
    cases result with
    | ok | supportedFeatures features | callHoldModes modes | callListEntry entry | error | unknown line => exact hs
    | ring => exact heldAlone_applyRing
    | indicators names =>
        have hkeeps : (s.applyIndicatorDefinitions names).HeldAlone = s.HeldAlone := by
          refine applyIndicatorDefinitions_keeps HeldAlone (fun t index name => ?_) (fun _ => rfl) names
          simp only [noteIndicatorName]
          split_ifs <;> rfl
        exact hkeeps ▸ hs
    | indicatorUpdate index value =>
        simp only [applyResultToState, applyIndicator, updateCallheld]
        split_ifs
        · exact heldAlone_updateCallState hs _
        · exact heldAlone_updateCallsetup hs value
        · exact hs
        · exact hs
        · exact hs
    | indicatorStatus values => exact heldAlone_applyIndicatorStatus hs values
    | callWaitingNotification number =>
        simp only [applyResultToState, applyCallWaitingNotification]
        split_ifs <;> simp_all [HeldAlone]
    | callerId number | selectedCodec codec =>
        simp only [applyResultToState]
        split_ifs <;> exact hs
  simp only [applyResult]
  split_ifs <;> exact hstate

lemma heldAlone_step (hs : s.HeldAlone) (input : HandsFreeInput) : (step s input).1.HeldAlone := by
  cases input with
  | result result => exact heldAlone_applyResult hs result
  | sent command =>
      cases command with
      | dial number => exact nofun
      | _ => exact hs
  | refused command =>
      simp only [step, afterRefusal]
      split_ifs <;> exact hs
  | ready =>
      simp only [step, markServiceLevelReady]
      split_ifs <;> exact hs
  | definitionsRetry =>
      simp only [step, needsIndicatorDefinitionsRetry]
      split_ifs <;> exact hs
  | probeError command => cases command <;> exact hs
  | ccwaAccepted | callWaitingEnabled enabled | wbsSupported supported => exact hs

lemma heldAlone_final (inputs : List HandsFreeInput) : (step.final new inputs).HeldAlone :=
  Machine.always (P := HeldAlone) (fun _ input hs => heldAlone_step hs input)
    (fun hpending => absurd hpending (by decide)) inputs

end HeldAlone

lemma callView_step {input : HandsFreeInput} (hresult : ∀ result, input ≠ .result result) (hdial : input.NoDial) :
    (step s input).1.callView = s.callView ∧ callEvents (step s input).2 = [] := by
  cases input with
  | result result => exact absurd rfl (hresult result)
  | sent command =>
      cases command with
      | dial number => exact hdial.elim
      | _ => exact ⟨rfl, rfl⟩
  | refused command =>
      simp only [step, afterRefusal]
      split_ifs <;> exact ⟨rfl, rfl⟩
  | ready =>
      simp only [step, markServiceLevelReady]
      split_ifs <;> exact ⟨rfl, rfl⟩
  | definitionsRetry =>
      simp only [step, needsIndicatorDefinitionsRetry]
      split_ifs <;> exact ⟨rfl, rfl⟩
  | probeError command => cases command <;> exact ⟨rfl, rfl⟩
  | ccwaAccepted | callWaitingEnabled enabled | wbsSupported supported => exact ⟨rfl, rfl⟩

def Drops (s : HfpHandsFreeState) (input : HandsFreeInput) : Prop :=
  ∃ result, input = .result result ∧ s.DropsSetup result

lemma callStep_step (hs : s.HeldAlone) {input : HandsFreeInput} (hdial : input.NoDial) :
    CallStep True (s.Drops input) s.callView (step s input).1.callView (callEvents (step s input).2) := by
  by_cases hresult : ∃ result, input = .result result
  · obtain ⟨result, rfl⟩ := hresult
    exact (callStep_applyResult hs result).imp (fun _ => trivial) fun hdrops => ⟨result, rfl, hdrops⟩
  · obtain ⟨hview, hevents⟩ := callView_step (s := s) (fun result h => hresult ⟨result, h⟩) hdial
    rw [hview, hevents]
    exact CallStep.same _

lemma callInProgress_eq : s.callInProgress = (s.callView.active || s.callView.setup || s.callView.pending) := by
  simp only [callInProgress, callView, Bool.or_assoc]

/-- As long as we do not dial: no call is answered twice without an end in between, a call is ended once and only
if there is one, and no verdict is held over a call that is up. -/
theorem answers_and_ends_alternate (inputs : List HandsFreeInput) (hdial : ∀ input ∈ inputs, input.NoDial) :
    let s := step.final new inputs
    (∀ before between after, (step.outputs new inputs).flatten =
        before ++ .callAnswered :: between ++ .callAnswered :: after → HfpEvent.callTerminated ∈ between) ∧
    (∀ result, (s.applyResult result).2.count .callTerminated ≤ 1 ∧
      (.callTerminated ∈ (s.applyResult result).2 → s.callInProgress = true)) ∧
    ¬(s.callActive = true ∧ s.terminatePending = true) := by
  intro s
  have hs : s.HeldAlone := heldAlone_final inputs
  refine ⟨fun before between after hevents => ?_, fun result => ?_, fun h => ?_⟩
  · have hrun : step.Along (fun _ input => input.NoDial) new inputs := Machine.along_of_forall hdial
    have hheard := (Machine.observed (n := answerHeard) (D := AnswersIdle)
      (R := fun up s => s.HeldAlone ∧ (up = true → s.callActive = true)) (t := false)
      (fun up s input hinput hR => ?_) hrun ⟨heldAlone_final [], nofun⟩).1
    · rw [hevents] at hheard
      exact terminated_between hheard
    · obtain ⟨halong, hfinal⟩ := (callStep_step hR.1 hinput).answers hR.2
      obtain ⟨hsame, hall⟩ := answerHeard_callEvents up (step s input).2
      exact ⟨hall halong, heldAlone_step hR.1 input, hsame ▸ hfinal⟩
  · obtain ⟨honce, hprogress⟩ := (callStep_applyResult hs result).terminated
    rw [callEvents, List.count_filter rfl] at honce
    refine ⟨honce, fun hterminated => ?_⟩
    rw [callInProgress_eq]
    exact hprogress (mem_callEvents.mpr ⟨hterminated, rfl⟩)
  · exact absurd (hs.not_pending h.1 |>.symm.trans h.2) (by decide)

/-- A call comes up, ends, and the next one comes up. -/
theorem answers_and_ends_alternate_twice :
    (step.outputs new [.result (.indicatorUpdate 2 1), .sent .rejectOrHangup, .result (.indicatorUpdate 2 0),
        .result (.indicatorUpdate 2 1)]).flatten = [] ++ .callAnswered :: [.callTerminated] ++ .callAnswered :: [] ∧
      HfpEvent.callTerminated ∈ [HfpEvent.callTerminated] :=
  ⟨by decide, (answers_and_ends_alternate [.result (.indicatorUpdate 2 1), .sent .rejectOrHangup,
    .result (.indicatorUpdate 2 0), .result (.indicatorUpdate 2 1)] (by simp [HandsFreeInput.NoDial])).1 []
    [.callTerminated] [] (by decide)⟩

/-- A call that comes up is announced, unless a status read finds it with no verdict held, on a connection that is
ready or that waits for the read because of a second setup. -/
theorem call_coming_up_announced (inputs : List HandsFreeInput) (result : HfpAgResult)
    (hbefore : (step.final new inputs).callActive = false)
    (hafter : ((step.final new inputs).applyResult result).1.callActive = true)
    (hread : ¬(step.final new inputs).SilentRead result) :
    .callAnswered ∈ ((step.final new inputs).applyResult result).2 ∨
      .callActiveAtConnect ∈ ((step.final new inputs).applyResult result).2 := by
  set s := step.final new inputs
  have hstep := callStep_applyResult (heldAlone_final inputs) result
  have hannounced : .callAnswered ∈ callEvents (s.applyResult result).2 ∨
      .callActiveAtConnect ∈ callEvents (s.applyResult result).2 := hstep.announced hread hbefore hafter
  exact hannounced.imp (fun h => (mem_callEvents.mp h).1) fun h => (mem_callEvents.mp h).1

/-- The connection comes up in the middle of a call. -/
theorem call_coming_up_announced_at_connect :
    .callAnswered ∈ (new.applyResult (.indicatorStatus [1, 1, 0])).2 ∨
      .callActiveAtConnect ∈ (new.applyResult (.indicatorStatus [1, 1, 0])).2 :=
  call_coming_up_announced [] (.indicatorStatus [1, 1, 0]) (by decide) (by decide) (by simp [SilentRead, new])

/-- Once the connection is ready a status read finds a call and says nothing. -/
theorem call_found_silently_when_ready :
    let s := step.final new [.ready]
    s.callActive = false ∧ (s.applyResult (.indicatorStatus [1, 1, 0])).1.callActive = true ∧
      .callAnswered ∉ (s.applyResult (.indicatorStatus [1, 1, 0])).2 ∧
      .callActiveAtConnect ∉ (s.applyResult (.indicatorStatus [1, 1, 0])).2 := by
  decide

/-- As long as we do not dial and no status read forgets a setup, a call that was announced last is still going on. -/
theorem announced_call_in_progress (inputs : List HandsFreeInput)
    (hrun : step.Along (fun s input => input.NoDial ∧ ¬s.Drops input) new inputs) (event : HfpEvent)
    (hlast : (callEvents (step.outputs new inputs).flatten).getLast? = some event) (hevent : event ≠ .callTerminated) :
    (step.final new inputs).callInProgress = true := by
  have hobserved := (Machine.observed (n := lastHeard) (D := fun _ _ => True)
    (R := fun last s => s.HeldAlone ∧ StillOn last s.callView) (t := none)
    (fun last s input hinput hR => ?_) hrun ⟨heldAlone_final [], nofun⟩).2.2
  · rw [final_lastHeard, hlast, Option.some_or] at hobserved
    rw [callInProgress_eq]
    exact hobserved event rfl hevent
  · refine ⟨Machine.along_of_forall fun _ _ => trivial, heldAlone_step hR.1 input, ?_⟩
    rw [final_lastHeard]
    exact (callStep_step hR.1 hinput.1).stillOn hinput.2 hR.2

/-- The phone rings and its status read shows the ring. -/
theorem announced_call_in_progress_ringing :
    (step.final new [.result (.indicatorUpdate 3 1), .result (.indicatorStatus [1, 0, 1])]).callInProgress = true := by
  refine announced_call_in_progress [.result (.indicatorUpdate 3 1), .result (.indicatorStatus [1, 0, 1])]
    ⟨⟨trivial, ?_⟩, ⟨trivial, ?_⟩, trivial⟩ .incomingCall (by decide) (by decide)
  · rintro ⟨result, ⟨rfl⟩, hdrops⟩
    exact hdrops
  · rintro ⟨result, ⟨rfl⟩, -, -, callsetup, hcallsetup, hnone⟩
    obtain rfl : (1 : ℤ) = callsetup := Option.some.inj hcallsetup
    exact hnone (by decide)

/-- The end of a ring is lost, and the status read that shows an idle line does not tell. -/
theorem ring_ends_silently :
    let inputs : List HandsFreeInput := [.result (.indicatorUpdate 3 1), .result (.indicatorStatus [1, 0, 0])]
    (callEvents (step.outputs new inputs).flatten).getLast? = some .incomingCall ∧
      (step.final new inputs).callInProgress = false := by
  decide

end HfpHandsFreeState

end Aokie.Radio.Hfp
