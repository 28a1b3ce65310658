import Aokie.Radio.Rfcomm.Isolation
import Aokie.Radio.Rfcomm.Session

/-! The outbound channels of a multiplexer as their owners see them: phases and one shared queue of
events. Both roles step this view in the same few ways. -/

namespace Aokie.Radio.Rfcomm

open Aokie.Lib

structure DlciView where
  phase : UInt8 → Option ClientDlciPhase
  events : List ClientDlciEvent

/-- What a frame can mean to one outbound channel. -/
inductive DlciCause
  | data
  | closing
  | other
  deriving DecidableEq, Repr

/-- The phase of the channel `d` before a step, the events queued for it and its phase after the step.
One role keeps a failed channel, the other forgets it. -/
inductive SlotStep (keeps : Bool) (d : UInt8) : DlciCause → Option ClientDlciPhase → List ClientDlciEvent →
    Option ClientDlciPhase → Prop
  | same (cause : DlciCause) (phase : Option ClientDlciPhase) : SlotStep keeps d cause phase [] phase
  | negotiated (cause : DlciCause) : SlotStep keeps d cause (some .awaitingPnRsp) [] (some .awaitingTargetUa)
  | accepted (cause : DlciCause) :
      SlotStep keeps d cause (some .awaitingTargetUa) [] (some .awaitingMscExchange)
  | opened (cause : DlciCause) : SlotStep keeps d cause (some .awaitingMscExchange) [.opened d] (some .open)
  | payload (phase : ClientDlciPhase) (bytes : Bytes) :
      SlotStep keeps d .data (some phase) [.payload d bytes] (some phase)
  | failed (phase : ClientDlciPhase) (reason : String) :
      SlotStep keeps d .closing (some phase) [.failed d reason]
        (if keeps then some (.failed reason) else none)

def SlotMoves (keeps : Bool) (d : UInt8) (cause : DlciCause) (v w : DlciView) : Prop :=
  ∃ new, w.events = v.events ++ new ∧ SlotStep keeps d cause (v.phase d) (eventsFor d new) (w.phase d)

/-- A step of the view, with what it tells the owners of the channels. -/
inductive ViewStep (keeps : Bool) (cause : UInt8 → DlciCause) (v : DlciView) : DlciOutcome → DlciView → Prop
  | moved (w : DlciView) (hmoves : ∀ d, SlotMoves keeps d (cause d) v w) : ViewStep keeps cause v .silent w
  | attached (d : UInt8) (hfree : v.phase d = none) :
      ViewStep keeps cause v (.attached d) { v with phase := Function.update v.phase d (some .awaitingPnRsp) }
  | forgotten (d : UInt8) : ViewStep keeps cause v .silent { v with phase := Function.update v.phase d none }
  | drained (d : UInt8) : ViewStep keeps cause v (.drained d (eventsFor d v.events))
      { v with events := v.events.filter fun event => !(event.dlci == d) }
  | drainedAll : ViewStep keeps cause v (.drainedAll v.events) { v with events := [] }

variable {keeps : Bool} {d e : UInt8} {cause : DlciCause} {u v w : DlciView}

lemma SlotMoves.quiet (hphase : w.phase d = v.phase d) (hevents : w.events = v.events) :
    SlotMoves keeps d cause v w :=
  ⟨[], by simp [hevents], by simpa [hphase] using SlotStep.same cause (v.phase d)⟩

lemma SlotMoves.of_eq (heq : w = v) : SlotMoves keeps d cause v w :=
  .quiet (by rw [heq]) (by rw [heq])

lemma SlotMoves.update {phase : Option ClientDlciPhase} {events : List ClientDlciEvent}
    (hphase : w.phase = Function.update v.phase e phase) (hevents : w.events = v.events ++ events)
    (howner : ∀ event ∈ events, event.dlci = e)
    (hstep : e = d → SlotStep keeps d cause (v.phase d) events phase) : SlotMoves keeps d cause v w := by
  refine ⟨events, hevents, ?_⟩
  by_cases he : e = d
  · subst he
    have hall : eventsFor e events = events := List.filter_eq_self.mpr (by simpa using howner)
    simpa [hall, hphase] using hstep rfl
  · have hnone : eventsFor d events = [] := by
      refine List.filter_eq_nil_iff.mpr fun event hevent => ?_
      simp [howner event hevent, he]
    rw [hnone, hphase, Function.update_of_ne (Ne.symm he)]
    exact .same cause _

lemma eventsFor_filter_ne (he : e ≠ d) (events : List ClientDlciEvent) :
    eventsFor e (events.filter fun event => !(event.dlci == d)) = eventsFor e events := by
  rw [eventsFor, List.filter_filter]
  refine List.filter_congr fun event _ => ?_
  by_cases hevent : event.dlci = e
  · simp [hevent, he]
  · simp [hevent]

lemma eventsFor_filter_self (events : List ClientDlciEvent) :
    eventsFor d (events.filter fun event => !(event.dlci == d)) = [] := by
  simp [eventsFor, List.filter_filter]

lemma takeEventsForDlci_eq (events : List ClientDlciEvent) (d : UInt8) :
    takeEventsForDlci events d = (eventsFor d events, events.filter fun event => !(event.dlci == d)) := by
  simp [takeEventsForDlci, eventsFor, List.partition_eq_filter_filter, Function.comp_def]

end Aokie.Radio.Rfcomm
