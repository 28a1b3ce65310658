import Aokie.Radio.Rfcomm.Client

/-! A frame about one secondary channel of the initiator's multiplexer touches that channel only. -/

namespace Aokie.Radio.Rfcomm

open Aokie.Lib

structure PrimarySession where
  serverChannel : UInt8
  targetDlci : UInt8
  maxFrameSize : UInt16
  phase : RfcommClientPhase
  mscLocalPending : Bool
  mscRemoteReceived : Bool
  pendingEvents : List RfcommClientEvent
  creditFlow : Bool
  txCredits : ℕ
  rxCreditsOutstanding : ℕ
  deriving DecidableEq, Repr

def eventsFor (d : UInt8) (events : List ClientDlciEvent) : List ClientDlciEvent :=
  events.filter fun event => event.dlci == d

@[simp] lemma eventsFor_nil (d : UInt8) : eventsFor d [] = [] := rfl

@[simp] lemma eventsFor_append (d : UInt8) (xs ys : List ClientDlciEvent) :
    eventsFor d (xs ++ ys) = eventsFor d xs ++ eventsFor d ys := List.filter_append ..

@[simp] lemma eventsFor_singleton (d : UInt8) (event : ClientDlciEvent) :
    eventsFor d [event] = if event.dlci = d then [event] else [] := by
  by_cases h : event.dlci = d <;> simp [eventsFor, h]

/-- A frame about the channel `d`: one on `d`, or a multiplexer command that names it. -/
inductive RfcommFrame.Concerns (frame : RfcommFrame) (d : UInt8) : Prop
  | ua (hkind : frame.kind = .ua) (hdlci : frame.dlci = d)
  | dm (hkind : frame.kind = .dm) (hdlci : frame.dlci = d)
  | disc (hkind : frame.kind = .disc) (hdlci : frame.dlci = d)
  | uih (hkind : frame.kind = .uih) (hdlci : frame.dlci = d)
  | pnResponse (frameType priority : UInt8) (maxFrameSize : UInt16) (credits : UInt8)
      (hkind : frame.kind = .uih) (hdlci : frame.dlci = dlciMultiplexer)
      (hcommand : parseMultiplexerCommand frame.payload =
        .ok (.parameterNegotiation true d frameType priority maxFrameSize credits))
  | msc (isResponse : Bool) (signals : UInt8)
      (hkind : frame.kind = .uih) (hdlci : frame.dlci = dlciMultiplexer)
      (hcommand : parseMultiplexerCommand frame.payload = .ok (.modemStatus isResponse d signals))

namespace RfcommClientState

def primary (s : RfcommClientState) : PrimarySession where
  serverChannel := s.serverChannel
  targetDlci := s.targetDlci
  maxFrameSize := s.maxFrameSize
  phase := s.phase
  mscLocalPending := s.mscLocalPending
  mscRemoteReceived := s.mscRemoteReceived
  pendingEvents := s.pendingEvents
  creditFlow := s.creditFlow
  txCredits := s.txCredits
  rxCreditsOutstanding := s.rxCreditsOutstanding

structure AgreeOff (d : UInt8) (s t : RfcommClientState) : Prop where
  primary : t.primary = s.primary
  secondary : ∀ e, e ≠ d → t.secondaryDlcis[e]? = s.secondaryDlcis[e]?
  events : ∀ e, e ≠ d → eventsFor e t.clientEvents = eventsFor e s.clientEvents

variable {s t u : RfcommClientState} {d : UInt8}

lemma AgreeOff.refl (d : UInt8) (s : RfcommClientState) : AgreeOff d s s :=
  ⟨rfl, fun _ _ => rfl, fun _ _ => rfl⟩

lemma AgreeOff.trans (hst : AgreeOff d s t) (htu : AgreeOff d t u) : AgreeOff d s u where
  primary := htu.primary.trans hst.primary
  secondary e he := (htu.secondary e he).trans (hst.secondary e he)
  events e he := (htu.events e he).trans (hst.events e he)

lemma agreeOff_insert (s : RfcommClientState) (client : SecondaryDlci) (events : List ClientDlciEvent)
    (hevents : ∀ event ∈ events, event.dlci = d) :
    AgreeOff d s { s with
      secondaryDlcis := s.secondaryDlcis.insert d client, clientEvents := s.clientEvents ++ events } where
  primary := rfl
  secondary e he := by simp [Std.ExtTreeMap.getElem?_insert, he.symm]
  events e he := by
    have hnone : eventsFor e events = [] := by
      rw [eventsFor, List.filter_eq_nil_iff]
      intro event hevent
      simp [hevents event hevent, he.symm]
    simp [hnone]

lemma agreeOff_modify (s : RfcommClientState) (f : SecondaryDlci → SecondaryDlci) :
    AgreeOff d s { s with secondaryDlcis := s.secondaryDlcis.modify d f } where
  primary := rfl
  secondary e he := by simp [Std.ExtTreeMap.getElem?_modify, he.symm]
  events _ _ := rfl

lemma agreeOff_failSecondary (s : RfcommClientState) (reason : String) :
    AgreeOff d s (s.failSecondary d reason) where
  primary := rfl
  secondary e he := by simp [failSecondary, Std.ExtTreeMap.getElem?_erase, he.symm]
  events e he := by simp [failSecondary, he.symm]

lemma agreeOff_maybeOpenSecondary (s : RfcommClientState) : AgreeOff d s (s.maybeOpenSecondary d) := by
  unfold maybeOpenSecondary
  split
  · exact .refl d s
  · split_ifs
    · exact agreeOff_insert s _ _ (by simp)
    · exact .refl d s

lemma agreeOff_onUaSecondary (s : RfcommClientState) : AgreeOff d s (s.onUaSecondary d).1 := by
  unfold onUaSecondary
  split
  · exact .refl d s
  · split_ifs
    · exact .refl d s
    · simpa using agreeOff_insert s _ [] (by simp)

lemma agreeOff_onUihSecondary (s : RfcommClientState) (credits : Option UInt8) (payload : Bytes) :
    AgreeOff d s (s.onUihSecondary d credits payload).1 := by
  unfold onUihSecondary
  split
  · exact .refl d s
  · refine agreeOff_insert s _ _ ?_
    split_ifs <;> simp

lemma agreeOff_onDm (s : RfcommClientState) (h0 : d ≠ dlciMultiplexer) (ht : d ≠ s.targetDlci) :
    AgreeOff d s (s.onDm d) := by
  unfold onDm
  simp only [h0, ht, or_self, if_false]
  split_ifs
  · exact agreeOff_failSecondary s _
  · exact .refl d s

lemma agreeOff_onDisc (s : RfcommClientState) (h0 : d ≠ dlciMultiplexer) (ht : d ≠ s.targetDlci) :
    AgreeOff d s (s.onDisc d).1 := by
  unfold onDisc
  simp only [h0, ht, or_self, if_false]
  split_ifs
  · exact agreeOff_failSecondary s _
  · exact .refl d s

lemma agreeOff_onPnResponse (s : RfcommClientState) (ht : d ≠ s.targetDlci) (frameType : UInt8)
    (maxFrameSize : UInt16) (credits : UInt8) :
    AgreeOff d s (s.onPnResponse d frameType maxFrameSize credits).1 := by
  unfold onPnResponse
  simp only [ht, false_and, if_false]
  split
  · split_ifs
    · simpa using agreeOff_insert s _ [] (by simp)
    · exact .refl d s
  · exact .refl d s

lemma agreeOff_onMscResponse (s : RfcommClientState) (ht : d ≠ s.targetDlci) :
    AgreeOff d s (s.onMscResponse d) := by
  unfold onMscResponse
  simp only [ht, if_false]
  split_ifs
  · exact (agreeOff_modify s _).trans (agreeOff_maybeOpenSecondary _)
  · exact .refl d s

lemma agreeOff_onMscCommand (s : RfcommClientState) (ht : d ≠ s.targetDlci) (signals : UInt8) :
    AgreeOff d s (s.onMscCommand d signals).1 := by
  unfold onMscCommand
  simp only [ht, if_false]
  split_ifs
  · exact (agreeOff_modify s _).trans (agreeOff_maybeOpenSecondary _)
  · exact .refl d s

lemma agreeOff_handleFrame {frame : RfcommFrame} (hc : frame.Concerns d) (h0 : d ≠ dlciMultiplexer)
    (ht : d ≠ s.targetDlci) : AgreeOff d s (s.handleFrame frame).1 := by
  cases hc with
  | ua hkind hdlci => simpa [handleFrame, hkind, onUa, hdlci, h0, ht] using agreeOff_onUaSecondary s
  | dm hkind hdlci => simpa [handleFrame, hkind, hdlci] using agreeOff_onDm s h0 ht
  | disc hkind hdlci => simpa [handleFrame, hkind, hdlci] using agreeOff_onDisc s h0 ht
  | uih hkind hdlci =>
      simpa [handleFrame, hkind, onUih, hdlci, h0, ht] using agreeOff_onUihSecondary s _ _
  | pnResponse frameType priority maxFrameSize credits hkind hdlci hcommand =>
      simpa [handleFrame, hkind, onUih, hdlci, onMuxUih, hcommand, onMuxCommand] using
        agreeOff_onPnResponse s ht frameType maxFrameSize credits
  | msc isResponse signals hkind hdlci hcommand =>
      cases isResponse with
      | true =>
          simpa [handleFrame, hkind, onUih, hdlci, onMuxUih, hcommand, onMuxCommand] using
            agreeOff_onMscResponse s ht
      | false =>
          simpa [handleFrame, hkind, onUih, hdlci, onMuxUih, hcommand, onMuxCommand] using
            agreeOff_onMscCommand s ht signals

theorem secondary_frame_isolation (s : RfcommClientState) (packet : Bytes) (frame : RfcommFrame) (d : UInt8)
    (hparse : parseFrame packet = .ok frame) (hc : frame.Concerns d)
    (h0 : d ≠ dlciMultiplexer) (ht : d ≠ s.targetDlci) :
    (s.handlePacket packet).1.primary = s.primary ∧
      ∀ e, e ≠ d → (s.handlePacket packet).1.secondaryDlcis[e]? = s.secondaryDlcis[e]? := by
  have hagree : AgreeOff d s (s.handlePacket packet).1 := by
    simpa [handlePacket, hparse] using agreeOff_handleFrame hc h0 ht
  exact ⟨hagree.primary, hagree.secondary⟩

set_option maxRecDepth 8000 in
theorem secondary_frame_isolation_dm :
    let s := (((new 1).kickoff.1.handlePacket (buildUa dlciMultiplexer false)).1.attachClientDlci 2).1
    5 ∈ s.secondaryDlcis ∧ (s.handlePacket (buildDm 5 true)).1.primary = s.primary ∧
      ∀ e : UInt8, e ≠ 5 → (s.handlePacket (buildDm 5 true)).1.secondaryDlcis[e]? = s.secondaryDlcis[e]? :=
  ⟨by decide, secondary_frame_isolation _ (buildDm 5 true) ⟨5, true, .dm, true, none, []⟩ 5
    (by decide) (.dm rfl rfl) (by decide) (by decide)⟩

end RfcommClientState

end Aokie.Radio.Rfcomm
