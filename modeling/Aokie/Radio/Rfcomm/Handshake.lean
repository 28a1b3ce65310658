import Aokie.Radio.Rfcomm.Session

/-! How the primary channel of the initiator's multiplexer opens: the handshake as a machine of its own,
what each frame is to it, and the order of signals that an opening rests on. -/

namespace Aokie.Radio.Rfcomm

open Aokie.Lib

inductive HandshakeSignal
  | muxUa
  | pnResponse
  | targetUa
  | mscResponse
  | mscCommand
  | closed
  | failed (reason : String)
  deriving DecidableEq, Repr

structure Handshake where
  phase : RfcommClientPhase
  mscLocalPending : Bool
  mscRemoteReceived : Bool
  deriving DecidableEq, Repr

namespace Handshake

variable (h : Handshake)

def settle : Handshake :=
  if !h.mscLocalPending ∧ h.mscRemoteReceived ∧ h.phase ≠ .open then { h with phase := .open } else h

def receive : HandshakeSignal → Handshake
  | .muxUa => if h.phase = .awaitingMultiplexerUa then { h with phase := .awaitingPnResponse } else h
  | .pnResponse => if h.phase = .awaitingPnResponse then { h with phase := .awaitingTargetUa } else h
  | .targetUa =>
    if h.phase = .awaitingTargetUa then { h with mscLocalPending := true, mscRemoteReceived := false } else h
  | .mscResponse => { h with mscLocalPending := false }.settle
  | .mscCommand => { h with mscRemoteReceived := true }.settle
  | .closed => { h with phase := .closed }
  | .failed reason => { h with phase := .failed reason }

def Settles : HandshakeSignal → Prop
  | .mscResponse => h.mscRemoteReceived = true
  | .mscCommand => h.mscLocalPending = false
  | _ => False

instance (sig : HandshakeSignal) : Decidable (h.Settles sig) :=
  match sig with
  | .mscResponse => inferInstanceAs (Decidable (h.mscRemoteReceived = true))
  | .mscCommand => inferInstanceAs (Decidable (h.mscLocalPending = false))
  | .muxUa | .pnResponse | .targetUa | .closed | .failed _ => .isFalse id

def Ended : Prop := h.phase = .closed ∨ ∃ reason, h.phase = .failed reason

variable {h}

lemma Ended.phase_ne_open (hended : h.Ended) : h.phase ≠ .open := by
  rcases hended with hclosed | ⟨reason, hfailed⟩ <;> simp [*]

lemma phase_receive_eq_open {sig : HandshakeSignal} (hclosed : h.phase ≠ .open)
    (hopen : (h.receive sig).phase = .open) : h.Settles sig := by
  cases sig with
  | muxUa | pnResponse | targetUa =>
      simp only [receive] at hopen
      split_ifs at hopen <;> simp_all
  | mscResponse | mscCommand =>
      simp only [receive, settle] at hopen
      split_ifs at hopen with hsettled
      · simp_all [Settles]
      · exact absurd hopen hclosed
  | closed | failed reason => simp [receive] at hopen

end Handshake

namespace RfcommClientState

variable (s : RfcommClientState)

def handshake : Handshake where
  phase := s.phase
  mscLocalPending := s.mscLocalPending
  mscRemoteReceived := s.mscRemoteReceived

@[simp] lemma handshake_phase : s.handshake.phase = s.phase := rfl

def muxSignal : RfcommMuxCommand → Option HandshakeSignal
  | .parameterNegotiation true dlci _ _ _ _ => if dlci = s.targetDlci then some .pnResponse else none
  | .modemStatus true dlci _ => if dlci = s.targetDlci then some .mscResponse else none
  | .modemStatus false dlci _ => if dlci = s.targetDlci then some .mscCommand else none
  | _ => none

def frameSignal (frame : RfcommFrame) : Option HandshakeSignal :=
  match frame.kind with
  | .ua =>
    if frame.dlci = dlciMultiplexer then some .muxUa
    else if frame.dlci = s.targetDlci then some .targetUa else none
  | .dm =>
    if frame.dlci ∉ s.secondaryDlcis ∧ (frame.dlci = dlciMultiplexer ∨ frame.dlci = s.targetDlci) then
      some (.failed ("RFCOMM peer sent DM on dlci " ++ toString frame.dlci.toNat))
    else none
  | .disc =>
    if frame.dlci ∉ s.secondaryDlcis ∧ (frame.dlci = dlciMultiplexer ∨ frame.dlci = s.targetDlci) then
      some .closed
    else none
  | .uih =>
    if frame.dlci = dlciMultiplexer then (parseMultiplexerCommand frame.payload).toOption.bind s.muxSignal
    else none
  | .sabm | .unknown _ => none

def packetSignal (packet : Bytes) : Option HandshakeSignal := (parseFrame packet).toOption.bind s.frameSignal

def opSignal : RfcommClientOp → Option HandshakeSignal
  | .packet packet => s.packetSignal packet
  | _ => none

def EmitsOpened (t : RfcommClientState) : Prop :=
  ∃ new, t.pendingEvents = s.pendingEvents ++ new ∧ .opened ∈ new

/-- `t` follows `s` with the handshake at `h`, and `Opened` is queued only where the phase becomes `Open`. -/
structure Refines (h : Handshake) (t : RfcommClientState) : Prop where
  handshake : t.handshake = h
  target : t.targetDlci = s.targetDlci
  opened : s.EmitsOpened t → s.phase ≠ .open ∧ t.phase = .open

variable {s}

lemma not_emitsOpened {t : RfcommClientState} (new : List RfcommClientEvent)
    (hevents : t.pendingEvents = s.pendingEvents ++ new) (hnew : .opened ∉ new) : ¬ s.EmitsOpened t := by
  rintro ⟨new', hevents', hopened⟩
  rw [hevents, List.append_cancel_left_eq] at hevents'
  exact hnew (hevents' ▸ hopened)

lemma Refines.quiet {h : Handshake} {t : RfcommClientState} (hhandshake : t.handshake = h)
    (htarget : t.targetDlci = s.targetDlci) (hevents : t.pendingEvents = s.pendingEvents) : s.Refines h t :=
  ⟨hhandshake, htarget, fun hopened =>
    absurd hopened (not_emitsOpened [] (by simp [hevents]) (by simp))⟩

lemma refines_maybeEmitOpened {t : RfcommClientState} (htarget : t.targetDlci = s.targetDlci)
    (hphase : t.phase = s.phase) (hevents : t.pendingEvents = s.pendingEvents) :
    s.Refines t.handshake.settle t.maybeEmitOpened := by
  unfold maybeEmitOpened
  split_ifs with hsettled
  · exact ⟨(if_pos hsettled).symm, htarget, fun _ => ⟨hphase ▸ hsettled.2.2, rfl⟩⟩
  · exact .quiet (if_neg hsettled).symm htarget hevents

lemma refines_maybeOpenSecondary {t : RfcommClientState} {h : Handshake} (dlci : UInt8)
    (ht : s.Refines h t) : s.Refines h (t.maybeOpenSecondary dlci) := by
  unfold maybeOpenSecondary
  split
  · exact ht
  · split_ifs
    · exact ⟨ht.handshake, ht.target, ht.opened⟩
    · exact ht

lemma refines_onPnResponse (dlci frameType : UInt8) (maxFrameSize : UInt16) (credits : UInt8) :
    s.Refines ((if dlci = s.targetDlci then some HandshakeSignal.pnResponse else none).elim s.handshake
      s.handshake.receive) (s.onPnResponse dlci frameType maxFrameSize credits).1 := by
  unfold onPnResponse
  by_cases hpn : dlci = s.targetDlci ∧ s.phase = .awaitingPnResponse
  · obtain ⟨rfl, hphase⟩ := hpn
    simp only [hphase, and_self, if_true, Option.elim, Handshake.receive, handshake_phase]
    exact .quiet rfl rfl rfl
  · have hsame : (if dlci = s.targetDlci then some HandshakeSignal.pnResponse else none).elim s.handshake
        s.handshake.receive = s.handshake := by
      split_ifs with hdlci
      · have hphase : s.phase ≠ .awaitingPnResponse := fun hphase => hpn ⟨hdlci, hphase⟩
        exact if_neg hphase
      · rfl
    rw [hsame, if_neg hpn]
    split
    · split_ifs
      · exact .quiet rfl rfl rfl
      · exact .quiet rfl rfl rfl
    · exact .quiet rfl rfl rfl

lemma refines_onMscResponse (dlci : UInt8) :
    s.Refines ((if dlci = s.targetDlci then some HandshakeSignal.mscResponse else none).elim s.handshake
      s.handshake.receive) (s.onMscResponse dlci) := by
  unfold onMscResponse
  split_ifs
  · exact refines_maybeEmitOpened (s := s) (t := { s with mscLocalPending := false }) rfl rfl rfl
  · exact refines_maybeOpenSecondary dlci (.quiet rfl rfl rfl)
  · exact .quiet rfl rfl rfl

lemma refines_onMscCommand (dlci signals : UInt8) :
    s.Refines ((if dlci = s.targetDlci then some HandshakeSignal.mscCommand else none).elim s.handshake
      s.handshake.receive) (s.onMscCommand dlci signals).1 := by
  unfold onMscCommand
  split_ifs
  · exact refines_maybeEmitOpened (s := s) (t := { s with mscRemoteReceived := true }) rfl rfl rfl
  · exact refines_maybeOpenSecondary dlci (.quiet rfl rfl rfl)
  · exact .quiet rfl rfl rfl

lemma refines_onMuxCommand (command : RfcommMuxCommand) :
    s.Refines ((s.muxSignal command).elim s.handshake s.handshake.receive) (s.onMuxCommand command).1 := by
  cases command with
  | parameterNegotiation isResponse dlci frameType priority maxFrameSize credits =>
      cases isResponse with
      | true => exact refines_onPnResponse dlci frameType maxFrameSize credits
      | false => exact .quiet rfl rfl rfl
  | modemStatus isResponse dlci signals =>
      cases isResponse with
      | true => exact refines_onMscResponse dlci
      | false => exact refines_onMscCommand dlci signals
  | flowControlOn | flowControlOff | unknown commandType payload => exact .quiet rfl rfl rfl

lemma refines_onUa (dlci : UInt8) :
    s.Refines ((if dlci = dlciMultiplexer then some HandshakeSignal.muxUa
      else if dlci = s.targetDlci then some .targetUa else none).elim s.handshake s.handshake.receive)
      (s.onUa dlci).1 := by
  unfold onUa
  split_ifs
  · by_cases hphase : s.phase = .awaitingMultiplexerUa
    · simp only [onUaMultiplexer, hphase, Option.elim, Handshake.receive, handshake_phase]
      exact .quiet rfl rfl rfl
    · rw [onUaMultiplexer, if_pos hphase, Option.elim, Handshake.receive, handshake_phase, if_neg hphase]
      exact .quiet rfl rfl rfl
  · by_cases hphase : s.phase = .awaitingTargetUa
    · simp only [onUaTarget, hphase, Option.elim, Handshake.receive, handshake_phase]
      exact .quiet rfl rfl rfl
    · rw [onUaTarget, if_pos hphase, Option.elim, Handshake.receive, handshake_phase, if_neg hphase]
      exact .quiet rfl rfl rfl
  · simp only [onUaSecondary]
    split
    · exact .quiet rfl rfl rfl
    · split_ifs
      · exact .quiet rfl rfl rfl
      · exact .quiet rfl rfl rfl

lemma refines_onDm (dlci : UInt8) :
    s.Refines ((if dlci ∉ s.secondaryDlcis ∧ (dlci = dlciMultiplexer ∨ dlci = s.targetDlci) then
      some (HandshakeSignal.failed ("RFCOMM peer sent DM on dlci " ++ toString dlci.toNat)) else none).elim
      s.handshake s.handshake.receive) (s.onDm dlci) := by
  unfold onDm
  by_cases hsecondary : dlci ∈ s.secondaryDlcis
  · simp only [hsecondary, not_true_eq_false, false_and, if_false, if_true]
    exact .quiet rfl rfl rfl
  · simp only [hsecondary, not_false_eq_true, true_and, if_false]
    split_ifs
    · exact ⟨rfl, rfl, fun hopened => absurd hopened (not_emitsOpened _ rfl (by simp))⟩
    · exact .quiet rfl rfl rfl

lemma refines_onDisc (dlci : UInt8) :
    s.Refines ((if dlci ∉ s.secondaryDlcis ∧ (dlci = dlciMultiplexer ∨ dlci = s.targetDlci) then
      some HandshakeSignal.closed else none).elim s.handshake s.handshake.receive) (s.onDisc dlci).1 := by
  unfold onDisc
  by_cases hsecondary : dlci ∈ s.secondaryDlcis
  · simp only [hsecondary, not_true_eq_false, false_and, if_false, if_true]
    exact .quiet rfl rfl rfl
  · simp only [hsecondary, not_false_eq_true, true_and, if_false]
    split_ifs
    · exact ⟨rfl, rfl, fun hopened => absurd hopened (not_emitsOpened _ rfl (by simp))⟩
    · exact .quiet rfl rfl rfl

lemma refines_onUihTarget (credits : Option UInt8) (payload : Bytes) :
    s.Refines s.handshake (s.onUihTarget credits payload).1 := by
  have hevents : (s.onUihTarget credits payload).1.pendingEvents = s.pendingEvents ++
      if s.isOpen && !payload.isEmpty then [.payload payload] else [] := by
    cases hopen : s.isOpen <;> cases hflow : s.creditFlow <;> cases hempty : payload.isEmpty <;>
      simp_all [onUihTarget, isOpen]
  have hsame : (s.onUihTarget credits payload).1.handshake = s.handshake ∧
      (s.onUihTarget credits payload).1.targetDlci = s.targetDlci := by
    cases hopen : s.isOpen <;> cases hflow : s.creditFlow <;> cases hempty : payload.isEmpty <;>
      simp_all [onUihTarget, isOpen, handshake]
  refine ⟨hsame.1, hsame.2, fun hopened => absurd hopened (not_emitsOpened _ hevents ?_)⟩
  split_ifs <;> simp

lemma refines_onUihSecondary (dlci : UInt8) (credits : Option UInt8) (payload : Bytes) :
    s.Refines s.handshake (s.onUihSecondary dlci credits payload).1 := by
  unfold onUihSecondary
  split
  · exact .quiet rfl rfl rfl
  · exact .quiet rfl rfl rfl

lemma refines_handleFrame (frame : RfcommFrame) :
    s.Refines ((s.frameSignal frame).elim s.handshake s.handshake.receive) (s.handleFrame frame).1 := by
  unfold handleFrame frameSignal
  cases frame.kind with
  | ua => exact refines_onUa frame.dlci
  | dm => exact refines_onDm frame.dlci
  | disc => exact refines_onDisc frame.dlci
  | uih =>
      simp only [onUih]
      split_ifs
      · unfold onMuxUih
        cases parseMultiplexerCommand frame.payload with
        | error message => exact .quiet rfl rfl rfl
        | ok command => exact refines_onMuxCommand command
      · exact refines_onUihTarget frame.credits frame.payload
      · exact refines_onUihSecondary frame.dlci frame.credits frame.payload
  | sabm | unknown control => exact .quiet rfl rfl rfl

lemma refines_handlePacket (packet : Bytes) :
    s.Refines ((s.packetSignal packet).elim s.handshake s.handshake.receive) (s.handlePacket packet).1 := by
  unfold handlePacket packetSignal
  cases parseFrame packet with
  | error message => exact .quiet rfl rfl rfl
  | ok frame => exact refines_handleFrame frame

lemma refines_step (hstarted : s.phase ≠ .idle) (op : RfcommClientOp) :
    s.Refines ((s.opSignal op).elim s.handshake s.handshake.receive) (s.step op).1 := by
  cases op with
  | kickoff => simpa [step, kickoff, hstarted, opSignal] using Refines.quiet (s := s) (t := s) rfl rfl rfl
  | packet packet => exact refines_handlePacket packet
  | attach serverChannel =>
      simp only [step, attachClientDlci]
      split_ifs <;> exact .quiet rfl rfl rfl
  | takeForDlci dlci => exact .quiet rfl rfl rfl
  | takeEvents =>
      refine ⟨rfl, rfl, ?_⟩
      rintro ⟨new, hnew, hopened⟩
      have hnil : new = [] := (List.append_eq_nil_iff.mp hnew.symm).2
      exact absurd hopened (by simp [hnil])
  | send payload =>
      simp only [step, buildOutboundUih]
      split_ifs <;> exact .quiet rfl rfl rfl
  | sendOnDlci dlci payload =>
      simp only [step, buildUihOnClientDlci]
      split
      · exact .quiet rfl rfl rfl
      · split_ifs <;> exact .quiet rfl rfl rfl
  | forceDisc dlci => exact .quiet rfl rfl rfl

end RfcommClientState

abbrev SignalLog := List (RfcommClientPhase × HandshakeSignal)

def SignalLog.signals (seen : SignalLog) : List HandshakeSignal := seen.map Prod.snd

@[simp] lemma SignalLog.signals_append (seen new : SignalLog) :
    SignalLog.signals (seen ++ new) = seen.signals ++ new.signals := List.map_append

@[simp] lemma SignalLog.signals_singleton (phase : RfcommClientPhase) (sig : HandshakeSignal) :
    SignalLog.signals [(phase, sig)] = [sig] := rfl

/-- UA on the multiplexer, PN response and UA on the target came in this order. -/
def SignalLog.Accepted (seen : SignalLog) (since : List HandshakeSignal) : Prop :=
  ∃ before, seen.signals = before ++ .targetUa :: since ∧
    List.Sublist [HandshakeSignal.muxUa, .pnResponse] before

def SignalLog.Complete (seen : SignalLog) : Prop :=
  ∃ since, seen.Accepted since ∧ .mscResponse ∈ since ∧ .mscCommand ∈ since

/-- Modem status that settles the exchange comes on an open channel, or once the target's UA has come. -/
def MscInOrder (h : Handshake) (seen : SignalLog) (sig : HandshakeSignal) : Prop :=
  h.Settles sig → h.phase = .open ∨
    h.phase = .awaitingTargetUa ∧ (.awaitingTargetUa, .targetUa) ∈ seen

instance (h : Handshake) (seen : SignalLog) (sig : HandshakeSignal) : Decidable (MscInOrder h seen sig) :=
  inferInstanceAs (Decidable (_ → _))

def Handshake.Unmarked (h : Handshake) : Prop := h.mscLocalPending = false ∧ h.mscRemoteReceived = false

/-- What the log says of each phase on the way to `Open`. -/
def HandshakeInv (h : Handshake) (seen : SignalLog) : Prop :=
  match h.phase with
  | .idle => False
  | .awaitingMultiplexerUa => h.Unmarked ∧ (.awaitingTargetUa, .targetUa) ∉ seen
  | .awaitingPnResponse =>
    h.Unmarked ∧ (.awaitingTargetUa, .targetUa) ∉ seen ∧ .muxUa ∈ seen.signals
  | .awaitingTargetUa =>
    List.Sublist [HandshakeSignal.muxUa, .pnResponse] seen.signals ∧
      if (.awaitingTargetUa, .targetUa) ∈ seen then
        ∃ since, seen.Accepted since ∧ (h.mscLocalPending = false → .mscResponse ∈ since) ∧
          (h.mscRemoteReceived = true → .mscCommand ∈ since)
      else h.Unmarked
  | .open | .closed | .failed _ => True

variable {h : Handshake} {seen : SignalLog}

lemma SignalLog.Accepted.append {since : List HandshakeSignal} (ha : seen.Accepted since) (new : SignalLog) :
    SignalLog.Accepted (seen ++ new) (since ++ new.signals) := by
  obtain ⟨before, hseen, hsub⟩ := ha
  exact ⟨before, by simp [hseen], hsub⟩

lemma Handshake.settle_eq_self (hunsettled : ¬ (h.mscLocalPending = false ∧ h.mscRemoteReceived = true)) :
    h.settle = h := by
  apply if_neg
  rintro ⟨hlocal, hremote, -⟩
  exact hunsettled ⟨by simpa using hlocal, hremote⟩

lemma HandshakeInv.connecting_step {sig : HandshakeSignal} (hphase : h.phase = .awaitingMultiplexerUa)
    (hinv : HandshakeInv h seen) (horder : MscInOrder h seen sig) :
    HandshakeInv (h.receive sig) (seen ++ [(h.phase, sig)]) := by
  obtain ⟨⟨hlocal, hremote⟩, hseen⟩ : h.Unmarked ∧ (.awaitingTargetUa, .targetUa) ∉ seen := by
    simpa [HandshakeInv, hphase] using hinv
  cases sig with
  | muxUa => simp [HandshakeInv, Handshake.receive, hphase, Handshake.Unmarked, hlocal, hremote, hseen]
  | pnResponse | targetUa =>
      simp [HandshakeInv, Handshake.receive, hphase, Handshake.Unmarked, hlocal, hremote, hseen]
  | mscResponse =>
      simp [HandshakeInv, Handshake.receive, Handshake.settle, hphase, Handshake.Unmarked, hremote, hseen]
  | mscCommand => simp [MscInOrder, Handshake.Settles, hlocal, hphase] at horder
  | closed | failed reason => simp [HandshakeInv, Handshake.receive]

lemma HandshakeInv.negotiating_step {sig : HandshakeSignal} (hphase : h.phase = .awaitingPnResponse)
    (hinv : HandshakeInv h seen) (horder : MscInOrder h seen sig) :
    HandshakeInv (h.receive sig) (seen ++ [(h.phase, sig)]) := by
  obtain ⟨⟨hlocal, hremote⟩, hseen, hmux⟩ :
      h.Unmarked ∧ (.awaitingTargetUa, .targetUa) ∉ seen ∧ .muxUa ∈ seen.signals := by
    simpa [HandshakeInv, hphase] using hinv
  cases sig with
  | pnResponse =>
      have hsub : List.Sublist ([HandshakeSignal.muxUa] ++ [.pnResponse]) (seen.signals ++ [.pnResponse]) :=
        (List.singleton_sublist.mpr hmux).append (.refl _)
      simpa [HandshakeInv, Handshake.receive, hphase, Handshake.Unmarked, hlocal, hremote, hseen] using hsub
  | muxUa | targetUa =>
      simp [HandshakeInv, Handshake.receive, hphase, Handshake.Unmarked, hlocal, hremote, hseen, hmux]
  | mscResponse =>
      simp [HandshakeInv, Handshake.receive, Handshake.settle, hphase, Handshake.Unmarked, hremote, hseen, hmux]
  | mscCommand => simp [MscInOrder, Handshake.Settles, hlocal, hphase] at horder
  | closed | failed reason => simp [HandshakeInv, Handshake.receive]

lemma HandshakeInv.of_accepted (since : List HandshakeSignal) (hphase : h.phase = .awaitingTargetUa)
    (hsub : List.Sublist [HandshakeSignal.muxUa, .pnResponse] seen.signals)
    (hseen : (.awaitingTargetUa, .targetUa) ∈ seen) (hsince : seen.Accepted since)
    (hlocal : h.mscLocalPending = false → .mscResponse ∈ since)
    (hremote : h.mscRemoteReceived = true → .mscCommand ∈ since) : HandshakeInv h seen := by
  simp only [HandshakeInv, hphase, hseen, if_true]
  exact ⟨hsub, since, hsince, hlocal, hremote⟩

lemma HandshakeInv.waiting_step {sig : HandshakeSignal} (hphase : h.phase = .awaitingTargetUa)
    (hsub : List.Sublist [HandshakeSignal.muxUa, .pnResponse] seen.signals)
    (hseen : (.awaitingTargetUa, .targetUa) ∉ seen) (hunmarked : h.Unmarked) (horder : MscInOrder h seen sig) :
    HandshakeInv (h.receive sig) (seen ++ [(h.phase, sig)]) := by
  obtain ⟨hlocal, hremote⟩ := hunmarked
  have hsub' : List.Sublist [HandshakeSignal.muxUa, .pnResponse] (seen.signals ++ [sig]) :=
    hsub.trans (List.sublist_append_left ..)
  cases sig with
  | targetUa =>
      refine .of_accepted [] ?_ ?_ ?_ ⟨seen.signals, by simp, hsub⟩ ?_ ?_
      all_goals simp [Handshake.receive, hphase, hsub']
  | muxUa | pnResponse =>
      simpa [HandshakeInv, Handshake.receive, hphase, Handshake.Unmarked, hlocal, hremote, hseen] using hsub'
  | mscResponse =>
      simpa [HandshakeInv, Handshake.receive, Handshake.settle, hphase, Handshake.Unmarked, hremote, hseen]
        using hsub'
  | mscCommand => simp [MscInOrder, Handshake.Settles, hlocal, hphase, hseen] at horder
  | closed | failed reason => simp [HandshakeInv, Handshake.receive]

lemma HandshakeInv.of_open (hopen : h.phase = .open) : HandshakeInv h seen := by
  simp [HandshakeInv, hopen]

lemma HandshakeInv.accepted_step {sig : HandshakeSignal} {since : List HandshakeSignal}
    (hphase : h.phase = .awaitingTargetUa)
    (hsub : List.Sublist [HandshakeSignal.muxUa, .pnResponse] seen.signals)
    (hseen : (.awaitingTargetUa, .targetUa) ∈ seen) (hsince : seen.Accepted since)
    (hlocal : h.mscLocalPending = false → .mscResponse ∈ since)
    (hremote : h.mscRemoteReceived = true → .mscCommand ∈ since) :
    HandshakeInv (h.receive sig) (seen ++ [(h.phase, sig)]) := by
  have hsub' : List.Sublist [HandshakeSignal.muxUa, .pnResponse] (seen.signals ++ [sig]) :=
    hsub.trans (List.sublist_append_left ..)
  have hseen' : (.awaitingTargetUa, .targetUa) ∈ seen ++ [(h.phase, sig)] := by simp [hseen]
  have hsince' : SignalLog.Accepted (seen ++ [(h.phase, sig)]) (since ++ [sig]) := hsince.append _
  cases sig with
  | targetUa =>
      refine .of_accepted [] ?_ ?_ hseen' ⟨seen.signals, by simp, hsub⟩ ?_ ?_
      all_goals simp [Handshake.receive, hphase, hsub']
  | muxUa | pnResponse =>
      refine .of_accepted _ ?_ (by simpa using hsub') hseen' hsince' ?_ ?_
      all_goals simp [Handshake.receive, hphase]
      · exact hlocal
      · exact hremote
  | mscResponse =>
      by_cases hsettled : h.mscRemoteReceived = true
      · exact .of_open (by simp [Handshake.receive, Handshake.settle, hsettled, hphase])
      · have hstay : h.receive .mscResponse = { h with mscLocalPending := false } :=
          Handshake.settle_eq_self (by simp [hsettled])
        rw [hstay]
        exact .of_accepted _ hphase (by simpa using hsub') hseen' hsince' (by simp)
          (fun hset => absurd hset hsettled)
  | mscCommand =>
      by_cases hsettled : h.mscLocalPending = false
      · exact .of_open (by simp [Handshake.receive, Handshake.settle, hsettled, hphase])
      · have hstay : h.receive .mscCommand = { h with mscRemoteReceived := true } :=
          Handshake.settle_eq_self (by simp [hsettled])
        rw [hstay]
        exact .of_accepted _ hphase (by simpa using hsub') hseen' hsince' (fun hset => absurd hset hsettled)
          (by simp)
  | closed | failed reason => simp [HandshakeInv, Handshake.receive]

lemma Handshake.Ended.receive {sig : HandshakeSignal} (hended : h.Ended) (horder : MscInOrder h seen sig) :
    (h.receive sig).Ended := by
  have hphase : h.phase ≠ .open ∧ h.phase ≠ .awaitingMultiplexerUa ∧ h.phase ≠ .awaitingPnResponse ∧
      h.phase ≠ .awaitingTargetUa := by
    rcases hended with hclosed | ⟨reason, hfailed⟩ <;> simp [*]
  obtain ⟨hopen, hmux, hpn, htarget⟩ := hphase
  have hunsettled : ¬ h.Settles sig := by
    intro hsettles
    rcases horder hsettles with hp | ⟨hp, -⟩
    · exact hopen hp
    · exact htarget hp
  cases sig with
  | muxUa => rwa [Handshake.receive, if_neg hmux]
  | pnResponse => rwa [Handshake.receive, if_neg hpn]
  | targetUa => rwa [Handshake.receive, if_neg htarget]
  | mscResponse =>
      rw [Handshake.receive, Handshake.settle_eq_self (by simpa [Handshake.Settles] using hunsettled)]
      exact hended
  | mscCommand =>
      rw [Handshake.receive, Handshake.settle_eq_self (by simpa [Handshake.Settles] using hunsettled)]
      exact hended
  | closed => exact .inl rfl
  | failed reason => exact .inr ⟨reason, rfl⟩

lemma HandshakeInv.of_ended (hended : h.Ended) : HandshakeInv h seen := by
  rcases hended with hclosed | ⟨reason, hfailed⟩ <;> simp [HandshakeInv, *]

lemma HandshakeInv.receive {sig : HandshakeSignal} (hinv : HandshakeInv h seen)
    (horder : MscInOrder h seen sig) : HandshakeInv (h.receive sig) (seen ++ [(h.phase, sig)]) := by
  cases hphase : h.phase with
  | idle => simp [HandshakeInv, hphase] at hinv
  | awaitingMultiplexerUa => exact hphase ▸ hinv.connecting_step hphase horder
  | awaitingPnResponse => exact hphase ▸ hinv.negotiating_step hphase horder
  | awaitingTargetUa =>
      simp only [HandshakeInv, hphase] at hinv
      obtain ⟨hsub, hrest⟩ := hinv
      by_cases hseen : (.awaitingTargetUa, .targetUa) ∈ seen
      · rw [if_pos hseen] at hrest
        obtain ⟨since, hsince, hlocal, hremote⟩ := hrest
        exact hphase ▸ accepted_step hphase hsub hseen hsince hlocal hremote
      · rw [if_neg hseen] at hrest
        exact hphase ▸ waiting_step hphase hsub hseen hrest horder
  | «open» => cases sig <;> simp [HandshakeInv, Handshake.receive, Handshake.settle, hphase]
  | closed => exact .of_ended (Handshake.Ended.receive (.inl hphase) horder)
  | failed reason => exact .of_ended (Handshake.Ended.receive (.inr ⟨reason, hphase⟩) horder)

lemma HandshakeInv.complete_of_settles {sig : HandshakeSignal} (hinv : HandshakeInv h seen)
    (horder : MscInOrder h seen sig) (hclosed : h.phase ≠ .open) (hsettles : h.Settles sig) :
    h.phase = .awaitingTargetUa ∧ SignalLog.Complete (seen ++ [(h.phase, sig)]) := by
  obtain ⟨hphase, hseen⟩ := (horder hsettles).resolve_left hclosed
  refine ⟨hphase, ?_⟩
  simp only [HandshakeInv, hphase, hseen, if_true] at hinv
  obtain ⟨-, since, hsince, hlocal, hremote⟩ := hinv
  refine ⟨since ++ [sig], hsince.append _, ?_⟩
  cases sig with
  | mscResponse => exact ⟨by simp, by simp [hremote hsettles]⟩
  | mscCommand => exact ⟨by simp [hlocal hsettles], by simp⟩
  | muxUa | pnResponse | targetUa | closed | failed reason => exact hsettles.elim

namespace RfcommClientState

def logged : Machine (RfcommClientState × SignalLog) RfcommClientOp DlciOutcome := fun (s, seen) op =>
  (((s.step op).1, seen ++ ((s.opSignal op).map (s.phase, ·)).toList), (s.step op).2)

def kickedOff (serverChannel : UInt8) : RfcommClientState × SignalLog := ((new serverChannel).kickoff.1, [])

def SignalInOrder (r : RfcommClientState × SignalLog) (op : RfcommClientOp) : Prop :=
  ∀ sig ∈ r.1.opSignal op, MscInOrder r.1.handshake r.2 sig

instance (r : RfcommClientState × SignalLog) (op : RfcommClientOp) : Decidable (SignalInOrder r op) :=
  inferInstanceAs (Decidable (∀ sig ∈ r.1.opSignal op, _))

def Opens (s t : RfcommClientState) : Prop := s.phase ≠ .open ∧ t.phase = .open ∨ s.EmitsOpened t

/-- The primary channel opens from `AwaitingTargetUa` with the log complete, and never again once it
has ended. -/
def OpensInOrder (serverChannel : UInt8) (ops : List RfcommClientOp) : Prop :=
  (∀ pre op post, ops = pre ++ op :: post →
    let r := logged.final (kickedOff serverChannel) pre
    let r' := (logged r op).1
    Opens r.1 r'.1 → r.1.phase = .awaitingTargetUa ∧ r'.2.Complete) ∧
  ∀ pre post, ops = pre ++ post →
    (logged.final (kickedOff serverChannel) pre).1.handshake.Ended →
      (logged.final (kickedOff serverChannel) ops).1.phase ≠ .open

variable {r : RfcommClientState × SignalLog} {op : RfcommClientOp}

lemma phase_ne_idle (hinv : HandshakeInv r.1.handshake r.2) : r.1.phase ≠ .idle := by
  intro hidle
  simp [HandshakeInv, hidle] at hinv

lemma handshakeInv_logged (hinv : HandshakeInv r.1.handshake r.2) (horder : SignalInOrder r op) :
    HandshakeInv (logged r op).1.1.handshake (logged r op).1.2 := by
  have hnext := (refines_step (phase_ne_idle hinv) op).handshake
  simp only [logged, hnext]
  cases hsig : r.1.opSignal op with
  | none => simpa using hinv
  | some sig => exact hinv.receive (horder sig hsig)

lemma ended_logged (hinv : HandshakeInv r.1.handshake r.2) (horder : SignalInOrder r op)
    (hended : r.1.handshake.Ended) : (logged r op).1.1.handshake.Ended := by
  have hnext := (refines_step (phase_ne_idle hinv) op).handshake
  simp only [logged, hnext]
  cases hsig : r.1.opSignal op with
  | none => exact hended
  | some sig => exact hended.receive (horder sig hsig)

lemma complete_of_opens (hinv : HandshakeInv r.1.handshake r.2) (horder : SignalInOrder r op)
    (hopens : Opens r.1 (logged r op).1.1) :
    r.1.phase = .awaitingTargetUa ∧ (logged r op).1.2.Complete := by
  have hstep := refines_step (phase_ne_idle hinv) op
  obtain ⟨hclosed, hopen⟩ : r.1.phase ≠ .open ∧ (logged r op).1.1.phase = .open := by
    rcases hopens with hopens | hemits
    · exact hopens
    · exact hstep.opened hemits
  have hphase : ((r.1.opSignal op).elim r.1.handshake r.1.handshake.receive).phase = .open :=
    hstep.handshake ▸ hopen
  cases hsig : r.1.opSignal op with
  | none =>
      rw [hsig] at hphase
      exact absurd hphase hclosed
  | some sig =>
      rw [hsig] at hphase
      simp only [logged, hsig]
      exact hinv.complete_of_settles (horder sig hsig) hclosed
        (Handshake.phase_receive_eq_open hclosed hphase)

lemma handshakeInv_kickedOff (serverChannel : UInt8) :
    HandshakeInv (kickedOff serverChannel).1.handshake (kickedOff serverChannel).2 := by
  simp [HandshakeInv, kickedOff, kickoff, new, Handshake.Unmarked, handshake]

theorem primary_opens_in_order (serverChannel : UInt8) (ops : List RfcommClientOp)
    (horder : logged.Along SignalInOrder (kickedOff serverChannel) ops) : OpensInOrder serverChannel ops := by
  have hinv : ∀ {pre}, logged.Along SignalInOrder (kickedOff serverChannel) pre →
      HandshakeInv (logged.final (kickedOff serverChannel) pre).1.handshake
        (logged.final (kickedOff serverChannel) pre).2 :=
    fun hpre => Machine.invariant (P := fun r => HandshakeInv r.1.handshake r.2)
      (fun _ _ horder hinv => handshakeInv_logged hinv horder) hpre (handshakeInv_kickedOff serverChannel)
  refine ⟨?_, ?_⟩
  · rintro pre op post rfl
    obtain ⟨hpre, hop, -⟩ := Machine.along_append.mp horder
    exact fun hopens => complete_of_opens (hinv hpre) hop hopens
  · rintro pre post rfl hended
    obtain ⟨hpre, hpost⟩ := Machine.along_append.mp horder
    obtain ⟨-, hstill⟩ := Machine.invariant
      (P := fun r => HandshakeInv r.1.handshake r.2 ∧ r.1.handshake.Ended)
      (fun _ _ horder h => ⟨handshakeInv_logged h.1 horder, ended_logged h.1 horder h.2⟩) hpost
      ⟨hinv hpre, hended⟩
    rw [Machine.final_append]
    exact hstill.phase_ne_open

set_option maxRecDepth 8000 in
theorem primary_opens_in_order_handshake :
    let ops : List RfcommClientOp := [.packet (buildUa dlciMultiplexer false),
      .packet (buildUih dlciMultiplexer false none (buildParameterNegotiationResponse 3 7 127 0)),
      .packet (buildUa 3 false),
      .packet (buildUih dlciMultiplexer false none (buildModemStatusCommand 3 0x8d)),
      .packet (buildUih dlciMultiplexer false none (buildModemStatusResponse 3 0x8d))]
    OpensInOrder 1 ops ∧ (logged.final (kickedOff 1) ops).1.phase = .open :=
  ⟨primary_opens_in_order 1 _ (by decide), by decide⟩

set_option maxRecDepth 8000 in
/-- A modem status command before the multiplexer's UA opens the channel. -/
theorem early_msc_opens_primary : ¬ OpensInOrder 1
    [.packet (buildUih dlciMultiplexer false none (buildModemStatusCommand 3 0x8d))] := by
  intro horder
  obtain ⟨hphase, -⟩ := horder.1 [] _ [] rfl (.inl ⟨by decide, by decide⟩)
  exact absurd hphase (by decide)

end RfcommClientState

end Aokie.Radio.Rfcomm
