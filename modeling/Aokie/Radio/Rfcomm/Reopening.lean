import Aokie.Radio.Rfcomm.Session

/-! The hands-free channel is closed and opened again: which of the old session the new one can see. -/

namespace Aokie.Radio.Rfcomm

open Aokie.Lib Aokie.Radio.Hfp

/-- The part of a session that the AT pump neither reads nor writes. -/
structure MuxSide where
  multiplexerOpen : Bool
  maxFrameSize : UInt16
  extraChannelHandlers : Std.ExtTreeMap UInt8 ServerChannelHandlers
  clientDlcis : Std.ExtTreeMap UInt8 ClientDlci
  clientEvents : List ClientDlciEvent

namespace RfcommState

def muxSide (s : RfcommState) : MuxSide :=
  ⟨s.multiplexerOpen, s.maxFrameSize, s.extraChannelHandlers, s.clientDlcis, s.clientEvents⟩

abbrev withMux (s : RfcommState) (m : MuxSide) : RfcommState :=
  { s with
    multiplexerOpen := m.multiplexerOpen, maxFrameSize := m.maxFrameSize
    extraChannelHandlers := m.extraChannelHandlers, clientDlcis := m.clientDlcis, clientEvents := m.clientEvents }

variable (s : RfcommState) (m : MuxSide)

section Pump

lemma withMux_buildHfpCommandFrame (now : Instant) (command : HfpAtCommand) :
    (s.withMux m).buildHfpCommandFrame now command = (s.buildHfpCommandFrame now command).map (·.withMux m) id := by
  simp only [buildHfpCommandFrame]
  split_ifs <;> rfl

lemma withMux_nextHfpCommandFrame (now : Instant) :
    (s.withMux m).nextHfpCommandFrame now = (s.nextHfpCommandFrame now).map (·.withMux m) id := by
  simp only [nextHfpCommandFrame]
  split
  · rfl
  case h_2 command rest _ =>
    have hbuild := withMux_buildHfpCommandFrame { s with hfpPendingCommands := rest } m now command
    exact congrArg (fun r : RfcommState × Bytes =>
      ({ r.1 with hfpInFlightCommand := some command, hfpInFlightCommandSentAt := some now }, some r.2)) hbuild

lemma withMux_advanceHfpSlcQueue (now : Instant) :
    (s.withMux m).advanceHfpSlcQueue now = (s.advanceHfpSlcQueue now).map (·.withMux m) id := by
  simp only [advanceHfpSlcQueue, withMux_nextHfpCommandFrame]
  rcases s.nextHfpCommandFrame now with ⟨t, _ | frame⟩
  · simp only [Prod.map_apply, id_eq]
    split_ifs
    · rcases t.hfpState.needsIndicatorDefinitionsRetry with ⟨hfpState, _ | _⟩
      · rfl
      · have hnext := withMux_nextHfpCommandFrame { t with
          hfpState
          hfpPendingCommands := t.hfpPendingCommands ++
            [HfpAtCommand.retrieveIndicators, HfpAtCommand.retrieveIndicatorStatus] } m now
        exact congrArg (Prod.map id Option.toList) hnext
    · rfl
  · rfl

def reportRefusal (now : Instant) (command : String) : RfcommState × List Bytes :=
  match s.hfpState.afterRefusal command with
  | (hfpState, some again) => ({ s with hfpState }.buildHfpCommandFrame now again).map id fun frame => [frame]
  | (hfpState, none) => ({ s with hfpState }.pushHfpEvents [.commandRejected command false], [])

lemma refuseCommand_eq (now : Instant) : s.refuseCommand now =
    match s.hfpInFlightCommand with
    | some command => reportRefusal
        { s with hfpInFlightCommand := none, hfpInFlightCommandSentAt := none } now (atCommandName command)
    | none => reportRefusal { s with
        hfpOutstanding := s.hfpOutstanding.answered.1, hfpInFlightCommandSentAt := none } now
        (s.hfpOutstanding.answered.2.getD "unsolicited") := by
  simp only [refuseCommand]
  cases s.hfpInFlightCommand <;> rfl

lemma withMux_reportRefusal (now : Instant) (command : String) :
    (s.withMux m).reportRefusal now command = (s.reportRefusal now command).map (·.withMux m) id := by
  simp only [reportRefusal]
  rcases s.hfpState.afterRefusal command with ⟨hfpState, _ | again⟩
  · rfl
  · exact congrArg (Prod.map id fun frame => [frame]) (withMux_buildHfpCommandFrame { s with hfpState } m now again)

lemma withMux_refuseCommand (now : Instant) :
    (s.withMux m).refuseCommand now = (s.refuseCommand now).map (·.withMux m) id := by
  cases hcommand : s.hfpInFlightCommand with
  | none =>
      simp only [refuseCommand_eq, hcommand]
      exact withMux_reportRefusal { s with
        hfpInFlightCommand := none, hfpOutstanding := s.hfpOutstanding.answered.1, hfpInFlightCommandSentAt :=
          none } m now _
  | some command =>
      simp only [refuseCommand_eq, hcommand]
      exact withMux_reportRefusal { s with hfpInFlightCommand := none, hfpInFlightCommandSentAt := none } m now _

lemma withMux_acceptCommand (now : Instant) :
    (s.withMux m).acceptCommand now = (s.acceptCommand now).map (·.withMux m) id := by
  simp only [acceptCommand]
  split_ifs
  · rfl
  · exact withMux_advanceHfpSlcQueue
      { s with
          hfpState := s.hfpState.noteCcwaAccepted, hfpInFlightCommand := none,
          hfpInFlightCommandSentAt := none } m now
  · rfl
  · exact withMux_advanceHfpSlcQueue { s with hfpInFlightCommand := none, hfpInFlightCommandSentAt := none } m now

lemma withMux_failSlcCommand (now : Instant) :
    (s.withMux m).failSlcCommand now = (s.failSlcCommand now).map (·.withMux m) id := by
  have hgoOn : ∀ hfpState : HfpHandsFreeState,
      ({ s with
          hfpState, hfpInFlightCommand := none, hfpInFlightCommandSentAt := none }.withMux m).advanceHfpSlcQueue now =
        (advanceHfpSlcQueue { s with hfpState, hfpInFlightCommand := none, hfpInFlightCommandSentAt := none } now).map
          (·.withMux m) id := fun hfpState =>
    withMux_advanceHfpSlcQueue { s with hfpState, hfpInFlightCommand := none, hfpInFlightCommandSentAt := none } m now
  simp only [failSlcCommand]
  split_ifs
  · rfl
  · exact hgoOn _
  · rfl
  · rfl

lemma withMux_handleHfpResult (now : Instant) (result : HfpAgResult) :
    (s.withMux m).handleHfpResult now result = (s.handleHfpResult now result).map (·.withMux m) id := by
  set t : RfcommState := { s with
    hfpState := (s.hfpState.applyResult result).1
    hfpEvents := s.hfpEvents ++ (s.hfpState.applyResult result).2 }
  cases result with
  | ok =>
      simp only [handleHfpResult]
      split_ifs
      · rfl
      · exact withMux_acceptCommand t m now
  | error =>
      simp only [handleHfpResult]
      split_ifs
      · exact withMux_refuseCommand t m now
      · exact withMux_failSlcCommand t m now
  | selectedCodec codec =>
      have hbuild := withMux_buildHfpCommandFrame t m now
        (if t.hfpState.codecOffered codec then .confirmCodec codec else .availableCodecs t.wbsSupported)
      exact congrArg (Prod.map id fun frame => [frame]) hbuild
  | _ => rfl

lemma withMux_handleHfpResults (now : Instant) (results : List HfpAgResult) :
    (s.withMux m).handleHfpResults now results = (s.handleHfpResults now results).map (·.withMux m) id := by
  induction results generalizing s with
  | nil => rfl
  | cons result results ih =>
      simp only [handleHfpResults, withMux_handleHfpResult, Prod.map_fst, Prod.map_snd, ih]
      rfl

lemma withMux_handleHfpPayload (now : Instant) (payload : Bytes) :
    (s.withMux m).handleHfpPayload now payload = (s.handleHfpPayload now payload).map (·.withMux m) id := by
  simp only [handleHfpPayload]
  split_ifs
  · rfl
  · cases parseAgResultsBuffered s.hfpLineCarry payload with
    | error message => rfl
    | ok parsed =>
        exact congrArg (Prod.map id Except.ok) (withMux_handleHfpResults
          { s with hfpLineCarry := parsed.1 } m now parsed.2)

lemma withMux_maybeKickAtSequence (now : Instant) :
    (s.withMux m).maybeKickAtSequence now = (s.maybeKickAtSequence now).map (·.withMux m) id := by
  simp only [maybeKickAtSequence]
  split_ifs
  · rfl
  · exact congrArg (Prod.map id Option.toList) (withMux_nextHfpCommandFrame { s with mscAtKicked := true } m now)

lemma withMux_tickHfpStall (now : Instant) (timeout : Duration) :
    (s.withMux m).tickHfpStall now timeout = (s.tickHfpStall now timeout).map (·.withMux m) id := by
  simp only [tickHfpStall]
  rcases s.hfpOutstanding.timedOut now timeout with ⟨hfpOutstanding, _ | command⟩ <;>
    rcases s.hfpInFlightCommandSentAt with _ | sentAt <;> simp only <;> split_ifs <;> rfl

end Pump

/-! What a peer and the watchdog can see of a session. -/

def isAtCommand (packet : Bytes) : Bool := packet.getD 0 0 >>> 2 == aokieHfpDlci && packet.getD 1 0 == controlUih

def atCommands : Except String (List Bytes) → List Bytes
  | .ok frames => frames.filter isAtCommand
  | .error _ => []

inductive SessionInput
  | frame (now : Instant) (packet : Bytes)
  | tick (now : Instant) (timeout : Duration)

/-- One input of a session: the AT commands it sends and the events it raises. -/
def observe (s : RfcommState) : SessionInput → RfcommState × List Bytes × List HfpEvent
  | .frame now packet =>
    let (t, replies) := s.takeHfpEvents.1.handlePacket now packet
    (t, atCommands replies, t.hfpEvents)
  | .tick now timeout =>
    let (t, _) := s.takeHfpEvents.1.tickHfpStall now timeout
    (t, [], t.hfpEvents)

/-- Pumps that do nothing before the hands-free channel opens, and then are the same. -/
structure Dormant (s t : RfcommState) : Prop where
  closed : s.hfpChannelState = .closed ∧ t.hfpChannelState = .closed
  clock : s.hfpInFlightCommandSentAt = none ∧ t.hfpInFlightCommandSentAt = none
  notReady : s.hfpState.serviceLevelReady = false
  opened : ∃ m, t.openHfpChannel = s.openHfpChannel.withMux m

structure SameMux (s t : RfcommState) : Prop where
  multiplexer : t.multiplexerOpen = s.multiplexerOpen
  tenants : t.extraChannelHandlers = s.extraChannelHandlers
  apart : ∀ d ∈ s.clientDlcis, d ∉ s.extraChannelHandlers
  apart' : ∀ d ∈ t.clientDlcis, d ∉ t.extraChannelHandlers

structure Alike (s t : RfcommState) : Prop where
  mux : SameMux s t
  pump : (∃ m, t = s.withMux m) ∨ Dormant s t

/-- The same multiplexer, with no more outbound channels than before. -/
structure ClientSide (s : RfcommState) (m : MuxSide) : Prop where
  multiplexer : m.multiplexerOpen = s.multiplexerOpen
  tenants : m.extraChannelHandlers = s.extraChannelHandlers
  clients : ∀ d ∈ m.clientDlcis, d ∈ s.clientDlcis

def ClientOnly (s s' : RfcommState) : Prop := ∃ m, ClientSide s m ∧ s' = s.withMux m

section Relation

variable {s t : RfcommState}

lemma Alike.clientOnly {s' t' : RfcommState} (h : Alike s t) (hs : ClientOnly s s') (ht : ClientOnly t t') :
    Alike s' t' := by
  obtain ⟨m, hs, rfl⟩ := hs
  obtain ⟨n, ht, rfl⟩ := ht
  refine ⟨⟨?_, ?_, ?_, ?_⟩, ?_⟩
  · exact ht.multiplexer.trans (h.mux.multiplexer.trans hs.multiplexer.symm)
  · exact ht.tenants.trans (h.mux.tenants.trans hs.tenants.symm)
  · intro d hd
    simpa only [hs.tenants] using h.mux.apart d (hs.clients d hd)
  · intro d hd
    simpa only [ht.tenants] using h.mux.apart' d (ht.clients d hd)
  · rcases h.pump with ⟨k, rfl⟩ | hd
    · exact .inl ⟨n, rfl⟩
    · obtain ⟨k, hopened⟩ := hd.opened
      exact .inr ⟨hd.closed, hd.clock, hd.notReady, n, congrArg (·.withMux n) hopened⟩

lemma Alike.hfpDlci (h : Alike s t) : t.hfpDlci = s.hfpDlci := by
  rcases h.pump with ⟨k, rfl⟩ | hdormant
  · rfl
  · obtain ⟨k, hopened⟩ := hdormant.opened
    have hdlci := congrArg RfcommState.hfpDlci hopened
    exact hdlci

lemma Alike.takeHfpEvents (h : Alike s t) : Alike s.takeHfpEvents.1 t.takeHfpEvents.1 := by
  refine ⟨⟨h.mux.multiplexer, h.mux.tenants, h.mux.apart, h.mux.apart'⟩, ?_⟩
  rcases h.pump with ⟨k, rfl⟩ | hdormant
  · exact .inl ⟨k, rfl⟩
  · obtain ⟨k, hopened⟩ := hdormant.opened
    refine .inr ⟨hdormant.closed, hdormant.clock, hdormant.notReady, k, ?_⟩
    exact congrArg (fun u : RfcommState => u.takeHfpEvents.1) hopened

lemma Alike.muxMoved (h : Alike s t) (isOpen : Bool) :
    Alike { s with multiplexerOpen := isOpen } { t with multiplexerOpen := isOpen } := by
  refine ⟨⟨rfl, h.mux.tenants, h.mux.apart, h.mux.apart'⟩, ?_⟩
  rcases h.pump with ⟨k, rfl⟩ | hdormant
  · exact .inl ⟨{ k with multiplexerOpen := isOpen }, rfl⟩
  · obtain ⟨k, hopened⟩ := hdormant.opened
    refine .inr ⟨hdormant.closed, hdormant.clock, hdormant.notReady, { k with multiplexerOpen := isOpen }, ?_⟩
    exact congrArg (fun u : RfcommState => { u with multiplexerOpen := isOpen }) hopened

lemma Alike.openHfpChannel (h : Alike s t) : Alike s.openHfpChannel t.openHfpChannel := by
  refine ⟨⟨h.mux.multiplexer, h.mux.tenants, h.mux.apart, h.mux.apart'⟩, ?_⟩
  rcases h.pump with ⟨k, rfl⟩ | hdormant
  · exact .inl ⟨k, rfl⟩
  · exact .inl hdormant.opened

variable {β : Type} (op : RfcommState → RfcommState × β)

lemma muxSide_of_blind (hop : ∀ s m, op (s.withMux m) = (op s).map (·.withMux m) id) (s : RfcommState) :
    (op s).1.muxSide = s.muxSide := by
  have hself : op s = (op s).map (·.withMux s.muxSide) id := hop s s.muxSide
  exact congrArg (fun r : RfcommState × β => r.1.muxSide) hself

lemma SameMux.of_muxSide {s' t' : RfcommState} (h : SameMux s t) (hs : s'.muxSide = s.muxSide)
    (ht : t'.muxSide = t.muxSide) : SameMux s' t' := by
  simp only [muxSide, MuxSide.mk.injEq] at hs ht
  obtain ⟨hopen, -, htenants, hclients, -⟩ := hs
  obtain ⟨hopen', -, htenants', hclients', -⟩ := ht
  refine ⟨?_, ?_, ?_, ?_⟩
  · rw [hopen, hopen', h.multiplexer]
  · rw [htenants, htenants', h.tenants]
  · rw [hclients, htenants]
    exact h.apart
  · rw [hclients', htenants']
    exact h.apart'

lemma Alike.blind (quiet : β) (hop : ∀ s m, op (s.withMux m) = (op s).map (·.withMux m) id)
    (hdormant : ∀ s : RfcommState, s.hfpChannelState = .closed → s.hfpInFlightCommandSentAt = none →
      s.hfpState.serviceLevelReady = false → op s = (s, quiet))
    (h : Alike s t) : Alike (op s).1 (op t).1 ∧ (op t).2 = (op s).2 := by
  have hmux := h.mux.of_muxSide (muxSide_of_blind op hop s) (muxSide_of_blind op hop t)
  rcases h.pump with ⟨k, rfl⟩ | hd
  · rw [hop s k] at hmux ⊢
    exact ⟨⟨hmux, .inl ⟨k, rfl⟩⟩, rfl⟩
  · have hready : t.hfpState.serviceLevelReady = false := by
      obtain ⟨k, hopened⟩ := hd.opened
      have hstate := congrArg RfcommState.hfpState hopened
      exact hstate.symm ▸ hd.notReady
    have hs := hdormant s hd.closed.1 hd.clock.1 hd.notReady
    have ht := hdormant t hd.closed.2 hd.clock.2 hready
    rw [hs, ht]
    exact ⟨h, rfl⟩

lemma Alike.asleep {f : RfcommState → RfcommState} (hmux : ∀ u m, f (u.withMux m) = (f u).withMux m)
    (hopened : ∀ u, (f u).openHfpChannel = u.openHfpChannel)
    (hclosed : ∀ u : RfcommState, u.hfpChannelState = .closed → (f u).hfpChannelState = .closed)
    (h : Alike s t) : Alike (f s) (f t) := by
  have hkept : ∀ u, (f u).muxSide = u.muxSide := by
    intro u
    have hself := congrArg muxSide (hmux u u.muxSide)
    exact hself
  have hclock : ∀ u, (f u).hfpInFlightCommandSentAt = u.hfpInFlightCommandSentAt := by
    intro u
    have hsentAt := congrArg RfcommState.hfpInFlightCommandSentAt (hopened u)
    exact hsentAt
  have hstate : ∀ u, (f u).hfpState = u.hfpState := by
    intro u
    have hfpState := congrArg RfcommState.hfpState (hopened u)
    exact hfpState
  refine ⟨h.mux.of_muxSide (hkept s) (hkept t), ?_⟩
  rcases h.pump with ⟨k, rfl⟩ | hd
  · exact .inl ⟨k, hmux s k⟩
  · refine .inr ⟨⟨hclosed s hd.closed.1, hclosed t hd.closed.2⟩, ?_, ?_, ?_⟩
    · rw [hclock, hclock]
      exact hd.clock
    · rw [hstate, hd.notReady]
    · rw [hopened, hopened]
      exact hd.opened

lemma Alike.maybeKickAtSequence (now : Instant) (h : Alike s t) :
    Alike (s.maybeKickAtSequence now).1 (t.maybeKickAtSequence now).1 ∧
      (t.maybeKickAtSequence now).2 = (s.maybeKickAtSequence now).2 := by
  refine h.blind (fun u => u.maybeKickAtSequence now) [] (fun u m => withMux_maybeKickAtSequence u m now) ?_
  intro u hclosed _ _
  simp [RfcommState.maybeKickAtSequence, hclosed]

lemma Alike.handleHfpPayload (now : Instant) (payload : Bytes) (h : Alike s t) :
    Alike (s.handleHfpPayload now payload).1 (t.handleHfpPayload now payload).1 ∧
      (t.handleHfpPayload now payload).2 = (s.handleHfpPayload now payload).2 := by
  refine h.blind (fun u => u.handleHfpPayload now payload) (.ok [])
    (fun u m => withMux_handleHfpPayload u m now payload) ?_
  intro u hclosed _ _
  simp [RfcommState.handleHfpPayload, hclosed]

lemma Alike.tickHfpStall (now : Instant) (timeout : Duration) (h : Alike s t) :
    Alike (s.tickHfpStall now timeout).1 (t.tickHfpStall now timeout).1 := by
  refine (h.blind (fun u => u.tickHfpStall now timeout) false (fun u m => withMux_tickHfpStall u m now timeout) ?_).1
  intro u _ hclock hready
  simp [RfcommState.tickHfpStall, hclock, hready]

end Relation

section Outbound

variable {s} {d : UInt8}

lemma ClientOnly.refl : ClientOnly s s := ⟨s.muxSide, ⟨rfl, rfl, fun _ hd => hd⟩, rfl⟩

lemma ClientOnly.trans {s' s'' : RfcommState} (h : ClientOnly s s') (h' : ClientOnly s' s'') : ClientOnly s s'' := by
  obtain ⟨m, hm, rfl⟩ := h
  obtain ⟨n, hn, rfl⟩ := h'
  refine ⟨n, ⟨hn.multiplexer.trans hm.multiplexer, hn.tenants.trans hm.tenants, ?_⟩, rfl⟩
  exact fun d hd => hm.clients d (hn.clients d hd)

lemma ClientOnly.events (events : List ClientDlciEvent) : ClientOnly s { s with clientEvents := events } :=
  ⟨{ s.muxSide with clientEvents := events }, ⟨rfl, rfl, fun _ hd => hd⟩, rfl⟩

lemma ClientOnly.frameSize (size : UInt16) : ClientOnly s { s with maxFrameSize := size } :=
  ⟨{ s.muxSide with maxFrameSize := size }, ⟨rfl, rfl, fun _ hd => hd⟩, rfl⟩

lemma ClientOnly.insert (hd : d ∈ s.clientDlcis) (client : ClientDlci) :
    ClientOnly s { s with clientDlcis := s.clientDlcis.insert d client } := by
  refine ⟨{ s.muxSide with clientDlcis := s.clientDlcis.insert d client }, ⟨rfl, rfl, ?_⟩, rfl⟩
  intro e he
  rcases Std.ExtTreeMap.mem_insert.mp he with heq | he
  · simpa [← Std.LawfulEqCmp.eq_of_compare heq] using hd
  · exact he

lemma ClientOnly.modify (f : ClientDlci → ClientDlci) :
    ClientOnly s { s with clientDlcis := s.clientDlcis.modify d f } :=
  ⟨{ s.muxSide with clientDlcis := s.clientDlcis.modify d f },
    ⟨rfl, rfl, fun _ he => Std.ExtTreeMap.mem_modify.mp he⟩, rfl⟩

lemma mem_clientDlcis {client : ClientDlci} (h : s.clientDlcis[d]? = some client) : d ∈ s.clientDlcis := by
  rw [Std.ExtTreeMap.mem_iff_isSome_getElem?, h]
  rfl

lemma clientOnly_onClientTargetUa : ClientOnly s (s.onClientTargetUa d).1 := by
  simp only [onClientTargetUa]
  split
  · exact .refl
  case h_2 client hclient =>
    split_ifs
    · exact .refl
    · exact .insert (mem_clientDlcis hclient) _

lemma clientOnly_failClientDlci (reason : String) : ClientOnly s (s.failClientDlci d reason) :=
  (ClientOnly.modify _).trans (.events _)

lemma clientOnly_maybeOpenClientDlci : ClientOnly s (s.maybeOpenClientDlci d) := by
  simp only [maybeOpenClientDlci]
  split
  · exact .refl
  case h_2 client hclient =>
    split_ifs
    · exact (ClientOnly.insert (mem_clientDlcis hclient) _).trans (.events _)
    · exact .refl

lemma clientOnly_onPnResponse (size : UInt16) : ClientOnly s (s.onPnResponse d size).1 := by
  simp only [onPnResponse]
  split
  case h_1 client hclient =>
    split_ifs
    · exact (ClientOnly.insert (mem_clientDlcis hclient) _).trans (.frameSize _)
    · exact .refl
  · exact .refl

lemma clientOnly_onPnCommand (priority : UInt8) (size : UInt16) (credits : UInt8) :
    ClientOnly s (s.onPnCommand d priority size credits).1 := by
  simp only [onPnCommand]
  split_ifs
  · exact .refl
  · exact .frameSize _

end Outbound

section Frames

variable {s t : RfcommState}

lemma isAtCommand_buildFrame (dlci : UInt8) (cr : Bool) (control : UInt8) (credits : Option UInt8) (payload : Bytes) :
    isAtCommand (buildFrame dlci cr control credits payload) =
      (addressByte dlci cr >>> 2 == aokieHfpDlci && control == controlUih) := rfl

@[simp] lemma isAtCommand_buildSabm (dlci : UInt8) (cr : Bool) : isAtCommand (buildSabm dlci cr) = false := by
  rw [buildSabm, isAtCommand_buildFrame, show (controlSabm == controlUih) = false by decide, Bool.and_false]

@[simp] lemma isAtCommand_buildUa (dlci : UInt8) (cr : Bool) : isAtCommand (buildUa dlci cr) = false := by
  rw [buildUa, isAtCommand_buildFrame, show (controlUa == controlUih) = false by decide, Bool.and_false]

@[simp] lemma isAtCommand_buildDm (dlci : UInt8) (cr : Bool) : isAtCommand (buildDm dlci cr) = false := by
  rw [buildDm, isAtCommand_buildFrame, show (controlDmPf == controlUih) = false by decide, Bool.and_false]

@[simp] lemma isAtCommand_buildUih_mux (cr : Bool) (credits : Option UInt8) (payload : Bytes) :
    isAtCommand (buildUih dlciMultiplexer cr credits payload) = false := by
  have haddress : (addressByte dlciMultiplexer cr >>> 2 == aokieHfpDlci) = false := by
    cases cr <;> decide
  rw [buildUih, isAtCommand_buildFrame, haddress, Bool.false_and]

lemma quiet_onPnResponse (d : UInt8) (size : UInt16) :
    (s.onPnResponse d size).2.filter isAtCommand = [] := by
  simp only [onPnResponse]
  split
  · split_ifs <;> simp
  · rfl

lemma quiet_onMuxCommand (command : RfcommMuxCommand) :
    (s.onMuxCommand command).2.1.filter isAtCommand = [] := by
  cases command with
  | parameterNegotiation isResponse dlci frameType priority size credits =>
      cases isResponse with
      | true => exact quiet_onPnResponse dlci size
      | false => rfl
  | modemStatus isResponse dlci signals => cases isResponse <;> rfl
  | flowControlOn | flowControlOff | unknown => rfl

lemma quiet_onClientTargetUa (d : UInt8) : (s.onClientTargetUa d).2.filter isAtCommand = [] := by
  simp only [onClientTargetUa]
  split
  · rfl
  · split_ifs <;> simp

lemma clientOnly_onMscResponse {d : UInt8} (hd : d ≠ s.hfpDlci) : ClientOnly s (s.onMscResponse d) := by
  simp only [onMscResponse, if_neg hd]
  split_ifs
  · exact (ClientOnly.modify _).trans clientOnly_maybeOpenClientDlci
  · exact .refl

lemma clientOnly_onMscCommand {d : UInt8} (hd : d ≠ s.hfpDlci) (signals : UInt8) :
    ClientOnly s (s.onMscCommand d signals).1 := by
  simp only [onMscCommand, if_neg hd]
  split_ifs
  · exact (ClientOnly.modify _).trans clientOnly_maybeOpenClientDlci
  · exact .refl
  · exact .refl

lemma Alike.onMscResponse (h : Alike s t) (d : UInt8) : Alike (s.onMscResponse d) (t.onMscResponse d) := by
  by_cases hd : d = s.hfpDlci
  · have hd' : d = t.hfpDlci := hd.trans h.hfpDlci.symm
    simp only [RfcommState.onMscResponse, if_pos hd, if_pos hd']
    exact h.asleep (f := fun u => { u with mscLocalPending := false }) (fun _ _ => rfl) (fun _ => rfl) fun _ hu => hu
  · exact h.clientOnly (clientOnly_onMscResponse hd) (clientOnly_onMscResponse (h.hfpDlci ▸ hd))

lemma Alike.onMscCommand (h : Alike s t) (d signals : UInt8) :
    Alike (s.onMscCommand d signals).1 (t.onMscCommand d signals).1 := by
  by_cases hd : d = s.hfpDlci
  · have hd' : d = t.hfpDlci := hd.trans h.hfpDlci.symm
    simp only [RfcommState.onMscCommand, if_pos hd, if_pos hd']
    exact h.asleep (f := fun u => { u with mscRemoteReceived := true }) (fun _ _ => rfl) (fun _ => rfl) fun _ hu => hu
  · exact h.clientOnly (clientOnly_onMscCommand hd signals) (clientOnly_onMscCommand (h.hfpDlci ▸ hd) signals)

lemma Alike.onMuxCommand (h : Alike s t) (command : RfcommMuxCommand) :
    Alike (s.onMuxCommand command).1 (t.onMuxCommand command).1 := by
  cases command with
  | parameterNegotiation isResponse dlci frameType priority size credits =>
      cases isResponse with
      | true => exact h.clientOnly (clientOnly_onPnResponse size) (clientOnly_onPnResponse size)
      | false =>
          exact h.clientOnly (clientOnly_onPnCommand priority size credits)
            (clientOnly_onPnCommand priority size credits)
  | modemStatus isResponse dlci signals =>
      cases isResponse with
      | true => exact h.onMscResponse dlci
      | false => exact h.onMscCommand dlci signals
  | flowControlOn | flowControlOff | unknown => exact h

def Matched (r q : RfcommState × Except String (List Bytes)) : Prop :=
  Alike r.1 q.1 ∧ atCommands q.2 = atCommands r.2

lemma Alike.handleMultiplexerPayload (now : Instant) (payload : Bytes) (h : Alike s t) :
    Matched (s.handleMultiplexerPayload now payload) (t.handleMultiplexerPayload now payload) := by
  simp only [RfcommState.handleMultiplexerPayload, h.mux.multiplexer]
  split_ifs
  · exact ⟨h, rfl⟩
  · cases parseMultiplexerCommand payload with
    | error message => exact ⟨h, rfl⟩
    | ok command =>
        obtain ⟨hnext, hkicked⟩ := (h.onMuxCommand command).maybeKickAtSequence now
        refine ⟨hnext, ?_⟩
        have hreply : ∀ response : Option Bytes,
            (response.map (buildUih dlciMultiplexer false none)).toList.filter isAtCommand = [] := by
          rintro (_ | response) <;> simp
        simp only [atCommands, List.filter_append, quiet_onMuxCommand, hreply, hkicked]

lemma Alike.onUih_other (now : Instant) {d : UInt8} (payload : Bytes) (hmux : d ≠ dlciMultiplexer)
    (hhfp : d ≠ s.hfpDlci) (h : Alike s t) : Matched (s.onUih now d payload) (t.onUih now d payload) := by
  have hhfp' : d ≠ t.hfpDlci := h.hfpDlci ▸ hhfp
  have hfree : d ∈ s.clientDlcis → s.extraChannelHandlers[d]? = none := fun hs => by
    simpa using h.mux.apart d hs
  have hfree' : d ∈ t.clientDlcis → s.extraChannelHandlers[d]? = none := fun ht => by
    simpa [h.mux.tenants] using h.mux.apart' d ht
  have htenant : t.extraChannelHandlers[d]? = s.extraChannelHandlers[d]? := by rw [h.mux.tenants]
  simp only [RfcommState.onUih, if_neg hmux, if_neg hhfp, if_neg hhfp', htenant]
  by_cases hs : d ∈ s.clientDlcis
  · rw [if_pos hs, hfree hs]
    split_ifs
    · exact ⟨h.clientOnly (.events _) (.events _), rfl⟩
    · exact ⟨h.clientOnly (.events _) .refl, rfl⟩
  · rw [if_neg hs]
    split_ifs with ht
    · rw [hfree' ht]
      exact ⟨h.clientOnly .refl (.events _), rfl⟩
    · cases s.extraChannelHandlers[d]? with
      | none => exact ⟨h, rfl⟩
      | some handlers => exact ⟨h, rfl⟩

lemma Alike.onUih (now : Instant) (d : UInt8) (payload : Bytes) (h : Alike s t) :
    Matched (s.onUih now d payload) (t.onUih now d payload) := by
  by_cases hmux : d = dlciMultiplexer
  · simp only [RfcommState.onUih, if_pos hmux]
    exact h.handleMultiplexerPayload now payload
  · by_cases hhfp : d = s.hfpDlci
    · have hhfp' : d = t.hfpDlci := hhfp.trans h.hfpDlci.symm
      simp only [RfcommState.onUih, if_neg hmux, if_pos hhfp, if_pos hhfp']
      obtain ⟨hnext, hout⟩ := h.handleHfpPayload now payload
      exact ⟨hnext, by rw [hout]⟩
    · exact h.onUih_other now payload hmux hhfp

lemma Alike.handleSabm (d : UInt8) (h : Alike s t) :
    Matched ((s.handleSabm d).map id .ok) ((t.handleSabm d).map id .ok) := by
  have hdlci : (t.multiplexerOpen ∧ d = t.hfpDlci) = (s.multiplexerOpen ∧ d = s.hfpDlci) := by
    rw [h.mux.multiplexer, h.hfpDlci]
  have htenant : (if t.multiplexerOpen then t.extraChannelHandlers[d]? else none) =
      if s.multiplexerOpen then s.extraChannelHandlers[d]? else none := by
    rw [h.mux.multiplexer, h.mux.tenants]
  simp only [RfcommState.handleSabm, hdlci, htenant]
  by_cases hmux : d = dlciMultiplexer
  · simp only [if_pos hmux]
    exact ⟨h.muxMoved true, rfl⟩
  · simp only [if_neg hmux]
    cases if s.multiplexerOpen then s.extraChannelHandlers[d]? else none with
    | some handlers => exact ⟨h, rfl⟩
    | none =>
        split_ifs
        · exact ⟨h.openHfpChannel, rfl⟩
        · exact ⟨h, rfl⟩

lemma Alike.handleDisc (d : UInt8) (h : Alike s t) :
    Matched ((s.handleDisc d).map id fun reply => .ok [reply]) ((t.handleDisc d).map id fun reply => .ok [reply]) := by
  have hclosed : Alike { s with hfpChannelState := .closed } { t with hfpChannelState := .closed } :=
    h.asleep (f := fun u => { u with hfpChannelState := .closed }) (fun _ _ => rfl) (fun _ => rfl) fun _ _ => rfl
  have hdlci : (d = t.hfpDlci) = (d = s.hfpDlci) := by rw [h.hfpDlci]
  have htenant : t.extraChannelHandlers[d]? = s.extraChannelHandlers[d]? := by rw [h.mux.tenants]
  simp only [RfcommState.handleDisc, hdlci, htenant]
  by_cases hmux : d = dlciMultiplexer
  · simp only [if_pos hmux]
    exact ⟨hclosed.muxMoved false, rfl⟩
  · simp only [if_neg hmux]
    split_ifs
    · exact ⟨hclosed, rfl⟩
    · cases s.extraChannelHandlers[d]? with
      | none => exact ⟨h, rfl⟩
      | some handlers => exact ⟨h, rfl⟩

lemma Alike.handleFrame (now : Instant) (frame : RfcommFrame) (h : Alike s t) :
    Matched (s.handleFrame now frame) (t.handleFrame now frame) := by
  simp only [RfcommState.handleFrame]
  cases frame.kind with
  | sabm => exact h.handleSabm frame.dlci
  | ua =>
      refine ⟨h.clientOnly clientOnly_onClientTargetUa clientOnly_onClientTargetUa, ?_⟩
      exact (quiet_onClientTargetUa frame.dlci).trans (quiet_onClientTargetUa frame.dlci).symm
  | dm =>
      have hfail : ∀ u : RfcommState, ClientOnly u (if frame.dlci ∈ u.clientDlcis then
          u.failClientDlci frame.dlci ("peer sent DM on outbound dlci " ++ toString frame.dlci.toNat) else u) := by
        intro u
        split_ifs
        · exact clientOnly_failClientDlci _
        · exact .refl
      have hnext := h.clientOnly (hfail s) (hfail t)
      simp only
      split_ifs at hnext ⊢ <;> exact ⟨hnext, rfl⟩
  | disc => exact h.handleDisc frame.dlci
  | uih => exact h.onUih now frame.dlci frame.payload
  | unknown control => exact ⟨h, rfl⟩

lemma Alike.handlePacket (now : Instant) (packet : Bytes) (h : Alike s t) :
    Matched (s.handlePacket now packet) (t.handlePacket now packet) := by
  simp only [RfcommState.handlePacket]
  cases parseFrame packet with
  | error message => exact ⟨h, rfl⟩
  | ok frame => exact h.handleFrame now frame

end Frames

section Observed

variable {s t : RfcommState}

lemma Alike.hfpEvents (h : Alike s t) : t.hfpEvents = s.hfpEvents := by
  rcases h.pump with ⟨k, rfl⟩ | hdormant
  · rfl
  · obtain ⟨k, hopened⟩ := hdormant.opened
    have hevents := congrArg RfcommState.hfpEvents hopened
    exact hevents

lemma Alike.observe (input : SessionInput) (h : Alike s.takeHfpEvents.1 t.takeHfpEvents.1) :
    Alike (s.observe input).1 (t.observe input).1 ∧ (s.observe input).2 = (t.observe input).2 := by
  cases input with
  | frame now packet =>
      obtain ⟨hnext, hcommands⟩ := h.handlePacket now packet
      exact ⟨hnext, Prod.ext hcommands.symm hnext.hfpEvents.symm⟩
  | tick now timeout =>
      have hnext := h.tickHfpStall now timeout
      exact ⟨hnext, Prod.ext rfl hnext.hfpEvents.symm⟩

/-- Sessions that are alike up to what was queued before cannot be told apart. -/
theorem outputs_eq_of_alike (h : Alike s.takeHfpEvents.1 t.takeHfpEvents.1) (inputs : List SessionInput) :
    Machine.outputs observe s inputs = Machine.outputs observe t inputs := by
  have hany : Machine.Along observe (fun _ _ => True) s inputs := Machine.along_of_forall fun _ _ => trivial
  have hsame := Machine.outputs_forall₂ (m := observe) (n := observe)
    (R := fun s t => Alike s.takeHfpEvents.1 t.takeHfpEvents.1) (Q := Eq)
    (fun s t input _ hR => ⟨(hR.observe input).1.takeHfpEvents, (hR.observe input).2⟩) hany h
  simpa using hsame

end Observed

/-! The channel numbers of a reachable session: ours are odd, the peer's are even. -/

section Numbers

variable {s s' : RfcommState}

structure Keeps (s s' : RfcommState) : Prop where
  dlci : s'.hfpDlci = s.hfpDlci
  tenants : s'.extraChannelHandlers = s.extraChannelHandlers
  clients : ∀ d ∈ s'.clientDlcis, d ∈ s.clientDlcis

lemma Keeps.refl : Keeps s s := ⟨rfl, rfl, fun _ hd => hd⟩

lemma Keeps.trans {s'' : RfcommState} (h : Keeps s s') (h' : Keeps s' s'') : Keeps s s'' :=
  ⟨h'.dlci.trans h.dlci, h'.tenants.trans h.tenants, fun d hd => h.clients d (h'.clients d hd)⟩

lemma ClientOnly.keeps (h : ClientOnly s s') : Keeps s s' := by
  obtain ⟨m, hm, rfl⟩ := h
  exact ⟨rfl, hm.tenants, hm.clients⟩

lemma Keeps.of_muxSide (hdlci : s'.hfpDlci = s.hfpDlci) (hmux : s'.muxSide = s.muxSide) : Keeps s s' := by
  simp only [muxSide, MuxSide.mk.injEq] at hmux
  obtain ⟨-, -, htenants, hclients, -⟩ := hmux
  exact ⟨hdlci, htenants, fun d hd => hclients ▸ hd⟩

@[simp] lemma hfpDlci_buildHfpCommandFrame (now : Instant) (command : HfpAtCommand) :
    (s.buildHfpCommandFrame now command).1.hfpDlci = s.hfpDlci := by
  simp only [buildHfpCommandFrame]
  split_ifs <;> rfl

@[simp] lemma hfpDlci_nextHfpCommandFrame (now : Instant) : (s.nextHfpCommandFrame now).1.hfpDlci = s.hfpDlci := by
  simp only [nextHfpCommandFrame]
  split
  · rfl
  · exact hfpDlci_buildHfpCommandFrame now _

@[simp] lemma hfpDlci_advanceHfpSlcQueue (now : Instant) : (s.advanceHfpSlcQueue now).1.hfpDlci = s.hfpDlci := by
  have hnext := hfpDlci_nextHfpCommandFrame (s := s) now
  simp only [advanceHfpSlcQueue]
  rcases hframe : s.nextHfpCommandFrame now with ⟨t, _ | frame⟩
  · rw [hframe] at hnext
    simp only
    split_ifs
    · rcases t.hfpState.needsIndicatorDefinitionsRetry with ⟨hfpState, _ | _⟩
      · exact hnext
      · exact (hfpDlci_nextHfpCommandFrame now).trans hnext
    · exact hnext
  · rw [hframe] at hnext
    exact hnext

@[simp] lemma hfpDlci_refuseCommand (now : Instant) : (s.refuseCommand now).1.hfpDlci = s.hfpDlci := by
  have hreport : ∀ (u : RfcommState) (command : String), (u.reportRefusal now command).1.hfpDlci = u.hfpDlci := by
    intro u command
    simp only [reportRefusal]
    rcases u.hfpState.afterRefusal command with ⟨hfpState, _ | again⟩
    · rfl
    · exact hfpDlci_buildHfpCommandFrame now again
  rw [refuseCommand_eq]
  cases s.hfpInFlightCommand <;> exact hreport _ _

@[simp] lemma hfpDlci_acceptCommand (now : Instant) : (s.acceptCommand now).1.hfpDlci = s.hfpDlci := by
  simp only [acceptCommand]
  split_ifs
  · rfl
  · exact hfpDlci_advanceHfpSlcQueue now
  · rfl
  · exact hfpDlci_advanceHfpSlcQueue now

@[simp] lemma hfpDlci_failSlcCommand (now : Instant) : (s.failSlcCommand now).1.hfpDlci = s.hfpDlci := by
  simp only [failSlcCommand]
  split_ifs
  · rfl
  · exact hfpDlci_advanceHfpSlcQueue now
  · rfl
  · rfl

@[simp] lemma hfpDlci_handleHfpResult (now : Instant) (result : HfpAgResult) :
    (s.handleHfpResult now result).1.hfpDlci = s.hfpDlci := by
  cases result with
  | ok =>
      simp only [handleHfpResult]
      split_ifs
      · rfl
      · exact hfpDlci_acceptCommand now
  | error =>
      simp only [handleHfpResult]
      split_ifs
      · exact hfpDlci_refuseCommand now
      · exact hfpDlci_failSlcCommand now
  | selectedCodec codec => exact hfpDlci_buildHfpCommandFrame now _
  | _ => rfl

@[simp] lemma hfpDlci_handleHfpResults (now : Instant) (results : List HfpAgResult) :
    (s.handleHfpResults now results).1.hfpDlci = s.hfpDlci := by
  induction results generalizing s with
  | nil => rfl
  | cons result results ih => exact ih.trans (hfpDlci_handleHfpResult now result)

lemma keeps_handleHfpPayload (now : Instant) (payload : Bytes) : Keeps s (s.handleHfpPayload now payload).1 := by
  refine .of_muxSide ?_ (muxSide_of_blind (fun u => u.handleHfpPayload now payload)
    (fun u m => withMux_handleHfpPayload u m now payload) s)
  simp only [handleHfpPayload]
  split_ifs
  · rfl
  · cases parseAgResultsBuffered s.hfpLineCarry payload with
    | error message => rfl
    | ok parsed => exact hfpDlci_handleHfpResults now parsed.2

lemma keeps_maybeKickAtSequence (now : Instant) : Keeps s (s.maybeKickAtSequence now).1 := by
  refine .of_muxSide ?_ (muxSide_of_blind (fun u => u.maybeKickAtSequence now)
    (fun u m => withMux_maybeKickAtSequence u m now) s)
  simp only [maybeKickAtSequence]
  split_ifs
  · rfl
  · exact hfpDlci_nextHfpCommandFrame now

lemma keeps_tickHfpStall (now : Instant) (timeout : Duration) : Keeps s (s.tickHfpStall now timeout).1 := by
  refine .of_muxSide ?_ (muxSide_of_blind (fun u => u.tickHfpStall now timeout)
    (fun u m => withMux_tickHfpStall u m now timeout) s)
  simp only [tickHfpStall]
  rcases s.hfpOutstanding.timedOut now timeout with ⟨hfpOutstanding, _ | command⟩ <;>
    rcases s.hfpInFlightCommandSentAt with _ | sentAt <;> simp only <;> split_ifs <;> rfl

lemma keeps_onMuxCommand (command : RfcommMuxCommand) : Keeps s (s.onMuxCommand command).1 := by
  cases command with
  | parameterNegotiation isResponse dlci frameType priority size credits =>
      cases isResponse with
      | true => exact (clientOnly_onPnResponse size).keeps
      | false => exact (clientOnly_onPnCommand priority size credits).keeps
  | modemStatus isResponse dlci signals =>
      by_cases hdlci : dlci = s.hfpDlci
      · cases isResponse <;> simp only [onMuxCommand, onMscResponse, onMscCommand, if_pos hdlci] <;>
          exact ⟨rfl, rfl, fun _ hd => hd⟩
      · cases isResponse with
        | true => exact (clientOnly_onMscResponse hdlci).keeps
        | false => exact (clientOnly_onMscCommand hdlci signals).keeps
  | flowControlOn | flowControlOff | unknown => exact .refl

lemma keeps_onUih (now : Instant) (d : UInt8) (payload : Bytes) : Keeps s (s.onUih now d payload).1 := by
  simp only [onUih]
  split_ifs
  · simp only [handleMultiplexerPayload]
    split_ifs
    · exact .refl
    · cases parseMultiplexerCommand payload with
      | error message => exact .refl
      | ok command => exact (keeps_onMuxCommand command).trans (keeps_maybeKickAtSequence now)
  · exact keeps_handleHfpPayload now payload
  · exact ⟨rfl, rfl, fun _ hd => hd⟩
  · cases s.extraChannelHandlers[d]? <;> exact .refl

lemma keeps_handleSabm (d : UInt8) : Keeps s (s.handleSabm d).1 := by
  simp only [handleSabm]
  cases if s.multiplexerOpen then s.extraChannelHandlers[d]? else none with
  | some handlers => split_ifs <;> exact ⟨rfl, rfl, fun _ hd => hd⟩
  | none => split_ifs <;> exact ⟨rfl, rfl, fun _ hd => hd⟩

lemma keeps_handlePacket (now : Instant) (packet : Bytes) : Keeps s (s.handlePacket now packet).1 := by
  simp only [handlePacket]
  cases parseFrame packet with
  | error message => exact .refl
  | ok frame =>
      simp only [handleFrame]
      cases frame.kind with
      | sabm => exact keeps_handleSabm frame.dlci
      | ua => exact clientOnly_onClientTargetUa.keeps
      | dm =>
          simp only
          split_ifs
          · exact (clientOnly_failClientDlci _).keeps
          · exact .refl
      | disc =>
          simp only [handleDisc]
          split_ifs
          · exact ⟨rfl, rfl, fun _ hd => hd⟩
          · exact ⟨rfl, rfl, fun _ hd => hd⟩
          · cases s.extraChannelHandlers[frame.dlci]? <;> exact .refl
      | uih => exact keeps_onUih now frame.dlci frame.payload
      | unknown control => exact .refl

structure Numbered (s : RfcommState) : Prop where
  dlci : s.hfpDlci = aokieHfpDlci
  outbound : ∀ d ∈ s.clientDlcis, d &&& 1 = 1
  inbound : ∀ d ∈ s.extraChannelHandlers, d &&& 1 = 0

lemma serverChannelDlci_parity (serverChannel : UInt8) (initiator : Bool) :
    serverChannelDlci serverChannel initiator &&& 1 = initiator.toUInt8 := by
  revert serverChannel
  cases initiator <;> exact byte_forall (by decide)

lemma Numbered.keeps (h : Numbered s) (hkept : Keeps s s') : Numbered s' :=
  ⟨hkept.dlci.trans h.dlci, fun d hd => h.outbound d (hkept.clients d hd), by rw [hkept.tenants]; exact h.inbound⟩

lemma Numbered.step (op : RfcommOp) (h : Numbered s) : Numbered (s.step op).1 := by
  cases op with
  | packet now packet => exact h.keeps (keeps_handlePacket now packet)
  | tick now timeout => exact h.keeps (keeps_tickHfpStall now timeout)
  | attach serverChannel =>
      simp only [RfcommState.step, attachClientDlci]
      split_ifs
      · exact h
      · exact h
      · refine ⟨h.dlci, ?_, h.inbound⟩
        intro d hd
        rcases Std.ExtTreeMap.mem_insert.mp hd with heq | hd
        · rw [← Std.LawfulEqCmp.eq_of_compare heq]
          exact serverChannelDlci_parity serverChannel true
        · exact h.outbound d hd
  | registerServerChannel serverChannel handlers =>
      refine ⟨h.dlci, h.outbound, ?_⟩
      intro d hd
      rcases Std.ExtTreeMap.mem_insert.mp hd with heq | hd
      · rw [← Std.LawfulEqCmp.eq_of_compare heq]
        exact serverChannelDlci_parity serverChannel false
      · exact h.inbound d hd
  | disc dlci =>
      simp only [RfcommState.step, buildDiscForClientDlci]
      split_ifs
      · exact h.keeps ⟨rfl, rfl, fun _ hd => (Std.ExtTreeMap.mem_erase.mp hd).2⟩
      · exact h
  | forceDisc dlci => exact h.keeps ⟨rfl, rfl, fun _ hd => (Std.ExtTreeMap.mem_erase.mp hd).2⟩
  | callControl now command =>
      simp only [RfcommState.step, buildCallControlCommand]
      split_ifs
      · exact h
      · exact h.keeps (.of_muxSide (hfpDlci_buildHfpCommandFrame now command)
          (muxSide_of_blind (fun u => u.buildHfpCommandFrame now command)
            (fun u m => withMux_buildHfpCommandFrame u m now command) s))
  | takeForDlci | takeAll | setWbsSupported | setCallWaitingEnabled | takeHfpEvents =>
      exact h.keeps ⟨rfl, rfl, fun _ hd => hd⟩

lemma numbered_run (ops : List RfcommOp) : Numbered (Machine.final RfcommState.step new ops) := by
  refine Machine.always (fun s op => Numbered.step op) ⟨rfl, ?_, ?_⟩ ops <;> simp [new]

lemma Numbered.apart (h : Numbered s) {d : UInt8} (hd : d ∈ s.clientDlcis) : d ∉ s.extraChannelHandlers := by
  intro htenant
  exact absurd ((h.outbound d hd).symm.trans (h.inbound d htenant)) (by decide)

end Numbers

/-! Closing the hands-free channel and opening it again. -/

/-- Everything that the SABM handler leaves as it finds it is still as a new session has it. -/
structure Spotless (s : RfcommState) : Prop where
  multiplexer : s.multiplexerOpen = true
  callState : s.hfpState =
    (HfpHandsFreeState.new.setWbsSupported s.wbsSupported).setCallWaitingEnabled s.hfpState.callWaitingEnabled
  lineCarry : s.hfpLineCarry = ""
  clock : s.hfpInFlightCommandSentAt = none
  outstanding : s.hfpOutstanding = {}

/-- A new session with the settings and the registered channels of an old one. -/
def freshLike (s : RfcommState) : RfcommState :=
  { (new.setWbsSupported s.wbsSupported).setCallWaitingEnabled s.hfpState.callWaitingEnabled with
    extraChannelHandlers := s.extraChannelHandlers }

def IsFrame (kind : RfcommFrameKind) (dlci : UInt8) (packet : Bytes) : Prop :=
  ∃ frame, parseFrame packet = .ok frame ∧ frame.kind = kind ∧ frame.dlci = dlci

def reopened (s : RfcommState) (now : Instant) (disc sabm : Bytes) : RfcommState :=
  ((s.handlePacket now disc).1.handlePacket now sabm).1

section Reopened

variable {s} {now : Instant} {packet : Bytes} {d : UInt8}

lemma handlePacket_sabm (h : IsFrame .sabm d packet) :
    s.handlePacket now packet = (s.handleSabm d).map id .ok := by
  obtain ⟨frame, hparse, hkind, rfl⟩ := h
  simp only [handlePacket, hparse, handleFrame, hkind]

lemma handlePacket_disc (h : IsFrame .disc d packet) :
    s.handlePacket now packet = (s.handleDisc d).map id fun reply => .ok [reply] := by
  obtain ⟨frame, hparse, hkind, rfl⟩ := h
  simp only [handlePacket, hparse, handleFrame, hkind]

lemma handleSabm_mux : s.handleSabm dlciMultiplexer =
    ({ s with multiplexerOpen := true }, [buildUa dlciMultiplexer true]) := if_pos rfl

lemma handleDisc_hfp (h : s.hfpDlci = aokieHfpDlci) : s.handleDisc aokieHfpDlci =
    ({ s with hfpChannelState := .closed }, buildUa aokieHfpDlci true) := by
  simp only [handleDisc, h, if_true, show aokieHfpDlci ≠ dlciMultiplexer by decide, if_false]

lemma takeHfpEvents_handleSabm : (s.handleSabm d).1.takeHfpEvents.1 = (s.takeHfpEvents.1.handleSabm d).1 := by
  have htenant : (if s.takeHfpEvents.1.multiplexerOpen then s.takeHfpEvents.1.extraChannelHandlers[d]? else none) =
      if s.multiplexerOpen then s.extraChannelHandlers[d]? else none := rfl
  simp only [handleSabm, htenant]
  by_cases hmux : d = dlciMultiplexer
  · simp only [if_pos hmux]
    rfl
  · simp only [if_neg hmux]
    cases if s.multiplexerOpen then s.extraChannelHandlers[d]? else none with
    | some handlers => rfl
    | none =>
        simp only
        split_ifs with hopen hopen' hopen'
        · rfl
        · exact absurd hopen hopen'
        · exact absurd hopen' hopen
        · rfl

lemma Spotless.alike (h : Spotless s) (hnumbered : Numbered s) :
    Alike { s with hfpChannelState := .closed }.takeHfpEvents.1
      { freshLike s with multiplexerOpen := true }.takeHfpEvents.1 := by
  refine ⟨⟨h.multiplexer.symm, rfl, fun d hd => hnumbered.apart hd, fun d hd => ?_⟩, .inr ⟨⟨rfl, rfl⟩, ?_, ?_, ?_⟩⟩
  · exact absurd hd (by simp [takeHfpEvents, freshLike, setCallWaitingEnabled, setWbsSupported, new])
  · exact ⟨h.clock, rfl⟩
  · exact (congrArg HfpHandsFreeState.serviceLevelReady h.callState).trans rfl
  · refine ⟨muxSide { freshLike s with multiplexerOpen := true }, ?_⟩
    simp only [RfcommState.openHfpChannel, RfcommState.takeHfpEvents, freshLike, setCallWaitingEnabled, setWbsSupported,
      new, muxSide, hnumbered.dlci, h.lineCarry, h.clock, h.outstanding, RfcommState.mk.injEq, and_true, true_and]
    exact ⟨h.callState.symm, rfl⟩

/-- In a run that leaves nothing for the SABM handler to forget, the session after it is a new one. -/
theorem reopened_session_is_fresh (ops : List RfcommOp) (now now' : Instant) (disc sabm muxSabm hfpSabm : Bytes)
    (hspotless : Spotless (Machine.final RfcommState.step new ops))
    (hdisc : IsFrame .disc aokieHfpDlci disc) (hsabm : IsFrame .sabm aokieHfpDlci sabm)
    (hmux : IsFrame .sabm dlciMultiplexer muxSabm) (hhfp : IsFrame .sabm aokieHfpDlci hfpSabm)
    (inputs : List SessionInput) :
    Machine.outputs observe ((Machine.final RfcommState.step new ops).reopened now disc sabm) inputs =
      Machine.outputs observe ((freshLike (Machine.final RfcommState.step new ops)).reopened now' muxSabm hfpSabm)
        inputs := by
  set s := Machine.final RfcommState.step new ops
  have hnumbered : Numbered s := numbered_run ops
  have hwaiting := hspotless.alike hnumbered
  refine outputs_eq_of_alike ?_ inputs
  simp only [reopened, handlePacket_disc hdisc, handlePacket_sabm hsabm, handlePacket_sabm hmux, handlePacket_sabm hhfp,
    handleDisc_hfp hnumbered.dlci, handleSabm_mux, Prod.map_fst, id_eq, takeHfpEvents_handleSabm]
  exact (hwaiting.handleSabm aokieHfpDlci).1

/-- The opening of the multiplexer and of the hands-free channel, and the peer's modem status. -/
def openingOps : List RfcommOp :=
  [.packet 0 (buildSabm dlciMultiplexer true), .packet 0 (buildSabm aokieHfpDlci true),
    .packet 0 (buildUih dlciMultiplexer true none (buildModemStatusCommand aokieHfpDlci localModemStatus))]

set_option maxRecDepth 8000 in
lemma isFrame_disc_hfp : IsFrame .disc aokieHfpDlci (buildDisc aokieHfpDlci true) :=
  ⟨⟨aokieHfpDlci, true, .disc, true, none, []⟩, by decide, rfl, rfl⟩

set_option maxRecDepth 8000 in
lemma isFrame_sabm_hfp : IsFrame .sabm aokieHfpDlci (buildSabm aokieHfpDlci true) :=
  ⟨⟨aokieHfpDlci, true, .sabm, true, none, []⟩, by decide, rfl, rfl⟩

set_option maxRecDepth 8000 in
lemma isFrame_sabm_mux : IsFrame .sabm dlciMultiplexer (buildSabm dlciMultiplexer true) :=
  ⟨⟨dlciMultiplexer, true, .sabm, true, none, []⟩, by decide, rfl, rfl⟩

set_option maxRecDepth 8000 in
/-- The channel is dropped before the first AT command. -/
theorem reopened_session_is_fresh_before_at :
    Machine.outputs observe ((Machine.final RfcommState.step new openingOps).reopened 5
      (buildDisc aokieHfpDlci true) (buildSabm aokieHfpDlci true)) [.tick 20 10] =
    Machine.outputs observe ((freshLike (Machine.final RfcommState.step new openingOps)).reopened 0
      (buildSabm dlciMultiplexer true) (buildSabm aokieHfpDlci true)) [.tick 20 10] :=
  reopened_session_is_fresh openingOps 5 0 _ _ _ _
    ⟨by decide, by decide, by decide, by decide, by decide⟩
    isFrame_disc_hfp isFrame_sabm_hfp isFrame_sabm_mux isFrame_sabm_hfp _

set_option maxRecDepth 8000 in
/-- Dropped after its first AT command, a session leaves the stall clock running: the next one is told that its
handshake failed before it has sent anything. -/
theorem reopened_session_keeps_stall_clock :
    ¬ ∀ (ops : List RfcommOp) (now now' : Instant) (disc sabm muxSabm hfpSabm : Bytes),
      IsFrame .disc aokieHfpDlci disc → IsFrame .sabm aokieHfpDlci sabm → IsFrame .sabm dlciMultiplexer muxSabm →
      IsFrame .sabm aokieHfpDlci hfpSabm → ∀ inputs : List SessionInput,
      Machine.outputs observe ((Machine.final RfcommState.step new ops).reopened now disc sabm) inputs =
        Machine.outputs observe ((freshLike (Machine.final RfcommState.step new ops)).reopened now' muxSabm hfpSabm)
          inputs := by
  intro hfresh
  have htick := hfresh (openingOps ++
      [.packet 0 (buildUih dlciMultiplexer true none (buildModemStatusResponse aokieHfpDlci localModemStatus))])
    5 5 _ _ _ _ isFrame_disc_hfp isFrame_sabm_hfp isFrame_sabm_mux isFrame_sabm_hfp [.tick 20 10]
  revert htick
  decide

end Reopened

end RfcommState

end Aokie.Radio.Rfcomm
