import Aokie.Radio.PumpAgreement

/-! Whole sessions of the two AT pumps, from the moment the channel opens: the phone's payloads and our own
call-control commands in any order. -/

namespace Aokie.Radio

open Aokie.Lib Aokie.Radio.Hfp Aokie.Radio.Rfcomm

abbrev AgPayload := { payload : Bytes // payload.length ≤ 32767 }

inductive PumpInput
  | agPayload (now : Instant) (commandResponse : Bool) (credits : Option UInt8) (payload : AgPayload)
  | callControl (now : Instant) (command : HfpAtCommand)

abbrev PumpOutput := Except String (List Bytes) × List HfpEvent

def RfcommState.drained (r : RfcommState × Except String (List Bytes)) : RfcommState × PumpOutput :=
  (r.1.takeHfpEvents.1, r.2, r.1.takeHfpEvents.2)

def HfpClientState.drained (r : HfpClientState × Except String (List Bytes)) : HfpClientState × PumpOutput :=
  (r.1.takeHfpEvents.1, r.2, r.1.takeHfpEvents.2)

def serverPump : Machine RfcommState PumpInput PumpOutput
  | s, .agPayload now cr credits payload =>
    RfcommState.drained (s.handlePacket now (buildUih s.hfpDlci cr credits payload))
  | s, .callControl now command =>
    RfcommState.drained ((s.buildCallControlCommand now command).map id fun frame => .ok frame.toList)

def clientPump : Machine HfpClientState PumpInput PumpOutput
  | c, .agPayload now cr credits payload =>
    HfpClientState.drained (c.handlePacket now (buildUih c.client.targetDlci cr credits payload))
  | c, .callControl now command =>
    HfpClientState.drained ((c.buildCallControlCommand now command).map id fun frame => .ok frame.toList)

/-- The MSC exchange of the hands-free channel is complete and nothing was sent on it yet. -/
structure RfcommState.JustOpened (s : RfcommState) (wbsSupported callWaiting : Bool) : Prop where
  isOpen : s.hfpChannelState = .open
  mscAnswered : s.mscLocalPending = false
  mscReceived : s.mscRemoteReceived = true
  unkicked : s.mscAtKicked = false
  dlci : s.hfpDlci = aokieHfpDlci
  callState : s.hfpState = (HfpHandsFreeState.new.setCallWaitingEnabled callWaiting).setWbsSupported wbsSupported
  lineCarry : s.hfpLineCarry = ""
  pending : s.hfpPendingCommands = HfpHandsFreeState.initialServiceLevelCommands wbsSupported callWaiting
  inFlight : s.hfpInFlightCommand = none
  slcFailed : s.hfpSlcFailed = false
  outstanding : s.hfpOutstanding = {}
  events : s.hfpEvents = []
  wbs : s.wbsSupported = wbsSupported

/-- A new session whose primary channel is open, without credits, before it hears of it. -/
structure HfpClientState.JustOpened (c : HfpClientState) (wbsSupported callWaiting : Bool) : Prop where
  isOpen : c.client.phase = .open
  unlimited : c.client.creditFlow = false
  dlci : ∃ serverChannel, c.client.targetDlci = serverChannelDlci serverChannel true
  quiet : c.client.pendingEvents = []
  attached : c.closed = false
  callState : c.hfpState = (HfpHandsFreeState.new.setCallWaitingEnabled callWaiting).setWbsSupported wbsSupported
  lineCarry : c.lineCarry = ""
  inFlight : c.inFlightCommand = none
  slcFailed : c.slcFailed = false
  outstanding : c.outstanding = {}
  events : c.events = []
  wbs : c.wbsSupported = wbsSupported

def serverOpening (now : Instant) (s : RfcommState) : RfcommState × PumpOutput :=
  RfcommState.drained ((s.maybeKickAtSequence now).map id .ok)

def clientOpening (now : Instant) (c : HfpClientState) : HfpClientState × PumpOutput :=
  HfpClientState.drained (c.onClientEvent now .opened)

/-- The same lines, each side's on its own channel, or the same error; and the same events. -/
def SameOutput (dlci dlci' : UInt8) (out out' : PumpOutput) : Prop :=
  ((∃ lines : List Bytes, out.1 = .ok (lines.map (buildUih dlci true none)) ∧
      out'.1 = .ok (lines.map (buildUih dlci' true none))) ∨
    ∃ message, out.1 = .error message ∧ out'.1 = .error message) ∧ out.2 = out'.2

structure Carried (carry : String) : Prop where
  unfinished : ∀ char ∈ carry.toList, isLineBreak char = false
  short : (carry.toList.map Char.utf8Size).sum ≤ 1024

abbrev DataDlci (dlci : UInt8) : Prop := dlci ≠ dlciMultiplexer ∧ dlci < 64

/-- Two pumps in the same state between two inputs. -/
structure PumpsRun (dlci dlci' : UInt8) (s : RfcommState) (c : HfpClientState) : Prop where
  agree : PumpsAgree s c
  settled : Settled s
  carried : Carried s.hfpLineCarry
  serverDlci : s.hfpDlci = dlci
  clientDlci : c.client.targetDlci = dlci'
  serverDrained : s.hfpEvents = []
  clientDrained : c.events = []

def ParsedInert (now : Instant) (s : RfcommState) : Except String (String × List HfpAgResult) → Prop
  | .error _ => True
  | .ok (carry, results) => (resultPump now).Along ResultInert { s with hfpLineCarry := carry } results

def InputInert (s : RfcommState) : PumpInput → Prop
  | .agPayload now _ _ payload => ParsedInert now s (parseAgResultsBuffered s.hfpLineCarry payload)
  | .callControl _ _ => True

instance (now : Instant) (s : RfcommState) : ∀ parsed, Decidable (ParsedInert now s parsed)
  | .error _ => .isTrue trivial
  | .ok (carry, results) =>
    inferInstanceAs (Decidable ((resultPump now).Along ResultInert { s with hfpLineCarry := carry } results))

instance (s : RfcommState) : ∀ input, Decidable (InputInert s input)
  | .agPayload now _ _ payload =>
    inferInstanceAs (Decidable (ParsedInert now s (parseAgResultsBuffered s.hfpLineCarry payload)))
  | .callControl _ _ => .isTrue trivial

variable {s : RfcommState} {c : HfpClientState} {dlci dlci' : UInt8}

lemma parseAgResultsBuffered_nil {carry : String} (h : Carried carry) :
    parseAgResultsBuffered carry [] = .ok (carry, []) := by
  have hall : ∀ char ∈ carry.toList, (!isLineBreak char) = true := fun char hchar => by
    simp [h.unfinished char hchar]
  have htext : fromUtf8 [] = some "" := by decide
  have htail : carry.toList.rtakeWhile (!isLineBreak ·) = carry.toList :=
    List.rtakeWhile_eq_self_iff.mpr hall
  have hlines : carry.toList.rdropWhile (!isLineBreak ·) = [] := List.rdropWhile_eq_nil_iff.mpr hall
  simp only [parseAgResultsBuffered, htext, String.append_empty, htail, hlines, if_pos h.short]
  simp [List.splitOn, parseAgResultLine, trim]

lemma carried_of_parse {carry carry' : String} {payload : Bytes} {results : List HfpAgResult}
    (h : parseAgResultsBuffered carry payload = .ok (carry', results)) : Carried carry' := by
  simp only [parseAgResultsBuffered] at h
  split at h
  · cases h
  · injection h with h
    injection h with hcarry
    subst hcarry
    split_ifs with hshort
    · refine ⟨fun char hchar => ?_, by simpa using hshort⟩
      have hmem := List.mem_rtakeWhile_imp (by simpa using hchar)
      simpa using hmem
    · exact ⟨by simp, by simp⟩

section LineCarry

lemma lineCarry_buildHfpCommandFrame (now : Instant) (command : HfpAtCommand) :
    (s.buildHfpCommandFrame now command).1.hfpLineCarry = s.hfpLineCarry := by
  rw [buildHfpCommandFrame_eq]

lemma lineCarry_nextHfpCommandFrame (now : Instant) :
    (s.nextHfpCommandFrame now).1.hfpLineCarry = s.hfpLineCarry := by
  simp only [RfcommState.nextHfpCommandFrame]
  split
  · rfl
  · exact lineCarry_buildHfpCommandFrame now _

lemma lineCarry_advanceHfpSlcQueue (now : Instant) :
    (s.advanceHfpSlcQueue now).1.hfpLineCarry = s.hfpLineCarry := by
  have hnext := lineCarry_nextHfpCommandFrame (s := s) now
  simp only [RfcommState.advanceHfpSlcQueue]
  split
  case h_1 s' frame heq =>
    rw [heq] at hnext
    exact hnext
  case h_2 s' heq =>
    rw [heq] at hnext
    rw [← hnext]
    split_ifs
    · split
      · exact lineCarry_nextHfpCommandFrame now
      · rfl
    · rfl

lemma lineCarry_refuseCommand (now : Instant) : (s.refuseCommand now).1.hfpLineCarry = s.hfpLineCarry := by
  simp only [RfcommState.refuseCommand]
  cases s.hfpInFlightCommand with
  | none =>
      dsimp only
      split
      · exact lineCarry_buildHfpCommandFrame now _
      · rfl
  | some command =>
      dsimp only
      split
      · exact lineCarry_buildHfpCommandFrame now _
      · rfl

lemma lineCarry_acceptCommand (now : Instant) : (s.acceptCommand now).1.hfpLineCarry = s.hfpLineCarry := by
  simp only [RfcommState.acceptCommand]
  split_ifs
  · rfl
  · exact lineCarry_advanceHfpSlcQueue now
  · rfl
  · exact lineCarry_advanceHfpSlcQueue now

lemma lineCarry_failSlcCommand (now : Instant) : (s.failSlcCommand now).1.hfpLineCarry = s.hfpLineCarry := by
  simp only [RfcommState.failSlcCommand]
  split_ifs
  · rfl
  · exact lineCarry_advanceHfpSlcQueue now
  · rfl
  · rfl

lemma lineCarry_handleHfpResult (now : Instant) (result : HfpAgResult) :
    (s.handleHfpResult now result).1.hfpLineCarry = s.hfpLineCarry := by
  cases result with
  | ok =>
      simp only [RfcommState.handleHfpResult]
      split_ifs
      · rfl
      · exact lineCarry_acceptCommand now
  | error =>
      simp only [RfcommState.handleHfpResult]
      split_ifs
      · exact lineCarry_refuseCommand now
      · exact lineCarry_failSlcCommand now
  | selectedCodec codec => exact lineCarry_buildHfpCommandFrame now _
  | _ => rfl

lemma lineCarry_handleHfpResults (now : Instant) (results : List HfpAgResult) :
    (s.handleHfpResults now results).1.hfpLineCarry = s.hfpLineCarry := by
  induction results generalizing s with
  | nil => rfl
  | cons result results ih =>
      simp only [RfcommState.handleHfpResults]
      rw [ih, lineCarry_handleHfpResult]

end LineCarry

lemma PumpsAgree.pumpHeld (h : PumpsAgree s c) (hsettled : Settled s) (now : Instant) :
    c.pumpHeldCommand now = (c, .ok []) := by
  simp only [HfpClientState.pumpHeldCommand]
  split_ifs with hheld
  · have hflight : s.hfpInFlightCommand = none := by
      rw [← h.inFlight]
      simpa using (Bool.and_eq_true_iff.mp hheld).2
    have hpending : s.hfpPendingCommands = [] := hsettled.idle hflight
    have hpending' : c.pendingCommands = [] := h.pending.trans hpending
    have hqueue : sendable s = [] := by simp [sendable, hpending]
    rw [(h.next_nil now hqueue).2]
    simp [← hpending', Except.map]
  · rfl

lemma PumpsAgree.payload (h : PumpsAgree s c) (hsettled : Settled s) (now : Instant) (payload : Bytes)
    (hinert : ParsedInert now s (parseAgResultsBuffered s.hfpLineCarry payload)) :
    (∃ message, s.handleHfpPayload now payload = (s, .error message) ∧
      c.handleAgPayload now payload = (c, .error message)) ∨
    ∃ r : RfcommState × List Bytes, s.handleHfpPayload now payload = r.map id .ok ∧
      InStep s c r (c.handleAgPayload now payload) ∧ Settled r.1 ∧ Carried r.1.hfpLineCarry := by
  have hopen : ¬s.hfpChannelState ≠ .open := by simp [h.serverOpen]
  rw [RfcommState.handleHfpPayload, if_neg hopen, HfpClientState.handleAgPayload, h.lineCarry]
  cases hparse : parseAgResultsBuffered s.hfpLineCarry payload with
  | error message => exact .inl ⟨message, rfl, rfl⟩
  | ok parsed =>
      obtain ⟨carry, results⟩ := parsed
      rw [hparse] at hinert
      have hcarried : Carried carry := carried_of_parse hparse
      have hread : PumpsAgree { s with hfpLineCarry := carry } { c with lineCarry := carry } :=
        { h with lineCarry := rfl }
      obtain ⟨hstep, hsettled'⟩ := hread.handleResults now ⟨hsettled.idle, hsettled.failed, hsettled.ready⟩ hinert
      refine .inr ⟨_, rfl, hstep.from_same rfl rfl rfl rfl, hsettled', ?_⟩
      rw [lineCarry_handleHfpResults]
      exact hcarried

lemma handlePacket_server {dlci : UInt8} {payload : Bytes} (h : s.hfpDlci = dlci) (hmux : dlci ≠ dlciMultiplexer)
    (hdlci : dlci < 64) (hlen : payload.length ≤ 32767) (now : Instant) (cr : Bool) (credits : Option UInt8) :
    s.handlePacket now (buildUih s.hfpDlci cr credits payload) = s.handleHfpPayload now payload := by
  subst h
  simp only [RfcommState.handlePacket, parseFrame_buildUih cr credits hdlci hlen, RfcommState.handleFrame,
    RfcommState.onUih, hmux, if_false, if_true]

def HfpClientState.credited (c : HfpClientState) (credits : Option UInt8) : HfpClientState :=
  { c with client := { c.client with
      txCredits := u16SaturatingAdd c.client.txCredits (credits.getD 0).toNat, pendingEvents := [] } }

lemma PumpsAgree.credited (h : PumpsAgree s c) (credits : Option UInt8) : PumpsAgree s (c.credited credits) :=
  { h with quiet := rfl }

lemma PumpsAgree.handlePacket_nil (h : PumpsAgree s c) (hsettled : Settled s)
    (hmux : c.client.targetDlci ≠ dlciMultiplexer)
    (hdlci : c.client.targetDlci < 64) (now : Instant) (cr : Bool) (credits : Option UInt8) :
    c.handlePacket now (buildUih c.client.targetDlci cr credits []) = (c.credited credits, .ok []) := by
  have hclient : c.client.handlePacket (buildUih c.client.targetDlci cr credits []) =
      ((c.credited credits).client, .ok []) := by
    simp only [RfcommClientState.handlePacket, parseFrame_buildUih cr credits hdlci
      (show ([] : Bytes).length ≤ 32767 by simp),
      RfcommClientState.handleFrame, RfcommClientState.onUih, hmux, if_false, if_true,
      RfcommClientState.onUihTarget, List.isEmpty_nil, HfpClientState.credited, ← h.quiet]
    rfl
  simp only [HfpClientState.handlePacket, hclient, RfcommClientState.takeEvents]
  have hheld := (h.credited credits).pumpHeld hsettled now
  simp only [HfpClientState.credited] at hheld
  simp [tryFor, HfpClientState.credited, hheld, Except.map]

lemma PumpsAgree.handlePacket_payload (h : PumpsAgree s c) (hmux : c.client.targetDlci ≠ dlciMultiplexer)
    (hdlci : c.client.targetDlci < 64) {payload : Bytes} (hlen : payload.length ≤ 32767) (hne : payload ≠ [])
    (now : Instant) (cr : Bool) (credits : Option UInt8) :
    c.handlePacket now (buildUih c.client.targetDlci cr credits payload) =
      match (c.credited credits).handleAgPayload now payload with
      | (c, .error message) => (c, .error message)
      | (c, .ok replies) => (c.pumpHeldCommand now).map id (Except.map fun held => replies ++ held) := by
  have hclient : c.client.handlePacket (buildUih c.client.targetDlci cr credits payload) =
      ({ (c.credited credits).client with pendingEvents := [.payload payload] }, .ok []) := by
    simp [RfcommClientState.handlePacket, parseFrame_buildUih cr credits hdlci hlen, HfpClientState.credited,
      RfcommClientState.handleFrame, RfcommClientState.onUih, hmux, RfcommClientState.onUihTarget, hne,
      RfcommClientState.isOpen, h.clientOpen, h.quiet, h.unlimited]
  simp only [HfpClientState.handlePacket, hclient, RfcommClientState.takeEvents, tryFor_singleton,
    HfpClientState.onClientEvent, List.nil_append]
  rfl

lemma InStep.drained {r : RfcommState × List Bytes} {r' : HfpClientState × Except String (List Bytes)}
    (hstep : InStep s c r r') (hdlci : s.hfpDlci = dlci) (hdlci' : c.client.targetDlci = dlci')
    (hevents : s.hfpEvents = []) (hevents' : c.events = []) (hsettled : Settled r.1)
    (hcarried : Carried r.1.hfpLineCarry) :
    PumpsRun dlci dlci' (RfcommState.drained (r.map id .ok)).1 (HfpClientState.drained r').1 ∧
      SameOutput dlci dlci' (RfcommState.drained (r.map id .ok)).2 (HfpClientState.drained r').2 := by
  obtain ⟨lines, events, hspeaks⟩ := hstep
  have hserver : r.1.hfpEvents = events := by simp [hspeaks.serverEvents, hevents]
  have hclient : r'.1.events = events := by simp [hspeaks.clientEvents, hevents']
  refine ⟨⟨{ hspeaks.agree with }, ⟨hsettled.idle, hsettled.failed, hsettled.ready⟩, hcarried,
    hspeaks.serverDlci.trans hdlci, hspeaks.clientDlci.trans hdlci', rfl, rfl⟩, .inl ⟨lines, ?_, ?_⟩, ?_⟩
  · simp [RfcommState.drained, hspeaks.serverLines, hdlci]
  · simp [HfpClientState.drained, hspeaks.clientLines, hdlci']
  · exact hserver.trans hclient.symm

lemma PumpsRun.drained {r : RfcommState × List Bytes} {r' : HfpClientState × Except String (List Bytes)}
    (h : PumpsRun dlci dlci' s c) (hstep : InStep s c r r') (hsettled : Settled r.1)
    (hcarried : Carried r.1.hfpLineCarry) :
    PumpsRun dlci dlci' (RfcommState.drained (r.map id .ok)).1 (HfpClientState.drained r').1 ∧
      SameOutput dlci dlci' (RfcommState.drained (r.map id .ok)).2 (HfpClientState.drained r').2 :=
  hstep.drained h.serverDlci h.clientDlci h.serverDrained h.clientDrained hsettled hcarried

lemma PumpsRun.refused {d : HfpClientState} (h : PumpsRun dlci dlci' s c) (hagree : PumpsAgree s d)
    (hdlci : d.client.targetDlci = c.client.targetDlci) (hevents : d.events = c.events) (message : String) :
    PumpsRun dlci dlci' (RfcommState.drained (s, .error message)).1 (HfpClientState.drained (d, .error message)).1 ∧
      SameOutput dlci dlci' (RfcommState.drained (s, .error message)).2
        (HfpClientState.drained (d, .error message)).2 := by
  refine ⟨⟨{ hagree with }, ⟨h.settled.idle, h.settled.failed, h.settled.ready⟩, h.carried, h.serverDlci,
    hdlci.trans h.clientDlci, rfl, rfl⟩, .inr ⟨message, rfl, rfl⟩, ?_⟩
  exact h.serverDrained.trans (hevents.trans h.clientDrained).symm

lemma PumpsRun.agPayload (h : PumpsRun dlci dlci' s c) (hdlci : DataDlci dlci) (hdlci' : DataDlci dlci')
    (now : Instant) (cr : Bool) (credits : Option UInt8) (payload : AgPayload)
    (hinert : InputInert s (.agPayload now cr credits payload)) :
    PumpsRun dlci dlci' (serverPump s (.agPayload now cr credits payload)).1
        (clientPump c (.agPayload now cr credits payload)).1 ∧
      SameOutput dlci dlci' (serverPump s (.agPayload now cr credits payload)).2
        (clientPump c (.agPayload now cr credits payload)).2 := by
  obtain ⟨payload, hlen⟩ := payload
  have hmux : c.client.targetDlci ≠ dlciMultiplexer := h.clientDlci ▸ hdlci'.1
  have hbound : c.client.targetDlci < 64 := h.clientDlci ▸ hdlci'.2
  have hagree := h.agree.credited credits
  simp only [serverPump, clientPump, handlePacket_server h.serverDlci hdlci.1 hdlci.2 hlen]
  by_cases hempty : payload = []
  · subst hempty
    rw [h.agree.handlePacket_nil h.settled hmux hbound]
    have hnil : s.handleHfpPayload now [] = (s, .ok []) := by
      rw [RfcommState.handleHfpPayload, if_neg (by simp [h.agree.serverOpen]), parseAgResultsBuffered_nil h.carried]
      rfl
    rw [hnil]
    exact h.drained (.silent [] hagree rfl rfl (by simp) (by simp [HfpClientState.credited])) h.settled h.carried
  · rw [h.agree.handlePacket_payload hmux hbound hlen hempty]
    obtain ⟨message, hserver, hclient⟩ | ⟨r, hserver, hstep, hsettled, hcarried⟩ :=
      hagree.payload h.settled now payload hinert
    · rw [hserver, hclient]
      exact h.refused hagree rfl rfl message
    · have hstep' : InStep s c r ((c.credited credits).handleAgPayload now payload) :=
        hstep.from_same rfl rfl rfl rfl
      rw [hserver]
      -- What the client held back for want of credits is nothing.
      have hheld : (match (c.credited credits).handleAgPayload now payload with
          | (c, .error message) => (c, .error message)
          | (c, .ok replies) => (c.pumpHeldCommand now).map id (Except.map fun held => replies ++ held)) =
          (c.credited credits).handleAgPayload now payload := by
        obtain ⟨lines, events, hspeaks⟩ := hstep
        have hpump := hspeaks.agree.pumpHeld hsettled now
        have hout := hspeaks.clientLines
        generalize (c.credited credits).handleAgPayload now payload = answer at hpump hout ⊢
        obtain ⟨d, out⟩ := answer
        subst hout
        simp [hpump, Except.map]
      rw [hheld]
      exact h.drained hstep' hsettled hcarried

lemma PumpsRun.callControl (h : PumpsRun dlci dlci' s c) (now : Instant) (command : HfpAtCommand) :
    PumpsRun dlci dlci' (serverPump s (.callControl now command)).1 (clientPump c (.callControl now command)).1 ∧
      SameOutput dlci dlci' (serverPump s (.callControl now command)).2
        (clientPump c (.callControl now command)).2 := by
  have hserver : s.buildCallControlCommand now command = (s.buildHfpCommandFrame now command).map id some := by
    simp [RfcommState.buildCallControlCommand, h.agree.serverOpen]
  have hclient : c.buildCallControlCommand now command = (c.buildAtFrame now command).map id Except.toOption := by
    simp [HfpClientState.buildCallControlCommand, h.agree.isOpen]
  have hstep := h.agree.speaks_command now command
  have hsettled : Settled (s.buildHfpCommandFrame now command).1 := by
    rw [buildHfpCommandFrame_eq]
    exact ⟨h.settled.idle, h.settled.failed, fun hready => h.settled.ready (by
      simpa [HfpHandsFreeState.ready_markCommandSent] using hready)⟩
  have hcarried : Carried (s.buildHfpCommandFrame now command).1.hfpLineCarry := by
    rw [lineCarry_buildHfpCommandFrame]
    exact h.carried
  have hdone := h.drained hstep hsettled hcarried
  simp only [serverPump, clientPump, hserver, hclient]
  rw [buildAtFrame_eq h.agree] at hdone ⊢
  exact hdone

lemma PumpsRun.step (h : PumpsRun dlci dlci' s c) (hdlci : DataDlci dlci) (hdlci' : DataDlci dlci')
    (input : PumpInput) (hinert : InputInert s input) :
    PumpsRun dlci dlci' (serverPump s input).1 (clientPump c input).1 ∧
      SameOutput dlci dlci' (serverPump s input).2 (clientPump c input).2 := by
  cases input with
  | agPayload now cr credits payload => exact h.agPayload hdlci hdlci' now cr credits payload hinert
  | callControl now command => exact h.callControl now command

lemma pumpsRun_opening {wbsSupported callWaiting : Bool} (hs : RfcommState.JustOpened s wbsSupported callWaiting)
    (hc : HfpClientState.JustOpened c wbsSupported callWaiting) (now : Instant) :
    PumpsRun s.hfpDlci c.client.targetDlci (serverOpening now s).1 (clientOpening now c).1 ∧
      SameOutput s.hfpDlci c.client.targetDlci (serverOpening now s).2 (clientOpening now c).2 := by
  let t := { s with mscAtKicked := true }
  let d := { c with pendingCommands :=
    HfpHandsFreeState.initialServiceLevelCommands c.wbsSupported c.hfpState.callWaitingEnabled }
  have htd : PumpsAgree t d := {
    hfpState := ⟨none, by simp only [t, d, hs.callState, hc.callState]; rfl⟩
    lineCarry := hc.lineCarry.trans hs.lineCarry.symm
    pending := by simp only [t, d, hs.pending, hc.wbs, hc.callState]; rfl
    inFlight := hc.inFlight.trans hs.inFlight.symm
    slcFailed := hc.slcFailed.trans hs.slcFailed.symm
    outstanding := hc.outstanding.trans hs.outstanding.symm
    wbsSupported := hc.wbs.trans hs.wbs.symm
    serverOpen := hs.isOpen
    clientOpen := hc.isOpen
    unlimited := hc.unlimited
    attached := hc.attached
    quiet := hc.quiet }
  have hqueue : sendable t = .supportedFeatures callWaiting ::
      (HfpHandsFreeState.initialServiceLevelCommands wbsSupported callWaiting).tail := by
    simp only [sendable, t, hs.pending]
    rfl
  have hkick : s.maybeKickAtSequence now = (t.nextHfpCommandFrame now).map id Option.toList := by
    simp [RfcommState.maybeKickAtSequence, hs.unkicked, hs.mscAnswered, hs.mscReceived, hs.isOpen, t]
  obtain ⟨hstep, hsettled⟩ := htd.next_cons now hqueue
  have hready : s.hfpState.serviceLevelReady = false := by
    rw [hs.callState]
    rfl
  have hfailed : (t.nextHfpCommandFrame now).1.hfpSlcFailed = false := by
    rw [nextHfpCommandFrame_cons now hqueue]
    exact hs.slcFailed
  have hcarried : Carried (t.nextHfpCommandFrame now).1.hfpLineCarry := by
    rw [lineCarry_nextHfpCommandFrame]
    simp only [t, hs.lineCarry]
    exact ⟨by simp, by simp⟩
  simp only [serverOpening, clientOpening, hkick]
  exact InStep.drained (s := t) (c := d) hstep rfl rfl hs.events hc.events (hsettled hfailed hready) hcarried

lemma dataDlci_serverChannelDlci (serverChannel : UInt8) : DataDlci (serverChannelDlci serverChannel true) := by
  revert serverChannel
  exact byte_forall (by decide)

/-- From the opening of the channel on, both pumps say the same lines and raise the same events, step for step,
as long as no refusal makes the server send a command again. -/
theorem pumps_say_the_same {wbsSupported callWaiting : Bool} {s : RfcommState} {c : HfpClientState}
    (hs : RfcommState.JustOpened s wbsSupported callWaiting)
    (hc : HfpClientState.JustOpened c wbsSupported callWaiting) (now : Instant) (inputs : List PumpInput)
    (hinert : serverPump.Along InputInert (serverOpening now s).1 inputs) :
    List.Forall₂ (SameOutput s.hfpDlci c.client.targetDlci)
      ((serverOpening now s).2 :: serverPump.outputs (serverOpening now s).1 inputs)
      ((clientOpening now c).2 :: clientPump.outputs (clientOpening now c).1 inputs) := by
  have hdlci : DataDlci s.hfpDlci := by
    rw [hs.dlci]
    decide
  have hdlci' : DataDlci c.client.targetDlci := by
    obtain ⟨serverChannel, hchannel⟩ := hc.dlci
    rw [hchannel]
    exact dataDlci_serverChannelDlci serverChannel
  obtain ⟨hrun, hfirst⟩ := pumpsRun_opening hs hc now
  refine .cons hfirst (Machine.outputs_forall₂ ?_ hinert hrun)
  intro s c input hinert hrun
  exact hrun.step hdlci hdlci' input hinert

section Session

/-- A new responder whose peer went through SABM and MSC on the hands-free channel. -/
def openedServer : RfcommState :=
  let s := (RfcommState.new.handlePacket 0 (buildSabm dlciMultiplexer true)).1
  let s := (s.handlePacket 0 (buildSabm aokieHfpDlci true)).1
  let s := (s.handlePacket 0 (buildUih dlciMultiplexer true none (buildModemStatusResponse aokieHfpDlci 0x8d))).1
  (s.onMuxCommand (.modemStatus false aokieHfpDlci 0x8d)).1

/-- A new initiator whose peer answered SABM, PN and MSC on the primary channel. -/
def openedClient : HfpClientState :=
  let c := ((HfpClientState.new 1 false false).kickoff 0).1
  let c := (c.handlePacket 0 (buildUa dlciMultiplexer true)).1
  let c := (c.handlePacket 0 (buildUih dlciMultiplexer false none (buildParameterNegotiationResponse 3 7 127 7))).1
  let c := (c.handlePacket 0 (buildUa 3 true)).1
  let c := (c.handlePacket 0 (buildUih dlciMultiplexer false none (buildModemStatusResponse 3 0x8d))).1
  let client := (c.client.handlePacket (buildUih dlciMultiplexer false none (buildModemStatusCommand 3 0x8d))).1
  { c with client := client.takeEvents.1 }

set_option maxRecDepth 8000 in
lemma openedServer_justOpened : RfcommState.JustOpened openedServer false false := by
  constructor <;> decide

set_option maxRecDepth 8000 in
lemma openedClient_justOpened : HfpClientState.JustOpened openedClient false false where
  dlci := ⟨1, by decide⟩
  isOpen := by decide
  unlimited := by decide
  quiet := by decide
  attached := by decide
  callState := by decide
  lineCarry := by decide
  inFlight := by decide
  slcFailed := by decide
  outstanding := by decide
  events := by decide
  wbs := by decide

def agText (text : String) : PumpInput :=
  .agPayload 0 false none ⟨(intoBytes text).take 32767, List.length_take_le _ _⟩

def answeredCall : List PumpInput :=
  [agText "+BRSF: 0\r\nOK\r\n", agText "+CIND: (\"call\",(0,1)),(\"callsetup\",(0-3))\r\nOK\r\n",
    agText "+CIND: 0,0\r\nOK\r\n", agText "OK\r\n", agText "OK\r\n", agText "OK\r\n", agText "+CIEV: 2,1\r\n",
    .callControl 0 .answer]

set_option maxRecDepth 8000 in
theorem pumps_say_the_same_answered :
    List.Forall₂ (SameOutput openedServer.hfpDlci openedClient.client.targetDlci)
      ((serverOpening 0 openedServer).2 ::
        serverPump.outputs (serverOpening 0 openedServer).1 (answeredCall ++ [agText "OK\r\n"]))
      ((clientOpening 0 openedClient).2 ::
        clientPump.outputs (clientOpening 0 openedClient).1 (answeredCall ++ [agText "OK\r\n"])) :=
  pumps_say_the_same openedServer_justOpened openedClient_justOpened 0 _ (by decide)

def PumpOutput.frameCount (out : PumpOutput) : ℕ := (out.1.toOption.getD []).length

lemma frameCount_eq_of_sameOutput {outs outs' : List PumpOutput}
    (h : List.Forall₂ (SameOutput dlci dlci') outs outs') :
    outs.map PumpOutput.frameCount = outs'.map PumpOutput.frameCount := by
  induction h with
  | nil => rfl
  | cons hout _ ih =>
      rw [List.map_cons, List.map_cons, ih]
      obtain ⟨⟨lines, hserver, hclient⟩ | ⟨message, hserver, hclient⟩, _⟩ := hout
      · simp [PumpOutput.frameCount, hserver, hclient, Except.toOption]
      · simp [PumpOutput.frameCount, hserver, hclient]

set_option maxRecDepth 8000 in
/-- The phone refuses the answer: the server asks once more, the client gives the call up. -/
theorem refused_answer_sent_again_by_server_only :
    RfcommState.JustOpened openedServer false false ∧ HfpClientState.JustOpened openedClient false false ∧
    ¬List.Forall₂ (SameOutput openedServer.hfpDlci openedClient.client.targetDlci)
      ((serverOpening 0 openedServer).2 ::
        serverPump.outputs (serverOpening 0 openedServer).1 (answeredCall ++ [agText "ERROR\r\n"]))
      ((clientOpening 0 openedClient).2 ::
        clientPump.outputs (clientOpening 0 openedClient).1 (answeredCall ++ [agText "ERROR\r\n"])) := by
  refine ⟨openedServer_justOpened, openedClient_justOpened, fun h => ?_⟩
  exact absurd (frameCount_eq_of_sameOutput h) (by decide)

end Session

end Aokie.Radio
