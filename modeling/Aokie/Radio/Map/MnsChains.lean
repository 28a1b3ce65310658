import Aokie.Radio.Map.Mns

/-! Which PUT packets a notification is made of. -/

namespace Aokie.Radio.Map

open Aokie.Lib Aokie.Radio.Obex

inductive MnsOp
  | request (now : Instant) (packet : Packet)
  | receive (bytes : Bytes)
  | pump (now : Instant)
  | reset
  | expire (now : Instant)
  | takeEvents

def MnsServer.step (s : MnsServer) : MnsOp → MnsServer
  | .request now packet => (s.handleRequest now packet).1
  | .receive bytes => s.receive bytes
  | .pump now => (s.pump now).1
  | .reset => s.reset
  | .expire now => (s.expireStalePut now).1
  | .takeEvents => s.takeEvents.1

namespace MnsServer

variable (s : MnsServer) (now : Instant)

lemma handlePut_obexBuffer (packet : Packet) (isFinal : Bool) :
    (s.handlePut now packet isFinal).1.obexBuffer = s.obexBuffer := by
  have hexpired : (s.expireStalePut now).1.obexBuffer = s.obexBuffer := by
    simp only [expireStalePut]
    split_ifs <;> rfl
  simp only [handlePut, assemblePut, finishPut]
  split_ifs
  · rfl
  · exact hexpired
  · exact hexpired
  · rcases (s.expireStalePut now).1.body.push packet with ⟨body, reason | complete⟩ <;> exact hexpired
  · rcases (s.expireStalePut now).1.body.push packet with ⟨body, reason | complete⟩ <;> exact hexpired

lemma handleRequest_obexBuffer (packet : Packet) : (s.handleRequest now packet).1.obexBuffer = s.obexBuffer := by
  simp only [handleRequest]
  split_ifs
  · simp only [handleConnect]
    split_ifs <;> rfl
  · rfl
  · exact s.handlePut_obexBuffer now packet _
  · rfl

lemma three_le_of_tryTake {buffer : Bytes} {take : ℕ} (h : tryTakeObexPacket buffer = .ok (some take)) :
    3 ≤ take ∧ take ≤ buffer.length := by
  simp only [tryTakeObexPacket] at h
  split_ifs at h <;> simp only [Except.ok.injEq, Option.some.injEq, reduceCtorEq] at h
  omega

lemma length_pump_lt (h : (s.pump now).2.2 = true) : (s.pump now).1.obexBuffer.length < s.obexBuffer.length := by
  rcases htake : tryTakeObexPacket s.obexBuffer with reason | _ | take
  · simp [pump, htake] at h
  · simp [pump, htake] at h
  · have hlen := three_le_of_tryTake htake
    rcases hparse : Packet.parse (s.obexBuffer.take take) (requestFixed (s.obexBuffer.take take)) with reason | parsed
    · simp [pump, htake, hparse] at h
    · simp only [pump, htake, hparse, Prod.map_fst, id_eq, handleRequest_obexBuffer, List.length_drop]
      omega

lemma pumpAll_eq_steps (fuel : ℕ) :
    ∃ rounds, (pumpAll now fuel s).1 = (List.replicate rounds (MnsOp.pump now)).foldl step s := by
  induction fuel generalizing s with
  | zero => exact ⟨0, rfl⟩
  | succ fuel ih =>
      rcases hpump : s.pump now with ⟨t, replies, _ | _⟩
      · exact ⟨1, by simp [pumpAll, step, hpump]⟩
      · obtain ⟨rounds, hrounds⟩ := ih t
        refine ⟨rounds + 1, ?_⟩
        simp [pumpAll, List.replicate_succ, step, hpump, hrounds]

/-- `feed_bytes` is bytes received and then rounds of its loop. -/
theorem feedBytes_eq_steps (bytes : Bytes) :
    ∃ rounds, (s.feedBytes now bytes).1 = (.receive bytes :: List.replicate rounds (MnsOp.pump now)).foldl step s :=
  (s.receive bytes).pumpAll_eq_steps now _

end MnsServer

/-- The PUTs accepted since the open chain's first packet, and the chains whose events wait to be taken. -/
structure PutLog where
  chain : List Packet := []
  completed : List (List Packet) := []
  deriving DecidableEq, Repr

namespace PutLog

variable (log : PutLog) (s : MnsServer)

def cut : PutLog := { log with chain := [] }

def put (packet : Packet) (reply : Bytes) : PutLog :=
  if reply = buildSimpleResponse rspContinue then { log with chain := log.chain ++ [packet] }
  else if reply = buildSimpleResponse rspOk then ⟨[], log.completed ++ [log.chain ++ [packet]]⟩
  else log.cut

def expire (now : Instant) : PutLog := if s.putIsStale now then log.cut else log

-- a request that the server does not know changes no state, so it leaves the chain alone too
def request (now : Instant) (packet : Packet) : PutLog :=
  let opcode := packet.opcode &&& 0x7f
  if opcode = opPut then (log.expire s now).put packet (s.handleRequest now packet).2
  else if opcode = opConnect &&& 0x7f ∨ opcode = opDisconnect &&& 0x7f then log.cut
  else log

def pump (now : Instant) : PutLog :=
  match tryTakeObexPacket s.obexBuffer with
  | .ok none => log
  | .error _ => log.cut
  | .ok (some take) =>
    match Packet.parse (s.obexBuffer.take take) (MnsServer.requestFixed (s.obexBuffer.take take)) with
    | .error _ => log.cut
    | .ok parsed => log.request { s with obexBuffer := s.obexBuffer.drop take } now parsed

def step : MnsOp → PutLog
  | .request now packet => log.request s now packet
  | .receive _ => log
  | .pump now => log.pump s now
  | .reset => log.cut
  | .expire now => log.expire s now
  | .takeEvents => { log with completed := [] }

def events : List MnsEvent := log.completed.map fun chain => parseEventReport (chain.flatMap Packet.bodyBytes)

end PutLog

def mnsRun : Machine (MnsServer × PutLog) MnsOp Unit := fun r op => ((r.1.step op, r.2.step r.1 op), ())

namespace MnsServer

def Abandons (s : MnsServer) (now : Instant) (packet : Packet) : Prop :=
  let opcode := packet.opcode &&& 0x7f
  opcode = opConnect &&& 0x7f ∨ opcode = opDisconnect &&& 0x7f ∨
    opcode = opPut ∧ s.putIsStale now = false ∧ requestConnectionId packet ≠ s.connectionId

def Spares (s : MnsServer) : MnsOp → Prop
  | .request now packet => s.Abandons now packet → s.body.bytes = []
  | .pump now =>
    match tryTakeObexPacket s.obexBuffer with
    | .ok (some take) =>
      match Packet.parse (s.obexBuffer.take take) (requestFixed (s.obexBuffer.take take)) with
      | .error _ => s.body.bytes = []
      | .ok parsed => s.Abandons now parsed → s.body.bytes = []
    | _ => True
  | _ => True

instance (s : MnsServer) (now : Instant) (packet : Packet) : Decidable (s.Abandons now packet) :=
  inferInstanceAs (Decidable (_ ∨ _ ∨ _))

end MnsServer

end Aokie.Radio.Map

namespace Aokie.Radio.Obex.BodyAssembler

open Aokie.Lib

lemma pushHeaders_bytes {b b' : BodyAssembler} {headers : List Header} (h : b.pushHeaders headers = (b', .ok ())) :
    b'.bytes = b.bytes ++ (headers.filterMap Header.bodyChunk).flatten := by
  induction headers generalizing b with
  | nil =>
      simp only [pushHeaders, Prod.mk.injEq] at h
      simp [h.1]
  | cons header headers ih =>
      rw [pushHeaders] at h
      cases hchunk : header.bodyChunk with
      | none =>
          simp only [hchunk] at h
          simp [hchunk, ih h]
      | some chunk =>
          simp only [hchunk] at h
          cases hlimit : b.overLimit chunk with
          | some limit => simp [hlimit] at h
          | none =>
              simp only [hlimit] at h
              simp [hchunk, ih h]

lemma push_bytes {b b' : BodyAssembler} {packet : Packet} {complete : Bool}
    (h : b.push packet = (b', .ok complete)) : b'.bytes = b.bytes ++ packet.bodyBytes := by
  simp only [push] at h
  split_ifs at h
  · simp at h
  · split at h
    · simp at h
    · next b'' hpush =>
        simp only [Prod.mk.injEq] at h
        obtain ⟨rfl, -⟩ := h
        exact pushHeaders_bytes hpush

end Aokie.Radio.Obex.BodyAssembler

namespace Aokie.Radio.Map

open Aokie.Lib Aokie.Radio.Obex

structure ChainInv (s : MnsServer) (log : PutLog) : Prop where
  bytes : s.body.bytes = log.chain.flatMap Packet.bodyBytes
  assembling : s.state = .assemblingPut ∨ log.chain = []
  events : s.pendingEvents = log.events

variable {s : MnsServer} {log : PutLog} {now : Instant} {packet : Packet}

lemma ChainInv.cut (h : ChainInv s log) {t : MnsServer} (hbytes : t.body.bytes = [])
    (hevents : t.pendingEvents = s.pendingEvents) : ChainInv t log.cut := by
  refine ⟨?_, .inr rfl, ?_⟩
  · rw [hbytes]
    rfl
  · rw [hevents, h.events]
    rfl

lemma ChainInv.expireStalePut (h : ChainInv s log) (now : Instant) :
    ChainInv (s.expireStalePut now).1 (log.expire s now) := by
  simp only [MnsServer.expireStalePut, PutLog.expire]
  split_ifs
  · exact h.cut rfl rfl
  · exact h

lemma ChainInv.assemblePut (isFinal : Bool) (h : ChainInv s log) :
    ((s.assemblePut now packet isFinal).2 = buildSimpleResponse rspContinue ∧
      ChainInv (s.assemblePut now packet isFinal).1 { log with chain := log.chain ++ [packet] }) ∨
    ((s.assemblePut now packet isFinal).2 = buildSimpleResponse rspOk ∧
      ChainInv (s.assemblePut now packet isFinal).1 ⟨[], log.completed ++ [log.chain ++ [packet]]⟩) ∨
    ((s.assemblePut now packet isFinal).2 = buildSimpleResponse rspBadRequest ∧
      ChainInv (s.assemblePut now packet isFinal).1 log.cut) := by
  simp only [MnsServer.assemblePut]
  rcases hpush : s.body.push packet with ⟨body, reason | complete⟩
  · exact .inr (.inr ⟨rfl, h.cut rfl rfl⟩)
  · have hbytes : body.bytes = (log.chain ++ [packet]).flatMap Packet.bodyBytes := by
      rw [BodyAssembler.push_bytes hpush, h.bytes]
      simp
    cases isFinal with
    | false => exact .inl ⟨rfl, hbytes, .inl rfl, h.events⟩
    | true =>
        refine .inr (.inl ⟨rfl, rfl, .inr rfl, ?_⟩)
        simp only [Bool.not_true, Bool.false_eq_true, if_false, MnsServer.finishPut, PutLog.events, List.map_append,
          List.map_cons, List.map_nil, hbytes, h.events]

lemma handlePut_eq (isFinal : Bool) : s.handlePut now packet isFinal =
    if s.state ≠ .connected ∧ s.state ≠ .assemblingPut then (s, buildSimpleResponse rspServiceUnavailable)
    else if requestConnectionId packet ≠ (s.expireStalePut now).1.connectionId then
      ({ (s.expireStalePut now).1 with
          state := .failed ("PUT Connection-Id " ++ connectionIdDebug (requestConnectionId packet) ++
            " does not match issued " ++ connectionIdDebug (s.expireStalePut now).1.connectionId) },
        buildSimpleResponse rspBadRequest)
    else if (s.expireStalePut now).1.state = .connected ∧ !MnsServer.typeMatches packet then
      ((s.expireStalePut now).1, buildSimpleResponse rspNotFound)
    else (s.expireStalePut now).1.assemblePut now packet isFinal := rfl

lemma expireStalePut_of_not_stale (h : s.putIsStale now = false) : (s.expireStalePut now).1 = s := by
  simp [MnsServer.expireStalePut, h]

lemma ChainInv.bytes_eq_nil (h : ChainInv s log) (hs : s.state ≠ .assemblingPut) : s.body.bytes = [] := by
  rw [h.bytes, h.assembling.resolve_left hs]
  rfl

lemma buildSimpleResponse_injective : Function.Injective buildSimpleResponse := by
  intro code code' h
  exact (List.cons.inj h).1

lemma ChainInv.refused {t : MnsServer} (code : UInt8) (h : ChainInv s log) (hbytes : t.body.bytes = [])
    (hevents : t.pendingEvents = s.pendingEvents) (hcode : code ≠ rspContinue ∧ code ≠ rspOk) :
    ChainInv t (log.put packet (buildSimpleResponse code)) := by
  rw [PutLog.put, if_neg (buildSimpleResponse_injective.ne hcode.1), if_neg (buildSimpleResponse_injective.ne hcode.2)]
  exact h.cut hbytes hevents

lemma ChainInv.handlePut {isFinal : Bool} (h : ChainInv s log)
    (hspares : s.putIsStale now = false → requestConnectionId packet ≠ s.connectionId → s.body.bytes = []) :
    ChainInv (s.handlePut now packet isFinal).1
      ((log.expire s now).put packet (s.handlePut now packet isFinal).2) := by
  have hexpired := h.expireStalePut now
  rw [handlePut_eq]
  split_ifs with hstate hconn htype
  · have hstale : s.putIsStale now = false := by simp [MnsServer.putIsStale, hstate.2]
    rw [expireStalePut_of_not_stale hstale] at hexpired
    exact hexpired.refused rspServiceUnavailable (h.bytes_eq_nil hstate.2) rfl (by decide)
  · refine hexpired.refused rspBadRequest ?_ rfl (by decide)
    cases hstale : s.putIsStale now with
    | true => simp [MnsServer.expireStalePut, hstale, BodyAssembler.withLimit]
    | false =>
        rw [expireStalePut_of_not_stale hstale] at hconn
        simp only [expireStalePut_of_not_stale hstale]
        exact hspares hstale hconn
  · refine hexpired.refused rspNotFound ?_ rfl (by decide)
    apply hexpired.bytes_eq_nil
    rw [htype.1]
    decide
  · obtain ⟨hreply, hput⟩ | ⟨hreply, hput⟩ | ⟨hreply, hput⟩ :=
      ChainInv.assemblePut isFinal hexpired
    · rw [hreply, PutLog.put, if_pos rfl]
      exact hput
    · rw [hreply, PutLog.put, if_neg (by decide), if_pos rfl]
      exact hput
    · rw [hreply, PutLog.put, if_neg (by decide), if_neg (by decide)]
      exact hput

lemma handleConnect_body : (s.handleConnect packet).1.body = s.body := by
  simp only [MnsServer.handleConnect]
  split_ifs <;> rfl

lemma handleConnect_pendingEvents : (s.handleConnect packet).1.pendingEvents = s.pendingEvents := by
  simp only [MnsServer.handleConnect]
  split_ifs <;> rfl

lemma ChainInv.handleRequest (h : ChainInv s log) (hspares : s.Abandons now packet → s.body.bytes = []) :
    ChainInv (s.handleRequest now packet).1 (log.request s now packet) := by
  simp only [MnsServer.Abandons] at hspares
  by_cases hconnect : packet.opcode &&& 0x7f = opConnect &&& 0x7f
  · have hput : packet.opcode &&& 0x7f ≠ opPut := by rw [hconnect]; decide
    simp only [PutLog.request, MnsServer.handleRequest, if_pos hconnect, if_neg hput, if_pos (Or.inl hconnect)]
    apply h.cut _ handleConnect_pendingEvents
    rw [handleConnect_body]
    exact hspares (.inl hconnect)
  by_cases hdisconnect : packet.opcode &&& 0x7f = opDisconnect &&& 0x7f
  · have hput : packet.opcode &&& 0x7f ≠ opPut := by rw [hdisconnect]; decide
    simp only [PutLog.request, MnsServer.handleRequest, if_neg hconnect, if_pos hdisconnect, if_neg hput,
      if_pos (Or.inr hdisconnect)]
    exact h.cut (hspares (.inr (.inl hdisconnect))) rfl
  by_cases hput : packet.opcode &&& 0x7f = opPut
  · simp only [PutLog.request, MnsServer.handleRequest, if_neg hconnect, if_neg hdisconnect, if_pos hput]
    apply h.handlePut
    intro hstale hconn
    exact hspares (.inr (.inr ⟨hput, hstale, hconn⟩))
  · simp only [PutLog.request, MnsServer.handleRequest, if_neg hconnect, if_neg hdisconnect, if_neg hput,
      if_neg (not_or.mpr ⟨hconnect, hdisconnect⟩)]
    exact h

lemma ChainInv.withBuffer (h : ChainInv s log) (buffer : Bytes) : ChainInv { s with obexBuffer := buffer } log :=
  ⟨h.bytes, h.assembling, h.events⟩

lemma ChainInv.pump (h : ChainInv s log) (hspares : s.Spares (.pump now)) :
    ChainInv (s.pump now).1 (log.pump s now) := by
  simp only [MnsServer.Spares] at hspares
  simp only [MnsServer.pump, PutLog.pump]
  rcases htake : tryTakeObexPacket s.obexBuffer with reason | _ | take
  · exact h.cut rfl rfl
  · exact h
  · simp only [htake] at hspares ⊢
    rcases hparse : Packet.parse (s.obexBuffer.take take) (MnsServer.requestFixed (s.obexBuffer.take take)) with
      reason | parsed
    · simp only [hparse] at hspares ⊢
      exact h.cut hspares rfl
    · simp only [hparse] at hspares ⊢
      exact (h.withBuffer _).handleRequest hspares

lemma ChainInv.step {op : MnsOp} (h : ChainInv s log) (hspares : s.Spares op) :
    ChainInv (s.step op) (log.step s op) := by
  cases op with
  | request now packet => exact h.handleRequest hspares
  | receive bytes => exact h.withBuffer _
  | pump now => exact h.pump hspares
  | reset => exact h.cut rfl rfl
  | expire now => exact h.expireStalePut now
  | takeEvents => exact ⟨h.bytes, h.assembling, rfl⟩

theorem mns_events_are_whole_chains {ops : List MnsOp}
    (h : mnsRun.Along (fun r op => r.1.Spares op) (.new, {}) ops) :
    (mnsRun.final (.new, {}) ops).1.pendingEvents = (mnsRun.final (.new, {}) ops).2.events := by
  have hstart : ChainInv MnsServer.new {} := ⟨rfl, .inr rfl, rfl⟩
  have hfinal : ChainInv (mnsRun.final (.new, {}) ops).1 (mnsRun.final (.new, {}) ops).2 := by
    apply Machine.invariant (P := fun r => ChainInv r.1 r.2) _ h hstart
    intro r op hspares hr
    exact hr.step hspares
  exact hfinal.events

def mnsConnectPacket : Packet := ⟨opConnect, [], [.byteSeq hdrTarget mnsTargetUuid]⟩

/-- The first packet of a notification, which the phone says is not the last. -/
def mnsOpeningPacket : Packet :=
  ⟨opPut, [], [.quad hdrConnectionId assignedConnectionId, .byteSeq hdrType (intoBytes typeEventReport ++ [0]),
    .byteSeq hdrBody (intoBytes "<event type=\"NewMessage\" ")]⟩

def mnsClosingPacket : Packet :=
  ⟨opPutFinal, [], [.quad hdrConnectionId assignedConnectionId, .byteSeq hdrType (intoBytes typeEventReport ++ [0]),
    .byteSeq hdrEndOfBody (intoBytes "handle=\"A\"/>")]⟩

theorem mns_events_are_whole_chains_two_packets :
    (mnsRun.final (.new, {}) [.request 0 mnsConnectPacket, .request 0 mnsOpeningPacket,
      .request 0 mnsClosingPacket]).1.pendingEvents =
    (mnsRun.final (.new, {}) [.request 0 mnsConnectPacket, .request 0 mnsOpeningPacket,
      .request 0 mnsClosingPacket]).2.events ∧
    (mnsRun.final (.new, {}) [.request 0 mnsConnectPacket, .request 0 mnsOpeningPacket,
      .request 0 mnsClosingPacket]).1.pendingEvents = [.newMessage "A" none none] := by
  refine ⟨mns_events_are_whole_chains ?_, by decide⟩
  refine ⟨fun _ => rfl, ?_, ?_, trivial⟩
  · intro _
    rfl
  · intro h
    exact absurd h (by decide)

/-- A phone that connects again in the middle of a notification: its next one, which names no event of its own,
completes the first. -/
theorem mns_reconnect_leaks_the_open_chain :
    ¬ ∀ ops, (mnsRun.final (.new, {}) ops).1.pendingEvents = (mnsRun.final (.new, {}) ops).2.events := by
  intro h
  have hrun := h [.request 0 mnsConnectPacket, .request 0 mnsOpeningPacket, .request 0 mnsConnectPacket,
    .request 0 mnsClosingPacket]
  revert hrun
  decide

end Aokie.Radio.Map
