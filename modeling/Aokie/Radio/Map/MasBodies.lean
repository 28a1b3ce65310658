import Aokie.Lib.Run
import Aokie.Radio.Map.MasFolders

/-! The bodies that a MAS session gets: however the phone splits one, with or without single response mode, the
session puts out exactly that body, and asks for more just as long as it must. -/

namespace Aokie.Radio.Obex

open Aokie.Lib

def Header.endsBody (h : Header) : Bool := h.bodyChunk.isSome && h.id == hdrEndOfBody

namespace Packet

def confirmsSrm (p : Packet) : Bool :=
  match p.header hdrSrm with
  | some (.byte _ value) => value == 0x01
  | _ => false

def endsBody (p : Packet) : Bool := p.headers.any Header.endsBody

structure Continues (p : Packet) : Prop where
  opcode : p.opcode = rspContinue
  more : p.endsBody = false

structure Concludes (p : Packet) : Prop where
  opcode : p.opcode = rspOk
  ends : p.endsBody = true

end Packet

namespace BodyAssembler

variable {b : BodyAssembler} {limit : ℕ}

lemma pushHeaders_within (hlimit : b.limit = some limit) {headers : List Header}
    (h : b.bytes.length + ((headers.filterMap Header.bodyChunk).flatten).length ≤ limit) :
    b.pushHeaders headers =
      ({ b with
          bytes := b.bytes ++ (headers.filterMap Header.bodyChunk).flatten
          complete := b.complete || headers.any Header.endsBody }, .ok ()) := by
  induction headers generalizing b with
  | nil => simp [pushHeaders]
  | cons header headers ih =>
      rw [pushHeaders]
      cases hchunk : header.bodyChunk with
      | none =>
          rw [List.filterMap_cons_none hchunk] at h ⊢
          rw [ih hlimit h]
          simp [Header.endsBody, hchunk]
      | some chunk =>
          rw [List.filterMap_cons_some hchunk, List.flatten_cons, List.length_append] at h
          have hroom : b.overLimit chunk = none := by
            rw [overLimit, hlimit, Option.filter_some, if_neg]
            simp only [decide_eq_true_eq]
            omega
          simp only [hroom, List.filterMap_cons_some hchunk]
          refine (ih (b := { b with bytes := b.bytes ++ chunk, complete := _ }) hlimit ?_).trans ?_
          · rw [List.length_append]
            omega
          · simp [Header.endsBody, hchunk, Bool.or_assoc, beq_eq_decide]

lemma pushHeaders_over (hlimit : b.limit = some limit) (hheld : b.bytes.length ≤ limit) {headers : List Header}
    (h : limit < b.bytes.length + ((headers.filterMap Header.bodyChunk).flatten).length) :
    ∃ reason, (b.pushHeaders headers).2 = .error reason := by
  induction headers generalizing b with
  | nil =>
      simp only [List.filterMap_nil, List.flatten_nil, List.length_nil] at h
      omega
  | cons header headers ih =>
      rw [pushHeaders]
      cases hchunk : header.bodyChunk with
      | none =>
          rw [List.filterMap_cons_none hchunk] at h
          exact ih hlimit hheld h
      | some chunk =>
          rw [List.filterMap_cons_some hchunk, List.flatten_cons, List.length_append] at h
          by_cases hroom : b.bytes.length + chunk.length ≤ limit
          · have hnone : b.overLimit chunk = none := by
              rw [overLimit, hlimit, Option.filter_some, if_neg]
              simpa using hroom
            simp only [hnone]
            refine ih (b := { b with bytes := b.bytes ++ chunk, complete := _ }) hlimit ?_ ?_
            · rwa [List.length_append]
            · rw [List.length_append]
              omega
          · have hsome : b.overLimit chunk = some limit := by
              rw [overLimit, hlimit, Option.filter_some, if_pos]
              simpa using hroom
            simp only [hsome]
            exact ⟨_, rfl⟩

end BodyAssembler

end Aokie.Radio.Obex

namespace Aokie.Radio.Map

open Aokie.Lib Aokie.Radio.Obex

def Operation.outputOf (body : Bytes) : Operation → Option OperationOutput
  | .listMessages _ _ _ => some (.listing body)
  | .getMessage _ _ _ => some (.message body)
  | .pushMessage _ _ _ | .setNotificationRegistration _ => none

def MasOp.packet : MasOp → Option Packet
  | .response packet => some packet
  | _ => none

lemma MasOp.eq_response {op : MasOp} {p : Packet} (h : op.packet = some p) : op = .response p := by
  cases op with
  | response packet => exact congrArg MasOp.response (Option.some.inj h)
  | _ => cases h

/-- How many responses come before the one that turns single response mode on. -/
def unconfirmed (responses : List Packet) : ℕ := (responses.takeWhile fun p => !p.confirmsSrm).length

namespace MasMceSession

structure Fresh (s : MasMceSession) : Prop where
  body : s.body = .withLimit messageBodyLimit
  output : s.output = .pending
  srmActive : s.srmActive = false

/-- A GET for this operation is under way, with this much of the body. -/
structure Getting (s : MasMceSession) (operation : Operation) (conn : UInt32) (sofar : Bytes) (srm : Bool) : Prop where
  state : s.state = .awaitingFirstGet ∨ s.state = .awaitingContinuation
  operation : s.operation = operation
  connectionId : s.connectionId = some conn
  body : s.body = ⟨sofar, false, some messageBodyLimit⟩
  output : s.output = .pending
  srmActive : s.srmActive = srm

structure GaveUp (s : MasMceSession) : Prop where
  state : ∃ reason, s.state = .failed reason
  output : s.output = .pending

variable {s : MasMceSession}

lemma observeSrm_eq (response : Packet) :
    s.observeSrm response = { s with srmActive := s.srmActive || response.confirmsSrm } := by
  rw [observeSrm]
  cases hsrm : s.srmActive with
  | true =>
      rw [if_pos rfl, Bool.true_or, ← hsrm]
  | false =>
      rw [if_neg (by decide), Bool.false_or, Packet.confirmsSrm]
      cases response.header hdrSrm with
      | none => simp only [← hsrm]
      | some header =>
          cases header with
          | byte id value =>
              by_cases hvalue : value = 0x01
              · simp only [hvalue, if_true, beq_self_eq_true]
              · simp only [if_neg hvalue, beq_false_of_ne hvalue, ← hsrm]
          | _ => simp only [← hsrm]

section Responses

variable {operation : Operation} {conn : UInt32} {sofar : Bytes} {srm : Bool} {response : Packet}

lemma Getting.advance (h : s.Getting operation conn sofar srm) : s.advance response = s.got response := by
  rw [MasMceSession.advance]
  obtain hstate | hstate := h.state <;> rw [hstate]

lemma Getting.push (h : s.Getting operation conn sofar srm)
    (hroom : sofar.length + response.bodyBytes.length ≤ messageBodyLimit) :
    s.body.push response =
      (⟨sofar ++ response.bodyBytes, response.endsBody, some messageBodyLimit⟩, .ok response.endsBody) := by
  rw [h.body, BodyAssembler.push, if_neg Bool.false_ne_true, BodyAssembler.pushHeaders_within rfl hroom]
  rfl

lemma Getting.push_over (h : s.Getting operation conn sofar srm) (hheld : sofar.length ≤ messageBodyLimit)
    (hover : messageBodyLimit < sofar.length + response.bodyBytes.length) :
    ∃ body reason, s.body.push response = (body, .error reason) := by
  obtain ⟨reason, hreason⟩ := BodyAssembler.pushHeaders_over
      (b := ⟨sofar, false, some messageBodyLimit⟩) rfl hheld hover
  rw [h.body, BodyAssembler.push, if_neg Bool.false_ne_true]
  generalize BodyAssembler.pushHeaders _ _ = r at hreason
  obtain ⟨body, outcome⟩ := r
  obtain rfl : outcome = .error reason := hreason
  exact ⟨body, reason, rfl⟩

lemma Getting.continues (h : s.Getting operation conn sofar srm) (hresponse : response.Continues)
    (hroom : sofar.length + response.bodyBytes.length ≤ messageBodyLimit) :
    (s.handleResponse response).1.Getting operation conn (sofar ++ response.bodyBytes) (srm || response.confirmsSrm) ∧
      (s.handleResponse response).2 =
        if srm || response.confirmsSrm then none else some (buildGetContinuation conn) := by
  have hgot : s.got response =
      ({ s with
          state := .awaitingContinuation
          body := ⟨sofar ++ response.bodyBytes, false, some messageBodyLimit⟩
          srmActive := srm || response.confirmsSrm },
        .ok (if srm || response.confirmsSrm then none else some (buildGetContinuation conn))) := by
    simp only [got, observeSrm_eq, hresponse.opcode, if_true, h.push hroom, hresponse.more, withConnectionId,
      requiredConnectionId, h.connectionId, h.srmActive]
  rw [handleResponse, h.advance, hgot]
  exact ⟨⟨Or.inr rfl, h.operation, h.connectionId, rfl, h.output, rfl⟩, rfl⟩

lemma Getting.gives_up (h : s.Getting operation conn sofar srm)
    (hresponse : response.opcode = rspContinue ∨ response.opcode = rspOk) (hheld : sofar.length ≤ messageBodyLimit)
    (hover : messageBodyLimit < sofar.length + response.bodyBytes.length) : (s.handleResponse response).1.GaveUp := by
  obtain ⟨body, reason, hpush⟩ := h.push_over hheld hover
  rw [handleResponse, h.advance, got]
  simp only [observeSrm_eq, hpush]
  obtain hopcode | hopcode := hresponse <;> rw [hopcode]
  · exact ⟨⟨reason, rfl⟩, h.output⟩
  · exact ⟨⟨reason, rfl⟩, h.output⟩

lemma Getting.concludes (h : s.Getting operation conn sofar srm) (hresponse : response.Concludes)
    (hroom : sofar.length + response.bodyBytes.length ≤ messageBodyLimit) {output : OperationOutput}
    (houtput : operation.outputOf (sofar ++ response.bodyBytes) = some output) :
    (s.handleResponse response).1.output = output ∧
      (if s.keepAlive then (s.handleResponse response).1.state = .resting ∧ (s.handleResponse response).2 = none
        else (s.handleResponse response).1.state = .awaitingDisconnect ∧
          (s.handleResponse response).2 = some (buildDisconnect (some conn))) := by
  have hgot : s.got response = ({ s with
      body := ⟨sofar ++ response.bodyBytes, true, some messageBodyLimit⟩
      srmActive := srm || response.confirmsSrm } : MasMceSession).received := by
    have hne : ¬rspOk = rspContinue := by decide
    simp only [got, observeSrm_eq, hresponse.opcode, if_true, h.push hroom, hresponse.ends, h.srmActive, if_neg hne,
      Bool.not_true, Bool.false_eq_true, if_false]
  have hreceived : (s.got response) = ({ s with
      body := ⟨sofar ++ response.bodyBytes, true, some messageBodyLimit⟩
      srmActive := srm || response.confirmsSrm
      output := output } : MasMceSession).finalizeOpOrDisconnect := by
    rw [hgot, received]
    simp only [h.operation]
    cases operation <;> simp_all [Operation.outputOf]
  rw [handleResponse, h.advance, hreceived, finalizeOpOrDisconnect]
  cases s.keepAlive with
  | true => exact ⟨rfl, rfl, rfl⟩
  | false =>
      simp only [withConnectionId, requiredConnectionId, h.connectionId, Bool.false_eq_true, if_false]
      exact ⟨trivial, trivial, trivial⟩

lemma Getting.quiet (h : s.Getting operation conn sofar srm) {op : MasOp} (hop : op.packet = none) :
    (s.step op).1.Getting operation conn sofar srm ∧ (s.step op).2 = none := by
  have hrest : s.state ≠ .resting := by
    obtain hstate | hstate := h.state <;> rw [hstate] <;> decide
  cases op with
  | response packet => exact absurd hop (by simp [MasOp.packet])
  | nextRequest =>
      obtain hstate | hstate := h.state <;> simp only [step, nextRequest, hstate] <;> exact ⟨h, trivial⟩
  | startNextOp operation =>
      simp only [step, startNextOp, if_pos hrest]
      exact ⟨h, rfl⟩
  | requestDisconnect =>
      simp only [step, requestDisconnect, if_pos hrest]
      exact ⟨h, rfl⟩
  | setKeepAlive keepAlive => exact ⟨⟨h.state, h.operation, h.connectionId, h.body, h.output, h.srmActive⟩, rfl⟩

lemma GaveUp.step (h : s.GaveUp) (op : MasOp) : (s.step op).1.GaveUp := by
  obtain ⟨reason, hstate⟩ := h.state
  have hrest : s.state ≠ .resting := by simp [hstate]
  cases op with
  | nextRequest =>
      simp only [MasMceSession.step, nextRequest, hstate]
      exact h
  | response packet =>
      simp only [MasMceSession.step, handleResponse, advance, hstate]
      exact ⟨⟨_, rfl⟩, h.output⟩
  | startNextOp operation =>
      simp only [MasMceSession.step, startNextOp, if_pos hrest]
      exact h
  | requestDisconnect =>
      simp only [MasMceSession.step, requestDisconnect, if_pos hrest]
      exact h
  | setKeepAlive keepAlive => exact ⟨⟨reason, hstate⟩, h.output⟩

end Responses

section Runs

variable {operation : Operation} {conn : UInt32} {sofar : Bytes} {srm : Bool}

lemma Getting.final (h : s.Getting operation conn sofar srm) {ops : List MasOp}
    (hops : ∀ p ∈ ops.filterMap MasOp.packet, p.Continues)
    (hroom : sofar.length + ((ops.filterMap MasOp.packet).flatMap Packet.bodyBytes).length ≤ messageBodyLimit) :
    (Machine.final MasMceSession.step s ops).Getting operation conn
        (sofar ++ (ops.filterMap MasOp.packet).flatMap Packet.bodyBytes)
        (srm || (ops.filterMap MasOp.packet).any Packet.confirmsSrm) ∧
      (Machine.outputs MasMceSession.step s ops).reduceOption =
        List.replicate (if srm then 0 else unconfirmed (ops.filterMap MasOp.packet)) (buildGetContinuation conn) := by
  induction ops generalizing s sofar srm with
  | nil =>
      refine ⟨?_, ?_⟩
      · simpa using h
      · cases srm <;> rfl
  | cons op ops ih =>
      cases hop : op.packet with
      | none =>
          rw [List.filterMap_cons_none hop] at hops hroom ⊢
          obtain ⟨hnext, hsilent⟩ := h.quiet hop
          rw [Machine.final_cons, Machine.outputs_cons, hsilent, List.reduceOption_cons_of_none]
          exact ih hnext hops hroom
      | some p =>
          obtain rfl := MasOp.eq_response hop
          rw [List.filterMap_cons_some hop] at hops hroom ⊢
          rw [List.flatMap_cons, List.length_append] at hroom
          obtain ⟨hp, hrest⟩ := List.forall_mem_cons.mp hops
          obtain ⟨hnext, hsent⟩ := h.continues hp (by omega)
          obtain ⟨hfinal, houtputs⟩ := ih hnext hrest (by rw [List.length_append]; omega)
          rw [Machine.final_cons, Machine.outputs_cons]
          refine ⟨?_, ?_⟩
          · rw [List.flatMap_cons, List.any_cons, ← List.append_assoc, ← Bool.or_assoc]
            exact hfinal
          · change ((s.handleResponse p).2 :: _).reduceOption = _
            rw [hsent]
            cases srm with
            | true =>
                simp only [Bool.true_or, if_true] at houtputs ⊢
                rw [List.reduceOption_cons_of_none]
                exact houtputs
            | false =>
                cases hconfirm : p.confirmsSrm with
                | true =>
                    simp only [hconfirm, Bool.or_true, if_true] at houtputs ⊢
                    rw [List.reduceOption_cons_of_none, unconfirmed, List.takeWhile_cons_of_neg (by simp [hconfirm])]
                    exact houtputs
                | false =>
                    simp only [hconfirm, Bool.or_false, Bool.false_eq_true, if_false] at houtputs ⊢
                    rw [List.reduceOption_cons_of_some, unconfirmed, List.takeWhile_cons_of_pos (by simp [hconfirm]),
                      List.length_cons, List.replicate_succ]
                    exact congrArg (_ :: ·) houtputs

lemma GaveUp.final (h : s.GaveUp) (ops : List MasOp) : (Machine.final MasMceSession.step s ops).GaveUp :=
  Machine.always (fun _ op h => h.step op) h ops

lemma Getting.gives_up_within (h : s.Getting operation conn sofar srm) (hheld : sofar.length ≤ messageBodyLimit)
    {ops : List MasOp} (hops : ∀ p ∈ ops.filterMap MasOp.packet, p.opcode = rspContinue ∨ p.opcode = rspOk)
    (hopen : ∀ p ∈ (ops.filterMap MasOp.packet).dropLast, p.Continues)
    (hover : messageBodyLimit < sofar.length + ((ops.filterMap MasOp.packet).flatMap Packet.bodyBytes).length) :
    (Machine.final MasMceSession.step s ops).GaveUp := by
  induction ops generalizing s sofar srm with
  | nil =>
      simp only [List.filterMap_nil, List.flatMap_nil, List.length_nil] at hover
      omega
  | cons op ops ih =>
      cases hop : op.packet with
      | none =>
          rw [List.filterMap_cons_none hop] at hops hopen hover
          exact ih (h.quiet hop).1 hheld hops hopen hover
      | some p =>
          obtain rfl := MasOp.eq_response hop
          rw [List.filterMap_cons_some hop] at hops hopen hover
          rw [List.flatMap_cons, List.length_append] at hover
          obtain ⟨hp, hrest⟩ := List.forall_mem_cons.mp hops
          by_cases hroom : sofar.length + p.bodyBytes.length ≤ messageBodyLimit
          · have hmore : ops.filterMap MasOp.packet ≠ [] := by
              intro hnone
              rw [hnone, List.flatMap_nil, List.length_nil] at hover
              omega
            rw [List.dropLast_cons_of_ne_nil hmore] at hopen
            obtain ⟨hcontinues, hopen⟩ := List.forall_mem_cons.mp hopen
            refine ih (h.continues hcontinues hroom).1 (by rwa [List.length_append]) hrest hopen ?_
            rw [List.length_append]
            omega
          · exact (h.gives_up hp hheld (Nat.lt_of_not_le hroom)).final ops

/-- Where the session is before the first response to a GET, nothing of a body is there, and where it is to send one it
knows the connection. -/
def Ready (s : MasMceSession) : Prop :=
  match s.state with
  | .idle | .awaitingConnect | .awaitingSetPath _ _ => s.Fresh
  | .awaitingFirstGet => s.Fresh ∧ (∃ conn, s.connectionId = some conn) ∧ ∀ body, (s.operation.outputOf body).isSome
  | _ => True

lemma ready_startOperation {conn : UInt32} (h : s.Fresh) (hconn : s.connectionId = some conn) :
    (s.startOperation conn).1.Ready := by
  simp only [startOperation]
  split
  · exact ⟨⟨h.body, h.output, h.srmActive⟩, ⟨conn, hconn⟩, fun _ => by simp_all [Operation.outputOf]⟩
  · exact ⟨⟨h.body, h.output, h.srmActive⟩, ⟨conn, hconn⟩, fun _ => by simp_all [Operation.outputOf]⟩
  · exact trivial
  · exact trivial

lemma ready_navigateTo {conn : UInt32} (h : s.Fresh) (hconn : s.connectionId = some conn) (target : List String) :
    (s.navigateTo conn target).1.Ready := by
  rw [navigateTo]
  split
  · exact ready_startOperation h hconn
  · exact ⟨h.body, h.output, h.srmActive⟩

lemma ready_connected (h : s.Fresh) {response : Packet} {next : Option Bytes}
    (hnext : (s.connected response).2 = .ok next) : (s.connected response).1.Ready := by
  simp only [connected] at hnext ⊢
  split at hnext
  · cases hnext
  · split at hnext
    · rename_i conn _
      exact ready_navigateTo (s := { s with connectionId := some conn, currentFolder := [] })
        ⟨h.body, h.output, h.srmActive⟩ rfl _
    · cases hnext

lemma ready_moved (h : s.Fresh) {last : SetPathStep} {remaining : List SetPathStep} {response : Packet}
    {next : Option Bytes} (hnext : (s.moved last remaining response).2 = .ok next) :
    (s.moved last remaining response).1.Ready := by
  simp only [moved, withConnectionId, requiredConnectionId] at hnext ⊢
  split at hnext
  · cases hnext
  · cases hconn : s.connectionId with
    | none => simp [hconn] at hnext
    | some conn =>
        cases remaining with
        | nil => exact ready_startOperation ⟨h.body, h.output, h.srmActive⟩ rfl
        | cons step remaining => exact ⟨h.body, h.output, h.srmActive⟩

def Past (s : MasMceSession) : Prop :=
  s.state = .awaitingContinuation ∨ s.state = .resting ∨ s.state = .awaitingDisconnect ∨ s.state = .done

lemma Past.ready (h : s.Past) : s.Ready := by
  obtain h | h | h | h := h <;> simp only [Ready, h]

lemma past_finalizeOpOrDisconnect {next : Option Bytes} (hnext : s.finalizeOpOrDisconnect.2 = .ok next) :
    s.finalizeOpOrDisconnect.1.Past := by
  simp only [finalizeOpOrDisconnect, withConnectionId] at hnext ⊢
  split_ifs at hnext ⊢
  · exact Or.inr (Or.inl rfl)
  · split at hnext
    · cases hnext
    · exact Or.inr (Or.inr (Or.inl rfl))

lemma past_received {next : Option Bytes} (hnext : s.received.2 = .ok next) : s.received.1.Past := by
  simp only [received] at hnext ⊢
  split at hnext
  · exact past_finalizeOpOrDisconnect hnext
  · exact past_finalizeOpOrDisconnect hnext
  · cases hnext
  · cases hnext

lemma past_got {response : Packet} {next : Option Bytes} (hnext : (s.got response).2 = .ok next) :
    (s.got response).1.Past := by
  simp only [got] at hnext ⊢
  by_cases hcontinue : response.opcode = rspContinue
  · simp only [if_pos hcontinue] at hnext ⊢
    split at hnext
    · cases hnext
    · simp only [withConnectionId] at hnext ⊢
      split at hnext
      · cases hnext
      · exact Or.inl rfl
  · by_cases hok : response.opcode = rspOk
    · simp only [if_neg hcontinue, if_pos hok] at hnext ⊢
      split at hnext
      · cases hnext
      · split_ifs at hnext ⊢
        exact past_received hnext
    · simp only [if_neg hcontinue, if_neg hok] at hnext
      cases hnext

lemma ready_advance (h : s.Ready) {response : Packet} {next : Option Bytes}
    (hnext : (s.advance response).2 = .ok next) : (s.advance response).1.Ready := by
  rw [Ready] at h
  rw [advance] at hnext ⊢
  cases hstate : s.state with
  | awaitingConnect =>
      rw [hstate] at h hnext
      exact ready_connected h hnext
  | awaitingSetPath last remaining =>
      rw [hstate] at h hnext
      exact ready_moved h hnext
  | awaitingFirstGet | awaitingContinuation =>
      rw [hstate] at hnext
      exact (past_got hnext).ready
  | awaitingPut =>
      simp only [hstate] at hnext ⊢
      split at hnext
      · cases hnext
      · exact (past_finalizeOpOrDisconnect hnext).ready
  | awaitingDisconnect => exact trivial
  | resting | idle | done | failed =>
      rw [hstate] at hnext
      cases hnext

lemma ready_startNextOp (h : s.Ready) (operation : Operation) : (s.startNextOp operation).1.Ready := by
  rw [startNextOp]
  split_ifs
  · exact h
  · cases hconn : s.requiredConnectionId with
    | error reason => exact h
    | ok conn =>
        have hid : s.connectionId = some conn := by
          rw [requiredConnectionId] at hconn
          split at hconn
          · rename_i heq
            rw [heq, Except.ok.inj hconn]
          · cases hconn
        simp only
        have hready := ready_navigateTo (s := { s with
          body := .withLimit messageBodyLimit, output := .pending, operation, srmActive := false })
          ⟨rfl, rfl, rfl⟩ hid operation.targetFolder
        split <;> rename_i heq <;> exact congrArg Prod.fst heq ▸ hready

lemma ready_step (h : s.Ready) (op : MasOp) : (s.step op).1.Ready := by
  cases op with
  | nextRequest =>
      simp only [step, nextRequest]
      split
      · rename_i hstate
        simp only [Ready, hstate] at h
        exact ⟨h.body, h.output, h.srmActive⟩
      · exact h
  | response packet =>
      simp only [step, handleResponse]
      split
      · rename_i t next heq
        have hnext : (s.advance packet).2 = .ok next := congrArg Prod.snd heq
        exact congrArg Prod.fst heq ▸ ready_advance h hnext
      · exact trivial
  | startNextOp operation => exact ready_startNextOp h operation
  | requestDisconnect =>
      simp only [step, requestDisconnect, Prod.map_fst, id]
      split_ifs
      · exact h
      · split
        · exact h
        · exact trivial
  | setKeepAlive keepAlive =>
      simp only [step, setKeepAlive, Ready] at h ⊢
      cases hstate : s.state with
      | idle | awaitingConnect | awaitingSetPath =>
          rw [hstate] at h
          exact ⟨h.body, h.output, h.srmActive⟩
      | awaitingFirstGet =>
          rw [hstate] at h
          exact ⟨⟨h.1.body, h.1.output, h.1.srmActive⟩, h.2⟩
      | _ => trivial

lemma Ready.getting (h : s.Ready) (hstate : s.state = .awaitingFirstGet) :
    ∃ conn, s.Getting s.operation conn [] false ∧ ∀ body, (s.operation.outputOf body).isSome := by
  rw [Ready, hstate] at h
  obtain ⟨hfresh, ⟨conn, hconn⟩, hget⟩ := h
  exact ⟨conn, ⟨Or.inl hstate, rfl, hconn, hfresh.body, hfresh.output, hfresh.srmActive⟩, hget⟩

lemma ready_final (operation : Operation) (masInstanceId : UInt8) (ops : List MasOp) :
    (Machine.final MasMceSession.step (new operation masInstanceId) ops).Ready := by
  have hnew : (new operation masInstanceId).Ready := ⟨rfl, rfl, rfl⟩
  exact Machine.always (P := Ready) (fun _ op h => ready_step h op) hnew ops

end Runs

/-- Whatever the session did before it sent a GET, and whatever its owner asks of it meanwhile: the parts that the phone
continues with and the part that it concludes with are put out as one body, if they stay within the limit, and the
session asks for more once for each part before single response mode. A body past the limit ends the session without an
output. -/
theorem get_ends_with_its_body (operation : Operation) (masInstanceId : UInt8) (ops : List MasOp)
    {meanwhile : List MasOp}
    {last : Packet}
    (hget : (Machine.final MasMceSession.step (new operation masInstanceId) ops).state = .awaitingFirstGet)
    (hparts : ∀ p ∈ meanwhile.filterMap MasOp.packet, p.Continues) (hlast : last.Concludes) :
    ∃ s t sent conn, s = Machine.final MasMceSession.step (new operation masInstanceId) ops ∧
      t = Machine.final MasMceSession.step s (meanwhile ++ [.response last]) ∧
      sent = (Machine.outputs MasMceSession.step s (meanwhile ++ [.response last])).reduceOption ∧
      s.connectionId = some conn ∧
      ((((meanwhile.filterMap MasOp.packet) ++ [last]).flatMap Packet.bodyBytes).length ≤ messageBodyLimit →
        s.operation.outputOf (((meanwhile.filterMap MasOp.packet) ++ [last]).flatMap Packet.bodyBytes) = some t.output ∧
          (t.state = .resting ∧
              sent = List.replicate (unconfirmed (meanwhile.filterMap MasOp.packet)) (buildGetContinuation conn) ∨
            t.state = .awaitingDisconnect ∧
              sent = List.replicate (unconfirmed (meanwhile.filterMap MasOp.packet)) (buildGetContinuation conn) ++
                [buildDisconnect (some conn)])) ∧
      (messageBodyLimit < (((meanwhile.filterMap MasOp.packet) ++ [last]).flatMap Packet.bodyBytes).length →
        t.GaveUp) := by
  obtain ⟨conn, hgetting, hoperation⟩ := (ready_final operation masInstanceId ops).getting hget
  generalize Machine.final MasMceSession.step (new operation masInstanceId) ops = s at hgetting hoperation
  refine ⟨s, _, _, conn, rfl, rfl, rfl, hgetting.connectionId, ?_, ?_⟩
  · intro hroom
    rw [List.flatMap_append, List.length_append, List.flatMap_singleton] at hroom
    rw [List.flatMap_append, List.flatMap_singleton]
    obtain ⟨hmid, hsent⟩ := hgetting.final hparts (by rw [List.length_nil]; omega)
    obtain ⟨output, houtput⟩ := Option.isSome_iff_exists.mp
      (hoperation ((meanwhile.filterMap MasOp.packet).flatMap Packet.bodyBytes ++ last.bodyBytes))
    obtain ⟨hout, hend⟩ := hmid.concludes hlast (by rw [List.nil_append]; omega) houtput
    rw [Machine.final_append, Machine.outputs_append, List.reduceOption_append, hsent, if_neg Bool.false_ne_true]
    refine ⟨houtput.trans (congrArg some hout.symm), ?_⟩
    rw [Machine.outputs_cons, Machine.final_cons, Machine.outputs_nil, Machine.final_nil]
    split_ifs at hend
    · refine Or.inl ⟨hend.1, ?_⟩
      change _ ++ [(MasMceSession.handleResponse _ last).2].reduceOption = _
      rw [hend.2]
      exact List.append_nil _
    · refine Or.inr ⟨hend.1, ?_⟩
      change _ ++ [(MasMceSession.handleResponse _ last).2].reduceOption = _
      rw [hend.2]
      rfl
  · intro hover
    have hall : (meanwhile ++ [MasOp.response last]).filterMap MasOp.packet =
        meanwhile.filterMap MasOp.packet ++ [last] :=
      List.filterMap_append
    refine hgetting.gives_up_within (Nat.zero_le _) ?_ ?_ ?_
    · rw [hall]
      intro p hp
      obtain hp | hp := List.mem_append.mp hp
      · exact Or.inl (hparts p hp).opcode
      · rw [List.mem_singleton.mp hp]
        exact Or.inr hlast.opcode
    · rw [hall, List.dropLast_concat]
      exact hparts
    · rwa [hall, List.length_nil, Nat.zero_add]

/-- A second GET of a pooled session: the first body is not part of it, and single response mode stops the asking. -/
def secondListing : List MasOp :=
  let ok : MasOp := .response ⟨rspOk, [], []⟩
  [.setKeepAlive true, .nextRequest, .response ⟨rspOk, [], [.connectionId 7]⟩, ok, ok, ok,
    .response ⟨rspOk, [], [.endOfBody [1]]⟩, .startNextOp (.listMessages .inbox 16 0)]

/-- The parts of the second body, with a request in between that comes to nothing. -/
def secondParts : List MasOp :=
  [.response ⟨rspContinue, [], [.byteSeq hdrBody [2]]⟩, .nextRequest,
    .response ⟨rspContinue, [], [.byte hdrSrm 1, .byteSeq hdrBody [3]]⟩]

def lastPart : Packet := ⟨rspOk, [], [.endOfBody [4]]⟩

theorem get_ends_with_its_body_second :
    (secondParts.filterMap MasOp.packet ++ [lastPart]).flatMap Packet.bodyBytes = [2, 3, 4] ∧
    unconfirmed (secondParts.filterMap MasOp.packet) = 1 ∧
    ∃ s t sent conn,
      s = Machine.final MasMceSession.step (new (.getMessage .inbox "1" 1) 0) secondListing ∧
      t = Machine.final MasMceSession.step s (secondParts ++ [.response lastPart]) ∧
      sent = (Machine.outputs MasMceSession.step s (secondParts ++ [.response lastPart])).reduceOption ∧
      s.connectionId = some conn ∧
      (((secondParts.filterMap MasOp.packet ++ [lastPart]).flatMap Packet.bodyBytes).length ≤ messageBodyLimit →
        s.operation.outputOf ((secondParts.filterMap MasOp.packet ++ [lastPart]).flatMap Packet.bodyBytes) =
            some t.output ∧
          (t.state = .resting ∧
              sent = List.replicate (unconfirmed (secondParts.filterMap MasOp.packet)) (buildGetContinuation conn) ∨
            t.state = .awaitingDisconnect ∧
              sent = List.replicate (unconfirmed (secondParts.filterMap MasOp.packet)) (buildGetContinuation conn) ++
                [buildDisconnect (some conn)])) ∧
      (messageBodyLimit < ((secondParts.filterMap MasOp.packet ++ [lastPart]).flatMap Packet.bodyBytes).length →
        t.GaveUp) :=
  ⟨by decide, by decide, get_ends_with_its_body (.getMessage .inbox "1" 1) 0 secondListing (by decide +kernel)
    (List.forall_mem_cons.mpr ⟨⟨rfl, rfl⟩, List.forall_mem_cons.mpr ⟨⟨rfl, rfl⟩, List.forall_mem_nil _⟩⟩) ⟨rfl, rfl⟩⟩

end MasMceSession

end Aokie.Radio.Map
