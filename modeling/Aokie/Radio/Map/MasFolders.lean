import Aokie.Lib.Run
import Aokie.Radio.Map.Mas
import Aokie.Radio.Obex.RoundTrip

/-! The folder a session believes itself in is the one its phone is in, and every listing, read and send happens in
the folder it is meant for. -/

namespace Aokie.Radio.Map

open Aokie.Lib Aokie.Radio.Obex

/-- A phone's message access server: its working folder and the SETPATH that it has not answered. -/
structure MasPhone where
  folder : List String := []
  pending : Option Packet := none
  deriving DecidableEq, Repr

namespace MasPhone

/-- OBEX: the backup flag leaves the folder, a name enters one, and a SETPATH with neither goes to the root. -/
def setPath (request : Packet) (folder : List String) : List String :=
  let backup := request.fixedPayload.getD 0 0 &&& setpathFlagBackup ≠ 0
  let start := if backup then folder.dropLast else folder
  match request.header hdrName with
  | some (.unicode _ name) => if name = "" then [] else start ++ [name]
  | _ => if backup then start else []

def receive (phone : MasPhone) (request : Bytes) : MasPhone :=
  if request.getD 0 0 = opConnect then {}
  else if request.getD 0 0 = opSetpath then { phone with pending := (Packet.parse request .setPath).toOption }
  else phone

def answer (phone : MasPhone) (response : Packet) : MasPhone :=
  match phone.pending with
  | some request =>
    { folder := if response.opcode = rspOk then setPath request phone.folder else phone.folder, pending := none }
  | none => phone

end MasPhone

inductive MasOp
  | nextRequest
  | response (packet : Packet)
  | startNextOp (operation : Operation)
  | requestDisconnect
  | setKeepAlive (keepAlive : Bool)

def MasMceSession.step (s : MasMceSession) : MasOp → MasMceSession × Option Bytes
  | .nextRequest => s.nextRequest
  | .response packet => s.handleResponse packet
  | .startNextOp operation => (s.startNextOp operation).map id Except.toOption
  | .requestDisconnect => s.requestDisconnect.map id Except.toOption
  | .setKeepAlive keepAlive => (s.setKeepAlive keepAlive, none)

def MasPhone.step (phone : MasPhone) : MasOp → MasPhone
  | .response packet => phone.answer packet
  | _ => phone

/-- A request that went out, the folder the phone was in and the operation it went out for. -/
structure MasEmission where
  request : Bytes
  folder : List String
  operation : Operation
  deriving DecidableEq, Repr

def MasEmission.IsOperation (e : MasEmission) : Prop :=
  e.request.getD 0 0 = opGetFinal ∨ e.request.getD 0 0 = opPutFinal

instance (e : MasEmission) : Decidable e.IsOperation := inferInstanceAs (Decidable (_ ∨ _))

/-- The session and its phone: the phone answers, the session hears the answer, and the phone gets what the session
sends. -/
def masRun : Machine (MasMceSession × MasPhone) MasOp (List MasEmission) := fun r op =>
  let phone := r.2.step op
  let (s, request) := r.1.step op
  match request with
  | none => ((s, phone), [])
  | some request => ((s, phone.receive request), [⟨request, phone.folder, s.operation⟩])

def SetPathStep.packet (conn : UInt32) : SetPathStep → Packet
  | .up => ⟨opSetpath, [setpathFlagBackup ||| setpathFlagNocreate, 0], [.connectionId conn]⟩
  | .down name => ⟨opSetpath, [0, 0], [.connectionId conn, .name name]⟩

def SetPathStep.Known (step : SetPathStep) : Prop :=
  step = .up ∨ ∃ name ∈ ["telecom", "msg", "inbox", "outbox", "sent"], step = .down name

lemma Operation.known_of_mem_targetFolder {op : Operation} {name : String} (h : name ∈ op.targetFolder) :
    SetPathStep.Known (.down name) := by
  refine .inr ⟨name, ?_, rfl⟩
  simp only [targetFolder] at h
  cases hfolder : op.folder with
  | none => simp [hfolder] at h
  | some folder =>
      cases folder <;> simp [hfolder, Folder.asStr] at h ⊢ <;> tauto

lemma buildSetpathStep_eq (conn : UInt32) (step : SetPathStep) :
    buildSetpathStep conn step = (step.packet conn).encode := by
  cases step <;> rfl

lemma parse_buildSetpathStep (conn : UInt32) {step : SetPathStep} (h : step.Known) :
    Packet.parse (buildSetpathStep conn step) .setPath = .ok (step.packet conn) := by
  have hquad : headerKind hdrConnectionId = .quad := by decide
  have hname : headerKind hdrName = .unicode := by decide
  rw [buildSetpathStep_eq]
  apply Packet.parse_encode
  · intro header hmem
    cases step <;> simp only [SetPathStep.packet, List.mem_cons, List.not_mem_nil, or_false] at hmem
    · rw [hmem]
      exact hquad
    · obtain rfl | rfl := hmem
      · exact hquad
      · exact hname
  · cases step <;> rfl
  · obtain rfl | ⟨name, hname, rfl⟩ := h
    · simp [Packet.encode_length, SetPathStep.packet, Header.connectionId, Header.encode]
    · have hquad : (Header.connectionId conn).encode.length = 5 := by simp [Header.connectionId, Header.encode]
      have hlen : (Header.name name).encode.length ≤ 100 := by
        revert name
        decide
      simp only [Packet.encode_length, SetPathStep.packet, List.flatMap_cons, List.flatMap_nil, List.append_nil,
        List.length_append, List.length_cons, List.length_nil, hquad]
      omega

lemma setPath_packet (conn : UInt32) {step : SetPathStep} (h : step.Known) (folder : List String) :
    MasPhone.setPath (step.packet conn) folder = step.apply folder := by
  obtain rfl | ⟨name, hname, rfl⟩ := h
  · have hbackup : (setpathFlagBackup ||| setpathFlagNocreate) &&& setpathFlagBackup ≠ 0 := by decide
    simp [MasPhone.setPath, SetPathStep.packet, Packet.header, Header.connectionId, Header.id, hdrName, hdrConnectionId,
      SetPathStep.apply, hbackup]
  · have hne : name ≠ "" := by
      rintro rfl
      revert hname
      decide
    simp [MasPhone.setPath, SetPathStep.packet, Packet.header, Header.connectionId, Header.name, Header.id, hdrName,
      hdrConnectionId, SetPathStep.apply, hne]

lemma foldl_apply_replicate_up (n : ℕ) (folder : List String) :
    (List.replicate n SetPathStep.up).foldl SetPathStep.apply folder = folder.take (folder.length - n) := by
  induction n generalizing folder with
  | zero => simp
  | succ n ih =>
      rw [List.replicate_succ, List.foldl_cons, ih, SetPathStep.apply, List.dropLast_eq_take, List.take_take,
        List.length_take]
      congr 1
      omega

lemma foldl_apply_map_down (names folder : List String) :
    (names.map SetPathStep.down).foldl SetPathStep.apply folder = folder ++ names := by
  induction names generalizing folder with
  | nil => simp
  | cons name names ih => simp [SetPathStep.apply, ih]

lemma take_common {α : Type} [BEq α] [LawfulBEq α] (xs ys : List α) :
    xs.take ((xs.zip ys).takeWhile fun pair => pair.1 == pair.2).length =
      ys.take ((xs.zip ys).takeWhile fun pair => pair.1 == pair.2).length := by
  induction xs generalizing ys with
  | nil => simp
  | cons x xs ih =>
      cases ys with
      | nil => simp
      | cons y ys =>
          rw [List.zip_cons_cons, List.takeWhile_cons]
          cases hxy : x == y with
          | false => simp
          | true => simp [eq_of_beq hxy, ih ys]

lemma foldl_setPathSteps (current target : List String) :
    (MasMceSession.setPathSteps current target).foldl SetPathStep.apply current = target := by
  set common := ((current.zip target).takeWhile fun pair => pair.1 == pair.2).length with hcommon
  have hle : common ≤ current.length := by
    have htake := (List.takeWhile_prefix (l := current.zip target) fun pair => pair.1 == pair.2).length_le
    rw [List.length_zip] at htake
    omega
  rw [MasMceSession.setPathSteps, List.foldl_append, foldl_apply_replicate_up, foldl_apply_map_down, ← hcommon,
    Nat.sub_sub_self hle, hcommon, take_common, List.take_append_drop]

lemma known_of_mem_setPathSteps {current : List String} {op : Operation} {step : SetPathStep}
    (h : step ∈ MasMceSession.setPathSteps current op.targetFolder) : step.Known := by
  rw [MasMceSession.setPathSteps, List.mem_append] at h
  obtain h | h := h
  · exact .inl (List.eq_of_mem_replicate h)
  · obtain ⟨name, hname, rfl⟩ := List.mem_map.mp h
    exact Operation.known_of_mem_targetFolder (List.mem_of_mem_drop hname)

structure FolderInv (s : MasMceSession) (phone : MasPhone) : Prop where
  folder : s.currentFolder = phone.folder
  state : match s.state with
    | .awaitingSetPath last remaining =>
      (∃ conn, s.connectionId = some conn ∧ phone.pending = some (last.packet conn)) ∧
        (∀ step ∈ last :: remaining, step.Known) ∧
        (last :: remaining).foldl SetPathStep.apply phone.folder = s.operation.targetFolder
    | .awaitingFirstGet | .awaitingContinuation | .awaitingPut =>
      phone.pending = none ∧ phone.folder = s.operation.targetFolder
    | .idle | .awaitingConnect => phone.pending = none ∧ phone.folder = []
    | _ => phone.pending = none

def MasPhone.hear (phone : MasPhone) : Option Bytes → MasPhone
  | none => phone
  | some request => phone.receive request

/-- The session is in step with the phone once the phone has what it sent, and what it sent was for where the phone
was. -/
structure Emits (r : MasMceSession × Option Bytes) (phone : MasPhone) : Prop where
  inv : FolderInv r.1 (phone.hear r.2)
  operation : ∀ request ∈ r.2, request.getD 0 0 = opGetFinal ∨ request.getD 0 0 = opPutFinal →
    phone.folder = r.1.operation.targetFolder

/-- What `handle_response` makes of an outcome of `advance`. -/
def settle : MasMceSession × Except String (Option Bytes) → MasMceSession × Option Bytes
  | (s, .ok next) => (s, next)
  | (s, .error reason) => ({ s with state := .failed reason }, none)

variable {s : MasMceSession} {phone : MasPhone} {conn : UInt32}

lemma handleResponse_eq (response : Packet) : s.handleResponse response = settle (s.advance response) := rfl

lemma Emits.nothing (h : FolderInv s phone) : Emits (s, none) phone := ⟨h, by simp⟩

lemma Emits.failure (hfolder : s.currentFolder = phone.folder) (hpending : phone.pending = none) (reason : String) :
    Emits (settle (s, .error reason)) phone := by
  apply Emits.nothing
  exact ⟨hfolder, hpending⟩

lemma receive_of_ne {request : Bytes} (hconnect : request.getD 0 0 ≠ opConnect)
    (hsetpath : request.getD 0 0 ≠ opSetpath) :
    phone.receive request = phone := by
  rw [MasPhone.receive, if_neg hconnect, if_neg hsetpath]

lemma encode_getD_zero (p : Packet) : p.encode.getD 0 0 = p.opcode := by
  obtain ⟨hi, lo, h⟩ := Packet.encode_eq p
  rw [h]
  rfl

lemma Emits.request {p : Packet} (hinv : FolderInv s phone) (hconnect : p.opcode ≠ opConnect)
    (hsetpath : p.opcode ≠ opSetpath)
    (htarget : p.opcode = opGetFinal ∨ p.opcode = opPutFinal → phone.folder = s.operation.targetFolder) :
    Emits (s, some p.encode) phone := by
  rw [← encode_getD_zero p] at hconnect hsetpath htarget
  refine ⟨?_, ?_⟩
  · simp only [MasPhone.hear, receive_of_ne hconnect hsetpath]
    exact hinv
  · rintro request ⟨⟩
    exact htarget

lemma startOperation_eq (conn : UInt32) : ∃ p state, (p.opcode = opGetFinal ∨ p.opcode = opPutFinal) ∧
    (state = .awaitingFirstGet ∨ state = .awaitingPut) ∧
    s.startOperation conn = ({ s with state }, .ok (some (Packet.encode p))) := by
  simp only [MasMceSession.startOperation]
  split
  · exact ⟨_, _, .inl rfl, .inl rfl, rfl⟩
  · exact ⟨_, _, .inl rfl, .inl rfl, rfl⟩
  · exact ⟨_, _, .inr rfl, .inr rfl, rfl⟩
  · exact ⟨_, _, .inr rfl, .inr rfl, rfl⟩

lemma Emits.startOperation (hfolder : s.currentFolder = phone.folder) (hpending : phone.pending = none)
    (htarget : phone.folder = s.operation.targetFolder) : Emits (settle (s.startOperation conn)) phone := by
  obtain ⟨p, state, hopcode, hstate, hstart⟩ := startOperation_eq (s := s) conn
  rw [hstart]
  apply Emits.request
  · obtain rfl | rfl := hstate <;> exact ⟨hfolder, hpending, htarget⟩
  · obtain h | h := hopcode <;> rw [h] <;> decide
  · obtain h | h := hopcode <;> rw [h] <;> decide
  · intro _
    exact htarget

lemma Emits.setPath {first : SetPathStep} {remaining : List SetPathStep} (hfolder : s.currentFolder = phone.folder)
    (hconn : s.connectionId = some conn) (hknown : ∀ step ∈ first :: remaining, step.Known)
    (hsteps : (first :: remaining).foldl SetPathStep.apply phone.folder = s.operation.targetFolder) :
    Emits ({ s with state := .awaitingSetPath first remaining }, some (buildSetpathStep conn first)) phone := by
  have hopcode : (buildSetpathStep conn first).getD 0 0 = opSetpath := by
    rw [buildSetpathStep_eq, encode_getD_zero]
    cases first <;> rfl
  have hread := parse_buildSetpathStep conn (hknown first (List.mem_cons_self ..))
  have hreceive : phone.receive (buildSetpathStep conn first) = { phone with pending := some (first.packet conn) } := by
    rw [MasPhone.receive, if_neg (by rw [hopcode]; decide), if_pos hopcode, hread]
    rfl
  refine ⟨?_, ?_⟩
  · simp only [MasPhone.hear, hreceive]
    exact ⟨hfolder, ⟨conn, hconn, rfl⟩, hknown, hsteps⟩
  · rintro request ⟨⟩ hoperation
    rw [hopcode] at hoperation
    exact absurd hoperation (by decide)

lemma Emits.navigateTo (hfolder : s.currentFolder = phone.folder) (hpending : phone.pending = none)
    (hconn : s.connectionId = some conn) : Emits (settle (s.navigateTo conn s.operation.targetFolder)) phone := by
  have hsteps := foldl_setPathSteps s.currentFolder s.operation.targetFolder
  have hknown : ∀ step ∈ MasMceSession.setPathSteps s.currentFolder s.operation.targetFolder, step.Known :=
    fun step => known_of_mem_setPathSteps
  rw [MasMceSession.navigateTo]
  cases hpath : MasMceSession.setPathSteps s.currentFolder s.operation.targetFolder with
  | nil =>
      rw [hpath, List.foldl_nil, hfolder] at hsteps
      exact Emits.startOperation hfolder hpending hsteps
  | cons first remaining =>
      rw [hpath] at hsteps hknown
      exact Emits.setPath hfolder hconn hknown (hfolder ▸ hsteps)

lemma Emits.disconnect (hfolder : s.currentFolder = phone.folder) (hpending : phone.pending = none) (conn : UInt32) :
    Emits ({ s with state := .awaitingDisconnect }, some (buildDisconnect (some conn))) phone := by
  have hinv : FolderInv { s with state := .awaitingDisconnect } phone := ⟨hfolder, hpending⟩
  apply Emits.request (p := ⟨opDisconnect, [], [.connectionId conn]⟩) hinv
  · exact (by decide : opDisconnect ≠ opConnect)
  · exact (by decide : opDisconnect ≠ opSetpath)
  · intro h
    exact absurd h (by decide : ¬(opDisconnect = opGetFinal ∨ opDisconnect = opPutFinal))

lemma Emits.finalize (hfolder : s.currentFolder = phone.folder) (hpending : phone.pending = none) :
    Emits (settle s.finalizeOpOrDisconnect) phone := by
  simp only [MasMceSession.finalizeOpOrDisconnect, MasMceSession.withConnectionId]
  split_ifs
  · exact Emits.nothing ⟨hfolder, hpending⟩
  · cases s.requiredConnectionId with
    | error reason => exact Emits.failure hfolder hpending reason
    | ok conn => exact Emits.disconnect hfolder hpending conn

lemma Emits.connected (hfolder : s.currentFolder = phone.folder) (hpending : phone.pending = none)
    (hroot : phone.folder = []) (response : Packet) : Emits (settle (s.connected response)) phone := by
  rw [MasMceSession.connected]
  cases requireResponseCode response [rspOk] "CONNECT" with
  | error reason => exact Emits.failure hfolder hpending reason
  | ok u =>
      simp only
      split
      · next conn _ =>
          exact Emits.navigateTo (s := { s with
              connectionId := some conn, currentFolder := [] }) hroot.symm hpending rfl
      · exact Emits.failure hfolder hpending _

lemma requireResponseCode_ok {response : Packet} {context : String} {u : Unit}
    (h : requireResponseCode response [rspOk] context = .ok u) : response.opcode = rspOk := by
  rw [requireResponseCode, ensure_eq_ok_iff] at h
  simpa using h

lemma Emits.moved {last : SetPathStep} {remaining : List SetPathStep} {response : Packet}
    (hinv : FolderInv s phone) (hstate : s.state = .awaitingSetPath last remaining) :
    Emits (settle (s.moved last remaining response)) (phone.answer response) := by
  obtain ⟨hfolder, hsteps⟩ := hinv
  rw [hstate] at hsteps
  obtain ⟨⟨conn, hconn, hrequest⟩, hknown, htarget⟩ := hsteps
  have hanswer : phone.answer response =
      ⟨if response.opcode = rspOk then last.apply phone.folder else phone.folder, none⟩ := by
    rw [MasPhone.answer, hrequest]
    simp only [setPath_packet conn (hknown last (List.mem_cons_self ..))]
  have hrequired : s.requiredConnectionId = .ok conn := by rw [MasMceSession.requiredConnectionId, hconn]
  simp only [MasMceSession.moved, MasMceSession.withConnectionId, hrequired]
  cases hcode : requireResponseCode response [rspOk] "SETPATH" with
  | error reason =>
      have hrefused : response.opcode ≠ rspOk := by
        intro h
        simp [requireResponseCode, ensure, h] at hcode
      rw [hanswer, if_neg hrefused]
      apply Emits.failure
      · exact hfolder
      · rfl
  | ok u =>
      rw [hanswer, if_pos (requireResponseCode_ok hcode)]
      have hmoved : last.apply s.currentFolder = last.apply phone.folder := by rw [hfolder]
      cases remaining with
      | nil => exact Emits.startOperation hmoved rfl htarget
      | cons next remaining =>
          exact Emits.setPath (s := { s with currentFolder := last.apply s.currentFolder }) hmoved hconn
            (fun step hstep => hknown step (List.mem_cons_of_mem _ hstep)) htarget

lemma observeSrm_eq (response : Packet) : ∃ srmActive, s.observeSrm response = { s with srmActive } := by
  simp only [MasMceSession.observeSrm]
  split_ifs with hactive
  · exact ⟨_, rfl⟩
  · split
    · split_ifs
      · exact ⟨true, rfl⟩
      · exact ⟨_, rfl⟩
    · exact ⟨_, rfl⟩

lemma Emits.received (hfolder : s.currentFolder = phone.folder) (hpending : phone.pending = none) :
    Emits (settle s.received) phone := by
  simp only [MasMceSession.received]
  split
  · exact Emits.finalize hfolder hpending
  · exact Emits.finalize hfolder hpending
  · exact Emits.failure hfolder hpending _
  · exact Emits.failure hfolder hpending _

lemma Emits.continues (hfolder : s.currentFolder = phone.folder) (hpending : phone.pending = none)
    (htarget : phone.folder = s.operation.targetFolder) :
    Emits (settle (s.withConnectionId fun conn => ({ s with state := .awaitingContinuation },
      .ok (if s.srmActive then none else some (buildGetContinuation conn))))) phone := by
  have hinv : FolderInv { s with state := .awaitingContinuation } phone := ⟨hfolder, hpending, htarget⟩
  rw [MasMceSession.withConnectionId]
  cases s.requiredConnectionId with
  | error reason => exact Emits.failure hfolder hpending reason
  | ok conn =>
      simp only [settle]
      split_ifs
      · exact Emits.nothing hinv
      · apply Emits.request (p := ⟨opGetFinal, [], [.connectionId conn]⟩) hinv
        · exact (by decide : opGetFinal ≠ opConnect)
        · exact (by decide : opGetFinal ≠ opSetpath)
        · intro _
          exact htarget

lemma Emits.got (hfolder : s.currentFolder = phone.folder) (hpending : phone.pending = none)
    (htarget : phone.folder = s.operation.targetFolder) (response : Packet) :
    Emits (settle (s.got response)) phone := by
  obtain ⟨srmActive, hsrm⟩ := observeSrm_eq (s := s) response
  rw [MasMceSession.got, hsrm]
  by_cases hcontinue : response.opcode = rspContinue
  · rw [if_pos hcontinue]
    rcases s.body.push response with ⟨body, reason | complete⟩
    · exact Emits.failure (s := { s with srmActive, body }) hfolder hpending reason
    · exact Emits.continues (s := { s with srmActive, body }) hfolder hpending htarget
  rw [if_neg hcontinue]
  by_cases hok : response.opcode = rspOk
  · rw [if_pos hok]
    rcases s.body.push response with ⟨body, reason | complete⟩
    · exact Emits.failure (s := { s with srmActive, body }) hfolder hpending reason
    · simp only
      split_ifs
      · exact Emits.failure (s := { s with srmActive, body }) hfolder hpending _
      · exact Emits.received (s := { s with srmActive, body }) hfolder hpending
  · rw [if_neg hok]
    exact Emits.failure (s := { s with srmActive }) hfolder hpending _

lemma MasPhone.answer_of_none (h : phone.pending = none) (response : Packet) : phone.answer response = phone := by
  rw [MasPhone.answer, h]

lemma FolderInv.pending_eq_none (h : FolderInv s phone) (hstate : ∀ last remaining,
    s.state ≠ .awaitingSetPath last remaining) :
    phone.pending = none := by
  have hs := h.state
  cases hcase : s.state with
  | awaitingSetPath last remaining => exact absurd hcase (hstate last remaining)
  | awaitingFirstGet | awaitingContinuation | awaitingPut | idle | awaitingConnect =>
      rw [hcase] at hs
      exact hs.1
  | resting | awaitingDisconnect | done | failed =>
      rw [hcase] at hs
      exact hs

lemma Emits.handleResponse (hinv : FolderInv s phone) (response : Packet) :
    Emits (s.handleResponse response) (phone.answer response) := by
  obtain ⟨hfolder, hs⟩ := hinv
  rw [handleResponse_eq, MasMceSession.advance]
  cases hstate : s.state with
  | awaitingSetPath last remaining => exact Emits.moved ⟨hfolder, hs⟩ hstate
  | awaitingConnect =>
      rw [hstate] at hs
      rw [MasPhone.answer_of_none hs.1]
      exact Emits.connected hfolder hs.1 hs.2 response
  | awaitingFirstGet | awaitingContinuation =>
      rw [hstate] at hs
      rw [MasPhone.answer_of_none hs.1]
      exact Emits.got hfolder hs.1 hs.2 response
  | awaitingPut =>
      rw [hstate] at hs
      rw [MasPhone.answer_of_none hs.1]
      cases requireResponseCode response [rspOk] "PUT" with
      | error reason => exact Emits.failure hfolder hs.1 reason
      | ok u => exact Emits.finalize (s := { s with state := .awaitingPut, output := .pushAcknowledged }) hfolder hs.1
  | awaitingDisconnect =>
      rw [hstate] at hs
      rw [MasPhone.answer_of_none hs]
      exact Emits.nothing ⟨hfolder, hs⟩
  | idle =>
      rw [hstate] at hs
      rw [MasPhone.answer_of_none hs.1]
      exact Emits.failure hfolder hs.1 _
  | resting | done | failed =>
      rw [hstate] at hs
      rw [MasPhone.answer_of_none hs]
      exact Emits.failure hfolder hs _

lemma navigateTo_ok (conn : UInt32) (target : List String) :
    ∃ t packet, s.navigateTo conn target = (t, .ok (some packet)) := by
  rw [MasMceSession.navigateTo]
  cases MasMceSession.setPathSteps s.currentFolder target with
  | nil =>
      obtain ⟨p, state, -, -, hstart⟩ := startOperation_eq (s := s) conn
      exact ⟨_, _, hstart⟩
  | cons first remaining => exact ⟨_, _, rfl⟩

lemma requiredConnectionId_eq_ok_iff : s.requiredConnectionId = .ok conn ↔ s.connectionId = some conn := by
  rw [MasMceSession.requiredConnectionId]
  cases s.connectionId <;> simp

lemma Emits.startNextOp (hinv : FolderInv s phone) (operation : Operation) :
    Emits ((s.startNextOp operation).map id Except.toOption) phone := by
  rw [MasMceSession.startNextOp]
  split_ifs with hresting
  · exact Emits.nothing hinv
  · have hstate : s.state = .resting := not_not.mp hresting
    have hpending : phone.pending = none := hinv.pending_eq_none (by simp [hstate])
    cases hconn : s.requiredConnectionId with
    | error reason => exact Emits.nothing hinv
    | ok conn =>
        have hid := requiredConnectionId_eq_ok_iff.mp hconn
        set fresh : MasMceSession := { s with
            body := .withLimit messageBodyLimit, output := .pending, operation, srmActive := false }
        obtain ⟨t, packet, hnavigate⟩ := navigateTo_ok (s := fresh) conn operation.targetFolder
        have hemits : Emits (settle (fresh.navigateTo conn fresh.operation.targetFolder)) phone :=
          Emits.navigateTo hinv.folder hpending hid
        have hsame : fresh.operation = operation := rfl
        rw [hsame, hnavigate] at hemits
        simp only [hnavigate]
        exact hemits

lemma Emits.requestDisconnect (hinv : FolderInv s phone) :
    Emits (s.requestDisconnect.map id Except.toOption) phone := by
  rw [MasMceSession.requestDisconnect]
  split_ifs with hresting
  · exact Emits.nothing hinv
  · have hstate : s.state = .resting := not_not.mp hresting
    have hpending : phone.pending = none := hinv.pending_eq_none (by simp [hstate])
    cases s.requiredConnectionId with
    | error reason => exact Emits.nothing hinv
    | ok conn => exact Emits.disconnect hinv.folder hpending conn

lemma buildConnectRequestWithMasInstance_eq (masInstanceId : UInt8) :
    buildConnectRequestWithMasInstance masInstanceId = Packet.encode
      ⟨opConnect, buildConnectFixed 0x10 0x00 masMaxPacketLength,
      [.target masTargetUuid, .appParameters (appParamU8 0x0f masInstanceId)]⟩ := by
  have hparse : Packet.parse (buildConnectRequest (some masTargetUuid) masMaxPacketLength) .connect =
      .ok ⟨opConnect, buildConnectFixed 0x10 0x00 masMaxPacketLength, [.target masTargetUuid]⟩ := by
    decide
  rw [buildConnectRequestWithMasInstance, hparse]
  rfl

lemma Emits.nextRequest (hinv : FolderInv s phone) : Emits s.nextRequest phone := by
  have hs := hinv.state
  rw [MasMceSession.nextRequest]
  cases hstate : s.state with
  | idle =>
      rw [hstate] at hs
      have hopcode : (buildConnectRequestWithMasInstance s.masInstanceId).getD 0 0 = opConnect := by
        rw [buildConnectRequestWithMasInstance_eq, encode_getD_zero]
      have hreceive : phone.receive (buildConnectRequestWithMasInstance s.masInstanceId) = {} := by
        rw [MasPhone.receive, if_pos hopcode]
      refine ⟨?_, ?_⟩
      · simp only [MasPhone.hear, hreceive]
        exact ⟨hinv.folder.trans hs.2, rfl, rfl⟩
      · rintro request ⟨⟩ hoperation
        rw [hopcode] at hoperation
        exact absurd hoperation (by decide)
  | _ => exact Emits.nothing hinv

lemma FolderInv.step (hinv : FolderInv s phone) (op : MasOp) : Emits (s.step op) (phone.step op) := by
  cases op with
  | nextRequest => exact Emits.nextRequest hinv
  | response packet => exact Emits.handleResponse hinv packet
  | startNextOp operation => exact Emits.startNextOp hinv operation
  | requestDisconnect => exact Emits.requestDisconnect hinv
  | setKeepAlive keepAlive => exact Emits.nothing ⟨hinv.folder, hinv.state⟩

lemma masRun_step (r : MasMceSession × MasPhone) (op : MasOp) (hinv : FolderInv r.1 r.2) :
    FolderInv (masRun r op).1.1 (masRun r op).1.2 ∧
      ∀ e ∈ (masRun r op).2, e.IsOperation → e.folder = e.operation.targetFolder := by
  have hstep := hinv.step op
  simp only [masRun]
  rcases hsent : r.1.step op with ⟨s, _ | request⟩
  · rw [hsent] at hstep
    exact ⟨hstep.inv, by simp⟩
  · rw [hsent] at hstep
    refine ⟨hstep.inv, ?_⟩
    intro e he hoperation
    obtain rfl := List.mem_singleton.mp he
    exact hstep.operation request rfl hoperation

lemma masRun_inv (r : MasMceSession × MasPhone) (ops : List MasOp) (hinv : FolderInv r.1 r.2) :
    FolderInv (masRun.final r ops).1 (masRun.final r ops).2 ∧
      ∀ e ∈ (masRun.outputs r ops).flatten, e.IsOperation → e.folder = e.operation.targetFolder := by
  induction ops generalizing r with
  | nil => exact ⟨hinv, by simp⟩
  | cons op ops ih =>
      obtain ⟨hnext, hsent⟩ := masRun_step r op hinv
      obtain ⟨hfinal, hrest⟩ := ih (masRun r op).1 hnext
      refine ⟨hfinal, ?_⟩
      intro e he
      rw [Machine.outputs_cons, List.flatten_cons, List.mem_append] at he
      obtain he | he := he
      · exact hsent e he
      · exact hrest e he

/-- Whatever the operations and whatever the phone answers. -/
theorem mas_operations_run_in_their_folder (operation : Operation) (masInstanceId : UInt8) (ops : List MasOp) :
    (∀ e ∈ (masRun.outputs (.new operation masInstanceId, {}) ops).flatten,
      e.IsOperation → e.folder = e.operation.targetFolder) ∧
    ((masRun.final (.new operation masInstanceId, {}) ops).2.pending = none →
      (masRun.final (.new operation masInstanceId, {}) ops).1.currentFolder =
        (masRun.final (.new operation masInstanceId, {}) ops).2.folder) := by
  have hstart : FolderInv (MasMceSession.new operation masInstanceId) {} := ⟨rfl, rfl, rfl⟩
  obtain ⟨hfinal, hsent⟩ := masRun_inv (.new operation masInstanceId, {}) ops hstart
  exact ⟨hsent, fun _ => hfinal.folder⟩

def masInboxThenOutbox : List MasOp :=
  let ok : MasOp := .response ⟨rspOk, [], []⟩
  [.setKeepAlive true, .nextRequest, .response ⟨rspOk, [], [.connectionId 7]⟩, ok, ok, ok,
    .response ⟨rspOk, [], [.endOfBody []]⟩, .startNextOp (.pushMessage .outbox [] 1), ok, ok, ok]

theorem mas_operations_run_in_their_folder_inbox_then_outbox :
    (((masRun.outputs (.new (.getMessage .inbox "1" 1) 0, {}) masInboxThenOutbox).flatten.filter fun e =>
      decide e.IsOperation).map MasEmission.folder = [["telecom", "msg", "inbox"], ["telecom", "msg", "outbox"]]) ∧
    (∀ e ∈ (masRun.outputs (.new (.getMessage .inbox "1" 1) 0, {}) masInboxThenOutbox).flatten,
      e.IsOperation → e.folder = e.operation.targetFolder) ∧
    (masRun.final (.new (.getMessage .inbox "1" 1) 0, {}) masInboxThenOutbox).1.currentFolder =
      (masRun.final (.new (.getMessage .inbox "1" 1) 0, {}) masInboxThenOutbox).2.folder := by
  have h := mas_operations_run_in_their_folder (.getMessage .inbox "1" 1) 0 masInboxThenOutbox
  exact ⟨by decide +kernel, h.1, h.2 (by decide +kernel)⟩

end Aokie.Radio.Map
