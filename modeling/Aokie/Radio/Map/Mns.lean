import Aokie.Lib.Run
import Aokie.Lib.Utf8
import Aokie.Radio.Map.Listing
import Aokie.Radio.Obex.Packet

/-! The server that phones push their message notifications to. -/

namespace Aokie.Radio.Map

open Aokie.Lib Aokie.Radio.Obex

def mnsTargetUuid : Bytes :=
  [0xbb, 0x58, 0x2b, 0x41, 0x42, 0x0c, 0x11, 0xdb, 0xb0, 0xde, 0x08, 0x00, 0x20, 0x0c, 0x9a, 0x66]

def defaultMaxPacketLength : UInt16 := 0x4000

def typeEventReport : String := "x-bt/MAP-event-report"

def assignedConnectionId : UInt32 := 0xa04c1e01

def putChainDeadline : Duration := 30 * 1000000000

inductive MnsState
  | awaitingConnect
  | connected
  | assemblingPut
  | disconnected
  | failed (reason : String)
  deriving DecidableEq, Repr

inductive MnsEvent
  | newMessage (handle : String) (folder msgType : Option String)
  | other (eventType : String) (handle : Option String)
  | unparseable (reason : String)
  deriving DecidableEq, Repr

/-- What follows the first `<event` that opens an element of that name. -/
def findEventOpenTag : List Char → Option (List Char)
  | [] => none
  | c :: rest =>
    if "<event".toList.isPrefixOf (c :: rest) then
      match (c :: rest).drop 6 with
      | [] => none
      | next :: after =>
        if isAsciiWhitespace next || next == '/' || next == '>' then some (next :: after) else findEventOpenTag rest
    else findEventOpenTag rest

def parseEventReport (input : Bytes) : MnsEvent :=
  match findEventOpenTag (fromUtf8Lossy input) with
  | none => .unparseable "no <event> element"
  | some after =>
    match elementEnd after with
    | none => .unparseable "<event> tag was never closed"
    | some end_ =>
      let pairs := attributes (after.take end_)
      let last (name : String) : Option String := (pairs.reverse.find? fun pair => pair.1 == name).map Prod.snd
      match last "type", last "handle" with
      | some "NewMessage", some handle => .newMessage handle (last "folder") (last "msg_type")
      | some eventType, handle => .other eventType handle
      | none, _ => .unparseable "<event> missing type attribute"

structure MnsServer where
  state : MnsState := .awaitingConnect
  connectionId : Option UInt32 := none
  body : BodyAssembler := .withLimit notificationBodyLimit
  pendingEvents : List MnsEvent := []
  obexBuffer : Bytes := []
  putChunkAt : Option Instant := none
  deriving DecidableEq, Repr

def buildSimpleResponse (opcode : UInt8) : Bytes := Packet.encode ⟨opcode, [], []⟩

def tryTakeObexPacket (buffer : Bytes) : Except String (Option ℕ) :=
  if buffer.length < 3 then .ok none
  else
    let len := Packet.declaredLength buffer
    if len < 3 then
      .error ("OBEX packet declares length " ++ toString len ++ " (must be >= 3 for the header)")
    else if defaultMaxPacketLength.toNat < len then
      .error ("OBEX packet declares length " ++ toString len ++ " (we take at most " ++
        toString defaultMaxPacketLength.toNat ++ ")")
    else if buffer.length < len then .ok none
    else .ok (some len)

def requestConnectionId (packet : Packet) : Option UInt32 :=
  match packet.header hdrConnectionId with
  | some (.quad _ value) => some value
  | _ => none

def connectionIdDebug : Option UInt32 → String
  | none => "None"
  | some id => "Some(" ++ toString id.toNat ++ ")"

namespace MnsServer

def new : MnsServer := {}

variable (s : MnsServer)

def reset : MnsServer :=
  { s with
    state := .awaitingConnect, connectionId := none, body := .withLimit notificationBodyLimit, putChunkAt := none
    obexBuffer := [] }

def takeEvents : MnsServer × List MnsEvent := ({ s with pendingEvents := [] }, s.pendingEvents)

def putIsStale (now : Instant) : Bool :=
  s.state == .assemblingPut && s.putChunkAt.any fun at_ => putChainDeadline ≤ saturatingDurationSince now at_

def expireStalePut (now : Instant) : MnsServer × Bool :=
  if s.putIsStale now then
    ({ s with body := .withLimit notificationBodyLimit, putChunkAt := none, state := .connected }, true)
  else (s, false)

def handleConnect (packet : Packet) : MnsServer × Bytes :=
  let targetOk := match packet.header hdrTarget with
    | some (.byteSeq _ value) => value == mnsTargetUuid
    | _ => false
  if !targetOk then
    ({ s with state := .failed "CONNECT had wrong/missing Target UUID" },
      buildConnectResponse rspBadRequest defaultMaxPacketLength none none)
  else
    ({ s with connectionId := some assignedConnectionId, state := .connected },
      buildConnectResponse rspOk defaultMaxPacketLength (some assignedConnectionId) (some mnsTargetUuid))

def handleDisconnect : MnsServer × Bytes := ({ s with state := .disconnected }, buildSimpleResponse rspOk)

def typeMatches (packet : Packet) : Bool :=
  match packet.header hdrType with
  | some (.byteSeq _ value) => value.takeWhile (· != 0) == intoBytes typeEventReport
  | _ => false

def finishPut : MnsServer × Bytes :=
  ({ s with
      putChunkAt := none
      pendingEvents := s.pendingEvents ++ [parseEventReport s.body.bytes]
      body := .withLimit notificationBodyLimit
      state := .connected },
    buildSimpleResponse rspOk)

/-- The body of a PUT that belongs to the session and, if it is a first one, has the right type. -/
def assemblePut (now : Instant) (packet : Packet) (isFinal : Bool) : MnsServer × Bytes :=
  match s.body.push packet with
  | (_, .error reason) =>
    ({ s with body := .withLimit notificationBodyLimit, putChunkAt := none, state := .failed reason },
      buildSimpleResponse rspBadRequest)
  | (body, .ok _) =>
    if !isFinal then
      ({ s with body, putChunkAt := some now, state := .assemblingPut }, buildSimpleResponse rspContinue)
    else { s with body }.finishPut

def handlePut (now : Instant) (packet : Packet) (isFinal : Bool) : MnsServer × Bytes :=
  if s.state ≠ .connected ∧ s.state ≠ .assemblingPut then (s, buildSimpleResponse rspServiceUnavailable)
  else
    let (s, _) := s.expireStalePut now
    let connId := requestConnectionId packet
    if connId ≠ s.connectionId then
      ({ s with state := .failed ("PUT Connection-Id " ++ connectionIdDebug connId ++ " does not match issued " ++
          connectionIdDebug s.connectionId) }, buildSimpleResponse rspBadRequest)
    else if s.state = .connected ∧ !typeMatches packet then (s, buildSimpleResponse rspNotFound)
    else s.assemblePut now packet isFinal

def handleRequest (now : Instant) (packet : Packet) : MnsServer × Bytes :=
  let opcodeNoFinal := packet.opcode &&& 0x7f
  let isFinal := packet.opcode &&& 0x80 != 0
  if opcodeNoFinal = opConnect &&& 0x7f then s.handleConnect packet
  else if opcodeNoFinal = opDisconnect &&& 0x7f then s.handleDisconnect
  else if opcodeNoFinal = opPut then s.handlePut now packet isFinal
  else (s, buildSimpleResponse rspNotImplemented)

def refuseHeader (reason : String) : MnsServer × Bytes :=
  ({ s with
      obexBuffer := [], body := .withLimit notificationBodyLimit, putChunkAt := none
      state := .failed ("OBEX header malformed: " ++ reason) },
    buildSimpleResponse rspBadRequest)

def refusePacket (reason : String) : MnsServer × Bytes :=
  ({ s with state := .failed ("OBEX parse failed: " ++ reason) }, buildSimpleResponse rspBadRequest)

def requestFixed (packet : Bytes) : FixedPayload :=
  if packet.getD 0 0 &&& 0x7f = opConnect &&& 0x7f then .connect else .none

/-- One round of the loop of `feed_bytes`; `true` when another follows. -/
def pump (now : Instant) : MnsServer × List Bytes × Bool :=
  match tryTakeObexPacket s.obexBuffer with
  | .ok none => (s, [], false)
  | .error reason => (s.refuseHeader reason).map id fun reply => ([reply], false)
  | .ok (some take) =>
    let packet := s.obexBuffer.take take
    let s := { s with obexBuffer := s.obexBuffer.drop take }
    match Packet.parse packet (requestFixed packet) with
    | .error reason => (s.refusePacket reason).map id fun reply => ([reply], false)
    | .ok parsed => (s.handleRequest now parsed).map id fun reply => ([reply], true)

def receive (bytes : Bytes) : MnsServer := { s with obexBuffer := s.obexBuffer ++ bytes }

/-- Every round but the last takes a packet, so the buffer's length is enough fuel. -/
def pumpAll (now : Instant) : ℕ → MnsServer → MnsServer × List Bytes
  | 0, s => (s, [])
  | fuel + 1, s =>
    match s.pump now with
    | (s, replies, false) => (s, replies)
    | (s, replies, true) => (pumpAll now fuel s).map id (replies ++ ·)

def feedBytes (now : Instant) (bytes : Bytes) : MnsServer × List Bytes :=
  pumpAll now (s.receive bytes).obexBuffer.length.succ (s.receive bytes)

end MnsServer

end Aokie.Radio.Map
