import Aokie.Radio.Obex.Packet

/-! The client that lists, reads and sends messages through a phone's message access server. -/

namespace Aokie.Radio.Map

open Aokie.Lib Aokie.Radio.Obex

def masTargetUuid : Bytes :=
  [0xbb, 0x58, 0x2b, 0x40, 0x42, 0x0c, 0x11, 0xdb, 0xb0, 0xde, 0x08, 0x00, 0x20, 0x0c, 0x9a, 0x66]

def masMaxPacketLength : UInt16 := 0x4000

def typeMsgListing : String := "x-bt/MAP-msg-listing"
def typeMessage : String := "x-bt/message"
def typeNotificationRegistration : String := "x-bt/MAP-NotificationRegistration"

def appParamMaxListCount : UInt8 := 0x01
def appParamFilterMessageType : UInt8 := 0x03
def appParamAttachment : UInt8 := 0x0a
def appParamTransparent : UInt8 := 0x0b
def appParamRetry : UInt8 := 0x0c
def appParamCharset : UInt8 := 0x14
def appParamNotificationStatus : UInt8 := 0x0e

inductive Folder
  | inbox
  | outbox
  | sent
  deriving DecidableEq, Repr

def Folder.asStr : Folder → String
  | inbox => "inbox"
  | outbox => "outbox"
  | sent => "sent"

inductive Operation
  | listMessages (folder : Folder) (maxListCount : UInt16) (filterMessageType : UInt8)
  | getMessage (folder : Folder) (handle : String) (charset : UInt8)
  | pushMessage (folder : Folder) (bmessage : Bytes) (charset : UInt8)
  | setNotificationRegistration (enabled : Bool)
  deriving DecidableEq, Repr

def Operation.folder : Operation → Option Folder
  | listMessages folder _ _ | getMessage folder _ _ | pushMessage folder _ _ => some folder
  | setNotificationRegistration _ => none

def Operation.targetFolder (op : Operation) : List String :=
  match op.folder with
  | some folder => ["telecom", "msg", folder.asStr]
  | none => []

inductive SetPathStep
  | up
  | down (name : String)
  deriving DecidableEq, Repr

def SetPathStep.apply (folder : List String) : SetPathStep → List String
  | up => folder.dropLast
  | down name => folder ++ [name]

def SetPathStep.debug : SetPathStep → String
  | up => "Up"
  | down name => "Down(\"" ++ name ++ "\")"

inductive MasState
  | idle
  | awaitingConnect
  | awaitingSetPath (last : SetPathStep) (remaining : List SetPathStep)
  | awaitingFirstGet
  | awaitingContinuation
  | awaitingPut
  | resting
  | awaitingDisconnect
  | done
  | failed (reason : String)
  deriving DecidableEq, Repr

def MasState.debug : MasState → String
  | idle => "Idle"
  | awaitingConnect => "AwaitingConnect"
  | awaitingSetPath last remaining =>
    "AwaitingSetPath \x7b last: " ++ last.debug ++ ", remaining: [" ++
      ", ".intercalate (remaining.map SetPathStep.debug) ++ "] \x7d"
  | awaitingFirstGet => "AwaitingFirstGet"
  | awaitingContinuation => "AwaitingContinuation"
  | awaitingPut => "AwaitingPut"
  | resting => "Resting"
  | awaitingDisconnect => "AwaitingDisconnect"
  | done => "Done"
  | failed reason => "Failed(\"" ++ reason ++ "\")"

inductive OperationOutput
  | listing (body : Bytes)
  | message (body : Bytes)
  | pushAcknowledged
  | pending
  deriving DecidableEq, Repr

structure MasMceSession where
  state : MasState
  operation : Operation
  masInstanceId : UInt8
  connectionId : Option UInt32
  body : BodyAssembler
  output : OperationOutput
  keepAlive : Bool
  currentFolder : List String
  srmActive : Bool
  deriving DecidableEq, Repr

def appParamU8 (tag value : UInt8) : Bytes := [tag, 1, value]

def appParamU16 (tag : UInt8) (value : UInt16) : Bytes := [tag, 2] ++ u16ToBeBytes value

def pushMessageHeaders (charset : UInt8) : List Header :=
  [.name "", .obexType typeMessage,
    .appParameters (appParamU8 appParamCharset charset ++ appParamU8 appParamTransparent 0 ++
      appParamU8 appParamRetry 1)]

def buildSetpathStep (connectionId : UInt32) : SetPathStep → Bytes
  | .up => buildSetpath connectionId none (setpathFlagBackup ||| setpathFlagNocreate)
  | .down name => buildSetpath connectionId (some name) 0

-- the source parses its own CONNECT again to add a header, and expects that to succeed
def buildConnectRequestWithMasInstance (masInstanceId : UInt8) : Bytes :=
  match Packet.parse (buildConnectRequest (some masTargetUuid) masMaxPacketLength) .connect with
  | .ok packet => { packet with headers := packet.headers ++ [Header.appParameters
      (appParamU8 0x0f masInstanceId)] }.encode
  | .error _ => []

def requireResponseCode (packet : Packet) (expected : List UInt8) (context : String) : Except String Unit :=
  ensure (packet.opcode ∈ expected)
    ("MAS " ++ context ++ ": server returned 0x" ++ hex 2 packet.opcode.toNat ++ " (expected one of [" ++
      ", ".intercalate (expected.map fun code => toString code.toNat) ++ "])")

namespace MasMceSession

def new (operation : Operation) (masInstanceId : UInt8) : MasMceSession :=
  { state := .idle, operation, masInstanceId, connectionId := none, body := .withLimit messageBodyLimit,
    output := .pending, keepAlive := false, currentFolder := [], srmActive := false }

variable (s : MasMceSession)

def setKeepAlive (keepAlive : Bool) : MasMceSession := { s with keepAlive }

def nextRequest : MasMceSession × Option Bytes :=
  match s.state with
  | .idle => ({ s with state := .awaitingConnect }, some (buildConnectRequestWithMasInstance s.masInstanceId))
  | _ => (s, none)

def requiredConnectionId : Except String UInt32 :=
  match s.connectionId with
  | some conn => .ok conn
  | none => .error "MAS session has no Connection-Id"

def withConnectionId (f : UInt32 → MasMceSession × Except String (Option Bytes)) :
    MasMceSession × Except String (Option Bytes) :=
  match s.requiredConnectionId with
  | .error reason => (s, .error reason)
  | .ok conn => f conn

def startOperation (conn : UInt32) : MasMceSession × Except String (Option Bytes) :=
  match s.operation with
  | .listMessages _ maxListCount filterMessageType =>
    ({ s with state := .awaitingFirstGet },
      .ok (some (buildGetRequest conn
        [.obexType typeMsgListing,
          .appParameters (appParamU16 appParamMaxListCount maxListCount ++
            appParamU8 appParamFilterMessageType filterMessageType),
          .byte hdrSrm 0x01])))
  | .getMessage _ handle charset =>
    ({ s with state := .awaitingFirstGet },
      .ok (some (buildGetRequest conn
        [.name handle, .obexType typeMessage,
          .appParameters (appParamU8 appParamAttachment 0 ++ appParamU8 appParamCharset charset),
          .byte hdrSrm 0x01])))
  | .pushMessage _ bmessage charset =>
    ({ s with state := .awaitingPut }, .ok (some (buildPutRequest conn (pushMessageHeaders charset) bmessage)))
  | .setNotificationRegistration enabled =>
    ({ s with state := .awaitingPut },
      .ok (some (buildPutRequest conn
        [.name "", .obexType typeNotificationRegistration,
          .appParameters (appParamU8 appParamNotificationStatus (if enabled then 1 else 0))]
        (intoBytes (if enabled then "1" else "0")))))

/-- The steps from one folder to another: up to the common parent and down from there. -/
def setPathSteps (current target : List String) : List SetPathStep :=
  let common := ((current.zip target).takeWhile fun pair => pair.1 == pair.2).length
  List.replicate (current.length - common) .up ++ (target.drop common).map .down

def navigateTo (conn : UInt32) (target : List String) : MasMceSession × Except String (Option Bytes) :=
  match setPathSteps s.currentFolder target with
  | [] => s.startOperation conn
  | first :: remaining =>
    ({ s with state := .awaitingSetPath first remaining }, .ok (some (buildSetpathStep conn first)))

def finalizeOpOrDisconnect : MasMceSession × Except String (Option Bytes) :=
  if s.keepAlive then ({ s with state := .resting }, .ok none)
  else s.withConnectionId fun conn =>
    ({ s with state := .awaitingDisconnect }, .ok (some (buildDisconnect (some conn))))

def observeSrm (response : Packet) : MasMceSession :=
  if s.srmActive then s
  else
    match response.header hdrSrm with
    | some (.byte _ value) => if value = 0x01 then { s with srmActive := true } else s
    | _ => s

def connected (response : Packet) : MasMceSession × Except String (Option Bytes) :=
  match requireResponseCode response [rspOk] "CONNECT" with
  | .error reason => (s, .error reason)
  | .ok () =>
    match response.header hdrConnectionId with
    | some (.quad _ conn) =>
      { s with connectionId := some conn, currentFolder := [] }.navigateTo conn s.operation.targetFolder
    | _ => (s, .error "MAS accepted CONNECT but omitted Connection-Id")

def moved (last : SetPathStep) (remaining : List SetPathStep) (response : Packet) :
    MasMceSession × Except String (Option Bytes) :=
  match requireResponseCode response [rspOk] "SETPATH" with
  | .error reason => (s, .error reason)
  | .ok () => s.withConnectionId fun conn =>
    let s := { s with currentFolder := last.apply s.currentFolder }
    match remaining with
    | [] => s.startOperation conn
    | next :: remaining =>
      ({ s with state := .awaitingSetPath next remaining }, .ok (some (buildSetpathStep conn next)))

def received : MasMceSession × Except String (Option Bytes) :=
  match s.operation with
  | .listMessages _ _ _ => { s with output := .listing s.body.bytes }.finalizeOpOrDisconnect
  | .getMessage _ _ _ => { s with output := .message s.body.bytes }.finalizeOpOrDisconnect
  | .pushMessage _ _ _ | .setNotificationRegistration _ =>
    (s, .error "MAS GET response arrived for a PUT-shaped operation")

def got (response : Packet) : MasMceSession × Except String (Option Bytes) :=
  let s := s.observeSrm response
  if response.opcode = rspContinue then
    match s.body.push response with
    | (body, .error reason) => ({ s with body }, .error reason)
    | (body, .ok _) =>
      let s := { s with body }
      s.withConnectionId fun conn =>
        ({ s with state := .awaitingContinuation },
          .ok (if s.srmActive then none else some (buildGetContinuation conn)))
  else if response.opcode = rspOk then
    match s.body.push response with
    | (body, .error reason) => ({ s with body }, .error reason)
    | (body, .ok _) =>
      let s := { s with body }
      if !s.body.complete then (s, .error "MAS server sent OK without EndOfBody") else s.received
  else (s, .error ("MAS GET: unexpected response 0x" ++ hex 2 response.opcode.toNat))

def advance (response : Packet) : MasMceSession × Except String (Option Bytes) :=
  match s.state with
  | .awaitingConnect => s.connected response
  | .awaitingSetPath last remaining => s.moved last remaining response
  | .awaitingFirstGet | .awaitingContinuation => s.got response
  | .awaitingPut =>
    match requireResponseCode response [rspOk] "PUT" with
    | .error reason => (s, .error reason)
    | .ok () => { s with output := .pushAcknowledged }.finalizeOpOrDisconnect
  | .awaitingDisconnect => ({ s with state := .done }, .ok none)
  | .resting => (s, .error "MAS response received while Resting (no op in flight)")
  | .idle => (s, .error "MAS response received while Idle")
  | .done | .failed _ => (s, .error "MAS response received after session terminated")

def handleResponse (response : Packet) : MasMceSession × Option Bytes :=
  match s.advance response with
  | (s, .ok next) => (s, next)
  | (s, .error reason) => ({ s with state := .failed reason }, none)

def startNextOp (operation : Operation) : MasMceSession × Except String Bytes :=
  if s.state ≠ .resting then (s, .error ("start_next_op called in non-Resting state: " ++ s.state.debug))
  else
    match s.requiredConnectionId with
    | .error reason => (s, .error reason)
    | .ok conn =>
      let s := { s with
        body := .withLimit messageBodyLimit, output := .pending, operation, srmActive := false }
      match s.navigateTo conn operation.targetFolder with
      | (s, .error reason) => (s, .error reason)
      | (s, .ok none) => (s, .error "start_next_op produced no outbound packet (state machine bug)")
      | (s, .ok (some packet)) => (s, .ok packet)

def requestDisconnect : MasMceSession × Except String Bytes :=
  if s.state ≠ .resting then (s, .error ("request_disconnect called in non-Resting state: " ++ s.state.debug))
  else
    match s.requiredConnectionId with
    | .error reason => (s, .error reason)
    | .ok conn => ({ s with state := .awaitingDisconnect }, .ok (buildDisconnect (some conn)))

end MasMceSession

end Aokie.Radio.Map
