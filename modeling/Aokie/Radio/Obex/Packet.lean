import Aokie.Lib.BigEndian
import Aokie.Lib.Utf16

/-! OBEX packets and their headers on the wire, the request builders, and the assembly of bodies that span
packets. -/

namespace Aokie.Radio.Obex

open Aokie.Lib

def opConnect : UInt8 := 0x80
def opDisconnect : UInt8 := 0x81
def opPut : UInt8 := 0x02
def opPutFinal : UInt8 := 0x82
def opGetFinal : UInt8 := 0x83
def opSetpath : UInt8 := 0x85

def rspContinue : UInt8 := 0x90
def rspOk : UInt8 := 0xa0
def rspBadRequest : UInt8 := 0xc0
def rspNotFound : UInt8 := 0xc4
def rspNotImplemented : UInt8 := 0xd1
def rspServiceUnavailable : UInt8 := 0xd3

def hdrName : UInt8 := 0x01
def hdrType : UInt8 := 0x42
def hdrTarget : UInt8 := 0x46
def hdrBody : UInt8 := 0x48
def hdrEndOfBody : UInt8 := 0x49
def hdrWho : UInt8 := 0x4a
def hdrConnectionId : UInt8 := 0xcb
def hdrAppParameters : UInt8 := 0x4c
def hdrSrm : UInt8 := 0x97

inductive HeaderKind
  | unicode
  | byteSeq
  | byte
  | quad
  deriving DecidableEq, Repr

def headerKind (id : UInt8) : HeaderKind :=
  let bits := id &&& 0xc0
  if bits = 0x00 then .unicode
  else if bits = 0x40 then .byteSeq
  else if bits = 0x80 then .byte
  else .quad

inductive Header
  | unicode (id : UInt8) (value : String)
  | byteSeq (id : UInt8) (value : Bytes)
  | byte (id : UInt8) (value : UInt8)
  | quad (id : UInt8) (value : UInt32)
  deriving DecidableEq, Repr

def requireLen (input : Bytes) (minLen : ℕ) (name : String) : Except String Unit :=
  ensure (minLen ≤ input.length)
    (name ++ " is too short: expected at least " ++ toString minLen ++ " bytes, got " ++ toString input.length)

/-- The code units of `chunks_exact(2)`. -/
def beUnits : Bytes → List UInt16
  | hi :: lo :: rest => u16FromBeBytes [hi, lo] :: beUnits rest
  | _ => []

namespace Header

def id : Header → UInt8
  | unicode id _ | byteSeq id _ | byte id _ | quad id _ => id

def kind : Header → HeaderKind
  | unicode _ _ => .unicode
  | byteSeq _ _ => .byteSeq
  | byte _ _ => .byte
  | quad _ _ => .quad

def encode : Header → Bytes
  | unicode id value =>
    let utf16 := encodeUtf16 value.toList
    let totalLen := UInt16.ofNat (1 + 2 + utf16.length * 2 + 2)
    id :: u16ToBeBytes totalLen ++ utf16.flatMap u16ToBeBytes ++ [0, 0]
  | byteSeq id value => id :: u16ToBeBytes (UInt16.ofNat (1 + 2 + value.length)) ++ value
  | byte id value => [id, value]
  | quad id value => id :: u32ToBeBytes value

def sized (input : Bytes) (name : String) : Except String (Bytes × ℕ) := do
  requireLen input 3 ("OBEX " ++ name ++ " header length")
  let totalLen := (u16FromBeBytes [input.getD 1 0, input.getD 2 0]).toNat
  ensure (3 ≤ totalLen ∧ totalLen ≤ input.length)
    ("OBEX " ++ name ++ " header total_len " ++ toString totalLen ++ " doesn't fit in " ++ toString input.length ++
      " bytes")
  return ((input.take totalLen).drop 3, totalLen)

def stripTerminator (body : Bytes) : Bytes :=
  if 2 ≤ body.length ∧ body.drop (body.length - 2) = [0, 0] then body.take (body.length - 2) else body

def parse (input : Bytes) : Except String (Header × ℕ) :=
  match input with
  | [] => .error "OBEX header is empty"
  | id :: _ =>
    match headerKind id with
    | .unicode => do
      let (body, totalLen) ← sized input "Unicode"
      ensure (body.length % 2 = 0) "OBEX Unicode header body length not even"
      match decodeUtf16 (beUnits (stripTerminator body)) with
      | none => .error "OBEX Unicode header is not valid UTF-16"
      | some value => .ok (unicode id (String.ofList value), totalLen)
    | .byteSeq => do
      let (value, totalLen) ← sized input "ByteSeq"
      return (byteSeq id value, totalLen)
    | .byte => do
      requireLen input 2 "OBEX Byte header"
      return (byte id (input.getD 1 0), 2)
    | .quad => do
      requireLen input 5 "OBEX Quad header"
      return (quad id (u32FromBeBytes [input.getD 1 0, input.getD 2 0, input.getD 3 0, input.getD 4 0]), 5)

def name (value : String) : Header := unicode hdrName value

def obexType (value : String) : Header :=
  let bytes := intoBytes value
  byteSeq hdrType (if bytes.getLast? = some 0 then bytes else bytes ++ [0])

def target (uuid : Bytes) : Header := byteSeq hdrTarget uuid
def who (uuid : Bytes) : Header := byteSeq hdrWho uuid
def connectionId (id : UInt32) : Header := quad hdrConnectionId id
def appParameters (bytes : Bytes) : Header := byteSeq hdrAppParameters bytes
def endOfBody (bytes : Bytes) : Header := byteSeq hdrEndOfBody bytes

end Header

inductive FixedPayload
  | none
  | connect
  | setPath
  deriving DecidableEq, Repr

def FixedPayload.len : FixedPayload → ℕ
  | none => 0
  | connect => 4
  | setPath => 2

structure Packet where
  opcode : UInt8
  fixedPayload : Bytes
  headers : List Header
  deriving DecidableEq, Repr

namespace Packet

def encode (p : Packet) : Bytes :=
  let headersBytes := p.headers.flatMap Header.encode
  let total := 3 + p.fixedPayload.length + headersBytes.length
  p.opcode :: u16ToBeBytes (UInt16.ofNat total) ++ p.fixedPayload ++ headersBytes

def declaredLength (input : Bytes) : ℕ := (u16FromBeBytes [input.getD 1 0, input.getD 2 0]).toNat

/-- The loop over the headers between `offset` and `total`; `none` when it has not ended after `fuel` of them. -/
def parseHeaders (input : Bytes) (total : ℕ) (fuel offset : ℕ) (headers : List Header) :
    Option (Except String (List Header)) :=
  if offset < total then
    match fuel with
    | 0 => none
    | fuel + 1 =>
      match Header.parse ((input.take total).drop offset) with
      | .error message => some (.error message)
      | .ok (header, used) => parseHeaders input total fuel (offset + used) (headers ++ [header])
  else some (.ok headers)

def parseWithin (fuel : ℕ) (input : Bytes) (fixed : FixedPayload) : Option (Except String Packet) :=
  match requireLen input 3 "OBEX packet header" with
  | .error message => some (.error message)
  | .ok () =>
    let opcode := input.getD 0 0
    let total := declaredLength input
    if total < 3 + fixed.len then
      some (.error ("OBEX packet length " ++ toString total ++ " too small for opcode 0x" ++ hex 2 opcode.toNat ++
        " + fixed-payload " ++ toString fixed.len ++ "B"))
    else if input.length < total then
      some (.error ("OBEX packet length " ++ toString total ++ " exceeds buffer " ++ toString input.length))
    else
      let fixedEnd := 3 + fixed.len
      let fixedPayload := (input.take fixedEnd).drop 3
      (parseHeaders input total fuel fixedEnd []).map (Except.map fun headers => ⟨opcode, fixedPayload, headers⟩)

/-- The loop ends before it has read a header for every byte, so the default is never taken. -/
def parse (input : Bytes) (fixed : FixedPayload) : Except String Packet :=
  (parseWithin input.length input fixed).getD (.error "")

def header (p : Packet) (id : UInt8) : Option Header := p.headers.find? fun h => h.id == id

end Packet

def buildConnectFixed (version flags : UInt8) (maxPacketLength : UInt16) : Bytes :=
  [version, flags] ++ u16ToBeBytes maxPacketLength

def buildConnectRequest (targetUuid : Option Bytes) (maxPacketLength : UInt16) : Bytes :=
  Packet.encode ⟨opConnect, buildConnectFixed 0x10 0x00 maxPacketLength, (targetUuid.map Header.target).toList⟩

def buildConnectResponse (rsp : UInt8) (maxPacketLength : UInt16) (connectionId : Option UInt32)
    (who : Option Bytes) : Bytes :=
  Packet.encode ⟨rsp, buildConnectFixed 0x10 0x00 maxPacketLength,
    (connectionId.map Header.connectionId).toList ++ (who.map Header.who).toList⟩

def buildDisconnect (connectionId : Option UInt32) : Bytes :=
  Packet.encode ⟨opDisconnect, [], (connectionId.map Header.connectionId).toList⟩

def buildGetRequest (connectionId : UInt32) (additional : List Header) : Bytes :=
  Packet.encode ⟨opGetFinal, [], .connectionId connectionId :: additional⟩

def buildGetContinuation (connectionId : UInt32) : Bytes :=
  Packet.encode ⟨opGetFinal, [], [.connectionId connectionId]⟩

def setpathFlagBackup : UInt8 := 0x01
def setpathFlagNocreate : UInt8 := 0x02

def buildSetpath (connectionId : UInt32) (name : Option String) (flags : UInt8) : Bytes :=
  Packet.encode ⟨opSetpath, [flags, 0], .connectionId connectionId :: (name.map Header.name).toList⟩

def buildPutRequest (connectionId : UInt32) (additionalHeaders : List Header) (body : Bytes) : Bytes :=
  Packet.encode ⟨opPutFinal, [], .connectionId connectionId :: additionalHeaders ++ [.endOfBody body]⟩

structure BodyAssembler where
  bytes : Bytes := []
  complete : Bool := false
  limit : Option ℕ := none
  deriving DecidableEq, Repr

def notificationBodyLimit : ℕ := 64 * 1024
def messageBodyLimit : ℕ := 4 * 1024 * 1024

def Header.bodyChunk : Header → Option Bytes
  | byteSeq id value => if id = hdrBody ∨ id = hdrEndOfBody then some value else none
  | _ => none

namespace BodyAssembler

def withLimit (limit : ℕ) : BodyAssembler := { limit := some limit }

variable (b : BodyAssembler)

def overLimit (chunk : Bytes) : Option ℕ := b.limit.filter fun limit => decide (limit < b.bytes.length + chunk.length)

def pushHeaders (b : BodyAssembler) : List Header → BodyAssembler × Except String Unit
  | [] => (b, .ok ())
  | h :: rest =>
    match h.bodyChunk with
    | none => pushHeaders b rest
    | some chunk =>
      match b.overLimit chunk with
      | some limit => ({ b with bytes := [] }, .error ("BodyAssembler: body over its " ++ toString limit ++
          "-byte limit (" ++ toString b.bytes.length ++ " bytes held, " ++ toString chunk.length ++ " more came)"))
      | none => pushHeaders
          { b with bytes := b.bytes ++ chunk, complete := b.complete || decide (h.id = hdrEndOfBody) } rest

def push (packet : Packet) : BodyAssembler × Except String Bool :=
  if b.complete then (b, .error "BodyAssembler: response after EndOfBody")
  else
    match b.pushHeaders packet.headers with
    | (b, .error message) => (b, .error message)
    | (b, .ok ()) => (b, .ok b.complete)

end BodyAssembler

def Packet.bodyBytes (p : Packet) : Bytes := (p.headers.filterMap Header.bodyChunk).flatten

end Aokie.Radio.Obex
