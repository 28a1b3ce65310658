import Aokie.Lib.BigEndian

/-! SDP data elements on the wire: a descriptor byte, for some types a length, and the value. -/

namespace Aokie.Radio.Sdp

open Aokie.Lib

inductive DataElement
  | uint8 (value : UInt8)
  | uint16 (value : UInt16)
  | uint32 (value : UInt32)
  | uuid16 (value : UInt16)
  | bool (value : Bool)
  | text (value : String)
  | sequence (value : Bytes)
  deriving DecidableEq, Repr

inductive ParsedDataElement
  | nil
  | uint8 (value : UInt8)
  | uint16 (value : UInt16)
  | uint32 (value : UInt32)
  | uint64 (value : UInt64)
  | uint128 (value : Bytes)
  | int8 (value : Int8)
  | int16 (value : Int16)
  | int32 (value : Int32)
  | int64 (value : Int64)
  | int128 (value : Bytes)
  | uuid16 (value : UInt16)
  | uuid32 (value : UInt32)
  | uuid128 (value : Bytes)
  | bool (value : Bool)
  | text (value : Bytes)
  | sequence (value : Bytes)
  | alternative (value : Bytes)
  | url (value : Bytes)
  deriving DecidableEq

def baseUuidTail : Bytes := [0x00, 0x00, 0x10, 0x00, 0x80, 0x00, 0x00, 0x80, 0x5f, 0x9b, 0x34, 0xfb]

def bytesDebug (bytes : Bytes) : String := "[" ++ ", ".intercalate (bytes.map fun byte => toString byte.toNat) ++ "]"

def baseUuid16 (bytes : Bytes) : Option UInt16 :=
  if bytes.take 2 = [0, 0] ∧ bytes.drop 4 = baseUuidTail then
    some (u16FromBeBytes [bytes.getD 2 0, bytes.getD 3 0])
  else none

namespace ParsedDataElement

def asUuid16 : ParsedDataElement → Option UInt16
  | uuid16 u => some u
  | uuid32 u => if u.toNat ≤ 65535 then some (UInt16.ofNat u.toNat) else none
  | uuid128 bytes => baseUuid16 bytes
  | _ => none

def isUuid : ParsedDataElement → Bool
  | uuid16 _ | uuid32 _ | uuid128 _ => true
  | _ => false

def debug : ParsedDataElement → String
  | nil => "Nil"
  | uint8 value => "Uint8(" ++ toString value.toNat ++ ")"
  | uint16 value => "Uint16(" ++ toString value.toNat ++ ")"
  | uint32 value => "Uint32(" ++ toString value.toNat ++ ")"
  | uint64 value => "Uint64(" ++ toString value.toNat ++ ")"
  | uint128 value => "Uint128(" ++ bytesDebug value ++ ")"
  | int8 value => "Int8(" ++ toString value.toInt ++ ")"
  | int16 value => "Int16(" ++ toString value.toInt ++ ")"
  | int32 value => "Int32(" ++ toString value.toInt ++ ")"
  | int64 value => "Int64(" ++ toString value.toInt ++ ")"
  | int128 value => "Int128(" ++ bytesDebug value ++ ")"
  | uuid16 value => "Uuid16(" ++ toString value.toNat ++ ")"
  | uuid32 value => "Uuid32(" ++ toString value.toNat ++ ")"
  | uuid128 value => "Uuid128(" ++ bytesDebug value ++ ")"
  | bool value => "Bool(" ++ (if value then "true" else "false") ++ ")"
  | text value => "Text(" ++ bytesDebug value ++ ")"
  | sequence value => "Sequence(" ++ bytesDebug value ++ ")"
  | alternative value => "Alternative(" ++ bytesDebug value ++ ")"
  | url value => "Url(" ++ bytesDebug value ++ ")"

end ParsedDataElement

def encodeVariableElement (baseDescriptor : UInt8) (payload : Bytes) : Bytes :=
  if payload.length ≤ 255 then baseDescriptor :: UInt8.ofNat payload.length :: payload
  else if payload.length ≤ 65535 then (baseDescriptor + 1) :: u16ToBeBytes (UInt16.ofNat payload.length) ++ payload
  else (baseDescriptor + 2) :: u32ToBeBytes (UInt32.ofNat payload.length) ++ payload

def encodeDataElement : DataElement → Bytes
  | .uint8 value => [0x08, value]
  | .uint16 value => 0x09 :: u16ToBeBytes value
  | .uint32 value => 0x0a :: u32ToBeBytes value
  | .uuid16 value => 0x19 :: u16ToBeBytes value
  | .bool value => [0x28, if value then 1 else 0]
  | .text value => encodeVariableElement 0x25 (intoBytes value)
  | .sequence value => encodeVariableElement 0x35 value

def requireLen (input : Bytes) (minLen : ℕ) (name : String) : Except String Unit :=
  ensure (minLen ≤ input.length)
    (name ++ " is too short: expected " ++ toString minLen ++ " bytes, got " ++ toString input.length)

def fixed (input : Bytes) (len : ℕ) (name : String) : Except String Bytes := do
  requireLen input (1 + len) name
  return (input.drop 1).take len

/-- The payload of an element whose length field is `width` bytes, and the bytes it takes. -/
def variablePayload (input : Bytes) (width : ℕ) : Except String (Bytes × ℕ) := do
  let headerLen := 1 + width
  requireLen input headerLen "SDP variable element"
  let len := beNat ((input.drop 1).take width)
  requireLen input (headerLen + len) "SDP variable element payload"
  return ((input.drop headerLen).take len, headerLen + len)

def parseDataElement (input : Bytes) : Except String (ParsedDataElement × ℕ) :=
  match input with
  | [] => .error "SDP data element is empty"
  | descriptor :: _ =>
    match descriptor.toNat with
    | 0x00 => .ok (.nil, 1)
    | 0x0b => do return (.uint64 (UInt64.ofNat (beNat (← fixed input 8 "SDP uint64"))), 9)
    | 0x0c => do return (.uint128 (← fixed input 16 "SDP uint128"), 17)
    | 0x10 => do return (.int8 (UInt8.ofNat (beNat (← fixed input 1 "SDP int8"))).toInt8, 2)
    | 0x11 => do return (.int16 (UInt16.ofNat (beNat (← fixed input 2 "SDP int16"))).toInt16, 3)
    | 0x12 => do return (.int32 (UInt32.ofNat (beNat (← fixed input 4 "SDP int32"))).toInt32, 5)
    | 0x13 => do return (.int64 (UInt64.ofNat (beNat (← fixed input 8 "SDP int64"))).toInt64, 9)
    | 0x14 => do return (.int128 (← fixed input 16 "SDP int128"), 17)
    | 0x1a => do return (.uuid32 (u32FromBeBytes (← fixed input 4 "SDP uuid32")), 5)
    | 0x1c => do return (.uuid128 (← fixed input 16 "SDP uuid128"), 17)
    | 0x08 => do return (.uint8 (UInt8.ofNat (beNat (← fixed input 1 "SDP uint8"))), 2)
    | 0x09 => do return (.uint16 (u16FromBeBytes (← fixed input 2 "SDP uint16")), 3)
    | 0x0a => do return (.uint32 (u32FromBeBytes (← fixed input 4 "SDP uint32")), 5)
    | 0x19 => do return (.uuid16 (u16FromBeBytes (← fixed input 2 "SDP uuid16")), 3)
    | 0x28 => do return (.bool (beNat (← fixed input 1 "SDP boolean") != 0), 2)
    | 0x25 => do let (payload, total) ← variablePayload input 1; return (.text payload, total)
    | 0x26 => do let (payload, total) ← variablePayload input 2; return (.text payload, total)
    | 0x27 => do let (payload, total) ← variablePayload input 4; return (.text payload, total)
    | 0x35 => do let (payload, total) ← variablePayload input 1; return (.sequence payload, total)
    | 0x36 => do let (payload, total) ← variablePayload input 2; return (.sequence payload, total)
    | 0x37 => do let (payload, total) ← variablePayload input 4; return (.sequence payload, total)
    | 0x3d => do let (payload, total) ← variablePayload input 1; return (.alternative payload, total)
    | 0x3e => do let (payload, total) ← variablePayload input 2; return (.alternative payload, total)
    | 0x3f => do let (payload, total) ← variablePayload input 4; return (.alternative payload, total)
    | 0x45 => do let (payload, total) ← variablePayload input 1; return (.url payload, total)
    | 0x46 => do let (payload, total) ← variablePayload input 2; return (.url payload, total)
    | 0x47 => do let (payload, total) ← variablePayload input 4; return (.url payload, total)
    | other => .error ("unsupported SDP data element descriptor 0x" ++ hex 2 other)

end Aokie.Radio.Sdp
