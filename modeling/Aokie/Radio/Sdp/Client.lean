import Aokie.Radio.Sdp.Server

/-! The queries sent to a phone and what is read out of its answers. -/

namespace Aokie.Radio.Sdp.Client

open Aokie.Lib

def requireLen (input : Bytes) (minLen : ℕ) (name : String) : Except String Unit :=
  ensure (minLen ≤ input.length)
    (name ++ " is too short: expected at least " ++ toString minLen ++ " bytes, got " ++ toString input.length)

def buildServiceSearchAttributeRequestContinued (transactionId serviceClassUuid maxAttributeBytes : UInt16)
    (continuationState : Bytes) : Bytes :=
  let searchPattern := encodeDataElement (.uuid16 serviceClassUuid)
  let attrIdList := encodeDataElement (.uint32 0x0000ffff)
  let continuationState := continuationState.take 16
  let params := encodeDataElement (.sequence searchPattern) ++ u16ToBeBytes maxAttributeBytes ++
    encodeDataElement (.sequence attrIdList) ++ UInt8.ofNat continuationState.length :: continuationState
  pduServiceSearchAttributeRequest :: u16ToBeBytes transactionId ++ u16ToBeBytes (UInt16.ofNat params.length) ++ params

def buildServiceSearchAttributeRequest (transactionId serviceClassUuid maxAttributeBytes : UInt16) : Bytes :=
  buildServiceSearchAttributeRequestContinued transactionId serviceClassUuid maxAttributeBytes []

structure ServiceSearchAttributeResponse where
  transactionId : UInt16
  attributeLists : Bytes
  continuationState : Bytes
  deriving DecidableEq, Repr

def parseServiceSearchAttributeResponse (packet : Bytes) : Except String ServiceSearchAttributeResponse := do
  requireLen packet 5 "SDP response PDU header"
  ensure (packet.getD 0 0 = pduServiceSearchAttributeResponse)
    ("expected SDP ServiceSearchAttributeResponse 0x07, got 0x" ++ hex 2 (packet.getD 0 0).toNat)
  let transactionId := u16FromBeBytes [packet.getD 1 0, packet.getD 2 0]
  let paramLen := (u16FromBeBytes [packet.getD 3 0, packet.getD 4 0]).toNat
  requireLen packet (5 + paramLen) "SDP response parameters"
  let params := (packet.drop 5).take paramLen
  requireLen params 2 "SDP AttributeListsByteCount"
  let attrListsLen := (u16FromBeBytes (params.take 2)).toNat
  ensure (2 + attrListsLen ≤ params.length)
    ("SDP AttributeListsByteCount " ++ toString attrListsLen ++ " exceeds parameters " ++ toString
    (params.length - 2) ++
      "B")
  let attributeLists := (params.drop 2).take attrListsLen
  let continuation := params.drop (2 + attrListsLen)
  ensure (continuation ≠ []) "SDP response missing continuation state byte"
  let continuationLen := (continuation.getD 0 0).toNat
  ensure (1 + continuationLen ≤ continuation.length)
    ("SDP continuation state declared " ++ toString continuationLen ++ "B but only " ++
      toString (continuation.length - 1) ++ "B remain")
  return ⟨transactionId, attributeLists, (continuation.drop 1).take continuationLen⟩

/-- The loops below take at least a byte with every element, so the length of what they read is enough fuel. -/
def recordsFrom : ℕ → Bytes → List Bytes → Except String (List Bytes)
  | 0, _, records => .ok records
  | fuel + 1, payload, records =>
    if payload.isEmpty then .ok records
    else do
      let (inner, used) ← parseDataElement payload
      let record ← sequencePayload inner "SDP record root is not a sequence"
      recordsFrom fuel (payload.drop used) (records ++ [record])

def iterRecords (attributeLists : Bytes) : Except String (List Bytes) := do
  let (outer, used) ← parseDataElement attributeLists
  ensure (used = attributeLists.length)
    ("SDP AttributeLists has " ++ toString (attributeLists.length - used) ++ " trailing bytes after the outer sequence")
  let payload ← sequencePayload outer "SDP AttributeLists is not a sequence"
  recordsFrom payload.length payload []

def findAttributeFrom (attrId : UInt16) : ℕ → Bytes → Except String (Option Bytes)
  | 0, _ => .ok none
  | fuel + 1, payload =>
    if payload.isEmpty then .ok none
    else do
      let (idElem, used) ← parseDataElement payload
      match idElem with
      | .uint16 id =>
        let payload := payload.drop used
        let (_, valueUsed) ← parseDataElement payload
        if id = attrId then return some (payload.take valueUsed)
        else findAttributeFrom attrId fuel (payload.drop valueUsed)
      | _ => .error ("SDP record attribute id is not Uint16 (got " ++ idElem.debug ++ ")")

def findAttribute (record : Bytes) (attrId : UInt16) : Except String (Option Bytes) :=
  findAttributeFrom attrId record.length record

def descriptorChannel (descriptor : Bytes) : Except String (Option UInt8) := do
  let (uuidElem, uuidUsed) ← parseDataElement descriptor
  let afterUuid := descriptor.drop uuidUsed
  match uuidElem.asUuid16 with
  | none =>
    -- some phones write the UUID as a plain number
    match uuidElem, parseDataElement afterUuid with
    | .uint16 uuid, .ok (.uint8 channel, _) => return if uuid = uuidRfcomm then some channel else none
    | _, _ => return none
  | some uuid =>
    if uuid = uuidRfcomm then
      ensure (afterUuid ≠ []) "RFCOMM descriptor missing server-channel byte"
      let (channelElem, _) ← parseDataElement afterUuid
      match channelElem with
      | .uint8 channel => return some channel
      | .uint16 channel =>
        if channel.toNat ≤ 255 then return some (UInt8.ofNat channel.toNat)
        else .error ("RFCOMM channel is not Uint8 (got " ++ channelElem.debug ++ ")")
      | other => .error ("RFCOMM channel is not Uint8 (got " ++ other.debug ++ ")")
    else return none

def rfcommChannelFrom : ℕ → Bytes → Except String (Option UInt8)
  | 0, _ => .ok none
  | fuel + 1, payload =>
    if payload.isEmpty then .ok none
    else do
      let (element, used) ← parseDataElement payload
      let descriptor ← sequencePayload element "SDP ProtocolDescriptorList entry is not a sequence"
      match ← descriptorChannel descriptor with
      | some channel => return some channel
      | none => rfcommChannelFrom fuel (payload.drop used)

def extractRfcommChannel (record : Bytes) : Except String (Option UInt8) := do
  match ← findAttribute record attrProtocolDescriptorList with
  | none => return none
  | some value =>
    let (outer, used) ← parseDataElement value
    ensure (used = value.length) "SDP ProtocolDescriptorList has trailing bytes"
    let payload ← sequencePayload outer "SDP ProtocolDescriptorList outer is not a sequence"
    rfcommChannelFrom payload.length payload

end Aokie.Radio.Sdp.Client
