import Aokie.Radio.Sdp.DataElement

/-! The registry of service records and its answers to searches. -/

namespace Aokie.Radio.Sdp

open Aokie.Lib

def pduServiceSearchAttributeRequest : UInt8 := 0x06
def pduServiceSearchAttributeResponse : UInt8 := 0x07

def attrServiceRecordHandle : UInt16 := 0x0000
def attrServiceClassIdList : UInt16 := 0x0001
def attrProtocolDescriptorList : UInt16 := 0x0004
def attrBrowseGroupList : UInt16 := 0x0005
def attrBluetoothProfileDescriptorList : UInt16 := 0x0009
def attrServiceName : UInt16 := 0x0100
def attrSupportedFeatures : UInt16 := 0x0311

def uuidPublicBrowseRoot : UInt16 := 0x1002
def uuidL2cap : UInt16 := 0x0100
def uuidRfcomm : UInt16 := 0x0003
def uuidGenericAudio : UInt16 := 0x1203
def uuidHandsfree : UInt16 := 0x111e

def aokieHfpServiceRecordHandle : UInt32 := 0x00010001
def aokieRfcommChannel : UInt8 := 1
def aokieHfpProfileVersion : UInt16 := 0x0109
def aokieHfpSupportedFeatures : UInt16 := 0x003f
def aokieHfpServiceName : String := "Aokie AI Assistant"

structure ServiceSearchAttributeRequest where
  transactionId : UInt16
  serviceSearchPattern : Bytes
  maximumAttributeByteCount : UInt16
  attributeIdList : Bytes
  continuationState : Bytes
  deriving DecidableEq, Repr

/-- An error ends the walk and keeps what was found before it. The fuel bounds the elements still to be read, at
whatever depth. -/
def collectUuid16s : ℕ → Bytes → List UInt16 → List UInt16 × Except String Unit
  | 0, _, out => (out, .ok ())
  | fuel + 1, input, out =>
    if input.isEmpty then (out, .ok ())
    else
      match parseDataElement input with
      | .error reason => (out, .error reason)
      | .ok (.sequence inner, used) | .ok (.alternative inner, used) =>
        match collectUuid16s fuel inner out with
        | (out, .error reason) => (out, .error reason)
        | (out, .ok ()) => collectUuid16s fuel (input.drop used) out
      | .ok (other, used) => collectUuid16s fuel (input.drop used) (out ++ other.asUuid16.toList)

structure ServiceRecord where
  handle : UInt32
  searchableUuids : List UInt16
  encodedRecord : Bytes
  deriving DecidableEq, Repr

/-- `sort_unstable` and `dedup`. -/
def sortDedup (uuids : List UInt16) : List UInt16 := (uuids.mergeSort fun a b => decide (a ≤ b)).destutter (· ≠ ·)

def ServiceRecord.new (handle : UInt32) (encodedRecord : Bytes) : ServiceRecord :=
  ⟨handle, sortDedup (collectUuid16s (encodedRecord.length + 1) encodedRecord []).1, encodedRecord⟩

structure SdpServer where
  records : List ServiceRecord := []
  deriving DecidableEq, Repr

/-- The loop of `parse_uuid_search_pattern`. Every element takes a byte, so the pattern's length is enough fuel. -/
def searchPatternFrom : ℕ → Bytes → List UInt16 → Bool → Except String (Option (List UInt16))
  | 0, _, out, matchable => .ok (if matchable then some out else none)
  | fuel + 1, pattern, out, matchable =>
    if pattern.isEmpty then .ok (if matchable then some out else none)
    else do
      let (element, used) ← parseDataElement pattern
      match element.asUuid16 with
      | some u => searchPatternFrom fuel (pattern.drop used) (out ++ [u]) matchable
      | none =>
        if element.isUuid then searchPatternFrom fuel (pattern.drop used) out false
        else .error ("SDP search pattern contained non-UUID element " ++ element.debug)

def parseUuidSearchPattern (pattern : Bytes) : Except String (Option (List UInt16)) :=
  searchPatternFrom pattern.length pattern [] true

def sequencePayload (element : ParsedDataElement) (message : String) : Except String Bytes :=
  match element with
  | .sequence payload => .ok payload
  | _ => .error message

def parseServiceSearchAttributeRequest (packet : Bytes) : Except String ServiceSearchAttributeRequest := do
  requireLen packet 5 "SDP PDU header"
  ensure (packet.getD 0 0 = pduServiceSearchAttributeRequest)
    ("expected ServiceSearchAttributeRequest PDU 0x06, got 0x" ++ hex 2 (packet.getD 0 0).toNat)
  let transactionId := u16FromBeBytes [packet.getD 1 0, packet.getD 2 0]
  let paramLen := (u16FromBeBytes [packet.getD 3 0, packet.getD 4 0]).toNat
  requireLen packet (5 + paramLen) "SDP PDU parameters"
  let params := (packet.drop 5).take paramLen
  let (element, used) ← parseDataElement params
  let serviceSearchPattern ← sequencePayload element "SDP service search pattern is not a sequence"
  let params := params.drop used
  requireLen params 2 "SDP MaximumAttributeByteCount"
  let maximumAttributeByteCount := u16FromBeBytes (params.take 2)
  let params := params.drop 2
  let (element, used) ← parseDataElement params
  let attributeIdList ← sequencePayload element "SDP attribute ID list is not a sequence"
  let params := params.drop used
  requireLen params 1 "SDP continuation state length"
  let continuationLen := (params.getD 0 0).toNat
  let params := params.drop 1
  requireLen params continuationLen "SDP continuation state"
  return ⟨transactionId, serviceSearchPattern, maximumAttributeByteCount, attributeIdList, params.take continuationLen⟩

def serviceSearchAttributeResponse (transactionId : UInt16) (attributeList : Bytes) : Bytes :=
  let params := u16ToBeBytes (UInt16.ofNat attributeList.length) ++ attributeList ++ [0]
  pduServiceSearchAttributeResponse :: u16ToBeBytes transactionId ++ u16ToBeBytes (UInt16.ofNat params.length) ++ params

namespace SdpServer

def register (server : SdpServer) (record : ServiceRecord) : SdpServer := ⟨server.records ++ [record]⟩

def matchRecords (server : SdpServer) (patternUuids : List UInt16) : List ServiceRecord :=
  server.records.filter fun r => patternUuids.all fun u => r.searchableUuids.contains u

def attributeLists (records : List ServiceRecord) : Bytes :=
  encodeDataElement (.sequence (records.flatMap fun r => encodeDataElement (.sequence r.encodedRecord)))

def handleRequest (server : SdpServer) (packet : Bytes) : Except String Bytes := do
  let request ← parseServiceSearchAttributeRequest packet
  let matched := match ← parseUuidSearchPattern request.serviceSearchPattern with
    | some uuids => server.matchRecords uuids
    | none => []
  return serviceSearchAttributeResponse request.transactionId (attributeLists matched)

end SdpServer

def addAttribute (attributeId : UInt16) (value : Bytes) : Bytes := encodeDataElement (.uint16 attributeId) ++ value

def encodeSequence (elements : List Bytes) : Bytes := encodeDataElement (.sequence elements.flatten)

def buildHfpAttributeSequence : Bytes :=
  addAttribute attrServiceRecordHandle (encodeDataElement (.uint32 aokieHfpServiceRecordHandle)) ++
  addAttribute attrServiceClassIdList
    (encodeSequence [encodeDataElement (.uuid16 uuidHandsfree), encodeDataElement (.uuid16 uuidGenericAudio)]) ++
  addAttribute attrProtocolDescriptorList
    (encodeSequence [encodeSequence [encodeDataElement (.uuid16 uuidL2cap)],
      encodeSequence [encodeDataElement (.uuid16 uuidRfcomm), encodeDataElement (.uint8 aokieRfcommChannel)]]) ++
  addAttribute attrBrowseGroupList (encodeSequence [encodeDataElement (.uuid16 uuidPublicBrowseRoot)]) ++
  addAttribute attrBluetoothProfileDescriptorList
    (encodeSequence [encodeSequence [encodeDataElement (.uuid16 uuidHandsfree),
      encodeDataElement (.uint16 aokieHfpProfileVersion)]]) ++
  addAttribute attrServiceName (encodeDataElement (.text aokieHfpServiceName)) ++
  addAttribute attrSupportedFeatures (encodeDataElement (.uint16 aokieHfpSupportedFeatures))

def hfpServiceRecord : ServiceRecord := .new aokieHfpServiceRecordHandle buildHfpAttributeSequence

end Aokie.Radio.Sdp
