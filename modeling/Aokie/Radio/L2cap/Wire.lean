import Aokie.Lib.Framing
import Aokie.Radio.Rfcomm.Frame

/-! The L2CAP wire format: ACL packets, basic frames and signalling commands. -/

namespace Aokie.Radio.L2cap

open Aokie.Lib Aokie.Radio.Rfcomm

def cidSignaling : UInt16 := 0x0001
def psmSdp : UInt16 := 0x0001
def psmRfcomm : UInt16 := 0x0003

def signalCommandReject : UInt8 := 0x01
def signalConnectionRequest : UInt8 := 0x02
def signalConnectionResponse : UInt8 := 0x03
def signalConfigureRequest : UInt8 := 0x04
def signalConfigureResponse : UInt8 := 0x05
def signalDisconnectionRequest : UInt8 := 0x06
def signalDisconnectionResponse : UInt8 := 0x07
def signalInformationRequest : UInt8 := 0x0a
def signalInformationResponse : UInt8 := 0x0b

def connectionResultSuccess : UInt16 := 0x0000
def connectionResultPending : UInt16 := 0x0001
def connectionResultPsmNotSupported : UInt16 := 0x0002
def connectionStatusNoFurtherInformation : UInt16 := 0x0000

def configResultSuccess : UInt16 := 0x0000

def commandRejectReasonCommandNotUnderstood : UInt16 := 0x0000

def infoTypeConnectionlessMtu : UInt16 := 0x0001
def infoTypeExtendedFeatures : UInt16 := 0x0002
def infoTypeFixedChannels : UInt16 := 0x0003

def infoResultSuccess : UInt16 := 0x0000
def infoResultNotSupported : UInt16 := 0x0001

def aokieConnectionlessMtu : UInt16 := 672
def aokieExtendedFeaturesMask : UInt32 := 0x00000000
def aokieFixedChannelsMask : UInt64 := 0x02

def aclPacketBoundaryFirstNonFlushable : UInt8 := 0x02
def aclPacketBoundaryContinuingFragment : UInt8 := 0x01
def aclBroadcastPointToPoint : UInt8 := 0x00
def firstDynamicCid : UInt16 := 0x0040

/-- Our own requests take their identifiers from the upper half; the peer's come from the lower one. -/
def firstLocalSignalingId : UInt8 := 0x80

structure AclFrame where
  connectionHandle : UInt16
  packetBoundaryFlag : UInt8
  broadcastFlag : UInt8
  payload : Bytes
  deriving DecidableEq, Repr

structure BasicFrame where
  cid : UInt16
  payload : Bytes
  deriving DecidableEq, Repr

structure SignalingHeader where
  code : UInt8
  identifier : UInt8
  payload : Bytes
  deriving DecidableEq, Repr

inductive SignalingCommand
  | connectionRequest (identifier : UInt8) (psm sourceCid : UInt16)
  | connectionResponse (identifier : UInt8) (destinationCid sourceCid result status : UInt16)
  | configureRequest (identifier : UInt8) (destinationCid flags : UInt16) (options : Bytes)
  | configureResponse (identifier : UInt8) (sourceCid flags result : UInt16) (options : Bytes)
  | disconnectionRequest (identifier : UInt8) (destinationCid sourceCid : UInt16)
  | disconnectionResponse (identifier : UInt8) (destinationCid sourceCid : UInt16)
  | informationRequest (identifier : UInt8) (infoType : UInt16)
  | informationResponse (identifier : UInt8) (infoType result : UInt16) (data : Bytes)
  | unknown (code identifier : UInt8) (payload : Bytes)
  deriving DecidableEq, Repr

def u16At (bytes : Bytes) (offset : ℕ) : UInt16 := fromLeBytes (bytes.getD offset 0) (bytes.getD (offset + 1) 0)

def declaresTooMuch (name : String) (declared : ℕ) (packet : Bytes) : String :=
  name ++ " declares " ++ toString declared ++ " bytes but packet has " ++ toString (packet.length - 4) ++
    " payload bytes"

def parseAclFrame (packet : Bytes) : Except String AclFrame := do
  ensure (4 ≤ packet.length) "HCI ACL packet too short"
  let handlePbBc := u16At packet 0
  let payloadLen := (u16At packet 2).toNat
  ensure (4 + payloadLen ≤ packet.length) (declaresTooMuch "HCI ACL packet" payloadLen packet)
  return {
    connectionHandle := handlePbBc &&& 0x0fff
    packetBoundaryFlag := ((handlePbBc >>> 12) &&& 0x03).toUInt8
    broadcastFlag := ((handlePbBc >>> 14) &&& 0x03).toUInt8
    payload := (packet.take (4 + payloadLen)).drop 4 }

def buildAclPacket (connectionHandle : UInt16) (packetBoundaryFlag broadcastFlag : UInt8) (payload : Bytes) : Bytes :=
  let handle : UInt16 := connectionHandle &&& 0x0fff
  let boundary : UInt16 := (packetBoundaryFlag.toUInt16 &&& 0x03) <<< 12
  let broadcast : UInt16 := (broadcastFlag.toUInt16 &&& 0x03) <<< 14
  let handlePbBc := handle ||| boundary ||| broadcast
  toLeBytes handlePbBc ++ toLeBytes (UInt16.ofNat payload.length) ++ payload

def buildOutboundAcl (connectionHandle : UInt16) (payload : Bytes) : Bytes :=
  buildAclPacket connectionHandle aclPacketBoundaryFirstNonFlushable aclBroadcastPointToPoint payload

def parseBasicFrame (payload : Bytes) : Except String BasicFrame := do
  ensure (4 ≤ payload.length) "L2CAP basic frame too short"
  let len := (u16At payload 0).toNat
  ensure (4 + len ≤ payload.length) (declaresTooMuch "L2CAP basic frame" len payload)
  return { cid := u16At payload 2, payload := (payload.take (4 + len)).drop 4 }

def buildBasicFrame (cid : UInt16) (payload : Bytes) : Bytes :=
  toLeBytes (UInt16.ofNat payload.length) ++ toLeBytes cid ++ payload

def nextFrame (buffer : Bytes) : Option (Bytes × Bytes) :=
  if 4 ≤ buffer.length ∧ 4 + (u16At buffer 0).toNat ≤ buffer.length then
    some (buffer.splitAt (4 + (u16At buffer 0).toNat))
  else none

def drainFrames (buffer : Bytes) : List Bytes × Bytes := Framing.drain nextFrame buffer

def signalingCodeIsRequest (code : UInt8) : Bool :=
  [0x02, 0x04, 0x06, 0x08, 0x0a, 0x0c, 0x0e, 0x10, 0x12, 0x14, 0x17, 0x19].contains code

def parseSignalingHeader (payload : Bytes) : Except String SignalingHeader := do
  ensure (4 ≤ payload.length) "L2CAP signaling command too short"
  let len := (u16At payload 2).toNat
  ensure (4 + len ≤ payload.length) (declaresTooMuch "L2CAP signaling command" len payload)
  return {
    code := payload.getD 0 0, identifier := payload.getD 1 0, payload := (payload.take (4 + len)).drop 4 }

def parseSignalingCommand (header : SignalingHeader) : Except String SignalingCommand :=
  let identifier := header.identifier
  let payload := header.payload
  if header.code = signalConnectionRequest then do
    requireLen payload 4 "L2CAP Connection Request"
    return .connectionRequest identifier (u16At payload 0) (u16At payload 2)
  else if header.code = signalConnectionResponse then do
    requireLen payload 8 "L2CAP Connection Response"
    return .connectionResponse identifier (u16At payload 0) (u16At payload 2) (u16At payload 4) (u16At payload 6)
  else if header.code = signalConfigureRequest then do
    requireLen payload 4 "L2CAP Configure Request"
    return .configureRequest identifier (u16At payload 0) (u16At payload 2) (payload.drop 4)
  else if header.code = signalConfigureResponse then do
    requireLen payload 6 "L2CAP Configure Response"
    return .configureResponse identifier (u16At payload 0) (u16At payload 2) (u16At payload 4) (payload.drop 6)
  else if header.code = signalDisconnectionRequest then do
    requireLen payload 4 "L2CAP Disconnection Request"
    return .disconnectionRequest identifier (u16At payload 0) (u16At payload 2)
  else if header.code = signalDisconnectionResponse then do
    requireLen payload 4 "L2CAP Disconnection Response"
    return .disconnectionResponse identifier (u16At payload 0) (u16At payload 2)
  else if header.code = signalInformationRequest then do
    requireLen payload 2 "L2CAP Information Request"
    return .informationRequest identifier (u16At payload 0)
  else if header.code = signalInformationResponse then do
    requireLen payload 4 "L2CAP Information Response"
    return .informationResponse identifier (u16At payload 0) (u16At payload 2) (payload.drop 4)
  else .ok (.unknown header.code identifier payload)

def buildBasicSignalingPacket (code identifier : UInt8) (payload : Bytes) : Bytes :=
  buildBasicFrame cidSignaling ([code, identifier] ++ toLeBytes (UInt16.ofNat payload.length) ++ payload)

def buildConnectionRequest (identifier : UInt8) (psm sourceCid : UInt16) : Bytes :=
  buildBasicSignalingPacket signalConnectionRequest identifier (toLeBytes psm ++ toLeBytes sourceCid)

def buildConnectionResponse (identifier : UInt8) (destinationCid sourceCid result status : UInt16) : Bytes :=
  buildBasicSignalingPacket signalConnectionResponse identifier
    (toLeBytes destinationCid ++ toLeBytes sourceCid ++ toLeBytes result ++ toLeBytes status)

def buildConfigureResponse (identifier : UInt8) (sourceCid flags result : UInt16) (options : Bytes) : Bytes :=
  buildBasicSignalingPacket signalConfigureResponse identifier
    (toLeBytes sourceCid ++ toLeBytes flags ++ toLeBytes result ++ options)

def buildConfigureRequest (identifier : UInt8) (destinationCid flags : UInt16) (options : Bytes) : Bytes :=
  buildBasicSignalingPacket signalConfigureRequest identifier (toLeBytes destinationCid ++ toLeBytes flags ++ options)

def buildDisconnectionResponse (identifier : UInt8) (destinationCid sourceCid : UInt16) : Bytes :=
  buildBasicSignalingPacket signalDisconnectionResponse identifier (toLeBytes destinationCid ++ toLeBytes sourceCid)

def buildDisconnectionRequest (identifier : UInt8) (destinationCid sourceCid : UInt16) : Bytes :=
  buildBasicSignalingPacket signalDisconnectionRequest identifier (toLeBytes destinationCid ++ toLeBytes sourceCid)

def buildCommandReject (identifier : UInt8) (reason : UInt16) : Bytes :=
  buildBasicSignalingPacket signalCommandReject identifier (toLeBytes reason)

def buildInformationResponse (identifier : UInt8) (infoType result : UInt16) (data : Bytes) : Bytes :=
  buildBasicSignalingPacket signalInformationResponse identifier (toLeBytes infoType ++ toLeBytes result ++ data)

def buildInformationResponseForType (identifier : UInt8) (infoType : UInt16) : Bytes :=
  if infoType = infoTypeConnectionlessMtu then
    buildInformationResponse identifier infoType infoResultSuccess (toLeBytes aokieConnectionlessMtu)
  else if infoType = infoTypeExtendedFeatures then
    buildInformationResponse identifier infoType infoResultSuccess
      (leBytes 4 aokieExtendedFeaturesMask.toNat)
  else if infoType = infoTypeFixedChannels then
    buildInformationResponse identifier infoType infoResultSuccess (leBytes 8 aokieFixedChannelsMask.toNat)
  else buildInformationResponse identifier infoType infoResultNotSupported []

end Aokie.Radio.L2cap
