import Aokie.Lib.Rust

/-! RFCOMM frames and multiplexer commands on the wire: the parsers and the builders. -/

namespace Aokie.Radio.Rfcomm

open Aokie.Lib

def dlciMultiplexer : UInt8 := 0
def controlSabm : UInt8 := 0x3f
def controlUa : UInt8 := 0x73
def controlDm : UInt8 := 0x0f
def controlDmPf : UInt8 := 0x1f
def controlDisc : UInt8 := 0x53
def controlUih : UInt8 := 0xef
def controlUihPf : UInt8 := 0xff
def controlPollFinal : UInt8 := 0x10

def muxFconCmd : UInt8 := 0xa3
def muxFconRsp : UInt8 := 0xa1
def muxFcoffCmd : UInt8 := 0x63
def muxFcoffRsp : UInt8 := 0x61
def muxMscCmd : UInt8 := 0xe3
def muxMscRsp : UInt8 := 0xe1
def muxNscRsp : UInt8 := 0x11
def muxPnCmd : UInt8 := 0x83
def muxPnRsp : UInt8 := 0x81

def localModemStatus : UInt8 := 0x8d
def pnBluetoothFrameType : UInt8 := 0xf0
def pnBluetoothFrameTypeCfc : UInt8 := 0xe0
def defaultMaxFrameSize : UInt16 := 127
def minMaxFrameSize : UInt16 := 23
def crc8Init : UInt8 := 0xff
def crc8PolyReversed : UInt8 := 0xe0

inductive RfcommFrameKind
  | sabm | ua | dm | disc | uih
  | unknown (control : UInt8)
  deriving DecidableEq, Repr

structure RfcommFrame where
  dlci : UInt8
  commandResponse : Bool
  kind : RfcommFrameKind
  pollFinal : Bool
  credits : Option UInt8
  payload : Bytes
  deriving DecidableEq, Repr

inductive RfcommMuxCommand
  | parameterNegotiation (isResponse : Bool) (dlci frameType priority : UInt8) (maxFrameSize : UInt16)
      (credits : UInt8)
  | modemStatus (isResponse : Bool) (dlci signals : UInt8)
  | flowControlOn
  | flowControlOff
  | unknown (commandType : UInt8) (payload : Bytes)
  deriving DecidableEq, Repr

def requireLen (payload : Bytes) (minLen : ℕ) (name : String) : Except String Unit :=
  ensure (minLen ≤ payload.length)
    (name ++ " is too short: expected at least " ++ toString minLen ++ " bytes, got " ++
      toString payload.length)

def frameKind (control : UInt8) : RfcommFrameKind :=
  let base := control &&& ~~~controlPollFinal
  if base = 0x2f then .sabm
  else if base = 0x63 then .ua
  else if base = controlDm then .dm
  else if base = 0x43 then .disc
  else if base = controlUih then .uih
  else .unknown control

def crcStep (crc : UInt8) : UInt8 :=
  if crc &&& 0x01 ≠ 0 then (crc >>> 1) ^^^ crc8PolyReversed else crc >>> 1

def rfcommFcs (data : Bytes) : UInt8 :=
  ~~~(data.foldl (fun crc byte => crcStep^[8] (crc ^^^ byte)) crc8Init)

def addressByte (dlci : UInt8) (commandResponse : Bool) : UInt8 :=
  (0x01 : UInt8) ||| (commandResponse.toUInt8 <<< 1) ||| ((dlci &&& 0x3f) <<< 2)

def encodeLength (len : ℕ) : Bytes :=
  if len < 128 then [(UInt8.ofNat len <<< 1) ||| 1]
  else [(UInt8.ofNat len &&& 0x7f) <<< 1, UInt8.ofNat (len >>> 7)]

def decodeMultiplexerLength (payload : Bytes) : Except String (ℕ × ℕ) := do
  requireLen payload 1 "RFCOMM length"
  let first := payload.getD 0 0
  if first &&& 0x01 ≠ 0 then return ((first >>> 1).toNat, 1)
  else
    requireLen payload 2 "RFCOMM extended length"
    return ((first >>> 1).toNat ||| ((payload.getD 1 0).toNat <<< 7), 2)

def decodeLength (packet : Bytes) : Except String (ℕ × ℕ) := do
  requireLen packet 3 "RFCOMM length"
  decodeMultiplexerLength (packet.drop 2)

def parseFrame (packet : Bytes) : Except String RfcommFrame := do
  requireLen packet 4 "RFCOMM frame"
  let address := packet.getD 0 0
  ensure (address &&& 0x01 ≠ 0) "RFCOMM address EA bit is not set"
  let commandResponse := decide (address &&& 0x02 ≠ 0)
  let dlci := address >>> 2
  let control := packet.getD 1 0
  let kind := frameKind control
  let pollFinal := decide (control &&& controlPollFinal ≠ 0)
  let (payloadLen, lengthOctets) ← decodeLength packet
  let creditsOffset := decide (kind = .uih) && pollFinal
  let payloadOffset := 2 + lengthOctets + creditsOffset.toNat
  let fcsOffset := payloadOffset + payloadLen
  requireLen packet (fcsOffset + 1) "RFCOMM frame payload"
  ensure (packet.length = fcsOffset + 1)
    ("RFCOMM frame has " ++ toString (packet.length - (fcsOffset + 1)) ++ " trailing bytes")
  let fcsInputLen := if kind = .uih then 2 else 2 + lengthOctets
  let expectedFcs := rfcommFcs (packet.take fcsInputLen)
  let fcs := packet.getD fcsOffset 0
  ensure (fcs = expectedFcs)
    ("RFCOMM FCS mismatch: expected 0x" ++ hex 2 expectedFcs.toNat ++ ", got 0x" ++ hex 2 fcs.toNat)
  return {
    dlci, commandResponse, kind, pollFinal
    credits := if creditsOffset then some (packet.getD (2 + lengthOctets) 0) else none
    payload := (packet.take fcsOffset).drop payloadOffset }

def buildFrame (dlci : UInt8) (commandResponse : Bool) (control : UInt8) (credits : Option UInt8)
    (payload : Bytes) : Bytes :=
  let header := [addressByte dlci commandResponse, control] ++ encodeLength payload.length
  let fcsInputLen := if frameKind control = .uih then 2 else header.length
  let out := header ++ credits.toList ++ payload
  out ++ [rfcommFcs (out.take fcsInputLen)]

def buildSabm (dlci : UInt8) (commandResponse : Bool) : Bytes :=
  buildFrame dlci commandResponse controlSabm none []

def buildUa (dlci : UInt8) (commandResponse : Bool) : Bytes :=
  buildFrame dlci commandResponse controlUa none []

def buildDm (dlci : UInt8) (commandResponse : Bool) : Bytes :=
  buildFrame dlci commandResponse controlDmPf none []

def buildDisc (dlci : UInt8) (commandResponse : Bool) : Bytes :=
  buildFrame dlci commandResponse controlDisc none []

def buildUih (dlci : UInt8) (commandResponse : Bool) (credits : Option UInt8) (payload : Bytes) : Bytes :=
  buildFrame dlci commandResponse (if credits.isSome then controlUihPf else controlUih) credits payload

def muxCommandOf (commandType : UInt8) (commandPayload : Bytes) : Except String RfcommMuxCommand :=
  if commandType = muxPnCmd ∨ commandType = muxPnRsp then do
    requireLen commandPayload 8 "RFCOMM PN command"
    return .parameterNegotiation (commandType = muxPnRsp) (commandPayload.getD 0 0)
      (commandPayload.getD 1 0) (commandPayload.getD 2 0)
      (fromLeBytes (commandPayload.getD 4 0) (commandPayload.getD 5 0)) (commandPayload.getD 7 0)
  else if commandType = muxMscCmd ∨ commandType = muxMscRsp then do
    requireLen commandPayload 2 "RFCOMM MSC frame"
    return .modemStatus (commandType = muxMscRsp) (commandPayload.getD 0 0 >>> 2) (commandPayload.getD 1 0)
  else if commandType = muxFconCmd then .ok .flowControlOn
  else if commandType = muxFcoffCmd then .ok .flowControlOff
  else .ok (.unknown commandType commandPayload)

def parseMultiplexerCommand (payload : Bytes) : Except String RfcommMuxCommand := do
  requireLen payload 2 "RFCOMM multiplexer command"
  let commandType := payload.getD 0 0
  let (len, lengthOctets) ← decodeMultiplexerLength (payload.drop 1)
  let commandPayloadOffset := 1 + lengthOctets
  requireLen payload (commandPayloadOffset + len) "RFCOMM multiplexer command payload"
  muxCommandOf commandType ((payload.drop commandPayloadOffset).take len)

def buildMultiplexerCommand (commandType : UInt8) (payload : Bytes) : Bytes :=
  commandType :: encodeLength payload.length ++ payload

def buildParameterNegotiation (commandType dlci frameType priority : UInt8) (maxFrameSize : UInt16)
    (credits : UInt8) : Bytes :=
  buildMultiplexerCommand commandType
    [dlci, frameType, priority, 0x00, maxFrameSize.toUInt8, (maxFrameSize >>> 8).toUInt8, 0x00, credits]

def buildParameterNegotiationCommand (dlci priority : UInt8) (maxFrameSize : UInt16) (credits : UInt8) : Bytes :=
  buildParameterNegotiation muxPnCmd dlci pnBluetoothFrameType priority maxFrameSize credits

def buildParameterNegotiationCommandCfc (dlci priority : UInt8) (maxFrameSize : UInt16) (credits : UInt8) : Bytes :=
  buildParameterNegotiation muxPnCmd dlci pnBluetoothFrameTypeCfc priority maxFrameSize credits

def buildParameterNegotiationResponse (dlci priority : UInt8) (maxFrameSize : UInt16) (credits : UInt8) : Bytes :=
  buildParameterNegotiation muxPnRsp dlci pnBluetoothFrameType priority maxFrameSize credits

def buildParameterNegotiationResponseCfc (dlci priority : UInt8) (maxFrameSize : UInt16) (credits : UInt8) : Bytes :=
  buildParameterNegotiation muxPnRsp dlci pnBluetoothFrameTypeCfc priority maxFrameSize credits

def buildModemStatus (commandType dlci signals : UInt8) : Bytes :=
  buildMultiplexerCommand commandType [addressByte dlci true, signals]

def buildModemStatusCommand (dlci signals : UInt8) : Bytes := buildModemStatus muxMscCmd dlci signals

def buildModemStatusResponse (dlci signals : UInt8) : Bytes := buildModemStatus muxMscRsp dlci signals

def buildNscResponse (commandType : UInt8) : Bytes := buildMultiplexerCommand muxNscRsp [commandType]

def buildEmptyMultiplexerResponse (commandType : UInt8) : Bytes := buildMultiplexerCommand commandType []

def serverChannelDlci (serverChannel : UInt8) (initiatorDirection : Bool) : UInt8 :=
  ((serverChannel &&& 0x1f) <<< 1) ||| initiatorDirection.toUInt8

def aokieRfcommChannel : UInt8 := 1

def aokieHfpDlci : UInt8 := serverChannelDlci aokieRfcommChannel false

end Aokie.Radio.Rfcomm
