import Aokie.Lib.Run
import Aokie.Radio.Rfcomm.Server

/-! The two multiplexer roles as machines: every operation that the rest of the program calls on them. -/

namespace Aokie.Radio.Rfcomm

open Aokie.Lib Aokie.Radio.Hfp

/-- What an operation tells the owner of an outbound channel. -/
inductive DlciOutcome
  | silent
  | attached (dlci : UInt8)
  | drained (dlci : UInt8) (events : List ClientDlciEvent)
  | drainedAll (events : List ClientDlciEvent)
  deriving DecidableEq, Repr

def attachOutcome : Except String (UInt8 × Bytes) → DlciOutcome
  | .ok (dlci, _) => .attached dlci
  | .error _ => .silent

inductive RfcommClientOp
  | kickoff
  | packet (packet : Bytes)
  | attach (serverChannel : UInt8)
  | takeForDlci (dlci : UInt8)
  | takeEvents
  | send (payload : Bytes)
  | sendOnDlci (dlci : UInt8) (payload : Bytes)
  | forceDisc (dlci : UInt8)
  deriving DecidableEq, Repr

def RfcommClientState.step (s : RfcommClientState) : RfcommClientOp → RfcommClientState × DlciOutcome
  | .kickoff => (s.kickoff.1, .silent)
  | .packet packet => ((s.handlePacket packet).1, .silent)
  | .attach serverChannel => (s.attachClientDlci serverChannel).map id attachOutcome
  | .takeForDlci dlci => (s.takeClientEventsForDlci dlci).map id (.drained dlci)
  | .takeEvents => (s.takeEvents.1, .silent)
  | .send payload => ((s.buildOutboundUih payload).1, .silent)
  | .sendOnDlci dlci payload => ((s.buildUihOnClientDlci dlci payload).1, .silent)
  | .forceDisc dlci => ((s.buildForceDiscSecondaryDlci dlci).1, .silent)

inductive RfcommOp
  | packet (now : Instant) (packet : Bytes)
  | attach (serverChannel : UInt8)
  | takeForDlci (dlci : UInt8)
  | takeAll
  | disc (dlci : UInt8)
  | forceDisc (dlci : UInt8)
  | registerServerChannel (serverChannel : UInt8) (handlers : ServerChannelHandlers)
  | setWbsSupported (supported : Bool)
  | setCallWaitingEnabled (enabled : Bool)
  | takeHfpEvents
  | callControl (now : Instant) (command : HfpAtCommand)
  | tick (now : Instant) (timeout : Duration)

def RfcommState.step (s : RfcommState) : RfcommOp → RfcommState × DlciOutcome
  | .packet now packet => ((s.handlePacket now packet).1, .silent)
  | .attach serverChannel => (s.attachClientDlci serverChannel).map id attachOutcome
  | .takeForDlci dlci => (s.takeClientEventsForDlci dlci).map id (.drained dlci)
  | .takeAll => s.takeClientEvents.map id .drainedAll
  | .disc dlci => ((s.buildDiscForClientDlci dlci).1, .silent)
  | .forceDisc dlci => ((s.buildForceDiscDlci dlci).1, .silent)
  | .registerServerChannel serverChannel handlers => (s.registerServerChannel serverChannel handlers, .silent)
  | .setWbsSupported supported => (s.setWbsSupported supported, .silent)
  | .setCallWaitingEnabled enabled => (s.setCallWaitingEnabled enabled, .silent)
  | .takeHfpEvents => (s.takeHfpEvents.1, .silent)
  | .callControl now command => ((s.buildCallControlCommand now command).1, .silent)
  | .tick now timeout => ((s.tickHfpStall now timeout).1, .silent)

end Aokie.Radio.Rfcomm
