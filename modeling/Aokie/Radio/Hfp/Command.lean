import Aokie.Lib.Rust

/-! The AT commands a hands-free unit sends, and the commands still waiting for their result. -/

namespace Aokie.Radio.Hfp

open Aokie.Lib

def hfFeatureEcNr : UInt32 := (1 : UInt32) <<< 0
def hfFeatureCallWaiting3way : UInt32 := (1 : UInt32) <<< 1
def hfFeatureCliPresentation : UInt32 := (1 : UInt32) <<< 2
def hfFeatureRemoteVolume : UInt32 := (1 : UInt32) <<< 4
def hfFeatureEnhancedCallStatus : UInt32 := (1 : UInt32) <<< 5
def hfFeatureCodecNegotiation : UInt32 := (1 : UInt32) <<< 7
def hfFeatureEscoS4 : UInt32 := (1 : UInt32) <<< 9

def agFeatureThreeWayCalling : UInt32 := (1 : UInt32) <<< 0
def agFeatureEcNr : UInt32 := (1 : UInt32) <<< 1
def agFeatureCodecNegotiation : UInt32 := (1 : UInt32) <<< 9

def aokieHfSupportedFeatures : UInt32 :=
  hfFeatureEcNr ||| hfFeatureCliPresentation ||| hfFeatureRemoteVolume |||
    hfFeatureEnhancedCallStatus ||| hfFeatureCodecNegotiation ||| hfFeatureEscoS4

def hfpCodecCvsd : UInt8 := 1
def hfpCodecMsbc : UInt8 := 2

inductive ChldAction
  | releaseAllHeld
  | releaseActiveAcceptOther
  | releaseSpecific (index : UInt8)
  | holdActiveAcceptOther
  | privateConsult (index : UInt8)
  | merge
  deriving DecidableEq, Repr

inductive HfpAtCommand
  | supportedFeatures (callWaiting : Bool)
  | availableCodecs (wbsSupported : Bool)
  | retrieveIndicators
  | retrieveIndicatorStatus
  | retrieveCallHoldSupport
  | enableCallWaitingNotifications
  | callHold (action : ChldAction)
  | activateClip (active : Bool)
  | enableIndicatorUpdates (active : Bool)
  | enableAllIndicatorStatusUpdates (active : Bool)
  | disableNoiseReduction
  | answer
  | rejectOrHangup
  | dial (number : String)
  | confirmCodec (codec : UInt8)
  | listCurrentCalls
  | codecConnection
  deriving DecidableEq, Repr

def atCommandName : HfpAtCommand → String
  | .supportedFeatures _ => "AT+BRSF"
  | .availableCodecs _ => "AT+BAC"
  | .retrieveIndicators => "AT+CIND=?"
  | .retrieveIndicatorStatus => "AT+CIND?"
  | .retrieveCallHoldSupport => "AT+CHLD=?"
  | .enableCallWaitingNotifications => "AT+CCWA"
  | .callHold _ => "AT+CHLD"
  | .activateClip _ => "AT+CLIP"
  | .enableIndicatorUpdates _ => "AT+CMER"
  | .enableAllIndicatorStatusUpdates _ => "AT+BIA"
  | .disableNoiseReduction => "AT+NREC"
  | .answer => "ATA"
  | .rejectOrHangup => "AT+CHUP"
  | .dial _ => "ATD"
  | .confirmCodec _ => "AT+BCS"
  | .listCurrentCalls => "AT+CLCC"
  | .codecConnection => "AT+BCC"

def bit (active : Bool) : String := if active then "1" else "0"

/-- Digits and a leading `+` only: nothing else of a number reaches the wire. -/
def sanitized (number : String) : String :=
  String.ofList ((number.toList.zipIdx.filter fun (c, i) => c.isDigit || (i == 0 && c == '+')).map Prod.fst)

def atCommandLine : HfpAtCommand → String
  | .supportedFeatures callWaiting =>
    let features := if callWaiting then aokieHfSupportedFeatures ||| hfFeatureCallWaiting3way
      else aokieHfSupportedFeatures
    "AT+BRSF=" ++ toString features.toNat ++ "\r"
  | .availableCodecs wbsSupported =>
    if wbsSupported then "AT+BAC=" ++ toString hfpCodecCvsd.toNat ++ "," ++ toString hfpCodecMsbc.toNat ++ "\r"
    else "AT+BAC=" ++ toString hfpCodecCvsd.toNat ++ "\r"
  | .retrieveIndicators => "AT+CIND=?\r"
  | .retrieveIndicatorStatus => "AT+CIND?\r"
  | .retrieveCallHoldSupport => "AT+CHLD=?\r"
  | .enableCallWaitingNotifications => "AT+CCWA=1\r"
  | .callHold action => match action with
    | .releaseAllHeld => "AT+CHLD=0\r"
    | .releaseActiveAcceptOther => "AT+CHLD=1\r"
    | .releaseSpecific index => "AT+CHLD=1" ++ toString index.toNat ++ "\r"
    | .holdActiveAcceptOther => "AT+CHLD=2\r"
    | .privateConsult index => "AT+CHLD=2" ++ toString index.toNat ++ "\r"
    | .merge => "AT+CHLD=3\r"
  | .activateClip active => "AT+CLIP=" ++ bit active ++ "\r"
  | .enableIndicatorUpdates active => "AT+CMER=3,0,0," ++ bit active ++ "\r"
  | .enableAllIndicatorStatusUpdates active =>
    if active then "AT+BIA=1,1,1,1,1,1,1\r" else "AT+BIA=0,0,0,0,0,0,0\r"
  | .disableNoiseReduction => "AT+NREC=0\r"
  | .answer => "ATA\r"
  | .rejectOrHangup => "AT+CHUP\r"
  | .dial number => "ATD" ++ sanitized number ++ ";\r"
  | .confirmCodec codec => "AT+BCS=" ++ toString codec.toNat ++ "\r"
  | .listCurrentCalls => "AT+CLCC\r"
  | .codecConnection => "AT+BCC\r"

def buildAtCommand (command : HfpAtCommand) : Bytes := intoBytes (atCommandLine command)

structure OutstandingCommands where
  queue : List (String × Instant) := []
  deriving DecidableEq, Repr

namespace OutstandingCommands

def max : ℕ := 8

def sent (o : OutstandingCommands) (command : HfpAtCommand) (now : Instant) : OutstandingCommands :=
  let queue := if max ≤ o.queue.length then o.queue.tail else o.queue
  ⟨queue ++ [(atCommandName command, now)]⟩

def answered (o : OutstandingCommands) : OutstandingCommands × Option String :=
  (⟨o.queue.tail⟩, o.queue.head?.map Prod.fst)

def timedOut (o : OutstandingCommands) (now : Instant) (timeout : Duration) :
    OutstandingCommands × Option String :=
  match o.queue with
  | [] => (o, none)
  | (_, sentAt) :: _ =>
    if saturatingDurationSince now sentAt < timeout then (o, none) else o.answered

end OutstandingCommands

end Aokie.Radio.Hfp
