import Aokie.Radio.Hfp.Result

/-! The hands-free call state: what each result of the phone does to it and which events it raises. -/

namespace Aokie.Radio.Hfp

open Aokie.Lib

inductive HfpEvent
  | serviceLevelConnectionReady
  | serviceLevelConnectionFailed (reason : String)
  | commandRejected (command : String) (timedOut : Bool)
  | callStateCheck
  | callActiveAtConnect
  | incomingCall
  | ringing
  | outgoingDialing
  | callAnswered
  | callTerminated
  | callerId (number : String)
  | callWaiting (number : Option String)
  | callWaitingEnded
  | callHeld (value : ℤ)
  | callListEntry (entry : ClccEntry)
  | codecSelected (codec : String) (sampleRate : ℕ)
  deriving DecidableEq, Repr

def codecEvent (codec : UInt8) : HfpEvent :=
  if codec = hfpCodecMsbc then .codecSelected "mSBC" 16000 else .codecSelected "CVSD" 8000

structure HfpHandsFreeState where
  serviceLevelReady : Bool := false
  supportedFeaturesExchanged : Bool := false
  clipEnabled : Bool := false
  indicatorUpdatesEnabled : Bool := false
  callIndicatorIndex : UInt8 := 2
  callsetupIndicatorIndex : UInt8 := 3
  callActive : Bool := false
  incomingCall : Bool := false
  outgoingSetup : Bool := false
  indicatorDefinitionsSeen : Bool := false
  indicatorDefinitionsRetryUsed : Bool := false
  callWaitingEnabled : Bool := false
  agFeatures : Option UInt32 := none
  chldModes : Option (List String) := none
  ccwaAccepted : Bool := false
  probeRefused : Option String := none
  callheldIndicatorIndex : Option UInt8 := none
  callHeld : ℤ := 0
  callWaiting : Bool := false
  waitingNumberKnown : Bool := false
  terminatePending : Bool := false
  secondSetupUnverified : Bool := false
  setupRefused : Bool := false
  answerRetried : Bool := false
  hangupRetried : Bool := false
  callChanges : UInt32 := 0
  hangupSentLive : Option UInt32 := none
  wbsSupported : Bool := false
  selectedCodec : Option UInt8 := none
  deriving DecidableEq, Repr

def indicatorStatusValue (values : List ℤ) (indicatorIndex : UInt8) : Option ℤ :=
  if indicatorIndex = 0 then none else values[indicatorIndex.toNat - 1]?

namespace HfpHandsFreeState

def new : HfpHandsFreeState := {}

def initialServiceLevelCommands (wbsSupported callWaiting : Bool) : List HfpAtCommand :=
  [.supportedFeatures callWaiting, .availableCodecs wbsSupported, .retrieveIndicators,
    .retrieveIndicatorStatus, .retrieveCallHoldSupport, .enableCallWaitingNotifications,
    .activateClip true, .enableIndicatorUpdates true, .enableAllIndicatorStatusUpdates true,
    .disableNoiseReduction]

variable (s : HfpHandsFreeState)

def setCallWaitingEnabled (enabled : Bool) : HfpHandsFreeState := { s with callWaitingEnabled := enabled }

def setWbsSupported (supported : Bool) : HfpHandsFreeState := { s with wbsSupported := supported }

def codecOffered (codec : UInt8) : Bool :=
  codec == hfpCodecCvsd || (codec == hfpCodecMsbc && s.wbsSupported)

def agLacks (feature : UInt32) : Bool := s.agFeatures.any fun f => f &&& feature == 0

def agSupportsThreeWay : Bool := s.agFeatures.any fun f => f &&& agFeatureThreeWayCalling != 0

def shouldSkipSlcCommand : HfpAtCommand → Bool
  | .retrieveCallHoldSupport | .enableCallWaitingNotifications =>
    !(s.callWaitingEnabled && s.agSupportsThreeWay)
  | .availableCodecs _ => s.agLacks agFeatureCodecNegotiation
  | .disableNoiseReduction => s.agLacks agFeatureEcNr
  | _ => false

/-- `true` when the refused command is optional and the service-level queue goes on without it. -/
def noteSlcProbeError : HfpAtCommand → HfpHandsFreeState × Bool
  | .availableCodecs _ => ({ s with wbsSupported := false }, true)
  | .activateClip _ | .enableAllIndicatorStatusUpdates _ | .disableNoiseReduction => (s, true)
  | .retrieveCallHoldSupport => ({ s with chldModes := none, probeRefused := some "AT+CHLD=?" }, true)
  | .enableCallWaitingNotifications =>
    ({ s with ccwaAccepted := false, probeRefused := some "AT+CCWA=1" }, true)
  | _ => (s, false)

def noteCcwaAccepted : HfpHandsFreeState := { s with ccwaAccepted := true }

def chldModeSupported (mode : String) : Bool := s.chldModes.any (·.contains mode)

def threeWayNegotiated : Bool :=
  s.callWaitingEnabled && s.agSupportsThreeWay && s.chldModeSupported "1" &&
    s.chldModeSupported "2" && s.ccwaAccepted

def callShape : Bool × Bool × Bool × Bool × ℤ × Bool × Bool :=
  (s.callActive, s.incomingCall, s.outgoingSetup, s.callWaiting, s.callHeld, s.terminatePending,
    s.secondSetupUnverified)

def secondSetupWhileActive : HfpHandsFreeState × List HfpEvent :=
  if s.threeWayNegotiated || s.callWaiting || s.secondSetupUnverified then (s, [])
  else ({ s with secondSetupUnverified := true }, [.callStateCheck])

def updateCallheld (value : ℤ) : HfpHandsFreeState × List HfpEvent :=
  if value = s.callHeld then (s, []) else ({ s with callHeld := value }, [.callHeld value])

def updateCallsetupIdle : HfpHandsFreeState × List HfpEvent :=
  if s.callWaiting then
    ({ s with callWaiting := false, waitingNumberKnown := false }, [.callWaitingEnded])
  else if s.secondSetupUnverified then ({ s with secondSetupUnverified := false }, [])
  else if (s.incomingCall || s.outgoingSetup) && !s.callActive then
    if s.setupRefused then
      ({ s with setupRefused := false, incomingCall := false, outgoingSetup := false }, [.callTerminated])
    else ({ s with incomingCall := false, outgoingSetup := false, terminatePending := true }, [])
  else (s, [])

def updateCallsetupIncoming : HfpHandsFreeState × List HfpEvent :=
  if s.callActive && s.threeWayNegotiated then
    if !s.callWaiting then
      ({ s with callWaiting := true, waitingNumberKnown := false }, [.callWaiting none])
    else (s, [])
  else if s.callActive then s.secondSetupWhileActive
  else
    let events := if s.terminatePending then [.callTerminated] else []
    ({ s with
        terminatePending := false, incomingCall := true, outgoingSetup := false,
        setupRefused := false, answerRetried := false },
      events ++ [.incomingCall])

def updateCallsetupDialing : HfpHandsFreeState × List HfpEvent :=
  let (s, events) :=
    if s.terminatePending then ({ s with terminatePending := false }, [HfpEvent.callTerminated])
    else if s.callActive then ({ s with callActive := false }, [.callTerminated])
    else (s, [])
  ({ s with incomingCall := false, outgoingSetup := true }, events ++ [.outgoingDialing])

def updateCallsetup (value : ℤ) : HfpHandsFreeState × List HfpEvent :=
  if value = 0 then s.updateCallsetupIdle
  else if value = 1 then s.updateCallsetupIncoming
  else if value = 2 then s.updateCallsetupDialing
  else if value = 3 then
    (if !s.callActive then { s with outgoingSetup := true } else s, [.ringing])
  else (s, [])

/-- The `call` indicator changed: what the end of a call makes of a caller still waiting. -/
def callChanged (active : Bool) : HfpHandsFreeState × List HfpEvent :=
  let s := { s with callActive := active, incomingCall := false, outgoingSetup := false }
  if active then (s, [.callAnswered])
  else if s.callWaiting then
    if s.callHeld ≠ 0 then (s, [.callTerminated])
    else ({ s with callWaiting := false, waitingNumberKnown := false, incomingCall := true },
      [.callWaitingEnded, .callTerminated, .incomingCall])
  else if s.secondSetupUnverified then
    ({ s with secondSetupUnverified := false, incomingCall := true }, [.callTerminated, .incomingCall])
  else (s, [.callTerminated])

def updateCallState (active : Bool) : HfpHandsFreeState × List HfpEvent :=
  let s := { s with setupRefused := false }
  let s := if active != s.callActive then { s with answerRetried := false, hangupRetried := false } else s
  let s := if active then { s with terminatePending := false } else s
  if active == s.callActive then
    if !active && s.terminatePending then ({ s with terminatePending := false }, [.callTerminated])
    else (s, [])
  else s.callChanged active

def applyIndicator (index : UInt8) (value : ℤ) : HfpHandsFreeState × List HfpEvent :=
  if index = s.callIndicatorIndex then s.updateCallState (value != 0)
  else if index = s.callsetupIndicatorIndex then s.updateCallsetup value
  else if some index = s.callheldIndicatorIndex then s.updateCallheld value
  else (s, [])

def noteIndicatorName (s : HfpHandsFreeState) (hfpIndex : UInt8) (name : String) : HfpHandsFreeState :=
  if eqIgnoreAsciiCase name.toList "call".toList then { s with callIndicatorIndex := hfpIndex }
  else if eqIgnoreAsciiCase name.toList "callsetup".toList then
    { s with callsetupIndicatorIndex := hfpIndex }
  else if eqIgnoreAsciiCase name.toList "callheld".toList then
    { s with callheldIndicatorIndex := some hfpIndex }
  else s

def applyIndicatorDefinitions (indicators : List String) : HfpHandsFreeState :=
  let sawCall := indicators.any fun name => eqIgnoreAsciiCase name.toList "call".toList
  let sawCallsetup := indicators.any fun name => eqIgnoreAsciiCase name.toList "callsetup".toList
  let s := indicators.zipIdx.foldl
    (fun s (name, index) => s.noteIndicatorName (UInt8.ofNat (index + 1)) name) s
  if sawCall && sawCallsetup then { s with indicatorDefinitionsSeen := true } else s

/-- `true` once: readiness was reached without a usable list of indicator names. -/
def needsIndicatorDefinitionsRetry : HfpHandsFreeState × Bool :=
  if s.indicatorDefinitionsSeen || s.indicatorDefinitionsRetryUsed then (s, false)
  else ({ s with indicatorDefinitionsRetryUsed := true }, true)

/-- What the `call` value of a status read settles: a held verdict, a lost `call,0`, a second setup
waiting for this read, or a call that was up before the connection was. -/
def settleCallSnapshot (active ringingNow : Bool) : HfpHandsFreeState × List HfpEvent :=
  if s.terminatePending then
    ({ s with terminatePending := false },
      if active && !s.callActive then [.callAnswered] else if !active then [.callTerminated] else [])
  else if !active && s.callActive then
    let (s, ended) :=
      if s.callWaiting then
        ({ s with
            callActive := false, callWaiting := false, waitingNumberKnown := false,
            secondSetupUnverified := ringingNow },
          [HfpEvent.callWaitingEnded])
      else ({ s with callActive := false }, [])
    let promoted := s.secondSetupUnverified && ringingNow
    let s := if promoted then { s with incomingCall := true } else s
    ({ s with secondSetupUnverified := false },
      ended ++ [.callTerminated] ++ if promoted then [.incomingCall] else [])
  else if active && s.secondSetupUnverified then
    let s := { s with secondSetupUnverified := false }
    if ringingNow && !s.callWaiting then
      ({ s with callWaiting := true, waitingNumberKnown := false }, [.callWaiting none])
    else (s, [])
  else if active && !s.callActive && !s.serviceLevelReady then (s, [.callActiveAtConnect])
  else (s, [])

def applyCallSnapshot (call : ℤ) (ringingNow : Bool) : HfpHandsFreeState × List HfpEvent :=
  let active := call != 0
  let (s, events) := s.settleCallSnapshot active ringingNow
  let s := { s with callActive := active }
  (if active then { s with incomingCall := false } else s, events)

def applyCallsetupSnapshot (callsetup : ℤ) : HfpHandsFreeState :=
  let s := { s with
    incomingCall := callsetup == 1 && !s.callActive
    outgoingSetup := (callsetup == 2 || callsetup == 3) && !s.callActive }
  if callsetup == 0 && s.callWaiting then { s with callWaiting := false, waitingNumberKnown := false }
  else s

def applyIndicatorStatus (values : List ℤ) : HfpHandsFreeState × List HfpEvent :=
  let ringingNow := indicatorStatusValue values s.callsetupIndicatorIndex == some 1
  let (s, events) := match indicatorStatusValue values s.callIndicatorIndex with
    | some call => s.applyCallSnapshot call ringingNow
    | none => (s, [])
  let s := match indicatorStatusValue values s.callsetupIndicatorIndex with
    | some callsetup => s.applyCallsetupSnapshot callsetup
    | none => s
  let s := match s.callheldIndicatorIndex.bind (indicatorStatusValue values) with
    | some held => { s with callHeld := held }
    | none => s
  (s, events)

def applyRing : HfpHandsFreeState × List HfpEvent :=
  let s := { s with terminatePending := false }
  if s.callWaiting && s.callHeld != 0 then (s, [])
  else if s.callActive then s.secondSetupWhileActive
  else ({ s with incomingCall := true }, [.incomingCall, .ringing])

def applyCallWaitingNotification (number : String) : HfpHandsFreeState × List HfpEvent :=
  if !s.callActive then (s, [])
  else if !s.callWaiting then
    ({ s with callWaiting := true, waitingNumberKnown := true }, [.callWaiting (some number)])
  else if !s.waitingNumberKnown then
    ({ s with waitingNumberKnown := true }, [.callWaiting (some number)])
  else (s, [])

def callListEvents (entry : ClccEntry) : List HfpEvent :=
  (match entry.number with
    | some number => if entry.status = 0 ∨ entry.status = 4 then [.callerId number] else []
    | none => []) ++ [.callListEntry entry]

def applyResultToState : HfpAgResult → HfpHandsFreeState × List HfpEvent
  | .ok => ({ s with supportedFeaturesExchanged := true }, [])
  | .ring => s.applyRing
  | .indicators names => (s.applyIndicatorDefinitions names, [])
  | .indicatorUpdate index value => s.applyIndicator index value
  | .indicatorStatus values => s.applyIndicatorStatus values
  | .callerId number =>
    if s.callActive && (s.callWaiting || s.secondSetupUnverified) then (s, []) else (s, [.callerId number])
  | .supportedFeatures features => ({ s with agFeatures := some features }, [])
  | .callHoldModes modes => ({ s with chldModes := some modes }, [])
  | .callWaitingNotification number => s.applyCallWaitingNotification number
  | .callListEntry entry => (s, callListEvents entry)
  | .selectedCodec codec =>
    if s.codecOffered codec then ({ s with selectedCodec := some codec }, [codecEvent codec]) else (s, [])
  | .error | .unknown _ => (s, [])

def applyResult (result : HfpAgResult) : HfpHandsFreeState × List HfpEvent :=
  let before := s.callShape
  let (s, events) := s.applyResultToState result
  (if s.callShape ≠ before then { s with callChanges := s.callChanges + 1 } else s, events)

def markCommandSent : HfpAtCommand → HfpHandsFreeState
  | .activateClip active => { s with clipEnabled := active }
  | .enableIndicatorUpdates active => { s with indicatorUpdatesEnabled := active }
  | .dial _ =>
    { s with
      terminatePending := false, incomingCall := false, callActive := false, outgoingSetup := true,
      setupRefused := false }
  | .rejectOrHangup =>
    { s with
      setupRefused := s.setupRefused || ((s.incomingCall || s.outgoingSetup) && !s.callActive)
      hangupSentLive := if s.callActive then some s.callChanges else none }
  | _ => s

/-- What follows a refused call-control command: the command to send once more, if any. -/
def afterRefusal (command : String) : HfpHandsFreeState × Option HfpAtCommand :=
  if command = "AT+CHUP" then
    let sentLive := s.hangupSentLive
    let s := { s with setupRefused := false, hangupSentLive := none }
    if s.callActive && !s.hangupRetried && sentLive == some s.callChanges then
      ({ s with hangupRetried := true }, some .rejectOrHangup)
    else (s, none)
  else if command = "ATA" then
    if s.incomingCall && !s.callActive && !s.setupRefused && !s.answerRetried then
      ({ s with answerRetried := true }, some .answer)
    else (s, none)
  else (s, none)

def callInProgress : Bool := s.callActive || s.incomingCall || s.outgoingSetup || s.terminatePending

def markServiceLevelReady : HfpHandsFreeState × Option HfpEvent :=
  if s.serviceLevelReady then (s, none)
  else ({ s with serviceLevelReady := true }, some .serviceLevelConnectionReady)

end HfpHandsFreeState

end Aokie.Radio.Hfp
