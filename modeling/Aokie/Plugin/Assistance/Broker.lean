import Aokie.Protocol.Text
import Aokie.Lib.Run

/-! The assistance mailbox: one slot for the question or the transfer that waits for the owner, and everything the
radio, the gateway and the devices do to it. Each operation is one turn at the mailbox lock, with the clock reading
the caller brought to it (`none`: a clock before the Unix epoch). -/

namespace Aokie.Plugin.Assistance

open Aokie.Lib Aokie.Protocol

def maxTransferTargets : ℕ := 16
def maxTtlSeconds : ℕ := 300
def transferSetupSeconds : ℕ := 45
def transferResolutionGraceSeconds : ℕ := 10
def maxAssistanceQuestionBytes : ℕ := 1000
def maxAssistanceContextBytes : ℕ := 2000
def maxAssistanceAnswerBytes : ℕ := 2000
def maxTransferReasonBytes : ℕ := 30
def maxSafeInteger : ℕ := 9007199254740991
def schemaVersion : ℕ := 2
def safeTransferReason : String := "Caller requested the owner"

structure AssistanceCallFence where
  callId : String
  callEpoch : ℕ
  ownerEpoch : ℕ
  switchboardRevision : ℕ
  remoteRevision : ℕ
  deriving DecidableEq, Repr

structure AssistanceAnswer where
  requestId : String
  answerId : String
  deviceId : String
  answer : String
  voiceConsult : Bool
  deriving DecidableEq, Repr

inductive AssistanceIntent
  | advice | transfer
  deriving DecidableEq, Repr

inductive AssistanceResponseAction
  | answer | decline
  deriving DecidableEq, Repr

inductive Withdrawal
  | withdrawn | won | resolved | gone
  deriving DecidableEq, Repr

inductive AssistanceResolution
  | answered (answer : AssistanceAnswer)
  | declined (deviceId answerId answer : String)
  | transferTaken (deviceId : String)
  | transferUnavailable (fence : AssistanceCallFence)
  | expired
  deriving DecidableEq, Repr

structure PendingTransfer where
  requestId : String
  fence : AssistanceCallFence
  expiresAt : ℕ
  acceptedBy : Option String
  deriving DecidableEq, Repr

structure VoiceConsultRequest where
  requestId : String
  fence : AssistanceCallFence
  question : String
  expiresAt : ℕ
  deriving DecidableEq, Repr

structure PluginAssistanceAnswerFrame where
  kind : String
  schemaVersion : ℕ
  appId : String
  deviceId : String
  requestId : String
  answerId : String
  callId : String
  callEpoch : ℕ
  ownerEpoch : ℕ
  switchboardRevision : ℕ
  remoteRevision : ℕ
  responseAction : AssistanceResponseAction
  answer : String
  deriving DecidableEq, Repr

def isSafeId (value : String) : Bool :=
  !value.isEmpty && decide (value.utf8ByteSize ≤ 200) &&
    value.toList.all fun c => c.isAlphanum || c == '-' || c == '_' || c == '.' || c == ':'

def safeId (field value : String) : Except String Unit := ensure (isSafeId value) ("invalid " ++ field)

def safeInteger (field : String) (value minimum : ℕ) : Except String Unit :=
  ensure (minimum ≤ value ∧ value ≤ maxSafeInteger) ("invalid " ++ field)

def boundedText (field value : String) (maximum : ℕ) : Except String Unit :=
  ensure (value ≠ "" ∧ value.utf8ByteSize ≤ maximum ∧ '\x00' ∉ value.toList) ("invalid " ++ field)

def PluginAssistanceAnswerFrame.validate (frame : PluginAssistanceAnswerFrame) : Except String Unit := do
  ensure (frame.kind = "assistance_answer") "invalid kind"
  ensure (frame.schemaVersion = Assistance.schemaVersion) "invalid schemaVersion"
  safeId "appId" frame.appId
  safeId "deviceId" frame.deviceId
  safeId "requestId" frame.requestId
  safeId "answerId" frame.answerId
  safeId "callId" frame.callId
  safeInteger "callEpoch" frame.callEpoch 1
  safeInteger "ownerEpoch" frame.ownerEpoch 0
  safeInteger "switchboardRevision" frame.switchboardRevision 0
  safeInteger "remoteRevision" frame.remoteRevision 0
  boundedText "answer" frame.answer maxAssistanceAnswerBytes

structure PendingAssistance where
  eventId : String
  requestId : String
  fence : AssistanceCallFence
  question : String
  context : Option String
  expiresAt : ℕ
  intent : AssistanceIntent
  acceptedBy : Option String
  acceptedSetupExpiresAt : Option ℕ
  resolution : Option AssistanceResolution
  targets : Option (List String)
  deriving DecidableEq, Repr

namespace PendingAssistance

variable (pending : PendingAssistance)

def transferActionDeadline : ℕ := pending.acceptedSetupExpiresAt.getD pending.expiresAt

def mailboxWaitDeadline : ℕ :=
  match pending.acceptedSetupExpiresAt with
  | some deadline => saturatingAdd deadline transferResolutionGraceSeconds
  | none => pending.expiresAt

def isOpen (now : ℕ) : Bool := pending.resolution.isNone && decide (now < pending.mailboxWaitDeadline)

end PendingAssistance

def validateDeviceId (deviceId : String) : Except String Unit :=
  ensure (isSafeId deviceId) "assistance device identity is invalid"

def validateFence (fence : AssistanceCallFence) : Except String Unit :=
  ensure (isSafeId fence.callId ∧ fence.callEpoch ≠ 0) "assistance call fence is invalid"

def validateText (value : String) (maximum : ℕ) (name : String) : Except String Unit :=
  ensure ((trim value.toList).isEmpty = false ∧ value.utf8ByteSize ≤ maximum ∧ value.toList.any isControl = false)
    ("assistance " ++ name ++ " is invalid")

def normalizeTargets (targets : List String) : Except String (List String) := do
  ensure (targets.all isSafeId) "transfer target identity is invalid"
  let clean := targets.foldl (fun clean target => if target ∈ clean then clean else clean ++ [target]) []
  ensure (clean ≠ []) "transfer names no target device"
  ensure (clean.length ≤ maxTransferTargets) "transfer names too many target devices"
  return clean

def unixNow (clock : Option ℕ) : Except String ℕ := okOr clock "system clock is before the Unix epoch"

def resolutionMatchesFrame (resolution : AssistanceResolution) (frame : PluginAssistanceAnswerFrame) : Bool :=
  match resolution, frame.responseAction with
  | .answered answer, .answer =>
      answer.answerId == frame.answerId && answer.deviceId == frame.deviceId && answer.answer == frame.answer
  | .declined deviceId answerId answer, .decline =>
      deviceId == frame.deviceId && answerId == frame.answerId && answer == frame.answer
  | _, _ => false

/-- The mailbox, and how many random identifiers have been drawn for it. -/
structure AssistanceBroker where
  inner : Option PendingAssistance
  drawn : ℕ
  deriving DecidableEq, Repr

namespace AssistanceBroker

def new : AssistanceBroker := ⟨none, 0⟩

variable (uuid : ℕ → String) (broker : AssistanceBroker)

def requestChecks (fence : AssistanceCallFence) (intent : AssistanceIntent) (question : String)
    (context : Option String) (ttlSeconds : ℕ) (clock : Option ℕ) : Except String ℕ := do
  validateText question maxAssistanceQuestionBytes "question"
  ensure (intent = .transfer → question.utf8ByteSize ≤ maxTransferReasonBytes ∧
      '[' ∉ question.toList ∧ ']' ∉ question.toList) "transfer reason is not short control-safe text"
  match context with
  | some context => validateText context maxAssistanceContextBytes "context"
  | none => pure ()
  ensure (1 ≤ ttlSeconds ∧ ttlSeconds ≤ maxTtlSeconds) "assistance TTL must be 1..300 seconds"
  validateFence fence
  let now ← unixNow clock
  ensure (broker.inner.any (·.isOpen now) = false) "an assistance request is already pending"
  return now

def requestWithIntent (fence : AssistanceCallFence) (intent : AssistanceIntent) (question : String)
    (context : Option String) (ttlSeconds : ℕ) (targets : Option (List String)) (clock : Option ℕ) :
    AssistanceBroker × Except String String :=
  match broker.requestChecks fence intent question context ttlSeconds clock with
  | .error e => (broker, .error e)
  | .ok now =>
      let requestId := "assist_" ++ uuid broker.drawn
      ({ inner := some
          { eventId := "assist_event_" ++ uuid (broker.drawn + 1)
            requestId
            fence
            question := String.ofList (trim question.toList)
            context := context.map fun context => String.ofList (trim context.toList)
            expiresAt := now + ttlSeconds
            intent
            acceptedBy := none
            acceptedSetupExpiresAt := none
            resolution := none
            targets }
         drawn := broker.drawn + 2 }, .ok requestId)

def request (fence : AssistanceCallFence) (question : String) (context : Option String) (ttlSeconds : ℕ)
    (clock : Option ℕ) : AssistanceBroker × Except String String :=
  broker.requestWithIntent uuid fence .advice question context ttlSeconds none clock

def requestTransferTo (fence : AssistanceCallFence) (context : Option String) (ttlSeconds : ℕ)
    (targets : Option (List String)) (clock : Option ℕ) : AssistanceBroker × Except String String :=
  match targets with
  | none => broker.requestWithIntent uuid fence .transfer safeTransferReason context ttlSeconds none clock
  | some named =>
      match normalizeTargets named with
      | .error e => (broker, .error e)
      | .ok clean => broker.requestWithIntent uuid fence .transfer safeTransferReason context ttlSeconds
          (some clean) clock

def isBusy (clock : Option ℕ) : Bool :=
  match clock with
  | none => true
  | some now => broker.inner.any (·.isOpen now)

def transferAdmits (requestId holderThumbprint : String) : Bool :=
  broker.inner.any fun pending =>
    pending.requestId == requestId && pending.intent == .transfer &&
      pending.targets.all fun targets => targets.contains holderThumbprint

def peekResolution (requestId : String) : Option AssistanceResolution :=
  (broker.inner.filter (·.requestId == requestId)).bind (·.resolution)

def withPending (pending : PendingAssistance) : AssistanceBroker := { broker with inner := some pending }

def acceptChecks (frame : PluginAssistanceAnswerFrame) (clock : Option ℕ) :
    Except String (PendingAssistance × Bool) := do
  frame.validate
  let now ← unixNow clock
  let pending ← okOr broker.inner "assistance request is no longer pending"
  ensure (now < pending.expiresAt) "assistance request expired"
  ensure (pending.requestId = frame.requestId ∧ pending.fence.callId = frame.callId ∧
      pending.fence.callEpoch = frame.callEpoch ∧ pending.fence.ownerEpoch = frame.ownerEpoch ∧
      pending.fence.switchboardRevision = frame.switchboardRevision ∧
      pending.fence.remoteRevision = frame.remoteRevision) "assistance answer crossed call revisions"
  ensure (pending.acceptedBy = none) "transfer acceptance already owns this request"
  ensure (¬(pending.intent = .transfer ∧ frame.responseAction = .answer))
    "transfer acceptance requires an exact takeover claim"
  match pending.resolution with
  | some resolution =>
      ensure (resolutionMatchesFrame resolution frame) "assistance request already consumed its one response"
      return (pending, false)
  | none =>
      validateText frame.answer maxAssistanceAnswerBytes "answer"
      return (pending, true)

def frameResolution (frame : PluginAssistanceAnswerFrame) : AssistanceResolution :=
  match frame.responseAction with
  | .answer => .answered ⟨frame.requestId, frame.answerId, frame.deviceId, frame.answer, false⟩
  | .decline => .declined frame.deviceId frame.answerId frame.answer

def accept (frame : PluginAssistanceAnswerFrame) (clock : Option ℕ) : AssistanceBroker × Except String Unit :=
  match broker.acceptChecks frame clock with
  | .error e => (broker, .error e)
  | .ok (pending, true) => (broker.withPending { pending with resolution := some (frameResolution frame) }, .ok ())
  | .ok (_, false) => (broker, .ok ())

def beginVoiceConsultChecks (previous currentFence : AssistanceCallFence) (clock : Option ℕ) :
    Except String PendingAssistance := do
  validateFence currentFence
  let now ← unixNow clock
  let pending ← okOr broker.inner "assistance request is no longer pending"
  ensure (pending.intent = .advice ∧ pending.resolution = none ∧ pending.acceptedBy = none ∧
      now < pending.expiresAt ∧ pending.fence = previous) "assistance request changed before private consultation"
  ensure (currentFence.callId = previous.callId ∧ currentFence.callEpoch = previous.callEpoch ∧
      currentFence.switchboardRevision = previous.switchboardRevision ∧
      previous.ownerEpoch < currentFence.ownerEpoch ∧ previous.remoteRevision < currentFence.remoteRevision)
    "private consultation did not safely advance the call fence"
  return pending

def beginVoiceConsult (previous currentFence : AssistanceCallFence) (clock : Option ℕ) :
    AssistanceBroker × Except String VoiceConsultRequest :=
  match broker.beginVoiceConsultChecks previous currentFence clock with
  | .error e => (broker, .error e)
  | .ok pending =>
      (broker.withPending { pending with fence := currentFence },
        .ok ⟨pending.requestId, currentFence, pending.question, pending.expiresAt⟩)

def acceptVoiceChecks (requestId : String) (fence : AssistanceCallFence) (deviceId answer : String)
    (clock : Option ℕ) : Except String PendingAssistance := do
  validateText answer maxAssistanceAnswerBytes "answer"
  let now ← unixNow clock
  let pending ← okOr broker.inner "assistance request is no longer pending"
  ensure (pending.requestId = requestId ∧ pending.fence = fence ∧ pending.intent = .advice ∧
      now < pending.expiresAt ∧ pending.resolution = none ∧ pending.acceptedBy = none)
    "voice consult answer crossed its assistance fence"
  validateDeviceId deviceId
  return pending

def acceptVoice (requestId : String) (fence : AssistanceCallFence) (deviceId answer : String)
    (clock : Option ℕ) : AssistanceBroker × Except String Unit :=
  match broker.acceptVoiceChecks requestId fence deviceId answer clock with
  | .error e => (broker, .error e)
  | .ok pending =>
      let recorded : AssistanceAnswer :=
        { requestId
          answerId := "voice_" ++ uuid broker.drawn
          deviceId
          answer := String.ofList (trim answer.toList)
          voiceConsult := true }
      ({ inner := some { pending with resolution := some (.answered recorded) }, drawn := broker.drawn + 1 }, .ok ())

def pendingTransfer (callId : String) (callEpoch : ℕ) (clock : Option ℕ) : Option PendingTransfer := do
  let now ← clock
  let pending ← broker.inner
  guard (pending.intent = .transfer ∧ pending.fence.callId = callId ∧ pending.fence.callEpoch = callEpoch ∧
    pending.resolution = none ∧ now < pending.transferActionDeadline)
  return ⟨pending.requestId, pending.fence, pending.transferActionDeadline, pending.acceptedBy⟩

def acceptedTransfer (callId : String) (callEpoch : ℕ) (clock : Option ℕ) : Option PendingTransfer := do
  let now ← clock
  let pending ← broker.inner
  guard (pending.intent = .transfer ∧ pending.fence.callId = callId ∧ pending.fence.callEpoch = callEpoch ∧
    pending.acceptedBy.isSome ∧ pending.resolution = none ∧ now < pending.mailboxWaitDeadline)
  return ⟨pending.requestId, pending.fence, pending.transferActionDeadline, pending.acceptedBy⟩

def transferActivationIsCurrent (requestId : String) (fence : AssistanceCallFence) (deviceId : String)
    (clock : Option ℕ) : Bool :=
  match clock with
  | none => false
  | some now => broker.inner.any fun pending =>
      pending.requestId == requestId && pending.fence == fence && pending.intent == .transfer &&
        pending.acceptedBy == some deviceId && pending.resolution.isNone && decide
          (now < pending.transferActionDeadline)

/-- The checks of `update_transfer`: the exact transfer, before its action deadline. -/
def transferInHand (requestId : String) (fence : AssistanceCallFence) (clock : Option ℕ) :
    Except String PendingAssistance := do
  let now ← unixNow clock
  let pending ← okOr broker.inner "transfer request is no longer pending"
  ensure (pending.requestId = requestId ∧ pending.fence = fence ∧ pending.intent = .transfer ∧
    now < pending.transferActionDeadline) "transfer request crossed its assistance fence"
  return pending

def acceptTransferChecks (requestId : String) (fence : AssistanceCallFence) (deviceId : String)
    (setupClock clock : Option ℕ) : Except String (PendingAssistance × ℕ) := do
  validateDeviceId deviceId
  let setupNow ← unixNow setupClock
  let pending ← broker.transferInHand requestId fence clock
  ensure (pending.resolution = none) "transfer request is already resolved"
  ensure (pending.acceptedBy = none ∨ pending.acceptedBy = some deviceId)
    "another responder already accepted this transfer"
  return (pending, saturatingAdd setupNow transferSetupSeconds)

/-- The setup deadline comes from a clock reading before the one that `update_transfer` takes. -/
def acceptTransfer (requestId : String) (fence : AssistanceCallFence) (deviceId : String)
    (setupClock clock : Option ℕ) : AssistanceBroker × Except String Unit :=
  match broker.acceptTransferChecks requestId fence deviceId setupClock clock with
  | .error e => (broker, .error e)
  | .ok (pending, setupExpiresAt) =>
      if pending.acceptedBy.isSome then (broker, .ok ())
      else (broker.withPending { pending with
              acceptedBy := some deviceId, acceptedSetupExpiresAt := some setupExpiresAt }, .ok ())

def releaseChecks (requestId : String) (fence : AssistanceCallFence) (deviceId : String) (clock : Option ℕ) :
    Except String PendingAssistance := do
  validateDeviceId deviceId
  let pending ← broker.transferInHand requestId fence clock
  ensure (pending.resolution = none) "transfer request is already resolved"
  ensure (pending.acceptedBy = some deviceId) "transfer reservation does not match its accepting device"
  return pending

def releaseTransferAcceptance (requestId : String) (fence : AssistanceCallFence) (deviceId : String)
    (clock : Option ℕ) : AssistanceBroker × Except String Unit :=
  match broker.releaseChecks requestId fence deviceId clock with
  | .error e => (broker, .error e)
  | .ok pending =>
      (broker.withPending { pending with acceptedBy := none, acceptedSetupExpiresAt := none }, .ok ())

def takenChecks (requestId : String) (fence : AssistanceCallFence) (deviceId : String) (clock : Option ℕ) :
    Except String PendingAssistance := do
  validateDeviceId deviceId
  let pending ← broker.transferInHand requestId fence clock
  match pending.resolution with
  | some resolution => ensure (resolution = .transferTaken deviceId) "transfer request is already resolved"
  | none => ensure (pending.acceptedBy = some deviceId) "transfer completion does not match its accepting device"
  return pending

def transferTaken (requestId : String) (fence : AssistanceCallFence) (deviceId : String) (clock : Option ℕ) :
    AssistanceBroker × Except String Unit :=
  match broker.takenChecks requestId fence deviceId clock with
  | .error e => (broker, .error e)
  | .ok pending =>
      if pending.resolution.isSome then (broker, .ok ())
      else (broker.withPending { pending with resolution := some (.transferTaken deviceId) }, .ok ())

def unavailableChecks (requestId : String) (offeredFence currentFence : AssistanceCallFence)
    (deviceId : Option String) : Except String PendingAssistance := do
  match deviceId with
  | some deviceId => validateDeviceId deviceId
  | none => pure ()
  validateFence currentFence
  ensure (currentFence.callId = offeredFence.callId ∧ currentFence.callEpoch = offeredFence.callEpoch ∧
      currentFence.switchboardRevision = offeredFence.switchboardRevision ∧
      offeredFence.ownerEpoch ≤ currentFence.ownerEpoch ∧ offeredFence.remoteRevision ≤ currentFence.remoteRevision)
    "transfer return did not preserve its call fence"
  let pending ← okOr broker.inner "transfer request is no longer pending"
  ensure (pending.requestId = requestId ∧ pending.fence = offeredFence ∧ pending.intent = .transfer)
    "transfer request crossed its assistance fence"
  match pending.resolution with
  | some resolution => ensure (resolution = .transferUnavailable currentFence) "transfer request is already resolved"
  | none =>
      ensure (pending.acceptedBy = none ∨ pending.acceptedBy = deviceId)
        "transfer failure does not match its accepting device"
  return pending

def transferUnavailable (requestId : String) (offeredFence currentFence : AssistanceCallFence)
    (deviceId : Option String) : AssistanceBroker × Except String Unit :=
  match broker.unavailableChecks requestId offeredFence currentFence deviceId with
  | .error e => (broker, .error e)
  | .ok pending =>
      if pending.resolution.isSome then (broker, .ok ())
      else (broker.withPending { pending with resolution := some (.transferUnavailable currentFence) }, .ok ())

def takeResolution (requestId : String) (clock : Option ℕ) : AssistanceBroker × Option AssistanceResolution :=
  match clock, broker.inner with
  | some now, some pending =>
      if pending.requestId = requestId ∧ pending.isOpen now = false then
        ({ broker with inner := none }, some (pending.resolution.getD .expired))
      else (broker, none)
  | _, _ => (broker, none)

def isWaiting (requestId : String) (clock : Option ℕ) : Bool :=
  match clock with
  | none => false
  | some now => broker.inner.any fun pending => pending.requestId == requestId && pending.isOpen now

def withdrawIfUnaccepted (requestId : String) : AssistanceBroker × Withdrawal :=
  match broker.inner.filter (·.requestId == requestId) with
  | none => (broker, .gone)
  | some pending =>
      if pending.acceptedBy.isSome then (broker, .won)
      else if pending.resolution.isSome then (broker, .resolved)
      else ({ broker with inner := none }, .withdrawn)

def discard (requestId : String) : AssistanceBroker :=
  if broker.inner.any (·.requestId == requestId) then { broker with inner := none } else broker

end AssistanceBroker

end Aokie.Plugin.Assistance
