import Aokie.Plugin.Assistance.Uses
import Aokie.Plugin.Transfer.Governor

/-! The transfers of one call to the owner: what the machine asks of the host and the mailbox, and what it reports.
Each function is given, beside its arguments, what happens at the mailbox before each of its own turns there. -/

namespace Aokie.Plugin.Transfer

open Aokie.Lib Aokie.Plugin.RemoteMedia Aokie.Plugin.Assistance

def planWait : Duration := millis 1500
def hardDeadlineSlack : Duration := seconds 5
def ringSecondsMin : ℕ := 20
def ringSecondsMax : ℕ := 90

inductive Reason
  | callerAsked | urgent | policyRule
  deriving DecidableEq, Repr

inductive RefusalStatus
  | refused | unavailable
  deriving DecidableEq, Repr

inductive ToolAnswer
  | refusal (status : RefusalStatus) (reason : String)
  | ringing (requestId : String) (ringSeconds : ℕ)
  deriving DecidableEq, Repr

def planReasons : List String :=
  ["disabled", "initiative_off", "not_urgent", "caller_did_not_ask", "limit_call", "limit_gap", "limit_caller",
    "limit_global", "quiet_hours", "all_do_not_disturb", "no_endpoint"]

def pluginReasons : List String := ["consent", "pending_request", "busy", "bad_arguments", "plan_unavailable"]

def refusal (status : RefusalStatus) (reason : String) : ToolAnswer :=
  if reason ∈ planReasons ∨ reason ∈ pluginReasons ∨ reason = "call_changed" then .refusal status reason
  else .refusal .unavailable "plan_unavailable"

inductive Decision
  | ring | messageOnly | refused
  deriving DecidableEq, Repr

structure RingPlan where
  decision : Decision
  reason : String
  ringSeconds : ℕ
  phones : List String
  desktopCompanions : List String
  reasonAllowed : Bool
  ring_bounds : ringSecondsMin ≤ ringSeconds ∧ ringSeconds ≤ ringSecondsMax
  deriving DecidableEq, Repr

inductive Targets
  | only (devices : List String)
  | nobody
  deriving DecidableEq, Repr

namespace RingPlan

variable (plan : RingPlan)

def targets : List String :=
  plan.desktopCompanions.foldl (fun targets device => if device ∈ targets then targets else targets ++ [device])
    plan.phones

def targetRule : Targets := if plan.targets.isEmpty then .nobody else .only plan.targets

end RingPlan

inductive Outcome
  | accepted | declined | unavailable | expired | cancelled
  deriving DecidableEq, Repr

structure OutcomeFrame where
  requestId : String
  outcome : Outcome
  message : Option String
  atMs : ℕ
  deriving DecidableEq, Repr

inductive Notice
  | tooLate | unknownRequest
  deriving DecidableEq, Repr

structure NoticeFrame where
  requestId : String
  notice : Notice
  atMs : ℕ
  deriving DecidableEq, Repr

inductive AssistanceAuditResolution
  | answered (deviceId : String)
  | declined (deviceId : String)
  | transferred (deviceId : String)
  | unavailable
  | expired
  | cancelled
  deriving DecidableEq, Repr

/-- A durable `aokie.call.assistance.*` event: that a request was made (`none`), or how it was resolved. -/
structure AuditEvent where
  requestId : String
  callId : String
  resolution : Option AssistanceAuditResolution
  deriving DecidableEq, Repr

structure AssistanceAuditLifecycle where
  requestId : String
  callId : String
  resolved : Bool
  deriving DecidableEq, Repr

namespace AssistanceAuditLifecycle

def opened (requestId callId : String) : AssistanceAuditLifecycle × AuditEvent :=
  (⟨requestId, callId, false⟩, ⟨requestId, callId, none⟩)

def resolve (audit : AssistanceAuditLifecycle) (resolution : AssistanceAuditResolution) :
    AssistanceAuditLifecycle × Option AuditEvent :=
  if audit.resolved then (audit, none)
  else ({ audit with resolved := true }, some ⟨audit.requestId, audit.callId, some resolution⟩)

end AssistanceAuditLifecycle

inductive Effect
  | toolAnswer (toolCallId : String) (answer : ToolAnswer)
  | outcome (frame : OutcomeFrame)
  | notice (frame : NoticeFrame)
  | audit (event : AuditEvent)
  deriving DecidableEq, Repr

inductive End
  | taken | unavailable | other
  deriving DecidableEq, Repr

structure Planning where
  toolCallId : String
  callId : String
  reason : Reason
  callerAsked : Bool
  heard : ℕ
  callerKey : Option ℕ
  owner : AokieOwnerFence
  sessionToken : ℕ
  deadline : Instant
  deriving DecidableEq, Repr

structure Open where
  requestId : String
  fence : AssistanceCallFence
  audit : AssistanceAuditLifecycle
  acceptedSent : Bool
  hardDeadline : Instant
  deriving DecidableEq, Repr

inductive Stage
  | idle
  | planning (planning : Planning)
  | ringing (request : Open)
  | accepted (request : Open)
  deriving DecidableEq, Repr

structure TransferCall where
  stage : Stage := .idle
  attempts : ℕ := 0
  lastEnded : Option Instant := none
  lastEnd : Option End := none
  endIsSpent : Bool := false
  callerTurnsSpent : ℕ := 0
  deriving DecidableEq, Repr

/-- What the radio gives the machine for one call into it. -/
structure TransferEnv where
  now : Instant
  unixMs : ℕ
  activeCallId : Option String
  switchboardRevision : ℕ
  hostRingPlan : Bool
  sessionToken : ℕ
  deriving DecidableEq, Repr

structure RemoteView where
  callId : Option String
  callEpoch : ℕ
  ownerEpoch : ℕ
  remoteRevision : ℕ
  assistanceEnabled : Bool
  takeoverEnabled : Bool
  deriving DecidableEq, Repr

def RemoteView.consents (remote : RemoteView) : Bool := remote.assistanceEnabled && remote.takeoverEnabled

/-- A turn at the mailbox: what the others do there since the last one, and the clock reading. -/
structure Look where
  others : List BrokerOp := []
  clock : Option ℕ

inductive Received
  | empty
  | disconnected
  | result (plan : Option RingPlan)
  deriving DecidableEq, Repr

structure PlanLooks where
  received : Received
  remote : RemoteView
  owner : Option AokieOwnerFence
  ownerAtOpening : Option AokieOwnerFence
  opening : Look
  walk : List (ℕ × List Instant) → List (ℕ × List Instant) := id

structure OpenLooks where
  consent : RemoteView
  waiting : Look
  won : Look
  taking : Look
  discarding : Look
  dropping : Look

structure PollLooks where
  plan : PlanLooks
  request : OpenLooks

structure CancelLooks where
  discarding : Look
  dropping : Look

structure WithdrawLooks where
  withdrawing : Look
  cancel : CancelLooks
  poll : PollLooks

structure BeginArgs where
  toolCallId : String
  reason : Option Reason
  callId : String
  owner : AokieOwnerFence
  callerAsked : Bool
  callerTurnsHeard : ℕ
  callerNumber : Option (List Char)
  deriving DecidableEq, Repr

structure BeginLooks where
  busy : Look
  remote : RemoteView
  owner : Option AokieOwnerFence
  sent : Bool

inductive Begin
  | answered (answer : ToolAnswer)
  | planning
  deriving DecidableEq, Repr

inductive Party
  | machine | others
  deriving DecidableEq, Repr

/-- The machine of one call, with the ceilings and the mailbox that it shares, and what was done at the mailbox so
far. -/
structure World where
  call : TransferCall
  broker : AssistanceBroker
  governor : Governor
  trace : List (Party × BrokerOp) := []

namespace TransferCall

variable (call : TransferCall)

def isActive : Bool := call.stage ≠ .idle

def requestId : Option String :=
  match call.stage with
  | .ringing request | .accepted request => some request.requestId
  | _ => none

def spendCallerTurns (heard : ℕ) : TransferCall := { call with callerTurnsSpent := max call.callerTurnsSpent heard }

def noteEnd (ending : End) (now : Instant) : TransferCall :=
  { call with
    lastEnded := some now
    endIsSpent := false
    lastEnd := if call.endIsSpent then none else some ending }

end TransferCall

namespace World

variable (uuid : ℕ → String) (sanitizeOwnerMessage : String → Option String)

def look (w : World) (l : Look) : World :=
  { w with broker := w.broker.performAll uuid l.others, trace := w.trace ++ l.others.map (Party.others, ·) }

def own (w : World) (op : BrokerOp) : World :=
  { w with broker := w.broker.perform uuid op, trace := w.trace ++ [(.machine, op)] }

def setStage (w : World) (stage : Stage) : World := { w with call := { w.call with stage } }

section Begin

variable (hashOne : List Char → ℕ)

def begin (env : TransferEnv) (args : BeginArgs) (l : BeginLooks) (w : World) : World × Begin :=
  let refused := fun (w : World) status reason => (w, Begin.answered (refusal status reason))
  match args.reason with
  | none => refused w .refused "bad_arguments"
  | some reason =>
    if w.call.isActive then refused w .refused "pending_request"
    else
    let w := w.look uuid l.busy
    if w.broker.isBusy l.busy.clock then refused w .refused "pending_request"
    else if ¬(env.activeCallId = some args.callId ∧ l.remote.callId = some args.callId ∧ 0 < l.remote.callEpoch ∧
        l.owner = some args.owner) then refused w .unavailable "call_changed"
    else if l.remote.consents = false then refused w .refused "consent"
    else if maxAttemptsPerCall ≤ w.call.attempts then refused w .refused "limit_call"
    else if w.call.lastEnded.any fun ended => decide (env.now - ended < minGapBetweenAttempts) then
      refused w .refused "limit_gap"
    else
    let callerKey := args.callerNumber.bind (Governor.callerKey hashOne)
    let (governor, allowed) := w.governor.allowsCaller env.now callerKey
    let w := { w with governor }
    if allowed = false then refused w .refused "limit_caller"
    else
    let (governor, allowed) := w.governor.allows env.now
    let w := { w with governor }
    if allowed = false then refused w .refused "limit_global"
    else if reason = .callerAsked ∧ args.callerAsked = false then refused w .refused "caller_did_not_ask"
    else if env.hostRingPlan = false then refused w .unavailable "plan_unavailable"
    else if l.sent = false then refused w .unavailable "plan_unavailable"
    else
      (w.setStage (.planning
        { toolCallId := args.toolCallId
          callId := args.callId
          reason
          callerAsked := args.callerAsked
          heard := args.callerTurnsHeard
          callerKey
          owner := args.owner
          sessionToken := env.sessionToken
          deadline := env.now + planWait }), .planning)

end Begin

def cancel (env : TransferEnv) (request : Open) (l : CancelLooks) (w : World) : World × List Effect :=
  let w := (w.look uuid l.discarding).own uuid (.discard request.requestId)
  let (_, event) := request.audit.resolve .cancelled
  let w := { w with call := w.call.noteEnd .other env.now }
  let w := (w.look uuid l.dropping).own uuid (.discard request.requestId)
  (w, [.outcome ⟨request.requestId, .cancelled, none, env.unixMs⟩] ++ event.toList.map .audit)

/-- What a resolution is reported as: an outcome with its message, an audit resolution, and how the request ended. -/
def ending (request : Open) (resolution : AssistanceResolution) :
    Option Outcome × Option String × AssistanceAuditResolution × End :=
  match resolution with
  | .transferTaken deviceId => (none, none, .transferred deviceId, .taken)
  | .declined deviceId _ answer => (some .declined, sanitizeOwnerMessage answer, .declined deviceId, .other)
  | .transferUnavailable _ | .answered _ => (some .unavailable, none, .unavailable, .unavailable)
  | .expired =>
      if request.acceptedSent then (some .unavailable, none, .unavailable, .unavailable)
      else (some .expired, none, .expired, .other)

def finish (env : TransferEnv) (request : Open) (resolution : AssistanceResolution) (dropping : Look) (w : World) :
    World × List Effect :=
  let (outcome, message, audit, ended) := ending sanitizeOwnerMessage request resolution
  let (_, event) := request.audit.resolve audit
  let w := { w with call := w.call.noteEnd ended env.now }
  let w := (w.look uuid dropping).own uuid (.discard request.requestId)
  (w, (outcome.toList.map fun outcome => .outcome ⟨request.requestId, outcome, message, env.unixMs⟩) ++
    event.toList.map .audit)

def pollOpen (env : TransferEnv) (request : Open) (accepted : Bool) (l : OpenLooks) (w : World) : World × List Effect :=
  if env.activeCallId ≠ some request.fence.callId then w.cancel uuid env request ⟨l.discarding, l.dropping⟩
  else if accepted = false ∧ l.consent.consents = false then w.cancel uuid env request ⟨l.discarding, l.dropping⟩
  else
  let w := w.look uuid l.waiting
  if w.broker.isWaiting request.requestId l.waiting.clock = false then
    let w := w.look uuid l.taking
    let (_, resolution) := w.broker.takeResolution request.requestId l.taking.clock
    let w := w.own uuid (.takeResolution request.requestId l.taking.clock)
    let w := (w.look uuid l.discarding).own uuid (.discard request.requestId)
    w.finish uuid sanitizeOwnerMessage env request (resolution.getD .expired) l.dropping
  else if request.hardDeadline ≤ env.now then
    let w := (w.look uuid l.discarding).own uuid (.discard request.requestId)
    w.finish uuid sanitizeOwnerMessage env request .expired l.dropping
  else
  let w := w.look uuid l.won
  let won := (w.broker.acceptedTransfer request.fence.callId request.fence.callEpoch l.won.clock).any fun pending =>
    pending.requestId == request.requestId && pending.acceptedBy.isSome
  if won = true ∧ request.acceptedSent = false then
    (w.setStage (.accepted { request with acceptedSent := true }),
      [.outcome ⟨request.requestId, .accepted, none, env.unixMs⟩])
  else if won then (w.setStage (.accepted request), [])
  else (w.setStage (.ringing request), [])

def pollPlanning (env : TransferEnv) (planning : Planning) (l : PlanLooks) (w : World) : World × List Effect :=
  let answered := fun (w : World) answer => (w, [Effect.toolAnswer planning.toolCallId answer])
  if planning.sessionToken ≠ env.sessionToken ∨ env.activeCallId ≠ some planning.callId then (w, [])
  else match l.received with
  | .empty =>
      if env.now < planning.deadline then (w.setStage (.planning planning), [])
      else answered w (refusal .unavailable "plan_unavailable")
  | .disconnected => answered w (refusal .unavailable "plan_unavailable")
  | .result none => answered w (refusal .unavailable "plan_unavailable")
  | .result (some plan) =>
    match plan.decision with
    | .refused => answered w (refusal .refused plan.reason)
    | .messageOnly => answered w (refusal .unavailable plan.reason)
    | .ring =>
      if planning.reason ≠ .callerAsked ∧ plan.reasonAllowed = false ∧ planning.callerAsked = false then
        answered w (refusal .refused (if planning.reason = .urgent then "not_urgent" else "caller_did_not_ask"))
      else match plan.targetRule with
      | .nobody => answered w (refusal .unavailable "no_endpoint")
      | .only targetDevices =>
        if l.remote.consents = false then answered w (refusal .refused "consent")
        else if l.remote.callId ≠ some planning.callId ∨ l.remote.callEpoch = 0 then
          answered w (refusal .unavailable "call_changed")
        else
        let fence : AssistanceCallFence :=
          { callId := planning.callId
            callEpoch := l.remote.callEpoch
            ownerEpoch := l.remote.ownerEpoch
            switchboardRevision := env.switchboardRevision
            remoteRevision := l.remote.remoteRevision }
        match l.owner.filter fun owner =>
            owner.callId == planning.callId && owner.callEpoch == planning.owner.callEpoch with
        | none => answered w (refusal .unavailable "call_changed")
        | some owner =>
          if l.ownerAtOpening ≠ some owner then answered w (refusal .unavailable "call_changed")
          else
          let w := w.look uuid l.opening
          let (_, opened) :=
            w.broker.requestTransferTo uuid fence none plan.ringSeconds (some targetDevices) l.opening.clock
          let w := w.own uuid
            (.requestTransferTo fence none plan.ringSeconds (some targetDevices) l.opening.clock)
          match opened with
          | .error _ => answered w (refusal .refused "pending_request")
          | .ok requestId =>
            let (audit, requested) := AssistanceAuditLifecycle.opened requestId fence.callId
            let hard := seconds (plan.ringSeconds + transferSetupSeconds + transferResolutionGraceSeconds) +
              hardDeadlineSlack
            let w : World :=
              { w with
                governor := w.governor.noteOpened env.now l.walk planning.callerKey
                call := { w.call with attempts := w.call.attempts + 1 }.spendCallerTurns planning.heard }
            (w.setStage (.ringing
              { requestId
                fence
                audit
                acceptedSent := false
                hardDeadline := env.now + hard }),
              [.audit requested, .toolAnswer planning.toolCallId (.ringing requestId plan.ringSeconds)])

def poll (env : TransferEnv) (l : PollLooks) (w : World) : World × List Effect :=
  match w.call.stage with
  | .idle => (w, [])
  | .planning planning => (w.setStage .idle).pollPlanning uuid env planning l.plan
  | .ringing request => (w.setStage .idle).pollOpen uuid sanitizeOwnerMessage env request false l.request
  | .accepted request => (w.setStage .idle).pollOpen uuid sanitizeOwnerMessage env request true l.request

def withdrawUnwon (env : TransferEnv) (request : Open) (l : WithdrawLooks) (w : World) : World × List Effect × Bool :=
  let w := w.look uuid l.withdrawing
  let (_, withdrawal) := w.broker.withdrawIfUnaccepted request.requestId
  let w := w.own uuid (.withdrawIfUnaccepted request.requestId)
  match withdrawal with
  | .withdrawn | .gone =>
      let (w, effects) := w.cancel uuid env request l.cancel
      (w, effects, true)
  | .won | .resolved =>
      let (w, effects) := (w.setStage (.ringing request)).poll uuid sanitizeOwnerMessage env l.poll
      (w, effects, false)

def withdrawUnaccepted (env : TransferEnv) (first : PollLooks) (l : WithdrawLooks) (w : World) :
    World × List Effect :=
  let (w, effects) := w.poll uuid sanitizeOwnerMessage env first
  match w.call.stage with
  | .ringing request =>
      let (w, more, _) := (w.setStage .idle).withdrawUnwon uuid sanitizeOwnerMessage env request l
      (w, effects ++ more)
  | _ => (w, effects)

def notice (env : TransferEnv) (requestId : String) (w : World) : Effect :=
  match w.call.stage with
  | .accepted request =>
      if request.requestId = requestId then .notice ⟨requestId, .tooLate, env.unixMs⟩
      else .notice ⟨requestId, .unknownRequest, env.unixMs⟩
  | _ => .notice ⟨requestId, .unknownRequest, env.unixMs⟩

def cancelRequested (env : TransferEnv) (requestId : String) (first : PollLooks) (l : WithdrawLooks) (w : World) :
    World × List Effect :=
  if w.call.requestId ≠ some requestId then (w, [.notice ⟨requestId, .unknownRequest, env.unixMs⟩])
  else
  let (w, effects) := w.poll uuid sanitizeOwnerMessage env first
  match w.call.stage with
  | .ringing request =>
      if request.requestId = requestId then
        let (w, more, withdrawn) := (w.setStage .idle).withdrawUnwon uuid sanitizeOwnerMessage env request l
        if withdrawn then (w, effects ++ more) else (w, effects ++ more ++ [notice env requestId w])
      else (w, effects ++ [notice env requestId w])
  | _ => (w, effects ++ [notice env requestId w])

def withdrawOpen (env : TransferEnv) (l : CancelLooks) (w : World) : World × List Effect :=
  match w.call.stage with
  | .ringing request | .accepted request => (w.setStage .idle).cancel uuid env request l
  | .planning _ | .idle => (w.setStage .idle, [])

def endCall (env : TransferEnv) (l : CancelLooks) (w : World) : World × List Effect := w.withdrawOpen uuid env l

def park (env : TransferEnv) (first : PollLooks) (l : WithdrawLooks) (w : World) : World × List Effect × Bool :=
  let (w, effects) := w.withdrawUnaccepted uuid sanitizeOwnerMessage env first l
  let w := match w.call.stage with
    | .planning _ => w.setStage .idle
    | _ => w
  let mayPark := match w.call.stage with
    | .accepted _ => false
    | _ => true
  (w, effects, mayPark)

def parkForced (env : TransferEnv) (first : PollLooks) (l : CancelLooks) (w : World) : World × List Effect :=
  let (w, effects) := w.poll uuid sanitizeOwnerMessage env first
  let (w, more) := w.withdrawOpen uuid env l
  (w, effects ++ more)

end World

end Aokie.Plugin.Transfer
