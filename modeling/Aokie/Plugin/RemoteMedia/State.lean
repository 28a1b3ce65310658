import Aokie.Media.Binding
import Aokie.Plugin.Assistance.Broker

/-! The media state of the receptionist's one caller: which call is on the line, which Companion peers are open,
which of them claims the caller, and who holds the radio. Audio levels and captions are not kept here. -/

namespace Aokie.Plugin.RemoteMedia

open Aokie.Lib Aokie.Media
open Aokie.Plugin.Assistance (AssistanceCallFence)

def seconds (n : ℕ) : Duration := n * 1000000000
def millis (n : ℕ) : Duration := n * 1000000

def maxRemotePeers : ℕ := 6
def maxLeaseTtl : Duration := seconds 300
def talkPreflightTimeout : Duration := seconds 30
def firstTalkPcmTimeout : Duration := seconds 1
def ongoingTalkPcmTimeout : Duration := seconds 2
def firstConsultPcmTimeout : Duration := seconds 1
def ongoingConsultPcmTimeout : Duration := seconds 2
def callsRemembered : ℕ := 16

/-- What an operation reads of the two clocks: the monotonic one and the wall clock. -/
structure Clock where
  now : Instant
  utc : ℕ
  deriving DecidableEq, Repr

inductive ServiceMode
  | aokieActive | softHold | consultPending | consultActive | humanPending | humanActive
  | returningToAokie | recovering
  deriving DecidableEq, Repr

/-- The expiry text of a consent, as RFC 3339 reads it. -/
inductive ConsentExpiry
  | unreadable
  | instant (utc : ℕ)
  deriving DecidableEq, Repr

structure RemoteConsentGate where
  enabled : Bool
  acknowledged : Bool
  expiresAt : Option ConsentExpiry
  captionsEnabled : Bool
  assistanceEnabled : Bool
  monitorEnabled : Bool
  consultEnabled : Bool
  takeoverEnabled : Bool
  deriving DecidableEq, Repr

namespace RemoteConsentGate

def closed : RemoteConsentGate := ⟨false, false, none, false, false, false, false, false⟩

variable (gate : RemoteConsentGate)

def isCurrent (utc : ℕ) : Bool :=
  gate.enabled && gate.acknowledged && gate.expiresAt.all fun expiry =>
    match expiry with
    | .unreadable => false
    | .instant t => decide (utc < t)

def allows (mode : MediaMode) (utc : ℕ) : Bool :=
  gate.isCurrent utc &&
    match mode with
    | .monitor => gate.monitorEnabled
    | .preparedTalk | .talk => gate.takeoverEnabled
    | .preparedConsult | .consult => gate.consultEnabled

def effective (utc : ℕ) : RemoteConsentGate :=
  if gate.isCurrent utc then gate
  else { gate with acknowledged := false, captionsEnabled := false, assistanceEnabled := false, monitorEnabled := false,
                   consultEnabled := false, takeoverEnabled := false }

end RemoteConsentGate

structure AokieOwnerFence where
  callId : String
  callEpoch : ℕ
  actionEpoch : ℕ
  deriving DecidableEq, Repr

structure AokieSwitchFence where
  owner : AokieOwnerFence
  ownerEpoch : ℕ
  switchEpoch : ℕ
  deriving DecidableEq, Repr

inductive RadioTransition
  | prepareHuman (binding : SessionBinding)
  | prepareConsult (binding : SessionBinding)
  | enterConsult (binding : SessionBinding)
  | enterHuman (binding : SessionBinding)
  | returnToAokie (reason : String)
  deriving DecidableEq, Repr

structure PeerSlot where
  binding : SessionBinding
  leaseExpiresAt : Instant
  deriving DecidableEq, Repr

structure CallRecord where
  callEpoch : ℕ
  ownerEpoch : ℕ
  deriving DecidableEq, Repr

structure TransferActivationGuard where
  requestId : String
  offeredFence : AssistanceCallFence
  deviceId : String
  deadline : Instant
  deriving DecidableEq, Repr

structure PendingRoute where
  permit : RoutePermit
  transitionDispatched : Bool
  transferGuard : Option TransferActivationGuard
  deriving DecidableEq, Repr

structure PendingPrepare where
  binding : SessionBinding
  expiresAt : Instant
  transitionDispatched : Bool
  deriving DecidableEq, Repr

structure PreparedClaim where
  provisionalBinding : SessionBinding
  confirmedOwnerEpoch : ℕ
  expiresAt : Instant
  mediaReadyDeadline : Option Instant
  activeMediaBinding : Option SessionBinding
  lastMediaReceivedAt : Option Instant
  deriving DecidableEq, Repr

def PreparedClaim.withMedia (prepared : PreparedClaim) (binding : SessionBinding) (now : Instant) : PreparedClaim :=
  { prepared with mediaReadyDeadline := some (now + talkPreflightTimeout), activeMediaBinding := some binding,
                  lastMediaReceivedAt := none }

structure PendingConsult where
  binding : SessionBinding
  expiresAt : Instant
  transitionDispatched : Bool
  lastReceivedAt : Option Instant
  deriving DecidableEq, Repr

structure ActiveConsult where
  binding : SessionBinding
  expiresAt : Instant
  activatedAt : Instant
  lastReceivedAt : Option Instant
  deriving DecidableEq, Repr

structure ActiveRoute where
  permit : RoutePermit
  activatedAt : Instant
  lastForwardedAt : Option Instant
  deriving DecidableEq, Repr

structure RemoteMediaState where
  calls : String → Option CallRecord
  callOrder : List String
  nextCallEpoch : ℕ
  aokieActionEpoch : ℕ
  aokieSwitchEpoch : ℕ
  remoteRevision : ℕ
  currentCallId : Option String
  currentCallActive : Bool
  serviceMode : ServiceMode
  peers : List PeerSlot
  pendingPrepare : Option PendingPrepare
  preparedClaim : Option PreparedClaim
  pendingConsult : Option PendingConsult
  activeConsult : Option ActiveConsult
  pendingRoute : Option PendingRoute
  activeRoute : Option ActiveRoute
  talkAudioBinding : Option SessionBinding
  microphoneMuteBinding : Option SessionBinding
  returnBinding : Option SessionBinding
  returnReason : Option String
  returnDispatched : Bool
  consent : RemoteConsentGate

namespace RemoteMediaState

def initial : RemoteMediaState where
  calls := fun _ => none
  callOrder := []
  nextCallEpoch := 0
  aokieActionEpoch := 0
  aokieSwitchEpoch := 0
  remoteRevision := 0
  currentCallId := none
  currentCallActive := false
  serviceMode := .aokieActive
  peers := []
  pendingPrepare := none
  preparedClaim := none
  pendingConsult := none
  activeConsult := none
  pendingRoute := none
  activeRoute := none
  talkAudioBinding := none
  microphoneMuteBinding := none
  returnBinding := none
  returnReason := none
  returnDispatched := false
  consent := .closed

variable (s : RemoteMediaState)

def currentRecord : Option CallRecord := s.currentCallId.bind s.calls

def bumpRevision : RemoteMediaState := { s with remoteRevision := advance s.remoteRevision }

def fenceAutonomousAokieActions : RemoteMediaState := { s with aokieActionEpoch := advance s.aokieActionEpoch }

def peer (rtcSessionId : String) : Option PeerSlot := s.peers.find? (·.binding.rtcSessionId = rtcSessionId)

def peersWithout (rtcSessionId : String) : List PeerSlot := s.peers.filter (·.binding.rtcSessionId ≠ rtcSessionId)

def radioReserved : Bool :=
  match s.serviceMode with
  | .aokieActive => false
  | _ => true

def aokieOwnerFence : Option AokieOwnerFence :=
  if s.currentCallActive && s.serviceMode == .aokieActive && !s.radioReserved then do
    let callId ← s.currentCallId
    let record ← s.calls callId
    return ⟨callId, record.callEpoch, s.aokieActionEpoch⟩
  else none

def claimExists : Bool :=
  s.pendingPrepare.isSome || s.preparedClaim.isSome || s.pendingConsult.isSome || s.activeConsult.isSome ||
    s.pendingRoute.isSome || s.activeRoute.isSome

def hasClaimantPeer : Bool := s.peers.any (·.binding.mode ≠ .monitor)

def aokieSwitchFence : Option AokieSwitchFence := do
  let owner ← s.aokieOwnerFence
  guard (¬(s.claimExists || s.hasClaimantPeer))
  let record ← s.currentRecord
  return ⟨owner, record.ownerEpoch, s.aokieSwitchEpoch⟩

def withOwnerEpoch (ownerEpoch : CallRecord → ℕ) : RemoteMediaState :=
  match s.currentCallId with
  | none => s
  | some callId =>
      { s with calls := Function.update s.calls callId
                ((s.calls callId).map fun record => { record with ownerEpoch := ownerEpoch record }) }

def fenceCancelledBinding (binding : SessionBinding) : RemoteMediaState :=
  if s.currentCallId = some binding.callId ∧ s.currentRecord.any (·.callEpoch = binding.callEpoch) then
    s.withOwnerEpoch fun record => saturatingAdd (max record.ownerEpoch binding.ownerEpoch) 1
  else s

def bindingIsActiveMediaOwner (binding : SessionBinding) (clock : Clock) : Bool :=
  s.currentCallActive && s.currentCallId == some binding.callId &&
    s.currentRecord == some ⟨binding.callEpoch, binding.ownerEpoch⟩ &&
    (s.peer binding.rtcSessionId).any (fun slot => slot.binding = binding ∧ clock.now < slot.leaseExpiresAt) &&
    match binding.mode with
    | .talk => s.serviceMode == .humanActive && s.consent.allows .talk clock.utc &&
        s.activeRoute.any fun route => route.permit.isCurrentFor binding clock.now
    | .consult => s.serviceMode == .consultActive && s.consent.allows .consult clock.utc &&
        s.activeConsult.any fun route => route.binding = binding ∧ clock.now < route.expiresAt
    | _ => false

def microphoneIsMutedFor (binding : SessionBinding) (clock : Clock) : Bool :=
  s.microphoneMuteBinding == some binding && s.bindingIsActiveMediaOwner binding clock

def setMicrophoneMuted (binding : SessionBinding) (expectedRemoteRevision : ℕ) (muted : Bool) (clock : Clock) :
    RemoteMediaState × Except String ℕ :=
  if s.remoteRevision ≠ expectedRemoteRevision then
    (s, .error "remoteRevision changed before microphone mute was applied")
  else if ¬((binding.mode = .consult ∨ binding.mode = .talk) ∧ s.bindingIsActiveMediaOwner binding clock) then
    (s, .error "only the exact active Companion media owner may change microphone mute")
  else if (s.microphoneMuteBinding == some binding) = muted then (s, .ok s.remoteRevision)
  else
    let s := { s with microphoneMuteBinding := if muted then some binding else none }.bumpRevision
    (s, .ok s.remoteRevision)

def clearBindingObservations (binding : SessionBinding) : RemoteMediaState :=
  if s.microphoneMuteBinding = some binding then { s with microphoneMuteBinding := none } else s

def takeClaim : RemoteMediaState × Option SessionBinding :=
  match s.activeRoute, s.activeConsult, s.pendingConsult, s.pendingRoute, s.pendingPrepare, s.preparedClaim with
  | some route, _, _, _, _, _ => ({ s with activeRoute := none }, some route.permit.binding)
  | none, some route, _, _, _, _ => ({ s with activeConsult := none }, some route.binding)
  | none, none, some pending, _, _, _ => ({ s with pendingConsult := none }, some pending.binding)
  | none, none, none, some route, _, _ => ({ s with pendingRoute := none }, some route.permit.binding)
  | none, none, none, none, some pending, _ => ({ s with pendingPrepare := none }, some pending.binding)
  | none, none, none, none, none, some prepared => ({ s with preparedClaim := none }, some prepared.provisionalBinding)
  | none, none, none, none, none, none => (s, none)

def evictCalls (current : Option String) :
    List String → (String → Option CallRecord) → List String × (String → Option CallRecord)
  | [], calls => ([], calls)
  | old :: order, calls =>
      if callsRemembered < order.length + 1 then
        evictCalls current order (if current = some old then calls else Function.update calls old none)
      else (old :: order, calls)

def admitCall (callId : String) : RemoteMediaState :=
  if (s.calls callId).isSome then s
  else
    let epoch := advance s.nextCallEpoch
    let kept := evictCalls s.currentCallId (s.callOrder ++ [callId])
      (Function.update s.calls callId (some ⟨epoch, 0⟩))
    { s with nextCallEpoch := epoch, callOrder := kept.1, calls := kept.2 }

/-- The call on the line changes: every peer is closed and a claim there was has to be handed back. -/
def leaveCall (callId : Option String) (active : Bool) : RemoteMediaState :=
  let (s, oldRoute) := { s with peers := [] }.takeClaim
  { s with returnBinding := oldRoute
           returnReason := oldRoute.map fun _ => "physical_call_changed"
           returnDispatched := false
           currentCallId := callId
           microphoneMuteBinding := none
           currentCallActive := active }

/-- The call on the line, as the radio sees it; with the peers that are closed. -/
def observeCall (callId : Option String) (active : Bool) : RemoteMediaState × List SessionBinding :=
  if s.currentCallId = callId then
    if s.currentCallActive = active then (s, [])
    else
      ({ s with currentCallActive := active
                microphoneMuteBinding := if active then s.microphoneMuteBinding else none }.bumpRevision, [])
  else
    let closed := s.peers.map (·.binding)
    let s := s.leaveCall callId active
    let s := callId.elim s s.admitCall
    ({ s with serviceMode := if s.returnBinding.isSome then .recovering else .aokieActive }.bumpRevision, closed)

/-- What a consent no longer allows of the claims, and whether the caller has to be handed back for it. -/
def revokedRoute (utc : ℕ) : Option (SessionBinding × Bool) :=
  let disallowed (binding : SessionBinding) : Bool := !s.consent.allows binding.mode utc
  ((s.activeRoute.map (·.permit.binding)).filter disallowed).map (·, true) <|>
  ((s.activeConsult.map (·.binding)).filter disallowed).map (·, true) <|>
  ((s.pendingConsult.map (·.binding)).filter disallowed).map (·, false) <|>
  ((s.pendingRoute.map (·.permit.binding)).filter disallowed).map (·, true) <|>
  ((s.pendingPrepare.map (·.binding)).filter disallowed).map (·, false) <|>
  ((s.preparedClaim.map fun prepared => prepared.activeMediaBinding.getD prepared.provisionalBinding).filter
    disallowed).map (·, false)

def clearClaims : RemoteMediaState :=
  { s with activeRoute := none, activeConsult := none, pendingConsult := none, pendingRoute := none,
           pendingPrepare := none, preparedClaim := none }

/-- A claim that is no longer allowed is given back, or fenced where it never held the caller. -/
def revokeClaim (binding : SessionBinding) (needsReturn : Bool) : RemoteMediaState :=
  let s := { s.clearClaims with talkAudioBinding := none, returnDispatched := false }.clearBindingObservations binding
  if needsReturn then
    { s with returnBinding := some binding, returnReason := some "remote_consent_revoked",
             serviceMode := .returningToAokie }.bumpRevision
  else
    let s := { s with returnBinding := none, returnReason := none }.fenceCancelledBinding binding
    { s with serviceMode := .aokieActive }.bumpRevision

def setRemoteConsent (gate : RemoteConsentGate) (clock : Clock) : RemoteMediaState × List SessionBinding :=
  let s := { s with consent := gate }
  let revokedRoute := s.revokedRoute clock.utc
  let closed := (s.peers.filter fun slot => !gate.allows slot.binding.mode clock.utc).map (·.binding)
  let s := { s with peers := s.peers.filter fun slot => gate.allows slot.binding.mode clock.utc }
  (revokedRoute.elim s fun revoked => s.revokeClaim revoked.1 revoked.2, closed)

/-- A consultation or a takeover that was prepared, and the binding that continues it. -/
def preparedMatches (binding : SessionBinding) (prepared : PreparedClaim) : Bool :=
  prepared.confirmedOwnerEpoch == binding.ownerEpoch && decide (prepared.provisionalBinding.SameClaim binding)

def validateMode (binding : SessionBinding) (record : CallRecord) : Except String Unit :=
  match binding.mode with
  | .monitor => ensure (binding.ownerEpoch = record.ownerEpoch) "receive-only ownerEpoch is stale"
  | .preparedConsult | .preparedTalk => do
      ensure (binding.ownerEpoch = record.ownerEpoch) "receive-only ownerEpoch is stale"
      ensure (¬(s.claimExists || s.hasClaimantPeer)) "a consult/takeover claimant already exists"
  | .consult => do
      ensure ((s.preparedClaim.any fun prepared =>
          prepared.provisionalBinding.mode == .preparedConsult && preparedMatches binding prepared) ∧
          binding.ownerEpoch = record.ownerEpoch) "active consult binding does not match the prepared hold epoch"
      ensure (¬(s.activeConsult.isSome || s.pendingConsult.isSome || s.pendingRoute.isSome || s.activeRoute.isSome ||
          s.peers.any (·.binding.mode = .consult))) "a private consultation is already active"
  | .talk => do
      ensure (s.preparedClaim.any (preparedMatches binding) ∧ binding.ownerEpoch = record.ownerEpoch)
        "active talk binding does not match the prepared owner epoch"
      ensure (¬(s.peers.any (·.binding.mode = .talk) || s.pendingRoute.isSome || s.activeRoute.isSome))
        "a talk claimant already exists"

def validateOpen (binding : SessionBinding) (clock : Clock) : Except String Unit := do
  binding.validate
  ensure (s.consent.allows binding.mode clock.utc) "current remote consent does not permit this media mode"
  ensure s.currentCallActive "the physical call is not active"
  let currentId ← okOr s.currentCallId "there is no physical call"
  let record ← okOr s.currentRecord "physical call epoch is unavailable"
  ensure (binding.callId = currentId ∧ binding.callEpoch = record.callEpoch)
    "callId/callEpoch does not match physical radio truth"
  s.validateMode binding record
  ensure (s.peers.length < maxRemotePeers) "at most 6 Companion peers are allowed"
  ensure (s.peer binding.rtcSessionId = none) "rtcSessionId already exists"

def reserveOpenAfterSwitchEpoch (binding : SessionBinding) (expectedSwitchEpoch : Option ℕ) (clock : Clock) :
    Except String Unit := do
  s.validateOpen binding clock
  if binding.mode ≠ .monitor then
    let expected ← okOr expectedSwitchEpoch "non-monitor media open omitted its physical switchboard proof"
    ensure (s.aokieSwitchEpoch = expected) "physical switchboard changed before the media manager admitted the peer"

def insertPeer (slot : PeerSlot) (clock : Clock) : RemoteMediaState × Except String Unit :=
  match s.validateOpen slot.binding clock with
  | .error e => (s, .error e)
  | .ok () =>
      let added := { s with peers := slot :: s.peers }
      if slot.binding.mode = .consult ∨ slot.binding.mode = .talk then
        match s.preparedClaim with
        | none => (s, .error "active media peer has no prepared claim")
        | some prepared =>
            ({ added with preparedClaim := some (prepared.withMedia slot.binding clock.now) }.bumpRevision, .ok ())
      else (added.bumpRevision, .ok ())

def insertPeerAfterSwitchEpoch (slot : PeerSlot) (expectedSwitchEpoch : Option ℕ) (clock : Clock) :
    RemoteMediaState × Except String Unit :=
  if expectedSwitchEpoch.any (· ≠ s.aokieSwitchEpoch) then
    (s, .error "physical switchboard changed while the media peer was opening")
  else s.insertPeer slot clock

end RemoteMediaState

end Aokie.Plugin.RemoteMedia
