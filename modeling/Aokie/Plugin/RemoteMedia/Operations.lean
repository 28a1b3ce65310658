import Aokie.Plugin.RemoteMedia.State
import Aokie.Protocol.Text

/-! What is asked of the media state between opening a peer and handing the caller back, and the machine all of it
makes: every input is one turn at the state lock. -/

namespace Aokie.Plugin.RemoteMedia

open Aokie.Lib Aokie.Media Aokie.Protocol

def validateTtl (ttlMs : ℕ) : Except String Duration := do
  ensure (millis ttlMs ≠ 0 ∧ millis ttlMs ≤ maxLeaseTtl) "leaseTtlMs must be between 1 and 300000"
  return millis ttlMs

def sanitizeReason (reason : String) : String :=
  let line := sanitizeLine reason.toList 160
  if line.isEmpty then "requested" else String.ofList line

/-- `checked_duration_since`. -/
def checkedDurationSince (later earlier : Instant) : Option Duration :=
  if earlier ≤ later then some (later - earlier) else none

namespace RemoteMediaState

variable (s : RemoteMediaState)

def validateLiveBinding (binding : SessionBinding) : Except String CallRecord := do
  binding.validate
  let record ← okOr s.currentRecord "there is no physical call"
  ensure (s.currentCallId = some binding.callId ∧ record.callEpoch = binding.callEpoch) "call binding is stale"
  return record

def softHoldChecks (binding : SessionBinding) (requestedTtl : Duration) (clock : Clock) : Except String Instant := do
  ensure (binding.mode = .preparedConsult ∨ binding.mode = .preparedTalk)
    "only a prepared consult/talk peer may request a soft hold"
  ensure (s.consent.allows binding.mode clock.utc) "current remote consent no longer permits this preparation"
  let record ← s.validateLiveBinding binding
  ensure (binding.ownerEpoch = record.ownerEpoch) "prepared ownerEpoch is not current"
  ensure (¬(s.pendingPrepare.isSome || s.preparedClaim.isSome || s.pendingRoute.isSome || s.activeRoute.isSome))
    "caller ownership is already pending, prepared, or active"
  let slot ← okOr (s.peer binding.rtcSessionId) "prepared peer is not open"
  ensure (slot.binding = binding) "soft-hold binding differs from the immutable peer binding"
  let remaining ← okOr (checkedDurationSince slot.leaseExpiresAt clock.now) "prepared lease is expired"
  return clock.now + min requestedTtl remaining

def requestSoftHold (binding : SessionBinding) (requestedTtl : Duration) (clock : Clock) :
    RemoteMediaState × Except String Unit :=
  match s.softHoldChecks binding requestedTtl clock with
  | .error e => (s, .error e)
  | .ok expiresAt =>
      ({ s with pendingPrepare := some ⟨binding, expiresAt, false⟩, serviceMode := .aokieActive }.bumpRevision, .ok ())

/-- The claim is still in its windows and its media are those of the binding. -/
def preparedIsReady (binding : SessionBinding) (prepared : PreparedClaim) (now : Instant) : Bool :=
  decide (now < prepared.expiresAt) && prepared.mediaReadyDeadline.any (now < ·) &&
    prepared.activeMediaBinding == some binding && preparedMatches binding prepared

def consultChecks (binding : SessionBinding) (requestedTtl : Duration) (clock : Clock) :
    Except String PendingConsult := do
  ensure (binding.mode = .consult) "only an active consult peer may enter private consultation"
  ensure (s.consent.allows .consult clock.utc) "current remote consent no longer permits consultation"
  let record ← s.validateLiveBinding binding
  ensure (binding.ownerEpoch = record.ownerEpoch) "consult ownerEpoch is not the prepared hold epoch"
  ensure (¬(s.pendingConsult.isSome || s.activeConsult.isSome || s.pendingRoute.isSome || s.activeRoute.isSome))
    "a consult/takeover route is already active"
  let slot ← okOr (s.peer binding.rtcSessionId) "consult peer is not open"
  ensure (slot.binding = binding) "consult binding differs from the immutable peer binding"
  let prepared ← okOr s.preparedClaim "consultation has not completed receive-only preparation"
  ensure (preparedIsReady binding prepared clock.now ∧ prepared.lastMediaReceivedAt.isSome ∧
      prepared.provisionalBinding.mode = .preparedConsult)
    "active consult binding does not match the prepared claim"
  let remaining ← okOr (checkedDurationSince slot.leaseExpiresAt clock.now) "consult lease is expired"
  return ⟨binding, clock.now + min requestedTtl remaining, false, prepared.lastMediaReceivedAt⟩

def requestConsult (binding : SessionBinding) (requestedTtl : Duration) (clock : Clock) :
    RemoteMediaState × Except String Unit :=
  match s.consultChecks binding requestedTtl clock with
  | .error e => (s, .error e)
  | .ok pending =>
      let s := { s with pendingConsult := some pending, preparedClaim := none }.fenceAutonomousAokieActions
      ({ s with serviceMode := .consultPending }.bumpRevision, .ok ())

def takeoverChecks (binding : SessionBinding) (requestedTtl : Duration) (clock : Clock) :
    Except String RoutePermit := do
  ensure (binding.mode = .talk) "only a talk peer may request caller ownership"
  ensure (s.consent.allows .talk clock.utc) "current remote consent no longer permits takeover"
  let record ← s.validateLiveBinding binding
  ensure (binding.ownerEpoch = record.ownerEpoch) "talk ownerEpoch is not the prepared physical owner epoch"
  ensure (¬(s.pendingRoute.isSome || s.activeRoute.isSome)) "caller ownership is already pending or active"
  let slot ← okOr (s.peer binding.rtcSessionId) "talk peer is not open"
  ensure (slot.binding = binding) "takeover binding differs from the immutable peer binding"
  let prepared ← okOr s.preparedClaim "takeover has not completed its receive-only preparation"
  ensure (preparedIsReady binding prepared clock.now) "active talk binding does not match the prepared claim"
  let remaining ← okOr (checkedDurationSince slot.leaseExpiresAt clock.now) "talk lease is expired"
  RoutePermit.new binding (min requestedTtl remaining) clock.now

def requestTakeoverGuarded (binding : SessionBinding) (requestedTtl : Duration)
    (transferGuard : Option TransferActivationGuard) (clock : Clock) : RemoteMediaState × Except String Unit :=
  match s.takeoverChecks binding requestedTtl clock with
  | .error e => (s, .error e)
  | .ok permit =>
      let s := { s with pendingRoute := some ⟨permit, false, transferGuard⟩
                        preparedClaim := none }.fenceAutonomousAokieActions
      ({ s with serviceMode := .humanPending }.bumpRevision, .ok ())

def renewRoute (binding : SessionBinding) (permit : RoutePermit) : RemoteMediaState :=
  if s.activeRoute.any (·.permit.binding = binding) then
    { s with activeRoute := s.activeRoute.map fun route => { route with permit } }
  else
    { s with pendingRoute := s.pendingRoute.map fun pending =>
              if pending.permit.binding = binding then { pending with permit } else pending }

def renewConsult (binding : SessionBinding) (expiresAt : Instant) : RemoteMediaState :=
  { s with
    activeConsult := s.activeConsult.map fun active =>
      if active.binding = binding then { active with expiresAt } else active
    pendingConsult := s.pendingConsult.map fun pending =>
      if pending.binding = binding then { pending with expiresAt } else pending }

def renew (binding : SessionBinding) (ttl : Duration) (clock : Clock) :
    RemoteMediaState × Except String (Option RoutePermit) :=
  match s.validateLiveBinding binding with
  | .error e => (s, .error e)
  | .ok _ =>
      let slot := s.peer binding.rtcSessionId
      if slot.any (·.binding ≠ binding) then (s, .error "renew binding differs from the immutable peer binding")
      else if slot.isNone ∧ ¬s.preparedClaim.any (fun prepared => prepared.provisionalBinding.SameClaim binding) then
        (s, .error "peer is not open")
      else
        let expiresAt := clock.now + ttl
        let s := { s with
          peers := s.peers.map fun slot =>
            if slot.binding.rtcSessionId = binding.rtcSessionId then { slot with leaseExpiresAt := expiresAt } else slot
          preparedClaim := s.preparedClaim.map fun prepared =>
            if prepared.provisionalBinding.SameClaim binding then { prepared with expiresAt } else prepared }
        if s.activeRoute.any (·.permit.binding = binding) ∨ s.pendingRoute.any (·.permit.binding = binding) then
          match RoutePermit.new binding ttl clock.now with
          | .error e => (s, .error e)
          | .ok permit => (((s.renewRoute binding permit).renewConsult binding expiresAt).bumpRevision,
              .ok (if s.activeRoute.any (·.permit.binding = binding) then some permit else none))
        else ((s.renewConsult binding expiresAt).bumpRevision, .ok none)

/-- Hand the caller back: the radio has to flush before Aokie speaks again. -/
def beginReturn (binding : SessionBinding) (reason : String) : RemoteMediaState :=
  { s with returnBinding := some binding, returnReason := some reason, returnDispatched := false,
           serviceMode := .returningToAokie }

def cancelClaim (binding : SessionBinding) : RemoteMediaState :=
  { s.fenceCancelledBinding binding with serviceMode := .aokieActive }

def ownsRoute (binding : SessionBinding) : Bool :=
  s.activeConsult.any (·.binding = binding) || s.activeRoute.any (·.permit.binding = binding) ||
    s.pendingRoute.any (·.permit.binding = binding)

/-- Whether the caller has to be handed back, once the binding is known to own or await the route. -/
def revokeChecks (binding : SessionBinding) : Except String Bool := do
  let _ ← s.validateLiveBinding binding
  ensure (s.ownsRoute binding || s.pendingConsult.any (·.binding = binding) ||
      s.pendingPrepare.any (·.binding = binding) ||
      s.preparedClaim.any (fun prepared => prepared.provisionalBinding.SameClaim binding))
    "binding does not own or await the caller route"
  return s.ownsRoute binding

def requestRevoke (binding : SessionBinding) (reason : String) : RemoteMediaState × Except String Bool :=
  match s.revokeChecks binding with
  | .error e => (s, .error e)
  | .ok needsReturn =>
      let peerBinding := ((s.peer binding.rtcSessionId).map (·.binding)).getD binding
      let s := if needsReturn then s else { s with peers := s.peersWithout binding.rtcSessionId }
      let s := { s.clearClaims with talkAudioBinding := none }.clearBindingObservations binding
      if needsReturn then ((s.beginReturn binding (sanitizeReason reason)).bumpRevision, .ok true)
      else ((s.cancelClaim peerBinding).bumpRevision, .ok false)

/-- The reasons under which a prepared claim outlives its provisional peer. -/
def preservesPreparedClaim (reason : String) : Bool := reason == "active_rebind" || reason == "awaiting_active_rebind"

def closePeer (rtcSessionId reason : String) : RemoteMediaState × Except String (SessionBinding × Bool) :=
  match s.peer rtcSessionId with
  | none => (s, .error ("unknown or closed rtcSessionId " ++ reprStr rtcSessionId))
  | some slot =>
      let s := { s with peers := s.peersWithout rtcSessionId }.clearBindingObservations slot.binding
      let needsReturn := s.ownsRoute slot.binding
      let prepares := s.pendingPrepare.any (·.binding.rtcSessionId = rtcSessionId)
      let consults := s.pendingConsult.any (·.binding.rtcSessionId = rtcSessionId)
      let prepared := !preservesPreparedClaim reason &&
        s.preparedClaim.any (·.provisionalBinding.rtcSessionId = rtcSessionId)
      let s := { s with
        pendingPrepare := if prepares then none else s.pendingPrepare
        preparedClaim := if prepared then none else s.preparedClaim
        pendingConsult := if consults then none else s.pendingConsult }
      let s :=
        if needsReturn then
          ({ s with pendingRoute := none, activeRoute := none, activeConsult := none }.clearBindingObservations
            slot.binding).beginReturn slot.binding (sanitizeReason reason)
        else if consults || prepares || prepared then s.cancelClaim slot.binding
        else s
      (s.bumpRevision, .ok (slot.binding, needsReturn))

def cancelledBinding : Option SessionBinding :=
  s.pendingConsult.map (·.binding) <|>
  s.preparedClaim.map (fun prepared => prepared.activeMediaBinding.getD prepared.provisionalBinding) <|>
  s.pendingPrepare.map (·.binding)

def takeRoute : RemoteMediaState × Option SessionBinding :=
  match s.activeRoute, s.activeConsult, s.pendingRoute with
  | some route, _, _ => ({ s with activeRoute := none }, some route.permit.binding)
  | none, some route, _ => ({ s with activeConsult := none }, some route.binding)
  | none, none, some route => ({ s with pendingRoute := none }, some route.permit.binding)
  | none, none, none => (s, none)

def failClosedAll (reason : String) : RemoteMediaState × List SessionBinding :=
  let closed := s.peers.map (·.binding)
  let cancelled := s.cancelledBinding
  let (s, returning) := { s with peers := [], microphoneMuteBinding := none, pendingPrepare := none,
                                 preparedClaim := none, pendingConsult := none }.takeRoute
  let s :=
    match returning, cancelled with
    | some binding, _ => s.beginReturn binding (sanitizeReason reason)
    | none, some binding => s.cancelClaim binding
    | none, none => s
  (s.bumpRevision, closed)

def peerExpired (rtcSessionId : String) (now : Instant) : Bool :=
  (s.peer rtcSessionId).all (·.leaseExpiresAt ≤ now)

def expirePeers (now : Instant) : RemoteMediaState :=
  if s.peers.all (now < ·.leaseExpiresAt) then s
  else { s with peers := s.peers.filter (now < ·.leaseExpiresAt) }.bumpRevision

def audioTimeout (muted : Bool) (activatedAt : Instant) (last : Option Instant) (first ongoing : Duration)
    (never stalled : String) (now : Instant) : Option String :=
  if muted then none
  else
    match last with
    | none => if first ≤ saturatingDurationSince now activatedAt then some never else none
    | some last => if ongoing ≤ saturatingDurationSince now last then some stalled else none

def lapseConsult (now : Instant) : RemoteMediaState :=
  match s.activeConsult with
  | none => s
  | some active =>
      let timeout :=
        if active.expiresAt ≤ now ∨ s.peerExpired active.binding.rtcSessionId now then some "consult_lease_expired"
        else audioTimeout (s.microphoneMuteBinding == some active.binding) active.activatedAt active.lastReceivedAt
          firstConsultPcmTimeout ongoingConsultPcmTimeout "consult_audio_never_arrived" "consult_audio_stalled" now
      match timeout with
      | none => s
      | some reason => (({ s with activeConsult := none }.clearBindingObservations active.binding).beginReturn
          active.binding reason).bumpRevision

def lapseRoute (now : Instant) : RemoteMediaState :=
  match s.activeRoute with
  | none => s
  | some active =>
      let binding := active.permit.binding
      let timeout :=
        if active.permit.isCurrentFor binding now = false ∨ s.peerExpired binding.rtcSessionId now then
          some "lease_expired"
        else audioTimeout (s.microphoneMuteBinding == some binding) active.activatedAt active.lastForwardedAt
          firstTalkPcmTimeout ongoingTalkPcmTimeout "talk_audio_never_arrived" "talk_audio_stalled" now
      match timeout with
      | none => s
      | some reason => (({ s with activeRoute := none }.clearBindingObservations binding).beginReturn
          binding reason).bumpRevision

def lapsePendingRoute (now : Instant) : RemoteMediaState :=
  match s.pendingRoute with
  | none => s
  | some pending =>
      let binding := pending.permit.binding
      let transferExpired := pending.transferGuard.any (·.deadline ≤ now)
      if pending.permit.isCurrentFor binding now = false ∨ s.peerExpired binding.rtcSessionId now ∨ transferExpired then
        ({ s with pendingRoute := none }.beginReturn binding
          (if transferExpired then "transfer_expired_before_physical_ack"
            else "lease_expired_before_physical_ack")).bumpRevision
      else s

def lapsePendingConsult (now : Instant) : RemoteMediaState :=
  match s.pendingConsult with
  | none => s
  | some pending =>
      if pending.expiresAt ≤ now ∨ s.peerExpired pending.binding.rtcSessionId now then
        ({ s with pendingConsult := none
                  peers := s.peersWithout pending.binding.rtcSessionId }.cancelClaim pending.binding).bumpRevision
      else s

def lapsePrepare (now : Instant) : RemoteMediaState :=
  match s.pendingPrepare with
  | none => s
  | some pending =>
      if pending.expiresAt ≤ now ∨ s.peerExpired pending.binding.rtcSessionId now then
        ({ s with pendingPrepare := none
                  peers := s.peersWithout pending.binding.rtcSessionId }.cancelClaim pending.binding).bumpRevision
      else s

def lapsePrepared (now : Instant) : RemoteMediaState :=
  match s.preparedClaim with
  | none => s
  | some prepared =>
      if prepared.mediaReadyDeadline.any (· ≤ now) ∨ prepared.expiresAt ≤ now then
        let binding := prepared.activeMediaBinding.getD prepared.provisionalBinding
        ({ s with preparedClaim := none
                  peers := s.peersWithout binding.rtcSessionId }.cancelClaim binding).bumpRevision
      else s

def dispatch : RemoteMediaState × Option RadioTransition :=
  if s.returnBinding.isSome then
    if s.returnDispatched then (s, none)
    else ({ s with returnDispatched := true }, some (.returnToAokie (s.returnReason.getD "route_revoked")))
  else
    match s.pendingRoute.filter (!·.transitionDispatched), s.pendingConsult.filter (!·.transitionDispatched),
      s.pendingPrepare.filter (!·.transitionDispatched) with
    | some pending, _, _ =>
        ({ s with pendingRoute := some { pending with transitionDispatched := true } },
          some (.enterHuman pending.permit.binding))
    | none, some pending, _ =>
        ({ s with pendingConsult := some { pending with transitionDispatched := true } },
          some (.enterConsult pending.binding))
    | none, none, some pending =>
        ({ s with pendingPrepare := some { pending with transitionDispatched := true } },
          some (if pending.binding.mode = .preparedConsult then .prepareConsult pending.binding
            else .prepareHuman pending.binding))
    | none, none, none => (s, none)

def lapse (now : Instant) : RemoteMediaState :=
  (((((s.lapseConsult now).lapseRoute now).lapsePendingRoute now).lapsePendingConsult now).lapsePrepare
    now).lapsePrepared now

def nextTransition (now : Instant) : RemoteMediaState × Option RadioTransition := (s.lapse now).dispatch

def nextRadioTransition (clock : Clock) : RemoteMediaState × Option RadioTransition :=
  (s.expirePeers clock.now).nextTransition clock.now

def ackPrepareChecks (binding : SessionBinding) (clock : Clock) : Except String (PendingPrepare × CallRecord) := do
  let record ← s.validateLiveBinding binding
  ensure (s.consent.allows binding.mode clock.utc) "remote consent expired before soft-hold ACK"
  ensure s.currentCallActive "physical call ended before soft-hold ACK"
  let pending ← okOr s.pendingPrepare "there is no pending soft hold"
  ensure (pending.binding = binding ∧ clock.now < pending.expiresAt) "pending soft-hold binding is stale or expired"
  ensure (record.ownerEpoch = binding.ownerEpoch) "ownerEpoch changed before soft-hold ACK"
  return (pending, record)

def ackPrepare (binding : SessionBinding) (clock : Clock) : RemoteMediaState × Except String ℕ :=
  match s.ackPrepareChecks binding clock with
  | .error e => (s, .error e)
  | .ok (pending, record) =>
      let confirmed := saturatingAdd record.ownerEpoch 1
      let s := { s with pendingPrepare := none }.withOwnerEpoch fun _ => confirmed
      ({ s with
        preparedClaim := some ⟨binding, confirmed, pending.expiresAt, none, none, none⟩
        serviceMode := .aokieActive }.bumpRevision, .ok confirmed)

/-- The checks after the pending consultation was taken out; each failure but the missing peer puts it back. -/
def ackEnterConsult (binding : SessionBinding) (clock : Clock) : RemoteMediaState × Except String Unit :=
  let early : Except String (CallRecord × PendingConsult) := do
    let record ← s.validateLiveBinding binding
    ensure (s.consent.allows .consult clock.utc) "remote consent expired before consult ACK"
    ensure s.currentCallActive "physical call ended before consult ACK"
    let pending ← okOr s.pendingConsult "there is no pending private consultation"
    ensure (pending.binding = binding ∧ clock.now < pending.expiresAt) "pending consult binding is stale or expired"
    ensure (binding.ownerEpoch = record.ownerEpoch) "ownerEpoch changed before consult ACK"
    return (record, pending)
  match early with
  | .error e => (s, .error e)
  | .ok (_, pending) =>
      match s.peer binding.rtcSessionId with
      | none => ({ s with pendingConsult := none }, .error "consult peer closed before physical ACK")
      | some slot =>
          if slot.binding ≠ binding ∨ slot.leaseExpiresAt ≤ clock.now then
            (s, .error "consult peer changed or expired before physical ACK")
          else
            ({ s with
              pendingConsult := none
              activeConsult := some
                ⟨binding, min pending.expiresAt slot.leaseExpiresAt, clock.now, pending.lastReceivedAt⟩
              serviceMode := .consultActive }.bumpRevision, .ok ())

def guardRefuses (transferGuard : TransferActivationGuard) (binding : SessionBinding) (clock : Clock)
    (transferAuthorized : Bool) : Bool :=
  !transferAuthorized || decide (transferGuard.deadline ≤ clock.now) || transferGuard.deviceId != binding.deviceId ||
    transferGuard.offeredFence.callId != binding.callId || transferGuard.offeredFence.callEpoch != binding.callEpoch

def ackEnter (binding : SessionBinding) (clock : Clock) (transferAuthorized : Bool) :
    RemoteMediaState × Except String RoutePermit :=
  let early : Except String (CallRecord × PendingRoute) := do
    let record ← s.validateLiveBinding binding
    ensure (s.consent.allows .talk clock.utc) "remote consent expired before takeover ACK"
    ensure s.currentCallActive "physical call ended before takeover ACK"
    let pending ← okOr s.pendingRoute "there is no pending takeover"
    ensure (pending.transferGuard.any (guardRefuses · binding clock transferAuthorized) = false)
      "accepted transfer expired or changed before physical ACK"
    ensure (pending.permit.isCurrentFor binding clock.now) "pending takeover binding is stale or expired"
    return (record, pending)
  match early with
  | .error e => (s, .error e)
  | .ok (record, pending) =>
      let taken := { s with pendingRoute := none }
      match s.peer binding.rtcSessionId with
      | none => (taken, .error "talk peer closed before physical ACK")
      | some _ =>
          if binding.ownerEpoch ≠ record.ownerEpoch then (taken, .error "ownerEpoch changed before physical ACK")
          else
            ({ taken with activeRoute := some ⟨pending.permit, clock.now, none⟩
                          serviceMode := .humanActive }.bumpRevision, .ok pending.permit)

def ackReturn : RemoteMediaState × Except String SessionBinding :=
  match s.returnBinding with
  | none => (s, .error "there is no pending return")
  | some binding =>
      let s := { s with returnBinding := none }
      let s :=
        if s.currentCallId = some binding.callId then
          s.withOwnerEpoch fun record => saturatingAdd (max record.ownerEpoch binding.ownerEpoch) 1
        else s
      let s := s.clearClaims.clearBindingObservations binding
      ({ s with returnReason := none, returnDispatched := false, serviceMode := .aokieActive }.bumpRevision,
        .ok binding)

def talkAllowed (binding : SessionBinding) (clock : Clock) (route : ActiveRoute) : Bool :=
  s.consent.allows .talk clock.utc && s.currentCallActive && s.currentCallId == some binding.callId &&
    s.currentRecord == some ⟨binding.callEpoch, binding.ownerEpoch⟩ && route.permit.isCurrentFor binding clock.now &&
    (s.peer binding.rtcSessionId).any fun slot => slot.binding = binding ∧ clock.now < slot.leaseExpiresAt

def allowsTalk (binding : SessionBinding) (clock : Clock) : RemoteMediaState × Bool :=
  match s.activeRoute with
  | none => (s, false)
  | some route =>
      if s.talkAllowed binding clock route then (s, true)
      else if route.permit.expiresAt ≤ clock.now then
        (({ s with activeRoute := none }.beginReturn route.permit.binding "lease_expired").bumpRevision, false)
      else (s, false)

def allowsConsult (binding : SessionBinding) (clock : Clock) : Bool :=
  s.activeConsult.any (fun active => active.binding = binding ∧ clock.now < active.expiresAt) &&
    s.currentCallActive && s.serviceMode == .consultActive && s.consent.allows .consult clock.utc &&
    s.currentCallId == some binding.callId && s.currentRecord == some ⟨binding.callEpoch, binding.ownerEpoch⟩ &&
    (s.peer binding.rtcSessionId).any fun slot => slot.binding = binding ∧ clock.now < slot.leaseExpiresAt

/-- One frame on its way to the caller; `sent` is whether the radio took it. -/
def forwardTalkPcm (binding : SessionBinding) (sent : Bool) (clock : Clock) : RemoteMediaState × Bool :=
  let (s, allowed) := s.allowsTalk binding clock
  if allowed && !s.microphoneIsMutedFor binding clock && sent then
    let s := { s with activeRoute := s.activeRoute.map fun route => { route with lastForwardedAt := some clock.now } }
    if s.talkAudioBinding = some binding then (s, true)
    else ({ s with talkAudioBinding := some binding }.bumpRevision, true)
  else (s, false)

def recvConsultPcm (binding : SessionBinding) (clock : Clock) : RemoteMediaState × Bool :=
  if s.allowsConsult binding clock && !s.microphoneIsMutedFor binding clock then
    ({ s with activeConsult := s.activeConsult.map fun active => { active with lastReceivedAt := some clock.now } },
      true)
  else (s, false)

def noteConsultPcmReceived (binding : SessionBinding) (now : Instant) : RemoteMediaState :=
  if binding.mode ≠ .consult then s
  else
    { s with
      preparedClaim := s.preparedClaim.map fun prepared =>
        if prepared.activeMediaBinding = some binding then { prepared with
          lastMediaReceivedAt := some now } else prepared
      pendingConsult := s.pendingConsult.map fun pending =>
        if pending.binding = binding then { pending with lastReceivedAt := some now } else pending
      activeConsult := s.activeConsult.map fun active =>
        if active.binding = binding then { active with lastReceivedAt := some now } else active }

def withAokieSwitchOwner (expected : AokieSwitchFence) : RemoteMediaState × Except String Unit :=
  if s.aokieSwitchFence ≠ some expected then (s, .error "the exact Aokie switchboard fence changed")
  else ({ s with aokieSwitchEpoch := advance s.aokieSwitchEpoch }.fenceAutonomousAokieActions, .ok ())

def withAokieOwner (expected : AokieOwnerFence) : Except String Unit :=
  ensure (s.aokieOwnerFence = some expected) "the exact Aokie caller-owner fence changed"

def linearizeAokieAction (expected : AokieOwnerFence) : RemoteMediaState × Except String AokieOwnerFence :=
  if s.aokieOwnerFence ≠ some expected then (s, .error "the exact Aokie caller-owner fence changed")
  else
    let s := s.fenceAutonomousAokieActions
    (s, okOr s.aokieOwnerFence "Aokie no longer owns the exact caller after linearization")

end RemoteMediaState

/-- One turn at the state lock. The consent checks of the handle come before the state's own. -/
inductive Input
  | observeCall (callId : Option String) (active : Bool)
  | setRemoteConsent (gate : RemoteConsentGate)
  | insertPeer (slot : PeerSlot) (expectedSwitchEpoch : Option ℕ)
  | requestSoftHold (binding : SessionBinding) (ttlMs : ℕ)
  | requestConsultHold (binding : SessionBinding) (ttlMs : ℕ)
  | requestConsult (binding : SessionBinding) (ttlMs : ℕ)
  | requestTakeover (binding : SessionBinding) (ttlMs : ℕ) (transferGuard : Option TransferActivationGuard)
  | renewLease (binding : SessionBinding) (ttlMs : ℕ)
  | revoke (binding : SessionBinding) (reason : String)
  | closePeer (rtcSessionId reason : String)
  | failClosedAll (reason : String)
  | nextRadioTransition
  | ackPrepare (binding : SessionBinding)
  | ackEnterConsult (binding : SessionBinding)
  | ackEnter (binding : SessionBinding) (transferAuthorized : Bool)
  | ackReturn
  | setMicrophoneMuted (binding : SessionBinding) (expectedRemoteRevision : ℕ) (muted : Bool)
  | allowsTalk (binding : SessionBinding)
  | forwardTalkPcm (binding : SessionBinding) (sent : Bool)
  | recvConsultPcm (binding : SessionBinding)
  | noteConsultPcmReceived (binding : SessionBinding)
  | withAokieSwitchOwner (expected : AokieSwitchFence)
  | withAokieOwner (expected : AokieOwnerFence)
  | linearizeAokieAction (expected : AokieOwnerFence)
  deriving DecidableEq, Repr

inductive Reply
  | refused (error : String)
  | closed (peers : List SessionBinding)
  | inserted
  | held
  | consultRequested
  | takeoverRequested
  | renewed (permit : Option RoutePermit)
  | revoked (needsReturn : Bool)
  | transition (transition : Option RadioTransition)
  | prepared (binding : SessionBinding) (confirmedOwnerEpoch : ℕ)
  | consultEntered (binding : SessionBinding)
  | humanEntered (binding : SessionBinding) (permit : RoutePermit)
  | returned (binding : SessionBinding)
  | microphone (revision : ℕ)
  | allowed (allowed : Bool)
  | noted
  | switched
  | ownerHolds
  | linearized (fence : AokieOwnerFence)
  deriving DecidableEq, Repr

def answer {α : Type} (reply : α → Reply) (r : RemoteMediaState × Except String α) : RemoteMediaState × Reply :=
  (r.1, match r.2 with
    | .ok a => reply a
    | .error e => .refused e)

/-- What the handle checks before it asks the state: the lifetime, and the consent to the mode. -/
def admitted (s : RemoteMediaState) (ttlMs : ℕ) (mode : MediaMode) (message : String) (clock : Clock) :
    Except String Duration := do
  let ttl ← validateTtl ttlMs
  ensure (s.consent.allows mode clock.utc) message
  return ttl

def checked {α : Type} (s : RemoteMediaState) (checks : Except String α)
    (run : α → RemoteMediaState × Reply) : RemoteMediaState × Reply :=
  match checks with
  | .error e => (s, .refused e)
  | .ok a => run a

def step : Machine RemoteMediaState (Input × Clock) Reply
  | s, (.observeCall callId active, _) => ((s.observeCall callId active).1, .closed (s.observeCall callId active).2)
  | s, (.setRemoteConsent gate, clock) =>
      ((s.setRemoteConsent gate clock).1, .closed (s.setRemoteConsent gate clock).2)
  | s, (.insertPeer slot expected, clock) =>
      answer (fun _ => .inserted) (s.insertPeerAfterSwitchEpoch slot expected clock)
  | s, (.requestSoftHold binding ttlMs, clock) =>
      checked s (admitted s ttlMs .preparedTalk "current remote consent does not permit takeover" clock)
        fun ttl => answer (fun _ => .held) (s.requestSoftHold binding ttl clock)
  | s, (.requestConsultHold binding ttlMs, clock) =>
      checked s (admitted s ttlMs .preparedConsult "current remote consent does not permit private consultation" clock)
        fun ttl => answer (fun _ => .held) (s.requestSoftHold binding ttl clock)
  | s, (.requestConsult binding ttlMs, clock) =>
      checked s (admitted s ttlMs .consult "current remote consent does not permit private consultation" clock)
        fun ttl => answer (fun _ => .consultRequested) (s.requestConsult binding ttl clock)
  | s, (.requestTakeover binding ttlMs transferGuard, clock) =>
      checked s (admitted s ttlMs .talk "current remote consent does not permit takeover" clock)
        fun ttl => answer (fun _ => .takeoverRequested) (s.requestTakeoverGuarded binding ttl transferGuard clock)
  | s, (.renewLease binding ttlMs, clock) =>
      checked s (validateTtl ttlMs) fun ttl => answer .renewed (s.renew binding ttl clock)
  | s, (.revoke binding reason, _) => answer .revoked (s.requestRevoke binding reason)
  | s, (.closePeer rtcSessionId reason, _) => answer (fun closed => .closed [closed.1])
      (s.closePeer rtcSessionId reason)
  | s, (.failClosedAll reason, _) => ((s.failClosedAll reason).1, .closed (s.failClosedAll reason).2)
  | s, (.nextRadioTransition, clock) => ((s.nextRadioTransition clock).1, .transition (s.nextRadioTransition clock).2)
  | s, (.ackPrepare binding, clock) => answer (.prepared binding) (s.ackPrepare binding clock)
  | s, (.ackEnterConsult binding, clock) => answer (fun _ => .consultEntered binding) (s.ackEnterConsult binding clock)
  | s, (.ackEnter binding authorized, clock) =>
      answer (.humanEntered binding) (s.ackEnter binding clock authorized)
  | s, (.ackReturn, _) => answer .returned s.ackReturn
  | s, (.setMicrophoneMuted binding revision muted, clock) =>
      answer .microphone (s.setMicrophoneMuted binding revision muted clock)
  | s, (.allowsTalk binding, clock) => ((s.allowsTalk binding clock).1, .allowed (s.allowsTalk binding clock).2)
  | s, (.forwardTalkPcm binding sent, clock) =>
      ((s.forwardTalkPcm binding sent clock).1, .allowed (s.forwardTalkPcm binding sent clock).2)
  | s, (.recvConsultPcm binding, clock) =>
      ((s.recvConsultPcm binding clock).1, .allowed (s.recvConsultPcm binding clock).2)
  | s, (.noteConsultPcmReceived binding, clock) => (s.noteConsultPcmReceived binding clock.now, .noted)
  | s, (.withAokieSwitchOwner expected, _) => answer (fun _ => .switched) (s.withAokieSwitchOwner expected)
  | s, (.withAokieOwner expected, _) => answer (fun _ => .ownerHolds) (s, s.withAokieOwner expected)
  | s, (.linearizeAokieAction expected, _) => answer .linearized (s.linearizeAokieAction expected)

end Aokie.Plugin.RemoteMedia
