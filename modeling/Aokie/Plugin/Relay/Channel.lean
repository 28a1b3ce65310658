import Aokie.Plugin.Relay.SseChunks

/-! The relay carrier's reading side: a mailbox stream that is re-opened from a cursor, and the rotation that hands
the cursor to a replacement channel. -/

namespace Aokie.Plugin.Relay

open Aokie.Lib Aokie.Protocol

def seconds (n : ℕ) : Duration := n * 1000000000

def streamIdleTimeout : Duration := seconds 45

def streamReopenDelay : Duration := seconds 1

def streamProvenAfter : Duration := seconds 5

def maxAbsorbedStreamFailures : ℕ := 3

def u32Max : ℕ := 4294967295

inductive WorkerErrorKind
  | reconnect | expired | admissionRefresh | rebootstrap | refused
  deriving DecidableEq, Repr

structure WorkerError where
  kind : WorkerErrorKind
  message : String
  deriving DecidableEq, Repr

structure RelayEndpoints where
  challengeUrl : String
  framesUrl : String
  streamUrl : String
  deriving DecidableEq, Repr

structure VerifiedRoute where
  party : String
  grants : List Grant
  deriving DecidableEq, Repr

structure Inbound where
  sender : String
  subjectId : Option String
  grants : List Grant
  frame : List Char
  deriving DecidableEq, Repr

structure RelayChannel where
  endpoints : RelayEndpoints
  appId : String
  pluginId : String
  approvedParties : List String
  routes : List (String × VerifiedRoute) := []
  parties : List String := []
  inbound : List Inbound := []
  lastInboundParty : Option String := none
  lastInboundSubject : Option String := none
  lastInboundGrants : List Grant := []
  /-- Whether a stream is open; its bytes come from outside. -/
  stream : Bool := false
  parser : SseParser := {}
  lastSeq : ℕ := 0
  lastStreamRead : Instant
  streamOpenedAt : Instant
  reopenNotBefore : Instant
  streamFailures : ℕ := 0

def RelayFrame.inbound (f : RelayFrame) : Inbound := ⟨f.sender, f.subjectId, f.grants, f.frame⟩

/-- One cursor namespace: the normalized endpoints and both addressing identities. -/
structure RelayCursorDomain where
  challengeUrl : String
  framesUrl : String
  streamUrl : String
  appId : String
  pluginId : String
  deriving DecidableEq, Repr

inductive StreamRead
  | quiet
  | bytes (chunk : Bytes)
  | ended
  | failed (error : WorkerError)
  deriving DecidableEq, Repr

namespace RelayChannel

/-- A channel as `connect_replacement` leaves it. -/
def replacement (endpoints : RelayEndpoints) (appId pluginId : String) (approvedParties : List String)
    (now : Instant) : RelayChannel where
  endpoints := endpoints
  appId := appId
  pluginId := pluginId
  approvedParties := approvedParties
  lastStreamRead := now
  streamOpenedAt := now
  reopenNotBefore := now

section Domain

-- `Url::parse` with `Url::to_string`: the normalized spelling of an absolute URL
variable (parseUrl : String → Option String)

def cursorDomain (c : RelayChannel) : Option RelayCursorDomain := do
  return ⟨← parseUrl c.endpoints.challengeUrl, ← parseUrl c.endpoints.framesUrl, ← parseUrl c.endpoints.streamUrl,
    c.appId, c.pluginId⟩

/-- The replacement, the emptied predecessor, and whether the cursor was taken over. -/
def adoptRoutingFrom (c previous : RelayChannel) : RelayChannel × RelayChannel × Bool :=
  if (c.cursorDomain parseUrl).isNone || c.cursorDomain parseUrl != previous.cursorDomain parseUrl then
    (c, previous, false)
  else
    ({ c with
        lastSeq := previous.lastSeq, routes := previous.routes, parties := previous.parties
        inbound := previous.inbound, lastInboundParty := previous.lastInboundParty
        lastInboundSubject := previous.lastInboundSubject, lastInboundGrants := previous.lastInboundGrants },
      { previous with
        routes := [], parties := [], inbound := [], lastInboundParty := none, lastInboundSubject := none
        lastInboundGrants := [] },
      true)

end Domain

def restartStream (c : RelayChannel) (now : Instant) (delay : Duration) : RelayChannel :=
  { c with stream := false, parser := {}, lastStreamRead := now, reopenNotBefore := now + delay }

def takeInbound (c : RelayChannel) : RelayChannel × Option Inbound :=
  match c.inbound with
  | [] => (c, none)
  | f :: rest =>
    ({ c with
        inbound := rest, lastInboundParty := some f.sender, lastInboundSubject := f.subjectId
        lastInboundGrants := f.grants },
      some f)

def noteStreamFailure (c : RelayChannel) (error : WorkerError) : RelayChannel × Except WorkerError (Option Inbound) :=
  let c := { c with streamFailures := min (c.streamFailures + 1) u32Max }
  (c, if maxAbsorbedStreamFailures < c.streamFailures then .error error else .ok none)

def noteStreamProgress (c : RelayChannel) (now : Instant) (deliveredEvent : Bool) : RelayChannel :=
  if deliveredEvent || streamProvenAfter ≤ saturatingDurationSince now c.streamOpenedAt then
    { c with streamFailures := 0 }
  else c

section Reading

variable (fromStr : List Char → Option Json)

def absorbEvent (now : Instant) (c : RelayChannel) : RelayStreamEvent → RelayChannel
  | .frame f =>
    let c := { c with lastSeq := max c.lastSeq f.seq }
    if !c.approvedParties.contains f.sender then c
    else if (unknownFrameKind fromStr f.frame).isSome then c
    else { c with inbound := c.inbound ++ [f.inbound] }
  | .finish seq =>
    let c := match seq with
      | some seq => { c with lastSeq := max c.lastSeq seq }
      | none => c
    -- the relay's hard lifetime, not an outage
    c.restartStream now 0

def absorb (c : RelayChannel) (now : Instant) (events : List RelayStreamEvent) : RelayChannel :=
  events.foldl (absorbEvent fromStr now) c

def readStream (c : RelayChannel) (now : Instant) : StreamRead → RelayChannel × Except WorkerError (Option Inbound)
  | .quiet =>
    if saturatingDurationSince now c.lastStreamRead < streamIdleTimeout then (c, .ok none)
    else (c.restartStream now streamReopenDelay).noteStreamFailure
      ⟨.reconnect, "Companion relay stream went silent past its heartbeat window"⟩
  | .bytes chunk =>
    let c := { c with lastStreamRead := now }
    let (parser, events) := c.parser.pushBytes fromStr chunk
    let c := ({ c with parser := parser }.noteStreamProgress now !events.isEmpty).absorb fromStr now events
    let (c, frame) := c.takeInbound
    (c, .ok frame)
  | .ended =>
    (c.restartStream now streamReopenDelay).noteStreamFailure
      ⟨.reconnect, "Companion relay stream ended without a resume marker"⟩
  | .failed error => (c.restartStream now streamReopenDelay).noteStreamFailure error

/-- `open_stream`, with how the request ended. -/
def openStream (c : RelayChannel) (now : Instant) : Option WorkerError → Except WorkerError RelayChannel
  | some error => .error error
  | none => .ok { c with stream := true, lastStreamRead := now, streamOpenedAt := now }

/-- `recv_text`: `opened` and `read` are what the network does if it is asked, `later` is the clock after it. -/
def recvText (c : RelayChannel) (now later : Instant) (opened : Option WorkerError) (read : StreamRead) :
    RelayChannel × Except WorkerError (Option Inbound) :=
  match c.takeInbound with
  | (c, some frame) => (c, .ok (some frame))
  | (c, none) =>
    if c.stream then c.readStream fromStr later read
    else if now < c.reopenNotBefore then (c, .ok none)
    else
      match c.openStream now opened with
      | .error error => { c with reopenNotBefore := now + streamReopenDelay }.noteStreamFailure error
      | .ok c => c.readStream fromStr later read

end Reading

end RelayChannel

end Aokie.Plugin.Relay
