import Aokie.Lib.JsonRecord
import Aokie.Plugin.Relay.Channel

/-! The relay carrier's sending side: the hello that every party hears first, the verified device routes, and the
addressing of each frame. -/

namespace Aokie.Plugin.Relay

open Aokie.Lib Aokie.Protocol

def maxFramesPerPost : ℕ := 64

def maxRelayFrameBytes : ℕ := 32 * 1024

def relaySnapshotBudgetBytes : ℕ := maxRelayFrameBytes - 4 * 1024

def postAttempts : ℕ := 3

def maxTrackedDevices : ℕ := 64

inductive TransportDelivery
  | delivered | dropped
  deriving DecidableEq, Repr

structure FrameRouting where
  kind : Option String
  deviceId : Option String
  deriving DecidableEq, Repr

namespace FrameRouting

def fromJson : Json → Option FrameRouting
  | .array items => if items.length ≤ 2 then read (["kind", "deviceId"].zip items) else none
  | .object fields => if 1 < fields.countP (·.1 = "kind") || 1 < fields.countP
      (·.1 = "deviceId") then none else read fields
  | _ => none
where
  read (fields : List (String × Json)) : Option FrameRouting := do
    return ⟨← Json.optional fields "kind" Json.asStr, ← Json.optional fields "deviceId" Json.asStr⟩

end FrameRouting

inductive PostOutcome
  | status (code : ℕ)
  | transport (detail : String)
  deriving DecidableEq, Repr

def PostOutcome.accepted : PostOutcome → Bool
  | .status code => 200 ≤ code && code < 300
  | .transport _ => false

/-- A snapshot frame, with the fields that the carrier leaves alone as they are. -/
structure PluginSnapshotFrame (κ ρ : Type) where
  kind : String
  captions : List κ
  rest : ρ

section Snapshot

variable {κ ρ : Type} (fromStr : List Char → Option (PluginSnapshotFrame κ ρ))
  (captionToString : κ → Option (List Char)) (toString : PluginSnapshotFrame κ ρ → Option (List Char))
  (validate : PluginSnapshotFrame κ ρ → Bool)

def estimateShed : ℕ → List κ → ℕ
  | 0, _ | _, [] => 0
  | excess, caption :: captions =>
    estimateShed (excess - (captionToString caption).elim 0 fun text => byteLength text + 1) captions + 1

def shedCaptions (budget : ℕ) (frame : PluginSnapshotFrame κ ρ) : List κ → Option (List Char)
  | [] => do
    let fitted ← toString { frame with captions := [] }
    if validate { frame with captions := [] } then some fitted else none
  | captions@(_ :: rest) => do
    let fitted ← toString { frame with captions := captions }
    if byteLength fitted ≤ budget then
      if validate { frame with captions := captions } then some fitted else none
    else shedCaptions budget frame rest

def fitRelaySnapshot (encoded : List Char) (budget : ℕ) : Option (List Char) :=
  if byteLength encoded ≤ budget then none
  else do
    let frame ← fromStr encoded
    if frame.kind != "plugin_snapshot" || frame.captions.isEmpty then none
    else
      let shed := estimateShed captionToString (byteLength encoded - budget) frame.captions
      shedCaptions toString validate budget frame (frame.captions.drop shed)

end Snapshot

structure SendingChannel extends RelayChannel where
  channelId : ℕ
  token : String
  hello : Option (List Char) := none
  greeted : List String := []

/-- What the outside of the carrier sees of it, one entry for each attempt to post. -/
inductive Happening
  | opened
  | armed (hello : List Char)
  | regreeted (party : String) (hello : List Char)
  | verified (device party : String) (grants : List Grant)
  | narrowed (device party : String) (grants : List Grant)
  | received (sender : String) (subject : Option String)
  | posted (party : String) (frames : List (List Char)) (accepted : Bool)
  deriving DecidableEq, Repr

def relayTransportError (stage detail : String) : WorkerError :=
  ⟨.reconnect, "Companion relay " ++ stage ++ " " ++ detail⟩

section Status

-- `StatusCode`'s `Display`: the number and its reason phrase
variable (display : ℕ → String)

def relayStatusError (stage : String) (status : ℕ) : WorkerError :=
  if status = 401 then
    ⟨.reconnect, "Companion relay " ++ stage ++ " rejected the admission (" ++ display status ++ ")"⟩
  else if status = 403 ∨ status = 404 ∨ status = 503 then
    ⟨.rebootstrap, "Companion relay " ++ stage ++ " is unavailable for this app (" ++ display status ++ ")"⟩
  else ⟨.reconnect, "Companion relay " ++ stage ++ " failed (" ++ display status ++ ")"⟩

/-- What `post_frames` returns after this attempt if it does not try again. -/
def PostOutcome.result (outcome : PostOutcome) : Except WorkerError TransportDelivery :=
  match outcome with
  | .status code =>
    if outcome.accepted then .ok .delivered
    -- refused content and a full mailbox lose the frames, not the session
    else if code = 413 ∨ code = 422 ∨ code = 429 then .ok .dropped
    else .error (relayStatusError display "frames" code)
  | .transport detail => .error (relayTransportError "frames" detail)

def PostOutcome.retries (outcome : PostOutcome) : Bool :=
  match outcome, outcome.result display with
  | .status 429, _ => true
  | _, .ok _ => false
  | _, .error error => error.kind == .reconnect

def attemptPost (answers : ℕ → PostOutcome) : ℕ → List Bool × Except WorkerError TransportDelivery
  | 0 => ([(answers 0).accepted], (answers 0).result display)
  | left + 1 =>
    if (answers (left + 1)).retries display then
      ((answers (left + 1)).accepted :: (attemptPost answers left).1, (attemptPost answers left).2)
    else ([(answers (left + 1)).accepted], (answers (left + 1)).result display)

end Status

namespace SendingChannel

/-- `connect_inner`, after its challenge was answered. -/
def connectInner (channelId : ℕ) (token : String) (endpoints : RelayEndpoints) (appId pluginId : String)
    (approvedParties : List String) (now : Instant) : SendingChannel where
  toRelayChannel := .replacement endpoints appId pluginId approvedParties now
  channelId := channelId
  token := token

def arm (c : SendingChannel) (hello : List Char) : SendingChannel := { c with hello := some hello, greeted := [] }

def installRegreeting (c : SendingChannel) (expectedChannelId : ℕ) (party : String) (hello : List Char) :
    SendingChannel × Bool :=
  if c.channelId != expectedChannelId then (c, false)
  else ({ c with hello := some hello, greeted := c.greeted.filter (· != party) }, true)

def learnParty (c : SendingChannel) (sender : String) : SendingChannel :=
  if c.parties.any (· == sender) then c else { c with parties := c.parties ++ [sender] }

def insertRoute (c : SendingChannel) (device : String) (route : VerifiedRoute) : SendingChannel :=
  { c with routes := (device, route) :: c.routes.filter (·.1 != device) }

def authorizeRoute (c : SendingChannel) (device party : String) (authenticatedGrants : List Grant) : SendingChannel :=
  if !c.approvedParties.contains party then c
  else
    let c := c.learnParty party
    if maxTrackedDevices ≤ c.routes.length && (c.routes.lookup device).isNone then c
    else c.insertRoute device ⟨party, authenticatedGrants⟩

def narrowRouteGrants (c : SendingChannel) (device party : String) (authenticatedGrants : List Grant) :
    SendingChannel :=
  match c.routes.lookup device with
  | none => c
  | some route =>
    if route.party != party then c
    else c.insertRoute device { route with grants := route.grants.filter authenticatedGrants.contains }

section Sending

-- the document of a text, with every field as it is written
variable (parse : List Char → Option Json)

def routeTargets (c : SendingChannel) (encoded : List Char) : List String :=
  match (parse encoded).bind FrameRouting.fromJson with
  | none => []
  | some routing =>
    match routing.deviceId with
    | some device => ((c.routes.lookup device).map (·.party)).toList
    | none =>
      if routing.kind = some "assistance_request" then
        c.parties.filter fun party => c.routes.any fun route =>
          route.2.party == party && route.2.grants.contains .stateRead && route.2.grants.contains .assistanceRead
      else if routing.kind = some "assistance_answer_accepted" ∨ routing.kind = some "end_caller_submitted" then
        match c.lastInboundSubject, c.lastInboundParty with
        | some subject, some party =>
          (((c.routes.lookup subject).filter (·.party == party)).map (·.party)).toList
        | _, _ => []
      else if routing.kind = some "plugin_idle" then c.parties
      else []

variable (display : ℕ → String) (headerValue : String → Bool)

def request (c : SendingChannel) : Except WorkerError Unit :=
  if !headerValue ("Bearer " ++ c.token) then .error ⟨.rebootstrap, "Companion admission token is invalid"⟩
  else if !headerValue c.appId then .error ⟨.rebootstrap, "Companion app identity is invalid"⟩
  else if !headerValue c.pluginId then .error ⟨.rebootstrap, "Companion plugin identity is invalid"⟩
  else .ok ()

def postFrames (c : SendingChannel) (party : String) (frames : List (List Char)) (answers : ℕ → PostOutcome) :
    List Happening × Except WorkerError TransportDelivery :=
  if frames.isEmpty then ([], .ok .delivered)
  else
    match c.request headerValue with
    | .error error => ([], .error error)
    | .ok () =>
      let (attempts, result) := attemptPost display answers (postAttempts - 1)
      (attempts.map fun accepted => .posted party frames accepted, result)

def postChunks (c : SendingChannel) (party : String) :
    List (List (List Char)) → (ℕ → ℕ → PostOutcome) → List Happening × Except WorkerError TransportDelivery
  | [], _ => ([], .ok .delivered)
  | chunk :: chunks, answers =>
    match c.postFrames display headerValue party chunk (answers 0) with
    | (posts, .ok .delivered) =>
      let (more, result) := c.postChunks party chunks fun n => answers (n + 1)
      (posts ++ more, result)
    | (posts, result) => (posts, result)

/-- Nothing else in the relay carries the endpoint proof, so a party hears the hello before anything else. -/
def batch (c : SendingChannel) (party : String) (encoded : List Char) : List (List Char) :=
  (if c.greeted.contains party then none else c.hello).toList ++ [encoded]

def insertGreeted (c : SendingChannel) (party : String) : SendingChannel :=
  if c.greeted.contains party then c else { c with greeted := party :: c.greeted }

def sendEach (encoded : List Char) : SendingChannel → List String → (ℕ → ℕ → ℕ → PostOutcome) →
    SendingChannel × List Happening × Except WorkerError TransportDelivery
  | c, [], _ => (c, [], .ok .delivered)
  | c, party :: parties, answers =>
    match c.postChunks display headerValue party ((c.batch party encoded).toChunks maxFramesPerPost) (answers 0) with
    | (posts, .error error) => (c, posts, .error error)
    | (posts, .ok .delivered) =>
      let (c, more, result) := sendEach encoded (c.insertGreeted party) parties fun n => answers (n + 1)
      (c, posts ++ more, result)
    | (posts, .ok .dropped) =>
      let (c, more, result) := sendEach encoded c parties fun n => answers (n + 1)
      (c, posts ++ more, result.map fun _ => .dropped)

/-- `answers` is what the relay does with each target's chunks at each attempt. -/
def sendText (fit : List Char → ℕ → Option (List Char)) (c : SendingChannel) (encoded : List Char)
    (answers : ℕ → ℕ → ℕ → PostOutcome) : SendingChannel × List Happening × Except WorkerError TransportDelivery :=
  let encoded := (fit encoded relaySnapshotBudgetBytes).getD encoded
  match c.routeTargets parse encoded with
  | [] => (c, [], .ok .dropped)
  | targets => c.sendEach display headerValue encoded targets answers

end Sending

end SendingChannel

end Aokie.Plugin.Relay
