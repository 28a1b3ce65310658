import Aokie.Lib.JsonValue
import Aokie.Protocol.Text

/-! What every Companion frame shares: grants by their wire names, identifiers and frame kinds. -/

namespace Aokie.Protocol

open Aokie.Lib

inductive Grant
  | stateRead | callerRead | captionsRead | assistanceRead | assistanceRespond | monitor | consult | takeover
  | endCaller | resumeAokie | rtcSignal | participantsRead | participantIdentityRead | audioLevelsRead
  deriving DecidableEq, Repr

namespace Grant

def all : List Grant :=
  [stateRead, callerRead, captionsRead, assistanceRead, assistanceRespond, monitor, consult, takeover, endCaller,
    resumeAokie, rtcSignal, participantsRead, participantIdentityRead, audioLevelsRead]

def asStr : Grant → String
  | stateRead => "state_read"
  | callerRead => "caller_read"
  | captionsRead => "captions_read"
  | assistanceRead => "assistance_read"
  | assistanceRespond => "assistance_respond"
  | monitor => "monitor"
  | consult => "consult"
  | takeover => "takeover"
  | endCaller => "end_caller"
  | resumeAokie => "resume_aokie"
  | rtcSignal => "rtc_signal"
  | participantsRead => "participants_read"
  | participantIdentityRead => "participant_identity_read"
  | audioLevelsRead => "audio_levels_read"

def fromWire (name : String) : Option Grant := all.find? (·.asStr == name)

end Grant

def maxIdBytes : ℕ := 200

def isIdChar (c : Char) : Bool := c.isAlphanum || c == '-' || c == '_' || c == '.' || c == ':'

def safeId (value : String) : Bool :=
  !value.isEmpty && byteLength value.toList ≤ maxIdBytes && value.toList.all isIdChar

def frameKinds : List String :=
  ["mobile_hello", "mobile_offer_answer", "lease_request", "lease_heartbeat", "lease_revoke", "rtc_signal",
    "assistance_answer", "microphone_mute", "end_caller_challenge_request", "end_caller_confirm", "plugin_hello",
    "plugin_idle", "plugin_snapshot", "claim_decision", "plugin_lease_revoke", "assistance_request",
    "plugin_microphone_mute", "microphone_mute_status", "end_caller_result", "endpoint_challenge", "idle_sync",
    "snapshot", "assistance_answer_accepted", "end_caller_challenge", "end_caller_submitted", "end_caller_execute",
    "mobile_offer_accepted", "claim_proposal", "lease_granted", "claim_provisional", "claim_active", "lease_renewed",
    "lease_revoked", "claim_rejected", "error", "plugin_claim_rejected", "plugin_lease_status",
    "plugin_offer_accepted"]

/-- The kind of a frame from a newer build. `fromStr` is `serde_json::from_str`. -/
def unknownFrameKind (fromStr : List Char → Option Json) (encoded : List Char) : Option String := do
  let value ← fromStr encoded
  let kind ← (value.get "kind").bind Json.asStr
  if !safeId kind || frameKinds.contains kind then none else some kind

end Aokie.Protocol
