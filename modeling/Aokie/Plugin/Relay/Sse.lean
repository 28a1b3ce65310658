import Aokie.Lib.Framing
import Aokie.Lib.Utf8Check
import Aokie.Protocol.Wire

/-! The incremental Server-Sent Events reader of the hosted relay's carrier. -/

namespace Aokie.Plugin.Relay

open Aokie.Lib Aokie.Protocol

def maxStreamBufferBytes : ℕ := 1024 * 1024

def maxAuthenticatedGrants : ℕ := 16

/-- A stored frame as the relay sends it: who posted it is the relay's word, not the frame's. -/
structure RelayFrame where
  seq : ℕ
  sender : String
  subjectId : Option String
  grants : List Grant
  frame : List Char
  deriving DecidableEq, Repr

inductive RelayStreamEvent
  | frame (f : RelayFrame)
  | finish (seq : Option ℕ)
  deriving DecidableEq, Repr

/-- The loop of `parse_authenticated_grants`: the names seen so far, and the grants they name. -/
def gatherGrants : List String → List Grant → List Json → List Grant
  | _, grants, [] => grants
  | names, grants, value :: rest =>
    match value.asStr with
    | none => []
    | some name =>
      if names.contains name then []
      else
        match Grant.fromWire name with
        | some grant => gatherGrants (name :: names) (grants ++ [grant]) rest
        | none => gatherGrants (name :: names) grants rest

/-- The admission scopes the relay authenticated; malformed metadata gives none. -/
def parseAuthenticatedGrants (payload : Json) : List Grant :=
  match (payload.get "grants").bind Json.asArray with
  | none => []
  | some values => if maxAuthenticatedGrants < values.length then [] else gatherGrants [] [] values

/-- The fields of one event, as its lines give them. -/
structure SseFields where
  id : Option ℕ := none
  name : Option (List Char) := none
  data : List Char := []

def splitOnce (mark : Char) (text : List Char) : Option (List Char × List Char) :=
  let front := text.takeWhile (· != mark)
  match text.drop front.length with
  | [] => none
  | _ :: rest => some (front, rest)

def SseFields.readLine (fields : SseFields) (line : List Char) : SseFields :=
  if line.isEmpty || line.head? == some ':' then fields
  else
    let (field, raw) := match splitOnce ':' line with
      | some (field, raw) => (field, (stripPrefix [' '] raw).getD raw)
      | none => (line, [])
    if field == "id".toList then { fields with id := parseU64 raw }
    else if field == "event".toList then { fields with name := some raw }
    else if field == "data".toList then
      { fields with data := (if fields.data.isEmpty then [] else fields.data ++ ['\n']) ++ raw }
    else fields

section Parser

-- `serde_json::from_str`
variable (fromStr : List Char → Option Json)

def parseRelayFrame (data : List Char) : Option RelayFrame := do
  let payload ← fromStr data
  let seq ← (← payload.get "seq").asU64
  let sender ← (← payload.get "from").asStr
  let frame ← payload.get "frame"
  return {
    seq := seq, sender := sender, subjectId := (payload.get "subjectId").bind Json.asStr
    grants := parseAuthenticatedGrants payload, frame := frame.print }

def parseSseBlock (block : List Char) : Option RelayStreamEvent :=
  let fields := (block.splitOn '\n').foldl SseFields.readLine {}
  if fields.name = some "end".toList then some (.finish fields.id)
  else if fields.name = some "frame".toList then (parseRelayFrame fromStr fields.data).map .frame
  else none

structure SseParser where
  buffer : List Char := []
  /-- The start of a character whose remaining bytes are in the next chunk. -/
  pendingBytes : Bytes := []
  deriving DecidableEq, Repr

/-- `chunk.replace("\r\n", "\n")`. -/
def normalizeLineEnds : List Char → List Char
  | '\r' :: '\n' :: rest => '\n' :: normalizeLineEnds rest
  | c :: rest => c :: normalizeLineEnds rest
  | [] => []

/-- `find("\n\n")`: what stands before the first blank line, and what follows it. -/
def findBlankLine : List Char → Option (List Char × List Char)
  | '\n' :: '\n' :: rest => some ([], rest)
  | c :: rest => (findBlankLine rest).map fun (block, after) => (c :: block, after)
  | [] => none

def nextEvent : Framing.Next Char := fun buffer =>
  (findBlankLine buffer).map fun (block, rest) => (block ++ ['\n', '\n'], rest)

def parseEvent (event : List Char) : Option RelayStreamEvent := parseSseBlock fromStr (event.take (event.length - 2))

def SseParser.push (p : SseParser) (chunk : List Char) : SseParser × List RelayStreamEvent :=
  let (complete, rest) := Framing.drain nextEvent (p.buffer ++ normalizeLineEnds chunk)
  -- only an event that never ends can stay above the ceiling
  let rest := if maxStreamBufferBytes < byteLength rest then [] else rest
  ({ p with buffer := rest }, complete.filterMap (parseEvent fromStr))

def readyBytes (bytes : Bytes) : ℕ :=
  match utf8Error bytes with
  | none => bytes.length
  | some ⟨validUpTo, none⟩ => validUpTo
  | some ⟨_, some _⟩ => bytes.length

def SseParser.pushBytes (p : SseParser) (bytes : Bytes) : SseParser × List RelayStreamEvent :=
  let pending := p.pendingBytes ++ bytes
  let split := readyBytes pending
  SseParser.push fromStr { p with pendingBytes := pending.drop split } (fromUtf8Lossy (pending.take split))

end Parser

end Aokie.Plugin.Relay
