import Aokie.Radio.Hfp.Command

/-! The audio gateway's results, and the line parser that reads them from the AT byte stream. -/

namespace Aokie.Radio.Hfp

open Aokie.Lib

structure ClccEntry where
  index : UInt8
  direction : UInt8
  status : UInt8
  mode : UInt8
  multiparty : Bool
  number : Option String
  deriving DecidableEq, Repr

inductive HfpAgResult
  | ok
  | error
  | ring
  | supportedFeatures (features : UInt32)
  | indicators (names : List String)
  | indicatorStatus (values : List ℤ)
  | indicatorUpdate (index : UInt8) (value : ℤ)
  | callerId (number : String)
  | callHoldModes (modes : List String)
  | callWaitingNotification (number : String)
  | callListEntry (entry : ClccEntry)
  | selectedCodec (codec : UInt8)
  | unknown (line : String)
  deriving DecidableEq, Repr

def parseNumberList (value : List Char) : List ℤ := (value.splitOn ',').filterMap parseI32

/-- The texts between successive pairs of quotes; an unpaired last quote is dropped. -/
def quotedPairs : List (List Char) → List String
  | _ :: inner :: rest => if rest.isEmpty then [] else String.ofList inner :: quotedPairs rest
  | _ => []

def extractQuotedValues (value : List Char) : List String := quotedPairs (value.splitOn '"')

def extractFirstQuoted (value : List Char) : Option String := (extractQuotedValues value).head?

def parseCind (value : List Char) : HfpAgResult :=
  if value.contains '"' then .indicators (extractQuotedValues value)
  else .indicatorStatus (parseNumberList value)

def parseClccEntry (value : List Char) : Option ClccEntry :=
  match parseNumberList ((value.splitOn '"').headD value) with
  | index :: direction :: status :: mode :: multiparty :: _ => do
    let index ← u8TryFrom index
    let direction ← u8TryFrom direction
    let status ← u8TryFrom status
    let mode ← u8TryFrom mode
    return ⟨index, direction, status, mode, multiparty != 0, extractFirstQuoted value⟩
  | _ => none

def parseChldModes (value : List Char) : List String :=
  let inner := ((trim value).dropWhile (· == '(')).rdropWhile (· == ')')
  ((inner.splitOn ',').map trim |>.filter (!·.isEmpty)).map String.ofList

/-- The `+CIEV:` reading; `none` falls through to the later prefixes. -/
def parseCiev (value : List Char) : Option HfpAgResult :=
  match parseNumberList value with
  | index :: value :: _ => (u8TryFrom index).map (.indicatorUpdate · value)
  | _ => none

def parsePrefixedLine (line : List Char) : Option HfpAgResult :=
  if let some value := stripPrefix "+BRSF:".toList line then
    (parseI32 value).map fun features => .supportedFeatures (UInt32.ofNat (features % 4294967296).toNat)
  else if let some value := stripPrefix "+CIND:".toList line then some (parseCind value)
  else if let some result := (stripPrefix "+CIEV:".toList line).bind parseCiev then some result
  else if let some value := stripPrefix "+CLIP:".toList line then
    (extractFirstQuoted value).map .callerId
  else if let some value := stripPrefix "+CLCC:".toList line then
    (parseClccEntry value).map .callListEntry
  else if let some value := stripPrefix "+CCWA:".toList line then
    (extractFirstQuoted value).map .callWaitingNotification
  else if let some value := stripPrefix "+CHLD:".toList line then
    some (.callHoldModes (parseChldModes value))
  else if let some value := stripPrefix "+BCS:".toList line then
    (parseI32 value).map fun codec => .selectedCodec ((u8TryFrom codec).getD 0)
  else some (.unknown (String.ofList line))

def parseAgResultLine (raw : List Char) : Option HfpAgResult :=
  let line := trim raw
  if line.isEmpty then none
  else if line = "OK".toList then some .ok
  else if line = "ERROR".toList || "+CME ERROR".toList.isPrefixOf line then some .error
  else if line = "RING".toList then some .ring
  else parsePrefixedLine line

def isLineBreak (c : Char) : Bool := c == '\r' || c == '\n'

/-- The results of one frame's text after what the last frame left over. The unfinished last line is
carried to the next frame, unless it is longer than 1024 bytes: then it is lost. -/
def parseAgResultsBuffered (carry : String) (payload : Bytes) : Except String (String × List HfpAgResult) :=
  match fromUtf8 payload with
  | none => .error "HFP payload is not UTF-8"
  | some text =>
    let whole := (carry ++ text).toList
    let tail := whole.rtakeWhile (!isLineBreak ·)
    let lines := whole.rdropWhile (!isLineBreak ·)
    let carry := if (tail.map Char.utf8Size).sum ≤ 1024 then String.ofList tail else ""
    .ok (carry, ((lines.splitOn '\r').flatMap (·.splitOn '\n')).filterMap parseAgResultLine)

def parseAgResults (payload : Bytes) : Except String (List HfpAgResult) :=
  (parseAgResultsBuffered "" payload).map Prod.snd

end Aokie.Radio.Hfp
