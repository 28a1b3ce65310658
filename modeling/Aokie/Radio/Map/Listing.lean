import Aokie.Lib.Rust

/-! The flat XML that phones send: where an element ends, and its attributes. -/

namespace Aokie.Radio.Map

open Aokie.Lib

def isAsciiWhitespace (c : Char) : Bool := c == ' ' || c == '\t' || c == '\n' || c == '\x0c' || c == '\r'

/-- The scan of `element_end`: the index of the first `>` that is in no quoted value. -/
def scanElement : Option Char → Bool → ℕ → List Char → Option ℕ
  | _, _, _, [] => none
  | some quote, afterEq, at_, c :: rest => scanElement (if c == quote then none else some quote) afterEq (at_ + 1) rest
  | none, afterEq, at_, c :: rest =>
    if c == '>' then some at_
    else if c == '=' then scanElement none true (at_ + 1) rest
    else if (c == '"' || c == '\'') && afterEq then scanElement (some c) false (at_ + 1) rest
    else if isAsciiWhitespace c then scanElement none afterEq (at_ + 1) rest
    else scanElement none false (at_ + 1) rest

def elementEnd (text : List Char) : Option ℕ := scanElement none false 0 text <|> text.findIdx? (· == '>')

def parseU32 (base : ℕ) (text : List Char) : Option ℕ :=
  let digits := (stripPrefix ['+'] text).getD text
  let value (c : Char) : Option ℕ :=
    let n := if c.isDigit then c.toNat - '0'.toNat
      else if 'a' ≤ c ∧ c ≤ 'f' then c.toNat - 'a'.toNat + 10
      else if 'A' ≤ c ∧ c ≤ 'F' then c.toNat - 'A'.toNat + 10 else base
    if n < base then some n else none
  if digits.isEmpty then none
  else ((digits.mapM value).map fun values => values.foldl (fun acc d => acc * base + d) 0).filter (· < 4294967296)

def charFromU32 (n : ℕ) : Option Char := if n.isValidChar then some (Char.ofNat n) else none

def decodeEntityName (name : List Char) : Option Char :=
  if name = "amp".toList then some '&'
  else if name = "lt".toList then some '<'
  else if name = "gt".toList then some '>'
  else if name = "quot".toList then some '"'
  else if name = "apos".toList then some '\''
  else if let some digits := stripPrefix "#x".toList name <|> stripPrefix "#X".toList name then
    (parseU32 16 digits).bind charFromU32
  else ((stripPrefix "#".toList name).bind (parseU32 10)).bind charFromU32

/-- The entity at the front of a text that begins with `&`, and its length. -/
def decodeEntity (tail : List Char) : Option (Char × ℕ) := do
  let end_ ← (tail.findIdx? (· == ';')).filter (· ≤ 12)
  let c ← decodeEntityName ((tail.take end_).drop 1)
  return (c, end_ + 1)

def unescapeFrom : ℕ → List Char → List Char
  | 0, rest => rest
  | _, [] => []
  | fuel + 1, c :: rest =>
    if c == '&' then
      match decodeEntity (c :: rest) with
      | some (decoded, len) => decoded :: unescapeFrom fuel ((c :: rest).drop len)
      | none => '&' :: unescapeFrom fuel rest
    else c :: unescapeFrom fuel rest

def unescapeXml (value : List Char) : List Char := unescapeFrom value.length value

def attributeValue (after : List Char) : List Char × List Char :=
  match after with
  | '"' :: body | '\'' :: body =>
    let quote := after.headD '"'
    (body.takeWhile (· != quote), (body.dropWhile (· != quote)).drop 1)
  | _ =>
    let value := after.takeWhile (!isWhitespace ·)
    let tail := after.dropWhile (!isWhitespace ·)
    (if tail.isEmpty ∧ value.getLast? = some '/' then value.dropLast else value, tail)

/-- Every attribute takes its `=`, so the text's length is enough fuel. -/
def attributesFrom : ℕ → List Char → List (String × String)
  | 0, _ => []
  | fuel + 1, rest =>
    match rest.findIdx? (· == '=') with
    | none => []
    | some eq =>
      let name := ((rest.take eq).rdropWhile isWhitespace).rtakeWhile fun c => !(isWhitespace c || c == '/')
      let (value, tail) := attributeValue ((rest.drop (eq + 1)).dropWhile isWhitespace)
      let pairs := if name.isEmpty then [] else [(String.ofList name, String.ofList (unescapeXml value))]
      pairs ++ attributesFrom fuel tail

def attributes (text : List Char) : List (String × String) := attributesFrom text.length text

end Aokie.Radio.Map
