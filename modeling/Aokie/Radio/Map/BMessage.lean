import Aokie.Lib.Utf8Check
import Aokie.Protocol.Text

/-! The bMessage envelope: what is read of a text that the phone hands over, and the envelope that a text goes out in.
-/

namespace Aokie.Radio.Map

open Aokie.Lib Aokie.Protocol

structure BMessage where
  msgType : Option (List Char) := none
  folder : Option (List Char) := none
  senderAddressing : Option (List Char) := none
  senderName : Option (List Char) := none
  body : List Char := []
  read : Option Bool := none
  deriving DecidableEq, Repr

def maxIncomingBodyChars : ℕ := 4000
def maxIncomingNameChars : ℕ := 200

def cleanChar (keepNewlines : Bool) (c : Char) (next : Option Char) : Option Char :=
  if c = '\r' ∧ next = some '\n' then none
  else if (c = '\r' ∨ c = '\n') ∧ keepNewlines = true then some '\n'
  else if c = '\r' ∨ c = '\n' ∨ c = '\t' then some ' '
  else if isControl c then none
  else some c

/-- The loop of `clean_incoming_text`, with how many characters are kept. -/
def cleanFrom (maxChars : ℕ) (keepNewlines : Bool) (kept : ℕ) : List Char → List Char
  | [] => []
  | c :: rest =>
    match cleanChar keepNewlines c rest.head? with
    | none => cleanFrom maxChars keepNewlines kept rest
    | some c => if kept = maxChars then ['…'] else c :: cleanFrom maxChars keepNewlines (kept + 1) rest

def cleanIncomingText (text : List Char) (maxChars : ℕ) (keepNewlines : Bool) : List Char :=
  cleanFrom maxChars keepNewlines 0 text

namespace BMessage

structure Parsing where
  out : BMessage := {}
  depthEnvelope : ℕ := 0
  inMsg : Bool := false
  inVcardOriginator : Bool := false
  vcardSeenCount : ℕ := 0
  body : List Char := []
  deriving DecidableEq, Repr

def nameOfN (value : List Char) : List Char :=
  let parts := value.splitOn ';'
  let family := trim (parts.headD [])
  let given := trim (parts.tail.headD [])
  match given.isEmpty, family.isEmpty with
  | false, false => given ++ [' '] ++ family
  | true, false => family
  | false, true => given
  | true, true => []

namespace Parsing

variable (p : Parsing)

def msgLine (line : List Char) : Parsing :=
  if eqIgnoreAsciiCase line "END:MSG".toList then { p with inMsg := false }
  else { p with body := (if p.body.isEmpty then [] else p.body ++ ['\n']) ++ line }

/-- `PROP[;PARAMS]:VALUE` -/
def property (prop value : List Char) : Parsing :=
  if prop = "TYPE".toList ∧ p.depthEnvelope = 0 ∧ p.out.msgType = none then
    { p with out := { p.out with msgType := some value } }
  else if prop = "FOLDER".toList ∧ p.depthEnvelope = 0 ∧ p.out.folder = none then
    { p with out := { p.out with folder := some value } }
  else if prop = "STATUS".toList ∧ p.depthEnvelope = 0 ∧ p.out.read = none then
    { p with out := { p.out with read := some (eqIgnoreAsciiCase value "READ".toList) } }
  else if prop = "TEL".toList ∧ p.inVcardOriginator = true ∧ p.out.senderAddressing = none then
    { p with out := { p.out with senderAddressing := some value } }
  else if prop = "FN".toList ∧ p.inVcardOriginator = true ∧ p.out.senderName = none then
    { p with out := { p.out with senderName := some value } }
  else if prop = "N".toList ∧ p.inVcardOriginator = true ∧ p.out.senderName = none then
    if nameOfN value = [] then p else { p with out := { p.out with senderName := some (nameOfN value) } }
  else p

def headerLine (line : List Char) : Parsing :=
  let upper := line.map Char.toUpper
  if "BEGIN:BENV".toList <+: upper then { p with depthEnvelope := p.depthEnvelope + 1 }
  else if "END:BENV".toList <+: upper then { p with depthEnvelope := p.depthEnvelope - 1 }
  else if "BEGIN:VCARD".toList <+: upper then
    { p with
      inVcardOriginator := p.depthEnvelope == 0 && p.vcardSeenCount == 0
      vcardSeenCount := p.vcardSeenCount + 1 }
  else if "END:VCARD".toList <+: upper then { p with inVcardOriginator := false }
  else if "BEGIN:MSG".toList <+: upper then { p with inMsg := true }
  else if "BEGIN:".toList <+: upper ∨ "END:".toList <+: upper then p
  else
    match line.dropWhile (· != ':') with
    | [] => p
    | _ :: value =>
      let propWithParams := line.takeWhile (· != ':')
      p.property ((trim ((propWithParams.splitOn ';').headD propWithParams)).map Char.toUpper) (trim value)

def line (rawLine : List Char) : Parsing :=
  let line := rawLine.rdropWhile (· == '\r')
  if p.inMsg then p.msgLine line else p.headerLine line

end Parsing

section Parse

-- the text parts of a MIME message, if it is one
variable (mimeText : List Char → Option (List Char))

def parse (input : Bytes) : BMessage :=
  let p := ((fromUtf8Lossy input).splitOn '\n').foldl Parsing.line {}
  let body := if p.out.msgType.any fun msgType => eqIgnoreAsciiCase msgType "MMS".toList then
    (mimeText p.body).getD p.body else p.body
  { p.out with
    body := cleanIncomingText body maxIncomingBodyChars true
    senderName := p.out.senderName.map fun name => cleanIncomingText name maxIncomingNameChars false }

end Parse

end BMessage

/-- `replace("\r\n", "\n")` -/
def replaceCrlf : List Char → List Char
  | '\r' :: '\n' :: rest => '\n' :: replaceCrlf rest
  | c :: rest => c :: replaceCrlf rest
  | [] => []

def crlf : List Char := ['\r', '\n']

def escapeMsgLine (line : List Char) : List Char :=
  if eqIgnoreAsciiCase line "END:MSG".toList || eqIgnoreAsciiCase line "BEGIN:MSG".toList then ' ' :: line else line

def escapeMsgBody (body : List Char) : List Char :=
  let body := (replaceCrlf body).map fun c => if c = '\r' then '\n' else c
  let escaped := (body.splitOn '\n').flatMap fun line => escapeMsgLine line ++ crlf
  if crlf <:+ escaped then escaped.take (escaped.length - 2) else escaped

def msgBlock (safeBody : List Char) : List Char :=
  "BEGIN:MSG\r\n".toList ++ safeBody ++ (if crlf <:+ safeBody then [] else crlf) ++ "END:MSG\r\n".toList

def pushMsgBlock (safeBody : List Char) : List Char :=
  "LENGTH:".toList ++ Nat.toDigits 10 (byteLength (msgBlock safeBody)) ++ crlf ++ msgBlock safeBody

def smsPushText (recipientPhone body : List Char) : List Char :=
  "BEGIN:BMSG\r\n".toList ++ "VERSION:1.0\r\n".toList ++ "STATUS:UNREAD\r\n".toList ++ "TYPE:SMS_GSM\r\n".toList ++
    "FOLDER:telecom/msg/outbox\r\n".toList ++ "BEGIN:BENV\r\n".toList ++ "BEGIN:VCARD\r\n".toList ++
    "VERSION:2.1\r\n".toList ++ "N:;\r\n".toList ++ ("TEL:".toList ++ recipientPhone ++ crlf) ++
    "END:VCARD\r\n".toList ++ "BEGIN:BBODY\r\n".toList ++ "CHARSET:UTF-8\r\n".toList ++
    pushMsgBlock (escapeMsgBody body) ++ "END:BBODY\r\n".toList ++ "END:BENV\r\n".toList ++ "END:BMSG\r\n".toList

def buildSmsPush (recipientPhone body : List Char) : Bytes := encode (smsPushText recipientPhone body)

end Aokie.Radio.Map
