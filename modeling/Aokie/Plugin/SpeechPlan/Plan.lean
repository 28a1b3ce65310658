import Aokie.Lib.Words
import Aokie.Protocol.Text

/-! How a sentence is planned for the voice: its markers are cut out, and what is left is spoken in spans, numbers digit
by digit. Texts are lists of characters; positions in the source are bytes, so only the window of a marker counts them.
-/

namespace Aokie.Plugin.SpeechPlan

open Aokie.Lib Aokie.Protocol

/-- A date of the calendar as far as it is spoken: the weekday from Monday, the month from January. -/
structure SpokenDate where
  weekday : Fin 7
  day : Fin 31
  month : Fin 12
  year : ℤ

/-- What the code takes from outside: Unicode's letters and digits, the finite positive rates within their band, and the
calendar. -/
structure Host (ρ : Type) where
  isAlphanumeric : Char → Bool
  isAlphanumeric_ascii : ∀ c, c.toNat < 128 → isAlphanumeric c = c.isAlphanum
  parseRate : List Char → Option ρ
  parseDate : List Char → Option SpokenDate
  currentYear : ℤ

inductive InterruptPolicy
  | yield
  | finishSpan (maxExtraMs : ℕ)
  deriving DecidableEq

structure SpeechSpan (ρ : Type) where
  text : List Char
  ttsText : List Char
  rate : ρ
  policy : InterruptPolicy
  deriving DecidableEq

/-- The rates in force: the base, and the smaller of the two for details. -/
structure PaceState (ρ : Type) where
  base : ρ
  detail : ρ

inductive Mode (ρ : Type)
  | base
  | slow (rate : ρ)
  | important
  deriving DecidableEq

inductive MarkerToken (ρ : Type)
  | openSlow
  | openRate (rate : ρ)
  | openImportant
  | close

def finishPhraseMs : ℕ := 1500

def trimMatches (p : Char → Bool) (text : List Char) : List Char := (text.dropWhile p).rdropWhile p

def oneOf (chars : String) (c : Char) : Bool := chars.toList.contains c

section Markers

variable {ρ : Type} (h : Host ρ)

-- the names of the markers are compared as lists
local instance lawfulBEqText : LawfulBEq (List Char) := inferInstance

def recognizeMarker (inner : List Char) : Option (MarkerToken ρ) :=
  let t := (trim inner).map Char.toLower
  if t = "slow".toList then some .openSlow
  else if t ∈ ["important", "protect", "protected"].map String.toList then some .openImportant
  else if t ∈ ["/slow", "/rate", "/important", "/protect", "/protected"].map String.toList then some .close
  else ((stripPrefix "rate=".toList t).bind fun v => h.parseRate (trim v)).map .openRate

/-- What `[x]` may hold to be a token. -/
def isControlWord (inner : List Char) : Bool :=
  (recognizeMarker h inner).isSome || eqIgnoreAsciiCase (trim inner) "wait".toList ||
    eqIgnoreAsciiCase (trim inner) "end_call".toList || eqIgnoreAsciiCase (trim inner) "end call".toList

/-- The close within the window of 40 bytes behind the opening: the text before it and the text behind it. -/
def findClose (double : Bool) : ℕ → List Char → Option (List Char × List Char)
  | _, [] => none
  | at_, c :: rest =>
    if 40 < at_ ∨ c = '\n' ∨ c = '[' then none
    else if c = ']' ∧ (double → rest.head? = some ']') then some ([], if double then rest.tail else rest)
    else (findClose double (at_ + c.utf8Size) rest).map fun found => (c :: found.1, found.2)

/-- A token: the text before it, what stands between its brackets, and the text behind it. -/
structure BracketToken where
  before : List Char
  inner : List Char
  after : List Char

def BracketToken.behind (c : Char) (token : BracketToken) : BracketToken := { token with before := c :: token.before }

def nextBracketToken : List Char → Option BracketToken
  | [] => none
  | c :: rest =>
    if c = '[' then
      let double := rest.head? == some '['
      match findClose double 0 (if double then rest.tail else rest) with
      | some (inner, after) =>
        if double || isControlWord h inner then some ⟨[], inner, after⟩ else (nextBracketToken rest).map (.behind c)
      | none => (nextBracketToken rest).map (.behind c)
    else (nextBracketToken rest).map (.behind c)

def nextMode (pace : PaceState ρ) (mode : Mode ρ) (inner : List Char) : Mode ρ :=
  match recognizeMarker h inner with
  | some .openSlow => .slow pace.detail
  | some (.openRate rate) => .slow rate
  | some .openImportant => .important
  | some .close => .base
  | none => mode

/-- The loop over the markers. Each of them takes characters off the text, so that its length is enough. -/
def segmentsFrom (pace : PaceState ρ) : ℕ → Mode ρ → List Char → List (List Char × Mode ρ)
  | 0, _, _ => []
  | fuel + 1, mode, text =>
    match nextBracketToken h text with
    | some token =>
      (if token.before = [] then [] else [(token.before, mode)]) ++
        segmentsFrom pace fuel (nextMode h pace mode token.inner) token.after
    | none => if text = [] then [] else [(text, mode)]

def segments (pace : PaceState ρ) (sentence : List Char) : List (List Char × Mode ρ) :=
  segmentsFrom h pace (sentence.length + 1) .base sentence

end Markers

section Dates

variable {ρ : Type} (h : Host ρ)

def isoDate (input : List Char) : Option SpokenDate :=
  if input.length = 10 ∧ input[4]? = some '-' ∧ input[7]? = some '-' ∧
      input.zipIdx.all fun c => c.2 == 4 || c.2 == 7 || c.1.isDigit then h.parseDate input
  else none

def isCalendarDateToken (token : List Char) : Bool := (isoDate h (trimMatches (oneOf "().,!?;:*`") token)).isSome

def ordinals : List String :=
  ["first", "second", "third", "fourth", "fifth", "sixth", "seventh", "eighth", "ninth", "tenth", "eleventh", "twelfth",
    "thirteenth", "fourteenth", "fifteenth", "sixteenth", "seventeenth", "eighteenth", "nineteenth", "twentieth",
    "twenty-first", "twenty-second", "twenty-third", "twenty-fourth", "twenty-fifth", "twenty-sixth", "twenty-seventh",
    "twenty-eighth", "twenty-ninth", "thirtieth", "thirty-first"]

def longWeekdays : List String := ["Monday", "Tuesday", "Wednesday", "Thursday", "Friday", "Saturday", "Sunday"]

def weekdays : List String := longWeekdays ++ ["Mon", "Tue", "Wed", "Thu", "Fri", "Sat", "Sun"]

def longMonths : List String :=
  ["January", "February", "March", "April", "May", "June", "July", "August", "September", "October",
    "November", "December"]

def partOfIdentifier (c : Char) : Bool := h.isAlphanumeric c || oneOf "_/-+" c

/-- The date at the head of a text that stands apart from what is around it. -/
def dateAt (before : Option Char) (text : List Char) : Option SpokenDate :=
  (isoDate h (text.take 10)).filter fun _ =>
    before.all (!partOfIdentifier h ·) && (text.drop 10).head?.all (!partOfIdentifier h ·)

/-- A weekday that was said before the date is taken back. A plan's texts have no whitespace but spaces, so that the
byte behind one begins a character. -/
def sayDate (out : List Char) (date : SpokenDate) : List Char :=
  let front := out.rdropWhile fun c => isWhitespace c || c == ','
  let word := front.rtakeWhile (!isWhitespace ·)
  (if weekdays.any fun day => eqIgnoreAsciiCase word day.toList then front.take
    (front.length - word.length) else out) ++
    (longWeekdays.getD date.weekday "" ++ " the " ++ ordinals.getD date.day "" ++ " of " ++
      longMonths.getD date.month "" ++
      if date.year = h.currentYear then "" else ", " ++ toString date.year).toList

/-- The loop of `calendar_dates_for_year`; a date's other nine characters are passed over. -/
def calendarFrom : ℕ → Option Char → List Char → List Char → List Char
  | _, _, out, [] => out
  | skip + 1, _, out, c :: rest => calendarFrom skip (some c) out rest
  | 0, before, out, c :: rest =>
    match dateAt h before (c :: rest) with
    | some date => calendarFrom 9 (some c) (sayDate h out date) rest
    | none => calendarFrom 0 (some c) (out ++ [c]) rest

def normalizeCalendarDates (input : List Char) : List Char := calendarFrom h 0 none [] input

end Dates

section Digits

variable {ρ : Type} (h : Host ρ)

def digitNames : List (String × Char) :=
  [("zero", '0'), ("oh", '0'), ("o", '0'), ("one", '1'), ("two", '2'), ("three", '3'), ("four", '4'), ("five", '5'),
    ("six", '6'), ("seven", '7'), ("eight", '8'), ("nine", '9')]

def digitsOf (token : List Char) : List Char :=
  if token.all Char.isDigit then token else (digitNames.lookup (String.ofList (token.map Char.toLower))).toList

def spokenDigits (s : List Char) : List Char := (s.splitOnP (!h.isAlphanumeric ·)).flatMap digitsOf

def digitWord (token : List Char) : Bool :=
  (["zero", "one", "two", "three", "four", "five", "six", "seven", "eight", "nine", "oh", "double", "triple"].map
    String.toList).contains token

def digitsIn (token : List Char) : ℕ := token.countP Char.isDigit

def isNumeralish (token : List Char) : Bool :=
  if isCalendarDateToken h token then false
  else
    let core := trimMatches (oneOf ".,!?;") token
    core.any Char.isDigit && core.all fun c => c.isDigit || oneOf "()+-.," c

def isGroup (part : List Char) : Bool :=
  let group := part.takeWhile (· ≠ '.')
  group.length == 3 && group.all Char.isDigit && ((part.dropWhile (· ≠ '.')).drop 1).all Char.isDigit

def isMoneyStyle (token : List Char) : Bool :=
  let core := trimMatches (oneOf ".!?;") token
  if core.head?.any (oneOf "$€£") then true
  else
    match core.splitOn ',' with
    | [] => false
    | first :: parts => first ≠ [] && first.length ≤ 3 && first.all Char.isDigit && parts ≠ [] && parts.all isGroup

def moneyWord (token : List Char) : Bool :=
  (["dollar", "dollars", "cent", "cents", "euro", "euros", "pound", "pounds", "bucks"].map String.toList).contains
    ((trimMatches (!Char.isAlpha ·) token).map Char.toLower)

def digitText (c : Char) : List Char :=
  (["zero", "one", "two", "three", "four", "five", "six", "seven", "eight", "nine"].getD
    (c.toNat - '0'.toNat) "").toList

/-- What is spoken so far, and whether a pause is due before the next digit. -/
structure Expansion where
  out : List Char
  pendingSep : Bool

def Expansion.push (e : Expansion) (c : Char) : Expansion :=
  if c.isDigit then
    ⟨e.out ++ (if e.out = [] then [] else if e.pendingSep then ", ".toList else [' ']) ++ digitText c, false⟩
  else if c = '+' ∧ e.out = [] then ⟨"plus".toList, e.pendingSep⟩
  else if oneOf "-.,/" c then ⟨e.out, true⟩
  else e

def expandNumeralToken (token : List Char) : List Char :=
  let core := token.rdropWhile (oneOf ".,!?;")
  (core.foldl Expansion.push ⟨[], false⟩).out ++ token.rtakeWhile (oneOf ".,!?;")

structure DetailRun where
  start : ℕ
  ended : ℕ
  expand : Bool
  deriving DecidableEq

def lowered (token : List Char) : List Char := (trimMatches (!Char.isAlphanum ·) token).map Char.toLower

/-- The runs from a token on that has its place in the list and a token before it; `skip` of them belong to the run
before. -/
def detailRunsFrom : ℕ → Option (List Char) → ℕ → List (List Char) → List DetailRun
  | _, _, _, [] => []
  | skip + 1, _, i, token :: rest => detailRunsFrom skip (some token) (i + 1) rest
  | 0, before, i, token :: rest =>
    if isNumeralish h token && !isMoneyStyle token then
      let run := (token :: rest).takeWhile (isNumeralish h)
      let followedByMoney := ((token :: rest)[run.length]?).any moneyWord
      let precededByMoney := before.any (·.getLast? = some '$')
      (if 5 ≤ (run.map digitsIn).sum && !run.any isMoneyStyle && !followedByMoney && !precededByMoney then
        [⟨i, i + run.length, true⟩] else []) ++ detailRunsFrom (run.length - 1) (some token) (i + 1) rest
    else if digitWord (lowered token) then
      let run := (token :: rest).takeWhile fun token => digitWord (lowered token)
      (if 4 ≤ run.length then [⟨i, i + run.length, false⟩] else []) ++ detailRunsFrom (run.length - 1) (some token)
        (i + 1) rest
    else detailRunsFrom 0 (some token) (i + 1) rest

def findDetailRuns (tokens : List (List Char)) : List DetailRun := detailRunsFrom h 0 none 0 tokens

end Digits

section Spans

variable {ρ : Type} (h : Host ρ)

/-- `tokens[start..ended]`. -/
def window (tokens : List (List Char)) (start ended : ℕ) : List (List Char) := (tokens.take ended).drop start

def joinPaused (tokens : List (List Char)) : List Char := ", ".toList.intercalate (tokens.map expandNumeralToken)

/-- The loop of `expand_tokens`, with the tokens still to come and how many of them a run has taken. -/
def expandFrom (tokens : List (List Char)) (runs : List DetailRun) : ℕ → ℕ → List (List Char) → List (List Char)
  | _, _, [] => []
  | skip + 1, i, _ :: rest => expandFrom tokens runs skip (i + 1) rest
  | 0, i, token :: rest =>
    match runs.find? fun run => run.expand && run.start == i with
    | some run => joinPaused (window tokens run.start run.ended) :: expandFrom tokens runs (run.ended - i - 1)
        (i + 1) rest
    | none => token :: expandFrom tokens runs 0 (i + 1) rest

def expandTokens (tokens : List (List Char)) (runs : List DetailRun) : List Char :=
  joinWords (expandFrom tokens runs 0 0 tokens)

def pushSpan (tokens : List (List Char)) (start ended : ℕ) (rate : ρ) (policy : InterruptPolicy) (expandDigits : Bool) :
    List (SpeechSpan ρ) :=
  let tokens := window tokens start ended
  let text := joinWords tokens
  if trim text = [] then []
  else
    let runs := findDetailRuns h tokens
    let ttsText := if expandDigits && runs.any DetailRun.expand then expandTokens tokens runs else text
    [⟨text, normalizeCalendarDates h ttsText, rate, policy⟩]

def detailSpan (tokens : List (List Char)) (run : DetailRun) (pace : PaceState ρ) : SpeechSpan ρ :=
  let tokens := window tokens run.start run.ended
  ⟨joinWords tokens, if run.expand then joinPaused tokens else joinWords tokens, pace.detail,
    .finishSpan finishPhraseMs⟩

def baseSpans (pace : PaceState ρ) (tokens : List (List Char)) : ℕ → List DetailRun → List (SpeechSpan ρ)
  | cursor, [] => if cursor < tokens.length then pushSpan h tokens cursor tokens.length pace.base .yield false else []
  | cursor, run :: runs =>
    (if cursor < run.start then pushSpan h tokens cursor run.start pace.base .yield false else []) ++
      detailSpan tokens run pace :: baseSpans pace tokens run.ended runs

def segmentSpans (pace : PaceState ρ) (protectedMaxMs : ℕ) (segment : List Char × Mode ρ) : List (SpeechSpan ρ) :=
  let tokens := splitWhitespace segment.1
  if tokens = [] then []
  else
    match segment.2 with
    | .slow rate => pushSpan h tokens 0 tokens.length rate (.finishSpan finishPhraseMs) true
    | .important => pushSpan h tokens 0 tokens.length pace.base (.finishSpan protectedMaxMs) true
    | .base => baseSpans h pace tokens 0 (findDetailRuns h tokens)

def planSpans (sentence : List Char) (pace : PaceState ρ) (protectedMaxMs : ℕ) : List (SpeechSpan ρ) :=
  (segments h pace sentence).flatMap (segmentSpans h pace (max 500 (min protectedMaxMs 5000)))

end Spans

end Aokie.Plugin.SpeechPlan
