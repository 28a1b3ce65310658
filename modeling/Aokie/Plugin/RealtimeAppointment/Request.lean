import Aokie.Protocol.Text
import Aokie.Lib.JsonValue
import Aokie.Lib.Keyed
import Aokie.Lib.Words

/-! The booking check: what a caller has to have said before a request for an appointment leaves the call. Texts are
lists of characters; `none` is a panic. -/

namespace Aokie.Plugin.RealtimeAppointment

open Aokie.Lib Aokie.Protocol

section Slices

def takeBytes : ℕ → List Char → Option (List Char)
  | 0, _ => some []
  | _ + 1, [] => none
  | n + 1, c :: rest => if c.utf8Size ≤ n + 1 then (takeBytes (n + 1 - c.utf8Size) rest).map (c :: ·) else none

def dropBytes : ℕ → List Char → Option (List Char)
  | 0, text => some text
  | _ + 1, [] => none
  | n + 1, c :: rest => if c.utf8Size ≤ n + 1 then dropBytes (n + 1 - c.utf8Size) rest else none

/-- `&text[start..ended]`. -/
def slice (text : List Char) (start ended : ℕ) : Option (List Char) :=
  if start ≤ ended then (dropBytes start text).bind (takeBytes (ended - start)) else none

/-- `str::match_indices`: the scan goes on behind each match. -/
def matchesFrom (word : List Char) : ℕ → ℕ → List Char → List ℕ
  | _, _, [] => []
  | skip + 1, at_, c :: rest => matchesFrom word skip (at_ + c.utf8Size) rest
  | 0, at_, c :: rest =>
    if word.isPrefixOf (c :: rest) then at_ :: matchesFrom word (word.length - 1) (at_ + c.utf8Size) rest
    else matchesFrom word 0 (at_ + c.utf8Size) rest

def matchIndices (word text : List Char) : List ℕ := matchesFrom word 0 0 text

def contains (text : List Char) (needle : String) : Bool := text.tails.any needle.toList.isPrefixOf

end Slices

def firstDay : ℤ := -96465292
def lastDay : ℤ := 95026236

structure NaiveDate where
  day : ℤ
  first_le : firstDay ≤ day
  le_last : day ≤ lastDay
  deriving DecidableEq

def NaiveDate.addDays (date : NaiveDate) (days : ℤ) : Option NaiveDate :=
  if h : firstDay ≤ date.day + days ∧ date.day + days ≤ lastDay then some ⟨date.day + days, h.1, h.2⟩ else none

def NaiveDate.weekday (date : NaiveDate) : ℕ := ((date.day + 3) % 7).toNat

structure NaiveTime where
  hour : ℕ
  minute : ℕ
  hour_lt : hour < 24
  minute_lt : minute < 60
  deriving DecidableEq

structure Digest where
  bytes : Bytes
  length_bytes : bytes.length = 32

/-- What the code takes from Unicode's tables, the calendar, the two regular expressions (the groups of their last
match) and the digest. -/
structure Host where
  toLowercase : List Char → List Char
  isAlphanumeric : Char → Bool
  dateCaptures : List Char → Option (ℕ → Option (List Char))
  timeCaptures : List Char → Option (ℕ → Option (List Char))
  year : NaiveDate → ℤ
  year_bounds : ∀ date, -262143 ≤ year date ∧ year date ≤ 262142
  dayOfMonth : NaiveDate → ℕ
  fromYmd : ℤ → ℕ → ℕ → Option NaiveDate
  parseDate : List Char → Option NaiveDate
  parseTime : List Char → Option NaiveTime
  /-- `%Y-%m-%d` -/
  ymd : NaiveDate → List Char
  /-- `%A %-d %B` -/
  longDay : NaiveDate → List Char
  sha256 : Bytes → Digest

def weekdayNames : List String := ["Monday", "Tuesday", "Wednesday", "Thursday", "Friday", "Saturday", "Sunday"]

def u32Max : ℕ := 4294967295
def i32Max : ℕ := 2147483647

def parseU32 (text : List Char) : Option ℕ := (parseU64 text).filter (· ≤ u32Max)

def parseYear (text : List Char) : Option ℕ := (parseU64 text).filter (· ≤ i32Max)

/-- `a + b` of `i32`s. -/
def addI32 (a b : ℤ) : Option ℤ := if -2147483648 ≤ a + b ∧ a + b ≤ 2147483647 then some (a + b) else none

section Words

variable (h : Host)

def normalizedSpeech (value : List Char) : List Char := h.toLowercase (joinWords (splitWhitespace value))

def boundedPlain (value : Option Json) (label : String) (maxChars : ℕ) : Except String (List Char) := do
  let value ← okOr (((value.bind Json.asStr).map fun text => trim text.toList).filter (· ≠ []))
    (label ++ " is required")
  ensure (value.length ≤ maxChars ∧ value.all (!isControl ·)) (label ++ " is invalid")
  ensure (joinWords (splitWhitespace value) ≠ []) (label ++ " is required")
  return joinWords (splitWhitespace value)

/-- Digits run together with `am` or `pm` come apart. -/
def splitMeridiem (raw : List Char) : List (List Char) :=
  let fused := if "am".toList.isSuffixOf raw then some (raw.take (raw.length - 2), "am".toList)
    else if "pm".toList.isSuffixOf raw then some (raw.take (raw.length - 2), "pm".toList)
    else none
  match fused.filter fun (digits, _) => digits ≠ [] && digits.all Char.isDigit with
  | some (digits, suffix) => [digits, suffix]
  | none => [raw]

def mergeTokens : List (List Char) → List (List Char)
  | first :: second :: rest =>
    if (first = "a".toList ∨ first = "p".toList) ∧ second = "m".toList then (first ++ "m".toList) :: mergeTokens rest
    else if first = "o".toList ∧ second = "clock".toList then "oclock".toList :: mergeTokens rest
    else first :: mergeTokens (second :: rest)
  | tokens => tokens

def numberWords : List (String × String) :=
  [("one", "1"), ("two", "2"), ("three", "3"), ("four", "4"), ("five", "5"), ("six", "6"), ("seven", "7"),
    ("eight", "8"),
    ("nine", "9"), ("ten", "10"), ("eleven", "11"), ("twelve", "12")]

def numberWord (token : List Char) : List Char :=
  ((numberWords.lookup (String.ofList token)).map String.toList).getD token

def canonicalAgreement (value : List Char) : List Char :=
  let lowered := (h.toLowercase value).map fun c => if c.isAlphanum then c else ' '
  joinWords ((mergeTokens ((splitWhitespace lowered).flatMap splitMeridiem)).map numberWord)

def padded (text : List Char) : List Char := ' ' :: text ++ [' ']

def agreementMatchesLatest (agreement latest : List Char) : Bool :=
  let quoted := canonicalAgreement h agreement
  let trusted := canonicalAgreement h latest
  if quoted = [] ∨ trusted = [] then false
  else if quoted = trusted then true
  else if (padded quoted).isPrefixOf (padded trusted) then true
  else
    let quotedTokens := quoted.splitOn ' '
    let trustedTokens := trusted.splitOn ' '
    if ¬(3 ≤ quotedTokens.length ∨ trustedTokens.length ≤ 2 * quotedTokens.length) then false
    else if contains (padded trusted) (String.ofList (padded quoted)) then true
    else 3 ≤ quotedTokens.length && quotedTokens.all trustedTokens.contains

def intentWords : List String :=
  ["appointment", "booking", "book me", "book an", "book a", "book one", "book us", "book it", "book that",
    "make a booking",
    "make an appointment", "schedule me", "schedule an", "schedule a", "reserve", "come in", "fit me in",
    "get me in", "put me in"]

def containsExplicitAppointmentIntent (value : List Char) : Bool :=
  intentWords.any (contains (normalizedSpeech h value))

def questionWords : List String :=
  ["is ", "are ", "am ", "do ", "does ", "did ", "can ", "could ", "would ", "will ", "what ", "when ",
    "where ", "how ",
    "have ", "has "]

def looksLikeQuestion (value : List Char) : Bool :=
  let value := normalizedSpeech h value
  ['?'].isSuffixOf (trimEnd value) || questionWords.any fun word => word.toList.isPrefixOf value

def negativeWords : List String :=
  ["don't", "do not", "not yet", "not now", "no thanks", "never mind", "nevermind", "cancel", "maybe", "let me think",
    "i'm not sure", "i am not sure"]

def containsNegative (value : List Char) : Bool := negativeWords.any (contains (normalizedSpeech h value))

def dayNames : List String :=
  ["monday", "tuesday", "wednesday", "thursday", "friday", "saturday", "sunday", "today", "tomorrow"]

def directWords : List String :=
  ["book me", "book an", "book a", "book one", "book us", "book it", "book that", "book my", "make a booking",
    "make an appointment", "schedule me", "schedule an", "put me down", "put me in", "get me in",
    "fit me in", "come in",
    "lock it in", "lock in", "pencil me in"]

def affirmativeWords : List String :=
  ["yes", "yep", "yeah", "please", "go ahead", "do that", "book it", "book me", "make the appointment", "that works",
    "sounds good", "i'll ", "i’ll ", "i will ", "put me down"]

def proposalWords : List String := ["how about", "what about", "can we do", "could we do", "can you do", "could you do"]

def isConservativeAgreement (value : List Char) : Bool :=
  if containsNegative h value then false
  else
    let value := normalizedSpeech h value
    let direct := directWords.any (contains value)
    let affirmative := affirmativeWords.any fun word => value = word.toList || contains value word
    let concreteSlot := dayNames.any (contains value) && value.any Char.isDigit
    let slotProposal := proposalWords.any fun word => word.toList.isPrefixOf value
    (concreteSlot && (!looksLikeQuestion h value || direct || slotProposal)) ||
      (affirmative && (!(['?'].isSuffixOf value) || "yes".toList.isPrefixOf value || "yeah".toList.isPrefixOf value))

end Words

section Days

variable (h : Host)

def monthNames : List String :=
  ["january", "february", "march", "april", "may", "june", "july", "august", "september", "october",
    "november", "december"]

def nextYear (today : NaiveDate) (month day : ℕ) : List ℤ → Option (Option NaiveDate)
  | [] => some none
  | ahead :: rest => do
    let year ← addI32 (h.year today) ahead
    match h.fromYmd year month day with
    | some date => some (some date)
    | none => nextYear today month day rest

/-- The date a text names in figures or by its month; a month and a day alone are the next ones. -/
def explicitDate (value : List Char) (today : NaiveDate) : Option (Option NaiveDate) :=
  match h.dateCaptures value with
  | none => some none
  | some group =>
    match group 1, group 2, group 3 with
    | some y, some m, some d =>
      some do
        let y ← parseYear y
        let m ← parseU32 m
        let d ← parseU32 d
        h.fromYmd y m d
    | _, _, _ =>
      match (group 4 <|> group 7).bind fun month => monthNames.findIdx? fun name => name.toList = h.toLowercase month,
          (group 5 <|> group 6).bind parseU32 with
      | some month, some day =>
        match (h.fromYmd (h.year today) (month + 1) day).filter (today.day ≤ ·.day) with
        | some date => some (some date)
        | none => nextYear h today (month + 1) day [1, 2, 3, 4, 5, 6, 7, 8]
      | _, _ => some none

/-- A day word in a text: where it begins and ends, and the date or the weekday it names. -/
structure NamedDay where
  begins : ℕ
  ended : ℕ
  word : String
  day : NaiveDate ⊕ ℕ
  deriving DecidableEq

def dayTable (today tomorrow : NaiveDate) : List (String × (NaiveDate ⊕ ℕ)) :=
  [("monday", .inr 0), ("tuesday", .inr 1), ("wednesday", .inr 2), ("thursday", .inr 3), ("friday", .inr 4),
    ("saturday", .inr 5), ("sunday", .inr 6), ("today", .inl today), ("tomorrow", .inl tomorrow)]

def namedDays (speech : List Char) (today tomorrow : NaiveDate) : List NamedDay :=
  ((dayTable today tomorrow).flatMap fun (word, day) =>
    (matchIndices word.toList speech).map fun at_ => ⟨at_, at_ + byteLength word.toList, word, day⟩).insertionSort
      fun a b => a.begins ≤ b.begins

/-- Two days offered as alternatives: `or` stands between the last two that are named. -/
def offersTwo (speech : List Char) (chosen : NamedDay) : Option NamedDay → Option Bool
  | none => some false
  | some before => do
    let between ← slice speech before.ended chosen.begins
    return before.day ≠ chosen.day ∧ "or".toList ∈ between.splitOnP (!h.isAlphanumeric ·)

def textOf (text : List Char) : String := String.ofList text

def weekdayName (date : NaiveDate) : String := weekdayNames.getD date.weekday ""

def judgeDay (speech : List Char) (chosen : NamedDay) (date today : NaiveDate) : Option (Except String Unit) :=
  let wrongDay :=
    .error (textOf (h.ymd date) ++ " is a " ++ weekdayName date ++ ", but the caller said " ++ chosen.word ++
    ": fix the date, then call this tool again")
  match chosen.day with
  | .inl day => some (if day = date then .ok () else wrongDay)
  | .inr weekday =>
    if weekday ≠ date.weekday then some wrongDay
    else do
      let before ← slice speech 0 chosen.begins
      let next := (splitWhitespace before).getLast? = some "next".toList
      let ahead := date.day - today.day
      if 0 ≤ ahead ∧ ahead ≤ (if next then 13 else 6) then some (.ok ())
      else
        let coming ← today.addDays ((7 + weekday - today.weekday : ℤ) % 7)
        some (.error (textOf (h.ymd date) ++ " is " ++ toString ahead ++ " days away, but the caller said " ++
          (if next then "next " else "") ++ chosen.word ++ ", which is " ++ textOf (h.longDay coming) ++
          ": use that date, or ask them which " ++ chosen.word ++ " they mean, then call this tool again"))

def validateSpokenDate (agreement : List Char) (date today : NaiveDate) : Option (Except String Unit) := do
  let speech := normalizedSpeech h agreement
  let explicit ← explicitDate h agreement today
  match explicit.filter (· ≠ date) with
  | some spoken =>
    some (.error ("the caller said " ++ textOf (h.longDay spoken) ++
      ", not this date: use their date, or ask them which day, then call this tool again"))
  | none =>
    let tomorrow ← today.addDays 1
    match (namedDays speech today tomorrow).reverse with
    | [] => some (.ok ())
    | chosen :: earlier =>
      let two ← offersTwo h speech chosen earlier.head?
      if two then
        some (.error ("the caller named two days (" ++ ((earlier.head?.map NamedDay.word).getD "") ++ " or " ++
          chosen.word ++
          "): ask which one, then call this tool again"))
      else judgeDay h speech chosen date today

def validateSpokenTime (agreement : List Char) (time : NaiveTime) : Except String Unit :=
  match h.timeCaptures agreement with
  | none => .ok ()
  | some group => do
    let spokenHour ← okOr ((group 1 <|> group 4).bind parseU32) "the caller's selected time was invalid"
    let spokenMinute := ((group 2 <|> group 5).bind parseU32).getD 0
    let suffix := (group 3 <|> group 6).map fun text => (text.map Char.toLower).filter (· ≠ '.')
    let hourMatches :=
      if suffix = some "am".toList then time.hour = spokenHour % 12
      else if suffix = some "pm".toList then time.hour = spokenHour % 12 + 12
      else if 12 < spokenHour then time.hour = spokenHour
      else time.hour % 12 = spokenHour % 12
    ensure (hourMatches ∧ time.minute = spokenMinute) "appointment time does not match the caller's selected time"

end Days

section Reading

variable (h : Host)

def namesSlot (service : List Char) (date : NaiveDate) (time : NaiveTime) (turn : List Char) : Bool :=
  let tokens := ((normalizedSpeech h service).splitOnP (!Char.isAlphanum ·)).filter (2 < ·.length)
  let hour12 := if time.hour % 12 = 0 then 12 else time.hour % 12
  let speech := normalizedSpeech h turn
  let runs := (speech.splitOnP (!Char.isDigit ·)).filter (· ≠ [])
  (tokens ≠ [] && tokens.all fun token => contains speech (textOf token)) &&
    runs.contains (Nat.toDigits 10 (h.dayOfMonth date)) &&
    runs.any fun run => run = Nat.toDigits 10 time.hour || run = Nat.toDigits 10 hour12

def confirmsTurn (service : List Char) (date : NaiveDate) (time : NaiveTime) (today : NaiveDate) (turn : List Char) :
    Option Bool :=
  if namesSlot h service date time turn then do
    let day ← validateSpokenDate h (normalizedSpeech h turn) date today
    return day.isOk && (validateSpokenTime h (normalizedSpeech h turn) time).isOk
  else some false

/-- `any` over the assistant's turns stops at the first that confirms. -/
def anyConfirms (service : List Char) (date : NaiveDate) (time : NaiveTime) (today : NaiveDate) :
    List (List Char) → Option Bool
  | [] => some false
  | turn :: rest => do
    if ← confirmsTurn h service date time today turn then some true else anyConfirms service date time today rest

def readbackConfirms (assistantRecent : List (List Char)) (service : List Char) (date : NaiveDate) (time : NaiveTime)
    (today : NaiveDate) : Option Bool :=
  anyConfirms h service date time today (assistantRecent.take 3)

def dateTurn (today : NaiveDate) : List (List Char) → Option (Option (List Char))
  | [] => some none
  | turn :: rest =>
    if dayNames.any (contains (normalizedSpeech h turn)) then some (some turn)
    else do
      if (← explicitDate h turn today).isSome then some (some turn) else dateTurn today rest

end Reading

structure ValidatedAppointmentRequest where
  requestId : String
  callerName : List Char
  service : List Char
  date : List Char
  time : List Char
  agreementTurn : ℕ
  deriving DecidableEq

def keys : List String := ["callerName", "service", "date", "time", "agreementPhrase"]

/-- The fields of a tool call; the time is not read yet. -/
structure Fields where
  callerName : List Char
  service : List Char
  date : NaiveDate
  time : List Char
  agreement : List Char

structure Arguments where
  callerName : List Char
  service : List Char
  date : NaiveDate
  time : NaiveTime
  agreement : List Char

section Request

variable (h : Host)

def wrongKeys (object : Keyed String Json) : String :=
  let missing := keys.filter fun key => (object.get key).isNone
  let unsupported := (((object.keys.filter (!keys.contains ·)).take 5).map fun key =>
    textOf ((key.toList.take 40).filter (!isControl ·))).insertionSort (· ≤ ·)
  String.intercalate "; " ((if missing = [] then [] else ["missing " ++ String.intercalate ", " missing]) ++
    (if unsupported = [] then [] else ["not supported: " ++ String.intercalate ", " unsupported]))

def readFields (arguments : Option (Keyed String Json)) (callId : List Char) : Except String Fields := do
  ensure (callId ≠ [] ∧ byteLength callId ≤ 256 ∧ callId.all (!isControl ·)) "the trusted call identity is invalid"
  let object ← okOr arguments "appointment request arguments must be an object"
  ensure (object.size = keys.length ∧ keys.all fun key => (object.get key).isSome)
    ("appointment request must have exactly callerName, service, date, time and agreementPhrase (" ++
    wrongKeys object ++
      "): call this tool again with those five alone")
  let callerName ← boundedPlain (object.get "callerName") "caller name" 120
  ensure (["unknown", "caller", "n/a", "na"].all fun kind => normalizedSpeech h callerName ≠ kind.toList)
    "a real caller name is required"
  let service ← boundedPlain (object.get "service") "service" 160
  let date ← boundedPlain (object.get "date") "date" 40
  let time ← boundedPlain (object.get "time") "time" 40
  let agreement ← boundedPlain (object.get "agreementPhrase") "agreement phrase" 500
  let parsedDate ← okOr (h.parseDate date) "date must be a real YYYY-MM-DD date"
  return ⟨callerName, service, parsedDate, time, agreement⟩

def readArguments (arguments : Option (Keyed String Json)) (callId : List Char) (today : NaiveDate) :
    Option (Except String Arguments) :=
  let outside := some (.error "appointment date must be within the next two years")
  match readFields h arguments callId with
  | .error e => some (.error e)
  | .ok fields =>
    if fields.date.day < today.day then outside
    else do
      let limit ← today.addDays 730
      if limit.day < fields.date.day then outside
      else some do
        let time ← okOr (h.parseTime fields.time) "time must be a real 24-hour HH:MM time"
        return ⟨fields.callerName, fields.service, fields.date, time, fields.agreement⟩

/-- The latest turn and the turns before it, the newest first; a turn that repeats the latest is left out. -/
def recentTurns (latest : List Char) (history : List (List Char)) : List (List Char) :=
  latest :: (history.filter (· ≠ latest)).take 4

def joinedTurns (recent : List (List Char)) : List Char := ['\n'].intercalate recent.reverse

def quoteMatches (agreement : List Char) (recent : List (List Char)) : Bool :=
  recent.any (agreementMatchesLatest h agreement) || agreementMatchesLatest h agreement (joinedTurns recent)

/-- The latest turn agrees, or it completes a booking that was asked for just before. -/
def agreed (latest : List Char) (recent : List (List Char)) : Bool :=
  let normalized := normalizedSpeech h latest
  let detail := !looksLikeQuestion h latest && !containsNegative h latest &&
    (normalized.any Char.isDigit || dayNames.any (contains normalized))
  let nearby := recent.any fun turn =>
    containsExplicitAppointmentIntent h turn && !looksLikeQuestion h turn && !containsNegative h turn
  isConservativeAgreement h latest || (detail && nearby)

def hm (time : NaiveTime) : List Char :=
  [Nat.digitChar (time.hour / 10), Nat.digitChar (time.hour % 10), ':', Nat.digitChar (time.minute / 10),
    Nat.digitChar (time.minute % 10)]

def identity (callId : List Char) (args : Arguments) : List Char :=
  ['\n'].intercalate [callId, normalizedSpeech h args.callerName, normalizedSpeech h args.service,
    h.ymd args.date, hm args.time]

def hexText (bytes : Bytes) : List Char :=
  bytes.flatMap fun byte => [Nat.digitChar (byte.toNat / 16), Nat.digitChar (byte.toNat % 16)]

/-- `&digest[..32]` of the identity. -/
def requestId (callId : List Char) (args : Arguments) : Option String :=
  (slice (hexText (h.sha256 (intoBytes (textOf (identity h callId args)))).bytes) 0 32).map fun head =>
    "appt_" ++ textOf head

def readbackAffirmed (args : Arguments) (latest : List Char) (assistantRecent : List (List Char)) (today : NaiveDate) :
    Option Bool :=
  if isConservativeAgreement h latest then readbackConfirms h assistantRecent args.service args.date args.time today
  else some false

def spokenDate (args : Arguments) (recent : List (List Char)) (today : NaiveDate) : Option (Except String Unit) := do
  match ← dateTurn h today recent with
  | some selected => validateSpokenDate h selected args.date today
  | none => some (.ok ())

def conclude (args : Arguments) (callId : List Char) (agreementTurn : ℕ) (recent history : List (List Char)) :
    Except String Unit → Option (Except String ValidatedAppointmentRequest)
  | .error e => some (.error e)
  | .ok _ =>
    match validateSpokenTime h (joinedTurns recent) args.time with
    | .error e => some (.error e)
    | .ok _ =>
      if !history.any (containsExplicitAppointmentIntent h) then
        some (.error "the caller did not explicitly request an appointment")
      else
        (requestId h callId args).map fun requestId =>
          .ok ⟨requestId, args.callerName, args.service, h.ymd args.date, hm args.time, agreementTurn⟩

def judgeSpeech (args : Arguments) (callId : List Char) (agreementTurn : ℕ) (latest : List Char)
    (history assistantRecent : List (List Char)) (today : NaiveDate) :
      Option (Except String ValidatedAppointmentRequest) := do
  let recent := recentTurns latest history
  let affirmed ← readbackAffirmed h args latest assistantRecent today
  if !quoteMatches h args.agreement recent && !affirmed then
    some (.error
      ("the agreement phrase is not what the caller said: ask them to confirm in one short question (never to " ++
      "repeat exact words), then call this tool again quoting their answer"))
  else if !agreed h latest recent then
    some (.error
      ("the caller has not clearly agreed to this time yet: ask them to confirm it in one short question, then " ++
      "call this tool again"))
  else
    let day ← spokenDate h args recent today
    conclude h args callId agreementTurn recent history day

def validateWithReadback (arguments : Option (Keyed String Json)) (callId : List Char) (latest : Option (ℕ × List Char))
    (history assistantRecent : List (List Char)) (today : NaiveDate) :
      Option (Except String ValidatedAppointmentRequest) := do
  match ← readArguments h arguments callId today with
  | .error e => some (.error e)
  | .ok args =>
    match latest with
    | none => some (.error "no final caller agreement is available")
    | some (agreementTurn, latestText) =>
        judgeSpeech h args callId agreementTurn latestText history assistantRecent today

end Request

end Aokie.Plugin.RealtimeAppointment
