import Aokie.Lib.Regex

/-! The words by which a caller asks for a person, and those that stop a sentence counting as asking. Texts are plain:
lower-case letters, digits, apostrophes and single spaces. -/

namespace Aokie.Plugin.Transfer.Phrase

open Aokie.Lib Regex

def text (s : String) : Regex := lit s.toList

def any (ss : List String) : Regex := oneOf (ss.map String.toList)

def maybe (ss : List String) : Regex := opt (any ss)

/-- `\w*` -/
def wordRest : Regex := .star (.char wordChar)

/-- `(?:\w+ ){0,n}` -/
def words (n : ℕ) : Regex := upTo n (seqs [.char wordChar, wordRest, text " "])

def person : Regex :=
  seqs [maybe ["the ", "your ", "a ", "an ", "that "],
    any ["owner", "manager", "boss", "proprietor", "person", "human", "real person", "actual person", "someone",
      "somebody", "staff", "member of staff", "representative", "supervisor", "director", "person in charge",
      "somebody in charge", "someone in charge"]]

def head : Regex := seqs [maybe ["the ", "your "], any ["owner", "manager", "boss", "proprietor"]]

def rules : List Regex :=
  [seqs [.boundary, any ["speak", "talk", "chat"], maybe ["ing"], text " ", any ["to", "with"], text " ",
    person, .boundary],
    seqs [.boundary, any ["put", "patch"], text " ", any ["me", "us"], text " ",
      any ["through", "thru", "thro"], .boundary],
    seqs [.boundary, text "be ", any ["put", "patched"], text " ", any ["through", "thru", "thro"], .boundary],
    seqs [.boundary, any ["put", "patch"], text " ", any ["this", "my", "our", "the"], text " call ",
      any ["through", "thru", "thro"], .boundary],
    seqs [.boundary, text "transfer ", any ["me", "us", "this call", "my call", "our call"], .boundary],
    seqs [.boundary, text "transfer ", any ["the", "this", "my", "our"], text " call ",
      any ["to", "over to", "through to"], text " ", person, .boundary],
    seqs [.boundary, maybe ["be "], text "transferred ", any ["to", "over to", "through to"], text " ",
      person, .boundary],
    seqs [.boundary, text "put ", head, text " on", opt (seqs [text " the ", any ["phone", "line"]]),
      maybe [" please", " now"], .finish],
    seqs [.boundary, text "hand ", any ["me", "us", "this call", "my call"], text " ", maybe ["over "],
      any ["to", "over to"], text " ", person, .boundary],
    seqs [.boundary, any ["is", "are"], text " ", any ["anyone", "anybody", "someone", "somebody"], text " ",
      any ["available", "free", "around"], text " to ", any ["speak", "talk", "chat"], text " ", any ["to", "with"],
      text " ", any ["me", "us"], .boundary],
    seqs [.boundary, any ["is", "are"], text " there ",
      any ["anyone", "anybody", "someone", "somebody", "a person", "a human"], text " ", any ["i", "we"], text " can ",
      any ["speak", "talk", "chat"], text " ", any ["to", "with"], .boundary],
    seqs [.boundary, text "connect ", any ["me", "us", "this call", "my call", "our call"], text " ",
      any ["to", "with", "through to"], text " ", person, .boundary],
    seqs [.boundary, any ["get", "find", "fetch", "grab"], text " ", maybe ["me "], person, .boundary],
    seqs [.boundary, any ["is", "are"], text " ", head, text " ",
      any ["there", "available", "in", "around", "free", "about"], .boundary],
    seqs [.boundary, any ["real", "actual"], text " ", any ["person", "human"], text " ",
      any ["please", "pls", "now", "thanks"], .boundary],
    seqs [.boundary, any ["give", "get", "find", "fetch", "need", "want", "wanna", "like", "d like"], text " ",
      maybe ["me "], maybe ["a ", "an "], any ["real", "actual"], text " ", any ["person", "human"], .boundary],
    seqs [.boundary, any ["want", "need", "wanna", "like", "d like"], text " ", maybe ["me "], any ["a ", "an "],
      text "human", .boundary],
    seqs [.boundary, maybe ["i "],
      any ["want", "need", "would like", "d like", "wanna", "have to", "got to", "gotta"], text " ", maybe ["to "],
      any ["speak", "talk"], text " ", any ["to", "with"], .boundary],
    seqs [.start,
      .star (.alt (seqs [any ["can", "could", "may"], text " i ", maybe ["please "], any ["have", "get"], text " "])
        (.alt (seqs [text "i", any [" need", " want", " wanna", " would like", "'d like", " d like"], text " "])
          (any ["give me ", "get me ", "just ", "yes ", "yeah ", "hi ", "hello ", "please "]))),
      head, maybe [" please", " pls", " thanks", " thank you"], .finish]]

def negations : List String :=
  ["do not", "don't", "dont", "does not", "doesn't", "did not", "didn't", "cannot", "can not", "can't", "cant",
    "will not", "won't", "wont", "would not", "wouldn't", "should not", "shouldn't", "never", "no way", "not going to",
    "not gonna", "refuse to", "rather not", "no need to", "no wish to", "not able to", "unable to", "no longer",
    "not asking", "not wanting", "not looking", "not trying", "not needing", "not requesting", "not after", "not here"]

def verbs : List String := ["speak", "talk", "chat", "transfer", "put", "patch", "connect"]

def refusal : Regex := seqs [.boundary, any negations, text " ", words 3, any verbs, wordRest, .boundary]

def blocksBefore : List Regex :=
  [seqs [.boundary, any ["my", "our", "his", "her", "their"], text " ", any ["owner", "manager", "boss"], .boundary],
    seqs [.boundary, text "owner of", .boundary],
    seqs [.boundary, any ["speak", "talk", "chat"], maybe ["ing"], text " ", any ["to", "with"], text " ",
      any ["you", "u"], .boundary],
    seqs [.boundary, text "talk to you later", .boundary],
    seqs [.boundary, text "speak to you ", any ["later", "soon"], .boundary]]

def blocksAfter : List Regex :=
  [seqs [.boundary, any ["without", "instead of", "rather than", "as opposed to", "in place of"], text " ", words 2,
      any verbs, wordRest, .boundary],
    seqs [.boundary,
      .alt (seqs [text "how ", any ["do", "can", "could", "would", "should", "might"], text " ", any ["i", "we"]])
        (.alt (seqs [text "what ", .alt (any ["number", "way", "time", "day"]) (seqs [text "hour", maybe ["s"]])])
          (.alt (seqs [text "when ", any ["can", "could", "do", "does", "is", "will"]])
            (seqs [text "where ", any ["do", "can", "could"]]))),
      text " ", words 6,
      any ["speak", "talk", "chat", "reach", "contact", "get hold of", "get through", "transfer", "put"], wordRest,
      .boundary],
    seqs [.boundary, text "how to ", words 2,
      any ["speak", "talk", "chat", "reach", "contact", "get hold of", "get through", "transfer", "put", "connect"],
      wordRest, .boundary],
    seqs [.boundary, any ["speaking", "talking", "chatting"], text " ", any ["to", "with"], text " ", words 2,
      text "else", .boundary],
    seqs [.boundary, any ["i m", "i'm", "i am", "we re", "we're", "we are"], text " ", words 1,
      any ["speaking", "talking", "chatting"], text " ", any ["to", "with"], .boundary],
    seqs [.boundary, text "i", any ["'ll", " will", " shall", "'m going to", " am going to", "'m gonna", " am gonna"],
      text " ", words 2, any ["speak", "talk", "chat", "call", "ring"], .boundary],
    seqs [.boundary, any ["speak", "talk", "chat"], maybe ["ing"], text " ", any ["to", "with"], text " ", words 3,
      text "myself", .boundary],
    seqs [.boundary, any ["was", "were", "been", "had been"], text " ", words 1, any ["speak", "talk", "chat"],
      maybe ["ing"], .boundary],
    seqs [.boundary, any ["was", "were", "been", "had been", "has been", "have been"], text " ", words 2,
      .alt (seqs [text "transferred ", any ["to", "over to", "through to"]])
        (seqs [any ["put", "patched"], text " ", any ["through", "thru", "thro"]]), .boundary],
    seqs [.boundary, any ["he", "she", "they"], text " ", words 1,
      any ["put", "patched", "handed", "connected", "transferred"], text " ", maybe ["the ", "your "],
      any ["owner", "manager", "boss", "proprietor"], .boundary],
    seqs [.boundary, any ["am i", "are we"], text " ", any ["speaking", "talking", "chatting"], text " ",
      any ["to", "with"], .boundary],
    seqs [.boundary, any ["are", "is", "am"], text " ", any ["you", "this", "that", "it", "i"], text " ", words 2,
      any ["real", "actual", "live", "human", "person", "robot", "machine", "bot", "ai", "recording", "computer"],
      .boundary],
    seqs [.boundary, any ["said", "says", "told", "tells"], text " ", words 3,
      .alt (any ["speak", "talk"]) (.alt (seqs [text "transfer", maybe ["red"]]) (.alt (text "put")
        (.alt (seqs [text "patch", maybe ["ed"]]) (.alt (seqs [text "connect", maybe ["ed"]]) (text "get"))))),
          .boundary],
    seqs [.boundary,
      any ["owner", "manager", "boss", "he", "she", "they", "someone", "somebody", "everyone", "people", "staff", "it"],
      text " ", words 1,
      any ["said", "says", "told", "tells", "allowed", "allows", "permitted", "approved", "okayed"],
        .boundary, text " ",
      words 14,
      .alt (any ["speak", "talk"]) (.alt (seqs [text "transfer", maybe ["red"]]) (.alt (text "put")
        (.alt (seqs [text "patch", maybe ["ed"]]) (.alt (seqs [text "connect", maybe ["ed"]]) (text "get"))))),
          .boundary],
    seqs [.boundary, any ["do", "would", "shall", "should", "can", "could"], text " ", any ["you", "they"], text " ",
      any ["want", "like", "need", "prefer"], text " ", any ["me", "us"], text " to ", maybe ["be "],
      any ["speak", "talk", "chat", "transfer", "put"], wordRest, .boundary],
    seqs [.boundary, text "the caller", .boundary],
    seqs [.boundary, any ["wants", "want", "asked", "asks", "tells", "told"], text " you to", .boundary]]

def blocks : List Regex := blocksBefore ++ refusal :: blocksAfter

def begunNegations : List String :=
  ["do not", "don't", "dont", "does not", "doesn't", "did not", "didn't", "will not", "won't", "wont", "would not",
    "wouldn't", "should not", "shouldn't", "can not", "can't", "cant", "cannot"]

def begunVerbs : List String :=
  ["want", "wanna", "need", "have", "like", "wish", "try", "ask", "expect", "intend", "going", "gonna", "able"]

def begunPhrases : List String :=
  ["no need to", "no wish to", "not going to", "not gonna", "not able to", "unable to", "refuse to", "rather not"]

def unfinishedAlways : Regex :=
  seqs [.boundary,
    .alt (seqs [any begunNegations, text " ", any begunVerbs, maybe [" to"]]) (any begunPhrases), .finish]

def unfinishedBare : Regex := seqs [.boundary, any begunNegations, .finish]

def unfinishedJoins : Regex := seqs [.start, maybe ["to "], maybe ["be "], any verbs, wordRest, .boundary]

inductive Ending
  | opened | stop | trailing | hard
  deriving DecidableEq, Repr

def isBlocked (sentence : List Char) : Bool := blocks.any fun block => block.isMatch sentence

def sentenceAsks (sentence : List Char) : Bool :=
  !isBlocked sentence && rules.any fun rule => rule.isMatch sentence

def unfinished (sentence : List Char) (ending : Ending) : Bool :=
  match ending with
  | .hard => false
  | .stop => unfinishedAlways.isMatch sentence
  | .opened | .trailing => unfinishedAlways.isMatch sentence || unfinishedBare.isMatch sentence

def joined (before sentence : List Char) : List Char := before ++ ' ' :: sentence

/-- The sentences of a turn, with what was carried to them; `none`: one of them asks. -/
def readSentences (carried : Option (List Char)) : List (List Char × Ending) → Option (Option (List Char))
  | [] => some carried
  | (sentence, ending) :: rest =>
    let read := match carried with
      | some before => if unfinishedJoins.isMatch sentence then joined before sentence else sentence
      | none => sentence
    if sentenceAsks read then none
    else readSentences (if unfinished read ending then some read else none) rest

/-- The loop over the turns: each is the sentences that are read of it, or is not read. -/
def readTurns (carried : Option (List Char)) : List (Option (List (List Char × Ending))) → Bool
  | [] => false
  | none :: rest => readTurns none rest
  | some sentences :: rest =>
    match readSentences carried sentences with
    | none => true
    | some carried => readTurns carried rest

def callerAsked (turns : List (Option (List (List Char × Ending)))) : Bool := readTurns none turns

end Aokie.Plugin.Transfer.Phrase
