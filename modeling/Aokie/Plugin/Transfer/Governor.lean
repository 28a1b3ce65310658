import Aokie.Lib.Keyed
import Aokie.Plugin.RemoteMedia.State

/-! The hourly ceilings on requests to the owner: in all, for one caller number, and for the calls without one. -/

namespace Aokie.Plugin.Transfer

open Aokie.Lib Aokie.Plugin.RemoteMedia

def maxAttemptsPerCall : ℕ := 3
def minGapBetweenAttempts : Duration := seconds 15
def maxAttemptsPerHour : ℕ := 20
def maxAttemptsPerCallerPerHour : ℕ := 3
def maxAttemptsPerWithheldPerHour : ℕ := 2
def maxCallersTracked : ℕ := 256

/-- When the requests of the last hour were opened, oldest first. -/
structure Governor where
  opened : List Instant
  callers : Keyed ℕ (List Instant)
  withheld : List Instant

namespace Governor

def new : Governor := ⟨[], Keyed.empty, []⟩

def prune (opened : List Instant) (now : Instant) : List Instant :=
  opened.dropWhile fun opening => decide (seconds 3600 ≤ now - opening)

/-- The table key for a caller number: its digits, with the Australian prefix folded, under the process's own hash. -/
def callerKey (hashOne : List Char → ℕ) (number : List Char) : Option ℕ :=
  let digits := number.filter Char.isDigit
  let digits := if digits.length = 11 ∧ "61".toList <+: digits then '0' :: digits.drop 2 else digits
  if 6 ≤ digits.length then some (hashOne digits) else none

variable (g : Governor) (now : Instant)

def allows : Governor × Bool :=
  ({ g with opened := prune g.opened now }, decide ((prune g.opened now).length < maxAttemptsPerHour))

def allowsCaller (key : Option ℕ) : Governor × Bool :=
  match key with
  | none =>
      ({ g with withheld := prune g.withheld now },
        decide ((prune g.withheld now).length < maxAttemptsPerWithheldPerHour))
  | some key =>
      match g.callers.get key with
      | none => (g, true)
      | some opened =>
          ({ g with callers := g.callers.modify key fun _ => prune opened now },
            decide ((prune opened now).length < maxAttemptsPerCallerPerHour))

/-- The caller seen longest ago, in the order that the table happens to be walked in. -/
def oldest (walk : List (ℕ × List Instant) → List (ℕ × List Instant)) (callers : Keyed ℕ (List Instant)) : Option ℕ :=
  (((walk callers.entries).filterMap fun e => e.2.getLast?.map fun last => (e.1, last)).argmin Prod.snd).map Prod.fst

def makeRoom (walk : List (ℕ × List Instant) → List (ℕ × List Instant)) (callers : Keyed ℕ (List Instant)) :
    Keyed ℕ (List Instant) :=
  let live := (callers.mapValues fun _ opened => prune opened now).retain fun _ opened => !opened.isEmpty
  if maxCallersTracked ≤ live.size then
    match oldest walk live with
    | some key => live.erase key
    | none => live
  else live

def noteOpened (walk : List (ℕ × List Instant) → List (ℕ × List Instant)) (key : Option ℕ) : Governor :=
  let g := { g with opened := prune g.opened now ++ [now] }
  match key with
  | none => { g with withheld := prune g.withheld now ++ [now] }
  | some key =>
      let callers := if maxCallersTracked ≤ g.callers.size ∧ g.callers.contains key = false then
        makeRoom now walk g.callers else g.callers
      { g with callers := callers.insert key (prune ((callers.get key).getD []) now ++ [now]) }

end Governor

end Aokie.Plugin.Transfer
