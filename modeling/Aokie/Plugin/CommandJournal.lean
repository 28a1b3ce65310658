import Aokie.Lib.Account
import Aokie.Lib.JsonCanonical
import Aokie.Lib.Rust

/-! The journal of the commands that can touch the phone. A request is reserved before it is carried out, its result is
kept for the retries, and the plugin may be killed between any two of its steps. -/

namespace Aokie.Plugin.CommandJournal

open Aokie.Lib

structure CmdError where
  code : String
  message : String
  deriving DecidableEq

def CmdError.failed (message : String) : CmdError := ⟨"command_failed", message⟩

section Journal

variable {δ : Type} [DecidableEq δ]

/-- A row of `command_journal`, without its `accepted_at`, which nothing reads. Times are in seconds, as SQLite has
them. -/
structure Row (δ : Type) where
  command : String
  payloadHash : δ
  resultJson : Option Json
  completedAt : Option ℕ

abbrev Journal (δ : Type) := String → Option (Row δ)

inductive Prepare
  | new
  | replay (result : Json)
  | pending
  | collision

def retentionDays : ℕ := 7

/-- `canonicalize` puts the keys of every object in order. -/
def payloadHash (digest : Bytes → δ) (payload : Json) : δ := digest (intoBytes (String.ofList payload.sorted.print))

def prepare (journal : Journal δ) (requestId command : String) (hash : δ) : Journal δ × Prepare :=
  match journal requestId with
  | some row =>
    if row.command ≠ command ∨ row.payloadHash ≠ hash then (journal, .collision)
    else match row.resultJson with
      | some result => (journal, .replay result)
      | none => (journal, .pending)
  | none => (Function.update journal requestId (some ⟨command, hash, none, none⟩), .new)

def complete (journal : Journal δ) (requestId : String) (result : Json) (now : ℕ) : Journal δ :=
  match journal requestId with
  | some row =>
    if row.resultJson = none then
      Function.update journal requestId (some { row with resultJson := some result, completedAt := some now })
    else journal
  | none => journal

def abandon (journal : Journal δ) (requestId : String) : Journal δ :=
  match journal requestId with
  | some row => if row.resultJson = none then Function.update journal requestId none else journal
  | none => journal

def Row.past (days now : ℕ) (row : Row δ) : Bool :=
  row.resultJson.isSome && row.completedAt.any (· + days * 86400 < now)

def pruneCompleted (days now : ℕ) (journal : Journal δ) : Journal δ :=
  fun id => (journal id).filter fun row => !row.past days now

end Journal

section Dispatch

inductive RecvTimeoutError
  | timeout
  | disconnected

def radioOutcomeUnknown : String := "it may still carry it out, so the outcome is unknown"

def unanswered (request : String) (error : RecvTimeoutError) : String :=
  (match error with
    | .timeout => "the radio did not answer the " ++ request ++ " request in time; "
    | .disconnected => "the radio stopped before it answered the " ++ request ++ " request; ") ++ radioOutcomeUnknown

def outcomeUnknown (message : String) : Bool := decide (radioOutcomeUnknown.toList <:+: message.toList)

/-- How a command reaches the radio: its control is queued; or the radio's answer is waited for, under a name of its
own; or the control is queued and then an event is written. -/
inductive Reach
  | queued
  | answered (request : String)
  | noted
  deriving DecidableEq

/-- `is_journalled_command`, with what each command's arm does. -/
def reaches : List (String × Reach) :=
  [("dongle.reset", .answered "reset"), ("phone.startPairing", .noted), ("phone.stopPairing", .queued),
    ("phone.removePaired", .answered "removePaired"), ("phone.disconnect", .answered "disconnect"),
    ("phone.connect", .answered "connect"), ("phone.confirmPairing", .answered "confirmPairing"),
    ("call.activate", .queued),
    ("call.answer", .queued), ("call.reject", .queued), ("call.hangup", .queued), ("call.operatorSpeak", .queued),
    ("call.configureAgent", .queued), ("call.dial", .queued), ("sms.send", .queued)]

def isJournalledCommand (command : String) : Bool := (reaches.lookup command).isSome

/-- What the radio answers. It may have acted, or still act, behind an error: the runtime under it did not answer a
connect in time and has it queued, or a removal dropped the link before it failed. -/
inductive RadioReply
  | done (data : Json)
  | failed (e : CmdError) (acted : Bool)

/-- What an arm meets: it ends before it reaches the radio (a check refuses, the radio's thread is gone, or the answer
is known already), or the radio takes the control. Then the radio's answer, the event's write and the result are as
given. -/
inductive Met
  | untouched (answer : Except CmdError Json)
  | taken (radio : Except RecvTimeoutError RadioReply) (event : Except CmdError Unit) (data : Json)

/-- An arm's answer, and whether the radio may have acted. -/
structure Outcome where
  touched : Bool
  answer : Except CmdError Json

/-- `dispatch_command` for the journalled commands. -/
def dispatchCommand (command : String) : Met → Outcome
  | .untouched answer => ⟨false, answer⟩
  | .taken radio event data =>
    match reaches.lookup command with
    | some (.answered request) =>
      match radio with
      | .error e => ⟨true, .error (.failed (unanswered request e))⟩
      | .ok (.failed e acted) => ⟨acted, .error e⟩
      | .ok (.done data) => ⟨true, .ok data⟩
    | some .noted => ⟨true, event.map fun _ => data⟩
    | _ => ⟨true, .ok data⟩

end Dispatch

section Requests

variable {δ : Type} [DecidableEq δ]

structure Request where
  requestId : Option String
  command : String
  payload : Json

/-- A request that was accepted, with its outcome once it was carried out. -/
structure Running where
  requestId : String
  command : String
  outcome : Option Outcome

def Running.touched (run : Running) : Bool := run.outcome.any Outcome.touched

structure State (δ : Type) where
  journal : Journal δ
  now : ℕ
  running : Option Running

def init (now : ℕ) : State δ := ⟨fun _ => none, now, none⟩

inductive Reply
  | ok (data : Json)
  | error (err : CmdError)
  | unjournalled

def safeRequestId (id : String) : Bool :=
  let bytes := intoBytes id
  1 ≤ bytes.length && bytes.length ≤ 128 &&
    bytes.all fun b => (Char.ofNat b.toNat).isAlphanum || b == 45 || b == 95 || b == 46 || b == 58

def collided (rid : String) : CmdError :=
  .failed ("requestId \"" ++ rid ++ "\" was already used for a different command or payload")

def stillPending (rid : String) : CmdError :=
  .failed ("requestId \"" ++ rid ++
  "\" was accepted previously but completion is unknown; refusing to repeat a physical action")

/-- The journal's part of `handle_connector_request`; `fault` is its error where it cannot be used. -/
def handleConnectorRequest (digest : Bytes → δ) (s : State δ) (r : Request) (fault : Option String) :
    State δ × Option Reply :=
  if r.requestId.any (!safeRequestId ·) then (s,
    some (.error (.failed "requestId must be 1..=128 safe identifier characters")))
  else if !isJournalledCommand r.command then (s, some .unjournalled)
  else match r.requestId, fault with
    | none, _ => (s, some (.error (.failed (r.command ++ " requires requestId for durable idempotency"))))
    | some _, some e =>
        (s, some (.error (.failed ("command idempotency journal unavailable; phone was not touched: " ++ e))))
    | some rid, none =>
      match prepare s.journal rid r.command (payloadHash digest r.payload) with
      | (journal, .new) => ({ s with journal := journal, running := some ⟨rid, r.command, none⟩ }, none)
      | (_, .replay result) => (s, some (.ok result))
      | (_, .pending) => (s, some (.error (stillPending rid)))
      | (_, .collision) => (s, some (.error (collided rid)))

def stillReserved (rid : String) (e : CmdError) : CmdError :=
  ⟨e.code, e.message ++ "; requestId \"" ++ rid ++ "\" stays reserved: a retry under it is refused, not repeated"⟩

/-- `settle_journalled`; `written` says whether the journal's write went through. -/
def settleJournalled (journal : Journal δ) (now : ℕ) (rid : String) (written : Bool) :
    Except CmdError Json → Journal δ × Reply
  | .ok result => (if written then complete journal rid result now else journal, .ok result)
  | .error e =>
    if outcomeUnknown e.message then (journal, .error (stillReserved rid e))
    else (if written then abandon journal rid else journal, .error e)

inductive Step
  | request (r : Request) (fault : Option String)
  | carry (met : Met)
  | settle (written : Bool)
  | crash
  /-- At the start, and by the replay thread on its own connection. -/
  | prune
  | clock (now : ℕ)

/-- The command thread serves one request at a time; the other steps come between any two of its own. -/
def step (digest : Bytes → δ) : Machine (State δ) Step (Option Reply)
  | s, .request r fault => if s.running.isSome then (s, none) else handleConnectorRequest digest s r fault
  | s, .carry met =>
    match s.running with
    | some ⟨rid, command, none⟩ => ({ s with running := some ⟨rid, command, some (dispatchCommand command met)⟩ }, none)
    | _ => (s, none)
  | s, .settle written =>
    match s.running with
    | some ⟨rid, _, some outcome⟩ =>
      let settled := settleJournalled s.journal s.now rid written outcome.answer
      ({ s with journal := settled.1, running := none }, some settled.2)
    | _ => (s, none)
  | s, .crash => ({ s with running := none }, none)
  | s, .prune => ({ s with journal := pruneCompleted retentionDays s.now s.journal }, none)
  | s, .clock now => ({ s with now := now }, none)

end Requests

section Runs

variable {δ : Type} [DecidableEq δ] {digest : Bytes → δ} {s : State δ} {i : Step} {r : Request} {fault : Option String}
  {id rid : String} {row : Row δ}

def Row.reply (rid command : String) (hash : δ) (row : Row δ) : Reply :=
  if row.command ≠ command ∨ row.payloadHash ≠ hash then .error (collided rid)
  else match row.resultJson with
    | some result => .ok result
    | none => .error (stillPending rid)

lemma handle_of_row (hid : r.requestId = some rid) (hsafe : safeRequestId rid = true)
    (hcommand : isJournalledCommand r.command = true)
    (hrow : s.journal rid = some row) :
    handleConnectorRequest digest s r none = (s, some (row.reply rid r.command (payloadHash digest r.payload))) := by
  have hrefused : r.requestId.any (!safeRequestId ·) = false := by simp [hid, hsafe]
  have hjournalled : (!isJournalledCommand r.command) = false := by simp [hcommand]
  unfold handleConnectorRequest
  rw [hrefused, hjournalled]
  simp only [Bool.false_eq_true, if_false, hid, prepare, hrow, Row.reply]
  by_cases hother : row.command ≠ r.command ∨ row.payloadHash ≠ payloadHash digest r.payload
  · simp only [if_pos hother]
  · simp only [if_neg hother]
    cases row.resultJson <;> rfl

lemma handle_of_none (hid : r.requestId = some rid) (hsafe : safeRequestId rid = true)
    (hcommand : isJournalledCommand r.command = true)
    (hrow : s.journal rid = none) :
    handleConnectorRequest digest s r none =
      ({ s with journal := Function.update s.journal rid (some ⟨r.command, payloadHash digest r.payload, none, none⟩),
                running := some ⟨rid, r.command, none⟩ }, none) := by
  have hrefused : r.requestId.any (!safeRequestId ·) = false := by simp [hid, hsafe]
  have hjournalled : (!isJournalledCommand r.command) = false := by simp [hcommand]
  unfold handleConnectorRequest
  rw [hrefused, hjournalled]
  simp only [Bool.false_eq_true, if_false, hid, prepare, hrow]

lemma handle_cases (digest : Bytes → δ) (s : State δ) (r : Request) (fault : Option String) :
    (handleConnectorRequest digest s r fault).1 = s ∨
      ∃ rid, s.journal rid = none ∧ (handleConnectorRequest digest s r fault).1 =
        { s with journal := Function.update s.journal rid (some ⟨r.command, payloadHash digest r.payload, none, none⟩),
                 running := some ⟨rid, r.command, none⟩ } := by
  unfold handleConnectorRequest
  split_ifs
  · exact .inl rfl
  · exact .inl rfl
  · split
    · exact .inl rfl
    · exact .inl rfl
    · rename_i rid hid
      cases hrow : s.journal rid with
      | none => exact .inr ⟨rid, hrow, by simp only [prepare, hrow]⟩
      | some row =>
          left
          by_cases hother : row.command ≠ r.command ∨ row.payloadHash ≠ payloadHash digest r.payload
          · simp only [prepare, hrow, if_pos hother]
          · simp only [prepare, hrow, if_neg hother]
            cases row.resultJson <;> rfl

section Settle

omit [DecidableEq δ]

variable {journal : Journal δ}

lemma complete_of_row (hrow : journal id = some row) (hnone : row.resultJson = none) (result : Json) (now : ℕ) :
    complete journal id result now = Function.update journal id
      (some { row with resultJson := some result, completedAt := some now }) := by
  simp only [complete, hrow, hnone, if_true]

lemma complete_other (result : Json) (now : ℕ) (hne : rid ≠ id) : complete journal rid result now id = journal id := by
  cases hrow : journal rid with
  | none => simp only [complete, hrow]
  | some row =>
      simp only [complete, hrow]
      split_ifs
      · exact Function.update_of_ne hne.symm _ _
      · rfl

lemma abandon_of_row (hrow : journal id = some row) (hnone : row.resultJson = none) :
    abandon journal id = Function.update journal id none := by
  simp only [abandon, hrow, hnone, if_true]

lemma abandon_other (hne : rid ≠ id) : abandon journal rid id = journal id := by
  cases hrow : journal rid with
  | none => simp only [abandon, hrow]
  | some row =>
      simp only [abandon, hrow]
      split_ifs
      · exact Function.update_of_ne hne.symm _ _
      · rfl

lemma settle_cases (journal : Journal δ) (now : ℕ) (rid : String) (written : Bool) (answer : Except CmdError Json) :
    (settleJournalled journal now rid written answer).1 = journal ∨
    written = true ∧ ((∃ result, answer = .ok result ∧ (settleJournalled journal now rid written answer).1 =
      complete journal rid result now) ∨
      ∃ e, answer = .error e ∧ outcomeUnknown e.message = false ∧
        (settleJournalled journal now rid written answer).1 = abandon journal rid) := by
  cases answer with
  | ok result =>
      cases written with
      | false => exact .inl rfl
      | true => exact .inr ⟨rfl, .inl ⟨result, rfl, rfl⟩⟩
  | error e =>
      cases hunknown : outcomeUnknown e.message with
      | true => exact .inl (by simp only [settleJournalled, hunknown, if_true])
      | false =>
          cases written with
          | false => exact .inl (by simp [settleJournalled, hunknown])
          | true => exact .inr ⟨rfl, .inr ⟨e, rfl, hunknown, by simp [settleJournalled, hunknown]⟩⟩

end Settle

/-- The radio was handed the request, and the answer is an error that a retry is let in after. -/
def Running.forgets (run : Running) : Prop :=
  ∃ e, run.outcome = some ⟨true, .error e⟩ ∧ outcomeUnknown e.message = false

/-- The commands behind whose error the radio may have acted: the radio answers them, or an event is written after them.
-/
def Unsure (command : String) : Prop :=
  reaches.lookup command = some .noted ∨ ∃ request, reaches.lookup command = some (.answered request)

/-- What holds in every state reached: the request in hand has a row without a result. -/
structure Sound (s : State δ) : Prop where
  reserved : ∀ run, s.running = some run → ∃ row, s.journal run.requestId = some row ∧ row.command = run.command ∧
    row.resultJson = none
  forgets : ∀ run, s.running = some run → run.forgets → Unsure run.command

lemma outcomeUnknown_unanswered (request : String) (error : RecvTimeoutError) :
    outcomeUnknown (unanswered request error) = true := by
  unfold outcomeUnknown unanswered
  rw [decide_eq_true_eq, String.toList_append]
  exact (List.suffix_append _ _).isInfix

lemma forgets_dispatch {command : String} {met : Met} {e : CmdError}
    (h : dispatchCommand command met = ⟨true, .error e⟩)
    (he : outcomeUnknown e.message = false) : Unsure command := by
  cases met with
  | untouched answer => cases h
  | taken radio event data =>
      simp only [dispatchCommand] at h
      cases hreach : reaches.lookup command with
      | none =>
          rw [hreach] at h
          cases h
      | some reach =>
          rw [hreach] at h
          cases reach with
          | queued => cases h
          | noted => exact .inl hreach
          | answered request =>
              cases radio with
              | error error =>
                  obtain ⟨-, herror⟩ := Outcome.mk.inj h
                  obtain rfl := Except.error.inj herror
                  exact absurd (outcomeUnknown_unanswered request error) (by simpa [CmdError.failed] using he)
              | ok reply => exact .inr ⟨request, hreach⟩

lemma sound_step (i : Step) (hs : Sound s) : Sound (step digest s i).1 := by
  cases i with
  | request r fault =>
      simp only [step]
      split_ifs
      · exact hs
      · rcases handle_cases digest s r fault with hsame | ⟨rid, -, hnew⟩
        · rw [hsame]
          exact hs
        · rw [hnew]
          constructor
          · rintro run hrun
            obtain rfl := Option.some.inj hrun
            exact ⟨_, Function.update_self _ _ _, rfl, rfl⟩
          · rintro run hrun ⟨e, hforgets, -⟩
            obtain rfl := Option.some.inj hrun
            cases hforgets
  | carry met =>
      simp only [step]
      split
      · rename_i rid command hrun
        refine ⟨?_, ?_⟩
        · rintro run hnext
          obtain rfl := Option.some.inj hnext
          exact hs.reserved ⟨rid, command, none⟩ hrun
        · rintro run hnext ⟨e, hforgets, he⟩
          obtain rfl := Option.some.inj hnext
          exact forgets_dispatch (Option.some.inj hforgets) he
      · exact hs
  | settle written =>
      simp only [step]
      split
      · exact ⟨fun _ hrun => (by cases hrun), fun _ hrun => (by cases hrun)⟩
      · exact hs
  | crash => exact ⟨fun _ hrun => (by cases hrun), fun _ hrun => (by cases hrun)⟩
  | prune =>
      refine ⟨?_, hs.forgets⟩
      intro run hrun
      obtain ⟨row, hrow, hcommand, hnone⟩ := hs.reserved run hrun
      refine ⟨row, ?_, hcommand, hnone⟩
      simp [step, pruneCompleted, hrow, Row.past, hnone]
  | clock now => exact ⟨hs.reserved, hs.forgets⟩

omit [DecidableEq δ] in
lemma sound_init (now : ℕ) : Sound (init now : State δ) where
  reserved := fun _ hrun => by cases hrun
  forgets := fun _ hrun => by cases hrun

lemma sound_run (digest : Bytes → δ) (now : ℕ) (steps : List Step) : Sound ((step digest).final (init now) steps) :=
  Machine.always (fun _ i hs => sound_step i hs) (sound_init now) steps

lemma row_after (digest : Bytes → δ) (hs : Sound s) (hrow : s.journal id = some row) (i : Step) :
    (step digest s i).1.journal id = some row ∨
    (i = .settle true ∧ ∃ run outcome, s.running = some run ∧ run.requestId = id ∧ run.outcome = some outcome ∧
      ((∃ result, outcome.answer = .ok result ∧
          (step digest s i).1.journal id = some { row with resultJson := some result, completedAt := some s.now }) ∨
        ∃ e, outcome.answer = .error e ∧ outcomeUnknown e.message = false ∧ (step digest s i).1.journal id = none)) ∨
    (i = .prune ∧ row.past retentionDays s.now = true ∧ (step digest s i).1.journal id = none) := by
  cases i with
  | request r fault =>
      left
      simp only [step]
      split_ifs
      · exact hrow
      · rcases handle_cases digest s r fault with hsame | ⟨rid, hnone, hnew⟩
        · rw [hsame, hrow]
        · have hne : id ≠ rid := by
            rintro rfl
            rw [hrow] at hnone
            cases hnone
          rw [hnew]
          exact (Function.update_of_ne hne _ _).trans hrow
  | carry met =>
      left
      simp only [step]
      split <;> exact hrow
  | settle written =>
      simp only [step]
      split
      · rename_i rid command outcome hrun
        obtain ⟨held, hheld, -, hnone⟩ := hs.reserved _ hrun
        rcases settle_cases s.journal s.now rid written outcome.answer with hsame | ⟨rfl, hsettled⟩
        · exact .inl ((congrFun hsame id).trans hrow)
        · by_cases hid : rid = id
          · obtain rfl := hid
            obtain rfl : held = row := Option.some.inj (hheld.symm.trans hrow)
            refine .inr (.inl ⟨rfl, _, _, hrun, rfl, rfl, ?_⟩)
            rcases hsettled with ⟨result, hanswer, hnext⟩ | ⟨e, hanswer, hknown, hnext⟩
            · refine .inl ⟨result, hanswer, ?_⟩
              exact (congrFun (hnext.trans (complete_of_row hrow hnone _ _)) _).trans (Function.update_self _ _ _)
            · refine .inr ⟨e, hanswer, hknown, ?_⟩
              exact (congrFun (hnext.trans (abandon_of_row hrow hnone)) _).trans (Function.update_self _ _ _)
          · left
            rcases hsettled with ⟨result, -, hnext⟩ | ⟨e, -, -, hnext⟩
            · exact (congrFun hnext id).trans ((complete_other _ _ hid).trans hrow)
            · exact (congrFun hnext id).trans ((abandon_other hid).trans hrow)
      · exact .inl hrow
  | crash => exact .inl hrow
  | prune =>
      cases hpast : row.past retentionDays s.now with
      | true => exact .inr (.inr ⟨rfl, rfl, by simp [step, pruneCompleted, hrow, hpast]⟩)
      | false => exact .inl (by simp [step, pruneCompleted, hrow, hpast])
  | clock now => exact .inl hrow

lemma row_of_none (hs : Sound s) (hnone : s.journal id = none) (hrow : (step digest s i).1.journal id = some row) :
    row.resultJson = none := by
  cases i with
  | request r fault =>
      simp only [step] at hrow
      split_ifs at hrow
      · rw [hnone] at hrow
        cases hrow
      · rcases handle_cases digest s r fault with hsame | ⟨rid, -, hnew⟩
        · rw [hsame, hnone] at hrow
          cases hrow
        · rw [hnew] at hrow
          by_cases hid : id = rid
          · obtain rfl := hid
            have hself : Function.update s.journal id (some ⟨r.command, payloadHash digest r.payload, none, none⟩) id =
                some row := hrow
            rw [Function.update_self] at hself
            obtain rfl := Option.some.inj hself
            rfl
          · have hother := (Function.update_of_ne hid _ _).symm.trans hrow
            rw [hnone] at hother
            cases hother
  | carry met =>
      simp only [step] at hrow
      split at hrow
      · exact absurd (hnone.symm.trans hrow) (by simp)
      · exact absurd (hnone.symm.trans hrow) (by simp)
  | settle written =>
      simp only [step] at hrow
      split at hrow
      · rename_i rid command outcome hrun
        obtain ⟨held, hheld, -⟩ := hs.reserved _ hrun
        have hid : rid ≠ id := by
          rintro rfl
          exact absurd (hnone.symm.trans hheld) (by simp)
        have hkept : (settleJournalled s.journal s.now rid written outcome.answer).1 id = none := by
          rcases settle_cases s.journal s.now rid written outcome.answer with
              hsame | ⟨-, ⟨result, -, hnext⟩ | ⟨e, -, -, hnext⟩⟩
          · rw [hsame, hnone]
          · rw [hnext, complete_other _ _ hid, hnone]
          · rw [hnext, abandon_other hid, hnone]
        exact absurd (hkept.symm.trans hrow) (by simp)
      · exact absurd (hnone.symm.trans hrow) (by simp)
  | crash => exact absurd (hnone.symm.trans hrow) (by simp)
  | prune =>
      simp [step, pruneCompleted, hnone] at hrow
  | clock now => exact absurd (hnone.symm.trans hrow) (by simp)

end Runs

section Effects

variable {δ : Type} [DecidableEq δ] {digest : Bytes → δ} {s : State δ} {i : Step} {id : String} {row : Row δ}

def HandsOver (id : String) (s : State δ) (i : Step) : Prop :=
  ∃ met command, i = .carry met ∧ s.running = some ⟨id, command, none⟩ ∧ (dispatchCommand command met).touched = true

/-- The step lets an id go: its result was completed more than the retention ago and is pruned, or its request reached
the radio and is forgotten over an error, which was the radio's own or that of the event behind it. -/
def LetsGo (id : String) (s : State δ) (i : Step) : Prop :=
  (i = .prune ∧ ∃ row completedAt, s.journal id = some row ∧ row.completedAt = some completedAt ∧
    completedAt + retentionDays * 86400 < s.now) ∨
    (i = .settle true ∧ ∃ run, s.running = some run ∧ run.requestId = id ∧
      Unsure run.command ∧ run.forgets)

/-- No row speaks for the id yet, or its request was accepted and has not reached the radio. -/
def Free (id : String) (s : State δ) : Prop := s.journal id = none ∨ ∃ run, s.running = some run ∧ run.requestId = id ∧
    run.touched = false

lemma free_of_handsOver (hs : Sound s) (h : HandsOver id s i) : Free id s ∧ ¬Free id (step digest s i).1 := by
  obtain ⟨met, command, rfl, hrun, htouched⟩ := h
  refine ⟨.inr ⟨_, hrun, rfl, rfl⟩, ?_⟩
  obtain ⟨row, hrow, -⟩ := hs.reserved _ hrun
  simp only [step, hrun]
  rintro (hnone | ⟨run, hnext, -, huntouched⟩)
  · rw [show s.journal id = some row from hrow] at hnone
    cases hnone
  · obtain rfl := Option.some.inj hnext
    rw [show Running.touched ⟨id, command, some (dispatchCommand command met)⟩ =
      (dispatchCommand command met).touched from rfl, htouched] at huntouched
    cases huntouched

omit [DecidableEq δ] in
lemma past_spec {now : ℕ} (h : row.past retentionDays now = true) :
    ∃ completedAt, row.completedAt = some completedAt ∧ completedAt + retentionDays * 86400 < now := by
  simp only [Row.past, Bool.and_eq_true, Option.any_eq_true, decide_eq_true_eq] at h
  obtain ⟨-, completedAt, hcompleted, hlt⟩ := h
  exact ⟨completedAt, hcompleted, hlt⟩

lemma running_after {run : Running} (hrun : (step digest s i).1.running = some run) :
    s.running = some run ∨ s.journal run.requestId = none ∨ ∃ command,
      s.running = some ⟨run.requestId, command, none⟩ := by
  cases i with
  | request r fault =>
      simp only [step] at hrun
      split_ifs at hrun
      · exact .inl hrun
      · rcases handle_cases digest s r fault with hsame | ⟨rid, hnone, hnew⟩
        · rw [hsame] at hrun
          exact .inl hrun
        · rw [hnew] at hrun
          obtain rfl := Option.some.inj hrun
          exact .inr (.inl hnone)
  | carry met =>
      simp only [step] at hrun
      split at hrun
      · rename_i rid command hbefore
        obtain rfl := Option.some.inj hrun
        exact .inr (.inr ⟨command, hbefore⟩)
      · exact .inl hrun
  | settle written =>
      simp only [step] at hrun
      split at hrun
      · cases hrun
      · exact .inl hrun
  | crash => cases hrun
  | prune => exact .inl hrun
  | clock now => exact .inl hrun

lemma running_settle {written : Bool} {run : Running} {outcome : Outcome} (hrun : s.running = some run)
    (houtcome : run.outcome = some outcome) :
    (step digest s (.settle written)).1.running = none := by
  obtain ⟨rid, command, done⟩ := run
  obtain rfl : done = some outcome := houtcome
  simp only [step, hrun]

lemma letsGo_of_free (hs : Sound s) (hheld : ¬Free id s) (hfree : Free id (step digest s i).1) : LetsGo id s i := by
  rw [Free, not_or] at hheld
  obtain ⟨hsome, hidle⟩ := hheld
  obtain ⟨row, hrow⟩ := Option.ne_none_iff_exists'.1 hsome
  rcases row_after digest hs hrow i with hkept | ⟨rfl, run, outcome, hrun, hid, houtcome, hsettled⟩ | ⟨rfl, hpast, -⟩
  · -- the row is there, so a request in hand would have come to it free
    rcases hfree with hnone | ⟨run, hrun, hid, huntouched⟩
    · rw [hkept] at hnone
      cases hnone
    · rcases running_after hrun with hsame | hnone | ⟨command, hbefore⟩
      · exact absurd ⟨run, hsame, hid, huntouched⟩ hidle
      · rw [hid, hrow] at hnone
        cases hnone
      · exact absurd ⟨_, hbefore, hid, rfl⟩ hidle
  · rcases hsettled with ⟨result, -, hkept⟩ | ⟨e, hanswer, he, -⟩
    · rcases hfree with hnone | ⟨next, hnext, -, -⟩
      · rw [hkept] at hnone
        cases hnone
      · rw [running_settle hrun houtcome] at hnext
        cases hnext
    · -- only a touched request was not free, and its error then follows its touch
      have htouched : outcome.touched = true := by
        by_contra huntouched
        refine hidle ⟨run, hrun, hid, ?_⟩
        simpa [Running.touched, houtcome] using huntouched
      have hforgets : run.forgets := by
        refine ⟨e, ?_, he⟩
        rw [houtcome, ← htouched, ← hanswer]
      exact .inr ⟨rfl, run, hrun, hid, hs.forgets run hrun hforgets, hforgets⟩
  · obtain ⟨completedAt, hcompleted, hlt⟩ := past_spec hpast
    exact .inl ⟨rfl, row, completedAt, hrow, hcompleted, hlt⟩

/-- Whatever comes between the steps of the requests, from any state reached on an id's effect is handed to the radio
once more at most than the id is let go. -/
theorem handed_over_once (digest : Bytes → δ) (now : ℕ) (before after : List Step) (id : String) :
    (step digest).count (HandsOver id) ((step digest).final (init now) before) after ≤
      1 + (step digest).count (LetsGo id) ((step digest).final (init now) before) after := by
  have hbound := Machine.uses_le_grants (m := step digest) (F := Free id) (U := HandsOver id) (G := LetsGo id)
      (fun _ i hs => sound_step i hs)
    (fun _ _ hs huse => free_of_handsOver hs huse) (fun _ _ hs hheld hfree => letsGo_of_free hs hheld hfree)
      (sound_run digest now before) after
  split_ifs at hbound
  · exact hbound
  · omega

/-- The row speaks for its id, and no request under the id is in hand. -/
structure Settled (id : String) (row : Row δ) (s : State δ) : Prop where
  row : s.journal id = some row
  idle : ∀ run, s.running = some run → run.requestId ≠ id

def Retained (row : Row δ) (s : State δ) (i : Step) : Prop :=
  i = .prune → ∀ completedAt ∈ row.completedAt, s.now ≤ completedAt + retentionDays * 86400

lemma settled_step (hs : Sound s) (hsettled : Settled id row s) (hretained : Retained row s i) :
    Settled id row (step digest s i).1 := by
  constructor
  · rcases row_after digest hs hsettled.row i with hkept | ⟨-, run, -, hrun, hid, -⟩ | ⟨hprune, hpast, -⟩
    · exact hkept
    · exact absurd hid (hsettled.idle run hrun)
    · obtain ⟨completedAt, hcompleted, hlt⟩ := past_spec hpast
      exact absurd (hretained hprune completedAt hcompleted) (by omega)
  · rintro run hrun hid
    rcases running_after hrun with hsame | hnone | ⟨command, hbefore⟩
    · exact hsettled.idle run hsame hid
    · rw [hid, hsettled.row] at hnone
      cases hnone
    · exact hsettled.idle _ hbefore hid

lemma result_of_settle (now : ℕ) (steps : List Step) {row : Row δ} {result : Json}
    (hrow : ((step digest).final (init now) steps).journal id = some row) (hresult : row.resultJson = some result) :
    ∃ front rest touched, steps = front ++ .settle true :: rest ∧
      ((step digest).final (init now) front).running = some ⟨id, row.command, some ⟨touched, .ok result⟩⟩ := by
  induction steps using List.reverseRecOn generalizing row with
  | nil => cases hrow
  | append_singleton steps i ih =>
      have hs := sound_run digest now steps
      rw [Machine.final_append, Machine.final_cons, Machine.final_nil] at hrow
      have hearlier : ∀ {old : Row δ}, ((step digest).final (init now) steps).journal id = some old → old = row →
          ∃ front rest touched,
          steps ++ [i] = front ++ .settle true :: rest ∧
            ((step digest).final (init now) front).running = some ⟨id, row.command, some ⟨touched, .ok result⟩⟩ := by
        rintro old hold rfl
        obtain ⟨front, rest, touched, rfl, hrun⟩ := ih hold hresult
        exact ⟨front, rest ++ [i], touched, by simp, hrun⟩
      cases hold : ((step digest).final (init now) steps).journal id with
      | none =>
          rw [row_of_none hs hold hrow] at hresult
          cases hresult
      | some old =>
          rcases row_after digest hs hold i with hkept | ⟨rfl, run, outcome, hrun, hid, houtcome, hsettled⟩ |
              ⟨-, -, hgone⟩
          · exact hearlier hold (Option.some.inj (hkept.symm.trans hrow))
          · rcases hsettled with ⟨result', hanswer, hnext⟩ | ⟨e, -, -, hgone⟩
            · obtain rfl := Option.some.inj (hnext.symm.trans hrow)
              obtain rfl := Option.some.inj hresult
              obtain ⟨held, hheld, hcommand, -⟩ := hs.reserved run hrun
              rw [hid, hold] at hheld
              obtain rfl := Option.some.inj hheld
              refine ⟨steps, [], outcome.touched, rfl, ?_⟩
              rw [hrun, ← hanswer, ← hid, hcommand, ← houtcome]
            · rw [hgone] at hrow
              cases hrow
          · rw [hgone] at hrow
            cases hrow

omit [DecidableEq δ] in
lemma payloadHash_eq (digest : Bytes → δ) {v w : Json} (hv : v.Distinct) (hw : w.Distinct) (hsame : v.Same w) :
    payloadHash digest v = payloadHash digest w := by
  rw [payloadHash, payloadHash, (Json.same_iff v w hv hw).1 hsame]

/-- A row under which no request is in hand speaks for its id until it is past its time: nothing is handed to the radio
under the id, and each request gets the row's reply, which depends on the payload as JSON only. A result it replays is
the answer of the request that was settled with it. -/
theorem settled_row_replies {now : ℕ} {before after : List Step} {row : Row δ}
    (hsettled : Settled id row ((step digest).final (init now) before))
    (hretained : (step digest).Along (Retained row) ((step digest).final (init now) before) after) :
    (step digest).Along (fun s i => ¬HandsOver id s i ∧
        ∀ r payload, i = .request r none → s.running = none → r.requestId = some id → safeRequestId id = true →
          isJournalledCommand r.command = true → r.payload.Distinct → payload.Distinct → r.payload.Same payload →
            step digest s i = (s, some (row.reply id r.command (payloadHash digest payload))))
      ((step digest).final (init now) before) after ∧
    Settled id row ((step digest).final (init now) (before ++ after)) ∧
    ∀ result, row.resultJson = some result → ∃ front rest touched, before = front ++ .settle true :: rest ∧
      ((step digest).final (init now) front).running = some ⟨id, row.command, some ⟨touched, .ok result⟩⟩ := by
  have hs := sound_run digest now before
  refine ⟨?_, ?_, fun result hresult => result_of_settle now before hsettled.row hresult⟩
  · refine Machine.along_of_invariant (P := fun s => Sound s ∧ Settled id row s) ?_ hretained ⟨hs, hsettled⟩
    rintro s i hkept ⟨hs, hsettled⟩
    refine ⟨⟨?_, ?_⟩, sound_step i hs, settled_step hs hsettled hkept⟩
    · rintro ⟨met, command, -, hrun, -⟩
      exact hsettled.idle _ hrun rfl
    · rintro r payload rfl hidle hid hsafe hcommand hdistinct hdistinct' hsame
      rw [← payloadHash_eq digest hdistinct hdistinct' hsame]
      simp only [step, hidle, Option.isSome_none, Bool.false_eq_true, if_false]
      exact handle_of_row hid hsafe hcommand hsettled.row
  · rw [Machine.final_append]
    exact (Machine.invariant (P := fun s => Sound s ∧ Settled id row s)
      (fun s i hkept hboth => ⟨sound_step i hboth.1, settled_step hboth.1 hboth.2 hkept⟩) hretained ⟨hs, hsettled⟩).2

/-- What SHA-256 gives for the payload `null`. -/
def sampleDigest (_ : Bytes) : Bytes :=
  [116, 35, 78, 152, 175, 231, 73, 143, 181, 218, 241, 243, 106, 194, 215, 138, 204, 51, 148, 100, 249, 80, 112, 59,
    140, 1, 152, 146,
    249, 130, 185, 11]

def sampleRequest : Request := ⟨some "r-1", "call.hangup", .null⟩

def sampleSteps : List Step :=
  [.request sampleRequest none, .carry (.taken (.error .timeout) (.ok ()) (.bool true)), .settle true]

def sampleRow : Row Bytes := ⟨"call.hangup", payloadHash sampleDigest .null, some (.bool true), some 100⟩

lemma sample_final : (step sampleDigest).final (init 100) sampleSteps =
    ⟨Function.update (fun _ => none) "r-1" (some sampleRow), 100, none⟩ := by
  have hreserved : handleConnectorRequest sampleDigest (init 100) sampleRequest none =
      (⟨Function.update (fun _ => none) "r-1" (some ⟨"call.hangup", payloadHash sampleDigest .null, none, none⟩), 100,
        some ⟨"r-1", "call.hangup", none⟩⟩, none) :=
    handle_of_none (s := init 100) (show sampleRequest.requestId = some "r-1" from rfl) (by decide) (by decide) rfl
  have hcarried : dispatchCommand "call.hangup" (.taken (.error .timeout) (.ok ()) (.bool true)) =
      ⟨true, .ok (.bool true)⟩ := by
    simp [dispatchCommand, reaches, List.lookup_cons]
  have hfirst : (step sampleDigest (init 100) (.request sampleRequest none)).1 =
      (handleConnectorRequest sampleDigest (init 100) sampleRequest none).1 := rfl
  rw [sampleSteps, Machine.final_cons, hfirst, hreserved]
  simp only [Machine.final_cons, Machine.final_nil, step, hcarried, settleJournalled, complete,
    Function.update_self, if_true,
    Function.update_idem]
  rfl

theorem retry_gets_the_first_answer :
    (step sampleDigest ((step sampleDigest).final (init 100) sampleSteps) (.request sampleRequest none)).2 =
      some (.ok (.bool true)) := by
  have hsettled : Settled "r-1" sampleRow ((step sampleDigest).final (init 100) sampleSteps) := by
    rw [sample_final]
    constructor
    · simp only [Function.update_self]
    · rintro run ⟨⟩
  have hretained : (step sampleDigest).Along (Retained sampleRow) ((step sampleDigest).final (init 100) sampleSteps)
      [.request sampleRequest none] := by
    simp [Retained]
  have hidle : ((step sampleDigest).final (init 100) sampleSteps).running = none := by rw [sample_final]
  have hreply := (settled_row_replies hsettled hretained).1.1.2 sampleRequest .null rfl hidle rfl (by decide)
      (by decide) trivial trivial trivial
  rw [hreply]
  simp [Row.reply, sampleRow, sampleRequest]

end Effects

end Aokie.Plugin.CommandJournal
