import Aokie.Lib.Run
import Aokie.Plugin.Outbox.Store

/-! The outbox's methods as threads of many processes run them on one file. A thread steps from one SQL statement,
seal or lock of `HELD_SEALS` to the next; between two of its steps any other thread may step. -/

namespace Aokie.Plugin.Outbox

open Aokie.Lib

structure HeldSeal where
  event : DesktopEvent
  target : String

def maxHeldSeals : ℕ := 1000

def resealEvery : Duration := 5 * 1000000000

inductive AckOutcome
  | marked | alreadySent | refusedTerminal | unknown
  deriving DecidableEq, Repr

inductive InsertOutcome
  | inserted | duplicate | payloadCollision | quarantinedProtectFailed
  deriving DecidableEq, Repr

/-- The locals of `insert_pending` once the event is sealed, or is not. -/
structure Draft where
  event : DesktopEvent
  target : String
  now : String
  payload : Text
  status : OutboxStatus
  lastError : Option String

inductive Reading
  | retryable | dueForRetry
  deriving DecidableEq, Repr

/-- What goes on after `reseal_held`. -/
inductive After
  | insert (draft : Draft)
  | read (reading : Reading) (limit : ℕ)

inductive Task
  | idle
  -- insert_pending
  | sealing (event : DesktopEvent) (target : String)
  | write (draft : Draft)
  | countFailure (draft : Draft)
  | hold (draft : Draft)
  | readExisting (draft : Draft)
  | fill (draft : Draft)
  | forget (draft : Draft)
  | countCollision (draft : Draft)
  -- reseal_held
  | take (after : After)
  | sealNext (held : HeldSeal) (mine waiting : List HeldSeal) (after : After)
  | fillNext (held : HeldSeal) (token : Text) (mine waiting : List HeldSeal) (after : After)
  | insertNext (held : HeldSeal) (token : Text) (mine waiting : List HeldSeal) (after : After)
  | putBack (waiting : List HeldSeal) (after : After)
  -- mark_sent, mark_failed, mark_emitted, mark_dead_typed
  | ack (key : String)
  | ackRead (key : String)
  | readAttempts (booking : Booking) (key : String) (expectedAttempts : Option ℕ)
  | book (booking : Booking) (key next : String) (expectedAttempts : Option ℕ)
  | bookRead (booking : Booking) (key : String)
  | markDead (key reason : String)
  -- redrive_dead
  | redriveSelect (key : Option String)
  | redriveOpen (candidate : String × Text) (candidates : List (String × Text)) (revived : ℕ)
  | redriveUpdate (candidate : String × Text) (candidates : List (String × Text)) (revived : ℕ)
  -- retryable, due_for_retry
  | readStart (reading : Reading) (limit : ℕ)
  | select (reading : Reading) (limit : ℕ)
  | openPayloads (raw : List Row)
  | openNext (row : Row) (raw out : List Row)
  | testSeal (row : Row) (error : String) (raw out : List Row)
  | deadLetter (row : Row) (error : String) (raw out : List Row)
  -- prune_sent, prune_dead
  | pruneSent (days : ℤ)
  | pruneDead (days : ℤ)

inductive Op
  | insertPending (event : DesktopEvent) (target : String)
  | markSent (key : String)
  | markFailed (key error : String) (expectedAttempts : Option ℕ)
  | markEmitted (key : String) (expectedAttempts : Option ℕ)
  | markDeadTyped (key reason : String)
  | redriveDead (key : Option String)
  | retryable (limit : ℕ)
  | dueForRetry (limit : ℕ)
  | pruneSent (days : ℤ)
  | pruneDead (days : ℤ)

def Op.begin : Op → Task
  | insertPending event target => .sealing event target
  | markSent key => .ack key
  | markFailed key error expected => .readAttempts (.failed error) key expected
  | markEmitted key expected => .readAttempts .emitted key expected
  | markDeadTyped key reason => .markDead key reason
  | redriveDead key => .redriveSelect key
  | retryable limit => .readStart .retryable limit
  | dueForRetry limit => .readStart .dueForRetry limit
  | pruneSent days => .pruneSent days
  | pruneDead days => .pruneDead days

inductive Reply
  | failed
  | inserted (outcome : InsertOutcome)
  | acked (outcome : AckOutcome)
  | status (status : OutboxStatus)
  | markedDead
  | revived (n : ℕ)
  | rows (out : List Row)
  | pruned (n : ℕ)
  deriving DecidableEq, Repr

inductive Next
  | run (task : Task)
  | done (reply : Reply)

def Next.task : Next → Task
  | run task => task
  | done _ => .idle

def Next.reply : Next → Option Reply
  | run _ => none
  | done reply => some reply

/-- What a thread's step reads and writes: the file, its process's `HELD_SEALS` and its connection's own cells. -/
structure View where
  db : Db
  held : List HeldSeal
  keyWait : Option (Instant × ℕ)
  resealedAt : Option Instant

def After.task : After → Task
  | insert draft => .write draft
  | read reading limit => .select reading limit

/-- `1u64.checked_shl(attempts).unwrap_or(u64::MAX).min(300)`. -/
def backoffSecs (attempts : ℕ) : ℕ := min (if attempts < 64 then 2 ^ attempts else 2 ^ 64 - 1) 300

def keyPause (tries : ℕ) : Duration := min (15 * 2 ^ min tries 5) 300 * 1000000000

/-- `hold_for_seal`. -/
def holdForSeal (held : List HeldSeal) (event : DesktopEvent) (target : String) : List HeldSeal :=
  match held.findIdx? fun h => h.event.idempotencyKey = event.idempotencyKey with
  | some i => held.modify i fun h => { h with event := event }
  | none => if maxHeldSeals ≤ held.length then held else held ++ [⟨event, target⟩]

/-- `forget_held`. -/
def forgetHeld (held : List HeldSeal) (key : String) : List HeldSeal :=
  held.filter fun h => h.event.idempotencyKey != key

/-- The next round of the loop of `reseal_held`, or what follows it. -/
def resealLoop (mine waiting : List HeldSeal) (after : After) : Task :=
  match mine with
  | held :: mine => .sealNext held mine waiting after
  | [] => if waiting.isEmpty then after.task else .putBack waiting after

/-- The next round of the loop of `redrive_dead`, or its end. -/
def redriveLoop (candidates : List (String × Text)) (revived : ℕ) : Next :=
  match candidates with
  | candidate :: candidates => .run (.redriveOpen candidate candidates revived)
  | [] => .done (.revived revived)

/-- The next round of the loop of `open_payloads`, or its end. -/
def openLoop (raw out : List Row) : Next :=
  match raw with
  | row :: raw => .run (.openNext row raw out)
  | [] => .done (.rows out)

/-- The rows of `SELECT … WHERE status IN ('pending', 'failed') … ORDER BY id ASC LIMIT`. -/
def Db.readable (db : Db) (due : Row → Bool) (limit : ℕ) : List Row :=
  ((db.rows.filter fun row => row.status.isLive && due row).mergeSort fun a b => a.id ≤ b.id).take limit

section Step

variable (sys : System) (mode : PayloadProtection) (env : Env) (v : View)

/-- A statement with `?` behind it. -/
def View.execute (st : Statement) (k : ℕ → Next) : View × Next :=
  if env.sqlFails then (v, .done .failed)
  else ({ v with db := (v.db.exec st).1 }, k (v.db.exec st).2)

/-- A `SELECT` with `?` behind it. -/
def View.query (k : Next) : View × Next :=
  if env.sqlFails then (v, .done .failed) else (v, k)

/-- What `insert_pending` does before its first statement. -/
def sealEvent (event : DesktopEvent) (target : String) : Next :=
  match sys.protectPayload env mode (eventToString event) with
  | .ok token => .run (.take (.insert ⟨event, target, nowIso8601 env, token, .pending, none⟩))
  | .error e => .run (.write ⟨event, target, nowIso8601 env, quarantinedPayload, .dead,
      some ("payload_protect_failed: " ++ e)⟩)

/-- `insert_pending` over a row that is there. -/
def existing (draft : Draft) (row : Option Row) : Next :=
  match row.bind Row.payloadHash with
  | none => .done (.inserted .duplicate)
  | some h =>
    if h = payloadFingerprint draft.event then
      if row.any fun row => startsWith row.payloadJson quarantinedPayload then
        if draft.status = .pending then .run (.fill draft) else .run (.hold draft)
      else .done (.inserted .duplicate)
    else .run (.countCollision draft)

def dueBy (reading : Reading) (row : Row) : Bool :=
  match reading with
  | .retryable => true
  | .dueForRetry => row.nextAttemptAt.all fun next => next ≤ nowIso8601 env

def Task.step : Task → View × Next
  | idle => (v, .run .idle)
  | sealing event target => (v, sealEvent sys mode env event target)
  | write draft =>
    v.execute env
      (.insertOrIgnore draft.event draft.target draft.payload draft.status draft.lastError draft.now) fun inserted =>
        if inserted = 1 then
          if draft.status = .dead then .run (.countFailure draft) else .done (.inserted .inserted)
        else .run (.readExisting draft)
  | countFailure draft => v.execute env (.bumpMeta "protect_failures") fun _ => .run (.hold draft)
  | hold draft =>
    ({ v with held := holdForSeal v.held draft.event draft.target }, .done (.inserted .quarantinedProtectFailed))
  | readExisting draft => v.query env (existing draft (v.db.find draft.event.idempotencyKey))
  | fill draft =>
    v.execute env (.update (.fillQuarantined draft.event.idempotencyKey draft.payload (nowIso8601 env)))
      fun filled => if filled = 1 then .run (.forget draft) else .run (.hold draft)
  | forget draft =>
    ({ v with held := forgetHeld v.held draft.event.idempotencyKey }, .done (.inserted .inserted))
  | countCollision _ => v.execute env (.bumpMeta "payload_collisions") fun _ => .done (.inserted .payloadCollision)
  | take after => ({ v with held := [] }, .run (resealLoop v.held [] after))
  | sealNext held mine waiting after =>
    match sys.protectPayload env mode (eventToString held.event) with
    | .ok token => (v, .run (.fillNext held token mine waiting after))
    -- the loop goes on without sealing: everything left waits
    | .error _ => (v, .run (resealLoop [] (waiting ++ held :: mine) after))
  | fillNext held token mine waiting after =>
    if env.sqlFails then (v, .run (resealLoop mine (waiting ++ [held]) after))
    else v.execute env (.update (.fillQuarantined held.event.idempotencyKey token (nowIso8601 env)))
      fun filled =>
        if filled = 1 then .run (resealLoop mine waiting after) else .run (.insertNext held token mine waiting after)
  | insertNext held token mine waiting after =>
    if env.sqlFails then (v, .run (resealLoop mine (waiting ++ [held]) after))
    else v.execute env
      (.insertOrIgnore held.event held.target token .pending none (nowIso8601 env))
      fun _ => .run (resealLoop mine waiting after)
  | putBack waiting after => ({ v with held := waiting ++ v.held }, .run after.task)
  | ack key =>
    v.execute env (.update (.markSent key (nowIso8601 env))) fun changed =>
      if changed = 1 then .done (.acked .marked) else .run (.ackRead key)
  | ackRead key =>
    v.query env (.done (.acked (match v.db.statusOf key with
      | some .sent => .alreadySent
      | some _ => .refusedTerminal
      | none => .unknown)))
  | readAttempts booking key expected =>
    v.query env (.run (.book booking key (iso8601AfterSecs env (backoffSecs (v.db.attemptsOf key))) expected))
  | book booking key next expected =>
    v.execute env (.update (.book booking key (nowIso8601 env) next expected
      (iso8601AfterSecs env (-retryWindowSecs)))) fun _ => .run (.bookRead booking key)
  | bookRead booking key => v.query env (.done (.status ((v.db.statusOf key).getD booking.status)))
  | markDead key reason =>
    v.execute env (.update (.markDead key reason (nowIso8601 env))) fun _ => .done .markedDead
  | redriveSelect key =>
    v.query env (redriveLoop ((v.db.rows.filter fun row => row.status = .dead && key.all (row.idempotencyKey = ·)).map
      fun row => (row.idempotencyKey, row.payloadJson)) 0)
  | redriveOpen candidate candidates revived =>
    match sys.unprotectPayload env.key candidate.2 with
    | .error _ => (v, redriveLoop candidates revived)
    | .ok _ => (v, .run (.redriveUpdate candidate candidates revived))
  | redriveUpdate candidate candidates revived =>
    v.execute env (.update (.redrive candidate.1)) fun n => redriveLoop candidates (revived + n)
  | readStart reading limit =>
    if (v.keyWait.any fun wait => env.instant < wait.1) ∨
      (v.resealedAt.any fun at_ => env.instant < at_ + resealEvery) ∨
        v.held.isEmpty then (v, .run (.select reading limit))
    else ({ v with resealedAt := some env.instant }, .run (.take (.read reading limit)))
  | select reading limit => v.query env (.run (.openPayloads (v.db.readable (dueBy env reading) limit)))
  | openPayloads raw =>
    if v.keyWait.any fun wait => env.instant < wait.1 then (v, .done (.rows [])) else (v, openLoop raw [])
  | openNext row raw out =>
    match sys.unprotectPayload env.key row.payloadJson with
    | .ok plain => ({ v with keyWait := none }, openLoop raw (out ++ [{ row with payloadJson := plain }]))
    | .error e =>
      if System.isSealed row.payloadJson then (v, .run (.testSeal row e raw out))
      else (v, .run (.deadLetter row e raw out))
  | testSeal row e raw out =>
    match sys.protectPayload env mode [] with
    | .ok _ => (v, .run (.deadLetter row e raw out))
    | .error _ =>
      let tries := (v.keyWait.map Prod.snd).getD 0 + 1
      ({ v with keyWait := some (env.instant + keyPause tries, tries) }, .done (.rows out))
  | deadLetter row e raw out =>
    -- `let _ = self.mark_dead_typed(..)`
    if env.sqlFails then (v, openLoop raw out)
    else v.execute env (.update (.markDead row.idempotencyKey ("payload_unreadable: " ++ e) (nowIso8601 env)))
      fun _ => openLoop raw out
  | pruneSent days =>
    v.execute env (.pruneSent (iso8601AfterSecs env (-days * 86400))) fun n => .done (.pruned n)
  | pruneDead days =>
    v.execute env (.pruneDead (iso8601AfterSecs env (-(days * 86400)))) fun n => .done (.pruned n)

end Step

/-- A connection: its cells and what its thread is doing. -/
structure Conn where
  keyWait : Option (Instant × ℕ) := none
  resealedAt : Option Instant := none
  task : Task := .idle

/-- Which process each connection is in, and which processes store plaintext by override. -/
structure Setup (κ π : Type) where
  sys : System
  process : κ → π
  allowUnprotected : π → Bool

def Setup.mode {κ π : Type} (S : Setup κ π) (c : κ) : PayloadProtection :=
  S.sys.platformProtection (S.allowUnprotected (S.process c))

structure World (κ π : Type) where
  db : Db
  held : π → List HeldSeal
  conns : κ → Conn

inductive Input (κ π : Type)
  | start (c : κ) (op : Op)
  | go (c : κ) (env : Env)
  | exit (p : π)

namespace World

variable {κ π : Type} [DecidableEq κ] [DecidableEq π] (S : Setup κ π) (w : World κ π)

def task (c : κ) : Task := (w.conns c).task

def view (c : κ) : View where
  db := w.db
  held := w.held (S.process c)
  keyWait := (w.conns c).keyWait
  resealedAt := (w.conns c).resealedAt

def store (c : κ) (v : View) (next : Next) : World κ π where
  db := v.db
  held := Function.update w.held (S.process c) v.held
  conns := Function.update w.conns c ⟨v.keyWait, v.resealedAt, next.task⟩

/-- One step of one thread, a call that begins, or a process that ends. A connection that is at work begins
nothing. -/
def step : Machine (World κ π) (Input κ π) (Option (κ × Reply)) := fun w input =>
  match input with
  | .start c op =>
    match w.task c with
    | .idle => ({ w with conns := Function.update w.conns c { w.conns c with task := op.begin } }, none)
    | _ => (w, none)
  | .go c env =>
    let (v, next) := (w.task c).step S.sys (S.mode c) env (w.view S c)
    (w.store S c v next, next.reply.map fun reply => (c, reply))
  | .exit p =>
    ({ w with
      held := Function.update w.held p []
      conns := fun c => if S.process c = p then {} else w.conns c }, none)

def initial (db : Db) : World κ π where
  db := db
  held := fun _ => []
  conns := fun _ => {}

end World

/-- Connections on the glass keyring, each in the process it is said to be in. -/
def glassHouse {κ π : Type} (process : κ → π) : Setup κ π where
  sys := .glass
  process := process
  allowUnprotected := fun _ => false

def ringing : DesktopEvent where
  schemaVersion := 1
  source := "aokie"
  name := "aokie.call.incoming"
  correlationId := "call-1"
  idempotencyKey := "call-1:incoming"
  occurredAt := "2026-01-01T00:00:00.000Z"
  data := .object []
  pluginId := none
  connectorId := none
  severity := none

/-- A moment some days after the start of 2026, with the key given or refused. -/
def onDay (day : ℤ) (key : Except String Unit) : Env where
  now := 1767225600000 + day * 86400000
  instant := day.toNat * 86400000000000
  key := key
  nonce := 0
  sqlFails := false

end Aokie.Plugin.Outbox
