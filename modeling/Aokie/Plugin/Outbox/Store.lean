import Aokie.Lib.Table
import Aokie.Plugin.Outbox.Payload

/-! The outbox file: its rows and the SQL statements that write them, each of them atomic. -/

namespace Aokie.Plugin.Outbox

open Aokie.Lib

def maxAttempts : ℕ := 8
def retryWindowSecs : ℤ := 3 * 86400
def sentRetentionDays : ℤ := 7
def deadRetentionDays : ℤ := 14

inductive OutboxStatus
  | pending | sent | failed | dead
  deriving DecidableEq, Repr

/-- `status IN ('pending', 'failed')`. -/
def OutboxStatus.isLive : OutboxStatus → Bool
  | .pending | .failed => true
  | .sent | .dead => false

structure Row where
  id : ℕ
  eventName : String
  correlationId : String
  idempotencyKey : String
  target : String
  payloadJson : Text
  payloadHash : Option String
  status : OutboxStatus
  attempts : ℕ
  lastError : Option String
  createdAt : String
  updatedAt : String
  nextAttemptAt : Option String
  deriving DecidableEq, Repr

inductive Booking
  | failed (error : String)
  | emitted
  deriving DecidableEq, Repr

def Booking.status : Booking → OutboxStatus
  | .failed _ => .failed
  | .emitted => .pending

/-- The `UPDATE` statements. -/
inductive Update
  | fillQuarantined (key : String) (token : Text) (now : String)
  | markSent (key now : String)
  | book (booking : Booking) (key now next : String) (expectedAttempts : Option ℕ) (cutoff : String)
  | markDead (key reason now : String)
  | redrive (key : String)
  deriving DecidableEq, Repr

namespace Update

/-- The `WHERE` clause. -/
def applies : Update → Row → Bool
  | fillQuarantined key _ _, row =>
    row.idempotencyKey = key && row.status = .dead && like row.payloadJson quarantinedPayload
  | markSent key _, row => row.idempotencyKey = key && row.status.isLive
  | book _ key _ _ expected _, row =>
    row.idempotencyKey = key && row.status.isLive && expected.all fun n => row.attempts = n
  | markDead key _ _, row => row.idempotencyKey = key && row.status.isLive
  | redrive key, row => row.status = .dead && row.idempotencyKey = key

/-- The `SET` clause. -/
def set : Update → Row → Row
  | fillQuarantined _ token now, row =>
    { row with
      payloadJson := token, status := .pending, attempts := 0, nextAttemptAt := none, lastError := none,
      updatedAt := now }
  | markSent _ now, row => { row with status := .sent, lastError := none, updatedAt := now }
  | book booking _ now next _ cutoff, row =>
    { row with
      attempts := row.attempts + 1
      lastError := match booking with
        | .failed error => some error
        | .emitted => row.lastError
      status := if maxAttempts ≤ row.attempts + 1 ∧ row.createdAt < cutoff then .dead else booking.status
      updatedAt := now
      nextAttemptAt := some next }
  | markDead _ reason now, row => { row with status := .dead, lastError := some reason, updatedAt := now }
  | redrive _, row => { row with status := .pending, attempts := 0, nextAttemptAt := none, lastError := none }

/-- The key in the `WHERE` clause. -/
def key : Update → String
  | fillQuarantined key _ _ | markSent key _ | book _ key _ _ _ _ | markDead key _ _ | redrive key => key

variable {u : Update} {row : Row}

@[simp] lemma set_id : (u.set row).id = row.id := by
  cases u <;> rfl

@[simp] lemma set_idempotencyKey : (u.set row).idempotencyKey = row.idempotencyKey := by
  cases u <;> rfl

@[simp] lemma set_payloadHash : (u.set row).payloadHash = row.payloadHash := by
  cases u <;> rfl

@[simp] lemma set_createdAt : (u.set row).createdAt = row.createdAt := by
  cases u <;> rfl

lemma key_of_applies (h : u.applies row = true) : row.idempotencyKey = u.key := by
  cases u <;> simp_all [applies, key]

lemma not_applies_of_sent (h : row.status = .sent) : u.applies row = false := by
  cases u <;> simp [applies, h, OutboxStatus.isLive]

lemma set_payloadJson (h : u.applies row = true) :
    (u.set row).payloadJson = row.payloadJson ∨ ∃ key token now, u = fillQuarantined key token now := by
  cases u with
  | fillQuarantined key token now => exact .inr ⟨key, token, now, rfl⟩
  | markSent | book | markDead | redrive => exact .inl rfl

end Update

inductive Statement
  | insertOrIgnore (event : DesktopEvent) (target : String) (payload : Text) (status : OutboxStatus)
      (lastError : Option String) (now : String)
  | update (u : Update)
  | pruneSent (cutoff : String)
  | pruneDead (cutoff : String)
  | bumpMeta (key : String)

structure Db where
  rows : List Row := []
  nextId : ℕ := 1
  counters : List (String × ℕ) := []

namespace Db

variable (db : Db)

def find (key : String) : Option Row := db.rows.find? fun row => row.idempotencyKey = key

def hasKey (key : String) : Bool := Table.hasKey Row.idempotencyKey key db.rows

def statusOf (key : String) : Option OutboxStatus := (db.find key).map Row.status

def attemptsOf (key : String) : ℕ := ((db.find key).map Row.attempts).getD 0

/-- `value + 1` under a key that is there, else `1`. -/
def bump (key : String) : List (String × ℕ) → List (String × ℕ)
  | [] => [(key, 1)]
  | (name, n) :: rest => if name = key then (name, n + 1) :: rest else (name, n) :: bump key rest

/-- A `DELETE` that the pruning of rows of one status runs. -/
def expired (status : OutboxStatus) (cutoff : String) (row : Row) : Bool :=
  row.status = status && row.updatedAt < cutoff

def newRow (event : DesktopEvent) (target : String) (payload : Text) (status : OutboxStatus) (lastError : Option String)
    (now : String) : Row where
  id := db.nextId
  eventName := event.name
  correlationId := event.correlationId
  idempotencyKey := event.idempotencyKey
  target := target
  payloadJson := payload
  payloadHash := some (payloadFingerprint event)
  status := status
  attempts := 0
  lastError := lastError
  createdAt := now
  updatedAt := now
  nextAttemptAt := none

def exec : Statement → Db × ℕ
  | .insertOrIgnore event target payload status lastError now =>
    if db.hasKey event.idempotencyKey then (db, 0)
    else ({ db with
      rows := db.rows ++ [db.newRow event target payload status lastError now], nextId := db.nextId + 1 }, 1)
  | .update u => ({ db with rows := Table.update u.applies u.set db.rows }, db.rows.countP u.applies)
  | .pruneSent cutoff =>
    ({ db with rows := Table.delete (expired .sent cutoff) db.rows }, db.rows.countP (expired .sent cutoff))
  | .pruneDead cutoff =>
    ({ db with rows := Table.delete (expired .dead cutoff) db.rows }, db.rows.countP (expired .dead cutoff))
  | .bumpMeta key => ({ db with counters := bump key db.counters }, 1)

/-- The constraints of the table, and ids that grow. -/
structure WellFormed : Prop where
  keys : Table.UniqueKeys Row.idempotencyKey db.rows
  ids : Table.UniqueKeys Row.id db.rows
  fresh : ∀ row ∈ db.rows, row.id < db.nextId

variable {db}

lemma hasKey_iff {key : String} : db.hasKey key = true ↔ ∃ row ∈ db.rows, row.idempotencyKey = key :=
  Table.hasKey_iff

lemma WellFormed.empty : WellFormed {} where
  keys := List.nodup_nil
  ids := List.nodup_nil
  fresh := by simp

lemma WellFormed.find_of_mem (h : db.WellFormed) {row : Row} (hrow : row ∈ db.rows) :
    db.find row.idempotencyKey = some row := by
  rcases hfind : db.find row.idempotencyKey with - | found
  · simpa using List.find?_eq_none.mp hfind row hrow
  · have hkey : found.idempotencyKey = row.idempotencyKey := by simpa using List.find?_some hfind
    rw [h.keys.eq (List.mem_of_find?_eq_some hfind) hrow hkey]

lemma mem_of_find {key : String} {row : Row} (h : db.find key = some row) :
    row ∈ db.rows ∧ row.idempotencyKey = key :=
  ⟨List.mem_of_find?_eq_some h, by simpa using List.find?_some h⟩

inductive Leads : Statement → Row → Option Row → Prop
  | keeps (st : Statement) (row : Row) : Leads st row (some row)
  | updates {u : Update} {row : Row} (h : u.applies row = true) : Leads (.update u) row (some (u.set row))
  | prunesSent {cutoff : String} {row : Row} (h : expired .sent cutoff row = true) : Leads (.pruneSent cutoff) row none
  | prunesDead {cutoff : String} {row : Row} (h : expired .dead cutoff row = true) : Leads (.pruneDead cutoff) row none

lemma exec_forward (st : Statement) {row : Row} (hrow : row ∈ db.rows) :
    ∃ after, Leads st row after ∧ ∀ row' ∈ after, row' ∈ (db.exec st).1.rows := by
  cases st with
  | insertOrIgnore event target payload status lastError now =>
      refine ⟨some row, .keeps _ row, ?_⟩
      simp only [exec, Option.mem_def, Option.some.injEq, forall_eq']
      split_ifs
      · exact hrow
      · exact List.mem_append_left _ hrow
  | update u =>
      rcases happlies : u.applies row with - | -
      · exact ⟨some row, .keeps _ row, by simpa [exec] using Table.mem_update_of_not hrow happlies⟩
      · exact ⟨some (u.set row), .updates happlies, by simpa [exec] using Table.mem_update_of hrow happlies⟩
  | pruneSent cutoff =>
      rcases hexpired : expired .sent cutoff row with - | -
      · exact ⟨some row, .keeps _ row, by simpa [exec, Table.mem_delete] using ⟨hrow, hexpired⟩⟩
      · exact ⟨none, .prunesSent hexpired, by simp⟩
  | pruneDead cutoff =>
      rcases hexpired : expired .dead cutoff row with - | -
      · exact ⟨some row, .keeps _ row, by simpa [exec, Table.mem_delete] using ⟨hrow, hexpired⟩⟩
      · exact ⟨none, .prunesDead hexpired, by simp⟩
  | bumpMeta key => exact ⟨some row, .keeps _ row, by simpa [exec] using hrow⟩

lemma exec_backward {st : Statement} {row' : Row} (h : row' ∈ (db.exec st).1.rows) :
    (∃ row ∈ db.rows, Leads st row (some row')) ∨
    ∃ event target payload status lastError now, st = .insertOrIgnore event target payload status lastError now ∧
      db.hasKey event.idempotencyKey = false ∧
      row' = db.newRow event target payload status lastError now := by
  cases st with
  | insertOrIgnore event target payload status lastError now =>
      simp only [exec] at h
      split_ifs at h with hkey
      · exact .inl ⟨row', h, .keeps _ _⟩
      · rcases List.mem_append.mp h with h | h
        · exact .inl ⟨row', h, .keeps _ _⟩
        · exact .inr ⟨event, target, payload, status, lastError, now, rfl, by simpa using hkey, by simpa using h⟩
  | update u =>
      obtain ⟨row, hrow, heq⟩ := Table.mem_update.mp h
      split_ifs at heq with happlies
      · exact .inl ⟨row, hrow, heq ▸ .updates happlies⟩
      · exact .inl ⟨row, hrow, heq ▸ .keeps _ _⟩
  | pruneSent cutoff => exact .inl ⟨row', (Table.mem_delete.mp h).1, .keeps _ _⟩
  | pruneDead cutoff => exact .inl ⟨row', (Table.mem_delete.mp h).1, .keeps _ _⟩
  | bumpMeta key => exact .inl ⟨row', h, .keeps _ _⟩

lemma Leads.same {st : Statement} {row row' : Row} (h : Leads st row (some row')) :
    row'.id = row.id ∧ row'.idempotencyKey = row.idempotencyKey ∧ row'.payloadHash = row.payloadHash ∧
      row'.createdAt = row.createdAt := by
  cases h with
  | keeps => exact ⟨rfl, rfl, rfl, rfl⟩
  | updates => simp

lemma WellFormed.exec (h : db.WellFormed) (st : Statement) : (db.exec st).1.WellFormed := by
  cases st with
  | insertOrIgnore event target payload status lastError now =>
      simp only [Db.exec]
      split_ifs with hkey
      · exact h
      · refine ⟨h.keys.append hkey, h.ids.append ?_, ?_⟩
        · intro hid
          obtain ⟨row, hrow, heq⟩ := Table.hasKey_iff.mp hid
          have hlt := h.fresh row hrow
          simp only [newRow] at heq
          omega
        · intro row hrow
          rcases List.mem_append.mp hrow with hrow | hrow
          · exact Nat.lt_succ_of_lt (h.fresh row hrow)
          · obtain rfl := List.mem_singleton.mp hrow
            exact Nat.lt_succ_self _
  | update u =>
      refine ⟨h.keys.update fun _ => Update.set_idempotencyKey, h.ids.update fun _ => Update.set_id, ?_⟩
      intro row hrow
      obtain ⟨old, hold, rfl⟩ := Table.mem_update.mp hrow
      split_ifs
      · rw [Update.set_id]
        exact h.fresh old hold
      · exact h.fresh old hold
  | pruneSent cutoff =>
      exact ⟨h.keys.delete, h.ids.delete, fun row hrow => h.fresh row (Table.mem_delete.mp hrow).1⟩
  | pruneDead cutoff =>
      exact ⟨h.keys.delete, h.ids.delete, fun row hrow => h.fresh row (Table.mem_delete.mp hrow).1⟩
  | bumpMeta key => exact ⟨h.keys, h.ids, h.fresh⟩

end Db

end Aokie.Plugin.Outbox
