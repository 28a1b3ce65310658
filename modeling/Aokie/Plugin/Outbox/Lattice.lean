import Aokie.Plugin.Outbox.Effects

/-! The statuses of rows over every interleaving: what is sent stays, what is dead stays dead but for three
operations, and the operator's redrive revives only what can be delivered. -/

namespace Aokie.Plugin.Outbox

open Aokie.Lib

/-- The dead rows a running `redrive_dead` has read and has yet to revive: key and payload. -/
def Task.candidates : Task → List (String × Text)
  | redriveOpen candidate candidates _ | redriveUpdate candidate candidates _ => candidate :: candidates
  | _ => []

section Candidates

variable {sys : System} {mode : PayloadProtection} {env : Env} {v : View}

lemma candidates_redriveLoop (candidates : List (String × Text)) (revived : ℕ) :
    (redriveLoop candidates revived).task.candidates = candidates := by
  cases candidates <;> rfl

lemma Task.method_of_candidate {t : Task} {candidate : String × Text} (h : candidate ∈ t.candidates) :
    t.method = .redrive := by
  cases t <;> first | rfl | exact absurd h List.not_mem_nil

lemma Task.candidates_step {t : Task} {candidate : String × Text}
    (h : candidate ∈ (t.step sys mode env v).2.task.candidates) :
    candidate ∈ t.candidates ∨
      t.statement env = none ∧ ∃ row ∈ v.db.rows, candidate = (row.idempotencyKey, row.payloadJson) := by
  have hmethod := method_of_next (method_of_candidate h) (by decide)
  cases t with
  | redriveOpen first rest revived =>
      left
      simp only [step] at h
      split at h
      · rw [candidates_redriveLoop] at h
        exact List.mem_cons_of_mem _ h
      · exact h
  | redriveUpdate first rest revived =>
      left
      simp only [step, View.execute_snd] at h
      split_ifs at h
      · exact absurd h List.not_mem_nil
      · rw [candidates_redriveLoop] at h
        exact List.mem_cons_of_mem _ h
  | redriveSelect key =>
      right
      simp only [step, View.query_snd] at h
      split_ifs at h
      · exact absurd h List.not_mem_nil
      · rw [candidates_redriveLoop] at h
        obtain ⟨row, hrow, rfl⟩ := List.mem_map.mp h
        exact ⟨rfl, row, (List.mem_filter.mp hrow).1, rfl⟩
  | take after | sealNext _ _ _ after | fillNext _ _ _ _ after | insertNext _ _ _ _ after | putBack _ after =>
      cases after <;> simp [method, After.method] at hmethod
  | _ => simp [method] at hmethod

lemma Task.opened_of_redriveUpdate {t : Task} {candidate : String × Text} {rest : List (String × Text)} {n : ℕ}
    (h : (t.step sys mode env v).2.task = .redriveUpdate candidate rest n) :
    (sys.opened candidate.2).isSome := by
  have hmethod := method_of_next (show _ = Method.redrive by rw [h]; rfl) (by decide)
  cases t with
  | redriveOpen first rest revived =>
      simp only [step] at h
      split at h
      next =>
        cases rest <;> simp [redriveLoop, Next.task] at h
      next text htext =>
        simp only [Next.task, redriveUpdate.injEq] at h
        rw [← h.1, System.opened_of_unprotect htext]
        rfl
  | redriveUpdate first rest revived =>
      simp only [step, View.execute_snd] at h
      split_ifs at h
      · simp [Next.task] at h
      · cases rest <;> simp [redriveLoop, Next.task] at h
  | redriveSelect key =>
      simp only [step, View.query_snd] at h
      split_ifs at h
      · simp [Next.task] at h
      · generalize List.map _ _ = candidates at h
        cases candidates <;> simp [redriveLoop, Next.task] at h
  | take after | sealNext _ _ _ after | fillNext _ _ _ _ after | insertNext _ _ _ _ after | putBack _ after =>
      cases after <;> simp [method, After.method] at hmethod
  | _ => simp [method] at hmethod

end Candidates

lemma Db.opens_after {sys : System} {db : Db} {st : Statement} (hst : st.Sound sys) {key : String}
    (hopen : ∀ row ∈ db.rows, row.idempotencyKey = key → (sys.opened row.payloadJson).isSome)
    (hnew : ∀ event target lastError now, st = .insertOrIgnore event target quarantinedPayload .dead lastError now →
      db.hasKey event.idempotencyKey = false → event.idempotencyKey ≠ key) :
    ∀ row ∈ (db.exec st).1.rows, row.idempotencyKey = key → (sys.opened row.payloadJson).isSome := by
  intro row' hrow' hkey
  rcases exec_backward hrow' with ⟨row, hrow, hleads⟩ | ⟨event, target, payload, status, lastError, now,
      rfl, hfree, rfl⟩
  · have hold := hopen row hrow (hleads.same.2.1 ▸ hkey)
    cases hleads with
    | keeps => exact hold
    | updates happlies =>
        rcases Update.set_payloadJson happlies with hsame | ⟨key, token, now, rfl⟩
        · rw [hsame]
          exact hold
        · obtain ⟨event, -, hseals⟩ := hst
          simp [Update.set, hseals.opens]
  · rcases hst with ⟨-, hseals⟩ | ⟨rfl, rfl⟩
    · simp [newRow, hseals.opens]
    · exact absurd hkey (hnew event target lastError now rfl hfree)

def Statement.writesDead : Statement → Bool
  | insertOrIgnore _ _ _ .dead _ _ => true
  | _ => false

namespace World

variable {κ π : Type} {S : Setup κ π} {w : World κ π}

/-- No `insert_pending` writes a quarantine row under a key that a running `redrive_dead` has found deliverable and
has yet to revive. -/
def RedriveUndisturbed (S : Setup κ π) (w : World κ π) (i : Input κ π) : Prop :=
  ∀ event target lastError now, w.statement i =
    some (.insertOrIgnore event target quarantinedPayload .dead lastError now) →
    w.db.hasKey event.idempotencyKey = false →
    ∀ c, ∀ candidate ∈ (w.task c).candidates, candidate.1 = event.idempotencyKey → S.sys.opened candidate.2 = none

lemma undisturbed_of_not_writesDead {i : Input κ π} (h : (w.statement i).any Statement.writesDead = false) :
    RedriveUndisturbed S w i := by
  intro event target lastError now hst
  simp [hst, Statement.writesDead] at h

/-- What the redrives that run have found deliverable is so in the file. -/
structure RedriveSafe (S : Setup κ π) (w : World κ π) : Prop where
  candidates : ∀ c, ∀ candidate ∈ (w.task c).candidates, (S.sys.opened candidate.2).isSome →
    ∀ row ∈ w.db.rows, row.idempotencyKey = candidate.1 → (S.sys.opened row.payloadJson).isSome
  found : ∀ c candidate rest n, w.task c = .redriveUpdate candidate rest n → (S.sys.opened candidate.2).isSome

lemma RedriveSafe.initial (db : Db) : RedriveSafe S (initial db) where
  candidates := fun _ _ h => absurd h List.not_mem_nil
  found := fun _ _ _ _ h => by simp [World.initial, task] at h

variable [DecidableEq κ] [DecidableEq π]

lemma RedriveSafe.opens_step (hsound : Sound S w) {i : Input κ π} (hi : RedriveUndisturbed S w i) {c : κ}
    {candidate : String × Text} (hmem : candidate ∈ (w.task c).candidates)
    (hopen : (S.sys.opened candidate.2).isSome)
    (hrows : ∀ row ∈ w.db.rows, row.idempotencyKey = candidate.1 → (S.sys.opened row.payloadJson).isSome) :
    ∀ row ∈ (step S w i).1.db.rows, row.idempotencyKey = candidate.1 → (S.sys.opened row.payloadJson).isSome := by
  rw [step_db]
  rcases hst : w.statement i with - | st
  · exact hrows
  · apply Db.opens_after (hsound.statement st hst) hrows
    rintro event target lastError now rfl hfree hkey
    rw [hi event target lastError now hst hfree c candidate hmem hkey.symm] at hopen
    simp at hopen

lemma RedriveSafe.step (hsound : Sound S w) (h : RedriveSafe S w) {i : Input κ π} (hi : RedriveUndisturbed S w i) :
    RedriveSafe S (World.step S w i).1 where
  candidates := by
    intro c candidate hmem hopen
    rcases step_task (S := S) (w := w) i c with heq | ⟨-, heq⟩ | ⟨op, -, -, heq⟩ | ⟨env, rfl, heq⟩ <;> rw [heq] at hmem
    · exact opens_step hsound hi hmem hopen (h.candidates c candidate hmem hopen)
    · exact absurd hmem List.not_mem_nil
    · cases op <;> exact absurd hmem List.not_mem_nil
    · rcases Task.candidates_step hmem with hold | ⟨hnone, row, hrow, rfl⟩
      · exact opens_step hsound hi hold hopen (h.candidates c candidate hold hopen)
      · -- read in this step, which writes nothing
        have hdb : (World.step S w (.go c env)).1.db = w.db := by
          rw [step_db]
          simp [statement, hnone, Db.run]
        rw [hdb]
        intro row' hrow' hkey
        rw [hsound.db.keys.eq hrow' hrow hkey]
        exact hopen
  found := by
    intro c candidate rest n htask
    rcases step_task (S := S) (w := w) i c with heq | ⟨-, heq⟩ | ⟨op, -, -, heq⟩ | ⟨env, rfl, heq⟩ <;> rw [heq] at htask
    · exact h.found c candidate rest n htask
    · simp at htask
    · cases op <;> simp [Op.begin] at htask
    · exact Task.opened_of_redriveUpdate htask

structure KeepsLattice (S : Setup κ π) (w : World κ π) (i : Input κ π) : Prop where
  sent_stays : ∀ row ∈ w.db.rows, row.status = .sent →
    row ∈ (World.step S w i).1.db.rows ∨ ∃ cutoff, w.statement i = some (.pruneSent cutoff)
  sent_unchanged : ∀ row ∈ w.db.rows, row.status = .sent →
    ∀ row' ∈ (World.step S w i).1.db.rows, row'.id = row.id → row' = row
  dead_stays : ∀ row ∈ w.db.rows, row.status = .dead →
    (∃ row' ∈ (World.step S w i).1.db.rows, row'.id = row.id ∧ row'.status = .dead) ∨
    (∃ key, w.statement i = some (.update (.redrive key))) ∨
    (∃ key token now, w.statement i = some (.update (.fillQuarantined key token now))) ∨
    ∃ cutoff, w.statement i = some (.pruneDead cutoff)
  redrive_opens : ∀ key, w.statement i = some (.update (.redrive key)) → ∀ row ∈ w.db.rows, row.status = .dead →
    ∀ row' ∈ (World.step S w i).1.db.rows, row'.id = row.id → row'.status ≠ .dead →
      (S.sys.opened row.payloadJson).isSome
  marked : ∀ c, (World.step S w i).2 = some (c, .acked .marked) →
    ∃! row, row ∈ w.db.rows ∧ row.status.isLive = true ∧
      ∃ row' ∈ (World.step S w i).1.db.rows, row'.id = row.id ∧ row'.status = .sent

lemma sent_stays (i : Input κ π) {row : Row} (hrow : row ∈ w.db.rows) (hsent : row.status = .sent) :
    row ∈ (World.step S w i).1.db.rows ∨ ∃ cutoff, w.statement i = some (.pruneSent cutoff) := by
  rw [step_db]
  rcases w.statement i with - | st
  · exact .inl hrow
  · obtain ⟨after, hleads, hafter⟩ := Db.exec_forward st hrow
    cases hleads with
    | keeps => exact .inl (hafter row rfl)
    | updates happlies => simp [Update.not_applies_of_sent hsent] at happlies
    | prunesSent => exact .inr ⟨_, rfl⟩
    | prunesDead hexpired => simp [Db.expired, hsent] at hexpired

lemma same_id (i : Input κ π) {n : ℕ} (hn : n < w.db.nextId) {row' : Row}
    (hrow' : row' ∈ (World.step S w i).1.db.rows) (hid : row'.id = n) :
    ∃ row ∈ w.db.rows, row.id = n ∧ (row' = row ∨ ∃ st, w.statement i = some st ∧ Db.Leads st row (some row')) := by
  rw [step_db] at hrow'
  rcases hst : w.statement i with - | st <;> rw [hst] at hrow'
  · exact ⟨row', hrow', hid, .inl rfl⟩
  · rcases Db.exec_backward hrow' with ⟨row, hrow, hleads⟩ | ⟨event, target, payload, status, lastError, now, -, -, rfl⟩
    · exact ⟨row, hrow, hleads.same.1 ▸ hid, .inr ⟨st, rfl, hleads⟩⟩
    · simp only [Db.newRow] at hid
      omega

lemma nextId_le (i : Input κ π) : w.db.nextId ≤ (World.step S w i).1.db.nextId := by
  rw [step_db]
  rcases w.statement i with - | st
  · rfl
  · cases st with
    | insertOrIgnore =>
        simp only [Db.run, Db.exec]
        split_ifs
        · rfl
        · exact Nat.le_succ _
    | update | pruneSent | pruneDead | bumpMeta => rfl

lemma sent_unchanged (hdb : w.db.WellFormed) (i : Input κ π) {row : Row} (hrow : row ∈ w.db.rows)
    (hsent : row.status = .sent) : ∀ row' ∈ (World.step S w i).1.db.rows, row'.id = row.id → row' = row := by
  intro row' hrow' hid
  obtain ⟨old, hold, hidold, hcase⟩ := same_id i (hdb.fresh row hrow) hrow' hid
  obtain rfl := hdb.ids.eq hold hrow hidold
  rcases hcase with rfl | ⟨st, -, hleads⟩
  · rfl
  · cases hleads with
    | keeps => rfl
    | updates happlies => simp [Update.not_applies_of_sent hsent] at happlies

lemma dead_stays (i : Input κ π) {row : Row} (hrow : row ∈ w.db.rows) (hdead : row.status = .dead) :
    (∃ row' ∈ (World.step S w i).1.db.rows, row'.id = row.id ∧ row'.status = .dead) ∨
    (∃ key, w.statement i = some (.update (.redrive key))) ∨
    (∃ key token now, w.statement i = some (.update (.fillQuarantined key token now))) ∨
    ∃ cutoff, w.statement i = some (.pruneDead cutoff) := by
  rw [step_db]
  rcases w.statement i with - | st
  · exact .inl ⟨row, hrow, rfl, hdead⟩
  · obtain ⟨after, hleads, hafter⟩ := Db.exec_forward st hrow
    cases hleads with
    | keeps => exact .inl ⟨row, hafter row rfl, rfl, hdead⟩
    | @updates u _ happlies =>
        right
        cases u with
        | fillQuarantined key token now => exact .inr (.inl ⟨key, token, now, rfl⟩)
        | redrive key => exact .inl ⟨key, rfl⟩
        | markSent | book | markDead => simp [Update.applies, hdead, OutboxStatus.isLive] at happlies
    | prunesSent hexpired => simp [Db.expired, hdead] at hexpired
    | prunesDead => exact .inr (.inr (.inr ⟨_, rfl⟩))

lemma redrive_opens (hsound : Sound S w) (h : RedriveSafe S w) {i : Input κ π} {key : String}
    (hst : w.statement i = some (.update (.redrive key))) {row : Row} (hrow : row ∈ w.db.rows)
    (hdead : row.status = .dead) {row' : Row} (hrow' : row' ∈ (World.step S w i).1.db.rows) (hid : row'.id = row.id)
    (hlive : row'.status ≠ .dead) : (S.sys.opened row.payloadJson).isSome := by
  obtain ⟨old, hold, hidold, hcase⟩ := same_id i (hsound.db.fresh row hrow) hrow' hid
  obtain rfl := hsound.db.ids.eq hold hrow hidold
  have hkey : old.idempotencyKey = key := by
    rcases hcase with rfl | ⟨st, hst', hleads⟩
    · exact absurd hdead hlive
    · obtain rfl : Statement.update (.redrive key) = st := Option.some.inj (hst.symm.trans hst')
      cases hleads with
      | keeps => exact absurd hdead hlive
      | updates happlies => exact Update.key_of_applies happlies
  cases i with
  | start | exit => simp [statement] at hst
  | go c env =>
      simp only [statement] at hst
      split_ifs at hst
      cases htask : w.task c <;> simp [htask, Task.statement] at hst
      case redriveUpdate candidate rest n =>
        apply h.candidates c candidate _ (h.found c candidate rest n htask) old hrow
        · rw [hkey, hst]
        · rw [htask]
          exact List.mem_cons_self

lemma ack_of_marked {i : Input κ π} {c : κ} (h : (World.step S w i).2 = some (c, .acked .marked)) :
    ∃ env key, i = .go c env ∧ w.task c = .ack key ∧
      w.statement i = some (.update (.markSent key (nowIso8601 env))) ∧
      w.db.rows.countP (Update.markSent key (nowIso8601 env)).applies = 1 := by
  obtain ⟨env, rfl, hdone⟩ := step_reply h
  have hmethod := Task.reply_step hdone
  cases htask : w.task c with
  | ack key =>
      simp only [htask, Task.step, View.execute_snd] at hdone
      split_ifs at hdone with hfails hone
      · simp at hdone
      · exact ⟨env, key, rfl, rfl, by simp [statement, htask, Task.statement, hfails], hone⟩
  | ackRead key =>
      simp only [htask, Task.step, View.query_snd] at hdone
      split_ifs at hdone
      · simp at hdone
      rcases hstatus : (w.view S c).db.statusOf key with - | (_ | _ | _ | _) <;> simp [hstatus] at hdone
  | take after | sealNext _ _ _ after | fillNext _ _ _ _ after | insertNext _ _ _ _ after | putBack _ after =>
      cases after <;> simp [htask, Reply.fits, Task.method, After.method] at hmethod
  | _ => simp [htask, Reply.fits, Task.method] at hmethod

lemma marked (hdb : w.db.WellFormed) {i : Input κ π} {c : κ}
    (h : (World.step S w i).2 = some (c, .acked .marked)) :
    ∃! row, row ∈ w.db.rows ∧ row.status.isLive = true ∧
      ∃ row' ∈ (World.step S w i).1.db.rows, row'.id = row.id ∧ row'.status = .sent := by
  obtain ⟨env, key, rfl, -, hst, hone⟩ := ack_of_marked h
  have hdb' : (World.step S w (.go c env)).1.db.rows =
      Table.update (Update.markSent key (nowIso8601 env)).applies (Update.markSent key (nowIso8601 env)).set
        w.db.rows := by
    rw [step_db, hst]
    rfl
  -- the `UPDATE` changed one row, and the key is unique
  obtain ⟨row, hrow, happlies⟩ := List.countP_pos_iff.mp (show 0 < w.db.rows.countP _ by rw [hone]; exact Nat.one_pos)
  obtain ⟨hkey, hlive⟩ : row.idempotencyKey = key ∧ row.status.isLive = true := by
    simpa [Update.applies] using happlies
  refine ⟨row, ⟨hrow, hlive, (Update.markSent key (nowIso8601 env)).set row, ?_, rfl, rfl⟩, ?_⟩
  · rw [hdb']
    exact Table.mem_update_of hrow happlies
  rintro other ⟨hother, hotherLive, row', hrow', hid, hsent⟩
  rw [hdb'] at hrow'
  obtain ⟨old, hold, heq⟩ := Table.mem_update.mp hrow'
  have hsame : old = other := by
    apply hdb.ids.eq hold hother
    rw [← hid, ← heq]
    split_ifs <;> rfl
  subst hsame
  split_ifs at heq with hchanged
  · exact hdb.keys.eq hother hrow ((Update.key_of_applies hchanged).trans hkey.symm)
  · rw [heq, hsent] at hotherLive
    simp [OutboxStatus.isLive] at hotherLive

/-- In every run in which no quarantine row is written under a key that a redrive is about to revive, every step
keeps the lattice, and a row that is sent is the same row for as long as it is there. -/
theorem status_lattice (hsys : S.sys.Lawful) {db : Db} (hdb : db.WellFormed) {is : List (Input κ π)}
    (h : Machine.Along (World.step S) (RedriveUndisturbed S) (World.initial db) is) :
    Machine.Along (World.step S) (KeepsLattice S) (World.initial db) is ∧
    ∀ before after, is = before ++ after →
      ∀ row ∈ (Machine.final (World.step S) (World.initial db) before).db.rows, row.status = .sent →
      ∀ row' ∈ (Machine.final (World.step S) (World.initial db) is).db.rows, row'.id = row.id → row' = row := by
  have hinitial : Sound S (World.initial db) ∧ RedriveSafe S (World.initial db) := ⟨.initial hdb, .initial db⟩
  constructor
  · apply Machine.along_of_invariant (P := fun w => Sound S w ∧ RedriveSafe S w) _ h hinitial
    rintro w i hi ⟨hsound, hsafe⟩
    refine ⟨⟨?_, ?_, ?_, ?_, ?_⟩, hsound.step hsys i, hsafe.step hsound hi⟩
    · exact fun row hrow hsent => sent_stays i hrow hsent
    · exact fun row hrow hsent => sent_unchanged hsound.db i hrow hsent
    · exact fun row hrow hdead => dead_stays i hrow hdead
    · exact fun key hst row hrow hdead row' hrow' hid hlive =>
        redrive_opens hsound hsafe hst hrow hdead hrow' hid hlive
    · exact fun c hmarked => marked hsound.db hmarked
  · rintro before after rfl row hrow hsent
    have hsound := Machine.always (P := Sound S) (fun w i hw => hw.step hsys i) hinitial.1 before
    rw [Machine.final_append]
    generalize Machine.final (World.step S) (World.initial db) before = w at *
    -- the id is used up, and whoever carries it is the row itself
    have hnext := Machine.always (m := World.step S) (s := w)
      (P := fun w => Sound S w ∧ row.id < w.db.nextId ∧ ∀ row' ∈ w.db.rows, row'.id = row.id → row' = row) ?_
      ⟨hsound, hsound.db.fresh row hrow, fun row' hrow' hid => hsound.db.ids.eq hrow' hrow hid⟩ after
    · exact hnext.2.2
    · rintro w i ⟨hsound, hid, hrows⟩
      refine ⟨hsound.step hsys i, ?_, ?_⟩
      · exact hid.trans_le (nextId_le i)
      · intro row' hrow' hid'
        obtain ⟨old, hold, hidold, hcase⟩ := same_id i hid hrow' hid'
        obtain rfl := hrows old hold hidold
        exact sent_unchanged hsound.db i hold hsent row' hrow' hid'

section Revival

open Input

def givenUp : List (Input ℕ ℕ) :=
  [start 0 (.insertPending ringing "desktop"), go 0 (onDay 0 (.ok ())), go 0 (onDay 0 (.ok ())),
    go 0 (onDay 0 (.ok ())),
   start 0 (.markDeadTyped "call-1:incoming" "payload_unreadable: "), go 0 (onDay 0 (.ok ()))]

def foundDeliverable : List (Input ℕ ℕ) :=
  givenUp ++ [start 0 (.redriveDead none), go 0 (onDay 15 (.ok ())), go 0 (onDay 15 (.ok ()))]

set_option maxRecDepth 20000 in
theorem status_lattice_revival : Machine.Along (step (glassHouse id)) (KeepsLattice (glassHouse id)) (initial {})
    (foundDeliverable ++ [go 0 (onDay 15 (.ok ()))]) := by
  refine (status_lattice System.glass_lawful Db.WellFormed.empty ?_).1
  have hrun : Machine.Along (step (glassHouse id)) (fun w i => (w.statement i).any Statement.writesDead = false)
      (initial {}) (foundDeliverable ++ [go 0 (onDay 15 (.ok ()))]) := by decide
  exact hrun.mono fun w i h => undisturbed_of_not_writesDead h

/-- Before the row is revived it is pruned, and a process that is refused the key writes the event again. -/
def overtakenRedrive : List (Input ℕ ℕ) :=
  foundDeliverable ++ [start 2 (.pruneDead deadRetentionDays), go 2 (onDay 15 (.ok ())),
    start 1 (.insertPending ringing "desktop"), go 1 (onDay 15 (.error "locked")), go 1 (onDay 15 (.error "locked"))]

def quarantineRow : Row where
  id := 2
  eventName := "aokie.call.incoming"
  correlationId := "call-1"
  idempotencyKey := "call-1:incoming"
  target := "desktop"
  payloadJson := quarantinedPayload
  payloadHash := some (payloadFingerprint ringing)
  status := .dead
  attempts := 0
  lastError := some "payload_protect_failed: locked"
  createdAt := "2026-01-16T00:00:00.000Z"
  updatedAt := "2026-01-16T00:00:00.000Z"
  nextAttemptAt := none

set_option maxRecDepth 20000 in
theorem redrive_revives_quarantine :
    ¬Machine.Along (step (glassHouse id)) (KeepsLattice (glassHouse id)) (initial {})
      (overtakenRedrive ++ [go 0 (onDay 15 (.ok ()))]) := by
  intro h
  have hlast := (Machine.along_append.mp h).2.1
  have hopens := hlast.redrive_opens "call-1:incoming" (by rfl) quarantineRow (by decide) rfl
    { quarantineRow with status := .pending, lastError := none } (by decide) rfl (by decide)
  exact absurd hopens (by decide)

end Revival

end World

end Aokie.Plugin.Outbox
