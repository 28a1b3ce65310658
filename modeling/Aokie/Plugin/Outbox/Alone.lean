import Aokie.Plugin.Outbox.Content
import Aokie.Plugin.Outbox.Held

/-! A method that runs while no other thread uses the outbox: `insert_pending` always returns, and what it does to the
content under a key. -/

namespace Aokie.Plugin.Outbox

open Aokie.Lib

section Run

variable (sys : System) (mode : PayloadProtection)

def alone : ℕ → (ℕ → Env) → View → Task → View × Option Reply
  | 0, _, v, _ => (v, none)
  | fuel + 1, env, v, t =>
    match t.step sys mode (env 0) v with
    | (v, .done reply) => (v, some reply)
    | (v, .run t) => alone fuel (fun n => env (n + 1)) v t

/-- As many steps as `insert_pending` can need: three for each event that is held, and its own. -/
def insertFuel (v : View) : ℕ := 3 * v.held.length + 7

def insertPending (env : ℕ → Env) (v : View) (event : DesktopEvent) (target : String) : View × Option Reply :=
  alone sys mode (insertFuel v) env v (.sealing event target)

end Run

/-- The event that an `insert_pending` is about. -/
def Task.inserts (t : Task) (event : DesktopEvent) : Prop := t.proposes = some event ∨ t.ownEvent = some event

/-- A bound on the steps left of an `insert_pending`. -/
def Task.budget (held : List HeldSeal) : Task → ℕ
  | sealing _ _ => 3 * held.length + 7
  | take _ => 3 * held.length + 6
  | sealNext _ mine _ _ => 3 * mine.length + 8
  | fillNext _ _ mine _ _ => 3 * mine.length + 7
  | insertNext _ _ mine _ _ => 3 * mine.length + 6
  | putBack _ _ => 5
  | write _ => 4
  | readExisting _ => 3
  | fill _ | countFailure _ => 2
  | hold _ | forget _ | countCollision _ => 1
  | _ => 0

section Steps

variable {sys : System} {mode : PayloadProtection} {env : Env} {v : View} {e : DesktopEvent}

section Loop

attribute [local simp] alone Task.budget Task.inserts Task.step Task.proposes Task.ownEvent resealLoop sealEvent Db.exec

lemma inserts_resealLoop (mine waiting : List HeldSeal) (draft : Draft) :
    (resealLoop mine waiting (.insert draft)).inserts draft.event := .inl (proposes_resealLoop mine waiting draft)

lemma budget_resealLoop (held mine waiting : List HeldSeal) (draft : Draft) :
    (resealLoop mine waiting (.insert draft)).budget held ≤ 3 * mine.length + 5 := by
  cases mine with
  | cons first mine =>
      simp
      omega
  | nil =>
      simp only [resealLoop]
      split_ifs <;> simp [After.task]

end Loop

lemma after_of_inserts {after : After} {t : Task} (ht : t = .take after ∨
    (∃ h mine waiting, t = .sealNext h mine waiting after) ∨
    (∃ h token mine waiting, t = .fillNext h token mine waiting after) ∨
    (∃ h token mine waiting, t = .insertNext h token mine waiting after) ∨ ∃ waiting, t = .putBack waiting after)
    (h : t.inserts e) : ∃ draft, after = .insert draft ∧ draft.event = e := by
  rcases ht with rfl | ⟨_, _, _, rfl⟩ | ⟨_, _, _, _, rfl⟩ | ⟨_, _, _, _, rfl⟩ | ⟨_, rfl⟩ <;>
    rcases after with draft | ⟨reading, limit⟩ <;> simp_all [Task.inserts, Task.proposes, Task.ownEvent]

lemma Task.inserts_step {t t' : Task} (h : t.inserts e) (hstep : (t.step sys mode env v).2 = .run t') :
    t'.inserts e ∧ t'.budget (t.step sys mode env v).1.held < t.budget v.held := by
  cases t with
  | sealing event target =>
      obtain rfl : event = e := by simpa [inserts, proposes, ownEvent] using h
      simp only [step, sealEvent] at hstep ⊢
      split at hstep <;> obtain rfl := Next.run.inj hstep <;> simp [inserts, proposes, budget]
  | write draft =>
      obtain rfl : draft.event = e := by simpa [inserts, proposes, ownEvent] using h
      simp only [step, View.execute_snd] at hstep
      split_ifs at hstep <;> obtain rfl := Next.run.inj hstep <;> simp [inserts, proposes, ownEvent, budget]
  | countFailure draft =>
      simp only [step, View.execute_snd] at hstep
      split_ifs at hstep
      obtain rfl := Next.run.inj hstep
      exact ⟨h, by simp [budget]⟩
  | hold draft => simp [step] at hstep
  | readExisting draft =>
      obtain rfl : draft.event = e := by simpa [inserts, proposes, ownEvent] using h
      simp only [step, View.query_snd] at hstep
      split_ifs at hstep
      rcases existing_cases draft (v.db.find draft.event.idempotencyKey) with
        heq | ⟨r, -, -, -, ⟨-, heq⟩ | ⟨-, heq⟩⟩ | ⟨r, hash, -, -, -, heq⟩ <;> rw [heq] at hstep
      · simp at hstep
      all_goals
        obtain rfl := Next.run.inj hstep
        simp [inserts, proposes, ownEvent, budget]
  | fill draft =>
      simp only [step, View.execute_snd] at hstep
      split_ifs at hstep <;> obtain rfl := Next.run.inj hstep <;> exact ⟨h, by simp [budget]⟩
  | forget draft => simp [step] at hstep
  | countCollision draft =>
      simp only [step, View.execute_snd] at hstep
      split_ifs at hstep
  | take after =>
      obtain ⟨draft, rfl, rfl⟩ := after_of_inserts (.inl rfl) h
      obtain rfl := Next.run.inj hstep
      refine ⟨inserts_resealLoop _ _ _, (budget_resealLoop _ _ _ draft).trans_lt ?_⟩
      simp [budget]
  | sealNext held mine waiting after =>
      obtain ⟨draft, rfl, rfl⟩ := after_of_inserts (.inr (.inl ⟨_, _, _, rfl⟩)) h
      simp only [step] at hstep
      split at hstep <;> obtain rfl := Next.run.inj hstep
      · simp [inserts, proposes, budget]
      · refine ⟨inserts_resealLoop _ _ _, (budget_resealLoop _ _ _ draft).trans_lt ?_⟩
        simp only [budget, List.length_nil]
        omega
  | fillNext held token mine waiting after =>
      obtain ⟨draft, rfl, rfl⟩ := after_of_inserts (.inr (.inr (.inl ⟨_, _, _, _, rfl⟩))) h
      have hloop (held : List HeldSeal) (waiting' : List HeldSeal) :
          (resealLoop mine waiting' (.insert draft)).inserts draft.event ∧
            (resealLoop mine waiting' (.insert draft)).budget held < 3 * mine.length + 7 :=
        ⟨inserts_resealLoop _ _ _, (budget_resealLoop _ _ _ draft).trans_lt (by omega)⟩
      simp only [step] at hstep
      split_ifs at hstep with hfails
      · obtain rfl := Next.run.inj hstep
        exact hloop _ _
      · rw [View.execute_snd, if_neg hfails] at hstep
        split_ifs at hstep <;> obtain rfl := Next.run.inj hstep
        · exact hloop _ _
        · simp [inserts, proposes, budget]
  | insertNext held token mine waiting after =>
      obtain ⟨draft, rfl, rfl⟩ := after_of_inserts (.inr (.inr (.inr (.inl ⟨_, _, _, _, rfl⟩)))) h
      have hloop (held : List HeldSeal) (waiting' : List HeldSeal) :
          (resealLoop mine waiting' (.insert draft)).inserts draft.event ∧
            (resealLoop mine waiting' (.insert draft)).budget held < 3 * mine.length + 6 :=
        ⟨inserts_resealLoop _ _ _, (budget_resealLoop _ _ _ draft).trans_lt (by omega)⟩
      simp only [step] at hstep
      split_ifs at hstep with hfails
      · obtain rfl := Next.run.inj hstep
        exact hloop _ _
      · rw [View.execute_snd, if_neg hfails] at hstep
        obtain rfl := Next.run.inj hstep
        exact hloop _ _
  | putBack waiting after =>
      obtain ⟨draft, rfl, rfl⟩ := after_of_inserts (.inr (.inr (.inr (.inr ⟨_, rfl⟩)))) h
      obtain rfl := Next.run.inj hstep
      simp [inserts, proposes, After.task, budget]
  | _ => simp [inserts, proposes, ownEvent] at h

lemma alone_total {fuel : ℕ} {envs : ℕ → Env} {t : Task} (h : t.inserts e) (hfuel : t.budget v.held ≤ fuel) :
    ∃ reply, (alone sys mode fuel envs v t).2 = some reply := by
  induction fuel generalizing envs v t with
  | zero =>
      cases hstep : (t.step sys mode (envs 0) v).2 with
      | run t' =>
          have hless := (Task.inserts_step h hstep).2
          omega
      | done reply =>
          exfalso
          revert hfuel h
          cases t <;> simp [Task.budget, Task.inserts, Task.proposes, Task.ownEvent]
  | succ fuel ih =>
      rcases hstep : t.step sys mode (envs 0) v with ⟨v', t' | reply⟩
      · have hless := Task.inserts_step h (by rw [hstep])
        rw [hstep] at hless
        dsimp only at hless
        simp only [alone, hstep]
        exact ih hless.1 (by omega)
      · exact ⟨reply, by simp [alone, hstep]⟩

lemma alone_induction {P : View → Task → Prop} {Q : View → Reply → Prop} {E : Env → Prop}
    (hrun : ∀ env v t v' t', E env → P v t → t.step sys mode env v = (v', .run t') → P v' t')
    (hdone : ∀ env v t v' reply, E env → P v t → t.step sys mode env v = (v', .done reply) → Q v' reply)
    {fuel : ℕ} {envs : ℕ → Env} {t : Task} (henvs : ∀ n, E (envs n)) (h : P v t) :
    ∀ reply, (alone sys mode fuel envs v t).2 = some reply → Q (alone sys mode fuel envs v t).1 reply := by
  induction fuel generalizing envs v t with
  | zero => simp [alone]
  | succ fuel ih =>
      intro reply hreply
      rcases hstep : t.step sys mode (envs 0) v with ⟨v', t' | r⟩
      · simp only [alone, hstep] at hreply ⊢
        exact ih (fun n => henvs (n + 1)) (hrun _ _ _ _ _ (henvs 0) h hstep) reply hreply
      · simp only [alone, hstep, Option.some.injEq] at hreply ⊢
        subst hreply
        exact hdone _ _ _ _ _ (henvs 0) h hstep

lemma inserts_unique {t : Task} {event other : DesktopEvent} (h : t.inserts event) (hother : t.inserts other) :
    event = other := by
  rcases h with h | h <;> rcases hother with hother | hother
  · exact Option.some.inj (h.symm.trans hother)
  · cases t <;> simp [Task.proposes, Task.ownEvent] at h hother
  · cases t <;> simp [Task.proposes, Task.ownEvent] at h hother
  · exact Option.some.inj (h.symm.trans hother)

/-- Every content under the event's key is the event's: in the file, held, and in the hands of the task. -/
structure OneContent (v : View) (t : Task) (e : DesktopEvent) : Prop where
  rows : ∀ row ∈ v.db.rows, row.idempotencyKey = e.idempotencyKey → ∀ h, row.payloadHash = some h →
    h = payloadFingerprint e
  held : ∀ h, h ∈ v.held ∨ h ∈ t.inHands → h.event.idempotencyKey = e.idempotencyKey →
    payloadFingerprint h.event = payloadFingerprint e
  carried : ∀ event, t.inserts event → event.idempotencyKey = e.idempotencyKey →
    payloadFingerprint event = payloadFingerprint e

lemma Task.statement_insert {t : Task} {event other : DesktopEvent} (ht : t.inserts event) {target : String}
    {payload : Text}
    {status : OutboxStatus} {lastError : Option String} {now : String}
    (h : t.statement env = some (.insertOrIgnore other target payload status lastError now)) :
    other = event ∨ ∃ h ∈ t.inHands, h.event = other := by
  cases t with
  | write draft =>
      obtain rfl : draft.event = event := by simpa [inserts, proposes, ownEvent] using ht
      simp only [Task.statement, Option.some.injEq, Statement.insertOrIgnore.injEq] at h
      exact .inl h.1.symm
  | insertNext held token mine waiting after =>
      simp only [Task.statement, Option.some.injEq, Statement.insertOrIgnore.injEq] at h
      exact .inr ⟨held, by simp [inHands], h.1⟩
  | _ => simp [Task.statement] at h

lemma OneContent.step {t : Task} {event : DesktopEvent} (h : OneContent v t e) (ht : t.inserts event) :
    OneContent (t.step sys mode env v).1 (t.step sys mode env v).2.task e where
  rows := by
    intro row' hrow' hkey hash hhash
    rw [Task.step_db] at hrow'
    split_ifs at hrow'
    · exact h.rows row' hrow' hkey hash hhash
    · cases hst : t.statement env with
      | none =>
          rw [hst] at hrow'
          exact h.rows row' hrow' hkey hash hhash
      | some st =>
          rw [hst] at hrow'
          obtain ⟨row, hrow, hleads⟩ | ⟨other, target, payload, status, lastError, now, rfl, -, rfl⟩ :=
              Db.exec_backward hrow'
          · obtain ⟨-, hsamekey, hsamehash, -⟩ := hleads.same
            exact h.rows row hrow (hsamekey ▸ hkey) hash (hsamehash ▸ hhash)
          · obtain rfl : payloadFingerprint other = hash := Option.some.inj hhash
            obtain rfl | ⟨held, hmem, rfl⟩ := Task.statement_insert ht hst
            · exact h.carried _ ht hkey
            · exact h.held held (.inr hmem) hkey
  held := by
    rintro held (hmem | hmem) hkey
    · rw [Task.step_held] at hmem
      obtain hmem | hmem | hown := Task.mem_heldAfter hmem
      · exact h.held held (.inl hmem) hkey
      · exact h.held held (.inr hmem) hkey
      · exact h.carried held.event (.inr hown) hkey
    · obtain hmem | ⟨hmem, -⟩ := Task.inHands_step hmem
      · exact h.held held (.inr hmem) hkey
      · exact h.held held (.inl hmem) hkey
  carried := by
    intro other hother hkey
    cases hnext : (t.step sys mode env v).2 with
    | done reply =>
        rw [hnext] at hother
        simp [Next.task, Task.inserts, Task.proposes, Task.ownEvent] at hother
    | run t' =>
        rw [hnext] at hother
        obtain rfl := inserts_unique (Task.inserts_step ht hnext).1 hother
        exact h.carried event ht hkey

/-- A key is at hand, SQLite runs its statements, and every event can be sealed. -/
def Works (sys : System) (mode : PayloadProtection) (env : Env) : Prop :=
  env.sqlFails = false ∧ ∀ event, ∃ token, sys.protectPayload env mode (eventToString event) = .ok token

/-- What `insert_pending` knows where it stands, once its event is sealed. -/
def Task.Sealed (db : Db) (event : DesktopEvent) : Task → Prop
  | sealing e _ => e = event
  | write draft => draft.event = event ∧ draft.status = .pending
  | readExisting draft => draft.event = event ∧ draft.status = .pending ∧ ∃ row ∈ db.rows,
      row.idempotencyKey = event.idempotencyKey
  | fill draft => draft.event = event ∧
    ∃ row ∈ db.rows, row.idempotencyKey = event.idempotencyKey ∧ row.quarantined = true
  | forget draft => draft.event = event
  | take after | sealNext _ _ _ after | fillNext _ _ _ _ after | insertNext _ _ _ _ after | putBack _ after =>
    ∃ draft, after = .insert draft ∧ draft.event = event ∧ draft.status = .pending
  | _ => False

/-- The table's constraints hold and a quarantine row is dead. -/
structure Tidy (v : View) : Prop where
  db : v.db.WellFormed
  dead : ∀ row ∈ v.db.rows, row.quarantined = true → row.status = .dead

/-- An `insert_pending` under way with nothing in its way. -/
structure Clear (sys : System) (v : View) (t : Task) (event : DesktopEvent) : Prop where
  sound : t.Sound sys
  tidy : Tidy v
  content : OneContent v t event
  sealed : t.Sealed v.db event

lemma sealed_resealLoop {db : Db} {draft : Draft} (mine waiting : List HeldSeal) (hpending : draft.status = .pending) :
    (resealLoop mine waiting (.insert draft)).Sealed db draft.event := by
  cases mine with
  | cons first mine => exact ⟨draft, rfl, rfl, hpending⟩
  | nil =>
      simp only [resealLoop]
      split_ifs
      · exact ⟨rfl, hpending⟩
      · exact ⟨draft, rfl, rfl, hpending⟩

lemma Clear.inserts {t : Task} {event : DesktopEvent} (h : Clear sys v t event) : t.inserts event := by
  have hsealed := h.sealed
  cases t with
  | sealing e target =>
      obtain rfl : e = event := hsealed
      exact .inl rfl
  | write draft => exact .inl (congrArg some hsealed.1)
  | readExisting draft => exact .inl (congrArg some hsealed.1)
  | fill draft => exact .inr (congrArg some hsealed.1)
  | forget draft => exact .inr (congrArg some hsealed)
  | take after | sealNext _ _ _ after | fillNext _ _ _ _ after | insertNext _ _ _ _ after | putBack _ after =>
      obtain ⟨draft, rfl, rfl, -⟩ := hsealed
      exact .inl rfl
  | _ => exact hsealed.elim

lemma countP_fillQuarantined {db : Db} (hdb : db.WellFormed) (hdead : ∀ row ∈ db.rows, row.quarantined = true →
    row.status = .dead)
    {row : Row} (hrow : row ∈ db.rows) (hquarantined : row.quarantined = true) (token : Text) (now : String) :
    db.rows.countP (Update.fillQuarantined row.idempotencyKey token now).applies = 1 := by
  have happlies : (Update.fillQuarantined row.idempotencyKey token now).applies row = true := by
    simp [Update.applies, hdead row hrow hquarantined, like_of_quarantined hquarantined]
  have hpos : 0 < db.rows.countP (Update.fillQuarantined row.idempotencyKey token now).applies :=
    List.countP_pos_iff.mpr ⟨row, hrow, happlies⟩
  have hle := hdb.keys.countP_le_one (p := (Update.fillQuarantined row.idempotencyKey token now).applies)
    fun other hother => Update.key_of_applies hother
  omega

lemma update_of_inserts {t : Task} {event : DesktopEvent} (ht : t.inserts event) {u : Update}
    (h : t.statement env = some (.update u)) :
    ∃ key token now, u = .fillQuarantined key token now := by
  cases t <;> simp_all [Task.inserts, Task.proposes, Task.ownEvent, Task.statement]
  all_goals
    subst h
    exact ⟨_, _, _, rfl⟩

lemma Tidy.step {t : Task} {event : DesktopEvent} (h : Tidy v) (ht : t.inserts event) (hsound : t.Sound sys) :
    Tidy (t.step sys mode env v).1 := by
  have hdb := @Task.step_db sys mode env v t
  split_ifs at hdb
  · exact ⟨hdb ▸ h.db, hdb ▸ h.dead⟩
  cases hst : t.statement env with
  | none =>
      rw [hst] at hdb
      exact ⟨hdb ▸ h.db, hdb ▸ h.dead⟩
  | some st =>
      rw [hst] at hdb
      have hst' := hsound.statement st hst
      constructor
      · rw [hdb]
        exact h.db.exec st
      · intro row' hrow' hquarantined
        rw [hdb] at hrow'
        obtain ⟨row, hrow, hleads⟩ | ⟨other, target, payload, status, lastError, now, rfl, -, rfl⟩ :=
            Db.exec_backward hrow'
        · cases hleads with
          | keeps => exact h.dead _ hrow hquarantined
          | @updates u _ happlies =>
              obtain ⟨key, token, now, rfl⟩ := update_of_inserts ht hst
              obtain ⟨event, -, hseals⟩ := hst'
              rw [Row.quarantined, Update.set, hseals.not_quarantined] at hquarantined
              simp at hquarantined
        · rcases hst' with ⟨-, hseals⟩ | ⟨rfl, -⟩
          · rw [Row.quarantined, Db.newRow, hseals.not_quarantined] at hquarantined
            simp at hquarantined
          · rfl

lemma Clear.next {allow : Bool} {t t' : Task} {event : DesktopEvent} (hsys : sys.Lawful) (h : Clear sys v t event)
    (hstep : (t.step sys (sys.platformProtection allow) env v).2 = .run t')
    (hsealed : t'.Sealed (t.step sys (sys.platformProtection allow) env v).1.db event) :
    Clear sys (t.step sys (sys.platformProtection allow) env v).1 t' event where
  sound := by
    have hsound := @Task.sound_step sys env v allow hsys t h.sound
    rwa [hstep] at hsound
  tidy := h.tidy.step h.inserts h.sound
  content := by
    have hcontent := @OneContent.step sys (sys.platformProtection allow) env v event t event h.content h.inserts
    rwa [hstep] at hcontent
  sealed := hsealed

lemma Clear.step {allow : Bool} {t : Task} {event : DesktopEvent} (henv : Works sys (sys.platformProtection allow) env)
    (h : Clear sys v t event) :
    (∃ t', (t.step sys (sys.platformProtection allow) env v).2 = .run t' ∧
        t'.Sealed (t.step sys (sys.platformProtection allow) env v).1.db event) ∨
      ∃ outcome, (t.step sys (sys.platformProtection allow) env v).2 = .done (.inserted outcome) ∧
        (outcome = .inserted ∨ outcome = .duplicate) := by
  obtain ⟨hsql, hseal⟩ := henv
  have hsealed := h.sealed
  cases t with
  | sealing e target =>
      obtain rfl : e = event := hsealed
      obtain ⟨token, htoken⟩ := hseal e
      exact .inl ⟨.take (.insert ⟨e, target, nowIso8601 env, token, .pending,
        none⟩), by simp [Task.step, sealEvent, htoken],
        ⟨_, rfl, rfl, rfl⟩⟩
  | take after =>
      obtain ⟨draft, rfl, rfl, hpending⟩ := hsealed
      exact .inl ⟨_, rfl, sealed_resealLoop _ _ hpending⟩
  | sealNext held mine waiting after =>
      obtain ⟨token, htoken⟩ := hseal held.event
      exact .inl ⟨.fillNext held token mine waiting after, by simp [Task.step, htoken], hsealed⟩
  | fillNext held token mine waiting after =>
      obtain ⟨draft, rfl, rfl, hpending⟩ := hsealed
      left
      by_cases hone : (v.db.exec (.update (.fillQuarantined held.event.idempotencyKey token (nowIso8601 env)))).2 = 1
      · exact ⟨resealLoop mine waiting (.insert draft), by simp [Task.step, hsql, View.execute_snd, hone],
          sealed_resealLoop _ _ hpending⟩
      · exact ⟨.insertNext held token mine waiting (.insert draft), by simp [Task.step, hsql, View.execute_snd, hone],
          ⟨draft, rfl, rfl, hpending⟩⟩
  | insertNext held token mine waiting after =>
      obtain ⟨draft, rfl, rfl, hpending⟩ := hsealed
      exact .inl ⟨resealLoop mine waiting (.insert draft), by simp [Task.step, hsql, View.execute_snd],
        sealed_resealLoop _ _ hpending⟩
  | putBack waiting after =>
      obtain ⟨draft, rfl, rfl, hpending⟩ := hsealed
      exact .inl ⟨.write draft, rfl, rfl, hpending⟩
  | write draft =>
      obtain ⟨rfl, hpending⟩ := hsealed
      cases hkey : v.db.hasKey draft.event.idempotencyKey with
      | false =>
          right
          exact ⟨.inserted, by simp [Task.step, View.execute_snd, hsql, Db.exec, hkey, hpending], .inl rfl⟩
      | true =>
          left
          refine ⟨.readExisting draft, by simp [Task.step, View.execute_snd, hsql, Db.exec, hkey], rfl, hpending, ?_⟩
          simp only [Task.step, View.execute_db, hsql, Db.exec, hkey, if_true, Bool.false_eq_true, if_false]
          exact Db.hasKey_iff.mp hkey
  | readExisting draft =>
      obtain ⟨rfl, hpending, row, hrow, hkey⟩ := hsealed
      have hfind : v.db.find draft.event.idempotencyKey = some row := hkey ▸ h.tidy.db.find_of_mem hrow
      have hstep : (Task.step sys (sys.platformProtection allow) env v (.readExisting draft)).2 = existing draft
          (some row) := by
        simp [Task.step, View.query_snd, hsql, hfind]
      rw [hstep]
      obtain heq | ⟨found, hfound, hhash, hquarantined, ⟨-, heq⟩ | ⟨hnot, -⟩⟩ |
          ⟨found, hash, hfound, hhash, hother, -⟩ :=
        existing_cases draft (some row)
      · exact .inr ⟨.duplicate, heq, .inr rfl⟩
      · obtain rfl := Option.some.inj hfound
        refine .inl ⟨.fill draft, heq, rfl, row, ?_, hkey, hquarantined⟩
        simpa only [Task.step, View.query_fst] using hrow
      · exact absurd hpending hnot
      · obtain rfl := Option.some.inj hfound
        exact absurd (h.content.rows row hrow hkey hash hhash) hother
  | fill draft =>
      obtain ⟨rfl, row, hrow, hkey, hquarantined⟩ := hsealed
      have hone := countP_fillQuarantined h.tidy.db h.tidy.dead hrow hquarantined draft.payload (nowIso8601 env)
      rw [hkey] at hone
      exact .inl ⟨.forget draft, by simp [Task.step, View.execute_snd, hsql, Db.exec, hone], rfl⟩
  | forget draft => exact .inr ⟨.inserted, rfl, .inl rfl⟩
  | _ => exact hsealed.elim

lemma OneContent.of_idle {event : DesktopEvent} {target : String} (h : OneContent v .idle e)
    (hsame : event.idempotencyKey = e.idempotencyKey → payloadFingerprint event = payloadFingerprint e) :
    OneContent v (.sealing event target) e where
  rows := h.rows
  held := h.held
  carried := by
    intro other hother
    obtain rfl := inserts_unique (t := .sealing event target) (.inl rfl) hother
    exact hsame

/-- An event whose key holds no other content is stored when nothing is in the way. -/
theorem insertPending_works {allow : Bool} {event : DesktopEvent} {target : String} {envs : ℕ → Env} (hsys : sys.Lawful)
    (henvs : ∀ n, Works sys (sys.platformProtection allow) (envs n)) (htidy : Tidy v)
      (hcontent : OneContent v .idle event) :
    ∃ outcome, (insertPending sys (sys.platformProtection allow) envs v event target).2 = some (.inserted outcome) ∧
      (outcome = .inserted ∨ outcome = .duplicate) := by
  have hclear : Clear sys v (.sealing event target) event := ⟨trivial, htidy, hcontent.of_idle fun _ => rfl, rfl⟩
  obtain ⟨reply, hreply⟩ : ∃ reply, (insertPending sys (sys.platformProtection allow) envs v event target).2 =
      some reply :=
    alone_total (t := .sealing event target) (.inl rfl) le_rfl
  have hstored := alone_induction (P := fun v t => Clear sys v t event)
    (Q := fun _ reply => ∃ outcome, reply = .inserted outcome ∧ (outcome = .inserted ∨ outcome = .duplicate))
    (E := Works sys (sys.platformProtection allow)) ?_ ?_ henvs hclear reply hreply
  · obtain ⟨outcome, rfl, houtcome⟩ := hstored
    exact ⟨outcome, hreply, houtcome⟩
  · intro env v t v' t' henv hclear hstep
    obtain ⟨next, hnext, hsealed⟩ | ⟨outcome, hdone, -⟩ := hclear.step henv
    · have hclear' := hclear.next hsys hnext hsealed
      rw [hstep] at hnext hclear'
      obtain rfl := Next.run.inj hnext
      exact hclear'
    · rw [hstep] at hdone
      simp at hdone
  · intro env v t v' reply henv hclear hstep
    obtain ⟨next, hnext, -⟩ | ⟨outcome, hdone, houtcome⟩ := hclear.step henv
    · rw [hstep] at hnext
      simp at hnext
    · rw [hstep] at hdone
      exact ⟨outcome, Next.done.inj hdone, houtcome⟩

lemma insertPending_keeps {allow : Bool} {event : DesktopEvent} {target : String} {envs : ℕ → Env} (hsys : sys.Lawful)
    (htidy : Tidy v)
    (hcontent : OneContent v .idle e)
    (hsame : event.idempotencyKey = e.idempotencyKey → payloadFingerprint event = payloadFingerprint e) :
    Tidy (insertPending sys (sys.platformProtection allow) envs v event target).1 ∧
      OneContent (insertPending sys (sys.platformProtection allow) envs v event target).1 .idle e := by
  obtain ⟨reply, hreply⟩ : ∃ reply, (insertPending sys (sys.platformProtection allow) envs v event target).2 =
      some reply :=
    alone_total (t := .sealing event target) (.inl rfl) le_rfl
  refine alone_induction (P := fun v t => Tidy v ∧ t.inserts event ∧ t.Sound sys ∧ OneContent v t e)
    (Q := fun v _ => Tidy v ∧ OneContent v .idle e) (E := fun _ => True) ?_ ?_ (fun _ => trivial)
    ⟨htidy, .inl rfl, trivial, hcontent.of_idle hsame⟩ reply hreply
  · rintro env v t v' t' - ⟨htidy, ht, hsound, hcontent⟩ hstep
    have htidy' := @Tidy.step sys (sys.platformProtection allow) env v t event htidy ht hsound
    have hsound' := @Task.sound_step sys env v allow hsys t hsound
    have hcontent' := @OneContent.step sys (sys.platformProtection allow) env v e t event hcontent ht
    have ht' := Task.inserts_step ht (congrArg Prod.snd hstep)
    rw [hstep] at htidy' hsound' hcontent'
    exact ⟨htidy', ht'.1, hsound', hcontent'⟩
  · rintro env v t v' reply - ⟨htidy, ht, hsound, hcontent⟩ hstep
    have htidy' := @Tidy.step sys (sys.platformProtection allow) env v t event htidy ht hsound
    have hcontent' := @OneContent.step sys (sys.platformProtection allow) env v e t event hcontent ht
    rw [hstep] at htidy' hcontent'
    exact ⟨htidy', hcontent'⟩

/-- A row stands under the event's key. One that tells its content tells the event's, and is no quarantine row. -/
def Db.Recorded (db : Db) (event : DesktopEvent) : Prop :=
  ∃ row ∈ db.rows, row.idempotencyKey = event.idempotencyKey ∧
    ∀ h, row.payloadHash = some h → h = payloadFingerprint event ∧ row.quarantined = false

/-- What an `insert_pending` knows of the table before it answers. -/
def Task.Knows (db : Db) (event : DesktopEvent) : Task → Prop
  | readExisting _ => db.hasKey event.idempotencyKey = true
  | fill _ => ∃ row ∈ db.rows, row.idempotencyKey = event.idempotencyKey ∧
      row.payloadHash = some (payloadFingerprint event)
  | forget _ => db.Recorded event
  | _ => True

lemma knows_resealLoop {db : Db} {event : DesktopEvent} (mine waiting : List HeldSeal) (after : After) :
    (resealLoop mine waiting after).Knows db event := by
  cases mine with
  | cons => trivial
  | nil =>
      simp only [resealLoop]
      split_ifs
      · cases after <;> trivial
      · trivial

lemma statement_of_inserts {t : Task} {event : DesktopEvent} (ht : t.inserts event) {st : Statement}
    (h : t.statement env = some st) : (∀ cutoff, st ≠ .pruneSent cutoff) ∧ ∀ cutoff, st ≠ .pruneDead cutoff := by
  cases t <;> simp_all [Task.inserts, Task.proposes, Task.ownEvent, Task.statement]
  all_goals
    subst h
    simp

lemma Db.Recorded.step {t : Task} {event : DesktopEvent} (h : v.db.Recorded e) (ht : t.inserts event)
    (hsound : t.Sound sys) :
    (t.step sys mode env v).1.db.Recorded e := by
  rw [Task.step_db]
  split_ifs
  · exact h
  cases hst : t.statement env with
  | none => exact h
  | some st =>
      obtain ⟨row, hrow, hkey, hhash⟩ := h
      obtain ⟨after, hleads, hafter⟩ := Db.exec_forward st hrow
      cases hleads with
      | keeps => exact ⟨row, hafter row rfl, hkey, hhash⟩
      | @updates u _ happlies =>
          obtain ⟨key, token, now, rfl⟩ := update_of_inserts ht hst
          obtain ⟨other, -, hseals⟩ := hsound.statement _ hst
          refine ⟨_, hafter _ rfl, Update.set_idempotencyKey.trans hkey, fun hash hsome => ?_⟩
          rw [Update.set_payloadHash] at hsome
          exact ⟨(hhash hash hsome).1, hseals.not_quarantined⟩
      | prunesSent => exact absurd rfl ((statement_of_inserts ht hst).1 _)
      | prunesDead => exact absurd rfl ((statement_of_inserts ht hst).2 _)

lemma Task.Knows.step {t t' : Task} {event : DesktopEvent} (h : t.Knows v.db event) (htidy : Tidy v)
    (ht : t.inserts event)
    (hsound : t.Sound sys) (hstep : (t.step sys mode env v).2 = .run t') :
    t'.Knows (t.step sys mode env v).1.db event := by
  cases t with
  | sealing e target =>
      simp only [Task.step, sealEvent] at hstep
      split at hstep <;> obtain rfl := Next.run.inj hstep <;> trivial
  | take after =>
      obtain rfl := Next.run.inj hstep
      exact knows_resealLoop _ _ _
  | sealNext held mine waiting after =>
      simp only [Task.step] at hstep
      split at hstep <;> obtain rfl := Next.run.inj hstep
      · trivial
      · exact knows_resealLoop _ _ _
  | fillNext held token mine waiting after =>
      simp only [Task.step] at hstep
      split_ifs at hstep with hfails
      · obtain rfl := Next.run.inj hstep
        exact knows_resealLoop _ _ _
      · rw [View.execute_snd, if_neg hfails] at hstep
        split_ifs at hstep <;> obtain rfl := Next.run.inj hstep
        · exact knows_resealLoop _ _ _
        · trivial
  | insertNext held token mine waiting after =>
      simp only [Task.step] at hstep
      split_ifs at hstep with hfails
      · obtain rfl := Next.run.inj hstep
        exact knows_resealLoop _ _ _
      · rw [View.execute_snd, if_neg hfails] at hstep
        obtain rfl := Next.run.inj hstep
        exact knows_resealLoop _ _ _
  | putBack waiting after =>
      obtain rfl := Next.run.inj hstep
      cases after <;> trivial
  | write draft =>
      obtain rfl : draft.event = event := by simpa [Task.inserts, Task.proposes, Task.ownEvent] using ht
      simp only [Task.step, View.execute_snd] at hstep
      split_ifs at hstep with hfails hone hdead <;> obtain rfl := Next.run.inj hstep
      · trivial
      · -- the statement changed no row: the key was there
        simp only [Task.Knows, Task.step, View.execute_db, if_neg hfails]
        simp only [Db.exec] at hone ⊢
        split_ifs at hone ⊢ with hkey
        · exact hkey
        · exact absurd rfl hone
  | countFailure draft =>
      simp only [Task.step, View.execute_snd] at hstep
      split_ifs at hstep
      obtain rfl := Next.run.inj hstep
      trivial
  | readExisting draft =>
      obtain rfl : draft.event = event := by simpa [Task.inserts, Task.proposes, Task.ownEvent] using ht
      simp only [Task.step, View.query_snd] at hstep
      split_ifs at hstep
      rcases existing_cases draft (v.db.find draft.event.idempotencyKey) with
        heq | ⟨r, hfind, hhash, -, ⟨-, heq⟩ | ⟨-, heq⟩⟩ | ⟨r, hash, -, -, -, heq⟩ <;> rw [heq] at hstep
      · cases hstep
      · obtain rfl := Next.run.inj hstep
        obtain ⟨hrow, hkey⟩ := Db.mem_of_find hfind
        simp only [Task.Knows, Task.step, View.query_fst]
        exact ⟨r, hrow, hkey, hhash⟩
      · obtain rfl := Next.run.inj hstep
        trivial
      · obtain rfl := Next.run.inj hstep
        trivial
  | fill draft =>
      obtain rfl : draft.event = event := by simpa [Task.inserts, Task.proposes, Task.ownEvent] using ht
      obtain ⟨row, hrow, hkey, hhash⟩ := h
      obtain ⟨-, hseals⟩ := hsound
      simp only [Task.step, View.execute_snd] at hstep
      split_ifs at hstep with hfails hone <;> obtain rfl := Next.run.inj hstep
      · -- the row that was filled is the one under the key
        obtain ⟨filled, hfilled, happlies⟩ := List.countP_pos_iff.mp (by
          simp only [Db.exec] at hone
          rw [hone]
          exact Nat.one_pos)
        obtain rfl := htidy.db.keys.eq hfilled hrow ((Update.key_of_applies happlies).trans hkey.symm)
        simp only [Task.Knows, Task.step, View.execute_db, if_neg hfails, Db.exec]
        refine ⟨_, Table.mem_update_of hfilled happlies, Update.set_idempotencyKey.trans hkey, fun hash hsome => ?_⟩
        rw [Update.set_payloadHash, hhash] at hsome
        exact ⟨(Option.some.inj hsome).symm, hseals.not_quarantined⟩
      · trivial
  | countCollision draft =>
      simp only [Task.step, View.execute_snd] at hstep
      split_ifs at hstep
  | hold | forget => cases hstep
  | _ => exact absurd ht (by simp [Task.inserts, Task.proposes, Task.ownEvent])

def Reply.Stores (reply : Reply) : Prop := reply = .inserted .inserted ∨ reply = .inserted .duplicate

lemma Task.Knows.done {t : Task} {event : DesktopEvent} {reply : Reply} (h : t.Knows v.db event) (ht : t.inserts event)
    (hsound : t.Sound sys) (hstep : (t.step sys mode env v).2 = .done reply) (hstores : reply.Stores) :
    (t.step sys mode env v).1.db.Recorded event := by
  cases t with
  | write draft =>
      obtain rfl : draft.event = event := by simpa [Task.inserts, Task.proposes, Task.ownEvent] using ht
      simp only [Task.step, View.execute_snd] at hstep
      split_ifs at hstep with hfails hone hdead
      · obtain rfl := Next.done.inj hstep
        rcases hstores with hstores | hstores <;> cases hstores
      · have hseals := (hsound.resolve_right fun h => hdead h.1).2
        simp only [Task.step, View.execute_db, if_neg hfails]
        simp only [Db.exec] at hone ⊢
        split_ifs at hone ⊢ with hkey
        refine ⟨_, List.mem_append_right _ List.mem_cons_self, rfl, fun hash hhash => ?_⟩
        exact ⟨(Option.some.inj hhash).symm, hseals.not_quarantined⟩
  | readExisting draft =>
      obtain rfl : draft.event = event := by simpa [Task.inserts, Task.proposes, Task.ownEvent] using ht
      simp only [Task.step, View.query_snd] at hstep
      simp only [Task.step, View.query_fst]
      split_ifs at hstep
      · obtain rfl := Next.done.inj hstep
        rcases hstores with hstores | hstores <;> cases hstores
      · obtain ⟨row, hrow, hkey⟩ := Db.hasKey_iff.mp h
        obtain ⟨found, hfound⟩ : ∃ found, v.db.find draft.event.idempotencyKey = some found := by
          cases hfind : v.db.find draft.event.idempotencyKey with
          | some found => exact ⟨found, rfl⟩
          | none => exact absurd (List.find?_eq_none.mp hfind row hrow) (by simp [hkey])
        obtain ⟨hmem, hfoundKey⟩ := Db.mem_of_find hfound
        refine ⟨found, hmem, hfoundKey, fun hash hhash => ?_⟩
        rw [hfound] at hstep
        simp only [existing, Option.bind_some, hhash] at hstep
        split_ifs at hstep with hsame hquarantined hpending
        exact ⟨hsame, by simpa [Row.quarantined] using hquarantined⟩
  | forget draft => exact h
  | hold draft =>
      obtain rfl := Next.done.inj hstep
      rcases hstores with hstores | hstores <;> cases hstores
  | countFailure | fill | countCollision =>
      simp only [Task.step, View.execute_snd] at hstep
      split_ifs at hstep <;> obtain rfl := Next.done.inj hstep <;> rcases hstores with
        hstores | hstores <;> cases hstores
  | sealing | sealNext =>
      simp only [Task.step, sealEvent] at hstep
      split at hstep <;> cases hstep
  | fillNext =>
      simp only [Task.step] at hstep
      split_ifs at hstep with hfails
      rw [View.execute_snd, if_neg hfails] at hstep
      split_ifs at hstep
  | insertNext =>
      simp only [Task.step] at hstep
      split_ifs at hstep with hfails
      rw [View.execute_snd, if_neg hfails] at hstep
      cases hstep
  | take | putBack => cases hstep
  | _ => exact absurd ht (by simp [Task.inserts, Task.proposes, Task.ownEvent])

/-- An answer that the event is stored is true. -/
theorem insertPending_recorded {allow : Bool} {event : DesktopEvent} {target : String} {envs : ℕ → Env} {reply : Reply}
    (hsys : sys.Lawful) (htidy : Tidy v)
    (hreply : (insertPending sys (sys.platformProtection allow) envs v event target).2 = some reply)
      (hstores : reply.Stores) :
    (insertPending sys (sys.platformProtection allow) envs v event target).1.db.Recorded event := by
  refine alone_induction (P := fun v t => Tidy v ∧ t.inserts event ∧ t.Sound sys ∧ t.Knows v.db event)
    (Q := fun v reply => reply.Stores → v.db.Recorded event) (E := fun _ => True) ?_ ?_ (fun _ => trivial)
    ⟨htidy, .inl rfl, trivial, trivial⟩ reply hreply hstores
  · rintro env v t v' t' - ⟨htidy, ht, hsound, hknows⟩ hstep
    have htidy' := @Tidy.step sys (sys.platformProtection allow) env v t event htidy ht hsound
    have hsound' := @Task.sound_step sys env v allow hsys t hsound
    have hknows' := hknows.step htidy ht hsound (congrArg Prod.snd hstep)
    have ht' := Task.inserts_step ht (congrArg Prod.snd hstep)
    rw [hstep] at htidy' hsound' hknows'
    exact ⟨htidy', ht'.1, hsound', hknows'⟩
  · rintro env v t v' reply - ⟨-, ht, hsound, hknows⟩ hstep hstores
    have hdone := hknows.done ht hsound (congrArg Prod.snd hstep) hstores
    rwa [hstep] at hdone

lemma insertPending_recorded_keeps {allow : Bool} {event : DesktopEvent} {target : String} {envs : ℕ → Env}
    (hsys : sys.Lawful) (h : v.db.Recorded e) :
    (insertPending sys (sys.platformProtection allow) envs v event target).1.db.Recorded e := by
  obtain ⟨reply, hreply⟩ : ∃ reply, (insertPending sys (sys.platformProtection allow) envs v event target).2 =
      some reply :=
    alone_total (t := .sealing event target) (.inl rfl) le_rfl
  refine alone_induction (P := fun v t => v.db.Recorded e ∧ t.inserts event ∧ t.Sound sys)
    (Q := fun v _ => v.db.Recorded e) (E := fun _ => True) ?_ ?_ (fun _ => trivial) ⟨h, .inl rfl, trivial⟩ reply hreply
  · rintro env v t v' t' - ⟨h, ht, hsound⟩ hstep
    have h' := @Db.Recorded.step sys (sys.platformProtection allow) env v e t event h ht hsound
    have hsound' := @Task.sound_step sys env v allow hsys t hsound
    have ht' := Task.inserts_step ht (congrArg Prod.snd hstep)
    rw [hstep] at h' hsound'
    exact ⟨h', ht'.1, hsound'⟩
  · rintro env v t v' reply - ⟨h, ht, hsound⟩ hstep
    have h' := @Db.Recorded.step sys (sys.platformProtection allow) env v e t event h ht hsound
    rwa [hstep] at h'

end Steps

end Aokie.Plugin.Outbox
