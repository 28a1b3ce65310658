import Aokie.Plugin.Outbox.Threads

/-! What one step of a thread can do: the statement it runs, and what stays true of what threads carry with them. -/

namespace Aokie.Plugin.Outbox

open Aokie.Lib

def Task.statement (env : Env) : Task → Option Statement
  | write draft =>
    some (.insertOrIgnore draft.event draft.target draft.payload draft.status draft.lastError draft.now)
  | countFailure _ => some (.bumpMeta "protect_failures")
  | fill draft => some (.update (.fillQuarantined draft.event.idempotencyKey draft.payload (nowIso8601 env)))
  | countCollision _ => some (.bumpMeta "payload_collisions")
  | fillNext held token _ _ _ =>
    some (.update (.fillQuarantined held.event.idempotencyKey token (nowIso8601 env)))
  | insertNext held token _ _ _ =>
    some (.insertOrIgnore held.event held.target token .pending none (nowIso8601 env))
  | ack key => some (.update (.markSent key (nowIso8601 env)))
  | book booking key next expected =>
    some (.update (.book booking key (nowIso8601 env) next expected (iso8601AfterSecs env (-retryWindowSecs))))
  | markDead key reason => some (.update (.markDead key reason (nowIso8601 env)))
  | redriveUpdate candidate _ _ => some (.update (.redrive candidate.1))
  | deadLetter row e _ _ =>
    some (.update (.markDead row.idempotencyKey ("payload_unreadable: " ++ e) (nowIso8601 env)))
  | pruneSent days => some (.pruneSent (iso8601AfterSecs env (-days * 86400)))
  | pruneDead days => some (.pruneDead (iso8601AfterSecs env (-(days * 86400))))
  | _ => none

def Db.run (db : Db) (st : Option Statement) : Db :=
  match st with
  | some st => (db.exec st).1
  | none => db

inductive Method
  | none | insertPending | markSent | book | markDead | redrive | read | prune
  deriving DecidableEq

def After.method : After → Method
  | insert _ => .insertPending
  | read _ _ => .read

def Task.method : Task → Method
  | idle => .none
  | sealing _ _ | write _ | countFailure _ | hold _ | readExisting _ | fill _ | forget _ | countCollision _ =>
    .insertPending
  | take after | sealNext _ _ _ after | fillNext _ _ _ _ after | insertNext _ _ _ _ after | putBack _ after =>
    after.method
  | ack _ | ackRead _ => .markSent
  | readAttempts _ _ _ | book _ _ _ _ | bookRead _ _ => .book
  | markDead _ _ => .markDead
  | redriveSelect _ | redriveOpen _ _ _ | redriveUpdate _ _ _ => .redrive
  | readStart _ _ | select _ _ | openPayloads _ | openNext _ _ _ | testSeal _ _ _ _ | deadLetter _ _ _ _ => .read
  | pruneSent _ | pruneDead _ => .prune

lemma existing_cases (draft : Draft) (row : Option Row) :
    existing draft row = .done (.inserted .duplicate) ∨
    (∃ r, row = some r ∧ r.payloadHash = some (payloadFingerprint draft.event) ∧
      startsWith r.payloadJson quarantinedPayload = true ∧
      ((draft.status = .pending ∧ existing draft row = .run (.fill draft)) ∨
        (draft.status ≠ .pending ∧ existing draft row = .run (.hold draft)))) ∨
    ∃ r h, row = some r ∧ r.payloadHash = some h ∧ h ≠ payloadFingerprint draft.event ∧
      existing draft row = .run (.countCollision draft) := by
  rcases row with - | r
  · exact .inl rfl
  rcases hhash : r.payloadHash with - | h
  · exact .inl (by simp [existing, hhash])
  by_cases hsame : h = payloadFingerprint draft.event
  · by_cases hq : startsWith r.payloadJson quarantinedPayload = true
    · refine .inr (.inl ⟨r, rfl, by rw [hhash, hsame], hq, ?_⟩)
      by_cases hpending : draft.status = .pending
      · exact .inl ⟨hpending, by simp [existing, hhash, hsame, hq, hpending]⟩
      · exact .inr ⟨hpending, by simp [existing, hhash, hsame, hq, hpending]⟩
    · exact .inl (by simp [existing, hhash, hsame, hq])
  · exact .inr (.inr ⟨r, h, rfl, hhash, hsame, by simp [existing, hhash, hsame]⟩)

section View

variable {sys : System} {mode : PayloadProtection} {env : Env} {v : View}

lemma View.execute_fst (st : Statement) (k : ℕ → Next) :
    (v.execute env st k).1 = if env.sqlFails then v else { v with db := (v.db.exec st).1 } := by
  simp only [View.execute]
  split_ifs <;> rfl

lemma View.execute_snd (st : Statement) (k : ℕ → Next) :
    (v.execute env st k).2 = if env.sqlFails then .done .failed else k (v.db.exec st).2 := by
  simp only [View.execute]
  split_ifs <;> rfl

lemma View.query_fst (k : Next) : (v.query env k).1 = v := by
  simp only [View.query]
  split_ifs <;> rfl

lemma View.query_snd (k : Next) : (v.query env k).2 = if env.sqlFails then .done .failed else k := by
  simp only [View.query]
  split_ifs <;> rfl

lemma View.execute_db (st : Statement) (k : ℕ → Next) :
    (v.execute env st k).1.db = if env.sqlFails then v.db else (v.db.exec st).1 := by
  rw [execute_fst]
  split_ifs <;> rfl

lemma Task.step_db (t : Task) :
    (t.step sys mode env v).1.db = if env.sqlFails then v.db else v.db.run (t.statement env) := by
  cases t with
  | write | countFailure | fill | countCollision | ack | book | markDead | redriveUpdate | pruneSent | pruneDead =>
      exact View.execute_db _ _
  | fillNext | insertNext | deadLetter =>
      simp only [step, statement, Db.run]
      split_ifs with hfails
      · rfl
      · rw [View.execute_db, if_neg hfails]
  | readExisting | ackRead | readAttempts | bookRead | redriveSelect | select =>
      simp only [step, statement, Db.run, View.query_fst, ite_self]
  | sealNext | redriveOpen =>
      simp only [step, statement, Db.run, ite_self]
      split <;> rfl
  | testSeal =>
      simp only [step, statement, Db.run, ite_self]
      split <;> rfl
  | openNext =>
      simp only [step, statement, Db.run, ite_self]
      split
      · rfl
      · split_ifs <;> rfl
  | readStart | openPayloads =>
      simp only [step, statement, Db.run, ite_self]
      split_ifs <;> rfl
  | idle | sealing | hold | forget | take | putBack => simp only [step, statement, Db.run, ite_self]

lemma After.method_task (after : After) : after.task.method = after.method := by
  cases after <;> rfl

lemma method_resealLoop (mine waiting : List HeldSeal) (after : After) :
    (resealLoop mine waiting after).method = after.method := by
  cases mine with
  | cons => rfl
  | nil =>
      simp only [resealLoop]
      split_ifs
      · exact after.method_task
      · rfl

variable (sys mode env v) in
lemma Task.method_step (t : Task) :
    (t.step sys mode env v).2.task = .idle ∨ (t.step sys mode env v).2.task.method = t.method := by
  cases t with
  | idle | ackRead | bookRead | markDead | hold | forget | pruneSent | pruneDead | countCollision =>
      left
      simp only [step, View.execute_snd, View.query_snd]
      (try split_ifs) <;> rfl
  | take after => exact .inr (method_resealLoop _ _ _)
  | putBack waiting after => exact .inr after.method_task
  | sealNext held mine waiting after =>
      right
      simp only [step]
      split
      · rfl
      · exact method_resealLoop [] (waiting ++ held :: mine) after
  | fillNext =>
      right
      simp only [step]
      split_ifs with hfails
      · exact method_resealLoop _ _ _
      · rw [View.execute_snd, if_neg hfails]
        split_ifs
        · exact method_resealLoop _ _ _
        · rfl
  | insertNext =>
      right
      simp only [step]
      split_ifs with hfails
      · exact method_resealLoop _ _ _
      · rw [View.execute_snd, if_neg hfails]
        exact method_resealLoop _ _ _
  | redriveOpen _ candidates =>
      simp only [step]
      split
      · cases candidates <;> simp [redriveLoop, Next.task, method]
      · exact .inr rfl
  | redriveUpdate _ candidates =>
      simp only [step, View.execute_snd]
      split_ifs
      · exact .inl rfl
      · cases candidates <;> simp [redriveLoop, Next.task, method]
  | redriveSelect key =>
      simp only [step, View.query_snd]
      split_ifs
      · exact .inl rfl
      · generalize List.map _ _ = candidates
        cases candidates <;> simp [redriveLoop, Next.task, method]
  | readExisting draft =>
      simp only [step, View.query_snd]
      split_ifs
      · exact .inl rfl
      · rcases existing_cases draft (v.db.find draft.event.idempotencyKey) with
          heq | ⟨r, -, -, -, ⟨-, heq⟩ | ⟨-, heq⟩⟩ | ⟨r, hash, -, -, -, heq⟩ <;> rw [heq]
        · exact .inl rfl
        · exact .inr rfl
        · exact .inr rfl
        · exact .inr rfl
  | sealing event target =>
      right
      simp only [step, sealEvent]
      split <;> rfl
  | openPayloads raw =>
      simp only [step]
      split_ifs
      · exact .inl rfl
      · cases raw <;> simp [openLoop, Next.task, method]
  | openNext row raw out =>
      simp only [step]
      split
      · cases raw <;> simp [openLoop, Next.task, method]
      · split_ifs <;> exact .inr rfl
  | testSeal row e raw out =>
      simp only [step]
      split
      · exact .inr rfl
      · exact .inl rfl
  | deadLetter row e raw out =>
      simp only [step]
      split_ifs with hfails
      · cases raw <;> simp [openLoop, Next.task, method]
      · rw [View.execute_snd, if_neg hfails]
        cases raw <;> simp [openLoop, Next.task, method]
  | readStart =>
      right
      simp only [step]
      split_ifs <;> rfl
  | write | countFailure | fill | ack | readAttempts | book | select =>
      simp only [step, View.execute_snd, View.query_snd]
      split_ifs <;> simp [Next.task, method]

lemma Task.method_of_next {t : Task} {m : Method} (h : (t.step sys mode env v).2.task.method = m) (hm : m ≠ .none) :
    t.method = m := by
  rcases t.method_step sys mode env v with hidle | hmethod
  · rw [hidle] at h
    exact absurd h.symm hm
  · rw [← hmethod, h]

def Reply.fits : Reply → Method → Prop
  | failed, _ => True
  | inserted _, m => m = .insertPending
  | acked _, m => m = .markSent
  | status _, m => m = .book
  | markedDead, m => m = .markDead
  | revived _, m => m = .redrive
  | rows _, m => m = .read
  | pruned _, m => m = .prune

lemma Task.reply_step {t : Task} {reply : Reply} (h : (t.step sys mode env v).2 = .done reply) :
    reply.fits t.method := by
  cases t with
  | write | countFailure | fill | countCollision | ack | ackRead | readAttempts | book | bookRead | markDead | select |
    pruneSent | pruneDead =>
      simp only [step, View.execute_snd, View.query_snd] at h
      split_ifs at h <;> cases h <;> trivial
  | hold | forget =>
      cases h
      trivial
  | idle | take | putBack => cases h
  | sealing event target =>
      simp only [step, sealEvent] at h
      split at h <;> cases h
  | readExisting draft =>
      simp only [step, View.query_snd] at h
      split_ifs at h
      · cases h
        trivial
      · rcases existing_cases draft (v.db.find draft.event.idempotencyKey) with
          heq | ⟨r, -, -, -, ⟨-, heq⟩ | ⟨-, heq⟩⟩ | ⟨r, hash, -, -, -, heq⟩ <;> rw [heq] at h <;> cases h
        trivial
  | sealNext =>
      simp only [step] at h
      split at h <;> cases h
  | insertNext =>
      simp only [step] at h
      split_ifs at h with hfails
      rw [View.execute_snd, if_neg hfails] at h
      cases h
  | fillNext =>
      simp only [step] at h
      split_ifs at h with hfails
      rw [View.execute_snd, if_neg hfails] at h
      split_ifs at h
  | redriveSelect key =>
      simp only [step, View.query_snd] at h
      split_ifs at h
      · cases h
        trivial
      · generalize List.map _ _ = candidates at h
        cases candidates <;> cases h
        trivial
  | redriveOpen _ candidates =>
      simp only [step] at h
      split at h
      · cases candidates <;> cases h
        trivial
      · cases h
  | redriveUpdate _ candidates =>
      simp only [step, View.execute_snd] at h
      split_ifs at h
      · cases h
        trivial
      · cases candidates <;> cases h
        trivial
  | readStart =>
      simp only [step] at h
      split_ifs at h
  | openPayloads raw =>
      simp only [step] at h
      split_ifs at h
      · cases h
        trivial
      · cases raw <;> cases h
        trivial
  | openNext row raw out =>
      simp only [step] at h
      split at h
      · cases raw <;> cases h
        trivial
      · split_ifs at h
  | testSeal row e raw out =>
      simp only [step] at h
      split at h <;> cases h
      trivial
  | deadLetter row e raw out =>
      simp only [step] at h
      split_ifs at h with hfails
      · cases raw <;> cases h
        trivial
      · rw [View.execute_snd, if_neg hfails] at h
        cases raw <;> cases h
        trivial

end View

def Draft.IsSealed (sys : System) (draft : Draft) : Prop :=
  draft.status = .pending ∧ sys.Seals draft.payload draft.event

def Draft.IsQuarantined (draft : Draft) : Prop := draft.status = .dead ∧ draft.payload = quarantinedPayload

def Draft.Sound (sys : System) (draft : Draft) : Prop := draft.IsSealed sys ∨ draft.IsQuarantined

def After.Sound (sys : System) : After → Prop
  | insert draft => draft.IsSealed sys
  | read _ _ => True

/-- The payloads a thread carries are its events', sealed, or the quarantine marker. -/
def Task.Sound (sys : System) : Task → Prop
  | write draft | readExisting draft | hold draft | countCollision draft => draft.Sound sys
  | countFailure draft => draft.IsQuarantined
  | fill draft | forget draft => draft.IsSealed sys
  | take after | sealNext _ _ _ after | putBack _ after => after.Sound sys
  | fillNext held token _ _ after | insertNext held token _ _ after => sys.Seals token held.event ∧ after.Sound sys
  | _ => True

section Sound

variable {sys : System} {env : Env} {v : View} {after : After} {allow : Bool}

lemma After.sound_task (h : after.Sound sys) : after.task.Sound sys := by
  cases after with
  | insert draft => exact .inl h
  | read => trivial

lemma sound_resealLoop (h : after.Sound sys) (mine waiting : List HeldSeal) :
    (resealLoop mine waiting after).Sound sys := by
  cases mine with
  | cons => exact h
  | nil =>
      simp only [resealLoop]
      split_ifs
      · exact After.sound_task h
      · exact h

lemma sound_redriveLoop (candidates : List (String × Text)) (revived : ℕ) :
    (redriveLoop candidates revived).task.Sound sys := by
  cases candidates <;> trivial

lemma sound_openLoop (raw out : List Row) : (openLoop raw out).task.Sound sys := by
  cases raw <;> trivial

lemma Task.sound_step (hsys : sys.Lawful) {t : Task} (h : t.Sound sys) :
    (t.step sys (sys.platformProtection allow) env v).2.task.Sound sys := by
  cases t with
  | idle | countCollision | ack | ackRead | bookRead | markDead | pruneSent | pruneDead | hold | forget |
    readAttempts | book | select =>
      simp only [step, View.execute_snd, View.query_snd]
      (try split_ifs) <;> trivial
  | sealing event target =>
      simp only [step, sealEvent]
      rcases hseal : sys.protectPayload env (sys.platformProtection allow) (eventToString event) with e | token
      · exact .inr ⟨rfl, rfl⟩
      · exact ⟨rfl, hsys.seals hseal⟩
  | write draft =>
      simp only [step, View.execute_snd]
      split_ifs with hfails hone hdead
      · trivial
      · rcases h with h | h
        · simp [h.1] at hdead
        · exact h
      · trivial
      · exact h
  | countFailure draft =>
      simp only [step, View.execute_snd]
      split_ifs
      · trivial
      · exact .inr h
  | readExisting draft =>
      simp only [step, View.query_snd]
      split_ifs
      · trivial
      rcases existing_cases draft (v.db.find draft.event.idempotencyKey) with
        heq | ⟨r, -, -, -, ⟨hpending, heq⟩ | ⟨-, heq⟩⟩ | ⟨r, hash, -, -, -, heq⟩ <;> rw [heq]
      · trivial
      · rcases h with h | h
        · exact h
        · simp [h.1] at hpending
      · exact h
      · exact h
  | fill draft =>
      simp only [step, View.execute_snd]
      split_ifs
      · trivial
      · exact h
      · exact .inl h
  | take after => exact sound_resealLoop h _ _
  | sealNext held mine waiting after =>
      simp only [step]
      split
      next token hseal => exact ⟨hsys.seals hseal, h⟩
      next => exact sound_resealLoop h [] (waiting ++ held :: mine)
  | fillNext held token mine waiting after =>
      simp only [step]
      split_ifs with hfails
      · exact sound_resealLoop h.2 _ _
      · rw [View.execute_snd, if_neg hfails]
        split_ifs
        · exact sound_resealLoop h.2 _ _
        · exact h
  | insertNext held token mine waiting after =>
      simp only [step]
      split_ifs with hfails
      · exact sound_resealLoop h.2 _ _
      · rw [View.execute_snd, if_neg hfails]
        exact sound_resealLoop h.2 _ _
  | putBack waiting after => exact After.sound_task h
  | redriveSelect key =>
      simp only [step, View.query_snd]
      split_ifs
      · trivial
      · exact sound_redriveLoop _ _
  | redriveOpen candidate candidates revived =>
      simp only [step]
      split
      · exact sound_redriveLoop _ _
      · trivial
  | redriveUpdate candidate candidates revived =>
      simp only [step, View.execute_snd]
      split_ifs
      · trivial
      · exact sound_redriveLoop _ _
  | readStart reading limit =>
      simp only [step]
      split_ifs <;> trivial
  | openPayloads raw =>
      simp only [step]
      split_ifs
      · trivial
      · exact sound_openLoop _ _
  | openNext row raw out =>
      simp only [step]
      split
      · exact sound_openLoop _ _
      · split_ifs <;> trivial
  | testSeal row e raw out =>
      simp only [step]
      split <;> trivial
  | deadLetter row e raw out =>
      simp only [step]
      split_ifs with hfails
      · exact sound_openLoop _ _
      · rw [View.execute_snd, if_neg hfails]
        exact sound_openLoop _ _

def Statement.Sound (sys : System) : Statement → Prop
  | insertOrIgnore event _ payload status _ _ =>
    (status = .pending ∧ sys.Seals payload event) ∨ (status = .dead ∧ payload = quarantinedPayload)
  | update (.fillQuarantined key token _) => ∃ event, event.idempotencyKey = key ∧ sys.Seals token event
  | _ => True

lemma Task.Sound.statement {t : Task} (h : t.Sound sys) : ∀ st ∈ t.statement env, st.Sound sys := by
  intro st hst
  cases t <;> simp only [Task.statement, Option.mem_def, Option.some.injEq, reduceCtorEq] at hst <;> subst hst
  case write => exact h
  case fill draft => exact ⟨draft.event, rfl, h.2⟩
  case fillNext held token mine waiting after => exact ⟨held.event, rfl, h.1⟩
  case insertNext held token mine waiting after => exact .inl ⟨rfl, h.1⟩
  all_goals trivial

end Sound

namespace World

variable {κ π : Type} {S : Setup κ π} {w : World κ π}

def statement (w : World κ π) : Input κ π → Option Statement
  | .go c env => if env.sqlFails then none else (w.task c).statement env
  | .start _ _ | .exit _ => none

structure Sound (S : Setup κ π) (w : World κ π) : Prop where
  db : w.db.WellFormed
  tasks : ∀ c, (w.task c).Sound S.sys

lemma Sound.initial {db : Db} (h : db.WellFormed) : Sound S (initial db) where
  db := h
  tasks := fun _ => trivial

lemma Sound.statement (h : Sound S w) {i : Input κ π} : ∀ st ∈ w.statement i, st.Sound S.sys := by
  intro st hst
  cases i with
  | start | exit => simp [World.statement] at hst
  | go c env =>
      simp only [World.statement] at hst
      split_ifs at hst
      · simp at hst
      · exact (h.tasks c).statement st hst

variable [DecidableEq κ] [DecidableEq π]

lemma step_db (i : Input κ π) : (step S w i).1.db = w.db.run (w.statement i) := by
  cases i with
  | start c op =>
      simp only [step, statement, Db.run]
      split <;> rfl
  | exit p => rfl
  | go c env =>
      simp only [step, statement, store, Task.step_db, view]
      split_ifs <;> rfl

lemma step_task (i : Input κ π) (c : κ) :
    (step S w i).1.task c = w.task c ∨ (i = .exit (S.process c) ∧ (step S w i).1.task c = .idle) ∨
    (∃ op, i = .start c op ∧ w.task c = .idle ∧ (step S w i).1.task c = op.begin) ∨
    ∃ env, i = .go c env ∧
      (step S w i).1.task c = ((w.task c).step S.sys (S.mode c) env (w.view S c)).2.task := by
  cases i with
  | start d op =>
      simp only [step]
      split
      next hidle =>
        by_cases hd : c = d
        · subst hd
          exact .inr (.inr (.inl ⟨op, rfl, hidle, by simp [task]⟩))
        · exact .inl (by simp [task, hd])
      next => exact .inl rfl
  | exit p =>
      by_cases hp : S.process c = p
      · exact .inr (.inl ⟨by rw [hp], by simp [step, task, hp]⟩)
      · exact .inl (by simp [step, task, hp])
  | go d env =>
      by_cases hd : c = d
      · subst hd
        exact .inr (.inr (.inr ⟨env, rfl, by simp [step, store, task]⟩))
      · exact .inl (by simp [step, store, task, hd])

lemma task_start {c : κ} (hidle : w.task c = .idle) (op : Op) : (step S w (.start c op)).1.task c = op.begin := by
  simp only [step, hidle]
  simp [task]

lemma step_reply {i : Input κ π} {c : κ} {reply : Reply} (h : (step S w i).2 = some (c, reply)) :
    ∃ env, i = .go c env ∧ ((w.task c).step S.sys (S.mode c) env (w.view S c)).2 = .done reply := by
  cases i with
  | start d op =>
      simp only [step] at h
      split at h <;> cases h
  | exit p => cases h
  | go d env =>
      simp only [step] at h
      rcases hnext : ((w.task d).step S.sys (S.mode d) env (w.view S d)).2 with task | answer
      · simp [hnext, Next.reply] at h
      · simp only [hnext, Next.reply, Option.map_some, Option.some.injEq, Prod.mk.injEq] at h
        obtain ⟨rfl, rfl⟩ := h
        exact ⟨env, rfl, hnext⟩

lemma Sound.step (hsys : S.sys.Lawful) (h : Sound S w) (i : Input κ π) : Sound S (World.step S w i).1 where
  db := by
    rw [step_db]
    rcases w.statement i with - | st
    · exact h.db
    · exact h.db.exec st
  tasks := by
    intro c
    rcases step_task (S := S) (w := w) i c with heq | ⟨-, heq⟩ | ⟨op, -, -, heq⟩ | ⟨env, -, heq⟩ <;> rw [heq]
    · exact h.tasks c
    · trivial
    · cases op <;> trivial
    · exact Task.sound_step hsys (h.tasks c)

end World

end Aokie.Plugin.Outbox
