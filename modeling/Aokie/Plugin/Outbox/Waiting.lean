import Aokie.Plugin.Outbox.Lattice

/-! The events that wait for a seal: held by a process, in the hands of a `reseal_held`, or in those of the
`insert_pending` that wrote or found their quarantine row. -/

namespace Aokie.Plugin.Outbox

open Aokie.Lib

/-- What a running `reseal_held` has taken out of `HELD_SEALS`. -/
def Task.inHands : Task → List HeldSeal
  | sealNext held mine waiting _ | fillNext held _ mine waiting _ | insertNext held _ mine waiting _ =>
    held :: mine ++ waiting
  | putBack waiting _ => waiting
  | _ => []

/-- The event of an `insert_pending` that has its quarantine row. -/
def Task.ownEvent : Task → Option DesktopEvent
  | countFailure draft | hold draft | fill draft | forget draft => some draft.event
  | _ => none

/-- The tasks that have no event waiting for a seal and lead only to one another. -/
def Task.Elsewhere : Task → Prop
  | sealing .. | write .. | countFailure .. | hold .. | readExisting .. | fill .. | forget .. => False
  | take .. | sealNext .. | fillNext .. | insertNext .. | putBack .. | readStart .. => False
  | _ => True

section Tasks

variable {sys : System} {mode : PayloadProtection} {env : Env} {v : View}

/-- A statement leads to the end of its call or to what is to follow it. -/
lemma View.execute_task {P : Task → Prop} {st : Statement} {k : ℕ → Next} (hidle : P .idle)
    (hnext : ∀ n, P (k n).task) : P (v.execute env st k).2.task := by
  rw [execute_snd]
  split_ifs
  · exact hidle
  · exact hnext _

lemma View.query_task {P : Task → Prop} {k : Next} (hidle : P .idle) (hnext : P k.task) :
    P (v.query env k).2.task := by
  rw [query_snd]
  split_ifs
  · exact hidle
  · exact hnext

lemma elsewhere_redriveLoop (candidates : List (String × Text)) (revived : ℕ) :
    (redriveLoop candidates revived).task.Elsewhere := by
  cases candidates <;> trivial

lemma elsewhere_openLoop (raw out : List Row) : (openLoop raw out).task.Elsewhere := by
  cases raw <;> trivial

lemma Task.elsewhere_step {t : Task} (h : t.Elsewhere) : (t.step sys mode env v).2.task.Elsewhere := by
  cases t with
  | sealing | write | countFailure | hold | readExisting | fill | forget => exact h.elim
  | take | sealNext | fillNext | insertNext | putBack | readStart => exact h.elim
  | idle => trivial
  | countCollision | readAttempts | book | bookRead | markDead | ackRead | select | pruneSent | pruneDead =>
      first
        | exact View.execute_task trivial fun _ => trivial
        | exact View.query_task trivial trivial
  | ack key =>
      refine View.execute_task trivial fun n => ?_
      split_ifs <;> trivial
  | redriveSelect key => exact View.query_task trivial (elsewhere_redriveLoop _ _)
  | redriveOpen candidate candidates revived =>
      simp only [step]
      split
      · exact elsewhere_redriveLoop _ _
      · trivial
  | redriveUpdate candidate candidates revived =>
      exact View.execute_task trivial fun n => elsewhere_redriveLoop _ _
  | openPayloads raw =>
      simp only [step]
      split_ifs
      · trivial
      · exact elsewhere_openLoop _ _
  | openNext row raw out =>
      simp only [step]
      split
      · exact elsewhere_openLoop _ _
      · split_ifs <;> trivial
  | testSeal row e raw out =>
      simp only [step]
      split <;> trivial
  | deadLetter row e raw out =>
      simp only [step]
      split_ifs
      · exact elsewhere_openLoop _ _
      · exact View.execute_task trivial fun _ => elsewhere_openLoop _ _

lemma Task.inHands_of_elsewhere {t : Task} (ht : t.Elsewhere) : t.inHands = [] := by
  cases t <;> first | rfl | exact ht.elim

lemma Task.ownEvent_of_elsewhere {t : Task} (ht : t.Elsewhere) : t.ownEvent = none := by
  cases t <;> first | rfl | exact ht.elim

lemma Task.not_inHands_step {t : Task} {h : HeldSeal} (hmem : h ∈ (t.step sys mode env v).2.task.inHands)
    (ht : t.Elsewhere) : False := by
  rw [inHands_of_elsewhere (elsewhere_step ht)] at hmem
  exact List.not_mem_nil hmem

lemma Task.not_ownEvent_step {t : Task} {event : DesktopEvent}
    (h : (t.step sys mode env v).2.task.ownEvent = some event) (ht : t.Elsewhere) : False := by
  rw [ownEvent_of_elsewhere (elsewhere_step ht)] at h
  cases h

lemma inHands_after (after : After) : after.task.inHands = [] := by
  cases after <;> rfl

lemma inHands_resealLoop (mine waiting : List HeldSeal) (after : After) :
    (resealLoop mine waiting after).inHands = mine ++ waiting := by
  cases mine with
  | cons => rfl
  | nil =>
      simp only [resealLoop]
      split_ifs with hempty
      · rw [inHands_after, List.isEmpty_iff.mp hempty]
        rfl
      · rfl

lemma ownEvent_after (after : After) : after.task.ownEvent = none := by
  cases after <;> rfl

lemma ownEvent_resealLoop (mine waiting : List HeldSeal) (after : After) :
    (resealLoop mine waiting after).ownEvent = none := by
  cases mine with
  | cons => rfl
  | nil =>
      simp only [resealLoop]
      split_ifs
      · exact ownEvent_after after
      · rfl

lemma mem_forgetHeld {held : List HeldSeal} {key : String} {h : HeldSeal} :
    h ∈ forgetHeld held key ↔ h ∈ held ∧ h.event.idempotencyKey ≠ key := by
  simp [forgetHeld]

lemma mem_holdForSeal {held : List HeldSeal} {event : DesktopEvent} {target : String} {h : HeldSeal}
    (hmem : h ∈ holdForSeal held event target) : h ∈ held ∨ h.event = event := by
  simp only [holdForSeal] at hmem
  split at hmem
  next i hi =>
    obtain ⟨j, hj, rfl⟩ := List.mem_iff_getElem.mp hmem
    rw [List.getElem_modify]
    split_ifs
    · exact .inr rfl
    · exact .inl (List.getElem_mem _)
  next =>
    split_ifs at hmem
    · exact .inl hmem
    · rcases List.mem_append.mp hmem with hmem | hmem
      · exact .inl hmem
      · rw [List.mem_singleton.mp hmem]
        exact .inr rfl

lemma Task.inHands_step {t : Task} {h : HeldSeal} (hmem : h ∈ (t.step sys mode env v).2.task.inHands) :
    h ∈ t.inHands ∨ h ∈ v.held ∧ ∃ after, t = .take after := by
  cases t with
  | take after =>
      rw [show (Task.step sys mode env v (.take after)).2.task = resealLoop v.held [] after from rfl,
        inHands_resealLoop, List.append_nil] at hmem
      exact .inr ⟨hmem, after, rfl⟩
  | sealNext held mine waiting after =>
      left
      simp only [step] at hmem
      split at hmem
      · exact hmem
      · simp only [Next.task, inHands_resealLoop, List.nil_append] at hmem
        simp only [inHands, List.mem_append, List.mem_cons] at hmem ⊢
        tauto
  | fillNext held token mine waiting after =>
      left
      simp only [step] at hmem
      split_ifs at hmem with hfails
      · simp only [Next.task, inHands_resealLoop] at hmem
        simp only [inHands, List.mem_append, List.mem_cons] at hmem ⊢
        tauto
      · rw [View.execute_snd, if_neg hfails] at hmem
        split_ifs at hmem
        · simp only [Next.task, inHands_resealLoop] at hmem
          exact List.mem_cons_of_mem _ hmem
        · exact hmem
  | insertNext held token mine waiting after =>
      left
      simp only [step] at hmem
      split_ifs at hmem with hfails
      · simp only [Next.task, inHands_resealLoop] at hmem
        simp only [inHands, List.mem_append, List.mem_cons] at hmem ⊢
        tauto
      · rw [View.execute_snd, if_neg hfails] at hmem
        simp only [Next.task, inHands_resealLoop] at hmem
        exact List.mem_cons_of_mem _ hmem
  | putBack waiting after =>
      rw [show (Task.step sys mode env v (.putBack waiting after)).2.task = after.task from rfl, inHands_after] at hmem
      exact absurd hmem List.not_mem_nil
  | sealing event target =>
      simp only [step, sealEvent] at hmem
      split at hmem <;> exact absurd hmem List.not_mem_nil
  | write draft =>
      refine absurd hmem (View.execute_task (P := (h ∉ ·.inHands)) List.not_mem_nil fun n => ?_)
      split_ifs <;> exact List.not_mem_nil
  | countFailure draft =>
      exact absurd hmem (View.execute_task (P := (h ∉ ·.inHands)) List.not_mem_nil fun _ => List.not_mem_nil)
  | readExisting draft =>
      refine absurd hmem (View.query_task (P := (h ∉ ·.inHands)) List.not_mem_nil ?_)
      rcases existing_cases draft (v.db.find draft.event.idempotencyKey) with
        heq | ⟨_, -, -, -, ⟨-, heq⟩ | ⟨-, heq⟩⟩ | ⟨_, _, -, -, -, heq⟩ <;> rw [heq] <;> exact List.not_mem_nil
  | fill draft =>
      refine absurd hmem (View.execute_task (P := (h ∉ ·.inHands)) List.not_mem_nil fun n => ?_)
      split_ifs <;> exact List.not_mem_nil
  | readStart reading limit =>
      simp only [step] at hmem
      split_ifs at hmem <;> exact absurd hmem List.not_mem_nil
  | hold | forget => exact absurd hmem List.not_mem_nil
  | _ => exact (not_inHands_step hmem trivial).elim

lemma Task.ownEvent_step {t : Task} {event : DesktopEvent}
    (h : (t.step sys mode env v).2.task.ownEvent = some event) :
    t.ownEvent = some event ∨
    (∃ draft, t = .write draft ∧ draft.event = event ∧ draft.status = .dead ∧ env.sqlFails = false ∧
      v.db.hasKey event.idempotencyKey = false) ∨
    ∃ draft row, t = .readExisting draft ∧ draft.event = event ∧ v.db.find event.idempotencyKey = some row ∧
      row.payloadHash = some (payloadFingerprint event) ∧ startsWith row.payloadJson quarantinedPayload = true := by
  cases t with
  | write draft =>
      right
      left
      simp only [step, View.execute_snd] at h
      split_ifs at h with hfails hone hdead
      · simp [Next.task, ownEvent] at h
      · obtain rfl : draft.event = event := Option.some.inj h
        refine ⟨draft, rfl, rfl, hdead, by simpa using hfails, ?_⟩
        by_contra hkey
        simp [Db.exec, Bool.not_eq_false _ ▸ hkey] at hone
      · simp [Next.task, ownEvent] at h
      · simp [Next.task, ownEvent] at h
  | readExisting draft =>
      right
      right
      simp only [step, View.query_snd] at h
      split_ifs at h
      · simp [Next.task, ownEvent] at h
      · rcases existing_cases draft (v.db.find draft.event.idempotencyKey) with
          heq | ⟨row, hrow, hhash, hq, ⟨-, heq⟩ | ⟨-, heq⟩⟩ | ⟨row, hash, -, -, -, heq⟩ <;> rw [heq] at h
        · simp [Next.task, ownEvent] at h
        · obtain rfl : draft.event = event := Option.some.inj h
          exact ⟨draft, row, rfl, rfl, hrow, hhash, hq⟩
        · obtain rfl : draft.event = event := Option.some.inj h
          exact ⟨draft, row, rfl, rfl, hrow, hhash, hq⟩
        · simp [Next.task, ownEvent] at h
  | countFailure draft =>
      simp only [step, View.execute_snd] at h
      split_ifs at h
      · simp [Next.task, ownEvent] at h
      · exact .inl h
  | fill draft =>
      simp only [step, View.execute_snd] at h
      split_ifs at h
      · simp [Next.task, ownEvent] at h
      · exact .inl h
      · exact .inl h
  | take after =>
      rw [show (Task.step sys mode env v (.take after)).2.task = resealLoop v.held [] after from rfl,
        ownEvent_resealLoop] at h
      simp at h
  | putBack waiting after =>
      rw [show (Task.step sys mode env v (.putBack waiting after)).2.task = after.task from rfl, ownEvent_after] at h
      simp at h
  | sealNext held mine waiting after =>
      simp only [step] at h
      split at h
      · simp [Next.task, ownEvent] at h
      · rw [Next.task, ownEvent_resealLoop] at h
        simp at h
  | fillNext held token mine waiting after =>
      simp only [step] at h
      split_ifs at h with hfails
      · rw [Next.task, ownEvent_resealLoop] at h
        simp at h
      · rw [View.execute_snd, if_neg hfails] at h
        split_ifs at h
        · rw [Next.task, ownEvent_resealLoop] at h
          simp at h
        · simp [Next.task, ownEvent] at h
  | insertNext held token mine waiting after =>
      simp only [step] at h
      split_ifs at h with hfails
      · rw [Next.task, ownEvent_resealLoop] at h
        simp at h
      · rw [View.execute_snd, if_neg hfails, Next.task, ownEvent_resealLoop] at h
        simp at h
  | sealing e target =>
      simp only [step, sealEvent] at h
      split at h <;> simp [Next.task, ownEvent] at h
  | readStart reading limit =>
      simp only [step] at h
      split_ifs at h <;> simp [Next.task, ownEvent] at h
  | hold | forget => simp [step, Next.task, ownEvent] at h
  | _ => exact (not_ownEvent_step h trivial).elim

def Task.heldAfter (held : List HeldSeal) : Task → List HeldSeal
  | hold draft => holdForSeal held draft.event draft.target
  | forget draft => forgetHeld held draft.event.idempotencyKey
  | take _ => []
  | putBack waiting _ => waiting ++ held
  | _ => held

lemma View.execute_held (st : Statement) (k : ℕ → Next) : (v.execute env st k).1.held = v.held := by
  rw [execute_fst]
  split_ifs <;> rfl

lemma Task.step_held (t : Task) : (t.step sys mode env v).1.held = t.heldAfter v.held := by
  cases t with
  | hold | forget | take | putBack | idle | sealing => rfl
  | write | countFailure | fill | countCollision | ack | book | markDead | redriveUpdate | pruneSent | pruneDead =>
      exact View.execute_held _ _
  | fillNext | insertNext | deadLetter =>
      simp only [step, heldAfter]
      split_ifs
      · rfl
      · exact View.execute_held _ _
  | readExisting | ackRead | readAttempts | bookRead | redriveSelect | select =>
      simp only [step, heldAfter, View.query_fst]
  | sealNext | redriveOpen | testSeal =>
      simp only [step, heldAfter]
      split <;> rfl
  | openNext =>
      simp only [step, heldAfter]
      split
      · rfl
      · split_ifs <;> rfl
  | readStart | openPayloads =>
      simp only [step, heldAfter]
      split_ifs <;> rfl

lemma Task.mem_heldAfter {t : Task} {held : List HeldSeal} {h : HeldSeal} (hmem : h ∈ t.heldAfter held) :
    h ∈ held ∨ h ∈ t.inHands ∨ t.ownEvent = some h.event := by
  cases t with
  | hold draft =>
      rcases mem_holdForSeal hmem with hold | heq
      · exact .inl hold
      · exact .inr (.inr (by rw [heq]; rfl))
  | forget draft => exact .inl (mem_forgetHeld.mp hmem).1
  | take after => exact absurd hmem List.not_mem_nil
  | putBack waiting after =>
      rcases List.mem_append.mp hmem with hmem | hmem
      · exact .inr (.inl hmem)
      · exact .inl hmem
  | _ => exact .inl hmem

end Tasks

namespace World

variable {κ π : Type} {S : Setup κ π} {w : World κ π}

def Waits (w : World κ π) (event : DesktopEvent) : Prop :=
  (∃ p, ∃ h ∈ w.held p, h.event = event) ∨ (∃ c, ∃ h ∈ (w.task c).inHands, h.event = event) ∨
    ∃ c, (w.task c).ownEvent = some event

lemma Waits.initial {db : Db} {event : DesktopEvent} : ¬Waits (initial (κ := κ) (π := π) db) event := by
  rintro (⟨p, h, hmem, -⟩ | ⟨c, h, hmem, -⟩ | ⟨c, h⟩)
  · exact absurd hmem List.not_mem_nil
  · exact absurd hmem List.not_mem_nil
  · simp [World.initial, task, Task.ownEvent] at h

lemma waits_of_fill (hsound : Sound S w) {i : Input κ π} {key now : String} {token : Text}
    (hst : w.statement i = some (.update (.fillQuarantined key token now))) :
    ∃ event, Waits w event ∧ event.idempotencyKey = key ∧ S.sys.Seals token event := by
  cases i with
  | start | exit => simp [statement] at hst
  | go c env =>
      simp only [statement] at hst
      split_ifs at hst
      have htask := hsound.tasks c
      cases ht : w.task c <;> simp [ht, Task.statement] at hst <;> rw [ht] at htask
      case fill draft =>
        obtain ⟨rfl, rfl, -⟩ := hst
        exact ⟨draft.event, .inr (.inr ⟨c, by rw [ht]; rfl⟩), rfl, htask.2⟩
      case fillNext held token mine waiting after =>
        obtain ⟨rfl, rfl, -⟩ := hst
        exact ⟨held.event, .inr (.inl ⟨c, held, by rw [ht]; exact List.mem_cons_self, rfl⟩), rfl, htask.1⟩

lemma insert_cases (hsound : Sound S w) {i : Input κ π} {event : DesktopEvent} {target : String} {payload : Text}
    {status : OutboxStatus} {lastError : Option String} {now : String}
    (hst : w.statement i = some (.insertOrIgnore event target payload status lastError now)) :
    (∃ c env draft, i = .go c env ∧ w.task c = .write draft ∧ env.sqlFails = false ∧ draft.event = event ∧
      draft.payload = payload ∧ draft.status = status) ∨
    (Waits w event ∧ S.sys.Seals payload event ∧ status = .pending) := by
  cases i with
  | start | exit => simp [statement] at hst
  | go c env =>
      simp only [statement] at hst
      split_ifs at hst with hfails
      have htask := hsound.tasks c
      cases ht : w.task c <;> simp [ht, Task.statement] at hst <;> rw [ht] at htask
      case write draft =>
        obtain ⟨rfl, rfl, rfl, rfl, -, -⟩ := hst
        exact .inl ⟨c, env, draft, rfl, ht, by simpa using hfails, rfl, rfl, rfl⟩
      case insertNext held token mine waiting after =>
        obtain ⟨rfl, rfl, rfl, rfl, -, -⟩ := hst
        exact .inr ⟨.inr (.inl ⟨c, held, by rw [ht]; exact List.mem_cons_self, rfl⟩), htask.1, rfl⟩

variable [DecidableEq κ] [DecidableEq π]

lemma step_held (i : Input κ π) (p : π) :
    (step S w i).1.held p = w.held p ∨ (i = .exit p ∧ (step S w i).1.held p = []) ∨
      ∃ c env, i = .go c env ∧ S.process c = p ∧ (step S w i).1.held p = (w.task c).heldAfter (w.held p) := by
  cases i with
  | start c op =>
      left
      simp only [step]
      split <;> rfl
  | exit q =>
      by_cases hp : p = q
      · exact .inr (.inl ⟨by rw [hp], by simp [step, hp]⟩)
      · exact .inl (by simp [step, hp])
  | go c env =>
      by_cases hp : p = S.process c
      · subst hp
        exact .inr (.inr ⟨c, env, rfl, rfl, by simp [step, store, Task.step_held, view]⟩)
      · exact .inl (by simp [step, store, hp])

lemma waits_step {i : Input κ π} {event : DesktopEvent} (h : Waits (step S w i).1 event) :
    Waits w event ∨
    (∃ c env draft, i = .go c env ∧ w.task c = .write draft ∧ draft.event = event ∧ draft.status = .dead ∧
      env.sqlFails = false ∧ w.db.hasKey event.idempotencyKey = false) ∨
    ∃ c env draft row, i = .go c env ∧ w.task c = .readExisting draft ∧ draft.event = event ∧
      w.db.find event.idempotencyKey = some row ∧ row.payloadHash = some (payloadFingerprint event) ∧
      startsWith row.payloadJson quarantinedPayload = true := by
  rcases h with ⟨p, held, hmem, rfl⟩ | ⟨c, held, hmem, rfl⟩ | ⟨c, hown⟩
  · left
    rcases step_held (S := S) (w := w) i p with heq | ⟨-, heq⟩ | ⟨c, env, -, -, heq⟩ <;> rw [heq] at hmem
    · exact .inl ⟨p, held, hmem, rfl⟩
    · exact absurd hmem List.not_mem_nil
    · rcases Task.mem_heldAfter hmem with hmem | hmem | hown
      · exact .inl ⟨p, held, hmem, rfl⟩
      · exact .inr (.inl ⟨c, held, hmem, rfl⟩)
      · exact .inr (.inr ⟨c, hown⟩)
  · left
    rcases step_task (S := S) (w := w) i c with heq | ⟨-, heq⟩ | ⟨op, -, -, heq⟩ | ⟨env, -, heq⟩ <;> rw [heq] at hmem
    · exact .inr (.inl ⟨c, held, hmem, rfl⟩)
    · exact absurd hmem List.not_mem_nil
    · cases op <;> exact absurd hmem List.not_mem_nil
    · rcases Task.inHands_step hmem with hmem | ⟨hmem, -⟩
      · exact .inr (.inl ⟨c, held, hmem, rfl⟩)
      · exact .inl ⟨S.process c, held, hmem, rfl⟩
  · rcases step_task (S := S) (w := w) i c with heq | ⟨-, heq⟩ | ⟨op, -, -, heq⟩ | ⟨env, rfl, heq⟩ <;> rw [heq] at hown
    · exact .inl (.inr (.inr ⟨c, hown⟩))
    · simp [Task.ownEvent] at hown
    · cases op <;> simp [Op.begin, Task.ownEvent] at hown
    · rcases Task.ownEvent_step hown with hown | ⟨draft, ht, hd, hstatus, hfails, hkey⟩ | ⟨draft, row, ht, hd, hrest⟩
      · exact .inl (.inr (.inr ⟨c, hown⟩))
      · exact .inr (.inl ⟨c, env, draft, rfl, ht, hd, hstatus, hfails, hkey⟩)
      · exact .inr (.inr ⟨c, env, draft, row, rfl, ht, hd, hrest⟩)

end World

end Aokie.Plugin.Outbox
