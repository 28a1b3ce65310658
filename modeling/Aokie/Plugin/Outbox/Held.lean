import Aokie.Plugin.Outbox.Waiting

/-! The events one process holds for a late seal: none is lost, and none that was delivered comes back. -/

namespace Aokie.Plugin.Outbox

open Aokie.Lib

/-- The row has the sealed payload of the occurrence that a key and a fingerprint name. -/
def Row.Stores (sys : System) (row : Row) (key fingerprint : String) : Prop :=
  row.idempotencyKey = key ∧ ∃ event, sys.Seals row.payloadJson event ∧ payloadFingerprint event = fingerprint

def Row.quarantined (row : Row) : Bool := startsWith row.payloadJson quarantinedPayload

lemma Row.Stores.not_quarantined {sys : System} {row : Row} {key fingerprint : String}
    (h : row.Stores sys key fingerprint) : row.quarantined = false := by
  obtain ⟨-, event, hseals, -⟩ := h
  exact hseals.not_quarantined

lemma like_of_quarantined {row : Row} (h : row.quarantined = true) :
    like row.payloadJson quarantinedPayload = true := by
  simp only [Row.quarantined, startsWith, List.isPrefixOf_iff_prefix] at h
  simp only [like, List.isPrefixOf_iff_prefix]
  exact h.map Char.toLower

section Tasks

variable {sys : System} {mode : PayloadProtection} {env : Env} {v : View}

lemma holdForSeal_keeps {held : List HeldSeal} (event : DesktopEvent) (target : String) {h : HeldSeal}
    (hmem : h ∈ held) :
    h ∈ holdForSeal held event target ∨
      h.event.idempotencyKey = event.idempotencyKey ∧ ∃ h' ∈ holdForSeal held event target, h'.event = event := by
  simp only [holdForSeal]
  split
  next i hi =>
    obtain ⟨j, hj, rfl⟩ := List.mem_iff_getElem.mp hmem
    have hlen : j < (held.modify i fun h => { h with event := event }).length := by simpa using hj
    have hget := List.getElem_modify (fun h : HeldSeal => { h with event := event }) i held j hlen
    by_cases hij : i = j
    · subst hij
      right
      obtain ⟨hlt, hkey, -⟩ := List.findIdx?_eq_some_iff_getElem.mp hi
      refine ⟨by simpa using hkey, _, List.getElem_mem hlen, ?_⟩
      rw [hget, if_pos rfl]
    · left
      rw [if_neg hij] at hget
      rw [← hget]
      exact List.getElem_mem hlen
  next =>
    left
    split_ifs
    · exact hmem
    · exact List.mem_append_left _ hmem

lemma mem_holdForSeal_self {held : List HeldSeal} (event : DesktopEvent) (target : String)
    (hroom : held.length < maxHeldSeals) : ∃ h ∈ holdForSeal held event target, h.event = event := by
  simp only [holdForSeal]
  split
  next i hi =>
    obtain ⟨hlt, -, -⟩ := List.findIdx?_eq_some_iff_getElem.mp hi
    have hlen : i < (held.modify i fun h => { h with event := event }).length := by simpa using hlt
    refine ⟨_, List.getElem_mem hlen, ?_⟩
    rw [List.getElem_modify, if_pos rfl]
  next =>
    rw [if_neg (by omega)]
    exact ⟨⟨event, target⟩, by simp, rfl⟩

variable (sys mode env v) in
lemma Task.inHands_kept {t : Task} {h : HeldSeal} (hmem : h ∈ t.inHands) :
    h ∈ (t.step sys mode env v).2.task.inHands ∨ h ∈ t.heldAfter v.held ∨
    (∃ token mine waiting after, t = .fillNext h token mine waiting after ∧ env.sqlFails = false ∧
      v.db.rows.countP (Update.fillQuarantined h.event.idempotencyKey token (nowIso8601 env)).applies = 1) ∨
    ∃ token mine waiting after, t = .insertNext h token mine waiting after ∧ env.sqlFails = false := by
  cases t with
  | sealNext held mine waiting after =>
      left
      simp only [step]
      split
      · exact hmem
      · simp only [Next.task, inHands_resealLoop, List.nil_append]
        simp only [inHands, List.mem_append, List.mem_cons] at hmem ⊢
        tauto
  | fillNext held token mine waiting after =>
      simp only [inHands, List.cons_append, List.mem_cons] at hmem
      simp only [step]
      split_ifs with hfails
      · left
        simp only [Next.task, inHands_resealLoop, List.mem_append, List.mem_cons] at hmem ⊢
        tauto
      · rw [View.execute_snd, if_neg hfails]
        split_ifs with hone
        · rcases hmem with rfl | hmem
          · exact .inr (.inr (.inl ⟨token, mine, waiting, after, rfl, by simpa using hfails, hone⟩))
          · left
            simpa only [Next.task, inHands_resealLoop] using hmem
        · left
          simpa only [Next.task, inHands, List.cons_append, List.mem_cons] using hmem
  | insertNext held token mine waiting after =>
      simp only [inHands, List.cons_append, List.mem_cons] at hmem
      simp only [step]
      split_ifs with hfails
      · left
        simp only [Next.task, inHands_resealLoop, List.mem_append, List.mem_cons] at hmem ⊢
        tauto
      · rw [View.execute_snd, if_neg hfails]
        rcases hmem with rfl | hmem
        · exact .inr (.inr (.inr ⟨token, mine, waiting, after, rfl, by simpa using hfails⟩))
        · left
          simpa only [Next.task, inHands_resealLoop] using hmem
  | putBack waiting after => exact .inr (.inl (List.mem_append_left _ hmem))
  | _ => exact absurd hmem List.not_mem_nil

/-- A task that comes only after the fill of a quarantine row. -/
def Task.FollowsFill : Task → Prop
  | insertNext .. | forget .. => True
  | _ => False

lemma followsFill_resealLoop (mine waiting : List HeldSeal) (after : After) :
    ¬(resealLoop mine waiting after).FollowsFill := by
  cases mine with
  | cons => exact id
  | nil =>
      simp only [resealLoop]
      split_ifs
      · cases after <;> exact id
      · exact id

lemma not_followsFill_of_resealLoop {mine waiting : List HeldSeal} {after : After} {t : Task}
    (h : resealLoop mine waiting after = t) (ht : t.FollowsFill) : False :=
  followsFill_resealLoop mine waiting after (h ▸ ht)

lemma Task.not_followsFill_step {t : Task} (h : (t.step sys mode env v).2.task.FollowsFill) (ht : t.Elsewhere) :
    False := by
  have hnext : (t.step sys mode env v).2.task.Elsewhere := elsewhere_step ht
  generalize (t.step sys mode env v).2.task = next at h hnext
  cases next <;> first | exact h | exact hnext

/-- Only the two fills come before such a task. -/
lemma Task.followsFill_step {t : Task} (h : (t.step sys mode env v).2.task.FollowsFill) :
    (∃ held token mine waiting after, t = .fillNext held token mine waiting after) ∨ ∃ draft, t = .fill draft := by
  cases t with
  | fillNext held token mine waiting after => exact .inl ⟨held, token, mine, waiting, after, rfl⟩
  | fill draft => exact .inr ⟨draft, rfl⟩
  | sealNext held mine waiting after =>
      simp only [step] at h
      split at h
      · exact absurd h id
      · exact absurd h (followsFill_resealLoop [] _ _)
  | insertNext held token mine waiting after =>
      simp only [step] at h
      split_ifs at h with hfails
      · exact absurd h (followsFill_resealLoop _ _ _)
      · rw [View.execute_snd, if_neg hfails] at h
        exact absurd h (followsFill_resealLoop _ _ _)
  | take after => exact absurd h (followsFill_resealLoop _ _ _)
  | putBack waiting after => cases after <;> exact absurd h id
  | sealing event target =>
      simp only [step, sealEvent] at h
      split at h <;> exact absurd h id
  | write draft =>
      refine absurd h (View.execute_task (P := (¬·.FollowsFill)) id fun n => ?_)
      split_ifs <;> exact id
  | countFailure draft => exact absurd h (View.execute_task (P := (¬·.FollowsFill)) id fun _ => id)
  | readExisting draft =>
      refine absurd h (View.query_task (P := (¬·.FollowsFill)) id ?_)
      rcases existing_cases draft (v.db.find draft.event.idempotencyKey) with
        heq | ⟨_, -, -, -, ⟨-, heq⟩ | ⟨-, heq⟩⟩ | ⟨_, _, -, -, -, heq⟩ <;> rw [heq] <;> exact id
  | readStart reading limit =>
      simp only [step] at h
      split_ifs at h <;> exact absurd h id
  | hold | forget => exact absurd h id
  | _ => exact (not_followsFill_step h trivial).elim

/-- A `reseal_held` tries to insert only what it found no quarantine row for. -/
lemma Task.insertNext_step {t : Task} {held : HeldSeal} {token : Text} {mine waiting : List HeldSeal} {after : After}
    (h : (t.step sys mode env v).2.task = .insertNext held token mine waiting after) :
    t = .fillNext held token mine waiting after ∧ env.sqlFails = false ∧
      v.db.rows.countP (Update.fillQuarantined held.event.idempotencyKey token (nowIso8601 env)).applies ≠ 1 := by
  obtain ⟨held', token', mine', waiting', after', rfl⟩ | ⟨draft, rfl⟩ := followsFill_step (by rw [h]; trivial)
  · simp only [step] at h
    split_ifs at h with hfails
    · exact (not_followsFill_of_resealLoop h trivial).elim
    · rw [View.execute_snd, if_neg hfails] at h
      split_ifs at h with hone
      · exact (not_followsFill_of_resealLoop h trivial).elim
      · simp only [Next.task, insertNext.injEq] at h
        obtain ⟨rfl, rfl, rfl, rfl, rfl⟩ := h
        exact ⟨rfl, by simpa using hfails, hone⟩
  · simp only [step, View.execute_snd] at h
    split_ifs at h <;> simp [Next.task] at h

/-- An `insert_pending` forgets what is held once its fill has changed the row. -/
lemma Task.forget_step {t : Task} {draft : Draft} (h : (t.step sys mode env v).2.task = .forget draft) :
    t = .fill draft ∧ env.sqlFails = false ∧
      v.db.rows.countP (Update.fillQuarantined draft.event.idempotencyKey draft.payload
        (nowIso8601 env)).applies = 1 := by
  obtain ⟨held, token, mine, waiting, after, rfl⟩ | ⟨draft', rfl⟩ := followsFill_step (by rw [h]; trivial)
  · simp only [step] at h
    split_ifs at h with hfails
    · exact (not_followsFill_of_resealLoop h trivial).elim
    · rw [View.execute_snd, if_neg hfails] at h
      split_ifs at h
      · exact (not_followsFill_of_resealLoop h trivial).elim
      · simp [Next.task] at h
  · simp only [step, View.execute_snd] at h
    split_ifs at h with hfails hone
    · simp [Next.task] at h
    · simp only [Next.task, forget.injEq] at h
      subst h
      exact ⟨rfl, by simpa using hfails, hone⟩
    · simp [Next.task] at h

end Tasks

namespace World

variable {κ : Type} {S : Setup κ Unit} {w : World κ Unit}

def prunes (w : World κ Unit) (i : Input κ Unit) (key : String) : Bool :=
  let gone (status : OutboxStatus) (cutoff : String) :=
    w.db.rows.any fun row => row.idempotencyKey = key && Db.expired status cutoff row && !row.quarantined
  match w.statement i with
  | some (.pruneSent cutoff) => gone .sent cutoff
  | some (.pruneDead cutoff) => gone .dead cutoff
  | _ => false

/-- What the late seal relies on of one step: the process runs on, no redrive is overtaken, no row with a payload is
pruned while a copy of its event still waits, and `insert_pending` writes no row of another content under the key of an
event that waits, nor a quarantine row under that of one about to go in as new. -/
structure HeldUndisturbed (S : Setup κ Unit) (w : World κ Unit) (i : Input κ Unit) : Prop where
  runs : ∀ p, i ≠ .exit p
  redrive : RedriveUndisturbed S w i
  prune : ∀ event, Waits w event → w.prunes i event.idempotencyKey = false
  content : ∀ c env draft, i = .go c env → w.task c = .write draft → env.sqlFails = false →
    w.db.hasKey draft.event.idempotencyKey = false →
    (∀ other, Waits w other → other.idempotencyKey = draft.event.idempotencyKey →
      payloadFingerprint other = payloadFingerprint draft.event) ∧
    (draft.status = .dead → ∀ d held token mine waiting after, w.task d = .insertNext held token mine waiting after →
      held.event.idempotencyKey ≠ draft.event.idempotencyKey)

/-- What holds of the rows and the waiting events of a key. -/
structure HeldSafe (S : Setup κ Unit) (w : World κ Unit) : Prop where
  quarantine : ∀ row ∈ w.db.rows, row.quarantined = true → row.status = .dead
  one : ∀ event other, Waits w event → Waits w other → event.idempotencyKey = other.idempotencyKey →
    payloadFingerprint event = payloadFingerprint other
  /-- The row under its key is its quarantine row, or has its payload. -/
  rows : ∀ event, Waits w event → ∀ row ∈ w.db.rows, row.idempotencyKey = event.idempotencyKey →
    row.quarantined = true ∧ (∀ h, row.payloadHash = some h → h = payloadFingerprint event) ∨
      row.Stores S.sys event.idempotencyKey (payloadFingerprint event)
  /-- Who goes in as new has no quarantine row. -/
  asNew : ∀ c held token mine waiting after, w.task c = .insertNext held token mine waiting after →
    ∀ row ∈ w.db.rows, row.idempotencyKey = held.event.idempotencyKey → row.quarantined = false
  filled : ∀ c draft, w.task c = .forget draft →
    ∃ row ∈ w.db.rows, row.Stores S.sys draft.event.idempotencyKey (payloadFingerprint draft.event)

lemma HeldSafe.initial {db : Db} (h : ∀ row ∈ db.rows, row.quarantined = true → row.status = .dead) :
    HeldSafe S (initial db) where
  quarantine := h
  one := fun _ _ hwaits => absurd hwaits Waits.initial
  rows := fun _ hwaits => absurd hwaits Waits.initial
  asNew := fun _ _ _ _ _ _ h => by simp [World.initial, task] at h
  filled := fun _ _ h => by simp [World.initial, task] at h

variable [DecidableEq κ]

lemma stores_step {i : Input κ Unit} {row : Row} {key fingerprint : String} (hrow : row ∈ w.db.rows)
    (hstores : row.Stores S.sys key fingerprint) (hprune : w.prunes i key = false) :
    ∃ row' ∈ (step S w i).1.db.rows, row'.id = row.id ∧ row'.Stores S.sys key fingerprint := by
  rw [step_db]
  rcases hst : w.statement i with - | st
  · exact ⟨row, hrow, rfl, hstores⟩
  obtain ⟨after, hleads, hafter⟩ := Db.exec_forward st hrow
  have hgone {status : OutboxStatus} {cutoff : String} (hexpired : Db.expired status cutoff row = true)
      (hany : (w.db.rows.any fun row => row.idempotencyKey = key && Db.expired status cutoff row && !row.quarantined) =
        false) : False := by
    have hnone := List.any_eq_false.mp hany row hrow
    simp [hstores.1, hexpired, hstores.not_quarantined] at hnone
  cases hleads with
  | keeps => exact ⟨row, hafter row rfl, rfl, hstores⟩
  | @updates u _ happlies =>
      refine ⟨u.set row, hafter _ rfl, Update.set_id, ?_⟩
      obtain ⟨hkey, event, hseals, hfp⟩ := hstores
      rcases Update.set_payloadJson happlies with hsame | ⟨k, token, now, rfl⟩
      · exact ⟨by rw [Update.set_idempotencyKey, hkey], event, hsame ▸ hseals, hfp⟩
      · simp [Update.applies, hseals.not_like] at happlies
  | prunesSent hexpired =>
      simp only [prunes, hst] at hprune
      exact (hgone hexpired hprune).elim
  | prunesDead hexpired =>
      simp only [prunes, hst] at hprune
      exact (hgone hexpired hprune).elim

lemma quarantined_step (hsound : Sound S w) {i : Input κ Unit} {row' : Row} (hrow' : row' ∈ (step S w i).1.db.rows)
    (hq : row'.quarantined = true) :
    (∃ row ∈ w.db.rows, row.quarantined = true ∧ row.id = row'.id ∧ row.idempotencyKey = row'.idempotencyKey ∧
      row.payloadHash = row'.payloadHash) ∨
    ∃ c env draft, i = .go c env ∧ w.task c = .write draft ∧ env.sqlFails = false ∧ draft.status = .dead ∧
      w.db.hasKey draft.event.idempotencyKey = false ∧ row'.idempotencyKey = draft.event.idempotencyKey ∧
      row'.payloadHash = some (payloadFingerprint draft.event) ∧ row'.status = .dead := by
  rw [step_db] at hrow'
  rcases hst : w.statement i with - | st <;> rw [hst] at hrow'
  · exact .inl ⟨row', hrow', hq, rfl, rfl, rfl⟩
  rcases Db.exec_backward hrow' with ⟨row, hrow, hleads⟩ | ⟨event, target, payload, status, lastError, now,
      rfl, hfree, rfl⟩
  · obtain ⟨hid, hkey, hhash, -⟩ := hleads.same
    refine .inl ⟨row, hrow, ?_, hid.symm, hkey.symm, hhash.symm⟩
    cases hleads with
    | keeps => exact hq
    | updates happlies =>
        rcases Update.set_payloadJson happlies with hsame | ⟨k, token, now, rfl⟩
        · rw [Row.quarantined, hsame] at hq
          exact hq
        · obtain ⟨event, -, -, hseals⟩ := waits_of_fill hsound hst
          have hnot : startsWith token quarantinedPayload = false := hseals.not_quarantined
          simp [Row.quarantined, Update.set, hnot] at hq
  · rcases insert_cases hsound hst with ⟨c, env, draft, rfl, ht, hfails, rfl, rfl, rfl⟩ | ⟨-, hseals, -⟩
    · right
      refine ⟨c, env, draft, rfl, ht, hfails, ?_, hfree, rfl, rfl, ?_⟩ <;>
      · have hdraft := hsound.tasks c
        rw [ht] at hdraft
        rcases hdraft with ⟨-, hseals⟩ | ⟨hdead, -⟩
        · have hnot := hseals.not_quarantined
          simp [Row.quarantined, Db.newRow, hnot] at hq
        · exact hdead
    · have hnot := hseals.not_quarantined
      simp [Row.quarantined, Db.newRow, hnot] at hq

lemma HeldSafe.quarantine_step (hsound : Sound S w) (hredrive : RedriveSafe S w) (h : HeldSafe S w)
    (i : Input κ Unit) : ∀ row ∈ (World.step S w i).1.db.rows, row.quarantined = true → row.status = .dead := by
  intro row' hrow' hq
  rcases quarantined_step hsound hrow' hq with ⟨row, hrow, hrowq, hid, -, -⟩ |
      ⟨c, env, draft, -, -, -, -, -, -, -, hdead⟩
  · by_contra hlive
    have hdead := h.quarantine row hrow hrowq
    -- only a redrive takes a row with the marker out of `dead`, and it opens what it revives
    obtain ⟨old, hold, hidold, hcase⟩ := same_id i (hsound.db.fresh row hrow) hrow' hid.symm
    obtain rfl := hsound.db.ids.eq hold hrow hidold
    rcases hcase with rfl | ⟨st, hst, hleads⟩
    · exact hlive hdead
    · cases hleads with
      | keeps => exact hlive hdead
      | @updates u _ happlies =>
          cases u with
          | redrive key =>
              have hopens := redrive_opens hsound hredrive hst hold hdead hrow' hid.symm hlive
              rw [System.opened_of_quarantined hrowq] at hopens
              simp at hopens
          | fillQuarantined key token now =>
              obtain ⟨event, -, -, hseals⟩ := waits_of_fill hsound hst
              have hnot : startsWith token quarantinedPayload = false := hseals.not_quarantined
              simp [Row.quarantined, Update.set, hnot] at hq
          | markSent | book | markDead => simp [Update.applies, hdead, OutboxStatus.isLive] at happlies
  · exact hdead

lemma HeldSafe.one_step (h : HeldSafe S w) {i : Input κ Unit} (hi : HeldUndisturbed S w i) :
    ∀ event other, Waits (World.step S w i).1 event → Waits (World.step S w i).1 other →
      event.idempotencyKey = other.idempotencyKey → payloadFingerprint event = payloadFingerprint other := by
  -- a new waiting event against one that waited already
  have hnew {event other : DesktopEvent} (hother : Waits w other) (hkey : event.idempotencyKey = other.idempotencyKey)
      (hevent : (∃ c env draft, i = .go c env ∧ w.task c = .write draft ∧ draft.event = event ∧ draft.status = .dead ∧
          env.sqlFails = false ∧ w.db.hasKey event.idempotencyKey = false) ∨
        ∃ c env draft row, i = .go c env ∧ w.task c = .readExisting draft ∧ draft.event = event ∧
          w.db.find event.idempotencyKey = some row ∧ row.payloadHash = some (payloadFingerprint event) ∧
          startsWith row.payloadJson quarantinedPayload = true) :
      payloadFingerprint event = payloadFingerprint other := by
    rcases hevent with ⟨c, env, draft, rfl, ht, rfl, -, hfails, hfree⟩ |
        ⟨c, env, draft, row, -, -, rfl, hfind, hhash, hq⟩
    · exact ((hi.content c env draft rfl ht hfails hfree).1 other hother hkey.symm).symm
    · obtain ⟨hrow, hrowkey⟩ := Db.mem_of_find hfind
      rcases h.rows other hother row hrow (hrowkey.trans hkey) with ⟨-, hown⟩ | hstores
      · exact hown _ hhash
      · have hnot := hstores.not_quarantined
        rw [Row.quarantined, hq] at hnot
        simp at hnot
  intro event other hevent hother hkey
  rcases waits_step hevent with hevent | hevent
  · rcases waits_step hother with hother | hother
    · exact h.one event other hevent hother hkey
    · exact (hnew hevent hkey.symm hother).symm
  · rcases waits_step hother with hother | hother
    · exact hnew hother hkey hevent
    · rcases hevent with ⟨c, env, draft, rfl, ht, rfl, -⟩ | ⟨c, env, draft, -, rfl, ht, rfl, -⟩ <;>
      · rcases hother with ⟨c', env', draft', hi', ht', rfl, -⟩ | ⟨c', env', draft', -, hi', ht', rfl, -⟩ <;>
        · cases hi'
          rw [ht] at ht'
          first | (cases ht'; rfl) | simp at ht'

lemma stored_of_fill {c : κ} {env : Env} {key : String} {token : Text} {event : DesktopEvent}
    (hst : w.statement (.go c env) = some (.update (.fillQuarantined key token (nowIso8601 env))))
    (hone : w.db.rows.countP (Update.fillQuarantined key token (nowIso8601 env)).applies = 1)
    (hseals : S.sys.Seals token event) :
    ∃ row ∈ (step S w (.go c env)).1.db.rows, row.Stores S.sys key (payloadFingerprint event) := by
  obtain ⟨row, hrow, happlies⟩ := List.countP_pos_iff.mp (by rw [hone]; exact Nat.one_pos)
  refine ⟨(Update.fillQuarantined key token (nowIso8601 env)).set row, ?_,
    Update.key_of_applies happlies, event, hseals,
    rfl⟩
  rw [step_db, hst]
  exact Table.mem_update_of hrow happlies

lemma stored_or_quarantined (hsound : Sound S w) (h : HeldSafe S w) {i : Input κ Unit} (hi : HeldUndisturbed S w i)
    {event : DesktopEvent} (hwaits : Waits w event) {row' : Row} (hrow' : row' ∈ (step S w i).1.db.rows)
    (hkey : row'.idempotencyKey = event.idempotencyKey) :
    row'.quarantined = true ∧ (∀ hash, row'.payloadHash = some hash → hash = payloadFingerprint event) ∨
      row'.Stores S.sys event.idempotencyKey (payloadFingerprint event) := by
  rw [step_db] at hrow'
  rcases hst : w.statement i with - | st <;> rw [hst] at hrow'
  · exact h.rows event hwaits row' hrow' hkey
  rcases Db.exec_backward hrow' with ⟨row, hrow, hleads⟩ | ⟨other, target, payload, status, lastError, now,
      rfl, hfree, rfl⟩
  · obtain ⟨-, hsamekey, hsamehash, -⟩ := hleads.same
    have hold := h.rows event hwaits row hrow (hsamekey ▸ hkey)
    cases hleads with
    | keeps => exact hold
    | @updates u _ happlies =>
        rcases Update.set_payloadJson happlies with hsame | ⟨key, token, now, rfl⟩
        · simpa only [Row.quarantined, Row.Stores, hsame, Update.set_payloadHash, Update.set_idempotencyKey] using hold
        · obtain ⟨filler, hfiller, hfillerkey, hseals⟩ := waits_of_fill hsound hst
          have hrowkey := Update.key_of_applies happlies
          refine .inr ⟨hkey, filler, hseals, h.one filler event hfiller hwaits ?_⟩
          rw [hfillerkey, ← hkey, Update.set_idempotencyKey, hrowkey]
          rfl
  · have hotherkey : other.idempotencyKey = event.idempotencyKey := hkey
    rcases insert_cases hsound hst with ⟨c, env, draft, rfl, ht, hfails, rfl, rfl, rfl⟩ | ⟨hother, hseals, -⟩
    · have hfp := (hi.content c env draft rfl ht hfails hfree).1 event hwaits hotherkey.symm
      have hdraft := hsound.tasks c
      rw [ht] at hdraft
      rcases hdraft with ⟨-, hseals⟩ | ⟨-, hpayload⟩
      · exact .inr ⟨hkey, draft.event, hseals, hfp.symm⟩
      · left
        refine ⟨?_, ?_⟩
        · simp only [Row.quarantined, Db.newRow, hpayload]
          decide
        · intro hash hhash
          rw [hfp, ← Option.some.inj hhash]
    · exact .inr ⟨hkey, other, hseals, h.one other event hother hwaits hotherkey⟩

lemma HeldSafe.rows_step (hsound : Sound S w) (h : HeldSafe S w) {i : Input κ Unit} (hi : HeldUndisturbed S w i) :
    ∀ event, Waits (World.step S w i).1 event → ∀ row ∈ (World.step S w i).1.db.rows,
      row.idempotencyKey = event.idempotencyKey →
      row.quarantined = true ∧ (∀ hash, row.payloadHash = some hash → hash = payloadFingerprint event) ∨
        row.Stores S.sys event.idempotencyKey (payloadFingerprint event) := by
  intro event hwaits row' hrow' hkey
  rcases waits_step hwaits with hold | ⟨c, env, draft, rfl, ht, rfl, hdead, hfails, hfree⟩ |
    ⟨c, env, draft, row, rfl, ht, rfl, hfind, hhash, hq⟩
  · exact stored_or_quarantined hsound h hi hold hrow' hkey
  · -- its own row is the one it has just written
    left
    have hdraft := hsound.tasks c
    rw [ht] at hdraft
    have hpayload : draft.payload = quarantinedPayload := by
      rcases hdraft with ⟨hpending, -⟩ | ⟨-, hpayload⟩
      · simp [hpending] at hdead
      · exact hpayload
    have hst : w.statement (.go c env) = some (.insertOrIgnore draft.event draft.target draft.payload draft.status
        draft.lastError draft.now) := by simp [statement, hfails, ht, Task.statement]
    rw [step_db, hst] at hrow'
    rcases Db.exec_backward hrow' with ⟨row, hrow, hleads⟩ | ⟨_, _, _, _, _, _, hst', -, rfl⟩
    · rw [Db.hasKey_iff.mpr ⟨row, hrow, hleads.same.2.1 ▸ hkey⟩] at hfree
      simp at hfree
    · cases hst'
      refine ⟨?_, ?_⟩
      · simp only [Row.quarantined, Db.newRow, hpayload]
        decide
      · intro hash hhash
        exact (Option.some.inj hhash).symm
  · left
    have hdb : (World.step S w (.go c env)).1.db = w.db := by
      rw [step_db]
      simp [statement, ht, Task.statement, Db.run]
    rw [hdb] at hrow'
    obtain ⟨hrow, hrowkey⟩ := Db.mem_of_find hfind
    obtain rfl := hsound.db.keys.eq hrow' hrow (hkey.trans hrowkey.symm)
    refine ⟨hq, ?_⟩
    intro hash hhash'
    exact Option.some.inj (hhash'.symm.trans hhash)

lemma HeldSafe.asNew_step (hsound : Sound S w) (h : HeldSafe S w) {i : Input κ Unit} (hi : HeldUndisturbed S w i) :
    ∀ c held token mine waiting after, (World.step S w i).1.task c = .insertNext held token mine waiting after →
      ∀ row ∈ (World.step S w i).1.db.rows, row.idempotencyKey = held.event.idempotencyKey →
        row.quarantined = false := by
  intro c held token mine waiting after htask row' hrow' hkey
  by_contra hq
  have hmarker := quarantined_step hsound hrow' (by simpa using hq)
  rcases step_task (S := S) (w := w) i c with heq | ⟨-, heq⟩ | ⟨op, -, -, heq⟩ | ⟨env, rfl, heq⟩ <;> rw [heq] at htask
  · rcases hmarker with ⟨row, hrow, hrowq, -, hrowkey, -⟩ | ⟨d, env, draft, rfl, ht, hfails, hdead, hfree, hnew, -⟩
    · rw [h.asNew c held token mine waiting after htask row hrow (hrowkey.trans hkey)] at hrowq
      simp at hrowq
    · exact (hi.content d env draft rfl ht hfails hfree).2 hdead c held token mine waiting after htask
        (hkey.symm.trans hnew)
  · simp at htask
  · cases op <;> simp [Op.begin] at htask
  · obtain ⟨ht, hfails, hcount⟩ := Task.insertNext_step htask
    -- the fill has just found no quarantine row
    rcases hmarker with ⟨row, hrow, hrowq, -, hrowkey, -⟩ | ⟨d, env', draft, hgo, ht', -⟩
    · apply hcount
      have happlies : (Update.fillQuarantined held.event.idempotencyKey token (nowIso8601 env)).applies row = true := by
        simp [Update.applies, hrowkey.trans hkey, h.quarantine row hrow hrowq, like_of_quarantined hrowq]
      apply le_antisymm
      · exact hsound.db.keys.countP_le_one fun _ => Update.key_of_applies
      · exact List.countP_pos_iff.mpr ⟨row, hrow, happlies⟩
    · cases hgo
      rw [ht] at ht'
      simp at ht'

lemma HeldSafe.filled_step (hsound : Sound S w) (h : HeldSafe S w) {i : Input κ Unit} (hi : HeldUndisturbed S w i) :
    ∀ c draft, (World.step S w i).1.task c = .forget draft →
      ∃ row ∈ (World.step S w i).1.db.rows,
        row.Stores S.sys draft.event.idempotencyKey (payloadFingerprint draft.event) := by
  intro c draft htask
  rcases step_task (S := S) (w := w) i c with heq | ⟨-, heq⟩ | ⟨op, -, -, heq⟩ | ⟨env, rfl, heq⟩ <;> rw [heq] at htask
  · obtain ⟨row, hrow, hstores⟩ := h.filled c draft htask
    have hwaits : Waits w draft.event := .inr (.inr ⟨c, by rw [htask]; rfl⟩)
    obtain ⟨row', hrow', -, hstores'⟩ := stores_step hrow hstores (hi.prune draft.event hwaits)
    exact ⟨row', hrow', hstores'⟩
  · simp at htask
  · cases op <;> simp [Op.begin] at htask
  · obtain ⟨ht, hfails, hone⟩ := Task.forget_step htask
    have hdraft := hsound.tasks c
    rw [ht] at hdraft
    exact stored_of_fill (by simp [statement, hfails, ht, Task.statement]) hone hdraft.2

lemma HeldSafe.step (hsound : Sound S w) (hredrive : RedriveSafe S w) (h : HeldSafe S w) {i : Input κ Unit}
    (hi : HeldUndisturbed S w i) : HeldSafe S (World.step S w i).1 where
  quarantine := h.quarantine_step hsound hredrive i
  one := h.one_step hi
  rows := h.rows_step hsound hi
  asNew := h.asNew_step hsound hi
  filled := h.filled_step hsound hi

/-- What was promised and delivered so far, beside the world: the occurrences whose `insert_pending` said
`QuarantinedProtectFailed` with room to hold them, until their stored row is pruned, and the keys marked sent, until
an `insert_pending` writes a new row under them. -/
structure Ledger where
  promised : List (String × String) := []
  delivered : List String := []

def promise (w : World κ Unit) : Input κ Unit → Option (String × String)
  | .go c _ =>
    match w.task c with
    | .hold draft =>
      if (w.held ()).length < maxHeldSeals then some (draft.event.idempotencyKey,
        payloadFingerprint draft.event) else none
    | _ => none
  | _ => none

def marks (S : Setup κ Unit) (w : World κ Unit) (i : Input κ Unit) : Option String :=
  match i with
  | .go c _ =>
    match w.task c, (step S w i).2 with
    | .ack key, some (_, .acked .marked) => some key
    | _, _ => none
  | _ => none

/-- The key under which an `insert_pending` writes a row. -/
def inserts (w : World κ Unit) : Input κ Unit → Option String
  | .go c env =>
    match w.task c with
    | .write draft =>
      if env.sqlFails || w.db.hasKey draft.event.idempotencyKey then none else some draft.event.idempotencyKey
    | _ => none
  | _ => none

def Ledger.step (S : Setup κ Unit) (ledger : Ledger) (w : World κ Unit) (i : Input κ Unit) : Ledger where
  promised := ((w.promise i).toList ++ ledger.promised).filter fun occurrence => !w.prunes i occurrence.1
  delivered := ((w.marks S i).toList ++ ledger.delivered).filter fun key => w.inserts i ≠ some key

def tracked (S : Setup κ Unit) : Machine (World κ Unit × Ledger) (Input κ Unit) (Option (κ × Reply)) :=
  fun s i => (((World.step S s.1 i).1, s.2.step S s.1 i), (World.step S s.1 i).2)

/-- The occurrence is in `HELD_SEALS`, in the hands of a `reseal_held`, or stored with its sealed payload. -/
def KeptFor (S : Setup κ Unit) (w : World κ Unit) (occurrence : String × String) : Prop :=
  (∃ h ∈ w.held (), (h.event.idempotencyKey, payloadFingerprint h.event) = occurrence) ∨
  (∃ c, ∃ h ∈ (w.task c).inHands, (h.event.idempotencyKey, payloadFingerprint h.event) = occurrence) ∨
  ∃ row ∈ w.db.rows, row.Stores S.sys occurrence.1 occurrence.2

lemma KeptFor.step_of_held (h : HeldSafe S w) {i : Input κ Unit} (hi : HeldUndisturbed S w i)
    {held : HeldSeal} (hmem : held ∈ w.held ()) (hprune : w.prunes i held.event.idempotencyKey = false) :
    KeptFor S (World.step S w i).1 (held.event.idempotencyKey, payloadFingerprint held.event) := by
  have hwaits : Waits w held.event := .inl ⟨(), held, hmem, rfl⟩
  rcases step_held (S := S) (w := w) i () with heq | ⟨rfl, -⟩ | ⟨c, env, rfl, -, heq⟩
  · exact .inl ⟨held, heq ▸ hmem, rfl⟩
  · exact absurd rfl (hi.runs ())
  · cases ht : w.task c with
    | hold draft =>
        rw [ht] at heq
        left
        rcases holdForSeal_keeps draft.event draft.target hmem with hkept | ⟨hkey, h', hmem', heq'⟩
        · exact ⟨held, heq ▸ hkept, rfl⟩
        · have hown : Waits w draft.event := .inr (.inr ⟨c, by rw [ht]; rfl⟩)
          refine ⟨h', heq ▸ hmem', ?_⟩
          rw [heq', hkey, h.one held.event draft.event hwaits hown hkey]
    | forget draft =>
        rw [ht] at heq
        by_cases hkey : held.event.idempotencyKey = draft.event.idempotencyKey
        · -- it is forgotten because its row is stored
          obtain ⟨row, hrow, hstores⟩ := h.filled c draft ht
          have hown : Waits w draft.event := .inr (.inr ⟨c, by rw [ht]; rfl⟩)
          rw [← hkey, ← h.one held.event draft.event hwaits hown hkey] at hstores
          obtain ⟨row', hrow', -, hstores'⟩ := stores_step hrow hstores hprune
          exact .inr (.inr ⟨row', hrow', hstores'⟩)
        · exact .inl ⟨held, heq ▸ mem_forgetHeld.mpr ⟨hmem, hkey⟩, rfl⟩
    | take after =>
        right
        left
        refine ⟨c, held, ?_, rfl⟩
        have htask : (World.step S w (.go c env)).1.task c = resealLoop (w.held ()) [] after := by
          simp only [World.step, ht]
          simp [store, task, Task.step, view, Next.task]
        rw [htask, inHands_resealLoop, List.append_nil]
        exact hmem
    | putBack waiting after =>
        rw [ht] at heq
        exact .inl ⟨held, heq ▸ List.mem_append_right _ hmem, rfl⟩
    | _ =>
        rw [ht] at heq
        exact .inl ⟨held, heq ▸ hmem, rfl⟩

lemma KeptFor.step_of_hands (hsound : Sound S w) (h : HeldSafe S w) {i : Input κ Unit} (hi : HeldUndisturbed S w i)
    {c : κ} {held : HeldSeal} (hmem : held ∈ (w.task c).inHands) :
    KeptFor S (World.step S w i).1 (held.event.idempotencyKey, payloadFingerprint held.event) := by
  have hwaits : Waits w held.event := .inr (.inl ⟨c, held, hmem, rfl⟩)
  rcases step_task (S := S) (w := w) i c with heq | ⟨rfl, -⟩ | ⟨op, -, hidle, -⟩ | ⟨env, rfl, heq⟩
  · exact .inr (.inl ⟨c, held, heq ▸ hmem, rfl⟩)
  · exact absurd rfl (hi.runs _)
  · rw [hidle] at hmem
    exact absurd hmem List.not_mem_nil
  have hseals := hsound.tasks c
  rcases Task.inHands_kept S.sys (S.mode c) env (w.view S c) hmem with
    hkept | hback | ⟨token, mine, waiting, after, ht, hfails, hone⟩ | ⟨token, mine, waiting, after, ht, hfails⟩
  · exact .inr (.inl ⟨c, held, heq ▸ hkept, rfl⟩)
  · left
    refine ⟨held, ?_, rfl⟩
    rw [show (World.step S w (.go c env)).1.held () = (w.task c).heldAfter (w.held ()) by
      simp [World.step, store, Task.step_held, view]]
    exact hback
  · rw [ht] at hseals
    exact .inr (.inr (stored_of_fill (by simp [statement, hfails, ht, Task.statement]) hone hseals.1))
  · right
    right
    rw [ht] at hseals
    have hst : w.statement (.go c env) =
        some (.insertOrIgnore held.event held.target token .pending none (nowIso8601 env)) := by
      simp [statement, hfails, ht, Task.statement]
    by_cases hkey : w.db.hasKey held.event.idempotencyKey = true
    · -- another row has its key: that row is not its quarantine row, so it has the payload
      obtain ⟨row, hrow, hrowkey⟩ := Db.hasKey_iff.mp hkey
      refine ⟨row, ?_, ?_⟩
      · rw [step_db, hst]
        simpa [Db.run, Db.exec, hkey] using hrow
      · rcases h.rows held.event hwaits row hrow hrowkey with ⟨hq, -⟩ | hstores
        · rw [h.asNew c held token mine waiting after ht row hrow hrowkey] at hq
          simp at hq
        · exact hstores
    · refine ⟨w.db.newRow held.event held.target token .pending none (nowIso8601 env), ?_, rfl, held.event, hseals.1,
        rfl⟩
      rw [step_db, hst]
      simp [Db.run, Db.exec, hkey]

lemma kept_step (hsound : Sound S w) (h : HeldSafe S w) {i : Input κ Unit} (hi : HeldUndisturbed S w i)
    {ledger : Ledger} (hkept : ∀ occurrence ∈ ledger.promised, KeptFor S w occurrence) :
    ∀ occurrence ∈ (ledger.step S w i).promised, KeptFor S (World.step S w i).1 occurrence := by
  intro occurrence hmem
  simp only [Ledger.step, List.mem_filter, List.mem_append, Option.mem_toList, Bool.not_eq_true'] at hmem
  obtain ⟨hnew | hold, hprune⟩ := hmem
  · -- the hold itself
    cases i with
    | start | exit => simp [promise] at hnew
    | go c env =>
        simp only [promise] at hnew
        split at hnew
        next draft ht =>
          split_ifs at hnew with hroom
          obtain rfl := Option.some.inj hnew
          obtain ⟨held, hheld, heq⟩ := mem_holdForSeal_self draft.event draft.target hroom
          refine .inl ⟨held, ?_, by rw [heq]⟩
          rw [show (World.step S w (.go c env)).1.held () = (w.task c).heldAfter (w.held ()) by
            simp [World.step, store, Task.step_held, view], ht]
          exact hheld
        next => simp at hnew
  · rcases hkept occurrence hold with ⟨held, hheld, rfl⟩ | ⟨c, held, hheld, rfl⟩ | ⟨row, hrow, hstores⟩
    · exact KeptFor.step_of_held h hi hheld hprune
    · exact KeptFor.step_of_hands hsound h hi hheld
    · obtain ⟨row', hrow', -, hstores'⟩ := stores_step hrow hstores hprune
      exact .inr (.inr ⟨row', hrow', hstores'⟩)

/-- What was delivered is sent or gone, and no copy of it waits to come back. -/
def DeliveredOnce (w : World κ Unit) (key : String) : Prop :=
  (∀ row ∈ w.db.rows, row.idempotencyKey = key → row.status = .sent) ∧
    (w.db.hasKey key = false → ∀ event, Waits w event → event.idempotencyKey ≠ key)

lemma deliveredOnce_of_marks (hsound : Sound S w) {i : Input κ Unit} {key : String} (h : w.marks S i = some key) :
    DeliveredOnce (World.step S w i).1 key := by
  cases i with
  | start | exit => simp [marks] at h
  | go c env =>
      simp only [marks] at h
      split at h
      next key' c' ht hout =>
        obtain rfl := Option.some.inj h
        obtain ⟨env', key, hgo, ht', hst, hone⟩ := ack_of_marked hout
        cases hgo
        rw [ht, Task.ack.injEq] at ht'
        subst ht'
        obtain ⟨row, hrow, happlies⟩ :=
          List.countP_pos_iff.mp (show 0 < w.db.rows.countP _ by rw [hone]; exact Nat.one_pos)
        have hdb' : (World.step S w (.go c env)).1.db.rows =
            Table.update (Update.markSent key' (nowIso8601 env)).applies (Update.markSent key' (nowIso8601 env)).set
              w.db.rows := by
          rw [step_db, hst]
          rfl
        constructor
        · intro row' hrow' hkey
          rw [hdb'] at hrow'
          obtain ⟨old, hold, rfl⟩ := Table.mem_update.mp hrow'
          have hsame : old = row := by
            apply hsound.db.keys.eq hold hrow
            rw [Update.key_of_applies happlies]
            split_ifs at hkey <;> exact hkey
          rw [hsame, if_pos happlies]
          rfl
        · intro hfree
          have htaken : (World.step S w (.go c env)).1.db.hasKey key' = true := by
            apply Db.hasKey_iff.mpr
            refine ⟨(Update.markSent key' (nowIso8601 env)).set row, ?_, Update.key_of_applies happlies⟩
            rw [hdb']
            exact Table.mem_update_of hrow happlies
          rw [htaken] at hfree
          simp at hfree
      next => simp at h

omit [DecidableEq κ] in
lemma inserts_of_write {c : κ} {env : Env} {draft : Draft} (ht : w.task c = .write draft)
    (hfails : env.sqlFails = false)
    (hfree : w.db.hasKey draft.event.idempotencyKey = false) :
    w.inserts (.go c env) = some draft.event.idempotencyKey := by
  simp [inserts, ht, hfails, hfree]

lemma DeliveredOnce.step (hsound : Sound S w) (h : HeldSafe S w) {i : Input κ Unit} (hi : HeldUndisturbed S w i)
    {key : String} (hkey : DeliveredOnce w key) (hinsert : w.inserts i ≠ some key) :
    DeliveredOnce (World.step S w i).1 key := by
  obtain ⟨hsent, hnone⟩ := hkey
  constructor
  · intro row' hrow' hrowkey
    rw [step_db] at hrow'
    rcases hst : w.statement i with - | st <;> rw [hst] at hrow'
    · exact hsent row' hrow' hrowkey
    rcases Db.exec_backward hrow' with ⟨row, hrow, hleads⟩ | ⟨event, target, payload, status, e, now, rfl, hfree, rfl⟩
    · have hstatus := hsent row hrow (hleads.same.2.1 ▸ hrowkey)
      cases hleads with
      | keeps => exact hstatus
      | updates happlies => simp [Update.not_applies_of_sent hstatus] at happlies
    · exfalso
      obtain rfl : event.idempotencyKey = key := hrowkey
      rcases insert_cases hsound hst with ⟨c, env, draft, rfl, ht, hfails, rfl, -, -⟩ | ⟨hwaits, -, -⟩
      · exact hinsert (inserts_of_write ht hfails hfree)
      · exact hnone hfree event hwaits rfl
  · intro hfree event hwaits heq
    subst heq
    rcases waits_step hwaits with hwaits | ⟨c, env, draft, rfl, ht, rfl, -, hfails, hfree'⟩ |
      ⟨c, env, draft, row, -, -, -, hfind, -, hq⟩
    · by_cases hhad : w.db.hasKey event.idempotencyKey = true
      · -- its row was there and is gone: it was pruned, with a payload
        obtain ⟨row, hrow, hrowkey⟩ := Db.hasKey_iff.mp hhad
        have hrowsent := hsent row hrow hrowkey
        rcases sent_stays (S := S) i hrow hrowsent with hstays | ⟨cutoff, hst⟩
        · rw [Db.hasKey_iff.mpr ⟨row, hstays, hrowkey⟩] at hfree
          simp at hfree
        · have hkept : (World.step S w i).1.db.rows = Table.delete (Db.expired .sent cutoff) w.db.rows := by
            rw [step_db, hst]
            rfl
          have hexpired : Db.expired .sent cutoff row = true := by
            by_contra hnot
            have hstays : row ∈ (World.step S w i).1.db.rows := by
              rw [hkept]
              exact Table.mem_delete.mpr ⟨hrow, by simpa using hnot⟩
            rw [Db.hasKey_iff.mpr ⟨row, hstays, hrowkey⟩] at hfree
            simp at hfree
          have hmarker : row.quarantined = false := by
            by_contra hq
            rw [h.quarantine row hrow (by simpa using hq)] at hrowsent
            simp at hrowsent
          have hprunes : w.prunes i event.idempotencyKey = true := by
            simp only [prunes, hst]
            apply List.any_eq_true.mpr
            exact ⟨row, hrow, by simp [hrowkey, hexpired, hmarker]⟩
          rw [hi.prune event hwaits] at hprunes
          simp at hprunes
      · exact hnone (by simpa using hhad) event hwaits rfl
    · exact hinsert (inserts_of_write ht hfails hfree')
    · obtain ⟨hrow, hrowkey⟩ := Db.mem_of_find hfind
      have hrowsent := hsent row hrow hrowkey
      rw [h.quarantine row hrow hq] at hrowsent
      simp at hrowsent

lemma delivered_step (hsound : Sound S w) (h : HeldSafe S w) {i : Input κ Unit} (hi : HeldUndisturbed S w i)
    {ledger : Ledger} (hdelivered : ∀ key ∈ ledger.delivered, DeliveredOnce w key) :
    ∀ key ∈ (ledger.step S w i).delivered, DeliveredOnce (World.step S w i).1 key := by
  intro key hmem
  simp only [Ledger.step, List.mem_filter, List.mem_append, Option.mem_toList, decide_eq_true_eq] at hmem
  obtain ⟨hnew | hold, hinsert⟩ := hmem
  · exact deliveredOnce_of_marks hsound hnew
  · exact (hdelivered key hold).step hsound h hi hinsert

/-- In every run of one process's threads in which the late seal is undisturbed, whatever was promised is held, in
hands, or stored, and under a key that was marked sent there is no row that is not sent until `insert_pending` writes
a new one. -/
theorem held_events_kept (hsys : S.sys.Lawful) {db : Db} (hdb : db.WellFormed)
    (hquarantine : ∀ row ∈ db.rows, row.quarantined = true → row.status = .dead) {is : List (Input κ Unit)}
    (h : Machine.Along (tracked S) (fun s i => HeldUndisturbed S s.1 i) (World.initial db, {}) is)
    {w : World κ Unit} {ledger : Ledger} (hfinal : Machine.final (tracked S) (World.initial db, {}) is = (w, ledger)) :
    (∀ occurrence ∈ ledger.promised, KeptFor S w occurrence) ∧
      ∀ key ∈ ledger.delivered, ∀ row ∈ w.db.rows, row.idempotencyKey = key → row.status = .sent := by
  have hinv := Machine.invariant (m := tracked S)
    (P := fun s => Sound S s.1 ∧ RedriveSafe S s.1 ∧ HeldSafe S s.1 ∧
      (∀ occurrence ∈ s.2.promised, KeptFor S s.1 occurrence) ∧ ∀ key ∈ s.2.delivered, DeliveredOnce s.1 key)
    ?_ h ⟨.initial hdb, .initial db, .initial hquarantine, by simp, by simp⟩
  · rw [hfinal] at hinv
    obtain ⟨-, -, -, hkept, hdelivered⟩ := hinv
    exact ⟨hkept, fun key hkey => (hdelivered key hkey).1⟩
  · rintro ⟨w, ledger⟩ i hi ⟨hsound, hredrive, hsafe, hkept, hdelivered⟩
    exact ⟨hsound.step hsys i, hredrive.step hsound hi.redrive, hsafe.step hsound hredrive hi,
      kept_step hsound hsafe hi hkept, delivered_step hsound hsafe hi hdelivered⟩

/-- Rows are written while nothing waits, and none are pruned. -/
structure Quiet {n : ℕ} (w : World (Fin n) Unit) (i : Input (Fin n) Unit) : Prop where
  runs : (match i with | .exit _ => false | _ => true) = true
  prune : (match w.statement i with | some (.pruneSent _) | some (.pruneDead _) => false | _ => true) = true
  write : (match w.statement i with | some (.insertOrIgnore ..) => true | _ => false) = true →
    (w.held ()).isEmpty = true ∧ ∀ c, (w.task c).inHands.isEmpty = true ∧ (w.task c).ownEvent.isNone = true ∧
      (w.task c).candidates.isEmpty = true

instance {n : ℕ} (w : World (Fin n) Unit) (i : Input (Fin n) Unit) : Decidable (Quiet w i) :=
  decidable_of_iff (_ ∧ _ ∧ _) ⟨fun h => ⟨h.1, h.2.1, h.2.2⟩, fun h => ⟨h.1, h.2, h.3⟩⟩

lemma Quiet.undisturbed {n : ℕ} {S : Setup (Fin n) Unit} {w : World (Fin n) Unit} {i : Input (Fin n) Unit}
    (h : Quiet w i) : HeldUndisturbed S w i where
  runs := by
    rintro p rfl
    simpa using h.runs
  redrive := by
    intro event target lastError now hst _ c candidate hmem
    have hnone := ((h.write (by rw [hst])).2 c).2.2
    rw [List.isEmpty_iff.mp hnone] at hmem
    exact absurd hmem List.not_mem_nil
  prune := by
    intro event _
    have hprune := h.prune
    simp only [prunes]
    split at hprune <;> simp_all
  content := by
    rintro c env draft rfl ht hfails _
    have hst : w.statement (.go c env) = some (.insertOrIgnore draft.event draft.target draft.payload draft.status
        draft.lastError draft.now) := by simp [statement, hfails, ht, Task.statement]
    obtain ⟨hheld, htasks⟩ := h.write (by rw [hst])
    constructor
    · rintro other (⟨p, held, hmem, -⟩ | ⟨d, held, hmem, -⟩ | ⟨d, hown⟩) _
      · rw [List.isEmpty_iff.mp hheld] at hmem
        exact absurd hmem List.not_mem_nil
      · rw [List.isEmpty_iff.mp (htasks d).1] at hmem
        exact absurd hmem List.not_mem_nil
      · have hnone := (htasks d).2.1
        simp [hown] at hnone
    · intro _ d held token mine waiting after htask
      have hnone := (htasks d).1
      simp [htask, Task.inHands] at hnone

section Late

open Input

def sealedLate : List (Input (Fin 2) Unit) :=
  [start 0 (.insertPending ringing "desktop"), go 0 (onDay 0 (.error "locked")), go 0 (onDay 0 (.error "locked")),
   go 0 (onDay 0 (.error "locked")), go 0 (onDay 0 (.error "locked")),
   start 1 (.dueForRetry 16), go 1 (onDay 1 (.ok ())), go 1 (onDay 1 (.ok ())), go 1 (onDay 1 (.ok ())),
   go 1 (onDay 1 (.ok ())), start 0 (.markSent "call-1:incoming"), go 0 (onDay 1 (.ok ()))]

theorem held_events_kept_sealedLate :
    (∀ occurrence ∈ (Machine.final (tracked (glassHouse fun _ => ())) (initial {}, {}) sealedLate).2.promised,
      KeptFor (glassHouse fun _ => ())
        (Machine.final (tracked (glassHouse fun _ => ())) (initial {}, {}) sealedLate).1 occurrence) ∧
    ∀ key ∈ (Machine.final (tracked (glassHouse fun _ => ())) (initial {}, {}) sealedLate).2.delivered,
      ∀ row ∈ (Machine.final (tracked (glassHouse fun _ => ())) (initial {}, {}) sealedLate).1.db.rows,
        row.idempotencyKey = key → row.status = .sent := by
  have hquiet : Machine.Along (tracked (glassHouse fun _ : Fin 2 => ())) (fun s i => Quiet s.1 i) (initial {}, {})
      sealedLate := by decide
  exact held_events_kept System.glass_lawful Db.WellFormed.empty (by simp)
    (hquiet.mono fun s i h => h.undisturbed) rfl

/-- A retry holds a second copy of an event while its row is being filled. The row is delivered and pruned; then the
copy goes in as new. -/
def secondCopy : List (Input ℕ Unit) :=
  [start 0 (.insertPending ringing "desktop"), go 0 (onDay 0 (.error "locked")), go 0 (onDay 0 (.error "locked")),
   go 0 (onDay 0 (.error "locked")), go 0 (onDay 0 (.error "locked")),
   start 2 (.insertPending ringing "desktop"), go 2 (onDay 0 (.error "locked")), go 2 (onDay 0 (.error "locked")),
   go 2 (onDay 0 (.error "locked")),
   start 1 (.dueForRetry 16), go 1 (onDay 0 (.ok ())), go 1 (onDay 0 (.ok ())), go 1 (onDay 0 (.ok ())),
   go 1 (onDay 0 (.ok ())), go 2 (onDay 0 (.ok ())),
   start 0 (.markSent "call-1:incoming"), go 0 (onDay 0 (.ok ())),
   start 0 (.pruneSent sentRetentionDays), go 0 (onDay 8 (.ok ())),
   go 1 (onDay 8 (.ok ())), go 1 (onDay 8 (.ok ())),
   start 1 (.dueForRetry 16), go 1 (onDay 8 (.ok ())), go 1 (onDay 8 (.ok ())), go 1 (onDay 8 (.ok ())),
   go 1 (onDay 8 (.ok ())), go 1 (onDay 8 (.ok ()))]

theorem delivered_event_comes_back :
    ¬∀ key ∈ (Machine.final (tracked (glassHouse fun _ => ())) (initial {}, {}) secondCopy).2.delivered,
      ∀ row ∈ (Machine.final (tracked (glassHouse fun _ => ())) (initial {}, {}) secondCopy).1.db.rows,
        row.idempotencyKey = key → row.status = .sent := by
  decide +kernel

end Late

end World

end Aokie.Plugin.Outbox
