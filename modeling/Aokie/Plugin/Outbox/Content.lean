import Aokie.Plugin.Outbox.Waiting

/-! The content under one key: what a row's payload opens to has the row's fingerprint, and an event of another
content is turned away while the row is there. -/

namespace Aokie.Plugin.Outbox

open Aokie.Lib

/-- Whatever event the row's payload is the text of, it has the fingerprint the row says. -/
def Row.ContentOk (sys : System) (row : Row) : Prop :=
  ∀ h event, row.payloadHash = some h → sys.opened row.payloadJson = some (eventToString event) →
    payloadFingerprint event = h

lemma ContentOk.of_seals {sys : System} {row : Row} {event : DesktopEvent} (hseals : sys.Seals row.payloadJson event)
    (hhash : ∀ h, row.payloadHash = some h → payloadFingerprint event = h) : row.ContentOk sys := by
  intro h other hh hopened
  have htext := hseals.opens.symm.trans hopened
  rw [← eventToString_injective (Option.some.inj htext)]
  exact hhash h hh

/-- The tasks of an `insert_pending` that has yet to find out about a row under its key. -/
def Task.proposes : Task → Option DesktopEvent
  | sealing event _ => some event
  | write draft | readExisting draft | countCollision draft => some draft.event
  | take (.insert draft) | sealNext _ _ _ (.insert draft) | fillNext _ _ _ _ (.insert draft) |
    insertNext _ _ _ _ (.insert draft) | putBack _ (.insert draft) => some draft.event
  | _ => none

/-- A thread is in `reseal_held`. -/
def Task.resealing : Task → Bool
  | take _ | sealNext _ _ _ _ | fillNext _ _ _ _ _ | insertNext _ _ _ _ _ | putBack _ _ => true
  | _ => false

section Collision

variable {sys : System} {mode : PayloadProtection} {env : Env} {v : View}

lemma proposes_resealLoop (mine waiting : List HeldSeal) (draft : Draft) :
    (resealLoop mine waiting (.insert draft)).proposes = some draft.event := by
  cases mine with
  | cons => rfl
  | nil =>
      simp only [resealLoop]
      split_ifs <;> rfl

variable (sys mode env) in
lemma Task.proposes_step {t : Task} {event : DesktopEvent} (ht : t.proposes = some event) (hdb : v.db.WellFormed)
    {row : Row} (hrow : row ∈ v.db.rows) (hkey : row.idempotencyKey = event.idempotencyKey) {h : String}
    (hhash : row.payloadHash = some h) (hother : h ≠ payloadFingerprint event) :
    ((t.step sys mode env v).2.task.proposes = some event ∧ (∀ reply, (t.step sys mode env v).2 ≠ .done reply) ∨
      (t.step sys mode env v).2 = .done .failed ∨
      (t.step sys mode env v).2 = .done (.inserted .payloadCollision)) ∧
    (t.resealing = false → (t.step sys mode env v).1.db.rows = v.db.rows) := by
  have hfind : v.db.find event.idempotencyKey = some row := hkey ▸ hdb.find_of_mem hrow
  have htaken : v.db.hasKey event.idempotencyKey = true := Db.hasKey_iff.mpr ⟨row, hrow, hkey⟩
  cases t with
  | sealing e target =>
      obtain rfl : e = event := Option.some.inj ht
      refine ⟨.inl ?_, fun _ => rfl⟩
      simp only [step, sealEvent]
      split <;> exact ⟨rfl, by simp⟩
  | write draft =>
      obtain rfl : draft.event = event := Option.some.inj ht
      simp only [step, View.execute_snd, View.execute_db, Db.exec, htaken, if_true]
      split_ifs <;> first | contradiction | simp [Next.task, proposes]
  | readExisting draft =>
      obtain rfl : draft.event = event := Option.some.inj ht
      simp only [step, View.query_snd, View.query_fst, hfind]
      split_ifs
      · simp
      · simp [existing, hhash, hother, Next.task, proposes]
  | countCollision draft =>
      simp only [step, View.execute_snd, View.execute_db, Db.exec]
      split_ifs <;> simp
  | take after =>
      rcases after with draft | ⟨reading, limit⟩ <;> simp only [proposes, Option.some.injEq, reduceCtorEq] at ht
      subst ht
      exact ⟨.inl ⟨proposes_resealLoop v.held [] draft, by simp [step]⟩, by simp [resealing]⟩
  | sealNext held mine waiting after =>
      rcases after with draft | ⟨reading, limit⟩ <;> simp only [proposes, Option.some.injEq, reduceCtorEq] at ht
      subst ht
      refine ⟨.inl ?_, by simp [resealing]⟩
      simp only [step]
      split
      · exact ⟨rfl, by simp⟩
      · exact ⟨proposes_resealLoop [] (waiting ++ held :: mine) draft, by simp⟩
  | fillNext held token mine waiting after =>
      rcases after with draft | ⟨reading, limit⟩ <;> simp only [proposes, Option.some.injEq, reduceCtorEq] at ht
      subst ht
      refine ⟨.inl ?_, by simp [resealing]⟩
      simp only [step]
      split_ifs with hfails
      · exact ⟨proposes_resealLoop _ _ draft, by simp⟩
      · rw [View.execute_snd, if_neg hfails]
        split_ifs
        · exact ⟨proposes_resealLoop _ _ draft, by simp⟩
        · exact ⟨rfl, by simp⟩
  | insertNext held token mine waiting after =>
      rcases after with draft | ⟨reading, limit⟩ <;> simp only [proposes, Option.some.injEq, reduceCtorEq] at ht
      subst ht
      refine ⟨.inl ?_, by simp [resealing]⟩
      simp only [step]
      split_ifs with hfails
      · exact ⟨proposes_resealLoop _ _ draft, by simp⟩
      · rw [View.execute_snd, if_neg hfails]
        exact ⟨proposes_resealLoop _ _ draft, by simp⟩
  | putBack waiting after =>
      rcases after with draft | ⟨reading, limit⟩ <;> simp only [proposes, Option.some.injEq, reduceCtorEq] at ht
      subst ht
      exact ⟨.inl ⟨rfl, by simp [step]⟩, by simp [resealing]⟩
  | _ => simp [proposes] at ht

end Collision

namespace World

variable {κ π : Type} {S : Setup κ π} {w : World κ π}

/-- No `insert_pending` writes a quarantine row under the key of an event of another content that waits for its
seal. -/
def OneContent (w : World κ π) (i : Input κ π) : Prop :=
  ∀ event target lastError now, w.statement i =
    some (.insertOrIgnore event target quarantinedPayload .dead lastError now) →
    w.db.hasKey event.idempotencyKey = false →
    ∀ other, Waits w other → other.idempotencyKey = event.idempotencyKey →
      payloadFingerprint other = payloadFingerprint event

/-- The quarantine row under the key of a waiting event is its own. -/
structure ContentSafe (S : Setup κ π) (w : World κ π) : Prop where
  content : ∀ row ∈ w.db.rows, row.ContentOk S.sys
  own : ∀ event, Waits w event → ∀ row ∈ w.db.rows, row.idempotencyKey = event.idempotencyKey →
    like row.payloadJson quarantinedPayload = true → ∀ h, row.payloadHash = some h → h = payloadFingerprint event

lemma ContentSafe.initial {db : Db} (h : ∀ row ∈ db.rows, row.ContentOk S.sys) : ContentSafe S (initial db) where
  content := h
  own := fun _ hwaits => absurd hwaits Waits.initial

lemma quarantine_after {db : Db} {st : Statement} {sys : System} (hst : st.Sound sys) {row' : Row}
    (hrow' : row' ∈ (db.exec st).1.rows) (hq : like row'.payloadJson quarantinedPayload = true) :
    (∃ row ∈ db.rows, row.idempotencyKey = row'.idempotencyKey ∧ row.payloadJson = row'.payloadJson ∧
      row.payloadHash = row'.payloadHash) ∨
    ∃ event target lastError now, st = .insertOrIgnore event target quarantinedPayload .dead lastError now ∧
      db.hasKey event.idempotencyKey = false ∧ row'.idempotencyKey = event.idempotencyKey ∧
      row'.payloadHash = some (payloadFingerprint event) := by
  rcases Db.exec_backward hrow' with ⟨row, hrow, hleads⟩ | ⟨event, target, payload, status, lastError, now,
      rfl, hfree, rfl⟩
  · obtain ⟨-, hkey, hhash, -⟩ := hleads.same
    refine .inl ⟨row, hrow, hkey.symm, ?_, hhash.symm⟩
    cases hleads with
    | keeps => rfl
    | updates happlies =>
        rcases Update.set_payloadJson happlies with hsame | ⟨key, token, now, rfl⟩
        · exact hsame.symm
        · obtain ⟨event, -, hseals⟩ := hst
          simp [Update.set, hseals.not_like] at hq
  · rcases hst with ⟨-, hseals⟩ | ⟨rfl, rfl⟩
    · simp [Db.newRow, hseals.not_like] at hq
    · exact .inr ⟨event, target, lastError, now, rfl, hfree, rfl, rfl⟩

variable [DecidableEq κ] [DecidableEq π]

lemma ContentSafe.content_step (hsound : Sound S w) (h : ContentSafe S w) (i : Input κ π) :
    ∀ row ∈ (World.step S w i).1.db.rows, row.ContentOk S.sys := by
  intro row' hrow'
  rw [step_db] at hrow'
  rcases hst : w.statement i with - | st <;> rw [hst] at hrow'
  · exact h.content row' hrow'
  have hsoundst := hsound.statement st hst
  rcases Db.exec_backward hrow' with ⟨row, hrow, hleads⟩ | ⟨event, target, payload, status, lastError, now, rfl, -, rfl⟩
  · cases hleads with
    | keeps => exact h.content _ hrow
    | @updates u _ happlies =>
        rcases Update.set_payloadJson happlies with hsame | ⟨key, token, now, rfl⟩
        · intro hash event hh hopened
          rw [Update.set_payloadHash] at hh
          rw [hsame] at hopened
          exact h.content row hrow hash event hh hopened
        · obtain ⟨event, hwaits, hkey, hseals⟩ := waits_of_fill hsound hst
          obtain ⟨⟨hrowkey, -⟩, hlike⟩ : (row.idempotencyKey = key ∧ row.status = .dead) ∧
              like row.payloadJson quarantinedPayload = true := by
            simpa [Update.applies] using happlies
          apply ContentOk.of_seals hseals
          intro hash hh
          rw [Update.set_payloadHash] at hh
          exact (h.own event hwaits row hrow (hrowkey.trans hkey.symm) hlike hash hh).symm
  · rcases hsoundst with ⟨-, hseals⟩ | ⟨-, rfl⟩
    · apply ContentOk.of_seals hseals
      intro hash hh
      exact Option.some.inj hh
    · intro hash other hh hopened
      have hnone : S.sys.opened quarantinedPayload = none := System.opened_of_quarantined (by decide)
      simp [Db.newRow, hnone] at hopened

lemma ContentSafe.own_step (hsound : Sound S w) (h : ContentSafe S w) {i : Input κ π} (hi : OneContent w i) :
    ∀ event, Waits (World.step S w i).1 event → ∀ row ∈ (World.step S w i).1.db.rows,
      row.idempotencyKey = event.idempotencyKey → like row.payloadJson quarantinedPayload = true →
      ∀ hash, row.payloadHash = some hash → hash = payloadFingerprint event := by
  intro event hwaits row' hrow' hkey hlike hash hhash
  rw [step_db] at hrow'
  have hold : (∃ row ∈ w.db.rows, row.idempotencyKey = row'.idempotencyKey ∧ row.payloadJson = row'.payloadJson ∧
      row.payloadHash = row'.payloadHash) ∨
      ∃ event target lastError now,
        w.statement i = some (.insertOrIgnore event target quarantinedPayload .dead lastError now) ∧
        w.db.hasKey event.idempotencyKey = false ∧ row'.idempotencyKey = event.idempotencyKey ∧
        row'.payloadHash = some (payloadFingerprint event) := by
    rcases hst : w.statement i with - | st <;> rw [hst] at hrow'
    · exact .inl ⟨row', hrow', rfl, rfl, rfl⟩
    · rcases quarantine_after (hsound.statement st hst) hrow' hlike with hold | ⟨event, target, e, now, rfl, hnew⟩
      · exact .inl hold
      · exact .inr ⟨event, target, e, now, rfl, hnew⟩
  rcases hold with ⟨row, hrow, hrowkey, hpayload, hrowhash⟩ | ⟨other, target, e, now, hst, hfree, hother, hfp⟩
  · rcases waits_step hwaits with hwaits | ⟨c, env, draft, -, -, -, -, -, hfree⟩ |
      ⟨c, env, draft, found, -, -, -, hfind, hfp, -⟩
    · exact h.own event hwaits row hrow (hrowkey.trans hkey) (hpayload ▸ hlike) hash (hrowhash ▸ hhash)
    · rw [Db.hasKey_iff.mpr ⟨row, hrow, hrowkey.trans hkey⟩] at hfree
      simp at hfree
    · obtain ⟨hfound, hfoundkey⟩ := Db.mem_of_find hfind
      obtain rfl := hsound.db.keys.eq hrow hfound ((hrowkey.trans hkey).trans hfoundkey.symm)
      rw [← hrowhash, hfp] at hhash
      exact (Option.some.inj hhash).symm
  · obtain rfl : payloadFingerprint other = hash := Option.some.inj (hfp.symm.trans hhash)
    rcases waits_step hwaits with hwaits | ⟨c, env, draft, rfl, ht, rfl, -, hfails, -⟩ |
      ⟨c, env, draft, found, rfl, ht, -⟩
    · exact (hi other target e now hst hfree event hwaits (hkey.symm.trans hother)).symm
    · simp only [statement, hfails, ht, Task.statement] at hst
      simp only [Bool.false_eq_true, if_false, Option.some.injEq, Statement.insertOrIgnore.injEq] at hst
      rw [hst.1]
    · simp [statement, ht, Task.statement] at hst

lemma ContentSafe.step (hsound : Sound S w) (h : ContentSafe S w) {i : Input κ π} (hi : OneContent w i) :
    ContentSafe S (World.step S w i).1 where
  content := h.content_step hsound i
  own := h.own_step hsound hi

/-- An `insert_pending` that begins while a row under its key has another content: until it returns, and as long as
the row is there and its process runs, it returns nothing but `PayloadCollision` (or an SQL error), and no statement of
its own changes a row. -/
def TurnedAway (S : Setup κ π) (w : World κ π) : Prop :=
  ∀ c event target row h, w.task c = .idle → row ∈ w.db.rows → row.idempotencyKey = event.idempotencyKey →
    row.payloadHash = some h → h ≠ payloadFingerprint event →
  ∀ is i, Machine.Along (World.step S) (fun w i => (∃ row' ∈ w.db.rows, row'.id = row.id) ∧ i ≠ .exit (S.process c))
      (World.step S w (.start c (.insertPending event target))).1 (is ++ [i]) →
    (∀ reply, some (c, reply) ∉ Machine.outputs (World.step S)
      (World.step S w (.start c (.insertPending event target))).1 is) →
    ∀ last, last = Machine.final (World.step S) (World.step S w (.start c (.insertPending event target))).1 is →
      (∀ reply, (World.step S last i).2 = some (c, reply) → reply = .failed ∨ reply = .inserted .payloadCollision) ∧
      ∀ env, i = .go c env → (last.task c).resealing = false → (World.step S last i).1.db.rows = last.db.rows

/-- A thread proposes a content other than that of a row under its key. -/
structure Proposing (S : Setup κ π) (c : κ) (event : DesktopEvent) (row : Row) (h : String) (w : World κ π) : Prop where
  sound : Sound S w
  proposes : (w.task c).proposes = some event
  fresh : row.id < w.db.nextId
  same : ∀ row' ∈ w.db.rows, row'.id = row.id → row'.idempotencyKey = event.idempotencyKey ∧ row'.payloadHash = some h

lemma Proposing.step (hsys : S.sys.Lawful) {c : κ} {event : DesktopEvent} {row : Row} {h : String}
    (hother : h ≠ payloadFingerprint event) (hw : Proposing S c event row h w) {i : Input κ π}
    (hrow : ∃ row' ∈ w.db.rows, row'.id = row.id) (hexit : i ≠ .exit (S.process c))
    (hsilent : ∀ reply, (World.step S w i).2 ≠ some (c, reply)) : Proposing S c event row h (World.step S w i).1 where
  sound := hw.sound.step hsys i
  proposes := by
    rcases step_task (S := S) (w := w) i c with heq | ⟨rfl, -⟩ | ⟨op, -, hidle, -⟩ | ⟨env, rfl, heq⟩
    · rw [heq]
      exact hw.proposes
    · exact absurd rfl hexit
    · have hproposes := hw.proposes
      simp [hidle, Task.proposes] at hproposes
    · rw [heq]
      obtain ⟨row', hrow', hid⟩ := hrow
      obtain ⟨hkey, hhash⟩ := hw.same row' hrow' hid
      obtain ⟨⟨hnext, -⟩ | hdone | hdone, -⟩ := Task.proposes_step S.sys (S.mode c) env
        (v := w.view S c) hw.proposes hw.sound.db hrow' hkey hhash hother
      · exact hnext
      · exact absurd (by simp [World.step, hdone, Next.reply]) (hsilent .failed)
      · exact absurd (by simp [World.step, hdone, Next.reply]) (hsilent (.inserted .payloadCollision))
  fresh := hw.fresh.trans_le (nextId_le i)
  same := by
    intro row' hrow' hid
    obtain ⟨old, hold, hidold, hcase⟩ := same_id i hw.fresh hrow' hid
    obtain ⟨hkey, hhash⟩ := hw.same old hold hidold
    rcases hcase with rfl | ⟨st, -, hleads⟩
    · exact ⟨hkey, hhash⟩
    · obtain ⟨-, hsamekey, hsamehash, -⟩ := hleads.same
      exact ⟨hsamekey.trans hkey, hsamehash.trans hhash⟩

lemma Proposing.run (hsys : S.sys.Lawful) {c : κ} {event : DesktopEvent} {row : Row} {h : String}
    (hother : h ≠ payloadFingerprint event) {is : List (Input κ π)} (hw : Proposing S c event row h w)
    (halong : Machine.Along (World.step S)
      (fun w i => (∃ row' ∈ w.db.rows, row'.id = row.id) ∧ i ≠ .exit (S.process c)) w is)
    (hsilent : ∀ reply, some (c, reply) ∉ Machine.outputs (World.step S) w is) :
    Proposing S c event row h (Machine.final (World.step S) w is) := by
  induction is generalizing w with
  | nil => exact hw
  | cons i is ih =>
      obtain ⟨⟨hrow, hexit⟩, hrest⟩ := halong
      simp only [Machine.outputs_cons, List.mem_cons, not_or] at hsilent
      apply ih _ hrest fun reply => (hsilent reply).2
      exact hw.step hsys hother hrow hexit fun reply => Ne.symm (hsilent reply).1

lemma turnedAway (hsys : S.sys.Lawful) (hsound : Sound S w) : TurnedAway S w := by
  rintro c event target row h hidle hrow hkey hhash hother is i halong hsilent last rfl
  obtain ⟨halong, ⟨hstill, -⟩, -⟩ := Machine.along_append.mp halong
  have hstart : Proposing S c event row h (World.step S w (.start c (.insertPending event target))).1 := by
    refine ⟨hsound.step hsys _, ?_, ?_, ?_⟩
    · rw [task_start hidle]
      rfl
    · rw [step_db]
      exact hsound.db.fresh row hrow
    · intro row' hrow' hid
      rw [step_db] at hrow'
      rw [hsound.db.ids.eq hrow' hrow hid]
      exact ⟨hkey, hhash⟩
  have hlast := hstart.run hsys hother halong hsilent
  generalize Machine.final (World.step S) _ is = last at hlast hstill
  obtain ⟨row', hrow', hid⟩ := hstill
  obtain ⟨hkey', hhash'⟩ := hlast.same row' hrow' hid
  have hstep (env : Env) := Task.proposes_step S.sys (S.mode c) env (v := last.view S c)
    hlast.proposes hlast.sound.db hrow' hkey' hhash' hother
  constructor
  · intro reply hreply
    obtain ⟨env, rfl, hdone⟩ := step_reply hreply
    rcases (hstep env).1 with ⟨-, hrunning⟩ | hfailed | hcollision
    · exact absurd hdone (hrunning reply)
    · exact .inl (Next.done.inj (hdone.symm.trans hfailed))
    · exact .inr (Next.done.inj (hdone.symm.trans hcollision))
  · rintro env rfl hreseal
    exact (hstep env).2 hreseal

/-- In every run in which no quarantine row is written over a waiting event of another content, what is stored under a
key is what its fingerprint says, and an event of another content is turned away. -/
theorem content_under_key (hsys : S.sys.Lawful) {db : Db} (hdb : db.WellFormed)
    (hcontent : ∀ row ∈ db.rows, row.ContentOk S.sys) {is : List (Input κ π)}
    (h : Machine.Along (World.step S) OneContent (World.initial db) is) :
    (∀ row ∈ (Machine.final (World.step S) (World.initial db) is).db.rows, row.ContentOk S.sys) ∧
      TurnedAway S (Machine.final (World.step S) (World.initial db) is) := by
  have hfinal := Machine.invariant (P := fun w => Sound S w ∧ ContentSafe S w)
    (fun w i hi hw => ⟨hw.1.step hsys i, hw.2.step hw.1 hi⟩) h ⟨.initial hdb, .initial hcontent⟩
  exact ⟨hfinal.2.content, turnedAway hsys hfinal.1⟩

omit [DecidableEq κ] [DecidableEq π] in
lemma oneContent_of_not_writesDead {i : Input κ π} (h : (w.statement i).any Statement.writesDead = false) :
    OneContent w i := by
  intro event target lastError now hst
  simp [hst, Statement.writesDead] at h

section Swap

open Input

theorem content_under_key_revival :
    (∀ row ∈ (Machine.final (step (glassHouse id)) (initial {}) foundDeliverable).db.rows, row.ContentOk .glass) ∧
      TurnedAway (glassHouse id) (Machine.final (step (glassHouse id)) (initial {}) foundDeliverable) := by
  apply content_under_key System.glass_lawful Db.WellFormed.empty (by simp)
  have hrun : Machine.Along (step (glassHouse id)) (fun w i => (w.statement i).any Statement.writesDead = false)
      (initial {}) foundDeliverable := by decide
  exact hrun.mono fun w i h => oneContent_of_not_writesDead h

def misringing : DesktopEvent := { ringing with data := .object [("from", .string "+15550100")] }

/-- An event is held past the pruning of its row, another of its key is quarantined in its place, and the late seal
fills that row with the first. -/
def swap : List (Input ℕ Unit) :=
  [start 0 (.insertPending ringing "desktop"), go 0 (onDay 0 (.error "locked")), go 0 (onDay 0 (.error "locked")),
   go 0 (onDay 0 (.error "locked")), go 0 (onDay 0 (.error "locked")),
   start 0 (.pruneDead deadRetentionDays), go 0 (onDay 15 (.error "locked")),
   start 1 (.insertPending misringing "desktop"), go 1 (onDay 15 (.error "locked")), go 1 (onDay 15 (.error "locked")),
   start 0 (.dueForRetry 16), go 0 (onDay 15 (.ok ())), go 0 (onDay 15 (.ok ())), go 0 (onDay 15 (.ok ())),
   go 0 (onDay 15 (.ok ()))]

set_option maxRecDepth 8000 in
theorem late_seal_swaps_content :
    ¬∀ row ∈ (Machine.final (step (glassHouse fun _ => ())) (initial {}) swap).db.rows, row.ContentOk .glass := by
  intro h
  have hrow : ∃ row ∈ (Machine.final (step (glassHouse fun _ => ())) (initial {}) swap).db.rows,
      row.payloadHash = some (payloadFingerprint misringing) ∧
      System.glass.opened row.payloadJson = some (eventToString ringing) := by decide
  obtain ⟨row, hmem, hhash, hopened⟩ := hrow
  have heq := h row hmem _ ringing hhash hopened
  exact absurd heq (by decide)

end Swap

end World

end Aokie.Plugin.Outbox
