import Aokie.Lib.Keyed
import Aokie.Lib.Run
import Aokie.Plugin.Outbox.Alone

/-! The settlement of a call's transcript: the tracker of corrections and ended calls, the event written durably for
each call that is ready, and the shutdown that waits for them. -/

namespace Aokie.Plugin.TranscriptSettle

open Aokie.Lib Outbox

def transcriptSettleTimeout : Duration := 40 * 1000000000

structure PendingTranscriptSettlement where
  data : Json
  deadline : Instant

structure ReadyTranscriptSettlement where
  callId : String
  data : Json
  correctionTimedOut : Bool

structure TranscriptSettleTracker where
  correctionsInFlight : Keyed String ℕ := .empty
  ended : Keyed String PendingTranscriptSettlement := .empty

namespace TranscriptSettleTracker

variable (t : TranscriptSettleTracker)

def inFlight (callId : String) : ℕ := (t.correctionsInFlight.get callId).getD 0

def correctionStarted (callId : String) : TranscriptSettleTracker :=
  { t with correctionsInFlight := t.correctionsInFlight.insert callId (t.inFlight callId + 1) }

def correctionFinished (callId : String) : TranscriptSettleTracker :=
  match t.correctionsInFlight.get callId with
  | none => t
  | some count =>
    if count - 1 = 0 then { t with correctionsInFlight := t.correctionsInFlight.erase callId }
    else { t with correctionsInFlight := t.correctionsInFlight.insert callId (count - 1) }

def callEnded (callId : String) (data : Json) (now : Instant) : TranscriptSettleTracker :=
  match t.ended.get callId with
  | some _ => t
  | none => { t with ended := t.ended.insert callId ⟨data, now + transcriptSettleTimeout⟩ }

def readyEntry (now : Instant) (entry : String × PendingTranscriptSettlement) : Option ReadyTranscriptSettlement :=
  if ¬ 0 < t.inFlight entry.1 then some ⟨entry.1, entry.2.data, false⟩
  else if entry.2.deadline ≤ now then some ⟨entry.1, entry.2.data, true⟩
  else none

def ready (now : Instant) : List ReadyTranscriptSettlement := t.ended.entries.filterMap (t.readyEntry now)

def allEndedAsTimedOut : List ReadyTranscriptSettlement :=
  t.ended.entries.map fun entry => ⟨entry.1, entry.2.data, true⟩

def markSettled (callId : String) : TranscriptSettleTracker :=
  { t with ended := t.ended.erase callId, correctionsInFlight := t.correctionsInFlight.erase callId }

end TranscriptSettleTracker

def aokieIdempotencyKey (correlationId step : String) : String := "aokie:" ++ correlationId ++ ":" ++ step ++ ":v1"

def stepForEventName (name : String) : String :=
  let step := (stripPrefix "aokie.".toList name.toList).getD name.toList
  String.ofList ((stripPrefix "call.".toList step).getD step)

def aokieEvent (occurredAt : ℤ) (name correlationId : String) (data : Json) : DesktopEvent where
  schemaVersion := 1
  source := "aokie"
  name := name
  correlationId := correlationId
  idempotencyKey := aokieIdempotencyKey correlationId (stepForEventName name)
  occurredAt := rfc3339 occurredAt
  data := data
  pluginId := some "aokie"
  connectorId := some "aokie"
  severity := none

/-- `data.insert`: the fields of an object stand in the order of their names. -/
def setField (name : String) (value : Json) : List (String × Json) → List (String × Json)
  | [] => [(name, value)]
  | field :: fields =>
    if field.1 = name then (name, value) :: fields
    else if name < field.1 then (name, value) :: field :: fields
    else field :: setField name value fields

/-- What one attempt at a settlement meets: the wall clock, the outbox at each of its steps, and stdout. -/
structure Attempt where
  settledAt : ℤ
  occurredAt : ℤ
  envs : ℕ → Env
  lineSent : Bool

def settledData (attempt : Attempt) (settled : ReadyTranscriptSettlement) : Json :=
  match settled.data with
  | .object fields =>
    .object (setField "transcriptCorrectionTimedOut" (.bool settled.correctionTimedOut)
      (setField "transcriptSettledAt" (.string (rfc3339 attempt.settledAt)) fields))
  | data => data

def settledEvent (attempt : Attempt) (settled : ReadyTranscriptSettlement) : DesktopEvent :=
  aokieEvent attempt.occurredAt "aokie.call.transcript.settled" settled.callId (settledData attempt settled)

/-- The tracker, the outbox where there is one, and each call whose settlement was accepted, as often as it was. -/
structure State where
  tracker : TranscriptSettleTracker := {}
  outbox : Option View
  accepted : List String := []

/-- The order in which a hash map is gone through. -/
structure Order where
  visit : List ReadyTranscriptSettlement → List ReadyTranscriptSettlement
  perm : ∀ l, (visit l).Perm l

inductive Input
  | correctionStarted (callId : String)
  | correctionFinished (callId : String)
  | callEnded (callId : String) (data : Json) (now : Instant)
  | pass (now : Instant) (order : Order) (attempts : String → Attempt)
  | shutdown (order : Order) (attempts : String → Attempt)
  -- what other threads leave in the outbox
  | others (outbox : View)

section Emit

variable (sys : System) (allow : Bool)

def emitTranscriptSettlementDurably (attempt : Attempt) (event : DesktopEvent) : Option View → Option View × Bool
  | none => (none, attempt.lineSent)
  | some v =>
    match insertPending sys (sys.platformProtection allow) attempt.envs v event "desktop" with
    | (v, some (.inserted .inserted)) | (v, some (.inserted .duplicate)) => (some v, true)
    | (v, _) => (some v, false)

def settle (attempts : String → Attempt) (s : State) (settled : ReadyTranscriptSettlement) : State × Bool :=
  let attempt := attempts settled.callId
  match emitTranscriptSettlementDurably sys allow attempt (settledEvent attempt settled) s.outbox with
  | (outbox, true) => (⟨s.tracker.markSettled settled.callId, outbox, settled.callId :: s.accepted⟩, true)
  | (outbox, false) => ({ s with outbox := outbox }, false)

def emitTranscriptSettlements (attempts : String → Attempt) (s : State) : List ReadyTranscriptSettlement → State × Bool
  | [] => (s, true)
  | settled :: ready =>
    let first := settle sys allow attempts s settled
    let rest := emitTranscriptSettlements attempts first.1 ready
    (rest.1, first.2 && rest.2)

/-- A step of the radio loop. A shutdown is acknowledged where all it finds is durable. -/
def step : Machine State Input Bool
  | s, .correctionStarted callId => ({ s with tracker := s.tracker.correctionStarted callId }, false)
  | s, .correctionFinished callId => ({ s with tracker := s.tracker.correctionFinished callId }, false)
  | s, .callEnded callId data now => ({ s with tracker := s.tracker.callEnded callId data now }, false)
  | s, .pass now order attempts => emitTranscriptSettlements sys allow attempts s (order.visit (s.tracker.ready now))
  | s, .shutdown order attempts => emitTranscriptSettlements sys allow attempts s
      (order.visit s.tracker.allEndedAsTimedOut)
  | s, .others outbox => ({ s with outbox := s.outbox.map fun _ => outbox }, false)

end Emit

def Input.corrects (callId : String) (outstanding : ℕ) : Input → ℕ
  | correctionStarted other => if other = callId then outstanding + 1 else outstanding
  | correctionFinished other => if other = callId then outstanding - 1 else outstanding
  | _ => outstanding

def outstanding (inputs : List Input) (callId : String) : ℕ := inputs.foldl (Input.corrects callId) 0

def Input.ends (callId : String) : Input → Option Instant
  | callEnded other _ now => if other = callId then some now else none
  | _ => none

def endedAt (inputs : List Input) (callId : String) : Option Instant := inputs.findSome? (Input.ends callId)

def Input.isShutdown : Input → Bool
  | shutdown _ _ => true
  | _ => false

/-- What holds no other content under a settlement's key than the event an attempt builds for it. -/
def SameContent (attempts : String → Attempt) (s : State) (settled : ReadyTranscriptSettlement) : Prop :=
  ∀ v, s.outbox = some v → OneContent v .idle (settledEvent (attempts settled.callId) settled)

/-- No call ends again once it is settled, and each attempt finds no other content under its key. -/
def Undisturbed (s : State) : Input → Prop
  | .callEnded callId _ _ => callId ∉ s.accepted
  | .pass now _ attempts => ∀ settled ∈ s.tracker.ready now, SameContent attempts s settled
  | .shutdown _ attempts => ∀ settled ∈ s.tracker.allEndedAsTimedOut, SameContent attempts s settled
  | .others outbox => Tidy outbox
  | _ => True

def Attempt.Works (sys : System) (allow : Bool) (attempt : Attempt) : Prop :=
  attempt.lineSent = true ∧ ∀ n, Outbox.Works sys (sys.platformProtection allow) (attempt.envs n)

def Input.Emits (s : State) (attempts : String → Attempt) (settled : ReadyTranscriptSettlement) : Input → Prop
  | .pass now _ these => these = attempts ∧ settled ∈ s.tracker.ready now
  | .shutdown _ these => these = attempts ∧ settled ∈ s.tracker.allEndedAsTimedOut
  | _ => False

/-- An insert of the settlement's event answered that it is stored, and its row stands in the outbox. -/
def Durable (sys : System) (allow : Bool) (attempts : String → Attempt) (settled : ReadyTranscriptSettlement)
    (v : View) : Prop :=
  v.db.Recorded (settledEvent (attempts settled.callId) settled) ∧ ∃ before reply, Reply.Stores reply ∧
    (insertPending sys (sys.platformProtection allow) (attempts settled.callId).envs before
      (settledEvent (attempts settled.callId) settled) "desktop").2 = some reply

namespace TranscriptSettleTracker

variable {t : TranscriptSettleTracker} {callId : String}

@[simp] lemma inFlight_correctionStarted (t : TranscriptSettleTracker) (callId other : String) :
    (t.correctionStarted callId).inFlight other =
      if other = callId then t.inFlight other + 1 else t.inFlight other := by
  by_cases h : other = callId
  · subst h
    simp [inFlight, correctionStarted]
  · simp [inFlight, correctionStarted, h]

@[simp] lemma ended_correctionStarted (t : TranscriptSettleTracker) (callId : String) :
    (t.correctionStarted callId).ended = t.ended := rfl

@[simp] lemma ended_correctionFinished (t : TranscriptSettleTracker) (callId : String) :
    (t.correctionFinished callId).ended = t.ended := by
  rw [correctionFinished]
  split
  · rfl
  · split_ifs <;> rfl

@[simp] lemma inFlight_correctionFinished (t : TranscriptSettleTracker) (callId other : String) :
    (t.correctionFinished callId).inFlight other =
      if other = callId then t.inFlight other - 1 else t.inFlight other := by
  by_cases h : other = callId
  · subst h
    cases hcount : t.correctionsInFlight.get other with
    | none => simp [inFlight, correctionFinished, hcount]
    | some count =>
        by_cases hlast : count - 1 = 0
        · simp [inFlight, correctionFinished, hcount, hlast]
        · simp [inFlight, correctionFinished, hcount, hlast]
  · cases hcount : t.correctionsInFlight.get callId with
    | none => simp [inFlight, correctionFinished, hcount, h]
    | some count => by_cases hlast : count - 1 = 0 <;> simp [inFlight, correctionFinished, hcount, hlast, h]

lemma callEnded_of_ended {p : PendingTranscriptSettlement} (h : t.ended.get callId = some p) (data : Json)
    (now : Instant) :
    t.callEnded callId data now = t := by simp [callEnded, h]

lemma ended_callEnded (h : t.ended.get callId = none) (data : Json) (now : Instant) (other : String) :
    (t.callEnded callId data now).ended.get other =
      if other = callId then some ⟨data, now + transcriptSettleTimeout⟩ else t.ended.get other := by
  simp [callEnded, h]

@[simp] lemma inFlight_callEnded (t : TranscriptSettleTracker) (callId : String) (data : Json) (now : Instant)
  (other : String) :
    (t.callEnded callId data now).inFlight other = t.inFlight other := by
  rw [callEnded]
  split <;> rfl

@[simp] lemma ended_markSettled (t : TranscriptSettleTracker) (callId other : String) :
    (t.markSettled callId).ended.get other = if other = callId then none else t.ended.get other :=
  Keyed.get_erase _ _ _

lemma inFlight_markSettled {other : String} (h : other ≠ callId) :
    (t.markSettled callId).inFlight other = t.inFlight other := by
  simp [inFlight, markSettled, h]

lemma mem_ready {now : Instant} {settled : ReadyTranscriptSettlement} (h : settled ∈ t.ready now) :
    ∃ p, t.ended.get settled.callId = some p ∧ (t.inFlight settled.callId = 0 ∨ p.deadline ≤ now) := by
  obtain ⟨⟨c, p⟩, hentry, heq⟩ := List.mem_filterMap.mp h
  have hget : t.ended.get c = some p := Keyed.get_eq_some_iff.mpr hentry
  simp only [readyEntry] at heq
  split_ifs at heq with hpending hpast
  · obtain rfl := Option.some.inj heq
    exact ⟨p, hget, .inr hpast⟩
  · obtain rfl := Option.some.inj heq
    exact ⟨p, hget, .inl (Nat.eq_zero_of_not_pos hpending)⟩

lemma mem_allEndedAsTimedOut {settled : ReadyTranscriptSettlement} (h : settled ∈ t.allEndedAsTimedOut) :
    ∃ p, t.ended.get settled.callId = some p := by
  obtain ⟨⟨c, p⟩, hentry, rfl⟩ := List.mem_map.mp h
  exact ⟨p, Keyed.get_eq_some_iff.mpr hentry⟩

lemma allEndedAsTimedOut_ids (t : TranscriptSettleTracker) :
    t.allEndedAsTimedOut.map ReadyTranscriptSettlement.callId = t.ended.keys := by
  simp [allEndedAsTimedOut, Keyed.keys, Function.comp_def]

lemma ready_ids_sublist (now : Instant) (entries : List (String × PendingTranscriptSettlement)) :
    ((entries.filterMap (t.readyEntry now)).map ReadyTranscriptSettlement.callId).Sublist (entries.map Prod.fst) := by
  induction entries with
  | nil => exact .slnil
  | cons entry entries ih =>
      cases hready : t.readyEntry now entry with
      | none =>
          rw [List.filterMap_cons_none hready]
          exact ih.cons _
      | some settled =>
          have hid : settled.callId = entry.1 := by
            simp only [readyEntry] at hready
            split_ifs at hready <;> obtain rfl := Option.some.inj hready <;> rfl
          rw [List.filterMap_cons_some hready, List.map_cons, List.map_cons, hid]
          exact ih.cons_cons _

lemma ready_nodup (t : TranscriptSettleTracker) (now : Instant) :
    ((t.ready now).map ReadyTranscriptSettlement.callId).Nodup :=
  t.ended.nodup.sublist (ready_ids_sublist now _)

lemma allEndedAsTimedOut_nodup (t : TranscriptSettleTracker) :
    (t.allEndedAsTimedOut.map ReadyTranscriptSettlement.callId).Nodup := by
  rw [allEndedAsTimedOut_ids]
  exact t.ended.nodup

end TranscriptSettleTracker

lemma aokieIdempotencyKey_injective (step : String) : Function.Injective fun callId =>
    aokieIdempotencyKey callId step := by
  intro a b h
  have hlist := congrArg String.toList h
  simp only [aokieIdempotencyKey, String.toList_append, List.append_assoc] at hlist
  exact String.toList_injective (List.append_cancel_right (List.append_cancel_left hlist))

section Settle

variable {sys : System} {allow : Bool} {attempts : String → Attempt} {s : State}

lemma settle_cases (settled : ReadyTranscriptSettlement) :
    (∃ outbox, settle sys allow attempts s settled =
        (⟨s.tracker.markSettled settled.callId, outbox, settled.callId :: s.accepted⟩, true)) ∨
      ∃ outbox, settle sys allow attempts s settled = ({ s with outbox := outbox }, false) := by
  simp only [settle]
  split <;> rename_i outbox h
  · exact .inl ⟨outbox, rfl⟩
  · exact .inr ⟨outbox, rfl⟩

/-- What an emission of settlements does: the calls it settles leave the tracker and are accepted. -/
structure Settles (s : State) (ready : List ReadyTranscriptSettlement) (s' : State) (calls : List String) : Prop where
  accepted : s'.accepted = calls ++ s.accepted
  nodup : calls.Nodup
  ready : ∀ c ∈ calls, c ∈ ready.map ReadyTranscriptSettlement.callId
  ended : ∀ c, s'.tracker.ended.get c = if c ∈ calls then none else s.tracker.ended.get c
  inFlight : ∀ c, c ∉ calls → s'.tracker.inFlight c = s.tracker.inFlight c

lemma settles {ready : List ReadyTranscriptSettlement} (hnodup : (ready.map ReadyTranscriptSettlement.callId).Nodup) :
    ∃ calls, Settles s ready (emitTranscriptSettlements sys allow attempts s ready).1 calls := by
  induction ready generalizing s with
  | nil =>
      exact ⟨[], rfl, List.nodup_nil, by simp, by simp [emitTranscriptSettlements], by simp [emitTranscriptSettlements]⟩
  | cons settled ready ih =>
      obtain ⟨hfresh, hnodup⟩ := List.nodup_cons.mp hnodup
      simp only [emitTranscriptSettlements]
      obtain ⟨outbox, heq⟩ | ⟨outbox, heq⟩ := settle_cases (s := s) settled
      · rw [heq]
        obtain ⟨calls, hcalls⟩ :=
            ih (s := ⟨s.tracker.markSettled settled.callId, outbox, settled.callId :: s.accepted⟩) hnodup
        have hnot : settled.callId ∉ calls := fun h => hfresh (hcalls.ready _ h)
        refine ⟨calls ++ [settled.callId], ?_, ?_, ?_, ?_, ?_⟩
        · rw [hcalls.accepted, List.append_assoc]
          rfl
        · refine List.nodup_append.mpr ⟨hcalls.nodup, List.nodup_singleton _, ?_⟩
          intro c hc other hother heq
          exact hnot (List.mem_singleton.mp hother ▸ heq ▸ hc)
        · intro c hc
          obtain hc | hc := List.mem_append.mp hc
          · exact List.mem_cons_of_mem _ (hcalls.ready c hc)
          · exact List.mem_singleton.mp hc ▸ List.mem_cons_self
        · intro c
          rw [hcalls.ended]
          by_cases hc : c ∈ calls <;> simp [hc]
        · intro c hc
          obtain ⟨hc, hne⟩ : c ∉ calls ∧ c ≠ settled.callId := by simpa using hc
          rw [hcalls.inFlight c hc, TranscriptSettleTracker.inFlight_markSettled hne]
      · rw [heq]
        obtain ⟨calls, hcalls⟩ := ih (s := { s with outbox := outbox }) hnodup
        exact ⟨calls, hcalls.accepted, hcalls.nodup, fun c hc => List.mem_cons_of_mem _ (hcalls.ready c hc),
          hcalls.ended,
          hcalls.inFlight⟩

lemma emitDurably_fst (attempt : Attempt) (event : DesktopEvent) (v : View) :
    (emitTranscriptSettlementDurably sys allow attempt event (some v)).1 =
      some (insertPending sys (sys.platformProtection allow) attempt.envs v event "desktop").1 := by
  simp only [emitTranscriptSettlementDurably]
  split <;> simp_all

lemma emitDurably_works {attempt : Attempt} {event : DesktopEvent} {outbox : Option View} (hsys : sys.Lawful)
    (hworks : attempt.Works sys allow) (htidy : ∀ v, outbox = some v → Tidy v)
    (hcontent : ∀ v, outbox = some v → OneContent v .idle event) :
    (emitTranscriptSettlementDurably sys allow attempt event outbox).2 = true := by
  cases outbox with
  | none => exact hworks.1
  | some v =>
      obtain ⟨outcome, hreply, houtcome⟩ := insertPending_works hsys hworks.2 (htidy v rfl) (hcontent v rfl)
      rcases hinsert : insertPending sys (sys.platformProtection allow) attempt.envs v event "desktop" with ⟨v', reply⟩
      rw [hinsert] at hreply
      obtain rfl : reply = some (.inserted outcome) := hreply
      obtain rfl | rfl := houtcome <;> simp [emitTranscriptSettlementDurably, hinsert]

lemma settle_outbox (settled : ReadyTranscriptSettlement) :
    (settle sys allow attempts s settled).1.outbox = (emitTranscriptSettlementDurably sys allow
      (attempts settled.callId)
      (settledEvent (attempts settled.callId) settled) s.outbox).1 := by
  simp only [settle]
  split <;> simp_all

lemma settle_snd (settled : ReadyTranscriptSettlement) :
    (settle sys allow attempts s settled).2 = (emitTranscriptSettlementDurably sys allow (attempts settled.callId)
      (settledEvent (attempts settled.callId) settled) s.outbox).2 := by
  simp only [settle]
  split <;> simp_all

lemma settle_keeps (hsys : sys.Lawful) (htidy : ∀ v, s.outbox = some v → Tidy v) {settled : ReadyTranscriptSettlement}
    (hsame : SameContent attempts s settled) :
    (∀ v, (settle sys allow attempts s settled).1.outbox = some v → Tidy v) ∧
      ∀ other : ReadyTranscriptSettlement, settled.callId ≠ other.callId → SameContent attempts s other →
        SameContent attempts (settle sys allow attempts s settled).1 other := by
  cases hbox : s.outbox with
  | none =>
      have hnone : (settle sys allow attempts s settled).1.outbox = none := by
        rw [settle_outbox, hbox]
        rfl
      refine ⟨?_, ?_⟩
      · intro v hv
        simp [hnone] at hv
      · intro other hne hother v hv
        simp [hnone] at hv
  | some v =>
      have hsome := @settle_outbox sys allow attempts s settled
      rw [hbox, emitDurably_fst] at hsome
      refine ⟨?_, ?_⟩
      · intro v' hv'
        obtain rfl := Option.some.inj (hsome.symm.trans hv')
        exact (insertPending_keeps hsys (htidy v hbox) (hsame v hbox) fun _ => rfl).1
      · intro other hne hother v' hv'
        obtain rfl := Option.some.inj (hsome.symm.trans hv')
        have hkeys : (settledEvent (attempts settled.callId) settled).idempotencyKey ≠
            (settledEvent (attempts other.callId) other).idempotencyKey :=
              fun heq => hne (aokieIdempotencyKey_injective _ heq)
        exact (insertPending_keeps hsys (htidy v hbox) (hother v hbox) fun heq => absurd heq hkeys).2

lemma emission_tidy (hsys : sys.Lawful) {ready : List ReadyTranscriptSettlement}
    (hnodup : (ready.map ReadyTranscriptSettlement.callId).Nodup) (htidy : ∀ v, s.outbox = some v → Tidy v)
    (hsame : ∀ settled ∈ ready, SameContent attempts s settled) :
    ∀ v, (emitTranscriptSettlements sys allow attempts s ready).1.outbox = some v → Tidy v := by
  induction ready generalizing s with
  | nil => exact htidy
  | cons settled ready ih =>
      obtain ⟨hfresh, hnodup⟩ := List.nodup_cons.mp hnodup
      obtain ⟨hfirst, hrest⟩ := List.forall_mem_cons.mp hsame
      obtain ⟨htidy', hkeep⟩ := @settle_keeps sys allow attempts s hsys htidy _ hfirst
      apply ih hnodup htidy'
      intro other hother
      refine hkeep other ?_ (hrest other hother)
      exact fun heq => hfresh (List.mem_map.mpr ⟨other, hother, heq.symm⟩)

lemma emission_works (hsys : sys.Lawful) {ready : List ReadyTranscriptSettlement}
    (hnodup : (ready.map ReadyTranscriptSettlement.callId).Nodup) (htidy : ∀ v, s.outbox = some v → Tidy v)
    (hsame : ∀ settled ∈ ready, SameContent attempts s settled) (hworks : ∀ c, (attempts c).Works sys allow) :
    (emitTranscriptSettlements sys allow attempts s ready).2 = true ∧
      ∀ settled ∈ ready, (emitTranscriptSettlements sys allow attempts s ready).1.tracker.ended.get settled.callId =
        none := by
  induction ready generalizing s with
  | nil => simp [emitTranscriptSettlements]
  | cons settled ready ih =>
      obtain ⟨hfresh, hnodup⟩ := List.nodup_cons.mp hnodup
      obtain ⟨hfirst, hrest⟩ := List.forall_mem_cons.mp hsame
      obtain ⟨htidy', hkeep⟩ := @settle_keeps sys allow attempts s hsys htidy _ hfirst
      have hsettled : (settle sys allow attempts s settled).2 = true := by
        rw [settle_snd]
        exact emitDurably_works hsys (hworks _) htidy hfirst
      obtain ⟨hall, hgone⟩ := ih hnodup htidy' fun other hother =>
        hkeep other (fun heq => hfresh (List.mem_map.mpr ⟨other, hother, heq.symm⟩)) (hrest other hother)
      obtain ⟨calls, hcalls⟩ := @settles sys allow attempts (settle sys allow attempts s settled).1 _ hnodup
      refine ⟨by simp [emitTranscriptSettlements, hsettled, hall], List.forall_mem_cons.mpr ⟨?_, hgone⟩⟩
      obtain ⟨outbox, heq⟩ | ⟨outbox, heq⟩ := settle_cases (s := s) settled
      · simp only [emitTranscriptSettlements]
        rw [hcalls.ended, heq]
        simp
      · rw [heq] at hsettled
        simp at hsettled

lemma settle_durable (hsys : sys.Lawful) (htidy : ∀ v, s.outbox = some v → Tidy v) {settled : ReadyTranscriptSettlement}
    (hsettled : (settle sys allow attempts s settled).2 = true) :
    ∀ v, (settle sys allow attempts s settled).1.outbox = some v → Durable sys allow attempts settled v := by
  intro v' hv'
  rw [settle_outbox] at hv'
  rw [settle_snd] at hsettled
  cases hbox : s.outbox with
  | none =>
      rw [hbox] at hv'
      cases hv'
  | some v =>
      rw [hbox] at hv' hsettled
      rw [emitDurably_fst] at hv'
      obtain rfl := Option.some.inj hv'
      rcases hinsert : insertPending sys (sys.platformProtection allow) (attempts settled.callId).envs v
        (settledEvent (attempts settled.callId) settled) "desktop" with ⟨after, reply⟩
      obtain ⟨reply, rfl, hstores⟩ : ∃ r, reply = some r ∧ Reply.Stores r := by
        simp only [emitTranscriptSettlementDurably, hinsert] at hsettled
        split at hsettled
        · rename_i heq
          exact ⟨_, (Prod.mk.inj heq).2, .inl rfl⟩
        · rename_i heq
          exact ⟨_, (Prod.mk.inj heq).2, .inr rfl⟩
        · cases hsettled
      have hrecorded := insertPending_recorded hsys (htidy v hbox) (congrArg Prod.snd hinsert) hstores
      rw [hinsert] at hrecorded
      exact ⟨hrecorded, v, reply, hstores, congrArg Prod.snd hinsert⟩

lemma emission_durable_keeps (hsys : sys.Lawful) {ready : List ReadyTranscriptSettlement}
    {settled : ReadyTranscriptSettlement}
    (h : ∀ v, s.outbox = some v → Durable sys allow attempts settled v) :
    ∀ v, (emitTranscriptSettlements sys allow attempts s ready).1.outbox = some v →
      Durable sys allow attempts settled v := by
  induction ready generalizing s with
  | nil => exact h
  | cons first ready ih =>
      apply ih
      intro v' hv'
      rw [settle_outbox] at hv'
      cases hbox : s.outbox with
      | none =>
          rw [hbox] at hv'
          cases hv'
      | some v =>
          rw [hbox, emitDurably_fst] at hv'
          obtain rfl := Option.some.inj hv'
          obtain ⟨hrecorded, hanswered⟩ := h v hbox
          exact ⟨insertPending_recorded_keeps hsys hrecorded, hanswered⟩

lemma emission_durable (hsys : sys.Lawful) {ready : List ReadyTranscriptSettlement}
    (hnodup : (ready.map ReadyTranscriptSettlement.callId).Nodup) (htidy : ∀ v, s.outbox = some v → Tidy v)
    (hsame : ∀ settled ∈ ready, SameContent attempts s settled) {c : String}
    (hmore : s.accepted.count c < (emitTranscriptSettlements sys allow attempts s ready).1.accepted.count c) :
    ∃ settled ∈ ready, settled.callId = c ∧
      ∀ v, (emitTranscriptSettlements sys allow attempts s ready).1.outbox = some v →
        Durable sys allow attempts settled v := by
  induction ready generalizing s with
  | nil => exact absurd hmore (lt_irrefl _)
  | cons settled ready ih =>
      obtain ⟨hfresh, hnodup⟩ := List.nodup_cons.mp hnodup
      obtain ⟨hfirst, hrest⟩ := List.forall_mem_cons.mp hsame
      obtain ⟨htidy', hkeep⟩ := @settle_keeps sys allow attempts s hsys htidy _ hfirst
      by_cases hnow : s.accepted.count c < (settle sys allow attempts s settled).1.accepted.count c
      · obtain ⟨outbox, heq⟩ | ⟨outbox, heq⟩ := @settle_cases sys allow attempts s settled
        · have hcall : settled.callId = c := by
            by_contra hne
            rw [heq] at hnow
            simp [hne] at hnow
          refine ⟨settled, List.mem_cons_self, hcall, ?_⟩
          exact emission_durable_keeps (s := (settle sys allow attempts s settled).1) hsys
            (settle_durable hsys htidy (by rw [heq]))
        · rw [heq] at hnow
          exact absurd hnow (lt_irrefl _)
      · obtain ⟨later, hlater, hcall, hdurable⟩ := ih hnodup htidy'
          (fun other hother => hkeep other (fun heq => hfresh (List.mem_map.mpr ⟨other, hother, heq.symm⟩))
            (hrest other hother))
          (lt_of_le_of_lt (not_lt.mp hnow) hmore)
        exact ⟨later, List.mem_cons_of_mem _ hlater, hcall, hdurable⟩

end Settle

section Run

variable {sys : System} {allow : Bool} {inputs : List Input} {s : State} {i : Input}

lemma outstanding_concat (inputs : List Input) (i : Input) (c : String) :
    outstanding (inputs ++ [i]) c = i.corrects c (outstanding inputs c) := by
  simp [outstanding]

lemma endedAt_concat (inputs : List Input) (i : Input) (c : String) :
    endedAt (inputs ++ [i]) c = (endedAt inputs c).or (i.ends c) := by
  simp [endedAt, List.findSome?_append]

lemma endedAt_of_ends_none {c : String} (h : i.ends c = none) : endedAt (inputs ++ [i]) c = endedAt inputs c := by
  rw [endedAt_concat, h, Option.or_none]

lemma endedAt_callEnded (inputs : List Input) (callId : String) (data : Json) (now : Instant) (c : String) :
    endedAt (inputs ++ [.callEnded callId data now]) c =
      if callId = c then (endedAt inputs c).or (some now) else endedAt inputs c := by
  rw [endedAt_concat]
  simp only [Input.ends]
  split_ifs
  · rfl
  · exact Option.or_none

/-- What the tracker and the accepted settlements say of the run so far. -/
structure Settling (inputs : List Input) (s : State) : Prop where
  once : ∀ c, s.accepted.count c + (if s.tracker.ended.contains c then 1 else 0) =
    if (endedAt inputs c).isSome then 1 else 0
  deadline : ∀ c p, s.tracker.ended.get c = some p → ∃ t, endedAt inputs c = some t ∧
    p.deadline = t + transcriptSettleTimeout
  corrections : ∀ c, c ∉ s.accepted → s.tracker.inFlight c = outstanding inputs c
  outbox : ∀ v, s.outbox = some v → Tidy v

lemma Settling.initial {outbox : Option View} (h : ∀ v, outbox = some v → Tidy v) :
    Settling [] { outbox := outbox } where
  once := by simp [endedAt, Keyed.contains]
  deadline := by simp
  corrections := by simp [outstanding, TranscriptSettleTracker.inFlight]
  outbox := h

lemma Settling.not_accepted (h : Settling inputs s) {c : String} {p : PendingTranscriptSettlement}
    (hended : s.tracker.ended.get c = some p) : c ∉ s.accepted := by
  have honce := h.once c
  rw [if_pos (by simp [hended])] at honce
  split_ifs at honce
  exact List.count_eq_zero.mp (by omega)

lemma Settling.emission (h : Settling inputs s) {attempts : String → Attempt} {ready : List ReadyTranscriptSettlement}
    (hsys : sys.Lawful)
    (hnodup : (ready.map ReadyTranscriptSettlement.callId).Nodup)
    (hended : ∀ settled ∈ ready, ∃ p, s.tracker.ended.get settled.callId = some p)
    (hsame : ∀ settled ∈ ready, SameContent attempts s settled) :
    Settling inputs (emitTranscriptSettlements sys allow attempts s ready).1 := by
  obtain ⟨calls, hcalls⟩ := settles (s := s) hnodup
  constructor
  · intro c
    have honce := h.once c
    rw [hcalls.accepted, List.count_append]
    by_cases hc : c ∈ calls
    · obtain ⟨settled, hsettled, rfl⟩ := List.mem_map.mp (hcalls.ready c hc)
      obtain ⟨p, hp⟩ := hended settled hsettled
      have hone : calls.count settled.callId = 1 := List.count_eq_one_of_mem hcalls.nodup hc
      rw [if_pos (by simp [hp])] at honce
      rw [hone, Keyed.contains, hcalls.ended, if_pos hc, ← honce]
      simp [Nat.add_comm]
    · rw [List.count_eq_zero.mpr hc, Keyed.contains, hcalls.ended, if_neg hc, Nat.zero_add]
      exact honce
  · intro c p hp
    rw [hcalls.ended] at hp
    split_ifs at hp
    exact h.deadline c p hp
  · intro c hc
    rw [hcalls.accepted, List.mem_append, not_or] at hc
    rw [hcalls.inFlight c hc.1]
    exact h.corrections c hc.2
  · exact emission_tidy hsys hnodup h.outbox hsame

lemma Order.nodup (order : Order) {ready : List ReadyTranscriptSettlement}
    (h : (ready.map ReadyTranscriptSettlement.callId).Nodup) :
    ((order.visit ready).map ReadyTranscriptSettlement.callId).Nodup :=
  ((order.perm ready).map _).nodup_iff.mpr h

lemma Order.mem_iff (order : Order) {ready : List ReadyTranscriptSettlement} {settled : ReadyTranscriptSettlement} :
    settled ∈ order.visit ready ↔ settled ∈ ready := (order.perm ready).mem_iff

lemma Settling.next (h : Settling inputs s) (hsys : sys.Lawful) (hi : Undisturbed s i) :
    Settling (inputs ++ [i]) (step sys allow s i).1 := by
  have hother : (∀ c n, i.corrects c n = n) → (∀ c, i.ends c = none) → ∀ {s'}, Settling inputs s' →
      Settling (inputs ++ [i]) s' := by
    intro hcorrects hends s' h'
    constructor
    · intro c
      rw [endedAt_of_ends_none (hends c)]
      exact h'.once c
    · intro c p hp
      rw [endedAt_of_ends_none (hends c)]
      exact h'.deadline c p hp
    · intro c hc
      rw [outstanding_concat, hcorrects]
      exact h'.corrections c hc
    · exact h'.outbox
  cases i with
  | correctionStarted callId =>
      refine ⟨?_, ?_, ?_, h.outbox⟩
      · intro c
        rw [endedAt_of_ends_none rfl]
        exact h.once c
      · intro c p hp
        rw [endedAt_of_ends_none rfl]
        exact h.deadline c p hp
      · intro c hc
        rw [outstanding_concat, ← h.corrections c hc]
        simp [step, Input.corrects, eq_comm]
  | correctionFinished callId =>
      have hended : (step sys allow s (.correctionFinished callId)).1.tracker.ended = s.tracker.ended :=
        s.tracker.ended_correctionFinished callId
      refine ⟨?_, ?_, ?_, h.outbox⟩
      · intro c
        rw [endedAt_of_ends_none rfl, hended]
        exact h.once c
      · intro c p hp
        rw [endedAt_of_ends_none rfl]
        exact h.deadline c p (hended ▸ hp)
      · intro c hc
        rw [outstanding_concat, ← h.corrections c hc]
        simp [step, Input.corrects, eq_comm]
  | callEnded callId data now =>
      have hcorrections (c : String) (hc : c ∉ s.accepted) :
          (s.tracker.callEnded callId data now).inFlight c = outstanding
            (inputs ++ [.callEnded callId data now]) c := by
        rw [TranscriptSettleTracker.inFlight_callEnded, outstanding_concat]
        exact h.corrections c hc
      cases hget : s.tracker.ended.get callId with
      | some p =>
          -- the first end of the call stands
          obtain ⟨t, ht, -⟩ := h.deadline callId p hget
          have hended (c : String) : endedAt (inputs ++ [.callEnded callId data now]) c = endedAt inputs c := by
            rw [endedAt_callEnded]
            split_ifs with hc
            · rw [← hc, ht]
              rfl
            · rfl
          have hsame : (step sys allow s (.callEnded callId data now)).1 = s := by
            simp only [step]
            rw [TranscriptSettleTracker.callEnded_of_ended hget]
          refine ⟨?_, ?_, hcorrections, h.outbox⟩
          · intro c
            rw [hsame, hended]
            exact h.once c
          · intro c p hp
            rw [hended]
            exact h.deadline c p (hsame ▸ hp)
      | none =>
          have hfirst : endedAt inputs callId = none := by
            have honce := h.once callId
            rw [List.count_eq_zero.mpr hi, if_neg (by simp [hget])] at honce
            cases hended : endedAt inputs callId with
            | none => rfl
            | some t => simp [hended] at honce
          have hget' := TranscriptSettleTracker.ended_callEnded hget data now
          refine ⟨?_, ?_, hcorrections, h.outbox⟩
          · intro c
            rw [endedAt_callEnded, Keyed.contains]
            simp only [step, hget']
            by_cases hc : callId = c
            · subst hc
              simp [hfirst, List.count_eq_zero.mpr hi]
            · rw [if_neg hc, if_neg (Ne.symm hc)]
              exact h.once c
          · intro c p hp
            rw [endedAt_callEnded]
            simp only [step, hget'] at hp
            split_ifs at hp with hc
            · subst hc
              obtain rfl := Option.some.inj hp
              exact ⟨now, by simp [hfirst], rfl⟩
            · rw [if_neg (Ne.symm hc)]
              exact h.deadline c p hp
  | pass now order attempts =>
      apply hother (fun _ _ => rfl) fun _ => rfl
      apply h.emission hsys (order.nodup (s.tracker.ready_nodup now))
      · intro settled hsettled
        obtain ⟨p, hp, -⟩ := TranscriptSettleTracker.mem_ready (order.mem_iff.mp hsettled)
        exact ⟨p, hp⟩
      · exact fun settled hsettled => hi settled (order.mem_iff.mp hsettled)
  | shutdown order attempts =>
      apply hother (fun _ _ => rfl) fun _ => rfl
      apply h.emission hsys (order.nodup s.tracker.allEndedAsTimedOut_nodup)
      · exact fun settled hsettled => TranscriptSettleTracker.mem_allEndedAsTimedOut (order.mem_iff.mp hsettled)
      · exact fun settled hsettled => hi settled (order.mem_iff.mp hsettled)
  | others outbox =>
      apply hother (fun _ _ => rfl) fun _ => rfl
      refine ⟨h.once, h.deadline, h.corrections, ?_⟩
      intro v hv
      obtain ⟨-, -, rfl⟩ := Option.map_eq_some_iff.mp hv
      exact hi

lemma settling {outbox : Option View} (hsys : sys.Lawful) (houtbox : ∀ v, outbox = some v → Tidy v)
    (h : (step sys allow).Along Undisturbed { outbox := outbox } inputs) :
    Settling inputs ((step sys allow).final { outbox := outbox } inputs) := by
  induction inputs using List.reverseRecOn with
  | nil => exact .initial houtbox
  | append_singleton inputs i ih =>
      obtain ⟨hbefore, hlast⟩ := Machine.along_append.mp h
      rw [Machine.final_append]
      exact (ih hbefore).next hsys hlast.1

lemma Settling.due (h : Settling inputs s) {c : String}
    (hmore : s.accepted.count c < (step sys allow s i).1.accepted.count c) :
    i.isShutdown = true ∨ outstanding inputs c = 0 ∨
      ∃ now order attempts t, i = .pass now order attempts ∧ endedAt inputs c = some t ∧
        t + transcriptSettleTimeout ≤ now := by
  cases i with
  | shutdown order attempts => exact .inl rfl
  | pass now order attempts =>
      right
      obtain ⟨calls, hcalls⟩ := @settles sys allow attempts s _ (order.nodup (s.tracker.ready_nodup now))
      have hc : c ∈ calls := by
        by_contra hc
        simp only [step, hcalls.accepted, List.count_append, List.count_eq_zero.mpr hc] at hmore
        omega
      obtain ⟨settled, hsettled, rfl⟩ := List.mem_map.mp (hcalls.ready c hc)
      obtain ⟨p, hp, hdone | hpast⟩ := TranscriptSettleTracker.mem_ready (order.mem_iff.mp hsettled)
      · exact .inl (h.corrections _ (h.not_accepted hp) ▸ hdone)
      · obtain ⟨t, ht, hdeadline⟩ := h.deadline _ p hp
        exact .inr ⟨now, order, attempts, t, rfl, ht, hdeadline ▸ hpast⟩
  | _ => exact absurd hmore (lt_irrefl _)

lemma Settling.durable (h : Settling inputs s) (hsys : sys.Lawful) (hi : Undisturbed s i) {c : String}
    (hmore : s.accepted.count c < (step sys allow s i).1.accepted.count c) :
    ∃ attempts settled, i.Emits s attempts settled ∧ settled.callId = c ∧
      ∀ v, (step sys allow s i).1.outbox = some v → Durable sys allow attempts settled v := by
  cases i with
  | pass now order attempts =>
      obtain ⟨settled, hsettled, hcall, hdurable⟩ :=
          emission_durable hsys (order.nodup (s.tracker.ready_nodup now)) h.outbox
        (fun settled hsettled => hi settled (order.mem_iff.mp hsettled)) hmore
      exact ⟨attempts, settled, ⟨rfl, order.mem_iff.mp hsettled⟩, hcall, hdurable⟩
  | shutdown order attempts =>
      obtain ⟨settled, hsettled, hcall, hdurable⟩ :=
          emission_durable hsys (order.nodup s.tracker.allEndedAsTimedOut_nodup)
        h.outbox (fun settled hsettled => hi settled (order.mem_iff.mp hsettled)) hmore
      exact ⟨attempts, settled, ⟨rfl, order.mem_iff.mp hsettled⟩, hcall, hdurable⟩
  | _ => exact absurd hmore (lt_irrefl _)

lemma Settling.pass_works (h : Settling inputs s) (hsys : sys.Lawful) {now : Instant} {order : Order}
    {attempts : String → Attempt}
    (hi : Undisturbed s (.pass now order attempts)) (hworks : ∀ c, (attempts c).Works sys allow) :
    ∀ settled ∈ s.tracker.ready now,
      (step sys allow s (.pass now order attempts)).1.tracker.ended.get settled.callId = none := by
  intro settled hsettled
  exact (emission_works hsys (order.nodup (s.tracker.ready_nodup now)) h.outbox
    (fun other hother => hi other (order.mem_iff.mp hother)) hworks).2 settled (order.mem_iff.mpr hsettled)

lemma Settling.shutdown_works (h : Settling inputs s) (hsys : sys.Lawful) {order : Order} {attempts : String → Attempt}
    (hi : Undisturbed s (.shutdown order attempts)) (hworks : ∀ c, (attempts c).Works sys allow) :
    (step sys allow s (.shutdown order attempts)).2 = true ∧
      ∀ c, (step sys allow s (.shutdown order attempts)).1.tracker.ended.get c = none ∧
        (step sys allow s (.shutdown order attempts)).1.accepted.count c =
          if (endedAt inputs c).isSome then 1 else 0 := by
  obtain ⟨hall, hgone⟩ := emission_works hsys (order.nodup s.tracker.allEndedAsTimedOut_nodup) h.outbox
    (fun other hother => hi other (order.mem_iff.mp hother)) hworks
  have hnone (c : String) : (step sys allow s (.shutdown order attempts)).1.tracker.ended.get c = none := by
    obtain ⟨calls, hcalls⟩ := @settles sys allow attempts s _ (order.nodup s.tracker.allEndedAsTimedOut_nodup)
    cases hget : s.tracker.ended.get c with
    | none => simp [step, hcalls.ended, hget]
    | some p =>
        have hmem : c ∈ s.tracker.allEndedAsTimedOut.map ReadyTranscriptSettlement.callId := by
          rw [TranscriptSettleTracker.allEndedAsTimedOut_ids]
          exact Keyed.mem_keys_iff.mpr ⟨p, hget⟩
        obtain ⟨settled, hsettled, rfl⟩ := List.mem_map.mp hmem
        exact hgone settled (order.mem_iff.mpr hsettled)
  refine ⟨hall, fun c => ⟨hnone c, ?_⟩⟩
  have honce := ((h.next hsys hi : Settling _ (step sys allow s _).1)).once c
  rw [if_neg (by simp [hnone c]), endedAt_of_ends_none rfl, Nat.add_zero] at honce
  exact honce

/-- While no attempt finds other content under its key and no call ends again after it settled: each call that ended is
accepted once or waits in the tracker, none is accepted before it is due or without its row in the outbox, and once the
outbox works a pass settles the calls that are ready and a shutdown all of them. -/
theorem settled_exactly_once {outbox : Option View} (hsys : sys.Lawful) (houtbox : ∀ v, outbox = some v → Tidy v)
    (hrun : (step sys allow).Along Undisturbed { outbox := outbox } inputs) :
    let s := (step sys allow).final { outbox := outbox } inputs
    (∀ c, s.accepted.count c + (if s.tracker.ended.contains c then 1 else 0) =
      if (endedAt inputs c).isSome then 1 else 0) ∧
    (∀ i c, s.accepted.count c < (step sys allow s i).1.accepted.count c →
      i.isShutdown = true ∨ outstanding inputs c = 0 ∨
        ∃ now order attempts t, i = .pass now order attempts ∧ endedAt inputs c = some t ∧
          t + transcriptSettleTimeout ≤ now) ∧
    (∀ i c, Undisturbed s i → s.accepted.count c < (step sys allow s i).1.accepted.count c →
      ∃ attempts settled, i.Emits s attempts settled ∧ settled.callId = c ∧
        ∀ v, (step sys allow s i).1.outbox = some v → Durable sys allow attempts settled v) ∧
    (∀ now order attempts, Undisturbed s (.pass now order attempts) → (∀ c, (attempts c).Works sys allow) →
      ∀ settled ∈ s.tracker.ready now,
        (step sys allow s (.pass now order attempts)).1.tracker.ended.get settled.callId = none) ∧
    ∀ order attempts, Undisturbed s (.shutdown order attempts) → (∀ c, (attempts c).Works sys allow) →
      (step sys allow s (.shutdown order attempts)).2 = true ∧
      ∀ c, (step sys allow s (.shutdown order attempts)).1.tracker.ended.get c = none ∧
        (step sys allow s (.shutdown order attempts)).1.accepted.count c =
          if (endedAt inputs c).isSome then 1 else 0 := by
  have hsettling := settling hsys houtbox hrun
  exact ⟨hsettling.once, fun _ _ hmore => hsettling.due hmore, fun _ _ hi hmore => hsettling.durable hsys hi hmore,
    fun _ _ _ hi hworks => hsettling.pass_works hsys hi hworks,
    fun _ _ hi hworks => hsettling.shutdown_works hsys hi hworks⟩

end Run

section Samples

def freshOutbox : View := ⟨{}, [], none, none⟩

lemma freshOutbox_tidy : ∀ v, some freshOutbox = some v → Tidy v := by
  rintro v ⟨rfl⟩
  exact ⟨Db.WellFormed.empty, by simp [freshOutbox]⟩

def tryOn (day : ℤ) (key : Except String Unit) (_callId : String) : Attempt where
  settledAt := 1767225600000 + day * 86400000
  occurredAt := 1767225600000 + day * 86400000
  envs _ := onDay day key
  lineSent := true

lemma tryOn_works (day : ℤ) (callId : String) : (tryOn day (.ok ()) callId).Works .glass false := by
  refine ⟨rfl, fun _ => ⟨rfl, fun event => ⟨keychainPrefix ++ eventToString event, ?_⟩⟩⟩
  rfl

def inOrder : Order := ⟨id, fun _ => .refl _⟩

def hungUp : Input := .callEnded "call_1" (.object [("callId", .string "call_1")]) 0

theorem settled_at_shutdown :
    (step .glass false ((step .glass false).final { outbox := some freshOutbox } [.correctionStarted "call_1", hungUp])
      (.shutdown inOrder (tryOn 1 (.ok ())))).2 = true ∧
    (step .glass false ((step .glass false).final { outbox := some freshOutbox } [.correctionStarted "call_1", hungUp])
      (.shutdown inOrder (tryOn 1 (.ok ())))).1.accepted.count "call_1" = 1 := by
  have hrun : (step .glass false).Along Undisturbed { outbox := some freshOutbox }
      [.correctionStarted "call_1", hungUp] :=
    ⟨trivial, List.not_mem_nil, trivial⟩
  obtain ⟨-, -, -, -, hshutdown⟩ := settled_exactly_once System.glass_lawful freshOutbox_tidy hrun
  have hfresh : Undisturbed ((step .glass false).final { outbox := some freshOutbox }
      [.correctionStarted "call_1", hungUp])
      (.shutdown inOrder (tryOn 1 (.ok ()))) := by
    rintro settled - v ⟨rfl⟩
    constructor
    · simp [freshOutbox]
    · simp [freshOutbox, Task.inHands]
    · simp [Task.inserts, Task.proposes, Task.ownEvent]
  obtain ⟨hdone, hall⟩ := hshutdown inOrder _ hfresh (tryOn_works 1)
  exact ⟨hdone, (hall "call_1").2⟩

set_option maxRecDepth 8000 in
/-- The first attempt leaves a quarantine row with its own moment in its content, which no later attempt has. -/
theorem quarantined_settlement_blocks_shutdown :
    ¬∀ outbox inputs order attempts, (∀ v, outbox = some v → Tidy v) → (∀ c, (attempts c).Works .glass false) →
      (step .glass false ((step .glass false).final { outbox := outbox } inputs)
        (.shutdown order attempts)).2 = true := by
  intro h
  have hdone := h (some freshOutbox) [hungUp, .shutdown inOrder (tryOn 0 (.error "locked"))] inOrder (tryOn 1 (.ok ()))
    freshOutbox_tidy (tryOn_works 1)
  revert hdone
  decide

end Samples

end Aokie.Plugin.TranscriptSettle
