import Aokie.Plugin.TranscriptSettle

/-! The callers who wait while a call is up: the knock, its end, who takes it, and the missed-call record of one who
gave up. -/

namespace Aokie.Plugin.WaitingCallers

open Aokie.Lib Outbox TranscriptSettle

def trimmed (text : String) : String := String.ofList (trim text.toList)

def digitSuffix (raw : String) : String :=
  let digits := raw.toList.filter Char.isDigit
  if 9 < digits.length then String.ofList (digits.drop (digits.length - 9)) else String.ofList digits

/-- The acceptance pattern stands for what it matches. -/
structure ScreenPolicy where
  blocked : List String := []
  accept : Option (String → Bool) := none
  rejectPrivate : Bool := false
  allowed : List String := []
  callsAllowedOnly : Bool := false
  othersRing : Bool := true
  manager : List String := []

namespace ScreenPolicy

variable (screen : ScreenPolicy)

def onList (list : List String) (callerId : Option String) : Bool :=
  let suffix := digitSuffix (trimmed (callerId.getD ""))
  6 ≤ suffix.length && list.contains suffix

def isManager (callerId : Option String) : Bool := onList screen.manager callerId

def isAllowed (callerId : Option String) : Bool := onList screen.allowed callerId

def refusesOthers : Bool := screen.callsAllowedOnly && !screen.othersRing

def verdict (callerId : Option String) : Option String :=
  let id := trimmed (callerId.getD "")
  let suffix := digitSuffix id
  if id = "" || !id.toList.any Char.isDigit then
    if screen.rejectPrivate then some "private" else if screen.refusesOthers then some "not_allowed" else none
  else if 6 ≤ suffix.length && screen.blocked.contains suffix then some "blocked"
  else if screen.accept.any fun re => !re id then some "filtered"
  else if screen.refusesOthers && !screen.isAllowed (some id) then some "not_allowed"
  else none

end ScreenPolicy

/-- Of a session, what the switchboard knows a caller by. -/
structure CallSession where
  id : String
  generation : ℕ
  callerId : Option String
  deriving DecidableEq, Repr

structure SessionTracker where
  session : Option CallSession := none
  lastGeneration : ℕ := 0

namespace SessionTracker

variable (t : SessionTracker)

def generation : ℕ := (t.session.map CallSession.generation).getD 0

def callId : Option String := t.session.map CallSession.id

/-- `ring` and `dial`: a session starts only where there is none. -/
def start (id : String) (number : Option String) : SessionTracker :=
  match t.session with
  | some _ => t
  | none => ⟨some ⟨id, t.lastGeneration + 1, number⟩, t.lastGeneration + 1⟩

def ring (id : String) : SessionTracker := t.start id none

def dial (id : String) (number : Option String) : SessionTracker := t.start id number

def callerId (number : String) : SessionTracker :=
  { t with session := t.session.map fun s => { s with callerId := some number } }

/-- `terminate` and `park`. -/
def take : SessionTracker := { t with session := none }

def restore (session : CallSession) : SessionTracker × Option CallSession :=
  match t.session with
  | some _ => (t, some session)
  | none => (⟨some { session with generation := t.lastGeneration + 1 }, t.lastGeneration + 1⟩, none)

end SessionTracker

structure SwitchboardLeg where
  callId : String
  fromNumber : String
  deriving DecidableEq, Repr

/-- A waiting caller who is gone: the leg, when it ended, and the tracker's generation then. -/
structure GaveUp where
  leg : SwitchboardLeg
  endedAt : Instant
  genAtEnd : ℕ
  deriving DecidableEq, Repr

structure Radio where
  tracker : SessionTracker := {}
  parked : Option CallSession := none
  callWaitingAnnounced : Option String := none
  waitingCall : Option SwitchboardLeg := none
  gaveUpKnock : List GaveUp := []

/-- The clocks and the configuration as a pass finds them at one of the callers. -/
structure Stamp where
  now : Instant
  endedAt : ℤ
  occurredAt : ℤ
  configVersion : ℕ

inductive Input
  | callWaiting (number : Option String) (waitingId : String)
  | callWaitingEnded (now : Instant)
  | ring (id : String)
  | dial (id : String) (number : Option String)
  | callerId (number : String)
  | terminate
  -- the foreground call is parked, the parked one restored, the two exchanged, the parked one ended
  | park
  | restore
  | swap
  | endParked
  -- the knock whose caller was just taken under its id
  | served (callId : String)
  -- a switch found a stranger on the line
  | strangerActive (freshId : String)
  | deviceDisconnected
  | pass (screen : ScreenPolicy) (stamps : String → Stamp)

inductive Fate
  | accepted | overwritten | linkLost | full | stranger | screened | claimed
  | missed (event : DesktopEvent)

inductive Mark
  | knocked (callId : String)
  | left (callId : String) (fate : Fate)

def orWithheld (number : String) : Option String := if number = "" then none else some number

def missedCallEnded (screen : ScreenPolicy) (stamp : Stamp) (leg : SwitchboardLeg) : DesktopEvent :=
  aokieEvent stamp.occurredAt "aokie.call.ended" leg.callId
    (.object [("at", .string (rfc3339 stamp.endedAt)), ("callId", .string leg.callId),
      ("callerPhone", .string leg.fromNumber),
      ("configVersion", .number (.ofNat stamp.configVersion)), ("direction", .string "inbound"),
      ("durationMs", .number (.ofNat 0)),
      ("durationSeconds", .number (.ofNat 0)), ("from", .string leg.fromNumber),
      ("manager", .bool (screen.isManager (orWithheld leg.fromNumber))), ("outcome", .string "missed"),
      ("reason", .string "gave_up_waiting")])

def suffixOf (number : Option String) : Option String := (number.map digitSuffix).filter fun suffix => 6 ≤ suffix.length

def giveUpWait : Duration := 2500 * 1000000

namespace Radio

variable (s : Radio)

/-- `claimed_by_id || claimed_by_number || anonymous_claim`. -/
def claimed (knock : GaveUp) : Bool :=
  let byId := s.tracker.session.any (·.id = knock.leg.callId) || s.parked.any (·.id = knock.leg.callId)
  let suffix := digitSuffix knock.leg.fromNumber
  let byNumber := 6 ≤ suffix.length &&
    (suffixOf (s.tracker.session.bind CallSession.callerId) = some suffix || suffixOf
      (s.parked.bind CallSession.callerId) = some suffix)
  let anonymous := knock.leg.fromNumber = "" && s.tracker.generation != knock.genAtEnd
  byId || byNumber || anonymous

/-- What a pass does with a knock that ended: nothing yet, where it keeps it. -/
def fate (screen : ScreenPolicy) (stamps : String → Stamp) (knock : GaveUp) : Option Fate :=
  let stamp := stamps knock.leg.callId
  if (screen.verdict (orWithheld knock.leg.fromNumber)).isSome then some .screened
  else if s.claimed knock then some .claimed
  else if saturatingDurationSince stamp.now knock.endedAt < giveUpWait then none
  else some (.missed (missedCallEnded screen stamp knock.leg))

def callWaiting (number : Option String) (waitingId : String) : Radio × List Mark :=
  let num := number.getD ""
  match s.tracker.callId with
  | none => (s, [])
  | some corr =>
    if s.callWaitingAnnounced = some corr then
      ({ s with
          waitingCall := s.waitingCall.map fun leg =>
            if leg.fromNumber = "" then { leg with fromNumber := num } else leg }, [])
    else
      ({ s with callWaitingAnnounced := some corr, waitingCall := some ⟨waitingId, num⟩ },
        s.waitingCall.toList.map (fun leg => .left leg.callId .overwritten) ++ [.knocked waitingId])

def callWaitingEnded (now : Instant) : Radio × List Mark :=
  let s := { s with callWaitingAnnounced := none }
  match s.waitingCall with
  | none => (s, [])
  | some leg =>
    if s.gaveUpKnock.length < 8 then
      ({ s with waitingCall := none, gaveUpKnock := s.gaveUpKnock ++ [⟨leg, now, s.tracker.generation⟩] }, [])
    else ({ s with waitingCall := none }, [.left leg.callId .full])

def served (callId : String) : Radio × List Mark :=
  if s.waitingCall.any (·.callId = callId) then ({ s with waitingCall := none }, [.left callId .accepted]) else (s, [])

/-- The stranger is the knock there is, or the last that ended, and gets a session under its id. -/
def strangerActive (freshId : String) : Radio × List Mark :=
  match s.waitingCall, s.gaveUpKnock.getLast? with
  | some leg, _ =>
    ({ s with waitingCall := none, tracker := s.tracker.start leg.callId (orWithheld leg.fromNumber) },
      [.left leg.callId .stranger])
  | none, some knock =>
    ({ s with
        gaveUpKnock := s.gaveUpKnock.dropLast, tracker := s.tracker.start knock.leg.callId
          (orWithheld knock.leg.fromNumber) },
      [.left knock.leg.callId .stranger])
  | none, none => ({ s with tracker := s.tracker.ring freshId }, [])

def deviceDisconnected : Radio × List Mark :=
  ({ s with tracker := s.tracker.take, callWaitingAnnounced := none, waitingCall := none },
    s.waitingCall.toList.map fun leg => .left leg.callId .linkLost)

def pass (screen : ScreenPolicy) (stamps : String → Stamp) : Radio × List Mark :=
  ({ s with gaveUpKnock := s.gaveUpKnock.filter fun knock => (s.fate screen stamps knock).isNone },
    s.gaveUpKnock.filterMap fun knock => (s.fate screen stamps knock).map (.left knock.leg.callId))

def restore : Radio :=
  match s.parked with
  | none => s
  | some session =>
    let (tracker, back) := s.tracker.restore session
    { s with tracker := tracker, parked := back }

def swap : Radio :=
  match s.parked with
  | none => s
  | some session => { s with tracker := (s.tracker.take.restore session).1, parked := s.tracker.session }

end Radio

def step : Machine Radio Input (List Mark)
  | s, .callWaiting number waitingId => s.callWaiting number waitingId
  | s, .callWaitingEnded now => s.callWaitingEnded now
  | s, .ring id => ({ s with tracker := s.tracker.ring id }, [])
  | s, .dial id number => ({ s with tracker := s.tracker.dial id number }, [])
  | s, .callerId number => ({ s with tracker := s.tracker.callerId number }, [])
  | s, .terminate => ({ s with tracker := s.tracker.take }, [])
  | s, .park => ({ s with tracker := s.tracker.take, parked := s.tracker.session.or s.parked }, [])
  | s, .restore => (s.restore, [])
  | s, .swap => (s.swap, [])
  | s, .endParked => ({ s with parked := none }, [])
  | s, .served callId => s.served callId
  | s, .strangerActive freshId => s.strangerActive freshId
  | s, .deviceDisconnected => s.deviceDisconnected
  | s, .pass screen stamps => s.pass screen stamps

namespace Mark

def knocks (id : String) : Mark → Bool
  | knocked callId => callId = id
  | _ => false

def leaves (id : String) : Mark → Bool
  | left callId _ => callId = id
  | _ => false

def misses (id : String) : Mark → Bool
  | left callId (.missed _) => callId = id
  | _ => false

lemma leaves_of_misses {id : String} {mark : Mark} (h : mark.misses id = true) : mark.leaves id = true := by
  rcases mark with _ | ⟨callId, fate⟩
  · simp [misses] at h
  · cases fate <;> simp_all [misses, leaves]

end Mark

def Input.mints : Input → Option String
  | callWaiting _ waitingId => some waitingId
  | _ => none

def Input.starts : Input → Option String
  | ring id | dial id _ => some id
  | _ => none

def marks (inputs : List Input) : List Mark := (Machine.outputs step {} inputs).flatten

def Radio.pending (s : Radio) (id : String) : ℕ :=
  s.waitingCall.toList.countP (fun leg => leg.callId = id) + s.gaveUpKnock.countP fun knock => knock.leg.callId = id

section Steps

variable {s : Radio} {i : Input}

lemma countP_split (fate : GaveUp → Option Fate) (id : String) (queue : List GaveUp) :
    (queue.filterMap fun knock => (fate knock).map (Mark.left knock.leg.callId)).countP (Mark.leaves id) +
      (queue.filter fun knock => (fate knock).isNone).countP (fun knock => knock.leg.callId = id) =
    queue.countP fun knock => knock.leg.callId = id := by
  induction queue with
  | nil => rfl
  | cons knock queue ih =>
      cases hfate : fate knock with
      | none => simp [hfate, List.countP_cons, ← ih, Nat.add_assoc]
      | some fate =>
          by_cases hid : knock.leg.callId = id
          · simp [hfate, Mark.leaves, hid, ← ih, Nat.add_right_comm]
          · simp [hfate, Mark.leaves, hid, ← ih]

lemma countP_knocks_pass (screen : ScreenPolicy) (stamps : String → Stamp) (id : String) :
    (s.pass screen stamps).2.countP (Mark.knocks id) = 0 := by
  rw [List.countP_eq_zero]
  intro mark hmark
  obtain ⟨knock, -, heq⟩ := List.mem_filterMap.mp hmark
  obtain ⟨fate, -, rfl⟩ := Option.map_eq_some_iff.mp heq
  simp [Mark.knocks]

lemma balance (s : Radio) (i : Input) (id : String) :
    (step s i).2.countP (Mark.knocks id) + s.pending id = (step s i).2.countP (Mark.leaves id) +
      (step s i).1.pending id := by
  cases i with
  | callWaiting number waitingId =>
      simp only [step, Radio.callWaiting]
      split
      · simp
      · split_ifs
        · cases hwaiting : s.waitingCall with
          | none => simp [Radio.pending, hwaiting]
          | some leg => by_cases hfrom : leg.fromNumber = "" <;> simp [Radio.pending, hwaiting, hfrom]
        · cases hwaiting : s.waitingCall <;> simp [Radio.pending, hwaiting, Mark.knocks, Mark.leaves, List.countP_cons]
          all_goals omega
  | callWaitingEnded now =>
      simp only [step, Radio.callWaitingEnded]
      cases hwaiting : s.waitingCall with
      | none => simp [Radio.pending, hwaiting]
      | some leg =>
          by_cases hroom : s.gaveUpKnock.length < 8 <;>
            simp [Radio.pending, hwaiting, hroom, Mark.knocks, Mark.leaves, List.countP_cons]
          all_goals omega
  | restore =>
      have hsame : (step s .restore).1.pending id = s.pending id := by
        simp only [step, Radio.restore]
        split <;> rfl
      simp [step] at hsame ⊢
      exact hsame.symm
  | swap =>
      have hsame : (step s .swap).1.pending id = s.pending id := by
        simp only [step, Radio.swap]
        split <;> rfl
      simp [step] at hsame ⊢
      exact hsame.symm
  | served callId =>
      simp only [step, Radio.served]
      cases hwaiting : s.waitingCall with
      | none => simp [Radio.pending]
      | some leg =>
          by_cases hid : leg.callId = callId
          · subst hid
            simp [Radio.pending, hwaiting, Mark.knocks, Mark.leaves, List.countP_cons]
          · simp [Radio.pending, hid]
  | strangerActive freshId =>
      simp only [step, Radio.strangerActive]
      cases hwaiting : s.waitingCall with
      | some leg => simp [Radio.pending, hwaiting, Mark.knocks, Mark.leaves, List.countP_cons]
      | none =>
          cases hlast : s.gaveUpKnock.getLast? with
          | none => simp [Radio.pending, hwaiting]
          | some knock =>
              have hqueue := List.dropLast_append_getLast? knock hlast
              simp only [Radio.pending, hwaiting, Mark.knocks, Mark.leaves, List.countP_cons, List.countP_nil]
              conv_lhs => rw [← hqueue, List.countP_append]
              simp [List.countP_cons]
              omega
  | deviceDisconnected =>
      cases hwaiting : s.waitingCall <;> simp [step, Radio.deviceDisconnected, Radio.pending, hwaiting, Mark.knocks,
        Mark.leaves, List.countP_cons]
  | pass screen stamps =>
      have hsplit := countP_split (s.fate screen stamps) id s.gaveUpKnock
      simp only [step, countP_knocks_pass, Radio.pending]
      simp only [Radio.pass]
      omega
  | _ => simp [step, Radio.pending]

lemma countP_knocks_le (s : Radio) (i : Input) (id : String) :
    (step s i).2.countP (Mark.knocks id) ≤ i.mints.toList.count id := by
  cases i with
  | callWaiting number waitingId =>
      simp only [step, Radio.callWaiting, Input.mints]
      split
      · simp
      · split_ifs
        · simp
        · cases hwaiting : s.waitingCall <;> by_cases hid : waitingId = id <;> simp [Mark.knocks, hid]
  | callWaitingEnded now =>
      simp only [step, Radio.callWaitingEnded]
      split
      · simp
      · split_ifs <;> simp [Mark.knocks]
  | served callId =>
      simp only [step, Radio.served]
      split_ifs <;> simp [Mark.knocks]
  | strangerActive freshId =>
      simp only [step, Radio.strangerActive]
      split <;> simp [Mark.knocks]
  | deviceDisconnected =>
      cases hwaiting : s.waitingCall <;> simp [step, Radio.deviceDisconnected, hwaiting, Mark.knocks]
  | pass screen stamps => simp [step, countP_knocks_pass]
  | _ => simp [step]

lemma countP_accounted (inputs : List Input) (id : String) :
    (marks inputs).countP (Mark.knocks id) =
      (marks inputs).countP (Mark.leaves id) + (Machine.final step {} inputs).pending id := by
  induction inputs using List.reverseRecOn with
  | nil => rfl
  | append_singleton inputs i ih =>
      have hbalance := balance (Machine.final step {} inputs) i id
      simp only [marks] at ih ⊢
      simp only [Machine.outputs_append, Machine.final_append, Machine.outputs_cons, Machine.outputs_nil,
        Machine.final_cons,
        Machine.final_nil, List.flatten_append, List.flatten_cons, List.flatten_nil, List.append_nil,
          List.countP_append]
      omega

lemma countP_knocks_le_one {inputs : List Input} (hminted : (inputs.filterMap Input.mints).Nodup) (id : String) :
    (marks inputs).countP (Mark.knocks id) ≤ 1 := by
  have hle (inputs : List Input) :
      (marks inputs).countP (Mark.knocks id) ≤ (inputs.filterMap Input.mints).count id := by
    induction inputs using List.reverseRecOn with
    | nil => exact le_rfl
    | append_singleton inputs i ih =>
        have hstep := countP_knocks_le (Machine.final step {} inputs) i id
        have hone : ([i].filterMap Input.mints) = i.mints.toList := by cases hmints : i.mints <;> simp [hmints]
        simp only [marks] at ih ⊢
        simp only [Machine.outputs_append, Machine.outputs_cons, Machine.outputs_nil, List.flatten_append,
          List.flatten_cons,
          List.flatten_nil, List.append_nil, List.countP_append, List.filterMap_append, hone, List.count_append]
        omega
  exact (hle inputs).trans (List.nodup_iff_count_le_one.mp hminted id)

lemma countP_misses_lt {marks : List Mark} {id : String} {fate : Fate} (hmem : .left id fate ∈ marks)
    (hfate : ∀ event, fate ≠ .missed event) : marks.countP (Mark.misses id) < marks.countP (Mark.leaves id) := by
  have hmisses : (Mark.left id fate).misses id = false := by
    cases fate with
    | missed event => exact absurd rfl (hfate event)
    | _ => rfl
  have hleaves : (Mark.left id fate).leaves id = true := by simp [Mark.leaves]
  induction marks with
  | nil => simp at hmem
  | cons mark marks ih =>
      have hmono : marks.countP (Mark.misses id) ≤ marks.countP (Mark.leaves id) :=
        List.countP_mono_left fun mark _ => Mark.leaves_of_misses
      obtain rfl | hmem := List.mem_cons.mp hmem
      · rw [List.countP_cons_of_neg (by simp [hmisses]), List.countP_cons_of_pos hleaves]
        omega
      · have hrest := ih hmem
        rw [List.countP_cons, List.countP_cons]
        by_cases hmiss : mark.misses id = true
        · rw [if_pos hmiss, if_pos (Mark.leaves_of_misses hmiss)]
          omega
        · rw [if_neg hmiss]
          omega

end Steps

/-! Who is on the line, and what keeps the account of the waiting callers true. -/

section Line

variable {s : Radio} {i : Input} {knock : GaveUp} {leg : SwitchboardLeg}

/-- A session is the caller's: under the id of the knock, or of the same number. -/
def CallSession.isOf (session : CallSession) (leg : SwitchboardLeg) : Prop :=
  session.id = leg.callId ∨ leg.fromNumber ≠ "" ∧ session.callerId.map digitSuffix = some (digitSuffix leg.fromNumber)

namespace Radio

def OnLine (s : Radio) (leg : SwitchboardLeg) : Prop :=
  ∃ session, (s.tracker.session = some session ∨ s.parked = some session) ∧ session.isOf leg

def Awaits (s : Radio) (leg : SwitchboardLeg) : Prop :=
  s.waitingCall = some leg ∨ ∃ knock ∈ s.gaveUpKnock, knock.leg = leg

/-- A session that may go: it has no caller on the line whose knock is still to be accounted for. -/
def Spares (s : Radio) (session : Option CallSession) : Prop := ∀ old ∈ session, ∀ leg, s.Awaits leg → ¬old.isOf leg

def Serves (s : Radio) (id : String) : Prop := ∃ leg, s.Awaits leg ∧ leg.callId = id ∧ s.OnLine leg

end Radio

/-- What keeps the account true: a knock that ends finds room and one that begins no other; a session that has a pending
caller on the line does not go, nor change its number, before a pass; and a pass tells from number or generation. -/
def Attended (s : Radio) : Input → Prop
  | .callWaiting _ _ => s.waitingCall = none ∨ s.tracker.callId = none ∨ s.callWaitingAnnounced = s.tracker.callId
  | .callWaitingEnded _ => s.waitingCall = none ∨ s.gaveUpKnock.length < 8
  | .callerId number => ∀ session ∈ s.tracker.session, ∀ leg, s.Awaits leg → session.isOf leg →
      CallSession.isOf { session with callerId := some number } leg
  | .terminate => s.Spares s.tracker.session
  | .park => s.tracker.session = none ∨ s.Spares s.parked
  | .endParked => s.Spares s.parked
  | .deviceDisconnected => s.waitingCall = none ∧ s.Spares s.tracker.session
  | .pass _ _ => ∀ knock ∈ s.gaveUpKnock,
      if knock.leg.fromNumber = "" then s.tracker.generation = knock.genAtEnd ∨ s.OnLine knock.leg
      else 6 ≤ (digitSuffix knock.leg.fromNumber).length ∨ ¬s.OnLine knock.leg
  | .ring _ | .dial _ _ | .restore | .swap | .served _ | .strangerActive _ => True

/-- While the knock is pending nobody has the caller on the line, nothing screens them, and no stranger takes their
knock. -/
def Untaken (knock : GaveUp) (s : Radio) (i : Input) : Prop :=
  knock ∈ s.gaveUpKnock → ¬s.OnLine knock.leg ∧
    match i with
    | .pass screen _ => screen.verdict (orWithheld knock.leg.fromNumber) = none
    | .strangerActive _ => s.waitingCall = none → s.gaveUpKnock.getLast? ≠ some knock
    | _ => True

def Due (knock : GaveUp) : Input → Prop
  | .pass _ stamps => giveUpWait ≤ saturatingDurationSince (stamps knock.leg.callId).now knock.endedAt
  | _ => False

instance (session : CallSession) (leg : SwitchboardLeg) : Decidable (session.isOf leg) :=
  inferInstanceAs (Decidable (_ ∨ _ ∧ _))

instance : Decidable (s.OnLine leg) :=
  decidable_of_iff (∃ session ∈ s.tracker.session.toList ++ s.parked.toList, session.isOf leg) (by simp [Radio.OnLine])

instance {p : SwitchboardLeg → Prop} [DecidablePred p] : Decidable (∀ leg, s.Awaits leg → p leg) :=
  decidable_of_iff (∀ leg ∈ s.waitingCall.toList ++ s.gaveUpKnock.map GaveUp.leg, p leg)
    (by simp only [Radio.Awaits, List.mem_append, List.mem_map, Option.mem_toList])

instance (session : Option CallSession) : Decidable (s.Spares session) :=
  inferInstanceAs (Decidable (∀ old ∈ session, ∀ leg, s.Awaits leg → ¬old.isOf leg))

instance : ∀ s i, Decidable (Attended s i)
  | _, .callWaiting _ _ => inferInstanceAs (Decidable (_ ∨ _ ∨ _))
  | _, .callWaitingEnded _ => inferInstanceAs (Decidable (_ ∨ _))
  | s, .callerId number => inferInstanceAs (Decidable (∀ session ∈ s.tracker.session, ∀ leg, s.Awaits leg →
      session.isOf leg →
      CallSession.isOf { session with callerId := some number } leg))
  | s, .terminate => inferInstanceAs (Decidable (s.Spares s.tracker.session))
  | s, .park => inferInstanceAs (Decidable (s.tracker.session = none ∨ s.Spares s.parked))
  | s, .endParked => inferInstanceAs (Decidable (s.Spares s.parked))
  | s, .deviceDisconnected => inferInstanceAs (Decidable (s.waitingCall = none ∧ s.Spares s.tracker.session))
  | s, .pass _ _ => inferInstanceAs (Decidable (∀ knock ∈ s.gaveUpKnock,
      if knock.leg.fromNumber = "" then s.tracker.generation = knock.genAtEnd ∨ s.OnLine knock.leg
      else 6 ≤ (digitSuffix knock.leg.fromNumber).length ∨ ¬s.OnLine knock.leg))
  | _, .ring _ | _, .dial _ _ | _, .restore | _, .swap | _, .served _ | _, .strangerActive _ => .isTrue trivial

lemma suffixOf_eq {number : Option String} (hlong : 6 ≤ (digitSuffix leg.fromNumber).length) :
    suffixOf number = some (digitSuffix leg.fromNumber) ↔ number.map digitSuffix =
      some (digitSuffix leg.fromNumber) := by
  rw [suffixOf, Option.filter_eq_some_iff]
  simp [hlong]

lemma claimed_of_onLine (h : s.OnLine knock.leg)
    (hlong : knock.leg.fromNumber ≠ "" → 6 ≤ (digitSuffix knock.leg.fromNumber).length) : s.claimed knock = true := by
  obtain ⟨session, hon, hid | ⟨hknown, hnumber⟩⟩ := h
  · rcases hon with hon | hon <;> simp [Radio.claimed, hon, hid]
  · have hmatch := (suffixOf_eq (hlong hknown)).mpr hnumber
    rcases hon with hon | hon <;> simp [Radio.claimed, hon, hmatch, hlong hknown]

lemma onLine_of_claimed (h : s.claimed knock = true) :
    s.OnLine knock.leg ∨ knock.leg.fromNumber = "" ∧ s.tracker.generation ≠ knock.genAtEnd := by
  simp only [Radio.claimed, Bool.or_eq_true, Bool.and_eq_true, Option.any_eq_true, decide_eq_true_eq, bne_iff_ne] at h
  obtain (⟨session, hon, hid⟩ | ⟨session, hon, hid⟩) | ⟨hlong, hnumber⟩ | hanonymous := or_assoc.mp h
  · exact .inl ⟨session, .inl hon, .inl hid⟩
  · exact .inl ⟨session, .inr hon, .inl hid⟩
  · have hknown : knock.leg.fromNumber ≠ "" := by
      intro hwithheld
      rw [hwithheld] at hlong
      exact absurd hlong (by decide)
    rw [suffixOf_eq hlong, suffixOf_eq hlong] at hnumber
    left
    rcases hnumber with hnumber | hnumber
    · obtain ⟨_, hsome, hsuffix⟩ := Option.map_eq_some_iff.mp hnumber
      obtain ⟨session, hon, hcaller⟩ := Option.bind_eq_some_iff.mp hsome
      exact ⟨session, .inl hon, .inr ⟨hknown, by rw [hcaller, Option.map_some, hsuffix]⟩⟩
    · obtain ⟨_, hsome, hsuffix⟩ := Option.map_eq_some_iff.mp hnumber
      obtain ⟨session, hon, hcaller⟩ := Option.bind_eq_some_iff.mp hsome
      exact ⟨session, .inr hon, .inr ⟨hknown, by rw [hcaller, Option.map_some, hsuffix]⟩⟩
  · exact .inr hanonymous

lemma mem_pass {screen : ScreenPolicy} {stamps : String → Stamp} {fate : Fate} (hmem : knock ∈ s.gaveUpKnock)
    (hfate : s.fate screen stamps knock = some fate) : .left knock.leg.callId fate ∈ (step s (.pass screen stamps)).2 :=
  List.mem_filterMap.mpr ⟨knock, hmem, by rw [hfate]; rfl⟩

end Line

section Served

variable {s t : Radio} {i : Input} {id : String}

def LeavesUnmissed (marks : List Mark) (id : String) : Prop :=
  ∃ fate, .left id fate ∈ marks ∧ ∀ event, fate ≠ .missed event

lemma Radio.Serves.mono (h : s.Serves id) (hawaits : ∀ leg, s.Awaits leg → t.Awaits leg)
    (hsessions : ∀ session, s.tracker.session = some session ∨ s.parked = some session → ∀ leg, s.Awaits leg →
      session.isOf leg →
      ∃ other, (t.tracker.session = some other ∨ t.parked = some other) ∧ other.isOf leg) : t.Serves id := by
  obtain ⟨leg, hawait, hid, session, hon, hof⟩ := h
  exact ⟨leg, hawaits leg hawait, hid, hsessions session hon leg hawait hof⟩

lemma Radio.Serves.of_sessions (h : s.Serves id) (hawaits : ∀ leg, s.Awaits leg → t.Awaits leg)
    (htracker : t.tracker = s.tracker) (hparked : t.parked = s.parked) : t.Serves id := by
  apply h.mono hawaits
  intro session hon leg _ hof
  exact ⟨session, by rwa [htracker, hparked], hof⟩

lemma SessionTracker.session_start {tracker : SessionTracker} {session : CallSession}
    (h : tracker.session = some session)
    (freshId : String) (number : Option String) : (tracker.start freshId number).session = some session := by
  simp [SessionTracker.start, h]

lemma Radio.Serves.start (h : s.Serves id) (hawaits : ∀ leg, s.Awaits leg → t.Awaits leg) {freshId : String}
    {number : Option String}
    (htracker : t.tracker = s.tracker.start freshId number) (hparked : t.parked = s.parked) : t.Serves id := by
  apply h.mono hawaits
  rintro session (hon | hon) leg - hof
  · exact ⟨session, .inl (by rw [htracker, SessionTracker.session_start hon]), hof⟩
  · exact ⟨session, .inr (by rw [hparked, hon]), hof⟩

lemma isOf_generation {session : CallSession} {leg : SwitchboardLeg} {generation : ℕ} (h : session.isOf leg) :
    CallSession.isOf { session with generation := generation } leg := h

lemma serves_step (h : s.Serves id) (hattended : Attended s i) :
    (step s i).1.Serves id ∨ LeavesUnmissed (step s i).2 id := by
  cases i with
  | callWaiting number waitingId =>
      obtain ⟨leg, hawait, hid, session, hon, hof⟩ := h
      simp only [step, Radio.callWaiting]
      split
      · exact .inl ⟨leg, hawait, hid, session, hon, hof⟩
      · split_ifs
        · obtain hwaiting | hqueued := hawait
          · left
            by_cases hfrom : leg.fromNumber = ""
            · have hsession : session.id = leg.callId := hof.resolve_right fun hnumber => hnumber.1 hfrom
              exact ⟨{ leg with fromNumber := number.getD "" }, .inl (by simp [hwaiting, hfrom]), hid, session, hon,
                .inl hsession⟩
            · exact ⟨leg, .inl (by simp [hwaiting, hfrom]), hid, session, hon, hof⟩
          · exact .inl ⟨leg, .inr hqueued, hid, session, hon, hof⟩
        · obtain hwaiting | hqueued := hawait
          · exact .inr ⟨.overwritten, by simp [hwaiting, hid], by simp⟩
          · exact .inl ⟨leg, .inr hqueued, hid, session, hon, hof⟩
  | callWaitingEnded now =>
      simp only [step, Radio.callWaitingEnded]
      cases hwaiting : s.waitingCall with
      | none =>
          left
          refine h.of_sessions ?_ rfl rfl
          rintro leg (hleg | hqueued)
          · simp [hwaiting] at hleg
          · exact .inr hqueued
      | some waiting =>
          dsimp only
          split_ifs
          · left
            refine h.of_sessions ?_ rfl rfl
            rintro leg (hleg | ⟨knock, hmem, rfl⟩)
            · obtain rfl := Option.some.inj (hwaiting.symm.trans hleg)
              exact .inr ⟨_, List.mem_append_right _ (List.mem_singleton_self _), rfl⟩
            · exact .inr ⟨knock, List.mem_append_left _ hmem, rfl⟩
          · obtain ⟨leg, hleg | hqueued, hid, honline⟩ := h
            · obtain rfl := Option.some.inj (hwaiting.symm.trans hleg)
              exact .inr ⟨.full, by simp [hid], by simp⟩
            · exact .inl ⟨leg, .inr hqueued, hid, honline⟩
  | ring freshId => exact .inl (h.start (fun leg hawait => hawait) rfl rfl)
  | dial freshId number => exact .inl (h.start (fun leg hawait => hawait) rfl rfl)
  | callerId number =>
      left
      refine h.mono (fun leg hawait => hawait) ?_
      rintro session (hon | hon) leg hawait hof
      · exact ⟨_, .inl (by simp [step, SessionTracker.callerId, hon]), hattended session hon leg hawait hof⟩
      · exact ⟨session, .inr hon, hof⟩
  | terminate =>
      left
      refine h.mono (fun leg hawait => hawait) ?_
      rintro session (hon | hon) leg hawait hof
      · exact absurd hof (hattended session hon leg hawait)
      · exact ⟨session, .inr hon, hof⟩
  | park =>
      left
      refine h.mono (fun leg hawait => hawait) ?_
      rintro session (hon | hon) leg hawait hof
      · exact ⟨session, .inr (by simp [step, hon]), hof⟩
      · obtain hidle | hspares := hattended
        · exact ⟨session, .inr (by simp [step, hidle, hon]), hof⟩
        · exact absurd hof (hspares session hon leg hawait)
  | restore =>
      left
      simp only [step, Radio.restore]
      split
      · exact h
      · next back hparked =>
          refine h.mono (fun leg hawait => hawait) ?_
          cases hsession : s.tracker.session with
          | some current =>
              rintro session hon leg - hof
              exact ⟨session, by simpa [SessionTracker.restore, hsession, hparked] using hon, hof⟩
          | none =>
              rintro session (hon | hon) leg - hof
              · simp at hon
              · obtain rfl := Option.some.inj (hparked.symm.trans hon)
                exact ⟨_, .inl (by simp [SessionTracker.restore, hsession]; rfl), isOf_generation hof⟩
  | swap =>
      left
      simp only [step, Radio.swap]
      split
      · exact h
      · next back hparked =>
          refine h.mono (fun leg hawait => hawait) ?_
          rintro session (hon | hon) leg - hof
          · exact ⟨session, .inr hon, hof⟩
          · obtain rfl := Option.some.inj (hparked.symm.trans hon)
            exact ⟨_, .inl (by simp [SessionTracker.restore, SessionTracker.take]; rfl), isOf_generation hof⟩
  | endParked =>
      left
      refine h.mono (fun leg hawait => hawait) ?_
      rintro session (hon | hon) leg hawait hof
      · exact ⟨session, .inl hon, hof⟩
      · exact absurd hof (hattended session hon leg hawait)
  | served callId =>
      simp only [step, Radio.served]
      split_ifs with hany
      · obtain ⟨leg, hleg | hqueued, hid, honline⟩ := h
        · simp only [hleg, Option.any_some, decide_eq_true_eq] at hany
          exact .inr ⟨.accepted, by simp [← hany, hid], by simp⟩
        · exact .inl ⟨leg, .inr hqueued, hid, honline⟩
      · exact .inl h
  | strangerActive freshId =>
      simp only [step, Radio.strangerActive]
      split
      · next waiting _ hwaiting =>
          obtain ⟨leg, hleg | hqueued, hid, session, hon, hof⟩ := h
          · obtain rfl := Option.some.inj (hwaiting.symm.trans hleg)
            exact .inr ⟨.stranger, by simp [hid], by simp⟩
          · left
            refine Radio.Serves.start (s := { s with waitingCall := none })
              ⟨leg, .inr hqueued, hid, session, hon, hof⟩ ?_ rfl rfl
            exact fun leg hawait => hawait
      · next last hwaiting hlast =>
          obtain ⟨leg, hleg | ⟨knock, hmem, rfl⟩, hid, session, hon, hof⟩ := h
          · simp [hwaiting] at hleg
          · rw [← List.dropLast_append_getLast? last hlast] at hmem
            obtain hmem | hmem := List.mem_append.mp hmem
            · left
              refine Radio.Serves.start (s := { s with gaveUpKnock := s.gaveUpKnock.dropLast })
                ⟨knock.leg, .inr ⟨knock, hmem, rfl⟩, hid, session, hon, hof⟩ ?_ rfl rfl
              exact fun leg hawait => hawait
            · obtain rfl := List.mem_singleton.mp hmem
              exact .inr ⟨.stranger, by simp [hid], by simp⟩
      · exact .inl (h.start (fun leg hawait => hawait) rfl rfl)
  | deviceDisconnected =>
      left
      obtain ⟨hnone, hspares⟩ := hattended
      apply h.mono
      · rintro leg (hleg | hqueued)
        · simp [hnone] at hleg
        · exact .inr hqueued
      · rintro session (hon | hon) leg hawait hof
        · exact absurd hof (hspares session hon leg hawait)
        · exact ⟨session, .inr hon, hof⟩
  | pass screen stamps =>
      obtain ⟨leg, hleg | ⟨knock, hmem, rfl⟩, hid, honline⟩ := h
      · exact .inl ⟨leg, .inl hleg, hid, honline⟩
      · right
        have hclaimed : s.claimed knock = true := by
          apply claimed_of_onLine honline
          intro hknown
          have htold := hattended knock hmem
          rw [if_neg hknown] at htold
          exact htold.resolve_right (not_not.mpr honline)
        rw [← hid]
        by_cases hscreened : (screen.verdict (orWithheld knock.leg.fromNumber)).isSome = true
        · exact ⟨.screened, mem_pass hmem (by simp [Radio.fate, hscreened]), by simp⟩
        · exact ⟨.claimed, mem_pass hmem (by simp [Radio.fate, hscreened, hclaimed]), by simp⟩

lemma serves_run {inputs : List Input} (h : s.Serves id) (hattended : Machine.Along step Attended s inputs) :
    (Machine.final step s inputs).Serves id ∨ LeavesUnmissed (Machine.outputs step s inputs).flatten id := by
  induction inputs generalizing s with
  | nil => exact .inl h
  | cons i inputs ih =>
      rw [Machine.outputs_cons, List.flatten_cons]
      obtain hstill | ⟨fate, hmem, hfate⟩ := serves_step h hattended.1
      · obtain hend | ⟨fate, hmem, hfate⟩ := ih hstill hattended.2
        · exact .inl hend
        · exact .inr ⟨fate, List.mem_append_right _ hmem, hfate⟩
      · exact .inr ⟨fate, List.mem_append_left _ hmem, hfate⟩

lemma Radio.Serves.pending_pos (h : s.Serves id) : 0 < s.pending id := by
  obtain ⟨leg, hleg | ⟨knock, hmem, rfl⟩, rfl, -⟩ := h
  · simp [Radio.pending, hleg]
  · exact Nat.add_pos_right _ (List.countP_pos_iff.mpr ⟨knock, hmem, by simp⟩)

end Served

section GiveUps

variable {s : Radio} {i : Input} {knock : GaveUp}

lemma untaken_step (hmem : knock ∈ s.gaveUpKnock) (hattended : Attended s i) (h : Untaken knock s i) :
    knock ∈ (step s i).1.gaveUpKnock ∧ ¬Due knock i ∨
      ∃ screen stamp, .left knock.leg.callId (.missed (missedCallEnded screen stamp knock.leg)) ∈ (step s i).2 := by
  obtain ⟨hoff, hstep⟩ := h hmem
  cases i with
  | pass screen stamps =>
      have hscreen : (screen.verdict (orWithheld knock.leg.fromNumber)).isSome = false := by simp [hstep]
      have hclaimed : s.claimed knock = false := by
        by_contra hclaimed
        obtain honline | ⟨hwithheld, hfresh⟩ := onLine_of_claimed (Bool.eq_true_of_not_eq_false hclaimed)
        · exact hoff honline
        · have htold := hattended knock hmem
          rw [if_pos hwithheld] at htold
          exact hfresh (htold.resolve_right hoff)
      by_cases hearly : saturatingDurationSince (stamps knock.leg.callId).now knock.endedAt < giveUpWait
      · left
        refine ⟨List.mem_filter.mpr ⟨hmem, ?_⟩, by simpa [Due] using hearly⟩
        simp [Radio.fate, hscreen, hclaimed, hearly]
      · right
        exact ⟨screen, stamps knock.leg.callId, mem_pass hmem (by simp [Radio.fate, hscreen, hclaimed, hearly])⟩
  | strangerActive freshId =>
      left
      refine ⟨?_, id⟩
      simp only [step, Radio.strangerActive]
      split
      · exact hmem
      · next other hwaiting hlast =>
          rw [← List.dropLast_append_getLast? other hlast] at hmem
          obtain hmem | hmem := List.mem_append.mp hmem
          · exact hmem
          · obtain rfl := List.mem_singleton.mp hmem
            exact absurd hlast (hstep hwaiting)
      · exact hmem
  | callWaiting number waitingId =>
      left
      refine ⟨?_, id⟩
      simp only [step, Radio.callWaiting]
      split
      · exact hmem
      · split_ifs <;> exact hmem
  | callWaitingEnded now =>
      left
      refine ⟨?_, id⟩
      simp only [step, Radio.callWaitingEnded]
      split
      · exact hmem
      · split_ifs
        · exact List.mem_append_left _ hmem
        · exact hmem
  | served callId =>
      left
      refine ⟨?_, id⟩
      simp only [step, Radio.served]
      split_ifs <;> exact hmem
  | restore =>
      left
      refine ⟨?_, id⟩
      simp only [step, Radio.restore]
      split <;> exact hmem
  | swap =>
      left
      refine ⟨?_, id⟩
      simp only [step, Radio.swap]
      split <;> exact hmem
  | _ => exact .inl ⟨hmem, id⟩

lemma untaken_run {inputs : List Input} (hmem : knock ∈ s.gaveUpKnock)
    (hattended : Machine.Along step Attended s inputs)
    (h : Machine.Along step (Untaken knock) s inputs) (hdue : ∃ i ∈ inputs, Due knock i) :
    ∃ screen stamp, .left knock.leg.callId (.missed (missedCallEnded screen stamp knock.leg)) ∈
      (Machine.outputs step s inputs).flatten := by
  induction inputs generalizing s with
  | nil => simp at hdue
  | cons i inputs ih =>
      rw [Machine.outputs_cons, List.flatten_cons]
      obtain ⟨hmem, hnot⟩ | ⟨screen, stamp, hmark⟩ := untaken_step hmem hattended.1 h.1
      · have hlater : ∃ i ∈ inputs, Due knock i := by
          obtain ⟨j, hj, hdue⟩ := hdue
          obtain rfl | hj := List.mem_cons.mp hj
          · exact absurd hdue hnot
          · exact ⟨j, hj, hdue⟩
        obtain ⟨screen, stamp, hmark⟩ := ih hmem hattended.2 h.2 hlater
        exact ⟨screen, stamp, List.mem_append_right _ hmark⟩
      · exact ⟨screen, stamp, List.mem_append_left _ hmark⟩

end GiveUps

section Accounts

variable {inputs : List Input}

/-- A knock that is dropped: nobody took the caller, and no record is made. -/
def Fate.Drops : Fate → Prop
  | overwritten | linkLost | full => True
  | _ => False

/-- The account of the waiting callers over a run: a knock waits, is pending or has had one fate, and none is dropped; a
caller who was on the line is not recorded missed, and one who gave up and was not is, once and under the knock's own
id. -/
structure Accounted (inputs : List Input) : Prop where
  once : ∀ id, (marks inputs).countP (Mark.knocks id) =
    (marks inputs).countP (Mark.leaves id) + (Machine.final step {} inputs).pending id ∧
      (marks inputs).countP (Mark.knocks id) ≤ 1 ∧ (marks inputs).countP (Mark.misses id) ≤ 1
  kept : ∀ id fate, .left id fate ∈ marks inputs → ¬fate.Drops
  ended : ∀ before now after leg, inputs = before ++ .callWaitingEnded now :: after →
    (Machine.final step {} before).waitingCall = some leg →
      ∃ knock ∈ (Machine.final step {} (before ++ [.callWaitingEnded now])).gaveUpKnock, knock.leg = leg ∧
        knock.endedAt = now
  taken : ∀ id, (LeavesUnmissed (marks inputs) id ∨
      ∃ before after, inputs = before ++ after ∧ (Machine.final step {} before).Serves id) →
    (marks inputs).countP (Mark.misses id) = 0
  missed : ∀ before after knock, inputs = before ++ after → knock ∈ (Machine.final step {} before).gaveUpKnock →
    Machine.Along step (Untaken knock) (Machine.final step {} before) after → (∃ i ∈ after, Due knock i) →
      (marks inputs).countP (Mark.misses knock.leg.callId) = 1 ∧
        ∃ screen stamp, .left knock.leg.callId (.missed (missedCallEnded screen stamp knock.leg)) ∈ marks inputs

lemma countP_misses_le_one (hminted : (inputs.filterMap Input.mints).Nodup) (id : String) :
    (marks inputs).countP (Mark.misses id) ≤ 1 := by
  have hmono : (marks inputs).countP (Mark.misses id) ≤ (marks inputs).countP (Mark.leaves id) :=
    List.countP_mono_left fun mark _ => Mark.leaves_of_misses
  have hknocks := countP_knocks_le_one hminted id
  have haccounted := countP_accounted inputs id
  omega

lemma countP_misses_eq_zero (hminted : (inputs.filterMap Input.mints).Nodup) {id : String}
    (h : LeavesUnmissed (marks inputs) id) :
    (marks inputs).countP (Mark.misses id) = 0 := by
  obtain ⟨fate, hmem, hfate⟩ := h
  have hless := countP_misses_lt hmem hfate
  have hknocks := countP_knocks_le_one hminted id
  have haccounted := countP_accounted inputs id
  omega

lemma countP_misses_of_serves (hminted : (inputs.filterMap Input.mints).Nodup)
    (hattended : Machine.Along step Attended {} inputs)
    {before after : List Input} {id : String} (hinputs : inputs = before ++ after)
      (hserves : (Machine.final step {} before).Serves id) :
    (marks inputs).countP (Mark.misses id) = 0 := by
  subst hinputs
  obtain hend | ⟨fate, hmem, hfate⟩ := serves_run hserves (Machine.along_append.mp hattended).2
  · rw [← Machine.final_append] at hend
    have hpending := hend.pending_pos
    have hmono : (marks (before ++ after)).countP (Mark.misses id) ≤ (marks (before ++ after)).countP
        (Mark.leaves id) :=
      List.countP_mono_left fun mark _ => Mark.leaves_of_misses
    have hknocks := countP_knocks_le_one hminted id
    have haccounted := countP_accounted (before ++ after) id
    omega
  · apply countP_misses_eq_zero hminted
    refine ⟨fate, ?_, hfate⟩
    rw [marks, Machine.outputs_append, List.flatten_append]
    exact List.mem_append_right _ hmem

lemma missed_of_untaken (hminted : (inputs.filterMap Input.mints).Nodup)
    (hattended : Machine.Along step Attended {} inputs)
    {before after : List Input} {knock : GaveUp} (hinputs : inputs = before ++ after)
    (hmem : knock ∈ (Machine.final step {} before).gaveUpKnock)
    (huntaken : Machine.Along step (Untaken knock) (Machine.final step {} before) after)
      (hdue : ∃ i ∈ after, Due knock i) :
    (marks inputs).countP (Mark.misses knock.leg.callId) = 1 ∧
      ∃ screen stamp, .left knock.leg.callId (.missed (missedCallEnded screen stamp knock.leg)) ∈ marks inputs := by
  subst hinputs
  obtain ⟨screen, stamp, hmark⟩ := untaken_run hmem (Machine.along_append.mp hattended).2 huntaken hdue
  have hall : .left knock.leg.callId (.missed (missedCallEnded screen stamp knock.leg)) ∈ marks (before ++ after) := by
    rw [marks, Machine.outputs_append, List.flatten_append]
    exact List.mem_append_right _ hmark
  refine ⟨le_antisymm (countP_misses_le_one hminted _) ?_, screen, stamp, hall⟩
  exact List.countP_pos_iff.mpr ⟨_, hall, by simp [Mark.misses]⟩

lemma not_drops_step {s : Radio} {i : Input} (hattended : Attended s i) {id : String} {fate : Fate}
    (hmem : .left id fate ∈ (step s i).2) :
    ¬fate.Drops := by
  cases i with
  | callWaiting number waitingId =>
      simp only [step, Radio.callWaiting] at hmem
      split at hmem
      · simp at hmem
      · next corr hcorr =>
          split_ifs at hmem with hannounced
          · simp at hmem
          · obtain hnone | hidle | hsame := hattended
            · simp [hnone] at hmem
            · simp [hcorr] at hidle
            · exact absurd (hsame.trans hcorr) hannounced
  | callWaitingEnded now =>
      simp only [step, Radio.callWaitingEnded] at hmem
      split at hmem
      · simp at hmem
      · next leg hwaiting =>
          have hroom : s.gaveUpKnock.length < 8 := hattended.resolve_left (by simp [hwaiting])
          simp [hroom] at hmem
  | served callId =>
      simp only [step, Radio.served] at hmem
      split_ifs at hmem
      · simp only [List.mem_singleton, Mark.left.injEq] at hmem
        simp [hmem.2, Fate.Drops]
      · simp at hmem
  | strangerActive freshId =>
      simp only [step, Radio.strangerActive] at hmem
      split at hmem
      · simp only [List.mem_singleton, Mark.left.injEq] at hmem
        simp [hmem.2, Fate.Drops]
      · simp only [List.mem_singleton, Mark.left.injEq] at hmem
        simp [hmem.2, Fate.Drops]
      · simp at hmem
  | deviceDisconnected => simp [step, Radio.deviceDisconnected, hattended.1] at hmem
  | pass screen stamps =>
      obtain ⟨knock, -, hfate⟩ := List.mem_filterMap.mp hmem
      obtain ⟨other, hfate, heq⟩ := Option.map_eq_some_iff.mp hfate
      obtain rfl := (Mark.left.inj heq).2
      simp only [Radio.fate] at hfate
      split_ifs at hfate <;> cases hfate <;> simp [Fate.Drops]
  | _ => simp [step] at hmem

lemma not_drops (hattended : Machine.Along step Attended {} inputs) {id : String} {fate : Fate}
    (hmem : .left id fate ∈ marks inputs) :
    ¬fate.Drops := by
  induction inputs using List.reverseRecOn with
  | nil => simp [marks] at hmem
  | append_singleton inputs i ih =>
      obtain ⟨hbefore, hlast⟩ := Machine.along_append.mp hattended
      rw [marks, Machine.outputs_append, List.flatten_append, List.mem_append] at hmem
      obtain hmem | hmem := hmem
      · exact ih hbefore hmem
      · exact not_drops_step hlast.1 (by simpa using hmem)

end Accounts

section Samples

def after (seconds : ℕ) (_callId : String) : Stamp := ⟨seconds * 1000000000, 1767225600000, 1767225600000, 1⟩

/-- Two callers give up one after the other; the second is promoted and hangs up before the first is recorded. -/
def gaveUp : List Input :=
  [.ring "call_a", .callWaiting (some "0491570156") "call_b", .callWaitingEnded 1000000000,
   .callWaiting (some "0491570157") "call_c", .callWaitingEnded 1100000000, .terminate, .ring "call_d",
   .callerId "0491570157",
   .pass {} (after 2), .terminate, .pass {} (after 4)]

/-- A caller who withholds the number gives up, and the other call ends before the record is due. -/
def withheld : List Input :=
  [.ring "call_a", .callWaiting none "call_b", .callWaitingEnded 0, .terminate, .pass {} (after 3)]

end Samples

end Aokie.Plugin.WaitingCallers
