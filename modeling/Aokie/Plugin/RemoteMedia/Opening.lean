import Aokie.Plugin.RemoteMedia.Claims
import Aokie.Plugin.RemoteMedia.OwnerFence

/-! Opening a peer takes three parties: a caller that captures the switch epoch and waits, the media manager that makes
the answer and inserts the peer, and the radio that may switch calls meanwhile. -/

namespace Aokie.Plugin.RemoteMedia

open Aokie.Lib Aokie.Media RemoteMediaState

def managerQueueCapacity : ℕ := 32
def openTimeout : Duration := seconds 20
def openCommitGrace : Duration := seconds 2

def abandonedOpen : String := "the open was abandoned before its answer was ready"
def openTimedOut : String := "timed out while creating native Desktop WebRTC answer"

/-- Who decides the fate of one open: the caller that stopped waiting or the manager that finished the answer. -/
inductive OpenTicket
  | waiting | abandoned | committed
  deriving DecidableEq, Repr

namespace OpenTicket

def abandon : OpenTicket → OpenTicket × Bool
  | waiting => (abandoned, true)
  | ticket => (ticket, false)

def commit : OpenTicket → OpenTicket × Bool
  | waiting => (committed, true)
  | ticket => (ticket, false)

end OpenTicket

structure OpenPeerRequest where
  binding : SessionBinding
  leaseTtlMs : ℕ
  expectedSwitchEpoch : Option ℕ
  deriving DecidableEq, Repr

structure OpenPeerAccepted where
  rtcSessionId : String
  callId : String
  callEpoch : ℕ
  ownerEpoch : ℕ
  deriving DecidableEq, Repr

def OpenPeerRequest.accepted (request : OpenPeerRequest) : OpenPeerAccepted :=
  ⟨request.binding.rtcSessionId, request.binding.callId, request.binding.callEpoch, request.binding.ownerEpoch⟩

/-- Where the caller of an open stands: it has captured the switch epoch, waits for the reply, waits out the grace of a
peer that was committed at its deadline, or was told the result. -/
inductive Caller
  | captured
  | waiting (deadline : Instant)
  | grace (deadline : Instant)
  | told (result : Except String OpenPeerAccepted)
  deriving DecidableEq

structure Opening where
  switchEpoch : ℕ
  request : Option OpenPeerRequest
  ticket : OpenTicket
  reply : Option (Except String OpenPeerAccepted)
  caller : Caller
  deriving DecidableEq

def Opening.requestFor (opening : Opening) (binding : SessionBinding) (leaseTtlMs : ℕ) : OpenPeerRequest :=
  ⟨binding, leaseTtlMs, if binding.mode = .monitor then none else some opening.switchEpoch⟩

/-- The manager serves one open at a time; between its turn at the state lock and its reply it may be held up. -/
inductive Manager
  | idle
  | answering (id : ℕ)
  | replying (id : ℕ) (result : Except String OpenPeerAccepted)
  deriving DecidableEq

structure World where
  media : RemoteMediaState
  opens : List Opening
  queue : List ℕ
  manager : Manager

inductive Action
  | media (input : Input)
  | capture
  | openPeer (id : ℕ) (binding : SessionBinding) (leaseTtlMs : ℕ) (iceServersValid : Bool)
  | serve
  | answered (answer : Except String Unit)
  | sendReply
  | receive (id : ℕ)
  | timeout (id : ℕ)
  | graceEnd (id : ℕ)

inductive Event
  | quiet
  | switched
  | captured (id : ℕ)
  | inserted (id : ℕ) (binding : SessionBinding)
  | told (id : ℕ) (result : Except String OpenPeerAccepted)
  deriving DecidableEq

namespace World

def initial : World := ⟨.initial, [], [], .idle⟩

variable (w : World)

def update (id : ℕ) (f : Opening → Opening) : World := { w with opens := w.opens.modify id f }

def openChecks (binding : SessionBinding) (leaseTtlMs : ℕ) (iceServersValid : Bool) (clock : Clock) :
    Except String Unit := do
  let _ ← validateTtl leaseTtlMs
  ensure (w.media.consent.allows binding.mode clock.utc) "current remote consent does not permit this media mode"
  ensure (iceServersValid = true) "invalid ICE servers"
  ensure (w.queue.length < managerQueueCapacity) "Companion media queue unavailable: no available capacity"

/-- The open goes to the manager, or its caller is told at once what is wrong with it. -/
def submit (id : ℕ) (opening : Opening) (binding : SessionBinding) (leaseTtlMs : ℕ) (clock : Clock) :
    Except String Unit → World × Event
  | .error e => (w.update id fun o => { o with caller := .told (.error e) }, .told id (.error e))
  | .ok () =>
      ({ w with queue := w.queue ++ [id] }.update id fun o =>
        { o with
            request := some (opening.requestFor binding leaseTtlMs), caller := .waiting (clock.now + openTimeout) },
        .quiet)

def openPeer (id : ℕ) (opening : Opening) (binding : SessionBinding) (leaseTtlMs : ℕ) (iceServersValid : Bool)
    (clock : Clock) : World × Event :=
  w.submit id opening binding leaseTtlMs clock (w.openChecks binding leaseTtlMs iceServersValid clock)

/-- The manager takes the next open: its peer must still be admissible, and its caller must still wait. -/
def serve (id : ℕ) (rest : List ℕ) (ticket : OpenTicket) (request : OpenPeerRequest) (clock : Clock) : World :=
  match w.media.reserveOpenAfterSwitchEpoch request.binding request.expectedSwitchEpoch clock with
  | .error e => { w with queue := rest, manager := .replying id (.error e) }
  | .ok () =>
      if ticket = .abandoned then { w with queue := rest }
      else { w with queue := rest, manager := .answering id }

/-- The answer is made: commit and insert happen in one turn at the state lock. -/
def finish (id : ℕ) (ticket : OpenTicket) (request : OpenPeerRequest) (clock : Clock) : World × Event :=
  if ticket.commit.2 then
    let slot : PeerSlot := ⟨request.binding, clock.now + millis request.leaseTtlMs⟩
    let (media, inserted) := w.media.insertPeerAfterSwitchEpoch slot request.expectedSwitchEpoch clock
    let w := { w with media }.update id fun o => { o with ticket := ticket.commit.1 }
    match inserted with
    | .ok () => ({ w with manager := .replying id (.ok request.accepted) }, .inserted id request.binding)
    | .error e => ({ w with manager := .replying id (.error e) }, .quiet)
  else ({ w with manager := .replying id (.error abandonedOpen) }, .quiet)

def tell (id : ℕ) (result : Except String OpenPeerAccepted) : World × Event :=
  (w.update id fun o => { o with caller := .told result }, .told id result)

/-- The wait for the reply is over without one: the caller leaves, unless the peer is already committed. -/
def timeout (id : ℕ) (ticket : OpenTicket) (clock : Clock) : World × Event :=
  if ticket.abandon.2 then
    (w.update id fun o => { o with ticket := ticket.abandon.1, caller := .told (.error openTimedOut) },
      .told id (.error openTimedOut))
  else (w.update id fun o => { o with caller := .grace (clock.now + openCommitGrace) }, .quiet)

def mediaEvent : Reply → Event
  | .switched => .switched
  | _ => .quiet

def mediaStep (input : Input) (clock : Clock) : World × Event :=
  match input with
  | .insertPeer _ _ => (w, .quiet)
  | input => ({ w with media := (step w.media (input, clock)).1 }, mediaEvent (step w.media (input, clock)).2)

def withOpening (id : ℕ) (f : Opening → World × Event) : World × Event :=
  match w.opens[id]? with
  | some opening => f opening
  | none => (w, .quiet)

def receive (id : ℕ) (opening : Opening) : World × Event :=
  match opening.caller, opening.reply with
  | .waiting _, some reply | .grace _, some reply => w.tell id reply
  | _, _ => (w, .quiet)

def waitOver (id : ℕ) (clock : Clock) (opening : Opening) : World × Event :=
  match opening.caller, opening.reply with
  | .waiting deadline, none => if deadline ≤ clock.now then w.timeout id opening.ticket clock else (w, .quiet)
  | _, _ => (w, .quiet)

def graceOver (id : ℕ) (clock : Clock) (opening : Opening) : World × Event :=
  match opening.caller, opening.reply with
  | .grace deadline, none => if deadline ≤ clock.now then w.tell id (.error openTimedOut) else (w, .quiet)
  | _, _ => (w, .quiet)

def serveNext (clock : Clock) : World × Event :=
  match w.manager, w.queue with
  | .idle, id :: rest => ({ w with queue := rest }.withOpening id fun opening =>
      match opening.request with
      | some request => (w.serve id rest opening.ticket request clock, .quiet)
      | none => ({ w with queue := rest }, .quiet))
  | _, _ => (w, .quiet)

def answered (answer : Except String Unit) (clock : Clock) : World × Event :=
  match w.manager, answer with
  | .answering id, .error e => ({ w with manager := .replying id (.error e) }, .quiet)
  | .answering id, .ok () => w.withOpening id fun opening =>
      match opening.request with
      | some request => w.finish id opening.ticket request clock
      | none => (w, .quiet)
  | _, _ => (w, .quiet)

def sendReply : World × Event :=
  match w.manager with
  | .replying id result => ({ w with manager := .idle }.update id fun o => { o with reply := some result }, .quiet)
  | _ => (w, .quiet)

def capture : World × Event :=
  ({ w with opens := w.opens ++ [⟨w.media.aokieSwitchEpoch, none, .waiting, none, .captured⟩] },
    .captured w.opens.length)

def act : Machine World (Action × Clock) Event
  | w, (.media input, clock) => w.mediaStep input clock
  | w, (.capture, _) => w.capture
  | w, (.openPeer id binding leaseTtlMs iceServersValid, clock) => w.withOpening id fun opening =>
      if opening.caller = .captured then w.openPeer id opening binding leaseTtlMs iceServersValid clock else (w, .quiet)
  | w, (.serve, clock) => w.serveNext clock
  | w, (.answered answer, clock) => w.answered answer clock
  | w, (.sendReply, _) => w.sendReply
  | w, (.receive id, _) => w.withOpening id (w.receive id)
  | w, (.timeout id, clock) => w.withOpening id (w.waitOver id clock)
  | w, (.graceEnd id, clock) => w.withOpening id (w.graceOver id clock)

end World

/-- What a step may do to one open: its captured epoch stays, its ticket is decided once, and a new request carries the
captured epoch unless it only listens. -/
structure Opening.Next (o o' : Opening) : Prop where
  switchEpoch : o'.switchEpoch = o.switchEpoch
  ticket : o'.ticket = o.ticket ∨ o.ticket = .waiting
  request : o'.request = o.request ∨ ∀ r ∈ o'.request, r.binding.mode ≠ .monitor →
    r.expectedSwitchEpoch = some o.switchEpoch

structure Stepped (w : World) (clock : Clock) (w' : World) (e : Event) : Prop where
  opens : ∀ (id : ℕ) (o : Opening), w.opens[id]? = some o → ∃ o', w'.opens[id]? = some o' ∧ o.Next o'
  new : ∀ (id : ℕ) (o' : Opening), w.opens[id]? = none → w'.opens[id]? = some o' →
    e = .captured id ∧ o'.request = none ∧ o'.switchEpoch = w.media.aokieSwitchEpoch
  epoch : w'.media.aokieSwitchEpoch =
    if e = .switched then advance w.media.aokieSwitchEpoch else w.media.aokieSwitchEpoch
  inserted : ∀ id b, e = .inserted id b → ∃ o r, w.opens[id]? = some o ∧ o.request = some r ∧ r.binding = b ∧
    o.ticket = .waiting ∧ ∀ n ∈ r.expectedSwitchEpoch, n = w.media.aokieSwitchEpoch
  switched : e = .switched → w.media.claimExists = false ∧ w.media.hasClaimantPeer = false
  told : ∀ id result, e = .told id result → ∃ o, w.opens[id]? = some o ∧ (o.caller = .captured ∨ o.reply = some result ∨
    o.ticket = .waiting ∨
    o.reply = none ∧ result = .error openTimedOut ∧ ∃ deadline, o.caller = .grace deadline ∧ deadline ≤ clock.now)

section Steps

variable {w w' : World} {e : Event} {id : ℕ} {opening : Opening} {clock : Clock}

lemma Opening.Next.refl (o : Opening) : o.Next o := ⟨rfl, .inl rfl, .inl rfl⟩

lemma Stepped.quiet (hopens : w'.opens = w.opens) (hmedia : w'.media = w.media) : Stepped w clock w' .quiet where
  opens := fun id o ho => ⟨o, hopens ▸ ho, .refl o⟩
  new := fun id o' hnone hsome => absurd (hopens ▸ hsome) (by simp [hnone])
  epoch := by simp [hmedia]
  inserted := nofun
  switched := nofun
  told := nofun

lemma Stepped.update {f : Opening → Opening} {u : World} (hopens : u.opens = w.opens)
    (hepoch : u.media.aokieSwitchEpoch = w.media.aokieSwitchEpoch)
    (ho : w.opens[id]? = some opening) (hnext : opening.Next (f opening)) (he : e ≠ .switched)
    (hinserted : ∀ id' b, e = .inserted id' b → id' = id ∧ ∃ r, opening.request = some r ∧ r.binding = b ∧
      opening.ticket = .waiting ∧ ∀ n ∈ r.expectedSwitchEpoch, n = w.media.aokieSwitchEpoch)
    (htold : ∀ id' result, e = .told id' result → id' = id ∧ (opening.caller = .captured ∨ opening.reply = some result ∨
      opening.ticket = .waiting ∨ opening.reply = none ∧ result = .error openTimedOut ∧ ∃ deadline,
        opening.caller = .grace deadline ∧ deadline ≤ clock.now)) : Stepped w clock (u.update id f) e where
  opens := by
    intro id' o ho'
    rw [World.update, hopens, List.getElem?_modify]
    by_cases hid : id = id'
    · subst hid
      obtain rfl := Option.some.inj (ho.symm.trans ho')
      exact ⟨f opening, by simp [ho], hnext⟩
    · exact ⟨o, by simp [hid, ho'], .refl o⟩
  new := by
    intro id' o' hnone hsome
    rw [World.update, hopens, List.getElem?_modify, hnone] at hsome
    simp at hsome
  epoch := by
    rw [if_neg he]
    exact hepoch
  inserted := by
    intro id' b h
    obtain ⟨rfl, r, hr⟩ := hinserted id' b h
    exact ⟨opening, r, ho, hr⟩
  switched := fun h => absurd h he
  told := by
    intro id' result h
    obtain ⟨rfl, hcase⟩ := htold id' result h
    exact ⟨opening, ho, hcase⟩

lemma Stepped.with_manager (h : Stepped w clock w' e) (manager : Manager) :
    Stepped w clock { w' with manager := manager } e :=
  ⟨h.opens, h.new, h.epoch, h.inserted, h.switched, h.told⟩

lemma update_of_none {f : Opening → Opening} (h : w.opens[id]? = none) : (w.update id f).opens = w.opens := by
  apply List.ext_getElem?
  intro id'
  rw [World.update, List.getElem?_modify]
  by_cases hid : id = id'
  · subst hid
    simp [h]
  · simp [hid]

lemma withOpening_stepped {u : World} (hopens : u.opens = w.opens) (hmedia : u.media = w.media)
    {f : Opening → World × Event}
    (h : ∀ opening, w.opens[id]? = some opening → Stepped w clock (f opening).1 (f opening).2) :
    Stepped w clock (u.withOpening id f).1 (u.withOpening id f).2 := by
  unfold World.withOpening
  rw [hopens]
  split
  next opening ho => exact h opening ho
  · exact .quiet hopens hmedia

lemma switchEpoch_step (s : RemoteMediaState) (i : Input × Clock) :
    (step s i).1.aokieSwitchEpoch =
      if (step s i).2 = .switched then advance s.aokieSwitchEpoch else s.aokieSwitchEpoch := by
  have hepochs := congrArg Prod.snd (step_epochs s i)
  rw [show (step s i).1.aokieSwitchEpoch = (step s i).1.epochs.2 from rfl, hepochs]
  generalize (step s i).2 = reply
  cases reply <;> rfl

lemma unclaimed_of_switched {s : RemoteMediaState} {i : Input × Clock} (h : (step s i).2 = .switched) :
    s.claimExists = false ∧ s.hasClaimantPeer = false := by
  obtain ⟨i, clock⟩ := i
  cases i with
  | withAokieSwitchOwner expected =>
      rcases withAokieSwitchOwner_cases s expected with ⟨e, heq⟩ | ⟨hfence, -⟩
      · exact absurd h (by
          rw [show step s (.withAokieSwitchOwner expected, clock) = answer _ (s.withAokieSwitchOwner expected) from rfl,
            heq]
          exact nofun)
      · have hguard : ¬(s.claimExists || s.hasClaimantPeer) = true := by
          unfold aokieSwitchFence at hfence
          by_contra hclaimed
          simp [guard, hclaimed] at hfence
        simpa using hguard
  | observeCall | setRemoteConsent | failClosedAll | nextRadioTransition | allowsTalk | forwardTalkPcm | recvConsultPcm
  | noteConsultPcmReceived => cases h
  | requestSoftHold | requestConsultHold | requestConsult | requestTakeover | renewLease =>
      exact absurd h (checked_ne nofun fun ttl => answer_ne nofun nofun)
  | insertPeer | revoke | closePeer | ackPrepare | ackEnterConsult | ackEnter | ackReturn | setMicrophoneMuted
  | withAokieOwner | linearizeAokieAction => exact absurd h (answer_ne nofun nofun)

lemma mediaStep_stepped (w : World) (input : Input) (clock : Clock) :
    Stepped w clock (w.mediaStep input clock).1 (w.mediaStep input clock).2 := by
  unfold World.mediaStep
  split
  · exact .quiet rfl rfl
  · refine ⟨fun id o ho => ⟨o, ho, .refl o⟩, fun id o' hnone hsome => absurd hsome (by simp [hnone]), ?_, ?_, ?_, ?_⟩
    · rw [switchEpoch_step]
      generalize (step w.media (input, clock)).2 = reply
      cases reply <;> rfl
    · intro id b he
      generalize (step w.media (input, clock)).2 = reply at he
      cases reply <;> cases he
    · intro he
      apply unclaimed_of_switched (i := (input, clock))
      generalize (step w.media (input, clock)).2 = reply at he
      cases reply <;> first | rfl | cases he
    · intro id result he
      generalize (step w.media (input, clock)).2 = reply at he
      cases reply <;> cases he

lemma submit_stepped (ho : w.opens[id]? = some opening) (hcaptured : opening.caller = .captured)
    (binding : SessionBinding) (leaseTtlMs : ℕ) (clock : Clock) (checks : Except String Unit) :
    Stepped w clock (w.submit id opening binding leaseTtlMs clock checks).1
      (w.submit id opening binding leaseTtlMs clock checks).2 := by
  cases checks with
  | error e =>
      refine .update rfl rfl ho ⟨rfl, .inl rfl, .inl rfl⟩ nofun nofun ?_
      rintro _ _ ⟨⟩
      exact ⟨rfl, .inl hcaptured⟩
  | ok _ =>
      refine .update rfl rfl ho ⟨rfl, .inl rfl, .inr ?_⟩ nofun nofun nofun
      rintro r ⟨⟩ hmode
      exact if_neg hmode

lemma tell_stepped (ho : w.opens[id]? = some opening) {result : Except String OpenPeerAccepted}
    (h : opening.reply = some result ∨ opening.reply = none ∧ result = .error openTimedOut ∧ ∃ deadline,
      opening.caller = .grace deadline ∧ deadline ≤ clock.now) : Stepped w clock (w.tell id result).1
        (w.tell id result).2 := by
  refine .update rfl rfl ho ⟨rfl, .inl rfl, .inl rfl⟩ nofun nofun ?_
  rintro _ _ ⟨⟩
  refine ⟨rfl, .inr ?_⟩
  rcases h with h | h
  · exact .inl h
  · exact .inr (.inr h)

lemma receive_stepped (ho : w.opens[id]? = some opening) :
    Stepped w clock (w.receive id opening).1 (w.receive id opening).2 := by
  unfold World.receive
  split
  next hreply => exact tell_stepped ho (.inl hreply)
  next hreply => exact tell_stepped ho (.inl hreply)
  · exact .quiet rfl rfl

lemma waitOver_stepped (ho : w.opens[id]? = some opening) :
    Stepped w clock (w.waitOver id clock opening).1 (w.waitOver id clock opening).2 := by
  unfold World.waitOver
  split
  · split
    · unfold World.timeout
      cases hticket : opening.ticket with
      | waiting =>
          refine .update rfl rfl ho ⟨rfl, .inr hticket, .inl rfl⟩ nofun nofun ?_
          rintro _ _ ⟨⟩
          exact ⟨rfl, .inr (.inr (.inl hticket))⟩
      | abandoned | committed => exact .update rfl rfl ho ⟨rfl, .inl rfl, .inl rfl⟩ nofun nofun nofun
    · exact .quiet rfl rfl
  · exact .quiet rfl rfl

lemma graceOver_stepped (ho : w.opens[id]? = some opening) :
    Stepped w clock (w.graceOver id clock opening).1 (w.graceOver id clock opening).2 := by
  unfold World.graceOver
  split
  next deadline hcaller hreply =>
    split
    next hlate => exact tell_stepped ho (.inr ⟨hreply, rfl, deadline, hcaller, hlate⟩)
    · exact .quiet rfl rfl
  · exact .quiet rfl rfl

lemma serve_stepped (w : World) (id : ℕ) (rest : List ℕ) (ticket : OpenTicket) (request : OpenPeerRequest)
    (clock : Clock) : Stepped w clock (w.serve id rest ticket request clock) .quiet := by
  unfold World.serve
  split
  · exact .quiet rfl rfl
  · split <;> exact .quiet rfl rfl

lemma epoch_of_inserted {s : RemoteMediaState} {slot : PeerSlot} {expected : Option ℕ} {clock : Clock}
    (h : (s.insertPeerAfterSwitchEpoch slot expected clock).2 = .ok ()) : ∀ n ∈ expected, n = s.aokieSwitchEpoch := by
  unfold insertPeerAfterSwitchEpoch at h
  split at h
  · cases h
  next hsame =>
    rintro n ⟨⟩
    simpa using hsame

lemma finish_stepped (ho : w.opens[id]? = some opening) {request : OpenPeerRequest}
    (hrequest : opening.request = some request) (clock : Clock) :
    Stepped w clock (w.finish id opening.ticket request clock).1 (w.finish id opening.ticket request clock).2 := by
  unfold World.finish
  cases hticket : opening.ticket with
  | abandoned | committed => exact .quiet rfl rfl
  | waiting =>
      have hepoch := congrArg Prod.snd (w.media.epochs_insertPeerAfterSwitchEpoch clock
        ⟨request.binding, clock.now + millis request.leaseTtlMs⟩ request.expectedSwitchEpoch)
      have hsame := @epoch_of_inserted w.media ⟨request.binding, clock.now + millis request.leaseTtlMs⟩
        request.expectedSwitchEpoch clock
      simp only [OpenTicket.commit, if_true]
      generalize w.media.insertPeerAfterSwitchEpoch ⟨request.binding, clock.now + millis request.leaseTtlMs⟩
        request.expectedSwitchEpoch clock = r at hepoch hsame
      split
      next hok =>
        apply Stepped.with_manager
        refine .update rfl hepoch ho ⟨rfl, .inr hticket, .inl rfl⟩ nofun ?_ nofun
        rintro _ _ ⟨⟩
        exact ⟨rfl, request, hrequest, rfl, hticket, hsame hok⟩
      · apply Stepped.with_manager
        exact .update rfl hepoch ho ⟨rfl, .inr hticket, .inl rfl⟩ nofun nofun nofun

theorem act_stepped (w : World) (a : Action × Clock) : Stepped w a.2 (World.act w a).1 (World.act w a).2 := by
  obtain ⟨a, clock⟩ := a
  cases a with
  | media input => exact mediaStep_stepped w input clock
  | capture =>
      refine ⟨fun id o ho => ⟨o, ?_, .refl o⟩, ?_, rfl, nofun, nofun, nofun⟩
      · exact (List.getElem?_append_left (List.getElem?_eq_some_iff.mp ho).1).trans ho
      · intro id o' hnone hsome
        obtain hlen := List.getElem?_eq_none_iff.mp hnone
        rw [World.act, World.capture, List.getElem?_append_right hlen] at hsome
        cases hid : id - w.opens.length with
        | zero =>
            rw [hid] at hsome
            cases hsome
            obtain rfl : id = w.opens.length := by omega
            exact ⟨rfl, rfl, rfl⟩
        | succ n =>
            rw [hid] at hsome
            cases hsome
  | openPeer id binding leaseTtlMs iceServersValid =>
      refine withOpening_stepped rfl rfl fun opening ho => ?_
      split
      next hcaptured =>
        rw [World.openPeer]
        exact submit_stepped ho hcaptured binding leaseTtlMs clock _
      · exact .quiet rfl rfl
  | serve =>
      unfold World.act World.serveNext
      dsimp only
      split
      · apply withOpening_stepped
        · rfl
        · rfl
        intro opening ho
        split
        · exact serve_stepped w _ _ _ _ _
        · exact .quiet rfl rfl
      · exact .quiet rfl rfl
  | answered answer =>
      unfold World.act World.answered
      dsimp only
      split
      · exact .quiet rfl rfl
      · refine withOpening_stepped rfl rfl fun opening ho => ?_
        split
        next request hrequest => exact finish_stepped ho hrequest clock
        · exact .quiet rfl rfl
      · exact .quiet rfl rfl
  | sendReply =>
      unfold World.act World.sendReply
      dsimp only
      split
      next id result _ =>
        cases ho : w.opens[id]? with
        | none => exact .quiet (update_of_none (w := { w with manager := .idle }) ho) rfl
        | some opening => exact .update rfl rfl ho ⟨rfl, .inl rfl, .inl rfl⟩ nofun nofun nofun
      · exact .quiet rfl rfl
  | receive id => exact withOpening_stepped rfl rfl fun opening ho => receive_stepped ho
  | timeout id => exact withOpening_stepped rfl rfl fun opening ho => waitOver_stepped ho
  | graceEnd id => exact withOpening_stepped rfl rfl fun opening ho => graceOver_stepped ho

end Steps

section Runs

variable {as : List (Action × Clock)} {id : ℕ}

def reached (as : List (Action × Clock)) : World := World.act.final .initial as

lemma reached_concat (as : List (Action × Clock)) (a : Action × Clock) :
    reached (as ++ [a]) = (World.act (reached as) a).1 := by
  rw [reached, Machine.final_append]
  rfl

lemma switchEpoch_le (as : List (Action × Clock)) : (reached as).media.aokieSwitchEpoch ≤ u64Max := by
  apply Machine.always (P := fun w : World => w.media.aokieSwitchEpoch ≤ u64Max) ?_ (Nat.zero_le _)
  intro w a hw
  rw [(act_stepped w a).epoch]
  split
  · exact advance_le _
  · exact hw

/-- The run captured the switch epoch of an open, and a switch since then shows in the epoch. -/
def CapturedIn (as : List (Action × Clock)) (id : ℕ) (o : Opening) : Prop :=
  ∃ before c between, as = before ++ c :: between ∧ (World.act (reached before) c).2 = .captured id ∧
    o.switchEpoch = (reached before).media.aokieSwitchEpoch ∧ o.switchEpoch ≤ (reached as).media.aokieSwitchEpoch ∧
    (o.switchEpoch < u64Max → .switched ∈ World.act.outputs (reached (before ++ [c])) between →
      o.switchEpoch < (reached as).media.aokieSwitchEpoch)

lemma CapturedIn.concat {o o' : Opening} (h : CapturedIn as id o) (ho : o'.switchEpoch = o.switchEpoch)
    (a : Action × Clock) : CapturedIn (as ++ [a]) id o' := by
  obtain ⟨before, c, between, rfl, hcaptured, hepoch, hle, hswitched⟩ := h
  have hmiddle : World.act.final (reached (before ++ [c])) between = reached (before ++ c :: between) := by
    rw [reached, reached, ← Machine.final_append, List.append_assoc, List.singleton_append]
  have hrise := (act_stepped (reached (before ++ c :: between)) a).epoch
  have hmono : (reached (before ++ c :: between)).media.aokieSwitchEpoch ≤
      (reached (before ++ c :: between ++ [a])).media.aokieSwitchEpoch := by
    rw [reached_concat, hrise]
    split
    · exact le_advance (switchEpoch_le _)
    · exact le_rfl
  refine ⟨before, c, between ++ [a], by simp, hcaptured, ho.trans hepoch, ho ▸ hle.trans hmono, ?_⟩
  intro hlt hin
  rw [ho] at hlt ⊢
  rw [Machine.outputs_append, List.mem_append, hmiddle] at hin
  rcases hin with hin | hin
  · exact (hswitched hlt hin).trans_le hmono
  · -- the new step is the switch
    rw [Machine.outputs_cons, Machine.outputs_nil, List.mem_singleton] at hin
    rw [reached_concat, hrise, if_pos hin.symm]
    rcases hle.lt_or_eq with hless | heq
    · exact hless.trans_le (le_advance (switchEpoch_le _))
    · rw [← heq]
      exact lt_advance hlt

lemma capturedIn_of_open {o : Opening} (ho : (reached as).opens[id]? = some o) :
    CapturedIn as id o ∧ ∀ r ∈ o.request, r.binding.mode ≠ .monitor → r.expectedSwitchEpoch = some o.switchEpoch := by
  induction as using List.reverseRecOn generalizing o with
  | nil => cases ho
  | append_singleton as a ih =>
      have hstep := act_stepped (reached as) a
      rw [← reached_concat] at hstep
      cases hprev : (reached as).opens[id]? with
      | none =>
          obtain ⟨hcaptured, hrequest, hepoch⟩ := hstep.new id o hprev ho
          have hsame := hstep.epoch
          rw [if_neg (by rw [hcaptured]; exact nofun)] at hsame
          refine ⟨⟨as, a, [], rfl, hcaptured, hepoch, (hepoch.trans hsame.symm).le, fun _ => nofun⟩, ?_⟩
          rw [hrequest]
          exact nofun
      | some prev =>
          obtain ⟨o', ho', hnext⟩ := hstep.opens id prev hprev
          obtain rfl := Option.some.inj (ho'.symm.trans ho)
          obtain ⟨hin, hrequest⟩ := ih hprev
          refine ⟨hin.concat hnext.switchEpoch a, ?_⟩
          rw [hnext.switchEpoch]
          rcases hnext.request with hsame | hnew
          · rwa [hsame]
          · exact hnew

lemma abandoned_final {w : World} (h : ∃ o, w.opens[id]? = some o ∧ o.ticket = .abandoned)
    (later : List (Action × Clock)) :
    ∃ o, (World.act.final w later).opens[id]? = some o ∧ o.ticket = .abandoned := by
  refine Machine.always (P := fun w : World => ∃ o, w.opens[id]? = some o ∧ o.ticket = .abandoned) ?_ h later
  rintro w a ⟨o, ho, hticket⟩
  obtain ⟨o', ho', hnext⟩ := (act_stepped w a).opens id o ho
  refine ⟨o', ho', ?_⟩
  rcases hnext.ticket with hsame | hwaiting
  · exact hsame.trans hticket
  · cases hticket.symm.trans hwaiting

lemma not_inserted_of_abandoned {w : World} (h : ∃ o, w.opens[id]? = some o ∧ o.ticket = .abandoned)
    (b : SessionBinding)
    (later : List (Action × Clock)) : .inserted id b ∉ World.act.outputs w later := by
  induction later generalizing w with
  | nil => exact nofun
  | cons a later ih =>
      rw [Machine.outputs_cons, List.mem_cons, not_or]
      refine ⟨fun heq => ?_, ih (abandoned_final h [a])⟩
      obtain ⟨o, ho, hticket⟩ := h
      obtain ⟨o', r, ho', -, -, hwaiting, -⟩ := (act_stepped w a).inserted id b heq.symm
      obtain rfl := Option.some.inj (ho.symm.trans ho')
      cases hticket.symm.trans hwaiting

end Runs

section Answers

def Manager.about : Manager → Option ℕ
  | idle => none
  | answering id | replying id _ => some id

/-- What a step does to the opens, the queue and the manager. -/
inductive Turn (w : World) : World → Prop
  | media (media : RemoteMediaState) : Turn w { w with media := media }
  | captured (o : Opening) (hnew : o.caller = .captured ∧ o.ticket = .waiting ∧ o.reply = none) :
      Turn w { w with opens := w.opens ++ [o] }
  | caller (id : ℕ) (o : Opening) (f : Opening → Opening) (ho : w.opens[id]? = some o) (hreply : (f o).reply = o.reply)
      (hticket : o.ticket = .committed → (f o).ticket = .committed) (hcaller : (f o).caller ≠ .captured) :
      Turn w (w.update id f)
  | submitted (id : ℕ) (o : Opening) (f : Opening → Opening) (ho : w.opens[id]? = some o)
      (hcaptured : o.caller = .captured) (hreply : (f o).reply = o.reply) (hcaller : (f o).caller ≠ .captured) :
      Turn w ({ w with queue := w.queue ++ [id] }.update id f)
  | taken (id : ℕ) (rest : List ℕ) (manager : Manager) (hidle : w.manager = .idle) (hqueue : w.queue = id :: rest)
      (hmanager : ∀ id' ∈ manager.about, id' = id) : Turn w { w with queue := rest, manager := manager }
  | decided (id : ℕ) (o : Opening) (f : Opening → Opening) (media : RemoteMediaState)
      (result : Except String OpenPeerAccepted) (ho : w.opens[id]? = some o) (hmanager : w.manager = .answering id)
      (hreply : (f o).reply = o.reply) (hcaller : (f o).caller = o.caller) :
      Turn w { { w with media := media }.update id f with manager := .replying id result }
  | failed (id : ℕ) (result : Except String OpenPeerAccepted) (hmanager : w.manager = .answering id) :
      Turn w { w with manager := .replying id result }
  | sent (id : ℕ) (result : Except String OpenPeerAccepted) (hmanager : w.manager = .replying id result) :
      Turn w ({ w with manager := .idle }.update id fun o => { o with reply := some result })

variable {w w' : World} {id : ℕ} {opening : Opening} {clock : Clock}

lemma Turn.idle (w : World) : Turn w w := .media w.media

lemma tell_turn (ho : w.opens[id]? = some opening) (result : Except String OpenPeerAccepted) :
    Turn w (w.tell id result).1 := .caller id opening _ ho rfl (fun h => h) nofun

lemma withOpening_turn {f : Opening → World × Event} (h : ∀ opening, w.opens[id]? = some opening →
    Turn w (f opening).1) :
    Turn w (w.withOpening id f).1 := by
  unfold World.withOpening
  split
  next opening ho => exact h opening ho
  · exact .idle w

lemma submit_turn (ho : w.opens[id]? = some opening) (hcaptured : opening.caller = .captured) (binding : SessionBinding)
    (leaseTtlMs : ℕ) (clock : Clock) (checks : Except String Unit) :
    Turn w (w.submit id opening binding leaseTtlMs clock checks).1 := by
  cases checks with
  | error e => exact .caller id opening _ ho rfl (fun h => h) nofun
  | ok _ => exact .submitted id opening _ ho hcaptured rfl nofun

lemma waitOver_turn (ho : w.opens[id]? = some opening) : Turn w (w.waitOver id clock opening).1 := by
  unfold World.waitOver
  split
  · split
    · unfold World.timeout
      cases hticket : opening.ticket with
      | waiting => exact .caller id opening _ ho rfl (by rw [hticket]; exact nofun) nofun
      | abandoned | committed => exact .caller id opening _ ho rfl (fun h => h) nofun
    · exact .idle w
  · exact .idle w

lemma serveNext_turn (w : World) (clock : Clock) : Turn w (w.serveNext clock).1 := by
  unfold World.serveNext
  split
  next id rest hidle hqueue =>
    have htake : ∀ manager : Manager, (∀ id' ∈ manager.about, id' = id) →
        Turn w { w with queue := rest, manager := manager } := fun manager => .taken id rest manager hidle hqueue
    have hrest : Turn w { w with queue := rest } := by
      have hturn := htake .idle nofun
      rwa [← hidle] at hturn
    unfold World.withOpening
    dsimp only
    split
    · split
      · unfold World.serve
        split
        · exact htake _ (by rintro _ ⟨⟩; rfl)
        · split
          · exact hrest
          · exact htake _ (by rintro _ ⟨⟩; rfl)
      · exact hrest
    · exact hrest
  · exact .idle w

lemma answered_turn (w : World) (answer : Except String Unit) (clock : Clock) : Turn w (w.answered answer clock).1 := by
  unfold World.answered
  split
  next id _ hmanager => exact .failed id _ hmanager
  next id hmanager =>
    refine withOpening_turn fun opening ho => ?_
    split
    next request _ =>
      unfold World.finish
      split
      · dsimp only
        split
        · exact .decided id opening _ _ _ ho hmanager rfl rfl
        · exact .decided id opening _ _ _ ho hmanager rfl rfl
      · exact .failed id _ hmanager
    · exact .idle w
  · exact .idle w

theorem act_turn (w : World) (a : Action × Clock) : Turn w (World.act w a).1 := by
  obtain ⟨a, clock⟩ := a
  cases a with
  | media input =>
      unfold World.act World.mediaStep
      dsimp only
      split
      · exact .idle w
      · generalize step w.media (_, clock) = next
        exact .media next.1
  | capture => exact .captured _ ⟨rfl, rfl, rfl⟩
  | openPeer id binding leaseTtlMs iceServersValid =>
      refine withOpening_turn fun opening ho => ?_
      split
      next hcaptured =>
        rw [World.openPeer]
        exact submit_turn ho hcaptured binding leaseTtlMs clock _
      · exact .idle w
  | serve => exact serveNext_turn w clock
  | answered answer => exact answered_turn w answer clock
  | sendReply =>
      unfold World.act World.sendReply
      dsimp only
      split
      next id result hmanager => exact .sent id result hmanager
      · exact .idle w
  | receive id =>
      refine withOpening_turn fun opening ho => ?_
      unfold World.receive
      split
      · exact tell_turn ho _
      · exact tell_turn ho _
      · exact .idle w
  | timeout id => exact withOpening_turn fun opening ho => waitOver_turn ho
  | graceEnd id =>
      refine withOpening_turn fun opening ho => ?_
      unfold World.graceOver
      split
      · split
        · exact tell_turn ho _
        · exact .idle w
      · exact .idle w

lemma opens_update (w : World) (id : ℕ) (f : Opening → Opening) (id' : ℕ) :
    (w.update id f).opens[id']? = if id = id' then (w.opens[id']?).map f else w.opens[id']? := by
  rw [World.update, List.getElem?_modify]
  split <;> simp_all

/-- An open waits in the queue once, or the manager is at it, or it is answered. -/
structure World.Ordered (w : World) : Prop where
  nodup : w.queue.Nodup
  away : ∀ id ∈ w.manager.about, id ∉ w.queue
  unanswered : ∀ id, id ∈ w.queue ∨ id ∈ w.manager.about →
    ∃ o, w.opens[id]? = some o ∧ o.reply = none ∧ o.caller ≠ .captured
  fresh : ∀ (id : ℕ) (o : Opening), w.opens[id]? = some o → o.caller = .captured → o.ticket = .waiting ∧ o.reply = none

lemma World.Ordered.update {f : Opening → Opening} (h : w.Ordered) (ho : w.opens[id]? = some opening)
    (hreply : (f opening).reply = opening.reply) (hcaller : (f opening).caller ≠ .captured) :
    (w.update id f).Ordered where
  nodup := h.nodup
  away := h.away
  unanswered := by
    intro id' hid'
    obtain ⟨o, ho', hnone, hleft⟩ := h.unanswered id' hid'
    rw [opens_update]
    split
    next heq =>
      subst heq
      obtain rfl := Option.some.inj (ho.symm.trans ho')
      exact ⟨f opening, by rw [ho]; rfl, hreply.trans hnone, hcaller⟩
    · exact ⟨o, ho', hnone, hleft⟩
  fresh := by
    intro id' o ho' hfresh
    rw [opens_update] at ho'
    split at ho'
    next heq =>
      subst heq
      rw [ho] at ho'
      obtain rfl := Option.some.inj ho'
      exact absurd hfresh hcaller
    · exact h.fresh id' o ho' hfresh

lemma World.Ordered.turn (h : w.Ordered) (hturn : Turn w w') : w'.Ordered := by
  cases hturn with
  | media media => exact ⟨h.nodup, h.away, h.unanswered, h.fresh⟩
  | captured o hnew =>
      refine ⟨h.nodup, h.away, ?_, ?_⟩
      · intro id hid
        obtain ⟨o', ho', hrest⟩ := h.unanswered id hid
        exact ⟨o', (List.getElem?_append_left (List.getElem?_eq_some_iff.mp ho').1).trans ho', hrest⟩
      · intro id o' ho' hfresh
        rcases lt_or_ge id w.opens.length with hlt | hge
        · exact h.fresh id o' ((List.getElem?_append_left hlt).symm.trans ho') hfresh
        · dsimp only at ho'
          rw [List.getElem?_append_right hge] at ho'
          obtain rfl := List.mem_singleton.mp (List.mem_of_getElem? ho')
          exact hnew.2
  | caller id o f ho hreply hticket hcaller => exact h.update ho hreply hcaller
  | submitted id o f ho hcaptured hreply hcaller =>
      -- a caller that has not asked yet is neither queued nor served
      have hnew : ∀ id', id' ∈ w.queue ∨ id' ∈ w.manager.about → id' ≠ id := by
        rintro id' hid' rfl
        obtain ⟨o', ho', -, hleft⟩ := h.unanswered id' hid'
        obtain rfl := Option.some.inj (ho.symm.trans ho')
        exact hleft hcaptured
      have hold := h.update ho hreply hcaller
      refine ⟨?_, ?_, ?_, hold.fresh⟩
      · apply List.nodup_append.mpr
        refine ⟨h.nodup, List.nodup_singleton id, fun a ha b hb => ?_⟩
        rw [List.mem_singleton.mp hb]
        exact hnew a (.inl ha)
      · intro id' hid' hin
        rcases List.mem_append.mp hin with hin | hin
        · exact h.away id' hid' hin
        · exact hnew id' (.inr hid') (List.mem_singleton.mp hin)
      · rintro id' (hin | hin)
        · rcases List.mem_append.mp hin with hin | hin
          · exact hold.unanswered id' (.inl hin)
          · obtain rfl := List.mem_singleton.mp hin
            refine ⟨f o, ?_, hreply.trans (h.fresh id' o ho hcaptured).2, hcaller⟩
            rw [opens_update, if_pos rfl, ho]
            rfl
        · exact hold.unanswered id' (.inr hin)
  | taken id rest manager hidle hqueue hmanager =>
      have hnodup : (id :: rest).Nodup := hqueue ▸ h.nodup
      refine ⟨(List.nodup_cons.mp hnodup).2, ?_, ?_, h.fresh⟩
      · intro id' hid'
        rw [hmanager id' hid']
        exact (List.nodup_cons.mp hnodup).1
      · intro id' hid'
        apply h.unanswered id' (.inl _)
        rw [hqueue]
        rcases hid' with hin | hin
        · exact List.mem_cons_of_mem id hin
        · rw [hmanager id' hin]
          exact List.mem_cons_self
  | decided id o f media result ho hmanager hreply hcaller =>
      have hat : id ∈ w.manager.about := by rw [hmanager]; rfl
      obtain ⟨o', ho', -, hleft⟩ := h.unanswered id (.inr hat)
      obtain rfl := Option.some.inj (ho.symm.trans ho')
      have hold := h.update ho hreply (hcaller ▸ hleft)
      refine ⟨hold.nodup, ?_, ?_, hold.fresh⟩
      · rintro _ ⟨⟩
        exact h.away id hat
      · rintro id' (hin | ⟨⟨⟩⟩)
        · exact hold.unanswered id' (.inl hin)
        · exact hold.unanswered id (.inr hat)
  | failed id result hmanager =>
      have hat : id ∈ w.manager.about := by rw [hmanager]; rfl
      refine ⟨h.nodup, ?_, ?_, h.fresh⟩
      · rintro _ ⟨⟩
        exact h.away id hat
      · rintro id' (hin | ⟨⟨⟩⟩)
        · exact h.unanswered id' (.inl hin)
        · exact h.unanswered id (.inr hat)
  | sent id result hmanager =>
      have hat : id ∈ w.manager.about := by rw [hmanager]; rfl
      refine ⟨h.nodup, nofun, ?_, ?_⟩
      · rintro id' (hin | ⟨⟨⟩⟩)
        obtain ⟨o, ho, hrest⟩ := h.unanswered id' (.inl hin)
        refine ⟨o, ?_, hrest⟩
        rw [opens_update, if_neg]
        · exact ho
        · rintro rfl
          exact h.away id hat hin
      · intro id' o ho hfresh
        rw [opens_update] at ho
        split at ho
        next heq =>
          subst heq
          obtain ⟨o', ho', -, hleft⟩ := h.unanswered id (.inr hat)
          rw [show ({ w with manager := .idle } : World).opens = w.opens from rfl, ho'] at ho
          obtain rfl := Option.some.inj ho
          exact absurd hfresh hleft
        · exact h.fresh id' o ho hfresh

def accepted (b : SessionBinding) : OpenPeerAccepted := ⟨b.rtcSessionId, b.callId, b.callEpoch, b.ownerEpoch⟩

/-- The result of a committed open is with its caller's channel, or still with the manager. -/
def World.Reported (w : World) (id : ℕ) (result : OpenPeerAccepted) : Prop :=
  ∃ o, w.opens[id]? = some o ∧ o.ticket = .committed ∧
    (o.reply = some (.ok result) ∨ o.reply = none ∧ w.manager = .replying id (.ok result))

lemma World.Reported.turn {result : OpenPeerAccepted} (hw : w.Ordered) (h : w.Reported id result) (hturn : Turn w w') :
    w'.Reported id result := by
  obtain ⟨o, ho, hticket, hcase⟩ := h
  -- an answered open is not what the manager is at
  have hother : ∀ id' ∈ w.manager.about, w.manager ≠ .replying id (.ok result) → id' ≠ id := by
    rintro id' hid' hmanager rfl
    obtain ⟨o', ho', hnone, -⟩ := hw.unanswered id' (.inr hid')
    obtain rfl := Option.some.inj (ho.symm.trans ho')
    rcases hcase with hcase | ⟨-, hcase⟩
    · cases hcase.symm.trans hnone
    · exact hmanager hcase
  cases hturn with
  | media media => exact ⟨o, ho, hticket, hcase⟩
  | captured o' hnew =>
      exact ⟨o, (List.getElem?_append_left (List.getElem?_eq_some_iff.mp ho).1).trans ho, hticket, hcase⟩
  | caller id' o' f ho' hreply hcommitted hcaller =>
      by_cases hid : id' = id
      · subst hid
        obtain rfl := Option.some.inj (ho.symm.trans ho')
        refine ⟨f o, by rw [opens_update, if_pos rfl, ho]; rfl, hcommitted hticket, ?_⟩
        rw [hreply]
        exact hcase
      · exact ⟨o, by rw [opens_update, if_neg hid, ho], hticket, hcase⟩
  | submitted id' o' f ho' hcaptured hreply hcaller =>
      have hid : id' ≠ id := by
        rintro rfl
        obtain rfl := Option.some.inj (ho.symm.trans ho')
        cases hticket.symm.trans (hw.fresh id' o ho hcaptured).1
      exact ⟨o, by rw [opens_update, if_neg hid]; exact ho, hticket, hcase⟩
  | taken id' rest manager hidle hqueue hmanager =>
      refine ⟨o, ho, hticket, hcase.imp_right ?_⟩
      rintro ⟨-, hreplying⟩
      cases hidle.symm.trans hreplying
  | decided id' o' f media result' ho' hmanager hreply hcaller =>
      have hid : id' ≠ id := hother id' (by rw [hmanager]; rfl) (by rw [hmanager]; exact nofun)
      refine ⟨o, ?_, hticket, hcase.imp_right ?_⟩
      · exact (opens_update _ id' f id).trans (by rw [if_neg hid]; exact ho)
      · rintro ⟨-, hreplying⟩
        cases hmanager.symm.trans hreplying
  | failed id' result' hmanager =>
      refine ⟨o, ho, hticket, hcase.imp_right ?_⟩
      rintro ⟨-, hreplying⟩
      cases hmanager.symm.trans hreplying
  | sent id' result' hmanager =>
      by_cases hid : id' = id
      · subst hid
        have hresult : result' = .ok result := by
          by_contra hne
          exact hother id' (by rw [hmanager]; rfl) (by rw [hmanager]; simpa using hne) rfl
        subst hresult
        refine ⟨{ o with reply := some (.ok result) }, ?_, hticket, .inl rfl⟩
        rw [opens_update, if_pos rfl]
        exact congrArg (Option.map _) ho
      · refine ⟨o, by rw [opens_update, if_neg hid]; exact ho, hticket, hcase.imp_right ?_⟩
        rintro ⟨-, hreplying⟩
        rw [hmanager] at hreplying
        cases hreplying
        exact absurd rfl hid

lemma ordered_reached (as : List (Action × Clock)) : (reached as).Ordered := by
  refine Machine.always (P := World.Ordered) (fun w a h => h.turn (act_turn w a)) ?_ as
  refine ⟨List.nodup_nil, ?_, ?_, ?_⟩
  · intro id hid
    simp [World.initial, Manager.about] at hid
  · intro id hid
    simp [World.initial, Manager.about] at hid
  · intro id o ho
    simp [World.initial] at ho

lemma withOpening_not_inserted {u : World} {f : Opening → World × Event} {b : SessionBinding}
    (hf : ∀ opening, (f opening).2 ≠ .inserted id b) (id' : ℕ) : (u.withOpening id' f).2 ≠ .inserted id b := by
  unfold World.withOpening
  split
  · exact hf _
  · exact nofun

lemma finish_of_inserted {a : Action × Clock} {b : SessionBinding} (h : (World.act w a).2 = .inserted id b) :
    ∃ o r, w.opens[id]? = some o ∧ w.manager = .answering id ∧ World.act w a = w.finish id o.ticket r a.2 := by
  obtain ⟨a, clock⟩ := a
  cases a with
  | media input =>
      unfold World.act World.mediaStep at h
      dsimp only at h
      split at h
      · cases h
      · generalize (step w.media (_, clock)).2 = reply at h
        cases reply <;> cases h
  | capture => cases h
  | openPeer id' binding leaseTtlMs iceServersValid =>
      refine absurd h (withOpening_not_inserted (fun opening => ?_) id')
      split
      · unfold World.openPeer
        generalize w.openChecks binding leaseTtlMs iceServersValid clock = checks
        cases checks <;> exact nofun
      · exact nofun
  | serve =>
      unfold World.act World.serveNext at h
      dsimp only at h
      split at h
      · refine absurd h (withOpening_not_inserted (fun opening => ?_) _)
        split <;> exact nofun
      · cases h
  | answered answer =>
      unfold World.act World.answered at h ⊢
      dsimp only at h ⊢
      split at h
      · cases h
      next id' hmanager =>
        unfold World.withOpening at h ⊢
        split at h
        next opening ho =>
          dsimp only at h
          split at h
          next request hrequest =>
            have hid : id = id' := by
              unfold World.finish at h
              split at h
              · dsimp only at h
                split at h
                · cases h
                  rfl
                · cases h
              · cases h
            subst hid
            exact ⟨opening, request, ho, hmanager, by simp only [hrequest]⟩
          · cases h
        · cases h
      · cases h
  | sendReply =>
      unfold World.act World.sendReply at h
      dsimp only at h
      split at h <;> cases h
  | receive id' =>
      refine absurd h (withOpening_not_inserted (fun opening => ?_) id')
      unfold World.receive
      split <;> exact nofun
  | timeout id' =>
      refine absurd h (withOpening_not_inserted (fun opening => ?_) id')
      unfold World.waitOver
      split
      · split
        · unfold World.timeout
          split <;> exact nofun
        · exact nofun
      · exact nofun
  | graceEnd id' =>
      refine absurd h (withOpening_not_inserted (fun opening => ?_) id')
      unfold World.graceOver
      split
      · split <;> exact nofun
      · exact nofun

lemma reported_of_inserted (hw : w.Ordered) {a : Action × Clock} {b : SessionBinding}
    (h : (World.act w a).2 = .inserted id b) : (World.act w a).1.Reported id (accepted b) := by
  obtain ⟨o, r, ho, hmanager, heq⟩ := finish_of_inserted h
  obtain ⟨o', ho', hnone, -⟩ := hw.unanswered id (.inr (by rw [hmanager]; rfl))
  obtain rfl := Option.some.inj (ho.symm.trans ho')
  rw [heq] at h ⊢
  unfold World.finish at h ⊢
  cases hticket : o.ticket with
  | abandoned | committed =>
      rw [hticket] at h
      cases h
  | waiting =>
      rw [hticket] at h
      simp only [OpenTicket.commit, if_true] at h ⊢
      split at h
      next hok =>
        cases h
        refine ⟨{ o with ticket := .committed }, ?_, rfl, .inr ⟨hnone, rfl⟩⟩
        exact (opens_update _ id _ id).trans (by rw [if_pos rfl]; exact congrArg (Option.map _) ho)
      · cases h

lemma reported_of_mem {as : List (Action × Clock)} {b : SessionBinding}
    (h : .inserted id b ∈ World.act.outputs .initial as) : (reached as).Reported id (accepted b) := by
  induction as using List.reverseRecOn with
  | nil => cases h
  | append_singleton as a ih =>
      rw [Machine.outputs_append, List.mem_append, ← reached, Machine.outputs_cons, Machine.outputs_nil,
        List.mem_singleton] at h
      rw [reached_concat]
      rcases h with h | h
      · exact (ih h).turn (ordered_reached as) (act_turn _ a)
      · exact reported_of_inserted (ordered_reached as) h.symm

lemma told_at_grace_end {o : Opening} {deadline : Instant} (ho : w.opens[id]? = some o)
    (hcaller : o.caller = .grace deadline)
    (hdue : deadline ≤ clock.now) :
    ∃ a, (World.act w (a, clock)).2 = .told id (o.reply.getD (.error openTimedOut)) := by
  cases hreply : o.reply with
  | none =>
      refine ⟨.graceEnd id, ?_⟩
      simp [World.act, World.withOpening, ho, World.graceOver, hcaller, hreply, hdue, World.tell]
  | some reply =>
      refine ⟨.receive id, ?_⟩
      simp [World.act, World.withOpening, ho, World.receive, hcaller, hreply, World.tell]

end Answers

/-- No switch comes between the capture of a claimant's open and its insertion unless the epoch was at its end, none
runs beside a claim or a claimant's peer, an abandoned open is never inserted, and the caller of a committed one is told
the manager's reply if that is sent before the grace ends. -/
theorem switching_and_opening_exclude (as : List (Action × Clock)) :
    (∀ a id b, (World.act (reached as) a).2 = .inserted id b → b.mode ≠ .monitor →
      ∃ before c between, as = before ++ c :: between ∧ (World.act (reached before) c).2 = .captured id ∧
        ((reached before).media.aokieSwitchEpoch < u64Max →
          .switched ∉ World.act.outputs (reached (before ++ [c])) between)) ∧
    (∀ a, (World.act (reached as) a).2 = .switched → (reached as).media.claimExists = false ∧
      ∀ peer ∈ (reached as).media.peers, peer.binding.mode = .monitor) ∧
    (∀ id o, (reached as).opens[id]? = some o → o.ticket = .abandoned →
      ∀ b later, .inserted id b ∉ World.act.outputs (reached as) later) ∧
    (∀ id b, .inserted id b ∈ World.act.outputs .initial as → (reached as).Reported id (accepted b)) ∧
    (∀ a id o result, (reached as).opens[id]? = some o → o.ticket = .committed →
      (World.act (reached as) a).2 = .told id result → o.reply = some result ∨
        o.reply = none ∧ result = .error openTimedOut ∧ ∃ deadline, o.caller = .grace deadline ∧ deadline ≤ a.2.now) ∧
    ∀ id o deadline clock, (reached as).opens[id]? = some o → o.caller = .grace deadline → deadline ≤ clock.now →
      ∃ a, (World.act (reached as) (a, clock)).2 = .told id (o.reply.getD (.error openTimedOut)) := by
  refine ⟨?_, ?_, ?_, fun id b => reported_of_mem, ?_, fun id o deadline clock => told_at_grace_end⟩
  · intro a id b hinserted hmode
    obtain ⟨o, r, ho, hr, rfl, -, hsame⟩ := (act_stepped (reached as) a).inserted id b hinserted
    obtain ⟨⟨before, c, between, has, hcaptured, hepoch, -, hswitched⟩, hrequest⟩ := capturedIn_of_open ho
    have hnow := hsame o.switchEpoch (hrequest r hr hmode)
    refine ⟨before, c, between, has, hcaptured, fun hlt hin => ?_⟩
    rw [← hepoch] at hlt
    exact absurd hnow (hswitched hlt hin).ne
  · intro a hswitched
    obtain ⟨hclaim, hpeers⟩ := (act_stepped (reached as) a).switched hswitched
    refine ⟨hclaim, ?_⟩
    simpa [hasClaimantPeer] using hpeers
  · intro id o ho hticket b later
    exact not_inserted_of_abandoned ⟨o, ho, hticket⟩ b later
  · intro a id o result ho hticket htold
    obtain ⟨o', ho', hcase⟩ := (act_stepped (reached as) a).told id result htold
    obtain rfl := Option.some.inj (ho.symm.trans ho')
    rcases hcase with hcaptured | hreply | hwaiting | hgrace
    · cases hticket.symm.trans ((ordered_reached as).fresh id o ho hcaptured).1
    · exact .inl hreply
    · cases hticket.symm.trans hwaiting
    · exact .inr hgrace

/-- The manager inserts a claimant's peer and is then held up until the grace has ended. -/
def stalledRun : List (Action × Clock) :=
  (atOnce [.setRemoteConsent openGate, .observeCall (some "c1") true]).map (fun i => (.media i.1, i.2)) ++
  [(.capture, ⟨0, 0⟩), (.openPeer 0 prepareBinding 60000 true, ⟨0, 0⟩), (.serve, ⟨0, 0⟩),
   (.answered (.ok ()), ⟨seconds 20, 0⟩), (.timeout 0, ⟨seconds 20, 0⟩)]

theorem committed_open_told_timeout :
    ¬∀ (as : List (Action × Clock)) (a : Action × Clock) (id : ℕ) (o : Opening)
      (result : Except String OpenPeerAccepted),
      (reached as).opens[id]? = some o → o.ticket = .committed → (World.act (reached as) a).2 = .told id result →
        o.reply = some result := by
  intro h
  have hcommitted : ((reached stalledRun).opens[0]?.map (·.ticket)) = some .committed := by decide
  have hunsent : ((reached stalledRun).opens[0]?.map (·.reply)) = some none := by decide
  have htold : (World.act (reached stalledRun) (.graceEnd 0, ⟨seconds 22, 0⟩)).2 = .told 0 (.error openTimedOut) := by
    decide
  obtain ⟨o, ho, hticket⟩ := Option.map_eq_some_iff.mp hcommitted
  have hreply := h stalledRun _ 0 o _ ho hticket htold
  rw [ho] at hunsent
  simp [hreply] at hunsent

end Aokie.Plugin.RemoteMedia
