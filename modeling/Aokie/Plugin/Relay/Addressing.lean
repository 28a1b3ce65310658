import Aokie.Lib.Log
import Aokie.Lib.Run
import Aokie.Plugin.Relay.Sending

/-! Who is posted what: the hello first, and every frame to the parties it is for. -/

namespace Aokie.Plugin.Relay

open Aokie.Lib Aokie.Protocol

/-- What the happenings so far tell about the session. -/
structure Ledger where
  hello : Option (List Char) := none
  routes : String → Option VerifiedRoute := fun _ => none
  verified : List String := []
  handling : Option (String × Option String) := none

namespace Ledger

def note (l : Ledger) : Happening → Ledger
  | .opened => {}
  | .armed hello | .regreeted _ hello => { l with hello := some hello }
  | .verified device party grants =>
    { l with routes := Function.update l.routes device (some ⟨party, grants⟩), verified := party :: l.verified }
  | .narrowed device party grants =>
    { l with
      routes := Function.update l.routes device ((l.routes device).map fun route =>
        if route.party = party then { route with grants := route.grants.filter grants.contains } else route) }
  | .received sender subject => { l with handling := some (sender, subject) }
  | .posted .. => l

def of (log : List Happening) : Ledger := log.foldl note {}

@[simp] lemma of_concat (log : List Happening) (e : Happening) : of (log ++ [e]) = (of log).note e :=
  List.foldl_concat ..

def partyOf (l : Ledger) (device : String) : Option String := (l.routes device).map (·.party)

variable (parse : List Char → Option Json)

def Names (l : Ledger) (frame : List Char) (party : String) : Prop :=
  ∃ routing, (parse frame).bind FrameRouting.fromJson = some routing ∧
    match routing.deviceId with
    | some device => l.partyOf device = some party
    | none =>
      (routing.kind = some "assistance_request" ∧ party ∈ l.verified ∧
        ∃ device route, l.routes device = some route ∧ route.party = party ∧ Grant.stateRead ∈ route.grants ∧
          Grant.assistanceRead ∈ route.grants) ∨
      ((routing.kind = some "assistance_answer_accepted" ∨ routing.kind = some "end_caller_submitted") ∧
        ∃ subject, l.handling = some (party, some subject) ∧ l.partyOf subject = some party) ∨
      (routing.kind = some "plugin_idle" ∧ party ∈ l.verified)

end Ledger

def Happening.Owes (party : String) : Happening → Prop
  | .armed _ => True
  | .regreeted other _ => other = party
  | _ => False

/-- Some post that the relay took for this party began with the hello of its time. -/
def Greeted (front after : List Happening) (party : String) : Prop :=
  ∃ earlier hello frames later, after = earlier ++ .posted party (hello :: frames) true :: later ∧
    (Ledger.of (front ++ earlier)).hello = some hello

def GreetedSince (owes : Happening → Prop) (log : List Happening) (party : String) : Prop :=
  ∀ before e after, log = before ++ e :: after → owes e → Greeted (before ++ [e]) after party

def ProperPost (parse : List Char → Option Json) (owes : String → Happening → Prop) (log : List Happening) :
    Happening → Prop
  | .posted party frames _ =>
    ∃ greeting frame, frames = greeting ++ [frame] ∧
      (greeting = [] ∧ GreetedSince (owes party) log party ∨ ∃ hello, greeting = [hello] ∧
        (Ledger.of log).hello = some hello) ∧
      (Ledger.of log).Names parse frame party ∧ party ∈ (Ledger.of log).verified
  | _ => True

/-- What the session does with its carrier, and what the network does to it. -/
inductive Sent
  | arm (hello : List Char)
  | installRegreeting (channelId : ℕ) (party : String) (hello : List Char)
  | authorizeRoute (device party : String) (grants : List Grant)
  | narrowRouteGrants (device party : String) (grants : List Grant)
  | recvText (now later : Instant) (opened : Option WorkerError) (read : StreamRead)
  | sendText (encoded : List Char) (answers : ℕ → ℕ → ℕ → PostOutcome)
  | rotate (preserveContinuity : Bool) (channelId : ℕ) (token : String) (endpoints : RelayEndpoints)
      (appId pluginId : String) (approvedParties : List String) (now : Instant) (hello : List Char)

structure Session where
  channel : SendingChannel
  log : List Happening

section Run

variable (fromStr parse : List Char → Option Json) (parseUrl : String → Option String) (display : ℕ → String)
  (headerValue : String → Bool) (fit : List Char → ℕ → Option (List Char))

def Session.act (w : Session) : Sent → Session
  | .arm hello => ⟨w.channel.arm hello, w.log ++ [.armed hello]⟩
  | .installRegreeting channelId party hello =>
    let (channel, installed) := w.channel.installRegreeting channelId party hello
    ⟨channel, w.log ++ if installed then [.regreeted party hello] else []⟩
  | .authorizeRoute device party grants =>
    ⟨w.channel.authorizeRoute device party grants,
      w.log ++ if w.channel.approvedParties.contains party then [.verified device party grants] else []⟩
  | .narrowRouteGrants device party grants =>
    ⟨w.channel.narrowRouteGrants device party grants, w.log ++ [.narrowed device party grants]⟩
  | .recvText now later opened read =>
    let (channel, reply) := w.channel.toRelayChannel.recvText fromStr now later opened read
    ⟨{ w.channel with toRelayChannel := channel },
      w.log ++ reply.toOption.join.toList.map fun frame => .received frame.sender frame.subjectId⟩
  | .sendText encoded answers =>
    let (channel, posts, _) := w.channel.sendText parse display headerValue fit encoded answers
    ⟨channel, w.log ++ posts⟩
  | .rotate preserveContinuity channelId token endpoints appId pluginId approvedParties now hello =>
    let next := (SendingChannel.connectInner channelId token endpoints appId pluginId approvedParties now).arm hello
    let (channel, _, adopted) := next.toRelayChannel.adoptRoutingFrom parseUrl w.channel.toRelayChannel
    if preserveContinuity && adopted then ⟨{ next with toRelayChannel := channel }, w.log ++ [.armed hello]⟩
    else ⟨next, w.log ++ [.opened, .armed hello]⟩

def session : Machine Session Sent Unit :=
  fun w i => (w.act fromStr parse parseUrl display headerValue fit i, ())

end Run

section Greeting

variable {owes : Happening → Prop} {log : List Happening} {party : String}

lemma Greeted.concat {front after : List Happening} (h : Greeted front after party) (e : Happening) :
    Greeted front (after ++ [e]) party := by
  obtain ⟨earlier, hello, frames, later, rfl, hhello⟩ := h
  exact ⟨earlier, hello, frames, later ++ [e], by simp, hhello⟩

lemma cut_concat {before after : List Happening} {e last : Happening} (h : log ++ [last] = before ++ e :: after) :
    (last = e ∧ log = before ∧ after = []) ∨ ∃ mid, after = mid ++ [last] ∧ log = before ++ e :: mid := by
  rcases List.eq_nil_or_concat after with rfl | ⟨mid, x, rfl⟩
  · obtain ⟨hlog, hlast⟩ := List.append_inj' h rfl
    exact .inl ⟨(List.cons.inj hlast).1, hlog, rfl⟩
  · rw [List.concat_eq_append, ← List.cons_append, ← List.append_assoc] at h
    obtain ⟨hlog, hlast⟩ := List.append_inj' h rfl
    exact .inr ⟨mid, by rw [List.concat_eq_append, (List.cons.inj hlast).1], hlog⟩

lemma GreetedSince.concat (h : GreetedSince owes log party) {last : Happening} (hlast : ¬owes last) :
    GreetedSince owes (log ++ [last]) party := by
  intro before e after hcut howes
  rcases cut_concat hcut with ⟨rfl, -⟩ | ⟨mid, rfl, hlog⟩
  · exact absurd howes hlast
  · exact (h before e mid hlog howes).concat last

lemma GreetedSince.append (h : GreetedSince owes log party) {more : List Happening} (hmore : ∀ e ∈ more, ¬owes e) :
    GreetedSince owes (log ++ more) party := by
  induction more using List.reverseRecOn with
  | nil => rwa [List.append_nil]
  | append_singleton more e ih =>
      rw [← List.append_assoc]
      exact (ih fun x hx => hmore x (List.mem_append_left _ hx)).concat (hmore e (by simp))

lemma greetedSince_of_not_owed (h : ∀ e ∈ log, ¬owes e) : GreetedSince owes log party := by
  rintro before e after rfl howes
  exact absurd howes (h e (by simp))

lemma greetedSince_posted {hello : List Char} {frames : List (List Char)}
    (howes : ¬owes (.posted party (hello :: frames) true)) (hhello : (Ledger.of log).hello = some hello) :
    GreetedSince owes (log ++ [.posted party (hello :: frames) true]) party := by
  intro before e after hcut he
  rcases cut_concat hcut with ⟨rfl, -⟩ | ⟨mid, rfl, hlog⟩
  · exact absurd he howes
  · exact ⟨mid, hello, frames, [], rfl, by rw [← hhello, hlog]; simp⟩

end Greeting

section Posting

variable {log : List Happening} {party : String}

def posts (party : String) (frames : List (List Char)) (attempts : List Bool) : List Happening :=
  attempts.map (.posted party frames)

lemma of_posts (log : List Happening) (party : String) (frames : List (List Char)) (attempts : List Bool) :
    Ledger.of (log ++ posts party frames attempts) = Ledger.of log := by
  induction attempts generalizing log with
  | nil => simp [posts]
  | cons a attempts ih =>
      have hcut : log ++ posts party frames (a :: attempts) =
          log ++ [.posted party frames a] ++ posts party frames attempts := by simp [posts]
      rw [hcut, ih, Ledger.of_concat]
      rfl

lemma not_owes_posts {frames : List (List Char)} {attempts : List Bool} {other : String} :
    ∀ e ∈ posts party frames attempts, ¬e.Owes other := by
  intro e he
  obtain ⟨a, -, rfl⟩ := List.mem_map.mp he
  exact id

lemma greetedSince_posts {hello : List Char} {frames : List (List Char)} {attempts : List Bool} (h : true ∈ attempts)
    (hhello : (Ledger.of log).hello = some hello) :
    GreetedSince (Happening.Owes party) (log ++ posts party (hello :: frames) attempts) party := by
  induction attempts generalizing log with
  | nil => simp at h
  | cons a attempts ih =>
      have hcut : log ++ posts party (hello :: frames) (a :: attempts) =
          log ++ [.posted party (hello :: frames) a] ++ posts party (hello :: frames) attempts := by simp [posts]
      rw [hcut]
      rcases List.mem_cons.mp h with rfl | h
      · exact (greetedSince_posted id hhello).append not_owes_posts
      · exact ih h (by rw [Ledger.of_concat]; exact hhello)

variable {display : ℕ → String} {headerValue : String → Bool}

lemma attemptPost_delivered {answers : ℕ → PostOutcome} {left : ℕ}
    (h : (attemptPost display answers left).2 = .ok .delivered) : true ∈ (attemptPost display answers left).1 := by
  have haccepted : ∀ outcome : PostOutcome, outcome.result display = .ok .delivered → outcome.accepted = true := by
    rintro (code | detail) hresult
    · by_contra hrefused
      simp only [PostOutcome.result] at hresult
      rw [if_neg hrefused] at hresult
      split at hresult <;> cases hresult
    · simp [PostOutcome.result] at hresult
  induction left with
  | zero => simpa [attemptPost] using haccepted _ h
  | succ left ih =>
      simp only [attemptPost] at h ⊢
      split at h
      · next hretries =>
          rw [if_pos hretries]
          exact List.mem_cons_of_mem _ (ih h)
      · next hretries =>
          rw [if_neg hretries]
          exact List.mem_singleton.mpr (haccepted _ h).symm

namespace SendingChannel

variable {c : SendingChannel}

lemma postFrames_eq {frames : List (List Char)} {answers : ℕ → PostOutcome} (hframes : frames ≠ []) :
    ∃ attempts, (c.postFrames display headerValue party frames answers).1 = posts party frames attempts ∧
      ((c.postFrames display headerValue party frames answers).2 = .ok .delivered → true ∈ attempts) := by
  simp only [postFrames, List.isEmpty_iff, hframes, if_false]
  cases c.request headerValue with
  | error error => exact ⟨[], rfl, nofun⟩
  | ok => exact ⟨_, rfl, attemptPost_delivered⟩

lemma postChunks_singleton (chunk : List (List Char)) (answers : ℕ → ℕ → PostOutcome) :
    c.postChunks display headerValue party [chunk] answers = c.postFrames display headerValue party chunk
      (answers 0) := by
  simp only [postChunks]
  split <;> simp_all

lemma toChunks_batch (encoded : List Char) :
    (c.batch party encoded).toChunks maxFramesPerPost = [c.batch party encoded] := by
  simp only [batch]
  split
  · rfl
  · cases c.hello <;> rfl

lemma batch_ne_nil (encoded : List Char) : c.batch party encoded ≠ [] := by simp [batch]

end SendingChannel

end Posting

/-- The carrier's tables say what the happenings say. -/
structure Booked (parse : List Char → Option Json) (c : SendingChannel) (log : List Happening) : Prop where
  proper : Log.EachAfter (ProperPost parse Happening.Owes) log
  hello : (Ledger.of log).hello = c.hello
  owed : c.hello = none → ∀ e ∈ log, ∀ party, ¬e.Owes party
  greeted : ∀ party ∈ c.greeted, GreetedSince (Happening.Owes party) log party
  routes : ∀ entry ∈ c.routes, (Ledger.of log).routes entry.1 = some entry.2
  known : ∀ device route, (Ledger.of log).routes device = some route → route.party ∈ (Ledger.of log).verified
  parties : ∀ party ∈ c.parties, party ∈ (Ledger.of log).verified
  handling : ∀ party, c.lastInboundParty = some party →
    (Ledger.of log).handling = some (party, c.lastInboundSubject)

namespace Booked

variable {parse : List Char → Option Json} {c : SendingChannel} {log : List Happening} {party : String}

lemma concat (h : Booked parse c log) {d : SendingChannel} {e : Happening}
    (hproper : ProperPost parse Happening.Owes log e) (howes : ∀ party, ¬e.Owes party)
    (hnote : ((Ledger.of log).note e).hello = (Ledger.of log).hello) (hhello : d.hello = c.hello)
    (hgreeted : d.greeted = c.greeted) (hroutes : ∀ entry ∈ d.routes,
      ((Ledger.of log).note e).routes entry.1 = some entry.2)
    (hknown : ∀ device route, ((Ledger.of log).note e).routes device = some route →
      route.party ∈ ((Ledger.of log).note e).verified)
    (hparties : ∀ party ∈ d.parties, party ∈ ((Ledger.of log).note e).verified)
    (hhandling : ∀ party, d.lastInboundParty = some party →
      ((Ledger.of log).note e).handling = some (party, d.lastInboundSubject)) : Booked parse d (log ++ [e]) := by
  constructor
  · exact Log.eachAfter_concat h.proper hproper
  · rw [Ledger.of_concat, hnote, hhello]
    exact h.hello
  · intro hnone x hx
    rcases List.mem_append.mp hx with hx | hx
    · exact h.owed (hhello ▸ hnone) x hx
    · rw [List.mem_singleton.mp hx]
      exact howes
  · intro party hparty
    rw [hgreeted] at hparty
    exact (h.greeted party hparty).concat (howes party)
  all_goals rwa [Ledger.of_concat]

lemma greetedSince (h : Booked parse c log) (hparty : party ∈ c.greeted ∨ c.hello = none) :
    GreetedSince (Happening.Owes party) log party := by
  rcases hparty with hparty | hhello
  · exact h.greeted party hparty
  · exact greetedSince_of_not_owed fun e he => h.owed hhello e he party

lemma properPost (h : Booked parse c log) {encoded : List Char} {accepted : Bool}
    (hnames : (Ledger.of log).Names parse encoded party) (hverified : party ∈ (Ledger.of log).verified) :
    ProperPost parse Happening.Owes log (.posted party (c.batch party encoded) accepted) := by
  refine ⟨_, encoded, rfl, ?_, hnames, hverified⟩
  by_cases hgreeted : party ∈ c.greeted
  · exact .inl ⟨by simp [hgreeted], h.greetedSince (.inl hgreeted)⟩
  · cases hhello : c.hello with
    | none => exact .inl ⟨by simp, h.greetedSince (.inr hhello)⟩
    | some hello => exact .inr ⟨hello, by simp [hgreeted], h.hello.trans hhello⟩

lemma posts (h : Booked parse c log) {encoded : List Char} (attempts : List Bool)
    (hnames : (Ledger.of log).Names parse encoded party) (hverified : party ∈ (Ledger.of log).verified) :
    Booked parse c (log ++ Relay.posts party (c.batch party encoded) attempts) := by
  induction attempts generalizing log with
  | nil => simpa [Relay.posts] using h
  | cons a attempts ih =>
      have hcut : log ++ Relay.posts party (c.batch party encoded) (a :: attempts) =
          log ++ [.posted party (c.batch party encoded) a] ++ Relay.posts party (c.batch party encoded) attempts := by
        simp [Relay.posts]
      have hledger : Ledger.of (log ++ [.posted party (c.batch party encoded) a]) = Ledger.of log := by
        rw [Ledger.of_concat]
        rfl
      rw [hcut]
      apply ih
      · exact h.concat (h.properPost hnames hverified) (fun _ => id) rfl rfl rfl h.routes h.known h.parties h.handling
      · rwa [hledger]
      · rwa [hledger]

lemma insertGreeted (h : Booked parse c log) (hparty : GreetedSince (Happening.Owes party) log party) :
    Booked parse (c.insertGreeted party) log := by
  simp only [SendingChannel.insertGreeted]
  split
  · exact h
  · refine { h with greeted := ?_ }
    intro other hother
    rcases List.mem_cons.mp hother with rfl | hother
    · exact hparty
    · exact h.greeted other hother

section Sending

variable {display : ℕ → String} {headerValue : String → Bool}

lemma sendEach {encoded : List Char} {targets : List String} {answers : ℕ → ℕ → ℕ → PostOutcome}
    (h : Booked parse c log)
    (htargets : ∀ party ∈ targets, (Ledger.of log).Names parse encoded party ∧ party ∈ (Ledger.of log).verified) :
    Booked parse (c.sendEach display headerValue encoded targets answers).1
      (log ++ (c.sendEach display headerValue encoded targets answers).2.1) := by
  induction targets generalizing c log answers with
  | nil => simpa [SendingChannel.sendEach] using h
  | cons party targets ih =>
      obtain ⟨hnames, hverified⟩ := htargets party (by simp)
      obtain ⟨attempts, hposts, hdelivered⟩ := @SendingChannel.postFrames_eq party display headerValue c
        (c.batch party encoded) (answers 0 0) (SendingChannel.batch_ne_nil encoded)
      have hbooked := h.posts attempts hnames hverified
      have hrest : ∀ other ∈ targets, (Ledger.of (log ++ Relay.posts party (c.batch party encoded) attempts)).Names
          parse encoded other ∧ other ∈ (Ledger.of (log ++ Relay.posts party
            (c.batch party encoded) attempts)).verified := by
        intro other hother
        rw [of_posts]
        exact htargets other (List.mem_cons_of_mem _ hother)
      simp only [SendingChannel.sendEach, SendingChannel.toChunks_batch, SendingChannel.postChunks_singleton]
      rcases hpost : c.postFrames display headerValue party (c.batch party encoded) (answers 0 0) with
        ⟨done, error | delivery⟩
      · obtain rfl : done = Relay.posts party (c.batch party encoded) attempts := by rw [← hposts, hpost]
        exact hbooked
      · obtain rfl : done = Relay.posts party (c.batch party encoded) attempts := by rw [← hposts, hpost]
        cases delivery with
        | dropped => simpa using ih hbooked hrest
        | delivered =>
          have haccepted : true ∈ attempts := hdelivered (by rw [hpost])
          have hgreeted : GreetedSince (Happening.Owes party)
              (log ++ Relay.posts party (c.batch party encoded) attempts) party := by
            by_cases hparty : party ∈ c.greeted
            · exact hbooked.greetedSince (.inl hparty)
            · cases hhello : c.hello with
              | none => exact hbooked.greetedSince (.inr hhello)
              | some hello =>
                have hbatch : c.batch party encoded = hello :: [encoded] := by
                  simp [SendingChannel.batch, hparty, hhello]
                rw [hbatch]
                exact greetedSince_posts haccepted (h.hello.trans hhello)
          simpa using ih (hbooked.insertGreeted hgreeted) hrest

end Sending

section Targets

lemma partyOf_lookup (h : Booked parse c log) {device : String} {route : VerifiedRoute}
    (hroute : c.routes.lookup device = some route) :
    (Ledger.of log).partyOf device = some route.party ∧ route.party ∈ (Ledger.of log).verified := by
  obtain ⟨front, back, hcut, -⟩ := List.lookup_eq_some_iff.mp hroute
  have hentry := h.routes (device, route) (by rw [hcut]; simp)
  exact ⟨by rw [Ledger.partyOf, hentry]; rfl, h.known device route hentry⟩

lemma routeTargets (h : Booked parse c log) {encoded : List Char} (hparty : party ∈ c.routeTargets parse encoded) :
    (Ledger.of log).Names parse encoded party ∧ party ∈ (Ledger.of log).verified := by
  rcases hrouting : (parse encoded).bind FrameRouting.fromJson with _ | routing
  · simp [SendingChannel.routeTargets, hrouting] at hparty
  rcases hdevice : routing.deviceId with _ | device
  · simp only [SendingChannel.routeTargets, hrouting, hdevice] at hparty
    split_ifs at hparty with hrequest hanswer hidle
    · obtain ⟨hmem, hany⟩ := List.mem_filter.mp hparty
      obtain ⟨entry, hentry, hgrants⟩ := List.any_eq_true.mp hany
      have hverified := h.parties party hmem
      simp only [Bool.and_eq_true, beq_iff_eq, List.contains_iff_mem] at hgrants
      refine ⟨⟨routing, hrouting, ?_⟩, hverified⟩
      rw [hdevice]
      exact .inl ⟨hrequest, hverified, entry.1, entry.2, h.routes entry hentry, hgrants.1.1, hgrants.1.2, hgrants.2⟩
    · rcases hsubject : c.lastInboundSubject with _ | subject
      · simp [hsubject] at hparty
      rcases hinbound : c.lastInboundParty with _ | sender
      · simp [hsubject, hinbound] at hparty
      simp only [hsubject, hinbound, Option.mem_toList, Option.map_eq_some_iff, Option.filter_eq_some_iff,
        beq_iff_eq] at hparty
      obtain ⟨route, ⟨hroute, rfl⟩, rfl⟩ := hparty
      obtain ⟨hpartyOf, hverified⟩ := h.partyOf_lookup hroute
      refine ⟨⟨routing, hrouting, ?_⟩, hverified⟩
      rw [hdevice]
      have hhandling := h.handling _ hinbound
      rw [hsubject] at hhandling
      exact .inr (.inl ⟨hanswer, subject, hhandling, hpartyOf⟩)
    · have hverified := h.parties party hparty
      refine ⟨⟨routing, hrouting, ?_⟩, hverified⟩
      rw [hdevice]
      exact .inr (.inr ⟨hidle, hverified⟩)
    · simp at hparty
  · simp only [SendingChannel.routeTargets, hrouting, hdevice, Option.mem_toList, Option.map_eq_some_iff] at hparty
    obtain ⟨route, hroute, rfl⟩ := hparty
    obtain ⟨hpartyOf, hverified⟩ := h.partyOf_lookup hroute
    refine ⟨⟨routing, hrouting, ?_⟩, hverified⟩
    rw [hdevice]
    exact hpartyOf

lemma sendText (h : Booked parse c log) (display : ℕ → String) (headerValue : String → Bool)
    (fit : List Char → ℕ → Option (List Char)) (encoded : List Char) (answers : ℕ → ℕ → ℕ → PostOutcome) :
    Booked parse (c.sendText parse display headerValue fit encoded answers).1
      (log ++ (c.sendText parse display headerValue fit encoded answers).2.1) := by
  simp only [SendingChannel.sendText]
  split
  · simpa using h
  · next targets htargets =>
      exact h.sendEach fun party hparty => h.routeTargets hparty

end Targets

section Routes

variable {device : String} {grants : List Grant}

lemma arm (h : Booked parse c log) (hello : List Char) : Booked parse (c.arm hello) (log ++ [.armed hello]) := by
  constructor
  · exact Log.eachAfter_concat h.proper trivial
  · rw [Ledger.of_concat]
    rfl
  · exact nofun
  · exact nofun
  · rw [Ledger.of_concat]
    exact h.routes
  · rw [Ledger.of_concat]
    exact h.known
  · rw [Ledger.of_concat]
    exact h.parties
  · rw [Ledger.of_concat]
    exact h.handling

lemma regreet (h : Booked parse c log) (regreeted : String) (hello : List Char) :
    Booked parse { c with hello := some hello, greeted := c.greeted.filter (· != regreeted) }
      (log ++ [.regreeted regreeted hello]) := by
  constructor
  · exact Log.eachAfter_concat h.proper trivial
  · rw [Ledger.of_concat]
    rfl
  · exact nofun
  · intro party hparty
    obtain ⟨hmem, hne⟩ := List.mem_filter.mp hparty
    exact (h.greeted party hmem).concat fun heq => by simp [Happening.Owes] at heq; simp [heq] at hne
  · rw [Ledger.of_concat]
    exact h.routes
  · rw [Ledger.of_concat]
    exact h.known
  · rw [Ledger.of_concat]
    exact h.parties
  · rw [Ledger.of_concat]
    exact h.handling

lemma insertRoute_routes {l : Ledger} {route : VerifiedRoute} (hroutes : ∀ entry ∈ c.routes,
    l.routes entry.1 = some entry.2) :
    ∀ entry ∈ (c.insertRoute device route).routes, Function.update l.routes device (some route) entry.1 =
      some entry.2 := by
  intro entry hentry
  rcases List.mem_cons.mp hentry with rfl | hentry
  · exact Function.update_self ..
  · obtain ⟨hmem, hne⟩ := List.mem_filter.mp hentry
    rw [Function.update_of_ne (by simpa using hne)]
    exact hroutes entry hmem

lemma authorizeRoute (h : Booked parse c log) (happroved : c.approvedParties.contains party = true) :
    Booked parse (c.authorizeRoute device party grants) (log ++ [.verified device party grants]) := by
  have hlearned : ∀ other ∈ (c.learnParty party).parties, other ∈ party :: (Ledger.of log).verified := by
    intro other hother
    simp only [SendingChannel.learnParty] at hother
    split at hother
    · exact List.mem_cons_of_mem _ (h.parties other hother)
    · rcases List.mem_append.mp hother with hother | hother
      · exact List.mem_cons_of_mem _ (h.parties other hother)
      · simp [List.mem_singleton.mp hother]
  have hsame : (c.learnParty party).hello = c.hello ∧ (c.learnParty party).greeted = c.greeted ∧
      (c.learnParty party).routes = c.routes ∧ (c.learnParty party).lastInboundParty = c.lastInboundParty ∧
      (c.learnParty party).lastInboundSubject = c.lastInboundSubject := by
    simp only [SendingChannel.learnParty]
    split <;> exact ⟨rfl, rfl, rfl, rfl, rfl⟩
  obtain ⟨hhello, hgreeted, hroutes, hsender, hsubject⟩ := hsame
  have hknown : ∀ other route, Function.update (Ledger.of log).routes device (some ⟨party, grants⟩) other = some route →
      route.party ∈ party :: (Ledger.of log).verified := by
    intro other route hroute
    by_cases hother : other = device
    · obtain rfl := hother
      rw [Function.update_self] at hroute
      cases hroute
      exact List.mem_cons_self
    · rw [Function.update_of_ne hother] at hroute
      exact List.mem_cons_of_mem _ (h.known other route hroute)
  simp only [SendingChannel.authorizeRoute, happroved, Bool.not_true, Bool.false_eq_true, if_false]
  split
  · next hfull =>
      obtain ⟨-, hnew⟩ := Bool.and_eq_true_iff.mp hfull
      rw [Option.isNone_iff_eq_none, hroutes, List.lookup_eq_none_iff] at hnew
      refine h.concat trivial (fun _ => id) rfl hhello hgreeted ?_ hknown hlearned
        (by rw [hsender, hsubject]; exact h.handling)
      intro entry hentry
      rw [hroutes] at hentry
      simp only [Ledger.note]
      rw [Function.update_of_ne (by simpa using fun heq : entry.1 = device => by simpa [heq] using hnew entry hentry)]
      exact h.routes entry hentry
  · refine h.concat trivial (fun _ => id) rfl hhello hgreeted ?_ hknown hlearned ?_
    · exact insertRoute_routes (by rw [hroutes]; exact h.routes)
    · simp only [SendingChannel.insertRoute, hsender, hsubject]
      exact h.handling

lemma narrowRouteGrants (h : Booked parse c log) :
    Booked parse (c.narrowRouteGrants device party grants) (log ++ [.narrowed device party grants]) := by
  have hknown : ∀ other route, ((Ledger.of log).note (.narrowed device party grants)).routes other = some route →
      route.party ∈ (Ledger.of log).verified := by
    intro other route hroute
    by_cases hother : other = device
    · obtain rfl := hother
      simp only [Ledger.note, Function.update_self, Option.map_eq_some_iff] at hroute
      obtain ⟨before, hbefore, rfl⟩ := hroute
      have hmem := h.known other before hbefore
      split <;> exact hmem
    · simp only [Ledger.note, Function.update_of_ne hother] at hroute
      exact h.known other route hroute
  simp only [SendingChannel.narrowRouteGrants]
  rcases hlookup : c.routes.lookup device with _ | route
  · refine h.concat trivial (fun _ => id) rfl rfl rfl ?_ hknown h.parties h.handling
    intro entry hentry
    have hne := List.lookup_eq_none_iff.mp hlookup entry hentry
    simp only [Ledger.note]
    rw [Function.update_of_ne fun heq => by simp [heq] at hne]
    exact h.routes entry hentry
  · obtain ⟨front, back, hcut, -⟩ := List.lookup_eq_some_iff.mp hlookup
    have hroute := h.routes (device, route) (by rw [hcut]; simp)
    by_cases hparty : route.party = party
    · simp only [hparty, bne_self_eq_false, Bool.false_eq_true, if_false]
      refine h.concat trivial (fun _ => id) rfl rfl rfl ?_ hknown h.parties h.handling
      simp only [Ledger.note, hroute, Option.map_some, hparty, if_true]
      exact insertRoute_routes h.routes
    · simp only [bne_iff_ne, ne_eq, hparty, not_false_eq_true, if_true]
      refine h.concat trivial (fun _ => id) rfl rfl rfl ?_ hknown h.parties h.handling
      simp only [Ledger.note, hroute, Option.map_some, hparty, if_false]
      rw [← hroute, Function.update_eq_self]
      exact h.routes

end Routes

end Booked

section Reading

/-- Nothing that addressing depends on is changed. -/
structure SameTables (c d : RelayChannel) : Prop where
  routes : d.routes = c.routes
  parties : d.parties = c.parties
  sender : d.lastInboundParty = c.lastInboundParty
  subject : d.lastInboundSubject = c.lastInboundSubject

namespace SameTables

variable {c d e : RelayChannel}

lemma refl (c : RelayChannel) : SameTables c c := ⟨rfl, rfl, rfl, rfl⟩

lemma trans (h : SameTables c d) (g : SameTables d e) : SameTables c e :=
  ⟨g.routes.trans h.routes, g.parties.trans h.parties, g.sender.trans h.sender, g.subject.trans h.subject⟩

lemma noteStreamProgress (c : RelayChannel) (now : Instant) (delivered : Bool) :
    SameTables c (c.noteStreamProgress now delivered) := by
  simp only [RelayChannel.noteStreamProgress]
  split <;> exact ⟨rfl, rfl, rfl, rfl⟩

lemma absorbEvent (fromStr : List Char → Option Json) (now : Instant) (c : RelayChannel) (event : RelayStreamEvent) :
    SameTables c (RelayChannel.absorbEvent fromStr now c event) := by
  cases event with
  | frame f =>
      simp only [RelayChannel.absorbEvent]
      split_ifs <;> exact ⟨rfl, rfl, rfl, rfl⟩
  | finish seq => cases seq <;> exact ⟨rfl, rfl, rfl, rfl⟩

lemma absorb (fromStr : List Char → Option Json) (now : Instant) (c : RelayChannel) (events : List RelayStreamEvent) :
    SameTables c (c.absorb fromStr now events) := by
  induction events generalizing c with
  | nil => exact refl c
  | cons event events ih => exact (absorbEvent fromStr now c event).trans (ih _)

end SameTables

/-- A wait for a frame changes the tables only by the frame that it hands over. -/
def Delivers (c : RelayChannel) (out : RelayChannel × Except WorkerError (Option Inbound)) : Prop :=
  match out.2.toOption.join with
  | none => SameTables c out.1
  | some frame => SameTables
      { c with lastInboundParty := some frame.sender, lastInboundSubject := frame.subjectId } out.1

lemma SameTables.delivers {c d : RelayChannel} {out : RelayChannel × Except WorkerError (Option Inbound)}
    (h : SameTables c d) (g : Delivers d out) : Delivers c out := by
  simp only [Delivers] at g ⊢
  split
  · next hnone =>
      rw [hnone] at g
      exact h.trans g
  · next frame hsome =>
      rw [hsome] at g
      exact ⟨g.routes.trans h.routes, g.parties.trans h.parties, g.sender, g.subject⟩

lemma delivers_noteStreamFailure (c : RelayChannel) (error : WorkerError) : Delivers c (c.noteStreamFailure error) := by
  simp only [Delivers, RelayChannel.noteStreamFailure]
  split_ifs <;> exact ⟨rfl, rfl, rfl, rfl⟩

lemma delivers_takeInbound (c : RelayChannel) : Delivers c (c.takeInbound.1, .ok c.takeInbound.2) := by
  simp only [Delivers, RelayChannel.takeInbound]
  cases c.inbound <;> exact ⟨rfl, rfl, rfl, rfl⟩

lemma delivers_readStream (fromStr : List Char → Option Json) (c : RelayChannel) (now : Instant) (read : StreamRead) :
    Delivers c (c.readStream fromStr now read) := by
  have hrestarted : SameTables c (c.restartStream now streamReopenDelay) := ⟨rfl, rfl, rfl, rfl⟩
  have hrestart : ∀ error, Delivers c ((c.restartStream now streamReopenDelay).noteStreamFailure error) := fun error =>
    hrestarted.delivers (delivers_noteStreamFailure _ error)
  cases read with
  | quiet =>
      simp only [RelayChannel.readStream]
      split_ifs
      · exact SameTables.refl c
      · exact hrestart _
  | bytes chunk =>
      have hparsed : SameTables c { c with lastStreamRead := now, parser := (c.parser.pushBytes fromStr chunk).1 } :=
        ⟨rfl, rfl, rfl, rfl⟩
      exact ((hparsed.trans (SameTables.noteStreamProgress _ now _)).trans (SameTables.absorb fromStr now _ _)).delivers
        (delivers_takeInbound _)
  | ended => exact hrestart _
  | failed error => exact hrestart error

lemma delivers_recvText (fromStr : List Char → Option Json) (c : RelayChannel) (now later : Instant)
    (opened : Option WorkerError) (read : StreamRead) : Delivers c (c.recvText fromStr now later opened read) := by
  have htake := delivers_takeInbound c
  rcases hinbound : c.takeInbound with ⟨d, _ | frame⟩
  · rw [hinbound] at htake
    have hsame : SameTables c d := htake
    simp only [RelayChannel.recvText, hinbound]
    split_ifs
    · exact hsame.delivers (delivers_readStream fromStr d later read)
    · exact hsame
    · cases opened with
      | some error =>
          have hlater : SameTables c { d with reopenNotBefore := now + streamReopenDelay } :=
            hsame.trans ⟨rfl, rfl, rfl, rfl⟩
          exact hlater.delivers (delivers_noteStreamFailure _ error)
      | none =>
          have hopen : SameTables c { d with stream := true, lastStreamRead := now, streamOpenedAt := now } :=
            hsame.trans ⟨rfl, rfl, rfl, rfl⟩
          exact hopen.delivers (delivers_readStream fromStr _ later read)
  · rw [hinbound] at htake
    simpa [RelayChannel.recvText, hinbound] using htake

end Reading

namespace Booked

variable {parse : List Char → Option Json} {c : SendingChannel} {log : List Happening}

lemma recvText (h : Booked parse c log) {out : RelayChannel × Except WorkerError (Option Inbound)}
    (hout : Delivers c.toRelayChannel out) : Booked parse { c with toRelayChannel := out.1 }
      (log ++ out.2.toOption.join.toList.map fun frame => .received frame.sender frame.subjectId) := by
  simp only [Delivers] at hout
  rcases hframe : out.2.toOption.join with _ | frame
  · rw [hframe] at hout
    simp only [Option.toList_none, List.map_nil, List.append_nil]
    exact { h with
      routes := by rw [hout.routes]; exact h.routes
      parties := by rw [hout.parties]; exact h.parties
      handling := by rw [hout.sender, hout.subject]; exact h.handling }
  · rw [hframe] at hout
    refine h.concat trivial (fun _ => id) rfl rfl rfl ?_ h.known ?_ ?_
    · rw [hout.routes]
      exact h.routes
    · rw [hout.parties]
      exact h.parties
    · intro party hparty
      rw [hout.sender] at hparty
      rw [hout.subject, Ledger.note, Option.some.inj hparty]

lemma opened (h : Booked parse c log) (channelId : ℕ) (token : String) (endpoints : RelayEndpoints)
    (appId pluginId : String) (approvedParties : List String) (now : Instant) (hello : List Char) :
    Booked parse ((SendingChannel.connectInner channelId token endpoints appId pluginId approvedParties now).arm hello)
      (log ++ [.opened, .armed hello]) := by
  have hledger : Ledger.of (log ++ [.opened, .armed hello]) = { hello := some hello } := by
    rw [← List.singleton_append, ← List.append_assoc, Ledger.of_concat, Ledger.of_concat]
    rfl
  constructor
  · rw [← List.singleton_append, ← List.append_assoc]
    exact Log.eachAfter_concat (Log.eachAfter_concat h.proper trivial) trivial
  · rw [hledger]
    rfl
  · exact nofun
  · exact nofun
  · exact List.forall_mem_nil _
  · rw [hledger]
    exact nofun
  · exact List.forall_mem_nil _
  · exact nofun

lemma replaced (h : Booked parse c log) {d : SendingChannel} (hsame : SameTables c.toRelayChannel d.toRelayChannel)
    {hello : List Char} (hhello : d.hello = some hello) (hgreeted : d.greeted = []) :
    Booked parse d (log ++ [.armed hello]) := by
  have harm := h.arm hello
  constructor
  · exact harm.proper
  · rw [hhello]
    exact harm.hello
  · rw [hhello]
    exact nofun
  · rw [hgreeted]
    exact nofun
  · rw [hsame.routes]
    exact harm.routes
  · exact harm.known
  · rw [hsame.parties]
    exact harm.parties
  · rw [hsame.sender, hsame.subject]
    exact harm.handling

end Booked

section Main

variable (fromStr parse : List Char → Option Json) (parseUrl : String → Option String) (display : ℕ → String)
  (headerValue : String → Bool) (fit : List Char → ℕ → Option (List Char))

lemma Booked.act {w : Session} (h : Booked parse w.channel w.log) (i : Sent) :
    Booked parse (w.act fromStr parse parseUrl display headerValue fit i).channel
      (w.act fromStr parse parseUrl display headerValue fit i).log := by
  cases i with
  | arm hello => exact h.arm hello
  | installRegreeting channelId party hello =>
      simp only [Session.act, SendingChannel.installRegreeting]
      split
      · simpa using h
      · exact h.regreet party hello
  | authorizeRoute device party grants =>
      simp only [Session.act]
      split
      · next happroved => exact h.authorizeRoute happroved
      · next hunknown => simpa only [List.append_nil, SendingChannel.authorizeRoute, hunknown, Bool.not_false,
          if_true] using h
  | narrowRouteGrants device party grants => exact h.narrowRouteGrants
  | recvText now later opened read => exact h.recvText (delivers_recvText fromStr _ now later opened read)
  | sendText encoded answers => exact h.sendText display headerValue fit encoded answers
  | rotate preserveContinuity channelId token endpoints appId pluginId approvedParties now hello =>
      simp only [Session.act]
      split
      · next hadopted =>
          obtain ⟨-, hadopted⟩ := Bool.and_eq_true_iff.mp hadopted
          refine h.replaced ?_ rfl rfl
          simp only [RelayChannel.adoptRoutingFrom] at hadopted ⊢
          split at hadopted
          · cases hadopted
          · next hdomain =>
              rw [if_neg hdomain]
              exact ⟨rfl, rfl, rfl, rfl⟩
      · exact h.opened channelId token endpoints appId pluginId approvedParties now hello

/-- Over any run: after an arm every party, and after a regreet the party it is for, is posted the hello of the time
before anything else; and every frame goes to a party that it is for, which a verified hello named. -/
theorem posts_follow_hello_and_routes (channelId : ℕ) (token : String) (endpoints : RelayEndpoints)
    (appId pluginId : String) (approvedParties : List String) (now : Instant) (run : List Sent) :
    Log.EachAfter (ProperPost parse Happening.Owes)
      ((session fromStr parse parseUrl display headerValue fit).final
        ⟨.connectInner channelId token endpoints appId pluginId approvedParties now, []⟩ run).log := by
  have hstart : Booked parse (.connectInner channelId token endpoints appId pluginId approvedParties now) [] := by
    constructor
    · exact Log.eachAfter_nil
    · rfl
    · exact fun _ => List.forall_mem_nil _
    · exact List.forall_mem_nil _
    · exact List.forall_mem_nil _
    · exact nofun
    · exact List.forall_mem_nil _
    · exact nofun
  have hbooked := Machine.always (m := session fromStr parse parseUrl display headerValue fit)
    (P := fun w => Booked parse w.channel w.log)
    (fun w i h => Booked.act fromStr parse parseUrl display headerValue fit h i)
    (s := ⟨.connectInner channelId token endpoints appId pluginId approvedParties now, []⟩) hstart run
  exact hbooked.proper

end Main

def Happening.Installs : Happening → Prop
  | .armed _ | .regreeted .. => True
  | _ => False

section Sample

def sampleIdle : Json := .object [("kind", .string "plugin_idle"), ("deviceId", .string "b")]

def sampleParse (text : List Char) : Option Json := [sampleIdle].find? (·.print == text)

/-- Two parties hear the hello, then one of them a new hello, and the other a frame. -/
def sampleRun : List Sent :=
  [.arm "hello".toList, .authorizeRoute "a" "mobile:a" [], .authorizeRoute "b" "mobile:b" [],
    .sendText sampleIdle.print fun _ _ _ => .status 200, .installRegreeting 1 "mobile:a" "again".toList,
    .sendText sampleIdle.print fun _ _ _ => .status 200]

def sampleStart : SendingChannel :=
  .connectInner 1 "token" ⟨"c", "f", "s"⟩ "app" "plugin" ["mobile:a", "mobile:b"] 0

end Sample

set_option maxRecDepth 8000 in
/-- A regreet owes the new hello to one party; another one goes on without it. -/
theorem regreet_is_for_one_party :
    ¬∀ (fromStr parse : List Char → Option Json) (parseUrl : String → Option String) (display : ℕ → String)
      (headerValue : String → Bool) (fit : List Char → ℕ → Option (List Char)) (channelId : ℕ) (token : String)
      (endpoints : RelayEndpoints) (appId pluginId : String) (approvedParties : List String) (now : Instant)
      (run : List Sent), Log.EachAfter (ProperPost parse fun _ => Happening.Installs)
        ((session fromStr parse parseUrl display headerValue fit).final
          ⟨.connectInner channelId token endpoints appId pluginId approvedParties now, []⟩ run).log := by
  intro h
  have hproper := h (fun _ => none) sampleParse some (fun _ => "") (fun _ => true) (fun _ _ => none) 1 "token"
    ⟨"c", "f", "s"⟩ "app" "plugin" ["mobile:a", "mobile:b"] 0 sampleRun
  have hlog : ((session (fun _ => none) sampleParse some (fun _ => "") (fun _ => true) (fun _ _ => none)).final
      ⟨sampleStart, []⟩ sampleRun).log =
      [.armed "hello".toList, .verified "a" "mobile:a" [], .verified "b" "mobile:b" [],
        .posted "mobile:b" ["hello".toList, sampleIdle.print] true, .regreeted "mobile:a" "again".toList] ++
      .posted "mobile:b" [sampleIdle.print] true :: [] := by decide
  obtain ⟨greeting, frame, hframes, hgreeting, -⟩ := hproper _ _ _ hlog
  rcases hgreeting with ⟨-, hsince⟩ | ⟨hello, rfl, -⟩
  · obtain ⟨earlier, hello, frames, later, hcut, -⟩ := hsince
      [.armed "hello".toList, .verified "a" "mobile:a" [], .verified "b" "mobile:b" [],
        .posted "mobile:b" ["hello".toList, sampleIdle.print] true] (.regreeted "mobile:a" "again".toList)
        [] rfl trivial
    simp at hcut
  · simp at hframes

end Aokie.Plugin.Relay
