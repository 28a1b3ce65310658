import Aokie.Lib.Log
import Aokie.Plugin.Relay.Channel

/-! Frames are read once and in order, whatever happens to the streams that carry them. -/

namespace Aokie.Plugin.Relay

open Aokie.Lib Aokie.Protocol

def accepted (fromStr : List Char → Option Json) (roster : List String) (f : RelayFrame) : Bool :=
  roster.contains f.sender && !(unknownFrameKind fromStr f.frame).isSome

/-- The carrier together with the relay's mailbox, what the session was handed, and what arrived on the open stream
since it was opened. -/
structure World where
  held : List RelayFrame
  channel : RelayChannel
  handed : List Inbound
  since : ℕ
  received : Bytes

inductive Turn
  | post (f : RelayFrame)
  | recv (now later : Instant) (opened : Option WorkerError) (read : StreamRead)
  | rotate (endpoints : RelayEndpoints) (appId pluginId : String) (approvedParties : List String) (now : Instant)

def StreamRead.chunk : StreamRead → Bytes
  | .bytes chunk => chunk
  | _ => []

namespace World

def opens (w : World) (now : Instant) (opened : Option WorkerError) : Bool :=
  w.channel.inbound.isEmpty && !w.channel.stream && !decide (now < w.channel.reopenNotBefore) && opened.isNone

/-- The world as the stream is asked: a stream opened now starts at the cursor. -/
def asked (w : World) (now : Instant) (opened : Option WorkerError) : World :=
  if w.opens now opened then
    { w with
      channel := { w.channel with stream := true, lastStreamRead := now, streamOpenedAt := now }
      since := w.channel.lastSeq, received := [] }
  else w

def act (fromStr : List Char → Option Json) (parseUrl : String → Option String) (w : World) : Turn → World
  | .post f => { w with held := w.held ++ [f] }
  | .recv now later opened read =>
    let (channel, reply) := w.channel.recvText fromStr now later opened read
    let asked := w.asked now opened
    { held := w.held, channel := channel
      handed := w.handed ++ (reply.toOption.join).toList
      since := asked.since
      received := asked.received ++ (if w.channel.inbound.isEmpty then read.chunk else []) }
  | .rotate endpoints appId pluginId approvedParties now =>
    let next := RelayChannel.replacement endpoints appId pluginId approvedParties now
    { w with channel := (next.adoptRoutingFrom parseUrl w.channel).1 }

end World

section Relay

variable (fromStr : List Char → Option Json) (parseUrl : String → Option String)

def carrier : Machine World Turn Unit := fun w t => (w.act fromStr parseUrl t, ())

/-- The text of a stream the relay opened at `since`: the frames it holds after that, in order, and perhaps its
sign-off with a cursor that passes over none of them. -/
def Sends (held : List RelayFrame) (since : ℕ) (text : List Char) : Prop :=
  ∃ sent : List RelayFrame, sent <+: held.filter (fun f => since < f.seq) ∧
    (eventsAfter fromStr [] text = sent.map .frame ∨
      ∃ seq, eventsAfter fromStr [] text = sent.map .frame ++ [.finish seq] ∧
        ∀ k ∈ seq, ∀ f ∈ held, since < f.seq → f ∉ sent → k < f.seq)

/-- What the relay and the session's own checks promise about a turn; `Cut` is asked of the pieces a stream has been
delivered in and what is still to come. -/
def Faithful (Cut : List Bytes → Prop) (w : World) : Turn → Prop
  | .post f => (∀ g ∈ w.held, g.seq < f.seq) ∧ w.channel.lastSeq < f.seq
  | .recv now _ opened (.bytes chunk) =>
    let w := w.asked now opened
    w.channel.inbound = [] → w.channel.stream = true → ∃ text later, encode text = w.received ++ chunk ++ later ∧
      Sends fromStr w.held w.since text ∧ Fits text ∧ Cut [w.received, chunk, later]
  | .recv .. => True
  -- `rotate_credentials` refuses another roster
  | .rotate endpoints appId pluginId approvedParties now =>
    ((RelayChannel.replacement endpoints appId pluginId approvedParties now).adoptRoutingFrom parseUrl w.channel).2.2 =
      true ∧ approvedParties = w.channel.approvedParties

/-- The session was handed, or will be handed next, exactly the frames for it up to the cursor. -/
def ReadOnce (start : ℕ) (w : World) : Prop :=
  w.handed ++ w.channel.inbound = ((Log.window RelayFrame.seq start w.channel.lastSeq w.held).filter
    (accepted fromStr w.channel.approvedParties)).map RelayFrame.inbound

/-- Once the open stream has brought everything the relay holds, so has the carrier. -/
def ReadAll (start : ℕ) (w : World) : Prop :=
  w.channel.stream = true → ∀ text, w.received = encode text →
    eventsAfter fromStr [] text = (w.held.filter (fun f => w.since < f.seq)).map .frame →
      w.handed ++ w.channel.inbound = ((w.held.filter (fun f => start < f.seq)).filter
        (accepted fromStr w.channel.approvedParties)).map RelayFrame.inbound

structure Reads (start : ℕ) (w : World) : Prop where
  ascending : Log.Ascending RelayFrame.seq w.held
  start_le : start ≤ w.channel.lastSeq
  once : ReadOnce fromStr start w
  closed : w.channel.stream = false → w.channel.parser = {}
  opened : w.channel.stream = true → ∃ done part read, w.received = encode done ++ part ∧ (part = [] ∨ Partial part) ∧
    w.channel.parser = parserAt done part ∧ eventsAfter fromStr [] done = read.map .frame ∧
    read <+: w.held.filter (fun f => w.since < f.seq) ∧ w.channel.lastSeq = Log.cursor RelayFrame.seq w.since read

lemma cut_unique {done done' : List Char} {part part' : Bytes} (h : encode done ++ part = encode done' ++ part')
    (hpart : part = [] ∨ Partial part) (hpart' : part' = [] ∨ Partial part') : done = done' ∧ part = part' := by
  have hlength := congrArg readyBytes h
  rw [readyBytes_cut done hpart, readyBytes_cut done' hpart'] at hlength
  obtain ⟨hdone, hrest⟩ := List.append_inj h hlength
  refine ⟨?_, hrest⟩
  rw [← fromUtf8Lossy_encode done, hdone, fromUtf8Lossy_encode]

section Absorbing

variable {fromStr} {now : Instant}

lemma absorbEvent_frame (c : RelayChannel) (f : RelayFrame) :
    RelayChannel.absorbEvent fromStr now c (.frame f) =
      { c with
        lastSeq := max c.lastSeq f.seq
        inbound := c.inbound ++ ([f].filter (accepted fromStr c.approvedParties)).map RelayFrame.inbound } := by
  simp only [RelayChannel.absorbEvent, accepted, List.filter_cons, List.filter_nil]
  by_cases hparty : c.approvedParties.contains f.sender = true
  · by_cases hkind : (unknownFrameKind fromStr f.frame).isSome = true
    · simp only [hparty, hkind, Bool.not_true, Bool.and_false, Bool.false_eq_true, if_false, if_true, List.map_nil,
        List.append_nil]
    · simp only [hparty, hkind, Bool.not_true, Bool.false_eq_true, if_false, if_true, Bool.true_and, Bool.not_false,
        List.map_cons, List.map_nil]
  · simp only [hparty, Bool.not_false, if_true, Bool.false_and, Bool.false_eq_true, if_false, List.map_nil,
      List.append_nil]

lemma absorb_frames (c : RelayChannel) (frames : List RelayFrame) :
    c.absorb fromStr now (frames.map .frame) =
      { c with
        lastSeq := Log.cursor RelayFrame.seq c.lastSeq frames
        inbound := c.inbound ++ (frames.filter (accepted fromStr c.approvedParties)).map RelayFrame.inbound } := by
  induction frames generalizing c with
  | nil => simp [RelayChannel.absorb]
  | cons f frames ih =>
      have hstep : c.absorb fromStr now ((f :: frames).map .frame) =
          (RelayChannel.absorbEvent fromStr now c (.frame f)).absorb fromStr now (frames.map .frame) := rfl
      rw [hstep, ih, absorbEvent_frame, ← List.singleton_append (l := frames), List.filter_append, List.map_append,
        ← List.append_assoc]
      rfl

lemma absorb_append (c : RelayChannel) (events more : List RelayStreamEvent) :
    c.absorb fromStr now (events ++ more) = (c.absorb fromStr now events).absorb fromStr now more := List.foldl_append

end Absorbing

lemma events_split {read sent : List RelayFrame} {fresh rest off : List RelayStreamEvent}
    (hoff : off = [] ∨ ∃ seq, off = [.finish seq])
    (h : read.map .frame ++ fresh ++ rest = sent.map RelayStreamEvent.frame ++ off) :
    ∃ frames, (fresh = frames.map .frame ∧ read ++ frames <+: sent) ∨
      (fresh = frames.map .frame ++ off ∧ read ++ frames = sent) := by
  induction read generalizing sent with
  | nil =>
      rw [List.map_nil, List.nil_append] at h
      rcases List.append_eq_append_iff.mp h with ⟨as, hsent, -⟩ | ⟨as, hfresh, hrest⟩
      · obtain ⟨frames, more, rfl, rfl, -⟩ := List.map_eq_append_iff.mp hsent
        exact ⟨frames, .inl ⟨rfl, List.prefix_append _ _⟩⟩
      · rcases hoff with rfl | ⟨seq, rfl⟩
        · obtain ⟨rfl, rfl⟩ := List.append_eq_nil_iff.mp hrest.symm
          exact ⟨sent, .inr ⟨by simpa using hfresh, rfl⟩⟩
        · cases as with
          | nil => exact ⟨sent, .inl ⟨by simpa using hfresh, List.prefix_rfl⟩⟩
          | cons e as =>
              simp only [List.cons_append, List.cons.injEq, List.nil_eq, List.append_eq_nil_iff] at hrest
              obtain ⟨rfl, rfl, rfl⟩ := hrest
              exact ⟨sent, .inr ⟨hfresh, rfl⟩⟩
  | cons f read ih =>
      cases sent with
      | nil =>
          rcases hoff with rfl | ⟨seq, rfl⟩ <;> simp at h
      | cons g sent =>
          simp only [List.map_cons, List.cons_append, List.cons.injEq, RelayStreamEvent.frame.injEq] at h
          obtain ⟨rfl, h⟩ := h
          obtain ⟨frames, ⟨rfl, hsent⟩ | ⟨rfl, rfl⟩⟩ := ih h
          · exact ⟨frames, .inl ⟨rfl, (List.prefix_cons_inj f).mpr hsent⟩⟩
          · exact ⟨frames, .inr ⟨rfl, rfl⟩⟩

section Steps

variable {fromStr parseUrl} {start : ℕ} {w : World} {c : RelayChannel}

/-- Two channels that stand at the same place of the mailbox. -/
structure SamePlace (c d : RelayChannel) : Prop where
  stream : d.stream = c.stream
  parser : d.parser = c.parser
  lastSeq : d.lastSeq = c.lastSeq
  approvedParties : d.approvedParties = c.approvedParties

lemma takeInbound_spec (c : RelayChannel) :
    c.takeInbound.2.toList ++ c.takeInbound.1.inbound = c.inbound ∧ SamePlace c c.takeInbound.1 := by
  unfold RelayChannel.takeInbound
  split
  · next hempty => exact ⟨by simp [hempty], rfl, rfl, rfl, rfl⟩
  · next hcons => exact ⟨by simp [hcons], rfl, rfl, rfl, rfl⟩

lemma Reads.of_samePlace (h : Reads fromStr start w) {d : RelayChannel} {frames : List Inbound}
    (hplace : SamePlace w.channel d) (hframes : frames ++ d.inbound = w.channel.inbound) :
    Reads fromStr start { w with channel := d, handed := w.handed ++ frames } where
  ascending := h.ascending
  start_le := by simpa [hplace.lastSeq] using h.start_le
  once := by
    have honce := h.once
    rw [ReadOnce, ← hframes, ← List.append_assoc, ← hplace.lastSeq, ← hplace.approvedParties] at honce
    exact honce
  closed := by
    intro hclosed
    rw [hplace.parser]
    exact h.closed (hplace.stream ▸ hclosed)
  opened := by
    intro hopen
    obtain ⟨done, part, read, hreceived, hpart, hparser, hread⟩ := h.opened (hplace.stream ▸ hopen)
    exact ⟨done, part, read, hreceived, hpart, hplace.parser.trans hparser, by rwa [hplace.lastSeq]⟩

lemma Reads.of_closed (h : Reads fromStr start w) {d : RelayChannel} {since : ℕ} {received : Bytes}
    (hstream : d.stream = false) (hparser : d.parser = {}) (hseq : d.lastSeq = w.channel.lastSeq)
    (hroster : d.approvedParties = w.channel.approvedParties) (hinbound : d.inbound = w.channel.inbound) :
    Reads fromStr start { w with channel := d, since := since, received := received } where
  ascending := h.ascending
  start_le := by simpa [hseq] using h.start_le
  once := by
    have honce := h.once
    rw [ReadOnce, ← hseq, ← hroster, ← hinbound] at honce
    exact honce
  closed _ := hparser
  opened hopen := by simp [hstream] at hopen

lemma Reads.window_fresh (h : Reads fromStr start w) {read fresh : List RelayFrame} {n : ℕ}
    (hread : read ++ fresh <+: w.held.filter (fun f => w.since < f.seq))
    (hseq : w.channel.lastSeq = Log.cursor RelayFrame.seq w.since read)
    (hn : n = Log.cursor RelayFrame.seq w.channel.lastSeq fresh) :
    fresh = Log.window RelayFrame.seq w.channel.lastSeq n w.held := by
  have hold := Log.eq_window_of_prefix h.ascending ((List.prefix_append read fresh).trans hread)
  have hnew := Log.eq_window_of_prefix h.ascending hread
  rw [Log.cursor_append, ← hseq, ← hn] at hnew
  rw [← hseq] at hold
  have hlow : w.since ≤ w.channel.lastSeq := hseq ▸ Log.le_cursor _ _
  have hhigh : w.channel.lastSeq ≤ n := hn ▸ Log.le_cursor _ _
  rw [← Log.window_append_window h.ascending hlow hhigh, ← hold] at hnew
  exact List.append_cancel_left hnew

lemma Reads.once_fresh (h : Reads fromStr start w) {n : ℕ} (hn : w.channel.lastSeq ≤ n) :
    w.handed ++ (w.channel.inbound ++ ((Log.window RelayFrame.seq w.channel.lastSeq n w.held).filter
      (accepted fromStr w.channel.approvedParties)).map RelayFrame.inbound) =
    ((Log.window RelayFrame.seq start n w.held).filter
      (accepted fromStr w.channel.approvedParties)).map RelayFrame.inbound := by
  rw [← List.append_assoc, h.once, ← List.map_append, ← List.filter_append,
    Log.window_append_window h.ascending h.start_le hn]

lemma noteStreamProgress_eq (c : RelayChannel) (now : Instant) (deliveredEvent : Bool) :
    ∃ n, c.noteStreamProgress now deliveredEvent = { c with streamFailures := n } := by
  unfold RelayChannel.noteStreamProgress
  split
  · exact ⟨0, rfl⟩
  · exact ⟨c.streamFailures, rfl⟩

lemma pushBytes_served (fromStr : List Char → Option Json) {done text : List Char} {part chunk later : Bytes}
    (hpart : part = [] ∨ Partial part)
    (htext : encode text = encode done ++ part ++ chunk ++ later) (hfit : Fits text)
    (hcuts : splitsLineEnd [encode done ++ part, chunk, later] = false) :
    ∃ more part' rest, (part' = [] ∨ Partial part') ∧ encode done ++ part ++ chunk = encode (done ++ more) ++ part' ∧
      SseParser.pushBytes fromStr (parserAt done part) chunk = (parserAt (done ++ more) part',
        eventsAfter fromStr done more) ∧
      eventsAfter fromStr [] (done ++ more) = eventsAfter fromStr [] done ++ eventsAfter fromStr done more ∧
      eventsAfter fromStr [] text = eventsAfter fromStr [] (done ++ more) ++ rest := by
  have hsplit : encode text = (encode done ++ part) ++ (chunk ++ later) := by rw [htext, List.append_assoc _ chunk]
  obtain ⟨front, behind, part₀, rfl, hfront, hbehind, hpart₀⟩ := cut_encode hsplit
  obtain ⟨rfl, rfl⟩ := cut_unique hfront hpart hpart₀
  rw [← List.append_assoc] at hbehind
  obtain ⟨more, rest, part', rfl, hmore, hrest, hpart'⟩ := cut_encode hbehind
  simp only [splitsLineEnd, List.flatten_cons, List.flatten_nil, List.append_nil, Bool.or_false,
    Bool.or_eq_false_iff, Bool.and_eq_false_iff, beq_eq_false_iff_ne] at hcuts
  obtain ⟨hbefore, hafter, -⟩ := hcuts
  -- the cut before this piece
  have hcut : LineEndKept done (more ++ rest) := by
    rintro ⟨hlast, hhead⟩
    have hleft : encode (more ++ rest) = part ++ (chunk ++ later) := by rw [hbehind, List.append_assoc]
    obtain ⟨rfl, hlf⟩ := head_of_cut hleft hpart hhead
    rw [List.append_nil, encode_getLast hlast] at hbefore
    exact hbefore.elim (absurd rfl) (absurd hlf)
  have hnext : LineEndKept (done ++ more) rest :=
    lineEndKept_next hmore hpart hpart' hrest hcut (by tauto)
  have hempty : ∀ text, LineEndKept [] text := by simp [LineEndKept]
  refine ⟨more, part', eventsAfter fromStr (done ++ more) rest, hpart', ?_, ?_, ?_, ?_⟩
  · rw [List.append_assoc, hmore, encode_append, List.append_assoc]
  · exact pushBytes_parserAt fromStr hmore hpart' hcut.take hnext (by rwa [List.append_assoc])
  · rw [eventsAfter_append fromStr (hempty done) hcut.take, List.nil_append]
  · have hwhole := eventsAfter_append fromStr (hempty (done ++ more)) hnext
    rwa [List.nil_append, List.append_assoc] at hwhole

def absorbed (fromStr : List Char → Option Json) (c : RelayChannel) (now : Instant) (chunk : Bytes) : RelayChannel :=
  let c := { c with lastStreamRead := now }
  let (parser, events) := c.parser.pushBytes fromStr chunk
  ({ c with parser := parser }.noteStreamProgress now !events.isEmpty).absorb fromStr now events

lemma Reads.frames (h : Reads fromStr start w) (hopen : w.channel.stream = true) {read frames : List RelayFrame}
    (hread : read ++ frames <+: w.held.filter (fun f => w.since < f.seq))
    (hseq : w.channel.lastSeq = Log.cursor RelayFrame.seq w.since read) {done : List Char} {part : Bytes}
    (hpart : part = [] ∨ Partial part) (hevents : eventsAfter fromStr [] done = (read ++ frames).map .frame)
    (now : Instant) (n : ℕ) :
    Reads fromStr start { w with
      received := encode done ++ part
      channel := ({ w.channel with
        lastStreamRead := now, parser := parserAt done part, streamFailures := n }).absorb fromStr now
          (frames.map .frame) } := by
  have hfresh := h.window_fresh hread hseq rfl
  have hle : w.channel.lastSeq ≤ Log.cursor RelayFrame.seq w.channel.lastSeq frames := Log.le_cursor _ _
  have honce := h.once_fresh hle
  rw [← hfresh] at honce
  rw [absorb_frames]
  refine ⟨h.ascending, h.start_le.trans (Log.le_cursor _ _), honce, ?_, ?_⟩
  · intro hclosed
    simp only [hopen, Bool.true_eq_false] at hclosed
  · intro _
    refine ⟨done, part, read ++ frames, rfl, hpart, rfl, hevents, hread, ?_⟩
    rw [Log.cursor_append, ← hseq]

lemma Reads.signOff (h : Reads fromStr start w) {read frames : List RelayFrame} {seq : Option ℕ}
    (hread : read ++ frames <+: w.held.filter (fun f => w.since < f.seq))
    (hseq : w.channel.lastSeq = Log.cursor RelayFrame.seq w.since read)
    (hskip : ∀ k ∈ seq, ∀ f ∈ w.held, w.since < f.seq → f ∉ read ++ frames → k < f.seq)
    (now : Instant) (parser : SseParser) (n : ℕ) (received : Bytes) :
    Reads fromStr start { w with
      received := received
      channel := ({ w.channel with lastStreamRead := now, parser := parser, streamFailures := n }).absorb fromStr now
        (frames.map RelayStreamEvent.frame ++ [RelayStreamEvent.finish seq]) } := by
  have hle : w.channel.lastSeq ≤ Log.cursor RelayFrame.seq w.channel.lastSeq frames := Log.le_cursor _ _
  have hsince : w.since ≤ w.channel.lastSeq := hseq ▸ Log.le_cursor _ _
  have hfresh := h.window_fresh hread hseq rfl
  -- the frames up to wherever the sign-off puts the cursor
  have honce : ∀ m, Log.cursor RelayFrame.seq w.channel.lastSeq frames ≤ m →
      (∀ f ∈ w.held, Log.cursor RelayFrame.seq w.channel.lastSeq frames < f.seq → m < f.seq) → w.handed ++
        (w.channel.inbound ++ (frames.filter (accepted fromStr w.channel.approvedParties)).map RelayFrame.inbound) =
        ((Log.window RelayFrame.seq start m w.held).filter (accepted fromStr w.channel.approvedParties)).map
          RelayFrame.inbound := by
    intro m hm hnone
    have hempty : Log.window RelayFrame.seq (Log.cursor RelayFrame.seq w.channel.lastSeq frames) m w.held = [] := by
      apply List.filter_eq_nil_iff.mpr
      intro f hf
      have hlater := hnone f hf
      simp only [decide_eq_true_eq]
      omega
    have hall := h.once_fresh (hle.trans hm)
    rwa [← Log.window_append_window h.ascending hle hm, hempty, List.append_nil, ← hfresh] at hall
  have hcursor : Log.cursor RelayFrame.seq w.channel.lastSeq frames = Log.cursor RelayFrame.seq w.since
      (read ++ frames) := by
    rw [Log.cursor_append, ← hseq]
  rw [absorb_append, absorb_frames]
  cases seq with
  | none =>
      refine ⟨h.ascending, h.start_le.trans hle, ?_, fun _ => rfl, nofun⟩
      exact honce _ le_rfl fun _ _ => id
  | some k =>
      refine ⟨h.ascending, h.start_le.trans (hle.trans (le_max_left _ k)), ?_, fun _ => rfl, nofun⟩
      refine honce _ (le_max_left _ k) fun f hf hlater => max_lt hlater (hskip k rfl f hf (by omega) ?_)
      intro hmem
      have hread : f.seq ≤ Log.cursor RelayFrame.seq w.since (read ++ frames) := Log.mem_le_cursor hmem
      omega

lemma Reads.bytes (h : Reads fromStr start w) (hopen : w.channel.stream = true) {text : List Char} {chunk later : Bytes}
    (htext : encode text = w.received ++ chunk ++ later) (hsends : Sends fromStr w.held w.since text) (hfit : Fits text)
    (hcuts : splitsLineEnd [w.received, chunk, later] = false) (now : Instant) :
    Reads fromStr start { w with
      channel := absorbed fromStr w.channel now chunk, received := w.received ++ chunk } := by
  obtain ⟨done, part, read, hreceived, hpart, hparser, hevents, hread, hseq⟩ := h.opened hopen
  rw [hreceived] at htext hcuts
  obtain ⟨more, part', rest, hpart', hbytes, hpush, hsofar, hwhole⟩ :=
    pushBytes_served fromStr hpart htext hfit hcuts
  obtain ⟨n, hprogress⟩ := noteStreamProgress_eq
    { w.channel with lastStreamRead := now, parser := parserAt (done ++ more) part' } now
    (!(eventsAfter fromStr done more).isEmpty)
  have hchannel : absorbed fromStr w.channel now chunk =
      ({ w.channel with lastStreamRead := now, parser := parserAt (done ++ more) part', streamFailures := n }).absorb
        fromStr now (eventsAfter fromStr done more) := by
    simp only [absorbed, hparser, hpush]
    rw [hprogress]
  rw [hevents] at hsofar
  rw [hsofar] at hwhole
  rw [hchannel, hreceived, hbytes]
  obtain ⟨sent, hsent, hall | ⟨seq, hall, hskip⟩⟩ := hsends
  · rw [hall, ← List.append_nil (sent.map _)] at hwhole
    obtain ⟨frames, ⟨hfresh, hmore⟩ | ⟨hfresh, rfl⟩⟩ := events_split (.inl rfl) hwhole.symm
    · rw [hfresh, ← List.map_append] at hsofar
      rw [hfresh]
      exact h.frames hopen (hmore.trans hsent) hseq hpart' hsofar now n
    · rw [List.append_nil] at hfresh
      rw [hfresh, ← List.map_append] at hsofar
      rw [hfresh]
      exact h.frames hopen hsent hseq hpart' hsofar now n
  · rw [hall] at hwhole
    obtain ⟨frames, ⟨hfresh, hmore⟩ | ⟨hfresh, rfl⟩⟩ := events_split (.inr ⟨seq, rfl⟩) hwhole.symm
    · rw [hfresh, ← List.map_append] at hsofar
      rw [hfresh]
      exact h.frames hopen (hmore.trans hsent) hseq hpart' hsofar now n
    · rw [hfresh]
      exact h.signOff hsent hseq hskip now _ n _

def World.readTurn (fromStr : List Char → Option Json) (w : World) (later : Instant) (read : StreamRead) : World :=
  { w with
    channel := (w.channel.readStream fromStr later read).1
    handed := w.handed ++ ((w.channel.readStream fromStr later read).2.toOption.join).toList
    received := w.received ++ read.chunk }

lemma noteStreamFailure_spec (c : RelayChannel) (error : WorkerError) :
    (c.noteStreamFailure error).2.toOption.join = none ∧ ∃ n,
      (c.noteStreamFailure error).1 = { c with streamFailures := n } := by
  refine ⟨?_, _, rfl⟩
  simp only [RelayChannel.noteStreamFailure]
  split <;> rfl

lemma Reads.restart (h : Reads fromStr start w) (later : Instant) (error : WorkerError) (read : StreamRead)
    (hturn : w.channel.readStream fromStr later read =
      (w.channel.restartStream later streamReopenDelay).noteStreamFailure error) :
    Reads fromStr start (w.readTurn fromStr later read) := by
  obtain ⟨hnone, n, hchannel⟩ := noteStreamFailure_spec (w.channel.restartStream later streamReopenDelay) error
  simp only [World.readTurn, hturn, hnone, hchannel, Option.toList_none, List.append_nil]
  exact h.of_closed rfl rfl rfl rfl rfl

lemma Reads.readTurn (h : Reads fromStr start w) (hopen : w.channel.stream = true) (later : Instant) (read : StreamRead)
    (hserved : ∀ chunk, read = .bytes chunk → ∃ text after, encode text = w.received ++ chunk ++ after ∧
      Sends fromStr w.held w.since text ∧ Fits text ∧ splitsLineEnd [w.received, chunk, after] = false) :
    Reads fromStr start (w.readTurn fromStr later read) := by
  cases read with
  | quiet =>
      by_cases hidle : saturatingDurationSince later w.channel.lastStreamRead < streamIdleTimeout
      · simp only [World.readTurn, RelayChannel.readStream, if_pos hidle, StreamRead.chunk, List.append_nil]
        simpa [Except.toOption] using h
      · exact h.restart later _ _ (if_neg hidle)
  | bytes chunk =>
      obtain ⟨text, after, htext, hsends, hfit, hcuts⟩ := hserved chunk rfl
      have hread := h.bytes hopen htext hsends hfit hcuts later
      obtain ⟨hframes, hplace⟩ := takeInbound_spec (absorbed fromStr w.channel later chunk)
      exact hread.of_samePlace hplace hframes
  | ended => exact h.restart later _ _ rfl
  | failed error => exact h.restart later error _ rfl

lemma Reads.post (h : Reads fromStr start w) {f : RelayFrame} (hlast : ∀ g ∈ w.held, g.seq < f.seq)
    (hnew : w.channel.lastSeq < f.seq) : Reads fromStr start { w with held := w.held ++ [f] } where
  ascending := by
    apply List.pairwise_append.mpr
    exact ⟨h.ascending, List.pairwise_singleton _ _, by simpa using hlast⟩
  start_le := h.start_le
  once := by
    have honce := h.once
    rw [ReadOnce] at honce ⊢
    rwa [Log.window_concat hnew]
  closed := h.closed
  opened := by
    intro hopen
    obtain ⟨done, part, read, hreceived, hpart, hparser, hevents, hread, hseq⟩ := h.opened hopen
    refine ⟨done, part, read, hreceived, hpart, hparser, hevents, hread.trans ?_, hseq⟩
    rw [List.filter_append]
    exact List.prefix_append _ _

lemma Reads.opening (h : Reads fromStr start w) (hclosed : w.channel.stream = false) (now : Instant) :
    Reads fromStr start { w with
      channel := { w.channel with stream := true, lastStreamRead := now, streamOpenedAt := now }
      since := w.channel.lastSeq, received := [] } where
  ascending := h.ascending
  start_le := h.start_le
  once := h.once
  closed := nofun
  opened _ := ⟨[], [], [], rfl, .inl rfl, h.closed hclosed, rfl, List.nil_prefix, rfl⟩

lemma Reads.rotate (h : Reads fromStr start w) {next : RelayChannel} (hstream : next.stream = false)
    (hparser : next.parser = {}) (hroster : next.approvedParties = w.channel.approvedParties)
    (hadopts : (next.adoptRoutingFrom parseUrl w.channel).2.2 = true) :
    Reads fromStr start { w with channel := (next.adoptRoutingFrom parseUrl w.channel).1 } := by
  unfold RelayChannel.adoptRoutingFrom at hadopts ⊢
  split at hadopts
  · simp at hadopts
  · next hdomain =>
      rw [if_neg hdomain]
      exact h.of_closed hstream hparser rfl hroster rfl

lemma Reads.recv (h : Reads fromStr start w) (now later : Instant) (opened : Option WorkerError) (read : StreamRead)
    (hserved : Faithful fromStr parseUrl (splitsLineEnd · = false) w (.recv now later opened read)) :
    Reads fromStr start (w.act fromStr parseUrl (.recv now later opened read)) := by
  have hchunks : ∀ v : World, w.asked now opened = v → v.channel.inbound = [] → v.channel.stream = true →
      ∀ chunk, read = .bytes chunk → ∃ text after, encode text = v.received ++ chunk ++ after ∧
        Sends fromStr v.held v.since text ∧ Fits text ∧ splitsLineEnd [v.received, chunk, after] = false := by
    rintro v rfl hempty hopen chunk rfl
    exact hserved hempty hopen
  rcases hinbound : w.channel.inbound with - | ⟨f, rest⟩
  · have htake : w.channel.takeInbound = (w.channel, none) := by simp [RelayChannel.takeInbound, hinbound]
    by_cases hopen : w.channel.stream = true
    · have hasked : w.asked now opened = w := by simp [World.asked, World.opens, hopen]
      have hturn := h.readTurn hopen later read (hchunks w hasked hinbound hopen)
      simpa [World.act, RelayChannel.recvText, htake, hopen, hasked, hinbound, World.readTurn] using hturn
    · rw [Bool.not_eq_true] at hopen
      have hidle : ∀ d : RelayChannel, SamePlace w.channel d → d.inbound = w.channel.inbound → ∀ since received,
          Reads fromStr start { w with channel := d, since := since, received := received } := by
        intro d hplace hqueue since received
        apply h.of_closed
        exacts [hplace.stream.trans hopen, hplace.parser.trans (h.closed hopen), hplace.lastSeq, hplace.approvedParties,
          hqueue]
      by_cases hwait : now < w.channel.reopenNotBefore
      · simpa [World.act, RelayChannel.recvText, htake, hopen, hwait, Except.toOption] using
          hidle w.channel ⟨rfl, rfl, rfl, rfl⟩ rfl _ _
      · cases opened with
        | some error =>
            obtain ⟨hnone, n, hchannel⟩ := noteStreamFailure_spec
              { w.channel with reopenNotBefore := now + streamReopenDelay } error
            have hreply : w.channel.recvText fromStr now later (some error) read =
                ({ w.channel with reopenNotBefore := now + streamReopenDelay }).noteStreamFailure error := by
              simp only [RelayChannel.recvText, htake, hopen, hwait, if_false, Bool.false_eq_true,
                RelayChannel.openStream]
            simp only [World.act, hreply, hnone, hchannel, Option.toList_none, List.append_nil]
            apply hidle
            exacts [⟨rfl, rfl, rfl, rfl⟩, rfl]
        | none =>
            have hasked : w.asked now none = { w with
                channel := { w.channel with stream := true, lastStreamRead := now, streamOpenedAt := now }
                since := w.channel.lastSeq, received := [] } := by
              simp [World.asked, World.opens, hopen, hinbound, hwait]
            have hturn := (h.opening hopen now).readTurn rfl later read (hchunks _ hasked hinbound rfl)
            simpa [World.act, RelayChannel.recvText, htake, hopen, hwait, RelayChannel.openStream, hasked, hinbound,
              World.readTurn] using hturn
  · obtain ⟨hframes, hplace⟩ := takeInbound_spec w.channel
    obtain ⟨d, htake⟩ : ∃ d, w.channel.takeInbound = (d, some f) := by simp [RelayChannel.takeInbound, hinbound]
    have hasked : w.asked now opened = w := by simp [World.asked, World.opens, hinbound]
    have hnext := h.of_samePlace hplace hframes
    rw [htake] at hnext
    simpa [World.act, RelayChannel.recvText, htake, hasked, hinbound, Except.toOption] using hnext

lemma Reads.act (h : Reads fromStr start w) (t : Turn)
    (hfaithful : Faithful fromStr parseUrl (splitsLineEnd · = false) w t) :
    Reads fromStr start (w.act fromStr parseUrl t) := by
  cases t with
  | post f => exact h.post hfaithful.1 hfaithful.2
  | recv now later opened read => exact h.recv now later opened read hfaithful
  | rotate endpoints appId pluginId approvedParties now => exact h.rotate rfl rfl hfaithful.2 hfaithful.1

lemma Reads.readAll (h : Reads fromStr start w) : ReadAll fromStr start w := by
  intro hopen text hreceived hevents
  obtain ⟨done, part, read, hbytes, hpart, -, hread, -, hseq⟩ := h.opened hopen
  rw [hreceived, ← List.append_nil (encode text)] at hbytes
  obtain ⟨rfl, -⟩ := cut_unique hbytes (.inl rfl) hpart
  have hwhole : read = w.held.filter (fun f => w.since < f.seq) := by
    have hinjective : Function.Injective RelayStreamEvent.frame := fun f g => RelayStreamEvent.frame.inj
    exact hinjective.list_map (hread.symm.trans hevents)
  have hall : Log.window RelayFrame.seq start w.channel.lastSeq w.held = w.held.filter (fun f => start < f.seq) := by
    apply List.filter_congr
    intro f hf
    have hreached : f.seq ≤ w.channel.lastSeq := by
      rw [hseq]
      by_cases hsince : w.since < f.seq
      · exact Log.mem_le_cursor (by simpa [hwhole, hf] using hsince)
      · exact (Nat.le_of_not_lt hsince).trans (Log.le_cursor _ _)
    simp [hreached]
  rw [h.once, hall]

end Steps

/-- Over any faithful run whose stream pieces keep the line ends whole, the session is handed the frames for it that
the relay holds after the starting point, in order and once; and everything the relay holds once it was brought. -/
theorem frames_read_once (c : RelayChannel) (held : List RelayFrame) (hheld : Log.Ascending RelayFrame.seq held)
    (hqueue : c.inbound = []) (hstream : c.stream = false) (hparser : c.parser = {}) (turns : List Turn)
    (hfaithful : (carrier fromStr parseUrl).Along (Faithful fromStr parseUrl (splitsLineEnd · = false))
      ⟨held, c, [], c.lastSeq, []⟩ turns) :
    ReadOnce fromStr c.lastSeq ((carrier fromStr parseUrl).final ⟨held, c, [], c.lastSeq, []⟩ turns) ∧
      ReadAll fromStr c.lastSeq ((carrier fromStr parseUrl).final ⟨held, c, [], c.lastSeq, []⟩ turns) := by
  have hstart : Reads fromStr c.lastSeq ⟨held, c, [], c.lastSeq, []⟩ := by
    refine ⟨hheld, le_rfl, ?_, fun _ => hparser, ?_⟩
    · simp [ReadOnce, hqueue, Log.window_self]
    · intro hopen
      simp [hstream] at hopen
  have hreads := Machine.invariant (P := Reads fromStr c.lastSeq) (fun w t hfaithful h => h.act t hfaithful)
    hfaithful hstart
  exact ⟨hreads.once, hreads.readAll⟩

end Relay

instance (fromStr : List Char → Option Json) (start : ℕ) (w : World) : Decidable (ReadOnce fromStr start w) :=
  inferInstanceAs (Decidable (_ = _))

section Sample

def heartbeat : Json := .object [("kind", .string "lease_heartbeat")]

def envelope (n : ℕ) : Json :=
  .object [("frame", heartbeat), ("from", .string "mobile:a"), ("seq", .number (.ofNat n))]

/-- `serde_json::from_str` on the documents of the sample. -/
def sampleFromStr (text : List Char) : Option Json := [heartbeat, envelope 1, envelope 2].find? (·.print == text)

def sampleFrame (n : ℕ) : RelayFrame := ⟨n, "mobile:a", none, [], heartbeat.print⟩

def sampleChannel : RelayChannel := .replacement ⟨"c", "f", "s"⟩ "app" "plugin" ["mobile:a"] 0

def sampleText (lineEnd : String) : List Char :=
  ("event: frame" ++ lineEnd ++ "data: ").toList ++ (envelope 1).print ++ (lineEnd ++ lineEnd).toList ++
    ("event: frame" ++ lineEnd ++ "data: ").toList ++ (envelope 2).print ++ (lineEnd ++ lineEnd).toList

def sampleTurns (lineEnd : String) (n : ℕ) : List Turn :=
  [.recv 0 0 none (.bytes ((encode (sampleText lineEnd)).take n)),
    .recv 0 0 none (.bytes ((encode (sampleText lineEnd)).drop n))]

end Sample

set_option maxRecDepth 8000 in
/-- With the first line end cut in two, the first frame is passed over for good. -/
theorem cut_line_end_loses_frame :
    ¬∀ (fromStr : List Char → Option Json) (parseUrl : String → Option String) (c : RelayChannel)
      (held : List RelayFrame), Log.Ascending RelayFrame.seq held → c.inbound = [] → c.stream = false →
      c.parser = {} → ∀ turns : List Turn,
        (carrier fromStr parseUrl).Along (Faithful fromStr parseUrl fun _ => True) ⟨held, c, [], c.lastSeq, []⟩ turns →
          ReadOnce fromStr c.lastSeq ((carrier fromStr parseUrl).final ⟨held, c, [], c.lastSeq, []⟩ turns) := by
  intro h
  have honce := h sampleFromStr some sampleChannel [sampleFrame 1, sampleFrame 2] (by simp [Log.Ascending, sampleFrame])
    rfl rfl rfl (sampleTurns "\r\n" 13) ⟨?_, ?_, trivial⟩
  · exact absurd honce (by decide)
  · exact fun _ _ => ⟨sampleText "\r\n", (encode (sampleText "\r\n")).drop 13, by decide,
      ⟨[sampleFrame 1, sampleFrame 2], by decide, .inl (by decide)⟩, by decide, trivial⟩
  · exact fun _ _ => ⟨sampleText "\r\n", [], by decide,
      ⟨[sampleFrame 1, sampleFrame 2], by decide, .inl (by decide)⟩, by decide, trivial⟩

set_option maxRecDepth 8000 in
/-- The same stream cut inside a field. -/
theorem frames_read_once_in_two_pieces :
    ReadOnce sampleFromStr 0 ((carrier sampleFromStr some).final
      ⟨[sampleFrame 1, sampleFrame 2], sampleChannel, [], 0, []⟩ (sampleTurns "\r\n" 20)) :=
  (frames_read_once sampleFromStr some sampleChannel [sampleFrame 1, sampleFrame 2]
    (by simp [Log.Ascending, sampleFrame]) rfl rfl rfl (sampleTurns "\r\n" 20)
    ⟨fun _ _ => ⟨sampleText "\r\n", (encode (sampleText "\r\n")).drop 20, by decide,
        ⟨[sampleFrame 1, sampleFrame 2], by decide, .inl (by decide)⟩, by decide, by decide⟩,
      fun _ _ => ⟨sampleText "\r\n", [], by decide,
        ⟨[sampleFrame 1, sampleFrame 2], by decide, .inl (by decide)⟩, by decide, by decide⟩,
      trivial⟩).1

end Aokie.Plugin.Relay
