import Aokie.Lib.Framing
import Aokie.Msbc.H2

/-! The frames that are read off a byte stream do not depend on the chunks it comes in, and a stream of packets is
read back packet by packet. -/

namespace Aokie.Msbc

open Aokie.Lib Aokie.Lib.Framing

def IsSync (b0 b1 b2 : UInt8) : Prop := b2 = msbcSyncByte ∧ b0 = h2SyncByte0 ∧ isValidH2SequenceByte b1

lemma findSync_cons_of_sync {b0 b1 b2 : UInt8} (h : IsSync b0 b1 b2) (rest : Bytes) :
    findSync (b0 :: b1 :: b2 :: rest) = some 0 := by
  rw [findSync]
  exact if_pos h

lemma findSync_cons_of_not {b0 b1 b2 : UInt8} (h : ¬IsSync b0 b1 b2) (rest : Bytes) :
    findSync (b0 :: b1 :: b2 :: rest) = (findSync (b1 :: b2 :: rest)).map (· + 1) := by
  rw [findSync]
  exact if_neg h

lemma findSync_of_short {xs : Bytes} (h : xs.length < 3) : findSync xs = none := by
  match xs, h with
  | [], _ => rfl
  | [_], _ => rfl
  | [_, _], _ => rfl

lemma findSync_append {xs : Bytes} {i : ℕ} (h : findSync xs = some i) (more : Bytes) :
    findSync (xs ++ more) = some i := by
  induction xs generalizing i with
  | nil => simp [findSync] at h
  | cons b0 xs ih =>
      rcases xs with _ | ⟨b1, _ | ⟨b2, rest⟩⟩
      · simp [findSync] at h
      · simp [findSync] at h
      · by_cases hsync : IsSync b0 b1 b2
        · rw [findSync_cons_of_sync hsync] at h
          rw [← h]
          exact findSync_cons_of_sync hsync (rest ++ more)
        · rw [findSync_cons_of_not hsync] at h
          obtain ⟨j, hj, rfl⟩ := Option.map_eq_some_iff.mp h
          have hmore := ih hj
          simp only [List.cons_append] at hmore ⊢
          rw [findSync_cons_of_not hsync, hmore]
          rfl

lemma findSync_drop {xs : Bytes} (h : findSync xs = none) (more : Bytes) :
    findSync (xs ++ more) = (findSync (xs.drop (xs.length - 2) ++ more)).map (· + (xs.length - 2)) := by
  induction xs with
  | nil => simp
  | cons b0 xs ih =>
      rcases xs with _ | ⟨b1, _ | ⟨b2, rest⟩⟩
      · simp
      · simp
      · by_cases hsync : IsSync b0 b1 b2
        · rw [findSync_cons_of_sync hsync] at h
          cases h
        · rw [findSync_cons_of_not hsync, Option.map_eq_none_iff] at h
          have hrest := ih h
          have hlen : (b0 :: b1 :: b2 :: rest).length - 2 = ((b1 :: b2 :: rest).length - 2) + 1 := by simp
          rw [hlen, List.drop_succ_cons]
          simp only [List.cons_append] at hrest ⊢
          rw [findSync_cons_of_not hsync, hrest, Option.map_map]
          rfl

lemma findSync_spec {xs : Bytes} {i : ℕ} (h : findSync xs = some i) :
    i + 3 ≤ xs.length ∧ findSync (xs.drop i) = some 0 := by
  induction xs generalizing i with
  | nil => simp [findSync] at h
  | cons b0 xs ih =>
      rcases xs with _ | ⟨b1, _ | ⟨b2, rest⟩⟩
      · simp [findSync] at h
      · simp [findSync] at h
      · by_cases hsync : IsSync b0 b1 b2
        · have hfound := findSync_cons_of_sync hsync rest
          rw [hfound] at h
          obtain rfl := Option.some.inj h
          exact ⟨by simp, hfound⟩
        · rw [findSync_cons_of_not hsync] at h
          obtain ⟨j, hj, rfl⟩ := Option.map_eq_some_iff.mp h
          obtain ⟨hlen, hdrop⟩ := ih hj
          refine ⟨?_, hdrop⟩
          simp only [List.length_cons] at hlen ⊢
          omega

def nextPacket : Next UInt8 := fun buffer =>
  match findSync buffer with
  | none => none
  | some start =>
    if buffer.length < start + msbcH2PacketSize then none
    else some (buffer.take (start + msbcH2PacketSize), buffer.drop (start + msbcH2PacketSize))

def trimBuffer (buffer : Bytes) : Bytes :=
  match findSync buffer with
  | none => buffer.drop (buffer.length - 2)
  | some start => buffer.drop start

def packetOf (taken : Bytes) : Bytes := taken.drop (taken.length - msbcH2PacketSize)

lemma nextPacket_of_sync {buffer : Bytes} {start : ℕ} (hsync : findSync buffer = some start)
    (hlen : start + 60 ≤ buffer.length) :
    nextPacket buffer = some (buffer.take (start + 60), buffer.drop (start + 60)) := by
  simp only [nextPacket, hsync]
  exact if_neg (show ¬buffer.length < start + 60 by omega)

lemma nextPacket_of_short {buffer : Bytes} {start : ℕ} (hsync : findSync buffer = some start)
    (hlen : buffer.length < start + 60) : nextPacket buffer = none := by
  simp only [nextPacket, hsync]
  exact if_pos hlen

lemma nextPacket_eq_some {buffer taken rest : Bytes} (h : nextPacket buffer = some (taken, rest)) :
    ∃ start, findSync buffer = some start ∧ start + 60 ≤ buffer.length ∧
      taken = buffer.take (start + 60) ∧ rest = buffer.drop (start + 60) := by
  cases hsync : findSync buffer with
  | none => simp [nextPacket, hsync] at h
  | some start =>
      by_cases hlen : buffer.length < start + 60
      · rw [nextPacket_of_short hsync hlen] at h
        cases h
      · rw [nextPacket_of_sync hsync (by omega)] at h
        obtain ⟨rfl, rfl⟩ := Prod.mk.inj (Option.some.inj h)
        exact ⟨start, rfl, by omega, rfl, rfl⟩

lemma nextPacket_lawful : nextPacket.Lawful where
  splits := by
    intro buffer taken rest h
    obtain ⟨start, -, -, rfl, rfl⟩ := nextPacket_eq_some h
    exact (List.take_append_drop _ _).symm
  nonempty := by
    intro buffer taken rest h
    obtain ⟨start, -, hlen, rfl, rfl⟩ := nextPacket_eq_some h
    intro hnil
    have hzero : min (start + 60) buffer.length = 0 := by simpa using congrArg List.length hnil
    omega
  stable := by
    intro buffer taken rest h more
    obtain ⟨start, hsync, hlen, rfl, rfl⟩ := nextPacket_eq_some h
    have hmore : start + 60 ≤ (buffer ++ more).length := by
      rw [List.length_append]
      omega
    rw [nextPacket_of_sync (findSync_append hsync more) hmore, List.take_append_of_le_length hlen,
      List.drop_append_of_le_length hlen]

lemma nextPacket_shift {skipped kept : Bytes}
    (h : findSync (skipped ++ kept) = (findSync kept).map (· + skipped.length)) :
    nextPacket (skipped ++ kept) = (nextPacket kept).map (Prod.map (skipped ++ ·) id) := by
  cases hsync : findSync kept with
  | none =>
      rw [hsync] at h
      have hwhole : findSync (skipped ++ kept) = none := h
      simp [nextPacket, hsync, hwhole]
  | some start =>
      rw [hsync] at h
      have hwhole : findSync (skipped ++ kept) = some (start + skipped.length) := h
      have hlen : (skipped ++ kept).length = skipped.length + kept.length := List.length_append
      by_cases hshort : kept.length < start + 60
      · rw [nextPacket_of_short hsync hshort, nextPacket_of_short hwhole (by omega)]
        rfl
      · rw [nextPacket_of_sync hsync (by omega), nextPacket_of_sync hwhole (by omega)]
        have hcut : start + skipped.length + 60 = skipped.length + (start + 60) := by omega
        rw [hcut, List.take_length_add_append, List.drop_length_add_append]
        rfl

lemma nextPacket_resyncs : nextPacket.Resyncs trimBuffer packetOf where
  lawful := nextPacket_lawful
  trims := by
    intro buffer hnone
    cases hsync : findSync buffer with
    | none =>
        refine ⟨buffer.take (buffer.length - 2), ?_, ?_⟩
        · simp [trimBuffer, hsync]
        · intro more
          have hshift := findSync_drop hsync more
          have hlen : (buffer.take (buffer.length - 2)).length = buffer.length - 2 := by simp
          have hsplit : buffer ++ more = buffer.take (buffer.length - 2) ++ (buffer.drop
              (buffer.length - 2) ++ more) := by
            rw [← List.append_assoc, List.take_append_drop]
          simp only [trimBuffer, hsync]
          rw [hsplit] at hshift ⊢
          apply nextPacket_shift
          rw [hlen, hshift]
    | some start =>
        obtain ⟨hlen, hdrop⟩ := findSync_spec hsync
        refine ⟨buffer.take start, ?_, ?_⟩
        · simp [trimBuffer, hsync]
        · intro more
          have hsplit : buffer ++ more = buffer.take start ++ (buffer.drop start ++ more) := by
            rw [← List.append_assoc, List.take_append_drop]
          simp only [trimBuffer, hsync]
          rw [hsplit]
          apply nextPacket_shift
          rw [← hsplit, findSync_append hsync, findSync_append hdrop, List.length_take]
          simp
          omega
  emits := by
    intro buffer taken rest h skipped
    obtain ⟨start, -, hlen, rfl, -⟩ := nextPacket_eq_some h
    have htaken : (buffer.take (start + 60)).length = start + 60 := by simp [hlen]
    have hcut : (skipped ++ buffer.take (start + 60)).length - 60 = skipped.length + (start + 60 - 60) := by
      rw [List.length_append, htaken]
      omega
    rw [packetOf, packetOf, msbcH2PacketSize, hcut, List.drop_length_add_append, htaken]

lemma nextPacket_none_trimBuffer {buffer : Bytes} (h : nextPacket buffer = none) : (trimBuffer buffer).length < 60 := by
  cases hsync : findSync buffer with
  | none =>
      simp only [trimBuffer, hsync, List.length_drop]
      omega
  | some start =>
      by_contra hlong
      simp only [trimBuffer, hsync, List.length_drop] at hlong
      rw [nextPacket_of_sync hsync (by omega)] at h
      cases h

namespace MsbcStreamFramer

variable {f : MsbcStreamFramer}

lemma nextFrame_of_none (h : nextPacket f.buffer = none) : f.nextFrame = (⟨trimBuffer f.buffer⟩, none) := by
  by_cases hshort : f.buffer.length < 3
  · have htrim : trimBuffer f.buffer = f.buffer := by
      simp only [trimBuffer, findSync_of_short hshort]
      rw [Nat.sub_eq_zero_of_le (by omega), List.drop_zero]
    rw [nextFrame, if_pos hshort, htrim]
  · rw [nextFrame, if_neg hshort]
    cases hsync : findSync f.buffer with
    | none => simp only [trimBuffer, hsync]
    | some start =>
        have hlen : (f.buffer.drop start).length < 60 := by
          have htrim := nextPacket_none_trimBuffer h
          simpa only [trimBuffer, hsync] using htrim
        simp only [trimBuffer, hsync]
        exact if_pos hlen

lemma nextFrame_of_some {taken rest : Bytes} (h : nextPacket f.buffer = some (taken, rest)) :
    f.nextFrame = (⟨rest⟩, some (packetOf taken)) := by
  obtain ⟨start, hsync, hlen, rfl, rfl⟩ := nextPacket_eq_some h
  have htaken : (f.buffer.take (start + 60)).length - 60 = start := by
    rw [List.length_take]
    omega
  have hpacket : packetOf (f.buffer.take (start + 60)) = (f.buffer.drop start).take 60 := by
    rw [packetOf, msbcH2PacketSize, htaken, List.drop_take, Nat.add_sub_cancel_left]
  have hlong : ¬(f.buffer.drop start).length < 60 := by
    rw [List.length_drop]
    omega
  rw [nextFrame, if_neg (by omega), hpacket, ← List.drop_drop]
  simp only [hsync]
  exact if_neg hlong

lemma framesFrom_eq_drain {fuel : ℕ} (hfuel : f.buffer.length < fuel) :
    framesFrom fuel f = (⟨trimBuffer (drain nextPacket f.buffer).2⟩, (drain nextPacket f.buffer).1.map packetOf) := by
  induction fuel generalizing f with
  | zero => omega
  | succ fuel ih =>
      cases hnext : nextPacket f.buffer with
      | none =>
          rw [framesFrom, nextFrame_of_none hnext, drain_of_none hnext]
          rfl
      | some cut =>
          obtain ⟨taken, rest⟩ := cut
          have hlt := nextPacket_lawful.length_lt hnext
          have hrest := ih (f := ⟨rest⟩) (show rest.length < fuel by omega)
          rw [framesFrom, nextFrame_of_some hnext, drain_of_some nextPacket_lawful hnext]
          simp only [hrest, Prod.map_apply, Prod.map_fst, Prod.map_snd, List.map_cons, id_eq]

lemma feed_eq_deliver {chunk : Bytes} (hheld : f.buffer.length < 60) (hchunk : chunk.length ≤ 540) :
    f.feed chunk = ((deliver nextPacket trimBuffer packetOf f.buffer chunk).map MsbcStreamFramer.mk id) := by
  have hpush : f.push chunk = ⟨f.buffer ++ chunk⟩ := by
    have hfits : ¬maxBuffered < (f.buffer ++ chunk).length := by
      rw [List.length_append, maxBuffered, msbcH2PacketSize]
      omega
    rw [push]
    exact if_neg hfits
  rw [feed, hpush, frames, framesFrom_eq_drain (Nat.lt_succ_self _)]
  rfl

def framesOf (chunks : List Bytes) : List Bytes := (Machine.collect feed new chunks).2

lemma collect_feed_eq (chunks : List Bytes) (hchunks : ∀ chunk ∈ chunks, chunk.length ≤ 540)
    (hheld : f.buffer.length < 60) : (Machine.collect feed f chunks).2 =
      (Machine.collect (deliver nextPacket trimBuffer packetOf) f.buffer chunks).2 := by
  induction chunks generalizing f with
  | nil => rfl
  | cons chunk chunks ih =>
      obtain ⟨hchunk, hrest⟩ := List.forall_mem_cons.mp hchunks
      have hfeed := feed_eq_deliver hheld hchunk
      have hnext : (f.feed chunk).1.buffer = (deliver nextPacket trimBuffer packetOf f.buffer chunk).1 := by
        rw [hfeed]
        rfl
      have hframes : (f.feed chunk).2 = (deliver nextPacket trimBuffer packetOf f.buffer chunk).2 := by
        rw [hfeed]
        rfl
      have hsmall : (f.feed chunk).1.buffer.length < 60 := by
        rw [hnext]
        exact nextPacket_none_trimBuffer (drain_next_eq_none nextPacket_lawful _)
      rw [Machine.collect_cons, Machine.collect_cons, Prod.map_snd, Prod.map_snd, ih hrest hsmall, hnext, hframes]

lemma framesOf_eq_drain {chunks : List Bytes} (hchunks : ∀ chunk ∈ chunks, chunk.length ≤ 540) :
    framesOf chunks = (drain nextPacket chunks.flatten).1.map packetOf := by
  have hcollect := collect_feed_eq (f := new) chunks hchunks (by decide)
  have hdeliver := nextPacket_resyncs.collect_deliver chunks (show nextPacket [] = none from rfl)
  rw [framesOf, hcollect]
  exact hdeliver

end MsbcStreamFramer

def IsPacket (packet : Bytes) : Prop := packet.length = 60 ∧ findSync packet = some 0

lemma drain_packets {packets : List Bytes} {part : Bytes} (hpackets : ∀ packet ∈ packets, IsPacket packet)
    (hpart : part.length < 60) : (drain nextPacket (packets.flatten ++ part)).1.map packetOf = packets := by
  induction packets with
  | nil =>
      have hnone : nextPacket part = none := by
        cases hsync : findSync part with
        | none => simp only [nextPacket, hsync]
        | some start => exact nextPacket_of_short hsync (by omega)
      rw [List.flatten_nil, List.nil_append, drain_of_none hnone]
      rfl
  | cons packet packets ih =>
      obtain ⟨⟨hlen, hsync⟩, hrest⟩ := List.forall_mem_cons.mp hpackets
      rw [List.flatten_cons, List.append_assoc]
      have hnext : nextPacket (packet ++ (packets.flatten ++ part)) = some (packet, packets.flatten ++ part) := by
        rw [nextPacket_of_sync (findSync_append hsync _) (by rw [List.length_append]; omega), Nat.zero_add, ← hlen,
          List.take_left, List.drop_left]
      have hpacket : packetOf packet = packet := by rw [packetOf, msbcH2PacketSize, hlen, Nat.sub_self, List.drop_zero]
      rw [drain_of_some nextPacket_lawful hnext]
      simp only [Prod.map_fst, List.map_cons, hpacket, ih hrest]

section Packager

variable {codec : MsbcEncoder} {σ : Type} (nextPcm : σ → σ × Pcm)

def produce : ℕ → H2Encoder codec → σ → (H2Encoder codec × σ) × List Bytes
  | 0, e, source => ((e, source), [])
  | n + 1, e, source =>
    let (source, pcm) := nextPcm source
    let (e, h2) := e.encodePacket pcm
    (produce n e source).map id (h2 :: ·)

lemma produce_add (n m : ℕ) (e : H2Encoder codec) (source : σ) :
    produce nextPcm (n + m) e source =
      (produce nextPcm m (produce nextPcm n e source).1.1 (produce nextPcm n e source).1.2).map id
        ((produce nextPcm n e source).2 ++ ·) := by
  induction n generalizing e source with
  | zero =>
      rw [Nat.zero_add]
      rfl
  | succ n ih =>
      rw [Nat.succ_add]
      simp only [produce, ih]
      rfl

lemma produce_length (n : ℕ) (e : H2Encoder codec) (source : σ) : (produce nextPcm n e source).2.length = n := by
  induction n generalizing e source with
  | zero => rfl
  | succ n ih => simp [produce, ih]

lemma encodePacket_isPacket {e : H2Encoder codec} (hseq : e.seq.toNat < 4) (pcm : Pcm) :
    IsPacket (e.encodePacket pcm).2 ∧ (e.encodePacket pcm).1.seq.toNat < 4 := by
  have hhead := codec.encode_head e.inner pcm
  have hframe : ∃ rest, (codec.encode e.inner pcm).2.toList = msbcSyncByte :: rest := by
    cases hlist : (codec.encode e.inner pcm).2.toList with
    | nil => simp [hlist] at hhead
    | cons first rest =>
        rw [hlist, List.head?_cons, Option.some.injEq] at hhead
        exact ⟨rest, by rw [hhead]⟩
  obtain ⟨rest, hrest⟩ := hframe
  have hvalid : ∀ n < 4, isValidH2SequenceByte (h2SyncByte1.getD n 0) := by decide
  refine ⟨⟨?_, ?_⟩, ?_⟩
  · simp [H2Encoder.encodePacket, msbcFrameSize]
  · simp only [H2Encoder.encodePacket, hrest, List.cons_append, List.nil_append]
    exact findSync_cons_of_sync ⟨rfl, rfl, hvalid _ hseq⟩ _
  · simp only [H2Encoder.encodePacket, UInt8.toNat_and]
    exact Nat.lt_of_le_of_lt Nat.and_le_right (by decide)

lemma produce_isPacket (n : ℕ) {e : H2Encoder codec} (hseq : e.seq.toNat < 4) (source : σ) :
    ∀ packet ∈ (produce nextPcm n e source).2, IsPacket packet := by
  induction n generalizing e source with
  | zero => simp [produce]
  | succ n ih =>
      obtain ⟨hpacket, hnext⟩ := encodePacket_isPacket hseq (nextPcm source).2
      simp only [produce, Prod.map_snd, List.forall_mem_cons]
      exact ⟨hpacket, ih hnext _⟩

lemma fill_eq {n fuel : ℕ} (p : MsbcStreamPackager codec) (source : σ) (hfuel : n ≤ p.pending.length + 60 * fuel)
    (hseq : p.encoder.seq.toNat < 4) :
    ∃ j, (MsbcStreamPackager.fill nextPcm n fuel p source) =
        (⟨(produce nextPcm j p.encoder source).1.1, p.pending ++ (produce nextPcm j p.encoder source).2.flatten⟩,
          (produce nextPcm j p.encoder source).1.2) ∧
      n ≤ (MsbcStreamPackager.fill nextPcm n fuel p source).1.pending.length := by
  induction fuel generalizing p source with
  | zero => exact ⟨0, by simp [MsbcStreamPackager.fill, produce], by simpa [MsbcStreamPackager.fill] using hfuel⟩
  | succ fuel ih =>
      rw [MsbcStreamPackager.fill]
      split_ifs with hshort
      · obtain ⟨hpacket, hnext⟩ := encodePacket_isPacket hseq (nextPcm source).2
        set encoded := p.encoder.encodePacket (nextPcm source).2 with hencoded
        obtain ⟨j, heq, hlen⟩ := ih ⟨encoded.1, p.pending ++ encoded.2⟩ (nextPcm source).1
          (by simp only [List.length_append, hpacket.1]; omega) hnext
        refine ⟨j + 1, ?_, hlen⟩
        simp only [heq, produce, ← hencoded, Prod.map_fst, Prod.map_snd, id_eq, List.flatten_cons, List.append_assoc]
      · exact ⟨0, by simp [produce], not_lt.mp hshort⟩

/-- The packager's calls, one after the other; what they pop is the stream. -/
def popRun : Machine (MsbcStreamPackager codec × σ) ℕ Bytes := fun r n => r.1.popBytes nextPcm r.2 n

lemma popRun_eq (r : MsbcStreamPackager codec × σ) (n : ℕ) (hseq : r.1.encoder.seq.toNat < 4) :
    ∃ j, (popRun nextPcm r n).2 ++ (popRun nextPcm r n).1.1.pending =
        r.1.pending ++ (produce nextPcm j r.1.encoder r.2).2.flatten ∧
      (popRun nextPcm r n).2.length = n ∧
      ((popRun nextPcm r n).1.1.encoder, (popRun nextPcm r n).1.2) = (produce nextPcm j r.1.encoder r.2).1 := by
  have hfuel : n ≤ r.1.pending.length + 60 * n := by omega
  obtain ⟨j, heq, hlen⟩ := fill_eq nextPcm r.1 r.2 hfuel hseq
  refine ⟨j, ?_, ?_, ?_⟩
  · simp only [popRun, MsbcStreamPackager.popBytes, heq, List.take_append_drop]
  · simp only [popRun, MsbcStreamPackager.popBytes, List.length_take]
    omega
  · simp only [popRun, MsbcStreamPackager.popBytes, heq]

lemma produce_seq (n : ℕ) {e : H2Encoder codec} (hseq : e.seq.toNat < 4) (source : σ) :
    (produce nextPcm n e source).1.1.seq.toNat < 4 := by
  induction n generalizing e source with
  | zero => exact hseq
  | succ n ih => exact ih (encodePacket_isPacket hseq (nextPcm source).2).2 _

lemma collect_popRun_eq (sizes : List ℕ) (r : MsbcStreamPackager codec × σ) (hseq : r.1.encoder.seq.toNat < 4) :
    ∃ j, ((popRun nextPcm).collect r sizes).2 ++ ((popRun nextPcm).collect r sizes).1.1.pending =
        r.1.pending ++ (produce nextPcm j r.1.encoder r.2).2.flatten ∧
      ((popRun nextPcm).collect r sizes).2.length = sizes.sum := by
  induction sizes generalizing r with
  | nil => exact ⟨0, by simp [produce]⟩
  | cons n sizes ih =>
      obtain ⟨i, hpop, hlen, hnext⟩ := popRun_eq nextPcm r n hseq
      obtain ⟨hencoder, hsource⟩ := Prod.mk.inj hnext
      obtain ⟨j, hrest, htotal⟩ := ih (popRun nextPcm r n).1 (hencoder ▸ produce_seq nextPcm i hseq r.2)
      rw [hencoder, hsource] at hrest
      refine ⟨i + j, ?_, ?_⟩
      · simp only [Machine.collect_cons, Prod.map_fst, Prod.map_snd, id_eq, List.append_assoc, hrest]
        rw [← List.append_assoc, hpop, produce_add]
        simp
      · simp only [Machine.collect_cons, Prod.map_snd, List.length_append, hlen, htotal, List.sum_cons]

lemma front_of_packets {packets : List Bytes} (hpackets : ∀ packet ∈ packets, packet.length = 60) {front back : Bytes}
    (h : front ++ back = packets.flatten) :
    front.length / 60 ≤ packets.length ∧
      ∃ part, part.length < 60 ∧ front = (packets.take (front.length / 60)).flatten ++ part := by
  induction packets generalizing front with
  | nil =>
      obtain ⟨rfl, -⟩ := List.append_eq_nil_iff.mp h
      exact ⟨by simp, [], by simp, by simp⟩
  | cons packet packets ih =>
      obtain ⟨hlen, hrest⟩ := List.forall_mem_cons.mp hpackets
      by_cases hshort : front.length < 60
      · rw [Nat.div_eq_of_lt hshort]
        exact ⟨by simp, front, hshort, by simp⟩
      · rw [List.flatten_cons] at h
        have hfront : front = packet ++ front.drop 60 := by
          have htake : front.take 60 = packet := by
            have hwhole : (front ++ back).take 60 = front.take 60 := List.take_append_of_le_length (by omega)
            rw [← hwhole, h, ← hlen, List.take_left]
          rw [← htake, List.take_append_drop]
        have hback : front.drop 60 ++ back = packets.flatten := by
          rw [← List.drop_append_of_le_length (by omega), h, ← hlen, List.drop_left]
        obtain ⟨hcount, part, hpart, heq⟩ := ih hrest hback
        have hdiv : front.length / 60 = (front.drop 60).length / 60 + 1 := by
          rw [List.length_drop]
          omega
        refine ⟨by rw [hdiv, List.length_cons]; omega, part, hpart, ?_⟩
        rw [hdiv, List.take_succ_cons, List.flatten_cons, List.append_assoc, ← heq]
        exact hfront

end Packager

/-- The frames that are read depend on the bytes alone, and of a packager's stream they are its packets. -/
theorem msbc_stream_framing_is_lossless :
    (∀ (codec : MsbcEncoder) (σ : Type) (nextPcm : σ → σ × Pcm) (source : σ) (sizes : List ℕ) (chunks : List Bytes),
      (∀ chunk ∈ chunks, chunk.length ≤ 540) →
      chunks.flatten = ((popRun nextPcm).collect ((.new : MsbcStreamPackager codec), source) sizes).2 →
      MsbcStreamFramer.framesOf chunks = (produce nextPcm (sizes.sum / 60) (.new : H2Encoder codec) source).2) ∧
    ∀ chunks chunks' : List Bytes, (∀ chunk ∈ chunks, chunk.length ≤ 540) → (∀ chunk ∈ chunks', chunk.length ≤ 540) →
      chunks.flatten = chunks'.flatten → MsbcStreamFramer.framesOf chunks = MsbcStreamFramer.framesOf chunks' := by
  constructor
  · intro codec σ nextPcm source sizes chunks hchunks hstream
    have hseq : (H2Encoder.new : H2Encoder codec).seq.toNat < 4 := by
      simp [H2Encoder.new]
    obtain ⟨j, hpopped, htotal⟩ := collect_popRun_eq nextPcm sizes ((.new : MsbcStreamPackager codec), source) hseq
    have hpackets := produce_isPacket nextPcm j hseq source
    obtain ⟨hcount, part, hpart, hfront⟩ := front_of_packets (fun packet hmem => (hpackets packet hmem).1) hpopped
    rw [htotal] at hcount hfront
    rw [produce_length] at hcount
    have hfirst : (produce nextPcm j (.new : H2Encoder codec) source).2.take (sizes.sum / 60) =
        (produce nextPcm (sizes.sum / 60) (.new : H2Encoder codec) source).2 := by
      obtain ⟨more, rfl⟩ := Nat.exists_eq_add_of_le hcount
      rw [produce_add]
      exact List.take_left' (produce_length ..)
    rw [MsbcStreamFramer.framesOf_eq_drain hchunks, hstream, hfront]
    change (drain nextPacket ((List.take (sizes.sum / 60)
      (produce nextPcm j (.new : H2Encoder codec) source).2).flatten ++
      part)).1.map packetOf = _
    rw [hfirst]
    exact drain_packets (produce_isPacket nextPcm _ hseq source) hpart
  · intro chunks chunks' hchunks hchunks' hsame
    rw [MsbcStreamFramer.framesOf_eq_drain hchunks, MsbcStreamFramer.framesOf_eq_drain hchunks', hsame]

def steadyCodec : MsbcEncoder where
  State := Unit
  new := ()
  encode _ _ := ((), ⟨⟨msbcSyncByte :: List.replicate 56 0⟩, rfl⟩)
  encode_head _ _ := rfl

def steadyStream : Bytes :=
  ((popRun fun _ : Unit => ((), Vector.replicate _ 0)).collect ((.new : MsbcStreamPackager steadyCodec), ())
    [48, 48, 24]).2

/-- Three pops of the packager, delivered in two chunks that cut across its packets. -/
theorem msbc_stream_framing_is_lossless_two_packets :
    MsbcStreamFramer.framesOf [steadyStream.take 70, steadyStream.drop 70] =
        (produce (fun _ : Unit => ((), Vector.replicate _ 0)) 2 (.new : H2Encoder steadyCodec) ()).2 ∧
    MsbcStreamFramer.framesOf [steadyStream.take 70, steadyStream.drop 70] = MsbcStreamFramer.framesOf
      [steadyStream] := by
  have hlen : steadyStream.length = 120 := by decide
  have hchunks : ∀ chunk ∈ [steadyStream.take 70, steadyStream.drop 70], chunk.length ≤ 540 := by simp [hlen]
  have hone : ∀ chunk ∈ [steadyStream], chunk.length ≤ 540 := by simp [hlen]
  constructor
  · exact msbc_stream_framing_is_lossless.1 steadyCodec Unit _ () [48, 48, 24] _ hchunks (by simp [steadyStream])
  · exact msbc_stream_framing_is_lossless.2 _ _ hchunks hone (by simp)

end Aokie.Msbc
