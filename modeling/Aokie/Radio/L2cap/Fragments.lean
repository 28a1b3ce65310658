import Aokie.Radio.L2cap.Packet

/-! However a stream of frames is cut into ACL packets, the peer's connection sees the same. -/

namespace Aokie.Radio.L2cap

open Aokie.Lib

variable {ω : Type}

lemma u16At_append {buffer : Bytes} {offset : ℕ} (h : offset + 2 ≤ buffer.length) (more : Bytes) :
    u16At (buffer ++ more) offset = u16At buffer offset := by
  have hlo : offset < buffer.length := by omega
  have hhi : offset + 1 < buffer.length := by omega
  simp [u16At, List.getD_eq_getElem?_getD, List.getElem?_append_left hlo, List.getElem?_append_left hhi]

lemma nextFrame_eq_some_iff {buffer frame rest : Bytes} :
    nextFrame buffer = some (frame, rest) ↔
      (4 ≤ buffer.length ∧ 4 + (u16At buffer 0).toNat ≤ buffer.length) ∧
        frame = buffer.take (4 + (u16At buffer 0).toNat) ∧ rest = buffer.drop (4 + (u16At buffer 0).toNat) := by
  rw [nextFrame]
  split_ifs with hwhole
  · simp [hwhole, List.splitAt_eq, eq_comm]
  · simp [hwhole]

lemma nextFrame_lawful : Framing.Next.Lawful nextFrame where
  splits := by
    intro buffer frame rest h
    obtain ⟨-, rfl, rfl⟩ := nextFrame_eq_some_iff.mp h
    exact (List.take_append_drop _ _).symm
  nonempty := by
    intro buffer frame rest h hempty
    obtain ⟨⟨hlen, -⟩, rfl, -⟩ := nextFrame_eq_some_iff.mp h
    have hlen' := congrArg List.length hempty
    simp only [List.length_take, List.length_nil] at hlen'
    omega
  stable := by
    intro buffer frame rest h more
    obtain ⟨⟨hlen, hwhole⟩, rfl, rfl⟩ := nextFrame_eq_some_iff.mp h
    have hsize : u16At (buffer ++ more) 0 = u16At buffer 0 := u16At_append (by omega) more
    rw [nextFrame_eq_some_iff, hsize]
    refine ⟨⟨by simp; omega, by simp; omega⟩, ?_, ?_⟩
    · rw [List.take_append_of_le_length hwhole]
    · rw [List.drop_append_of_le_length hwhole]

/-- The packets carry the stream in pieces: the first starts it, the others continue it. -/
def CarriesFrom (connectionHandle : UInt16) : List Bytes → Bytes → Prop
  | [], stream => stream = []
  | packet :: packets, stream => ∃ acl rest, parseAclFrame packet = .ok acl ∧
      acl.connectionHandle = connectionHandle ∧ acl.packetBoundaryFlag = aclPacketBoundaryContinuingFragment ∧
      stream = acl.payload ++ rest ∧ CarriesFrom connectionHandle packets rest

def Carries (connectionHandle : UInt16) : List Bytes → Bytes → Prop
  | [], _ => False
  | packet :: packets, stream => ∃ acl rest, parseAclFrame packet = .ok acl ∧
      acl.connectionHandle = connectionHandle ∧ acl.packetBoundaryFlag = aclPacketBoundaryFirstNonFlushable ∧
      stream = acl.payload ++ rest ∧ CarriesFrom connectionHandle packets rest

namespace L2capState

abbrev withReassembly (s : L2capState ω) (aclReassembly : Std.ExtTreeMap UInt16 Bytes) : L2capState ω :=
  { s with aclReassembly }

section Reassembly

variable (s : L2capState ω) (unfinished : Std.ExtTreeMap UInt16 Bytes) (now : Instant) (connectionHandle : UInt16)

lemma withReassembly_findLocalCid (remoteCid : UInt16) (steps : ℕ) :
    findLocalCid remoteCid steps (s.withReassembly unfinished) =
      (findLocalCid remoteCid steps s).map (·.withReassembly unfinished) id := by
  induction steps generalizing s with
  | zero => rfl
  | succ steps ih =>
      have hfree : (s.withReassembly unfinished).IsFreeCid remoteCid s.nextLocalCid =
        s.IsFreeCid remoteCid s.nextLocalCid := rfl
      simp only [findLocalCid, hfree]
      split_ifs
      · rfl
      · exact ih s.skipCid

lemma withReassembly_handleConnectionRequest (identifier : UInt8) (psm sourceCid : UInt16) :
    (s.withReassembly unfinished).handleConnectionRequest now connectionHandle identifier psm sourceCid =
      (s.handleConnectionRequest now connectionHandle identifier psm sourceCid).map
        (·.withReassembly unfinished) id := by
  simp only [handleConnectionRequest, allocateLocalCid, withReassembly_findLocalCid]
  split_ifs <;> rfl

lemma withReassembly_handleConfigureRequest (identifier : UInt8) (destinationCid flags : UInt16) :
    (s.withReassembly unfinished).handleConfigureRequest identifier destinationCid flags =
      (s.handleConfigureRequest identifier destinationCid flags).map (·.withReassembly unfinished) id := by
  simp only [handleConfigureRequest]
  cases s.channels[destinationCid]? <;> rfl

lemma withReassembly_handleConfigureResponse (identifier : UInt8) (sourceCid result : UInt16) :
    (s.withReassembly unfinished).handleConfigureResponse identifier sourceCid result =
      (s.handleConfigureResponse identifier sourceCid result).withReassembly unfinished := by
  have hfind : ∀ p, (s.withReassembly unfinished).findChannel p = s.findChannel p := fun _ => rfl
  simp only [handleConfigureResponse, hfind]
  cases s.findChannel _ with
  | none => rfl
  | some entry =>
      dsimp only
      split_ifs <;> rfl

lemma withReassembly_handleConnectionResponse (identifier : UInt8) (destinationCid sourceCid result : UInt16) :
    (s.withReassembly unfinished).handleConnectionResponse now identifier destinationCid sourceCid result =
      (s.handleConnectionResponse now identifier destinationCid sourceCid result).map
        (·.withReassembly unfinished) id := by
  have hfind : ∀ p, (s.withReassembly unfinished).findChannel p = s.findChannel p := fun _ => rfl
  simp only [handleConnectionResponse, hfind]
  cases s.findChannel _ with
  | none => rfl
  | some entry =>
      dsimp only
      split_ifs <;> rfl

lemma withReassembly_handleSignalingCommand (command : SignalingCommand) :
    (s.withReassembly unfinished).handleSignalingCommand now connectionHandle command =
      (s.handleSignalingCommand now connectionHandle command).map (·.withReassembly unfinished) id := by
  cases command with
  | connectionRequest identifier psm sourceCid =>
      exact withReassembly_handleConnectionRequest s unfinished now connectionHandle identifier psm sourceCid
  | connectionResponse identifier destinationCid sourceCid result status =>
      exact withReassembly_handleConnectionResponse s unfinished now identifier destinationCid sourceCid result
  | configureRequest identifier destinationCid flags options =>
      simp only [handleSignalingCommand, withReassembly_handleConfigureRequest]
      rfl
  | configureResponse identifier sourceCid flags result options =>
      simp only [handleSignalingCommand, withReassembly_handleConfigureResponse]
      rfl
  | _ => rfl

lemma withReassembly_handleSignalingHeader (header : SignalingHeader) :
    (s.withReassembly unfinished).handleSignalingHeader now connectionHandle header =
      (s.handleSignalingHeader now connectionHandle header).map (·.withReassembly unfinished) id := by
  simp only [handleSignalingHeader]
  cases parseSignalingCommand header with
  | error message => rfl
  | ok command => exact withReassembly_handleSignalingCommand s unfinished now connectionHandle command

lemma withReassembly_handleSignalingFrom (fuel : ℕ) (rest : Bytes) :
    handleSignalingFrom now connectionHandle fuel (s.withReassembly unfinished) rest =
      (handleSignalingFrom now connectionHandle fuel s rest).map (·.withReassembly unfinished) id := by
  induction fuel generalizing s rest with
  | zero => rfl
  | succ fuel ih =>
      simp only [handleSignalingFrom]
      split_ifs
      · rfl
      · cases parseSignalingHeader rest with
        | error message => rfl
        | ok header =>
            dsimp only
            rw [withReassembly_handleSignalingHeader, Prod.map_fst, Prod.map_snd, ih, Prod.map_map, Prod.map_map]
            rfl

lemma withReassembly_handleChannelPayload (frame : BasicFrame) :
    (s.withReassembly unfinished).handleChannelPayload now connectionHandle frame =
      (s.handleChannelPayload now connectionHandle frame).map (·.withReassembly unfinished) id := by
  simp only [handleChannelPayload]
  cases s.channels[frame.cid]? with
  | none => rfl
  | some channel =>
      dsimp only
      split_ifs
      · rfl
      · cases channel.upperHandler.or s.psmHandlers[channel.psm]? <;> rfl

lemma withReassembly_handleFrame (frameBytes : Bytes) :
    handleFrame now connectionHandle (s.withReassembly unfinished) frameBytes =
      (handleFrame now connectionHandle s frameBytes).map (·.withReassembly unfinished) id := by
  simp only [handleFrame]
  cases parseBasicFrame frameBytes with
  | error message => rfl
  | ok frame =>
      dsimp only
      split_ifs
      · simp only [handleSignalingFrame, withReassembly_handleSignalingFrom]
        rfl
      · simp only [withReassembly_handleChannelPayload]
        rfl

lemma withReassembly_collect (frames : List Bytes) :
    Machine.collect (handleFrame now connectionHandle) (s.withReassembly unfinished) frames =
      (Machine.collect (handleFrame now connectionHandle) s frames).map (·.withReassembly unfinished) id := by
  induction frames generalizing s with
  | nil => rfl
  | cons frame frames ih =>
      rw [Machine.collect_cons, withReassembly_handleFrame, Prod.map_fst, ih, Machine.collect_cons]
      rfl

end Reassembly

/-- The frames of a buffer are handled in order and the unfinished one is kept. -/
def handleBuffer (now : Instant) (connectionHandle : UInt16) (s : L2capState ω) (buffer : Bytes) :
    L2capState ω × List Bytes :=
  Machine.collect (handleFrame now connectionHandle)
    (s.withReassembly (s.aclReassembly.insert connectionHandle (drainFrames buffer).2)) (drainFrames buffer).1

variable (s : L2capState ω) (now : Instant) {connectionHandle : UInt16}

lemma handleBuffer_eq (connectionHandle : UInt16) (buffer : Bytes) :
    handleBuffer now connectionHandle s buffer =
      (Machine.collect (handleFrame now connectionHandle) s (drainFrames buffer).1).map
        (·.withReassembly (s.aclReassembly.insert connectionHandle (drainFrames buffer).2)) id :=
  withReassembly_collect s _ now connectionHandle _

lemma getD_handleBuffer (connectionHandle : UInt16) (buffer : Bytes) :
    (handleBuffer now connectionHandle s buffer).1.aclReassembly.getD connectionHandle [] = (drainFrames buffer).2 := by
  simp [handleBuffer_eq]

lemma handleBuffer_append (connectionHandle : UInt16) (buffer more : Bytes) :
    handleBuffer now connectionHandle s (buffer ++ more) =
      (handleBuffer now connectionHandle (handleBuffer now connectionHandle s buffer).1
        ((drainFrames buffer).2 ++ more)).map id ((handleBuffer now connectionHandle s buffer).2 ++ ·) := by
  have hdrain := Framing.drain_append nextFrame_lawful buffer more
  have hframes : (drainFrames (buffer ++ more)).1 =
      (drainFrames buffer).1 ++ (drainFrames ((drainFrames buffer).2 ++ more)).1 := by
    rw [drainFrames, hdrain]
    rfl
  have hrest : (drainFrames (buffer ++ more)).2 = (drainFrames ((drainFrames buffer).2 ++ more)).2 := by
    rw [drainFrames, hdrain]
    rfl
  rw [handleBuffer_eq, handleBuffer_eq s now connectionHandle buffer, handleBuffer_eq, hframes, hrest,
    Machine.collect_append]
  simp only [withReassembly_collect, Prod.map_fst, Prod.map_snd, id_eq, insert_insert]
  rfl

lemma handleAclPacket_first {packet : Bytes} {acl : AclFrame} (hparse : parseAclFrame packet = .ok acl)
    (hfirst : acl.packetBoundaryFlag = aclPacketBoundaryFirstNonFlushable) :
    s.handleAclPacket now packet = (handleBuffer now acl.connectionHandle s acl.payload).map id .ok := by
  simp only [handleAclPacket, hparse, hfirst]
  rfl

lemma handleAclPacket_continuing {packet : Bytes} {acl : AclFrame} (hparse : parseAclFrame packet = .ok acl)
    (hcontinues : acl.packetBoundaryFlag = aclPacketBoundaryContinuingFragment) :
    s.handleAclPacket now packet = (handleBuffer now acl.connectionHandle s
      (s.aclReassembly.getD acl.connectionHandle [] ++ acl.payload)).map id .ok := by
  simp only [handleAclPacket, hparse, hcontinues, if_true]
  rfl

lemma handleBuffer_packets {packets : List Bytes} {rest : Bytes} (hcarries : CarriesFrom connectionHandle packets rest)
    (buffer : Bytes) :
    (tryFor (fun s packet => handleAclPacket s now packet)
      (handleBuffer now connectionHandle s buffer).1 packets).map id
        (Except.map ((handleBuffer now connectionHandle s buffer).2 ++ ·)) =
      (handleBuffer now connectionHandle s (buffer ++ rest)).map id .ok := by
  induction packets generalizing buffer rest with
  | nil =>
      obtain rfl : rest = [] := hcarries
      simp [tryFor, Except.map]
      rfl
  | cons packet packets ih =>
      obtain ⟨acl, later, hparse, rfl, hcontinues, rfl, hcarries⟩ := hcarries
      have happend := handleBuffer_append s now acl.connectionHandle buffer acl.payload
      have hstep := handleAclPacket_continuing (handleBuffer now acl.connectionHandle s buffer).1 now hparse hcontinues
      rw [getD_handleBuffer] at hstep
      rw [← List.append_assoc, ← ih hcarries (buffer ++ acl.payload), happend]
      generalize handleBuffer now acl.connectionHandle (handleBuffer now acl.connectionHandle s buffer).1
        ((drainFrames buffer).2 ++ acl.payload) = next at hstep ⊢
      obtain ⟨t, out⟩ := next
      rw [tryFor_cons_ok _ hstep]
      simp only [id_eq, Prod.map_apply]
      generalize tryFor _ t packets = result
      obtain ⟨u, out'⟩ := result
      cases out' <;> simp [Except.map]

lemma handlePackets {stream : Bytes} {packets : List Bytes} (hcarries : Carries connectionHandle packets stream) :
    tryFor (fun s packet => handleAclPacket s now packet) s packets =
      (handleBuffer now connectionHandle s stream).map id .ok := by
  cases packets with
  | nil => exact hcarries.elim
  | cons packet packets =>
      obtain ⟨acl, rest, hparse, rfl, hfirst, rfl, hcarries⟩ := hcarries
      rw [tryFor_cons_ok _ (handleAclPacket_first s now hparse hfirst)]
      exact handleBuffer_packets s now hcarries acl.payload

/-- However the peer's stream is cut into packets, the state and the replies are those of one packet. -/
theorem fragments_same_as_one_packet (s : L2capState ω) (now : Instant) {connectionHandle : UInt16}
    {stream packet : Bytes}
    {packets : List Bytes} (hone : Carries connectionHandle [packet] stream)
    (hcut : Carries connectionHandle packets stream) :
    tryFor (fun s packet => handleAclPacket s now packet) s packets = s.handleAclPacket now packet := by
  rw [handlePackets s now hcut, ← handlePackets s now hone, tryFor_singleton]

/-- A connection request of the phone, cut inside its frame header and inside the command. -/
theorem fragments_same_as_one_packet_request :
    let s : L2capState Unit := new (fun _ => .ok []) ()
    let request := buildConnectionRequest 1 psmRfcomm 0x40
    tryFor (fun s packet => handleAclPacket s 0 packet) s
        [buildAclPacket 0x2a 2 0 (request.take 3), buildAclPacket 0x2a 1 0 ((request.take 9).drop 3),
          buildAclPacket 0x2a 1 0 (request.drop 9)] =
      s.handleAclPacket 0 (buildAclPacket 0x2a 2 0 request) := by
  intro s request
  have hone : Carries 0x2a [buildAclPacket 0x2a 2 0 request] request :=
    ⟨⟨0x2a, 2, 0, request⟩, [], by decide, rfl, rfl, by simp, rfl⟩
  have hcut : Carries 0x2a [buildAclPacket 0x2a 2 0 (request.take 3), buildAclPacket 0x2a 1 0 ((request.take 9).drop 3),
      buildAclPacket 0x2a 1 0 (request.drop 9)] request :=
    ⟨⟨0x2a, 2, 0, request.take 3⟩, request.drop 3, by decide, rfl, rfl, by decide,
      ⟨0x2a, 1, 0, (request.take 9).drop 3⟩, request.drop 9, by decide, rfl, rfl, by decide,
      ⟨0x2a, 1, 0, request.drop 9⟩, [], by decide, rfl, rfl, by decide, rfl⟩
  exact fragments_same_as_one_packet s 0 hone hcut

end L2capState

end Aokie.Radio.L2cap
