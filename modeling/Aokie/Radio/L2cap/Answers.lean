import Aokie.Radio.L2cap.Allocation

/-! What the commands of one signalling frame are answered with. -/

namespace Aokie.Radio.L2cap

open Aokie.Lib Aokie.Radio.Rfcomm

variable {ω : Type}

/-- A response, a Command Reject or an indication: the codes that L2CAP assigns end at 0x1a, and the others of them
are requests. -/
def SignalingHeader.isAnswer (header : SignalingHeader) : Bool :=
  decide (0x01 ≤ header.code ∧ header.code ≤ 0x1a) && !signalingCodeIsRequest header.code

def SignalingHeader.isRequest (header : SignalingHeader) : Bool := signalingCodeIsRequest header.code

def SignalingHeader.isKnownAnswer (header : SignalingHeader) : Bool :=
  [signalConnectionResponse, signalConfigureResponse, signalDisconnectionResponse,
    signalInformationResponse].contains header.code

def commandsFrom : ℕ → Bytes → List SignalingHeader × Bytes
  | 0, rest => ([], rest)
  | fuel + 1, rest =>
    match parseSignalingHeader rest with
    | .error _ => ([], rest)
    | .ok header => (commandsFrom fuel (rest.drop (4 + header.payload.length))).map (header :: ·) id

def completeCommands (payload : Bytes) : List SignalingHeader := (commandsFrom payload.length payload).1

def truncated (payload : Bytes) : Bytes := (commandsFrom payload.length payload).2

def commandCode (reply : Bytes) : Option UInt8 := reply[4]?

def commandIdentifier (reply : Bytes) : Option UInt8 := reply[5]?

def IsCommandReject (reply : Bytes) : Prop := commandCode reply = some signalCommandReject

section Replies

@[simp] lemma commandCode_buildBasicSignalingPacket (code identifier : UInt8) (payload : Bytes) :
    commandCode (buildBasicSignalingPacket code identifier payload) = some code := rfl

@[simp] lemma commandIdentifier_buildBasicSignalingPacket (code identifier : UInt8) (payload : Bytes) :
    commandIdentifier (buildBasicSignalingPacket code identifier payload) = some identifier := rfl

lemma commandIdentifier_buildInformationResponseForType (identifier : UInt8) (infoType : UInt16) :
    commandIdentifier (buildInformationResponseForType identifier infoType) = some identifier := by
  simp only [buildInformationResponseForType, buildInformationResponse]
  split_ifs <;> exact commandIdentifier_buildBasicSignalingPacket _ _ _

end Replies

section Commands

def SignalingHeader.bytes (header : SignalingHeader) : Bytes :=
  [header.code, header.identifier] ++ toLeBytes (UInt16.ofNat header.payload.length) ++ header.payload

def SignalingCommand.code : SignalingCommand → UInt8
  | .connectionRequest _ _ _ => signalConnectionRequest
  | .connectionResponse _ _ _ _ _ => signalConnectionResponse
  | .configureRequest _ _ _ _ => signalConfigureRequest
  | .configureResponse _ _ _ _ _ => signalConfigureResponse
  | .disconnectionRequest _ _ _ => signalDisconnectionRequest
  | .disconnectionResponse _ _ _ => signalDisconnectionResponse
  | .informationRequest _ _ => signalInformationRequest
  | .informationResponse _ _ _ _ => signalInformationResponse
  | .unknown code _ _ => code

def SignalingCommand.identifier : SignalingCommand → UInt8
  | .connectionRequest identifier _ _ | .connectionResponse identifier _ _ _ _ | .configureRequest identifier _ _ _
  | .configureResponse identifier _ _ _ _ | .disconnectionRequest identifier _ _
  | .disconnectionResponse identifier _ _ | .informationRequest identifier _ | .informationResponse identifier _ _ _
  | .unknown _ identifier _ => identifier

def SignalingCommand.isUnknown : SignalingCommand → Bool
  | .unknown _ _ _ => true
  | _ => false

/-- What the parser makes of a command: it keeps the code and the identifier, and of the answers it fails to know
only those without a layout of their own. -/
structure SignalingCommand.Reads (command : SignalingCommand) (header : SignalingHeader) : Prop where
  code : command.code = header.code
  identifier : command.identifier = header.identifier
  unknown : signalingCodeIsRequest header.code = false → command.isUnknown = !header.isKnownAnswer

lemma reads_of_requireLen {header : SignalingHeader} {n : ℕ} {name : String} {command command' : SignalingCommand}
    (h : (do requireLen header.payload n name; return command) = .ok command') (hcode : command.code = header.code)
    (hidentifier : command.identifier = header.identifier) (hunknown : command.isUnknown = false)
    (hknown : signalingCodeIsRequest header.code = false → header.isKnownAnswer) : command'.Reads header := by
  obtain ⟨_, _, hcommand⟩ := bind_eq_ok_iff.mp h
  obtain rfl := pure_eq_ok_iff.mp hcommand
  exact ⟨hcode, hidentifier, fun hrequest => by rw [hunknown, hknown hrequest]; rfl⟩

lemma parseSignalingCommand_reads {header : SignalingHeader} {command : SignalingCommand}
    (h : parseSignalingCommand header = .ok command) : command.Reads header := by
  simp only [parseSignalingCommand] at h
  split_ifs at h with h2 h3 h4 h5 h6 h7 ha hb
  · exact reads_of_requireLen h h2.symm rfl rfl (by rw [SignalingHeader.isKnownAnswer, h2]; decide)
  · exact reads_of_requireLen h h3.symm rfl rfl (by rw [SignalingHeader.isKnownAnswer, h3]; decide)
  · exact reads_of_requireLen h h4.symm rfl rfl (by rw [SignalingHeader.isKnownAnswer, h4]; decide)
  · exact reads_of_requireLen h h5.symm rfl rfl (by rw [SignalingHeader.isKnownAnswer, h5]; decide)
  · exact reads_of_requireLen h h6.symm rfl rfl (by rw [SignalingHeader.isKnownAnswer, h6]; decide)
  · exact reads_of_requireLen h h7.symm rfl rfl (by rw [SignalingHeader.isKnownAnswer, h7]; decide)
  · exact reads_of_requireLen h ha.symm rfl rfl (by rw [SignalingHeader.isKnownAnswer, ha]; decide)
  · exact reads_of_requireLen h hb.symm rfl rfl (by rw [SignalingHeader.isKnownAnswer, hb]; decide)
  · obtain rfl := Except.ok.inj h
    exact ⟨rfl, rfl, fun _ => by simp [SignalingCommand.isUnknown, SignalingHeader.isKnownAnswer, h3, h5, h7, hb]⟩

lemma isKnownAnswer_of_malformed {header : SignalingHeader} {message : String}
    (h : parseSignalingCommand header = .error message) (hrequest : signalingCodeIsRequest header.code = false) :
    header.isKnownAnswer := by
  simp only [parseSignalingCommand] at h
  split_ifs at h with h2 h3 h4 h5 h6 h7 ha hb
  · exact absurd hrequest (h2 ▸ by decide)
  · simp [SignalingHeader.isKnownAnswer, h3]
  · exact absurd hrequest (h4 ▸ by decide)
  · simp [SignalingHeader.isKnownAnswer, h5]
  · exact absurd hrequest (h6 ▸ by decide)
  · simp [SignalingHeader.isKnownAnswer, h7]
  · exact absurd hrequest (ha ▸ by decide)
  · simp [SignalingHeader.isKnownAnswer, hb]

lemma toLeBytes_fromLeBytes (lo hi : UInt8) : toLeBytes (fromLeBytes lo hi) = [lo, hi] := by
  have hlo := lo.toNat_lt
  have hhi := hi.toNat_lt
  have hor := Nat.shiftLeft_add_eq_or_of_lt (i := 8) (b := lo.toNat) (by omega) hi.toNat
  rw [Nat.shiftLeft_eq, Nat.or_comm] at hor
  have hn : (fromLeBytes lo hi).toNat = hi.toNat * 256 + lo.toNat := by
    simp only [fromLeBytes, UInt16.toNat_or, UInt8.toNat_toUInt16, UInt16.toNat_shiftLeft, UInt16.toNat_ofNat,
      Nat.shiftLeft_eq]
    norm_num
    rw [Nat.mod_eq_of_lt (by omega)]
    exact hor.symm
  simp only [toLeBytes, List.cons.injEq, and_true, ← UInt8.toNat_inj, UInt16.toNat_toUInt8, UInt16.toNat_shiftRight,
    UInt16.toNat_ofNat, Nat.shiftRight_eq_div_pow, hn]
  norm_num
  omega

lemma parseSignalingHeader_bytes {rest : Bytes} {header : SignalingHeader}
    (h : parseSignalingHeader rest = .ok header) :
    rest = header.bytes ++ rest.drop (4 + header.payload.length) := by
  simp only [parseSignalingHeader, bind_eq_ok_iff, ensure_eq_ok_iff, pure_eq_ok_iff] at h
  obtain ⟨-, hfour, -, hlen, rfl⟩ := h
  obtain ⟨code, identifier, lo, hi, payload, rfl⟩ : ∃ code identifier lo hi payload,
      rest = code :: identifier :: lo :: hi :: payload := by
    match rest, hfour with
    | code :: identifier :: lo :: hi :: payload, _ => exact ⟨code, identifier, lo, hi, payload, rfl⟩
  have hu16 : u16At (code :: identifier :: lo :: hi :: payload) 2 = fromLeBytes lo hi := rfl
  rw [hu16] at hlen ⊢
  have hlen' : (payload.take (fromLeBytes lo hi).toNat).length = (fromLeBytes lo hi).toNat := by
    rw [List.length_take]
    simp only [List.length_cons] at hlen
    omega
  simp [SignalingHeader.bytes, Nat.add_comm 4, hlen', toLeBytes_fromLeBytes]

lemma length_bytes (header : SignalingHeader) : header.bytes.length = 4 + header.payload.length := by
  simp [SignalingHeader.bytes, toLeBytes]
  omega

end Commands

namespace L2capState

variable {s : L2capState ω} {now : Instant} {connectionHandle : UInt16}

section Command

lemma commandCode_handleConnectionResponse {identifier : UInt8} {destinationCid sourceCid result : UInt16} :
    ∀ reply ∈ (s.handleConnectionResponse now identifier destinationCid sourceCid result).2,
      ¬IsCommandReject reply := by
  simp only [handleConnectionResponse]
  split
  · simp
  · split_ifs
    · simp
    · simp [IsCommandReject, buildConfigureRequest, signalConfigureRequest, signalCommandReject]
    · simp

lemma replied_command {command : SignalingCommand} (h : signalingCodeIsRequest command.code) :
    ∃ reply ∈ (s.handleSignalingCommand now connectionHandle command).2,
      commandIdentifier reply = some command.identifier := by
  cases command with
  | connectionRequest identifier psm sourceCid =>
      simp only [handleSignalingCommand, handleConnectionRequest]
      split_ifs
      · exact ⟨_, List.mem_cons_self, commandIdentifier_buildBasicSignalingPacket _ _ _⟩
      · exact ⟨_, List.mem_singleton_self _, commandIdentifier_buildBasicSignalingPacket _ _ _⟩
  | configureRequest identifier destinationCid flags options =>
      simp only [handleSignalingCommand, handleConfigureRequest]
      split <;> exact ⟨_, List.mem_singleton_self _, rfl⟩
  | disconnectionRequest identifier destinationCid sourceCid => exact ⟨_, List.mem_singleton_self _, rfl⟩
  | informationRequest identifier infoType =>
      exact ⟨_, List.mem_singleton_self _, commandIdentifier_buildInformationResponseForType identifier infoType⟩
  | unknown code identifier payload => exact ⟨_, List.mem_singleton_self _, rfl⟩
  | connectionResponse => exact absurd (show signalingCodeIsRequest signalConnectionResponse from h) (by decide)
  | configureResponse => exact absurd (show signalingCodeIsRequest signalConfigureResponse from h) (by decide)
  | disconnectionResponse => exact absurd (show signalingCodeIsRequest signalDisconnectionResponse from h) (by decide)
  | informationResponse => exact absurd (show signalingCodeIsRequest signalInformationResponse from h) (by decide)

lemma rejected_command_iff {command : SignalingCommand} (h : signalingCodeIsRequest command.code = false) :
    (∀ reply ∈ (s.handleSignalingCommand now connectionHandle command).2, ¬IsCommandReject reply) ↔
      command.isUnknown = false := by
  cases command with
  | connectionRequest => exact absurd (show signalingCodeIsRequest signalConnectionRequest = false from h) (by decide)
  | configureRequest => exact absurd (show signalingCodeIsRequest signalConfigureRequest = false from h) (by decide)
  | disconnectionRequest =>
      exact absurd (show signalingCodeIsRequest signalDisconnectionRequest = false from h) (by decide)
  | informationRequest => exact absurd (show signalingCodeIsRequest signalInformationRequest = false from h) (by decide)
  | connectionResponse identifier destinationCid sourceCid result status =>
      exact iff_of_true commandCode_handleConnectionResponse rfl
  | configureResponse | disconnectionResponse | informationResponse =>
      exact iff_of_true (by simp [handleSignalingCommand]) rfl
  | unknown code identifier payload =>
      refine iff_of_false (fun hnone => ?_) (by simp [SignalingCommand.isUnknown])
      exact hnone _ (List.mem_singleton_self _) rfl

end Command

/-- No answer is rejected, and every request is answered under its identifier. -/
structure Answered (header : SignalingHeader) (replies : List Bytes) : Prop where
  not_rejected : header.isAnswer → ∀ reply ∈ replies, ¬IsCommandReject reply
  replied : header.isRequest → ∃ reply ∈ replies, commandIdentifier reply = some header.identifier

lemma replied_header {header : SignalingHeader} (h : header.isRequest) :
    ∃ reply ∈ (s.handleSignalingHeader now connectionHandle header).2,
      commandIdentifier reply = some header.identifier := by
  simp only [handleSignalingHeader]
  split
  case h_1 command hparse =>
    have hreads := parseSignalingCommand_reads hparse
    rw [← hreads.identifier]
    exact replied_command (hreads.code ▸ h)
  case h_2 =>
    rw [rejectMalformed, if_pos (show signalingCodeIsRequest header.code from h)]
    exact ⟨_, List.mem_singleton_self _, commandIdentifier_buildBasicSignalingPacket _ _ _⟩

lemma not_rejected_header_iff {header : SignalingHeader} (h : header.isAnswer) :
    (∀ reply ∈ (s.handleSignalingHeader now connectionHandle header).2, ¬IsCommandReject reply) ↔
      header.isKnownAnswer := by
  have hrequest : signalingCodeIsRequest header.code = false := by
    simpa [SignalingHeader.isAnswer] using (Bool.and_eq_true_iff.mp h).2
  simp only [handleSignalingHeader]
  split
  case h_1 command hparse =>
    have hreads := parseSignalingCommand_reads hparse
    rw [rejected_command_iff (hreads.code ▸ hrequest), hreads.unknown hrequest, Bool.not_eq_false']
  case h_2 message hparse =>
    simp only [rejectMalformed, hrequest]
    exact iff_of_true (by simp) (isKnownAnswer_of_malformed hparse hrequest)

lemma answered_header_iff (header : SignalingHeader) :
    Answered header (s.handleSignalingHeader now connectionHandle header).2 ↔
      (header.isAnswer → header.isKnownAnswer) :=
  ⟨fun h hanswer => (not_rejected_header_iff hanswer).mp (h.not_rejected hanswer),
    fun h => ⟨fun hanswer => (not_rejected_header_iff hanswer).mpr (h hanswer), replied_header⟩⟩

section Frame

lemma length_drop_command {rest : Bytes} {header : SignalingHeader} (hparse : parseSignalingHeader rest = .ok header) :
    (rest.drop (4 + header.payload.length)).length < rest.length := by
  have hbytes := congrArg List.length (parseSignalingHeader_bytes hparse)
  rw [List.length_append, length_bytes] at hbytes
  omega

lemma commandsFrom_eq {fuel fuel' : ℕ} {rest : Bytes} (hfuel : rest.length ≤ fuel) (hfuel' : rest.length ≤ fuel') :
    commandsFrom fuel rest = commandsFrom fuel' rest := by
  induction fuel generalizing fuel' rest with
  | zero =>
      obtain rfl := List.eq_nil_of_length_eq_zero (Nat.le_zero.mp hfuel)
      cases fuel' <;> rfl
  | succ fuel ih =>
      cases fuel' with
      | zero =>
          obtain rfl := List.eq_nil_of_length_eq_zero (Nat.le_zero.mp hfuel')
          rfl
      | succ fuel' =>
          simp only [commandsFrom]
          cases hparse : parseSignalingHeader rest with
          | error message => rfl
          | ok header =>
              have hlt := length_drop_command hparse
              have hrest : commandsFrom fuel (rest.drop (4 + header.payload.length)) =
                  commandsFrom fuel' (rest.drop (4 + header.payload.length)) := ih (by omega) (by omega)
              dsimp only
              rw [hrest]

variable (s now connectionHandle)

def answers (payload : Bytes) : List (List Bytes) :=
  Machine.outputs (fun s header => handleSignalingHeader s now connectionHandle header) s (completeCommands payload)

lemma handleSignalingFrom_eq {fuel : ℕ} {rest : Bytes} (hfuel : rest.length ≤ fuel) :
    handleSignalingFrom now connectionHandle fuel s rest =
      (Machine.collect (fun s header => handleSignalingHeader s now connectionHandle header) s
        (commandsFrom fuel rest).1).map id (· ++ rejectTruncated (commandsFrom fuel rest).2) := by
  induction fuel generalizing s rest with
  | zero =>
      obtain rfl := List.eq_nil_of_length_eq_zero (Nat.le_zero.mp hfuel)
      rfl
  | succ fuel ih =>
      simp only [handleSignalingFrom, commandsFrom]
      cases hparse : parseSignalingHeader rest with
      | error message =>
          split_ifs with hempty
          · obtain rfl := List.isEmpty_iff.mp hempty
            rfl
          · rfl
      | ok header =>
          have hlt := length_drop_command hparse
          have hempty : ¬rest.isEmpty := by
            intro hempty
            obtain rfl := List.isEmpty_iff.mp hempty
            simp at hlt
          rw [if_neg hempty]
          simp only [Prod.map_fst, Prod.map_snd, id_eq, Machine.collect_cons, Prod.map_map]
          rw [ih _ (by omega)]
          simp [Prod.map_map, Function.comp_def]

lemma handleSignalingFrame_replies (payload : Bytes) :
    (s.handleSignalingFrame now connectionHandle payload).2 =
      (s.answers now connectionHandle payload).flatten ++ rejectTruncated (truncated payload) := by
  rw [handleSignalingFrame, handleSignalingFrom_eq s now connectionHandle le_rfl, Machine.collect_eq]
  rfl

lemma handleSignalingFrom_eq_frame {fuel : ℕ} {payload : Bytes} (hfuel : payload.length ≤ fuel) :
    handleSignalingFrom now connectionHandle fuel s payload = s.handleSignalingFrame now connectionHandle payload := by
  rw [handleSignalingFrame, handleSignalingFrom_eq s now connectionHandle hfuel,
    handleSignalingFrom_eq s now connectionHandle le_rfl, commandsFrom_eq hfuel le_rfl]

lemma rejectTruncated_request {rest reply : Bytes} (h : reply ∈ rejectTruncated rest) :
    ∃ code ∈ rest.head?, signalingCodeIsRequest code := by
  match rest with
  | [] | [_] => exact absurd h List.not_mem_nil
  | code :: identifier :: more =>
    rw [rejectTruncated] at h
    split_ifs at h with hrequest
    · exact ⟨code, rfl, hrequest.1⟩
    · exact absurd h List.not_mem_nil

lemma forall₂_answered_iff (headers : List SignalingHeader) :
    List.Forall₂ Answered headers
        (Machine.outputs (fun s header => handleSignalingHeader s now connectionHandle header) s headers) ↔
      ∀ header ∈ headers, header.isAnswer → header.isKnownAnswer := by
  induction headers generalizing s with
  | nil => simp
  | cons header headers ih =>
      rw [Machine.outputs_cons, List.forall₂_cons, answered_header_iff, ih, List.forall_mem_cons]

/-- What a frame is owed: its commands are read to the last complete one, whatever fuel is left, each of them is
answered as it should be, in frame order, and after them only a request is rejected. -/
structure FrameAnswered (payload : Bytes) : Prop where
  ends : ∀ fuel ≥ payload.length,
    handleSignalingFrom now connectionHandle fuel s payload = s.handleSignalingFrame now connectionHandle payload
  in_order : (s.handleSignalingFrame now connectionHandle payload).2 =
    (s.answers now connectionHandle payload).flatten ++ rejectTruncated (truncated payload)
  commands : List.Forall₂ Answered (completeCommands payload) (s.answers now connectionHandle payload)
  rest : ∀ reply ∈ rejectTruncated (truncated payload), ∃ code ∈ (truncated payload).head?, signalingCodeIsRequest code

/-- A frame is answered as it should be exactly when every answer among its commands is one that the parser knows:
the others are taken for unknown requests. -/
theorem frame_answered_iff (payload : Bytes) :
    s.FrameAnswered now connectionHandle payload ↔
      ∀ header ∈ completeCommands payload, header.isAnswer → header.isKnownAnswer := by
  rw [← forall₂_answered_iff s now connectionHandle]
  constructor
  · exact fun h => h.commands
  · exact fun h => ⟨fun _ hfuel => handleSignalingFrom_eq_frame s now connectionHandle hfuel,
      handleSignalingFrame_replies s now connectionHandle payload, h, fun _ => rejectTruncated_request⟩

/-- The phone rejects a command of ours, and we reject its reject. -/
theorem reject_is_rejected :
    ¬fresh.FrameAnswered 5 0x2a [signalCommandReject, 0x80, 2, 0, 0, 0] ∧
      (fresh.handleSignalingFrame 5 0x2a [signalCommandReject, 0x80, 2, 0, 0, 0]).2 =
        [buildCommandReject 0x80 commandRejectReasonCommandNotUnderstood] := by
  have hreplies : fresh.answers 5 0x2a [signalCommandReject, 0x80, 2, 0, 0, 0] =
      [[buildCommandReject 0x80 commandRejectReasonCommandNotUnderstood]] := by decide
  have hcommands : completeCommands [signalCommandReject, 0x80, 2, 0, 0, 0] =
      [⟨signalCommandReject, 0x80, [0, 0]⟩] := by
    decide
  refine ⟨fun h => ?_, by decide⟩
  have hanswered := h.commands
  rw [hreplies, hcommands, List.forall₂_cons] at hanswered
  exact hanswered.1.not_rejected (by decide) _ (List.mem_singleton_self _) rfl

end Frame

end L2capState

end Aokie.Radio.L2cap
