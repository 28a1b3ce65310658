import Aokie.Radio.Rfcomm.Frame

/-! Parsing inverts building, for frames and for multiplexer commands, and a parsed frame whose length
field is in its shortest form is rebuilt byte for byte. -/

namespace Aokie.Radio.Rfcomm

open Aokie.Lib

lemma requireLen_eq_ok_iff {payload : Bytes} {n : ℕ} {name : String} {u : Unit} :
    requireLen payload n name = .ok u ↔ n ≤ payload.length :=
  ensure_eq_ok_iff

lemma requireLen_of_le {payload : Bytes} {n : ℕ} {name : String} (h : n ≤ payload.length) :
    requireLen payload n name = .ok () :=
  requireLen_eq_ok_iff.mpr h

lemma addressByte_spec {dlci : UInt8} (cr : Bool) (h : dlci < 64) :
    addressByte dlci cr &&& 0x01 ≠ 0 ∧ decide (addressByte dlci cr &&& 0x02 ≠ 0) = cr ∧
      addressByte dlci cr >>> 2 = dlci := by
  revert h
  apply byte_forall (P := fun dlci => dlci < 64 → addressByte dlci cr &&& 0x01 ≠ 0 ∧
    decide (addressByte dlci cr &&& 0x02 ≠ 0) = cr ∧ addressByte dlci cr >>> 2 = dlci)
  cases cr <;> decide

lemma addressByte_of_parsed {address : UInt8} (h : address &&& 0x01 ≠ 0) :
    addressByte (address >>> 2) (decide (address &&& 0x02 ≠ 0)) = address := by
  revert h
  apply byte_forall (P := fun address => address &&& 0x01 ≠ 0 →
    addressByte (address >>> 2) (decide (address &&& 0x02 ≠ 0)) = address)
  decide

lemma shiftRight_two_lt (b : UInt8) : b >>> 2 < 64 := by
  apply byte_forall (P := fun b => b >>> 2 < 64)
  decide

lemma short_length_byte {n : ℕ} (h : n < 128) :
    ((UInt8.ofNat n <<< 1) ||| 1) &&& 0x01 ≠ 0 ∧ (((UInt8.ofNat n <<< 1) ||| 1) >>> 1).toNat = n := by
  revert n
  decide

lemma long_length_byte (b : UInt8) :
    ((b &&& 0x7f) <<< 1) &&& 0x01 = 0 ∧ (((b &&& 0x7f) <<< 1) >>> 1).toNat = b.toNat % 128 := by
  apply byte_forall (P := fun b => ((b &&& 0x7f) <<< 1) &&& 0x01 = 0 ∧
    (((b &&& 0x7f) <<< 1) >>> 1).toNat = b.toNat % 128)
  decide

lemma lor_shiftLeft_seven {lo : ℕ} (hi : ℕ) (h : lo < 128) : lo ||| (hi <<< 7) = hi * 128 + lo := by
  rw [Nat.or_comm, ← Nat.shiftLeft_add_eq_or_of_lt (i := 7) h, Nat.shiftLeft_eq]

lemma decode_encodeLength {n : ℕ} (h : n ≤ 32767) (rest : Bytes) :
    decodeMultiplexerLength (encodeLength n ++ rest) = .ok (n, (encodeLength n).length) := by
  unfold encodeLength
  split_ifs with hn
  · obtain ⟨he, hv⟩ := short_length_byte hn
    simp only [decodeMultiplexerLength, List.singleton_append, List.getD_cons_zero]
    rw [requireLen_of_le (by simp)]
    simp only [ne_eq, he, not_false_eq_true, if_true, hv]
    rfl
  · obtain ⟨he, hv⟩ := long_length_byte (UInt8.ofNat n)
    have hlo : (UInt8.ofNat n).toNat % 128 = n % 128 := by
      simp only [UInt8.toNat_ofNat']
      omega
    have hhi : (UInt8.ofNat (n >>> 7)).toNat = n / 128 := by
      simp only [UInt8.toNat_ofNat', Nat.shiftRight_eq_div_pow]
      omega
    simp only [decodeMultiplexerLength, List.cons_append, List.nil_append, List.getD_cons_zero,
      List.getD_cons_succ]
    rw [requireLen_of_le (by simp), requireLen_of_le (by simp)]
    simp only [he, ne_eq, not_true_eq_false, if_false, hv, hlo, hhi,
      lor_shiftLeft_seven _ (Nat.mod_lt n (by norm_num : 0 < 128)), Nat.div_add_mod']
    rfl

lemma encodeLength_pos (n : ℕ) : 1 ≤ (encodeLength n).length := by
  unfold encodeLength
  split_ifs <;> simp

/-- The credit byte stands in a UIH frame with the P/F bit, and in no other. -/
def hasCredits (control : UInt8) : Bool :=
  decide (frameKind control = .uih) && decide (control &&& controlPollFinal ≠ 0)

/-- The bytes the checksum covers: the length field only outside UIH frames. -/
def fcsInput (address control : UInt8) (lengthField : Bytes) : Bytes :=
  if frameKind control = .uih then [address, control] else address :: control :: lengthField

lemma parseFrame_cons_eq_ok_iff {address control : UInt8} {rest : Bytes} {frame : RfcommFrame} :
    parseFrame (address :: control :: rest) = .ok frame ↔
      2 ≤ rest.length ∧ address &&& 0x01 ≠ 0 ∧ ∃ len octets,
        decodeMultiplexerLength rest = .ok (len, octets) ∧
        rest.length = octets + (hasCredits control).toNat + len + 1 ∧
        rest.getD (octets + (hasCredits control).toNat + len) 0 =
          rfcommFcs (fcsInput address control (rest.take octets)) ∧
        frame = {
          dlci := address >>> 2, commandResponse := decide (address &&& 0x02 ≠ 0)
          kind := frameKind control, pollFinal := decide (control &&& controlPollFinal ≠ 0)
          credits := if hasCredits control then some (rest.getD octets 0) else none
          payload := (rest.drop (octets + (hasCredits control).toNat)).take len } := by
  have htake : ∀ octets, (address :: control :: rest).take (if frameKind control = .uih then 2 else 2 + octets) =
      fcsInput address control (rest.take octets) := by
    intro octets
    unfold fcsInput
    split_ifs
    · rfl
    · rw [Nat.add_comm 2]
      rfl
  have hget : ∀ i, (address :: control :: rest).getD (2 + i) 0 = rest.getD i 0 := by
    intro i
    rw [Nat.add_comm 2]
    rfl
  have hpay : ∀ i len, ((address :: control :: rest).take (2 + (i + len))).drop (2 + i) =
      (rest.drop i).take len := by
    intro i len
    rw [List.drop_take, Nat.add_sub_add_left, Nat.add_sub_cancel_left, Nat.add_comm 2]
    rfl
  have hdec : decodeLength (address :: control :: rest) = if 1 ≤ rest.length then decodeMultiplexerLength rest
      else decodeLength (address :: control :: rest) := by
    split_ifs with h
    · unfold decodeLength
      rw [requireLen_of_le (by simpa using h)]
      rfl
    · rfl
  simp only [parseFrame, bind_eq_ok_iff, requireLen_eq_ok_iff, ensure_eq_ok_iff, pure_eq_ok_iff,
    exists_and_left, exists_const, List.getD_cons_zero, List.getD_cons_succ, Prod.exists, List.length_cons,
    ← hasCredits.eq_1, Nat.add_assoc 2, hget, htake, hpay]
  constructor
  · rintro ⟨h4, ha, len, octets, hl, -, hlen, hfcs, rfl⟩
    have h1 : 1 ≤ rest.length := by omega
    rw [hdec, if_pos h1] at hl
    exact ⟨by omega, ha, len, octets, hl, by omega, hfcs, rfl⟩
  · rintro ⟨h2, ha, len, octets, hl, hlen, hfcs, rfl⟩
    have h1 : 1 ≤ rest.length := by omega
    rw [hdec, if_pos h1]
    exact ⟨by omega, ha, len, octets, hl, by omega, by omega, hfcs, rfl⟩

def body (address control : UInt8) (lengthField : Bytes) (credits : Option UInt8) (payload : Bytes) : Bytes :=
  lengthField ++ (credits.toList ++ (payload ++ [rfcommFcs (fcsInput address control lengthField)]))

lemma buildFrame_eq (dlci : UInt8) (cr : Bool) (control : UInt8) (credits : Option UInt8) (payload : Bytes) :
    buildFrame dlci cr control credits payload = addressByte dlci cr :: control ::
      body (addressByte dlci cr) control (encodeLength payload.length) credits payload := by
  have hf : ([addressByte dlci cr, control] ++ encodeLength payload.length ++ credits.toList ++ payload).take
      (if frameKind control = .uih then 2
        else ([addressByte dlci cr, control] ++ encodeLength payload.length).length) =
      fcsInput (addressByte dlci cr) control (encodeLength payload.length) := by
    unfold fcsInput
    split_ifs with hk
    · simp
    · rw [List.append_assoc _ credits.toList, List.take_left]
      simp
  simp only [buildFrame, hf, body]
  simp

lemma parseFrame_body {address control : UInt8} {lengthField : Bytes} {credits : Option UInt8}
    {payload : Bytes} (ha : address &&& 0x01 ≠ 0) (hp : 1 ≤ lengthField.length)
    (hl : ∀ rest, decodeMultiplexerLength (lengthField ++ rest) = .ok (payload.length, lengthField.length))
    (hc : credits.isSome = hasCredits control) :
    parseFrame (address :: control :: body address control lengthField credits payload) = .ok
      { dlci := address >>> 2, commandResponse := decide (address &&& 0x02 ≠ 0)
        kind := frameKind control, pollFinal := decide (control &&& controlPollFinal ≠ 0), credits, payload } := by
  have hn : (hasCredits control).toNat = credits.toList.length := by
    rw [← hc]
    cases credits <;> rfl
  have hlen : (body address control lengthField credits payload).length =
      lengthField.length + (hasCredits control).toNat + payload.length + 1 := by
    simp only [body, hn, List.length_append, List.length_singleton]
    omega
  refine parseFrame_cons_eq_ok_iff.mpr ⟨by omega, ha, _, _, hl _, hlen, ?_, ?_⟩
  · rw [body, List.take_left, hn, ← List.length_append, ← List.length_append, ← List.append_assoc,
      ← List.append_assoc, List.append_assoc lengthField, List.getD_append_right _ _ _ _ (by simp)]
    simp
  · have hcredits : (if hasCredits control then
        some ((body address control lengthField credits payload).getD lengthField.length 0) else none) =
        credits := by
      rw [← hc, body, List.getD_append_right _ _ _ _ le_rfl]
      cases credits <;> simp
    have hpayload : ((body address control lengthField credits payload).drop
        (lengthField.length + (hasCredits control).toNat)).take payload.length = payload := by
      rw [body, hn, ← List.append_assoc, ← List.length_append, List.drop_left]
      simp
    rw [hcredits, hpayload]

lemma body_of_parseFrame {packet : Bytes} {frame : RfcommFrame} (h : parseFrame packet = .ok frame) :
    ∃ address control lengthField,
      packet = address :: control :: body address control lengthField frame.credits frame.payload ∧
      address &&& 0x01 ≠ 0 ∧
      decodeMultiplexerLength (body address control lengthField frame.credits frame.payload) =
        .ok (frame.payload.length, lengthField.length) ∧
      frame.dlci = address >>> 2 ∧ frame.commandResponse = decide (address &&& 0x02 ≠ 0) := by
  match packet with
  | [] => simp [parseFrame, requireLen, ensure, bind, Except.bind] at h
  | [_] => simp [parseFrame, requireLen, ensure, bind, Except.bind] at h
  | address :: control :: rest =>
    obtain ⟨-, ha, len, octets, hl, hlen, hfcs, rfl⟩ := parseFrame_cons_eq_ok_iff.mp h
    set n := (hasCredits control).toNat with hn
    have hcredits : (if hasCredits control then some (rest.getD octets 0) else none : Option UInt8).toList =
        (rest.drop octets).take n := by
      cases hc : hasCredits control with
      | false => simp [hn, hc]
      | true =>
        have hlt : octets < rest.length := by omega
        have hone : n = 1 := by simp [hn, hc]
        rw [List.getD_eq_getElem _ _ hlt, List.drop_eq_getElem_cons hlt, hone]
        rfl
    have hlast : rest.drop (octets + n + len) = [rest.getD (octets + n + len) 0] := by
      have hlt : octets + n + len < rest.length := by omega
      rw [List.getD_eq_getElem _ _ hlt, List.drop_eq_getElem_cons hlt, List.drop_eq_nil_of_le (by omega)]
    have hbody : rest = rest.take octets ++ ((rest.drop octets).take n ++
        ((rest.drop (octets + n)).take len ++ rest.drop (octets + n + len))) := by
      rw [← List.drop_drop (i := len), List.take_append_drop, ← List.drop_drop (i := n),
        List.take_append_drop, List.take_append_drop]
    rw [hlast, hfcs, ← hcredits] at hbody
    refine ⟨address, control, rest.take octets, ?_, ha, ?_, rfl, rfl⟩
    · exact congrArg (address :: control :: ·) hbody
    · have hfield : (rest.take octets).length = octets := by simp; omega
      have hpayload : ((rest.drop (octets + n)).take len).length = len := by simp; omega
      rw [hfield, hpayload, ← hl]
      exact congrArg decodeMultiplexerLength hbody.symm

lemma short_length_of_byte {b : UInt8} (h : b &&& 0x01 ≠ 0) :
    (b >>> 1).toNat < 128 ∧ (UInt8.ofNat (b >>> 1).toNat <<< 1) ||| 1 = b := by
  revert h
  apply byte_forall (P := fun b => b &&& 0x01 ≠ 0 →
    (b >>> 1).toNat < 128 ∧ (UInt8.ofNat (b >>> 1).toNat <<< 1) ||| 1 = b)
  decide

lemma long_length_of_byte {b : UInt8} (h : b &&& 0x01 = 0) :
    (b >>> 1).toNat < 128 ∧ ((b >>> 1) &&& 0x7f) <<< 1 = b := by
  revert h
  apply byte_forall (P := fun b => b &&& 0x01 = 0 → (b >>> 1).toNat < 128 ∧ ((b >>> 1) &&& 0x7f) <<< 1 = b)
  decide

lemma and_seven_bits {a b : UInt8} (h : a.toNat % 128 = b.toNat % 128) : a &&& 0x7f = b &&& 0x7f := by
  apply UInt8.toNat_inj.mp
  simpa only [UInt8.toNat_and, UInt8.toNat_ofNat, show 127 % 2 ^ 8 = 2 ^ 7 - 1 by rfl,
    Nat.and_two_pow_sub_one_eq_mod] using h

lemma encodeLength_of_decode {lengthField rest : Bytes} {n : ℕ}
    (h : decodeMultiplexerLength (lengthField ++ rest) = .ok (n, lengthField.length))
    (hs : lengthField.length = 2 → 128 ≤ n) : encodeLength n = lengthField := by
  simp only [decodeMultiplexerLength, bind_eq_ok_iff] at h
  obtain ⟨-, -, h⟩ := h
  split_ifs at h with he
  · simp only [pure_eq_ok_iff, Prod.mk.injEq] at h
    obtain ⟨rfl, hlen⟩ := h
    match lengthField, hlen with
    | [b], _ =>
      obtain ⟨hlt, hb⟩ := short_length_of_byte he
      exact (if_pos hlt).trans (congrArg (fun x => [x]) hb)
  · simp only [bind_eq_ok_iff, pure_eq_ok_iff, Prod.mk.injEq] at h
    obtain ⟨-, -, rfl, hlen⟩ := h
    match lengthField, hlen with
    | [b, c], _ =>
      change ¬b &&& 0x01 ≠ 0 at he
      obtain ⟨hlt, hb⟩ := long_length_of_byte (not_not.mp he)
      have hc := c.toNat_lt
      have hn := hs rfl
      change 128 ≤ (b >>> 1).toNat ||| (c.toNat <<< 7) at hn
      change encodeLength ((b >>> 1).toNat ||| (c.toNat <<< 7)) = [b, c]
      rw [lor_shiftLeft_seven _ hlt] at hn ⊢
      have hfirst : (UInt8.ofNat (c.toNat * 128 + (b >>> 1).toNat) &&& 0x7f) <<< 1 = b := by
        rw [and_seven_bits (b := b >>> 1) (by simp only [UInt8.toNat_ofNat']; omega), hb]
      have hsecond : UInt8.ofNat ((c.toNat * 128 + (b >>> 1).toNat) >>> 7) = c := by
        rw [Nat.shiftRight_eq_div_pow, show (c.toNat * 128 + (b >>> 1).toNat) / 2 ^ 7 = c.toNat by omega,
          UInt8.ofNat_toNat]
      rw [encodeLength, if_neg (by omega), hfirst, hsecond]

lemma parseFrame_buildFrame {dlci : UInt8} (cr : Bool) {control : UInt8} {credits : Option UInt8}
    {payload : Bytes} (hd : dlci < 64) (hp : payload.length ≤ 32767)
    (hc : credits.isSome = hasCredits control) :
    parseFrame (buildFrame dlci cr control credits payload) = .ok
      { dlci, commandResponse := cr, kind := frameKind control
        pollFinal := decide (control &&& controlPollFinal ≠ 0), credits, payload } := by
  obtain ⟨ha, hcr, hdlci⟩ := addressByte_spec cr hd
  rw [buildFrame_eq, parseFrame_body ha (encodeLength_pos _) (decode_encodeLength hp) hc, hcr, hdlci]

lemma parseFrame_buildUih {dlci : UInt8} (cr : Bool) (credits : Option UInt8) {payload : Bytes}
    (hd : dlci < 64) (hp : payload.length ≤ 32767) :
    parseFrame (buildUih dlci cr credits payload) = .ok
      { dlci, commandResponse := cr, kind := .uih, pollFinal := credits.isSome, credits, payload } := by
  unfold buildUih
  cases credits with
  | none => exact parseFrame_buildFrame cr hd hp (show false = hasCredits controlUih by decide)
  | some b =>
    have hc : hasCredits controlUihPf = true := by decide
    exact parseFrame_buildFrame cr hd hp (show (some b).isSome = hasCredits controlUihPf from hc.symm)

lemma parseFrame_append {packet extra : Bytes} {frame : RfcommFrame} (h : parseFrame packet = .ok frame)
    (he : extra ≠ []) : ∃ message, parseFrame (packet ++ extra) = .error message := by
  cases hr : parseFrame (packet ++ extra) with
  | error message => exact ⟨message, rfl⟩
  | ok other =>
    exfalso
    match packet with
    | [] => simp [parseFrame, requireLen, ensure, bind, Except.bind] at h
    | [_] => simp [parseFrame, requireLen, ensure, bind, Except.bind] at h
    | address :: control :: rest =>
      obtain ⟨h2, -, len, octets, hl, hlen, -⟩ := parseFrame_cons_eq_ok_iff.mp h
      rw [List.cons_append, List.cons_append] at hr
      obtain ⟨-, -, len', octets', hl', hlen', -⟩ := parseFrame_cons_eq_ok_iff.mp hr
      have hsame : decodeMultiplexerLength (rest ++ extra) = decodeMultiplexerLength rest := by
        match rest, h2 with
        | a :: b :: tail, _ => simp [decodeMultiplexerLength, requireLen, ensure]
      have hpos := List.length_pos_iff.mpr he
      rw [hsame, hl] at hl'
      simp only [Except.ok.injEq, Prod.mk.injEq] at hl'
      simp only [List.length_append] at hlen'
      omega

/-- The length field is in its shortest form: two octets only for a length of 128 or more. -/
def ShortestLength (packet : Bytes) : Prop :=
  ∀ len, decodeLength packet = .ok (len, 2) → 128 ≤ len

lemma buildFrame_parseFrame {packet : Bytes} {frame : RfcommFrame} (h : parseFrame packet = .ok frame)
    (hs : ShortestLength packet) :
    buildFrame frame.dlci frame.commandResponse (packet.getD 1 0) frame.credits frame.payload = packet := by
  obtain ⟨address, control, lengthField, hpacket, ha, hl, hd, hcr⟩ := body_of_parseFrame h
  have hlen : encodeLength frame.payload.length = lengthField := by
    apply encodeLength_of_decode hl
    intro h2
    apply hs
    have hpos : 1 ≤ (body address control lengthField frame.credits frame.payload).length := by
      simp only [body, List.length_append, h2]
      omega
    rw [hpacket, decodeLength, requireLen_of_le (by simpa using hpos)]
    exact hl.trans (by rw [h2])
  rw [buildFrame_eq, hlen, hd, hcr, addressByte_of_parsed ha, hpacket]
  rfl

lemma buildMultiplexerCommand_length (commandType : UInt8) (payload : Bytes) :
    (buildMultiplexerCommand commandType payload).length =
      1 + (encodeLength payload.length).length + payload.length := by
  simp only [buildMultiplexerCommand, List.cons_append, List.length_cons, List.length_append]
  omega

lemma parse_buildMultiplexerCommand (commandType : UInt8) {payload : Bytes} (hp : payload.length ≤ 32767) :
    parseMultiplexerCommand (buildMultiplexerCommand commandType payload) = muxCommandOf commandType payload := by
  have hpos := encodeLength_pos payload.length
  have hlen := buildMultiplexerCommand_length commandType payload
  have hdec : decodeMultiplexerLength ((buildMultiplexerCommand commandType payload).drop 1) =
      .ok (payload.length, (encodeLength payload.length).length) :=
    decode_encodeLength hp payload
  have hcut : ((buildMultiplexerCommand commandType payload).drop
      (1 + (encodeLength payload.length).length)).take payload.length = payload := by
    rw [Nat.add_comm 1]
    simp [buildMultiplexerCommand]
  unfold parseMultiplexerCommand
  rw [requireLen_of_le (by omega), hdec]
  change (do
    requireLen (buildMultiplexerCommand commandType payload)
      (1 + (encodeLength payload.length).length + payload.length) "RFCOMM multiplexer command payload"
    muxCommandOf commandType (((buildMultiplexerCommand commandType payload).drop
      (1 + (encodeLength payload.length).length)).take payload.length)) = _
  rw [requireLen_of_le hlen.ge, hcut]
  rfl

lemma parse_buildParameterNegotiation {commandType : UInt8} (ht : commandType = muxPnCmd ∨ commandType = muxPnRsp)
    (dlci frameType priority : UInt8) (maxFrameSize : UInt16) (credits : UInt8) :
    parseMultiplexerCommand (buildParameterNegotiation commandType dlci frameType priority maxFrameSize credits) =
      .ok (.parameterNegotiation (commandType = muxPnRsp) dlci frameType priority maxFrameSize credits) := by
  rw [buildParameterNegotiation, parse_buildMultiplexerCommand _ (by simp), muxCommandOf, if_pos ht,
    requireLen_of_le (by simp)]
  simp [bind, Except.bind, pure, Except.pure]

lemma parse_buildModemStatus {commandType : UInt8} (ht : commandType = muxMscCmd ∨ commandType = muxMscRsp)
    {dlci : UInt8} (hd : dlci < 64) (signals : UInt8) :
    parseMultiplexerCommand (buildModemStatus commandType dlci signals) =
      .ok (.modemStatus (commandType = muxMscRsp) dlci signals) := by
  have hn : ¬(commandType = muxPnCmd ∨ commandType = muxPnRsp) := by
    rcases ht with rfl | rfl <;> decide
  rw [buildModemStatus, parse_buildMultiplexerCommand _ (by simp), muxCommandOf, if_neg hn, if_pos ht,
    requireLen_of_le (by simp)]
  simp [bind, Except.bind, pure, Except.pure, (addressByte_spec true hd).2.2]

lemma parse_buildNscResponse (commandType : UInt8) :
    parseMultiplexerCommand (buildNscResponse commandType) = .ok (.unknown muxNscRsp [commandType]) := by
  rw [buildNscResponse, parse_buildMultiplexerCommand _ (by simp)]
  rfl

lemma parse_buildEmptyMultiplexerResponse {commandType : UInt8}
    (ht : commandType = muxFconRsp ∨ commandType = muxFcoffRsp) :
    parseMultiplexerCommand (buildEmptyMultiplexerResponse commandType) = .ok (.unknown commandType []) := by
  rw [buildEmptyMultiplexerResponse, parse_buildMultiplexerCommand _ (by simp)]
  rcases ht with rfl | rfl <;> rfl

/-- Every frame and every multiplexer command reads back as it was built, to its last byte, and a frame
with its length in the shortest form is rebuilt from what was read of it. -/
theorem rfcomm_wire_round_trip :
    (∀ (dlci : UInt8) (cr : Bool) (control : UInt8) (credits : Option UInt8) (payload : Bytes),
      dlci < 64 → payload.length ≤ 32767 → credits.isSome = hasCredits control →
        parseFrame (buildFrame dlci cr control credits payload) = .ok
          ⟨dlci, cr, frameKind control, decide (control &&& controlPollFinal ≠ 0), credits, payload⟩ ∧
        ∀ extra, extra ≠ [] →
          ∃ message, parseFrame (buildFrame dlci cr control credits payload ++ extra) = .error message) ∧
    (∀ (dlci : UInt8) (cr : Bool), dlci < 64 →
      parseFrame (buildSabm dlci cr) = .ok ⟨dlci, cr, .sabm, true, none, []⟩ ∧
      parseFrame (buildUa dlci cr) = .ok ⟨dlci, cr, .ua, true, none, []⟩ ∧
      parseFrame (buildDm dlci cr) = .ok ⟨dlci, cr, .dm, true, none, []⟩ ∧
      parseFrame (buildDisc dlci cr) = .ok ⟨dlci, cr, .disc, true, none, []⟩ ∧
      ∀ (credits : Option UInt8) (payload : Bytes), payload.length ≤ 32767 →
        parseFrame (buildUih dlci cr credits payload) = .ok ⟨dlci, cr, .uih, credits.isSome, credits, payload⟩) ∧
    (∀ (dlci priority : UInt8) (maxFrameSize : UInt16) (credits : UInt8),
      parseMultiplexerCommand (buildParameterNegotiationCommand dlci priority maxFrameSize credits) =
        .ok (.parameterNegotiation false dlci pnBluetoothFrameType priority maxFrameSize credits) ∧
      parseMultiplexerCommand (buildParameterNegotiationCommandCfc dlci priority maxFrameSize credits) =
        .ok (.parameterNegotiation false dlci pnBluetoothFrameTypeCfc priority maxFrameSize credits) ∧
      parseMultiplexerCommand (buildParameterNegotiationResponse dlci priority maxFrameSize credits) =
        .ok (.parameterNegotiation true dlci pnBluetoothFrameType priority maxFrameSize credits) ∧
      parseMultiplexerCommand (buildParameterNegotiationResponseCfc dlci priority maxFrameSize credits) =
        .ok (.parameterNegotiation true dlci pnBluetoothFrameTypeCfc priority maxFrameSize credits)) ∧
    (∀ dlci signals : UInt8, dlci < 64 →
      parseMultiplexerCommand (buildModemStatusCommand dlci signals) = .ok (.modemStatus false dlci signals) ∧
      parseMultiplexerCommand (buildModemStatusResponse dlci signals) = .ok (.modemStatus true dlci signals)) ∧
    (∀ commandType : UInt8,
      parseMultiplexerCommand (buildNscResponse commandType) = .ok (.unknown muxNscRsp [commandType])) ∧
    (∀ commandType : UInt8, commandType = muxFconRsp ∨ commandType = muxFcoffRsp →
      parseMultiplexerCommand (buildEmptyMultiplexerResponse commandType) = .ok (.unknown commandType [])) ∧
    (∀ (commandType : UInt8) (payload : Bytes), payload.length ≤ 32767 →
      ∃ octets, decodeMultiplexerLength ((buildMultiplexerCommand commandType payload).drop 1) =
          .ok (payload.length, octets) ∧
        1 + octets + payload.length = (buildMultiplexerCommand commandType payload).length) ∧
    ∀ (packet : Bytes) (frame : RfcommFrame), parseFrame packet = .ok frame → ShortestLength packet →
      buildFrame frame.dlci frame.commandResponse (packet.getD 1 0) frame.credits frame.payload = packet := by
  refine ⟨?_, ?_, ?_, ?_, parse_buildNscResponse, fun _ => parse_buildEmptyMultiplexerResponse, ?_,
    fun _ _ => buildFrame_parseFrame⟩
  · intro dlci cr control credits payload hd hp hc
    have h := parseFrame_buildFrame cr hd hp hc
    exact ⟨h, fun extra he => parseFrame_append h he⟩
  · intro dlci cr hd
    have hempty : ([] : Bytes).length ≤ 32767 := by simp
    exact ⟨parseFrame_buildFrame cr hd hempty (by decide), parseFrame_buildFrame cr hd hempty (by decide),
      parseFrame_buildFrame cr hd hempty (by decide), parseFrame_buildFrame cr hd hempty (by decide),
      fun credits payload hp => parseFrame_buildUih cr credits hd hp⟩
  · intro dlci priority maxFrameSize credits
    exact ⟨parse_buildParameterNegotiation (.inl rfl) .., parse_buildParameterNegotiation (.inl rfl) ..,
      parse_buildParameterNegotiation (.inr rfl) .., parse_buildParameterNegotiation (.inr rfl) ..⟩
  · intro dlci signals hd
    exact ⟨parse_buildModemStatus (.inl rfl) hd signals, parse_buildModemStatus (.inr rfl) hd signals⟩
  · intro commandType payload hp
    exact ⟨_, decode_encodeLength hp payload, (buildMultiplexerCommand_length commandType payload).symm⟩

set_option maxRecDepth 8000 in
theorem rfcomm_wire_round_trip_uih :
    parseFrame (buildFrame 11 true controlUihPf (some 7) [0x41, 0x54]) =
      .ok ⟨11, true, .uih, true, some 7, [0x41, 0x54]⟩ ∧
    parseMultiplexerCommand (buildModemStatusCommand 11 0x8d) = .ok (.modemStatus false 11 0x8d) ∧
    buildFrame 11 true 0xff (some 7) [0x41, 0x54] = [0x2f, 0xff, 0x05, 0x07, 0x41, 0x54, 0xd9] := by
  obtain ⟨hframe, -, -, hmsc, -, -, -, hbuild⟩ := rfcomm_wire_round_trip
  refine ⟨(hframe 11 true controlUihPf (some 7) [0x41, 0x54] (by decide) (by decide) (by decide)).1,
    (hmsc 11 0x8d (by decide)).1, ?_⟩
  refine hbuild [0x2f, 0xff, 0x05, 0x07, 0x41, 0x54, 0xd9] ⟨11, true, .uih, true, some 7, [0x41, 0x54]⟩ (by decide) ?_
  intro len hlen
  have hdec : decodeLength [0x2f, 0xff, 0x05, 0x07, 0x41, 0x54, 0xd9] = .ok (2, 1) := by decide
  simp [hdec] at hlen

end Aokie.Radio.Rfcomm
