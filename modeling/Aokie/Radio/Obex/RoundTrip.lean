import Aokie.Radio.Obex.Packet

/-! What the OBEX encoder writes is read back, and the reader gets to the end of whatever it is given. -/

namespace Aokie.Radio.Obex

open Aokie.Lib

lemma requireLen_eq_ok_iff {input : Bytes} {n : ℕ} {name : String} {u : Unit} :
    requireLen input n name = .ok u ↔ n ≤ input.length := ensure_eq_ok_iff

lemma requireLen_of_le {input : Bytes} {n : ℕ} {name : String} (h : n ≤ input.length) :
    requireLen input n name = .ok () := requireLen_eq_ok_iff.mpr h

lemma beUnits_flatMap (units : List UInt16) : beUnits (units.flatMap u16ToBeBytes) = units := by
  induction units with
  | nil => rfl
  | cons unit units ih =>
      obtain ⟨hi, lo, hbytes⟩ := u16ToBeBytes_eq unit
      rw [List.flatMap_cons, hbytes, List.cons_append, List.cons_append, List.nil_append, beUnits, ih, ← hbytes,
        u16FromBeBytes_toBeBytes]

namespace Header

lemma stripTerminator_append (body : Bytes) : stripTerminator (body ++ [0, 0]) = body := by
  simp [stripTerminator]

lemma sized_eq_ok_iff {input value : Bytes} {name : String} {n : ℕ} : sized input name = .ok (value, n) ↔
    3 ≤ input.length ∧ n = (u16FromBeBytes [input.getD 1 0, input.getD 2 0]).toNat ∧ 3 ≤ n ∧ n ≤ input.length ∧
      value = (input.take n).drop 3 := by
  simp only [sized, bind_eq_ok_iff, requireLen_eq_ok_iff, ensure_eq_ok_iff, pure_eq_ok_iff, Prod.mk.injEq]
  constructor
  · rintro ⟨-, hlen, -, ⟨hmin, hfits⟩, rfl, rfl⟩
    exact ⟨hlen, rfl, hmin, hfits, rfl⟩
  · rintro ⟨hlen, rfl, hmin, hfits, rfl⟩
    exact ⟨(), hlen, (), ⟨hmin, hfits⟩, rfl, rfl⟩

lemma sized_append (id : UInt8) (rest : Bytes) (name : String) {value : Bytes} (h : 3 + value.length ≤ 65535) :
    sized (id :: u16ToBeBytes (UInt16.ofNat (3 + value.length)) ++ value ++ rest) name =
      .ok (value, 3 + value.length) := by
  have hlen : (UInt16.ofNat (3 + value.length)).toNat = 3 + value.length :=
    UInt16.toNat_ofNat_of_lt (by rw [UInt16.size]; omega)
  obtain ⟨hi, lo, hbytes⟩ := u16ToBeBytes_eq (UInt16.ofNat (3 + value.length))
  have hback : u16FromBeBytes [hi, lo] = UInt16.ofNat (3 + value.length) := by
    rw [← hbytes, u16FromBeBytes_toBeBytes]
  rw [hbytes, sized_eq_ok_iff]
  refine ⟨by simp, ?_, by omega, ?_, ?_⟩
  · change 3 + value.length = (u16FromBeBytes [hi, lo]).toNat
    rw [hback, hlen]
  · simp
    omega
  · simp [Nat.add_comm 3]

def WellFormed (h : Header) : Prop := headerKind h.id = h.kind

instance (h : Header) : Decidable h.WellFormed := inferInstanceAs (Decidable (headerKind h.id = h.kind))

lemma length_flatMap_u16ToBeBytes (units : List UInt16) : (units.flatMap u16ToBeBytes).length = units.length * 2 := by
  induction units with
  | nil => rfl
  | cons unit units ih => simp [ih]; omega

lemma encode_unicode (id : UInt8) (value : String) : (unicode id value).encode =
    id :: u16ToBeBytes (UInt16.ofNat (3 + ((encodeUtf16 value.toList).flatMap u16ToBeBytes ++ [0, 0]).length)) ++
      ((encodeUtf16 value.toList).flatMap u16ToBeBytes ++ [0, 0]) := by
  have hlen : 1 + 2 + (encodeUtf16 value.toList).length * 2 + 2 =
      3 + ((encodeUtf16 value.toList).flatMap u16ToBeBytes ++ [0, 0]).length := by
    rw [List.length_append, length_flatMap_u16ToBeBytes]
    simp
    omega
  simp only [encode, hlen, List.append_assoc, List.cons_append]

lemma parse_encode_append {h : Header} (hkind : h.WellFormed) (hlen : h.encode.length ≤ 65535) (rest : Bytes) :
    parse (h.encode ++ rest) = .ok (h, h.encode.length) := by
  cases h with
  | unicode id value =>
      rw [encode_unicode] at hlen ⊢
      set body := (encodeUtf16 value.toList).flatMap u16ToBeBytes ++ [0, 0] with hbody
      have hsize : (id :: u16ToBeBytes (UInt16.ofNat (3 + body.length)) ++ body).length = 3 + body.length := by
        simp
        omega
      rw [hsize] at hlen ⊢
      have heven : body.length % 2 = 0 := by
        rw [hbody, List.length_append, length_flatMap_u16ToBeBytes]
        simp
      have htext : decodeUtf16 (beUnits (stripTerminator body)) = some value.toList := by
        rw [hbody, stripTerminator_append, beUnits_flatMap, decodeUtf16_encodeUtf16]
      have hsized := sized_append id rest "Unicode" hlen
      have hid : headerKind id = .unicode := hkind
      simp only [List.cons_append] at hsized ⊢
      simp only [parse, hid, hsized, bind, Except.bind, ensure, heven, if_true, htext, String.ofList_toList]
  | byteSeq id value =>
      have hsize : (byteSeq id value).encode.length = 3 + value.length := by
        simp [encode]
        omega
      rw [hsize] at hlen ⊢
      have hsized := sized_append id rest "ByteSeq" hlen
      have hid : headerKind id = .byteSeq := hkind
      simp only [encode, List.cons_append] at hsized ⊢
      simp only [parse, hid, hsized, bind, Except.bind, pure, Except.pure]
  | byte id value =>
      have hid : headerKind id = .byte := hkind
      simp only [encode, List.cons_append, List.nil_append, parse, hid]
      rw [requireLen_of_le (by simp)]
      rfl
  | quad id value =>
      have hid : headerKind id = .quad := hkind
      obtain ⟨a, b, c, d, hbytes⟩ := u32ToBeBytes_eq value
      have hback : u32FromBeBytes [a, b, c, d] = value := by rw [← hbytes, u32FromBeBytes_toBeBytes]
      simp only [encode, hbytes, List.cons_append, List.nil_append, parse, hid]
      rw [requireLen_of_le (by simp)]
      simp [bind, Except.bind, pure, Except.pure, hback]

lemma parse_progress {input : Bytes} {h : Header} {used : ℕ} (hparse : parse input = .ok (h, used)) :
    2 ≤ used ∧ used ≤ input.length := by
  cases input with
  | nil => simp [parse] at hparse
  | cons id tail =>
      cases hid : headerKind id with
      | unicode =>
          simp only [parse, hid] at hparse
          obtain ⟨⟨body, totalLen⟩, hsized, hparse⟩ := bind_eq_ok_iff.mp hparse
          obtain ⟨-, -, hmin, hfits, -⟩ := sized_eq_ok_iff.mp hsized
          obtain ⟨-, -, hparse⟩ := bind_eq_ok_iff.mp hparse
          cases htext : decodeUtf16 (beUnits (stripTerminator body)) with
          | none => simp [htext] at hparse
          | some value =>
              simp only [htext, Except.ok.injEq, Prod.mk.injEq] at hparse
              omega
      | byteSeq =>
          simp only [parse, hid] at hparse
          obtain ⟨⟨value, totalLen⟩, hsized, hparse⟩ := bind_eq_ok_iff.mp hparse
          obtain ⟨-, -, hmin, hfits, -⟩ := sized_eq_ok_iff.mp hsized
          simp only [pure_eq_ok_iff, Prod.mk.injEq] at hparse
          omega
      | byte =>
          simp only [parse, hid] at hparse
          obtain ⟨u, hlen, hparse⟩ := bind_eq_ok_iff.mp hparse
          have hlen := requireLen_eq_ok_iff.mp hlen
          simp only [pure_eq_ok_iff, Prod.mk.injEq] at hparse
          omega
      | quad =>
          simp only [parse, hid] at hparse
          obtain ⟨u, hlen, hparse⟩ := bind_eq_ok_iff.mp hparse
          have hlen := requireLen_eq_ok_iff.mp hlen
          simp only [pure_eq_ok_iff, Prod.mk.injEq] at hparse
          omega

lemma encode_length_pos (h : Header) : 2 ≤ h.encode.length := by
  cases h <;> simp [encode] <;> omega

end Header

namespace Packet

variable {input : Bytes} {total : ℕ}

lemma parseHeaders_isSome {fuel offset : ℕ} (headers : List Header) (hfuel : total - offset ≤ 2 * fuel) :
    (parseHeaders input total fuel offset headers).isSome := by
  induction fuel generalizing offset headers with
  | zero =>
      rw [parseHeaders, if_neg (by omega)]
      rfl
  | succ fuel ih =>
      rw [parseHeaders]
      split_ifs
      · cases hheader : Header.parse ((input.take total).drop offset) with
        | error message => rfl
        | ok parsed =>
            obtain ⟨header, used⟩ := parsed
            obtain ⟨hused, -⟩ := Header.parse_progress hheader
            exact ih _ (by omega)
      · rfl

lemma parseHeaders_mono {fuel offset : ℕ} {headers : List Header} {result : Except String (List Header)}
    (h : parseHeaders input total fuel offset headers = some result) (more : ℕ) :
    parseHeaders input total (fuel + more) offset headers = some result := by
  induction fuel generalizing offset headers with
  | zero =>
      rw [parseHeaders] at h
      rw [parseHeaders.eq_def]
      split_ifs at h ⊢ with hoffset
      exact h
  | succ fuel ih =>
      rw [parseHeaders] at h
      rw [Nat.add_right_comm, parseHeaders]
      split_ifs at h ⊢ with hoffset
      · cases hheader : Header.parse ((input.take total).drop offset) with
        | error message => simpa only [hheader] using h
        | ok parsed =>
            simp only [hheader] at h ⊢
            exact ih h
      · exact h

lemma parseHeaders_count {fuel offset : ℕ} {headers read : List Header} (htotal : total ≤ input.length)
    (hoffset : offset ≤ total) (h : parseHeaders input total fuel offset headers = some (.ok read)) :
    2 * read.length + offset ≤ 2 * headers.length + total := by
  induction fuel generalizing offset headers with
  | zero =>
      rw [parseHeaders] at h
      split_ifs at h
      obtain rfl : headers = read := by simpa using h
      omega
  | succ fuel ih =>
      rw [parseHeaders] at h
      split_ifs at h with hmore
      · cases hheader : Header.parse ((input.take total).drop offset) with
        | error message => simp [hheader] at h
        | ok parsed =>
            obtain ⟨header, used⟩ := parsed
            obtain ⟨hused, hfits⟩ := Header.parse_progress hheader
            rw [List.length_drop, List.length_take, min_eq_left htotal] at hfits
            simp only [hheader] at h
            have hcount := ih (by omega) h
            rw [List.length_append, List.length_singleton] at hcount
            omega
      · obtain rfl : headers = read := by simpa using h
        omega

lemma parseHeaders_encode {fuel offset : ℕ} {hs : List Header} (headers : List Header)
    (hkind : ∀ h ∈ hs, h.WellFormed) (hlen : (hs.flatMap Header.encode).length ≤ 65535)
    (hrest : (input.take total).drop offset = hs.flatMap Header.encode)
    (htotal : total = offset + (hs.flatMap Header.encode).length) (hfuel : hs.length ≤ fuel) :
    parseHeaders input total fuel offset headers = some (.ok (headers ++ hs)) := by
  induction hs generalizing fuel offset headers with
  | nil =>
      rw [parseHeaders.eq_def, if_neg (by simp [htotal])]
      simp
  | cons h hs ih =>
      obtain ⟨hkindHead, hkindTail⟩ := List.forall_mem_cons.mp hkind
      obtain ⟨fuel, rfl⟩ : ∃ n, fuel = n + 1 := ⟨fuel - 1, by simp at hfuel; omega⟩
      have hpos := h.encode_length_pos
      rw [List.flatMap_cons, List.length_append] at hlen htotal
      have hheader := Header.parse_encode_append hkindHead (by omega) (hs.flatMap Header.encode)
      rw [parseHeaders, if_pos (by omega), hrest, List.flatMap_cons, hheader]
      simp only
      rw [ih (headers ++ [h]) hkindTail (by omega) ?_ (by omega) (by simpa using hfuel), List.append_assoc]
      · rfl
      · rw [← List.drop_drop, hrest, List.flatMap_cons, List.drop_left]

lemma parseHeaders_congr {input' : Bytes} (htake : input.take total = input'.take total) (fuel offset : ℕ)
    (headers : List Header) :
    parseHeaders input total fuel offset headers = parseHeaders input' total fuel offset headers := by
  induction fuel generalizing offset headers with
  | zero => rw [parseHeaders, parseHeaders]
  | succ fuel ih => simp only [parseHeaders, htake, ih]

lemma parseWithin_of_fits {fixed : FixedPayload} (hinput : 3 ≤ input.length)
    (hmin : 3 + fixed.len ≤ declaredLength input)
    (hfits : declaredLength input ≤ input.length) (fuel : ℕ) :
    parseWithin fuel input fixed = (parseHeaders input (declaredLength input) fuel (3 + fixed.len) []).map
      (Except.map fun headers => ⟨input.getD 0 0, (input.take (3 + fixed.len)).drop 3, headers⟩) := by
  simp only [parseWithin, requireLen_of_le hinput]
  rw [if_neg (not_lt.mpr hmin), if_neg (not_lt.mpr hfits)]

lemma parseHeaders_fuel {n m offset : ℕ} (headers : List Header) (hn : total - offset ≤ 2 * n)
    (hm : total - offset ≤ 2 * m) :
    parseHeaders input total n offset headers = parseHeaders input total m offset headers := by
  have hends : (parseHeaders input total n offset headers).isSome := parseHeaders_isSome headers hn
  have hends' : (parseHeaders input total m offset headers).isSome := parseHeaders_isSome headers hm
  obtain ⟨r, hr⟩ := Option.isSome_iff_exists.mp hends
  obtain ⟨q, hq⟩ := Option.isSome_iff_exists.mp hends'
  have hsame : some r = some q := by
    rw [← parseHeaders_mono hr m, ← parseHeaders_mono hq n, Nat.add_comm n m]
  rw [hr, hq, hsame]

lemma parseWithin_eq_parse (fixed : FixedPayload) {fuel : ℕ} (hfuel : declaredLength input ≤ 2 * fuel + 3) :
    parseWithin fuel input fixed = some (parse input fixed) := by
  have hsome : (parseWithin fuel input fixed).isSome := by
    simp only [parseWithin]
    split
    · rfl
    · split_ifs
      · rfl
      · rfl
      · rw [Option.isSome_map]
        exact parseHeaders_isSome _ (by omega)
  have hsame : parseWithin input.length input fixed = parseWithin fuel input fixed := by
    simp only [parseWithin]
    split
    · rfl
    · split_ifs
      · rfl
      · rfl
      · exact congrArg (Option.map _) (parseHeaders_fuel [] (by omega) (by omega))
  obtain ⟨r, hr⟩ := Option.isSome_iff_exists.mp hsome
  rw [parse, hsame, hr]
  rfl

lemma encode_length (p : Packet) :
    p.encode.length = 3 + p.fixedPayload.length + (p.headers.flatMap Header.encode).length := by
  simp [encode]
  omega

lemma declaredLength_encode {p : Packet} (h : p.encode.length ≤ 65535) :
    declaredLength p.encode = p.encode.length := by
  rw [encode_length] at h ⊢
  set n := 3 + p.fixedPayload.length + (p.headers.flatMap Header.encode).length with hn
  have hnat : (UInt16.ofNat n).toNat = n := UInt16.toNat_ofNat_of_lt (by rw [UInt16.size]; omega)
  obtain ⟨hi, lo, hbytes⟩ := u16ToBeBytes_eq (UInt16.ofNat n)
  have hdeclared : declaredLength p.encode = (u16FromBeBytes [hi, lo]).toNat := by
    simp only [encode, ← hn, hbytes]
    rfl
  rw [hdeclared, ← hbytes, u16FromBeBytes_toBeBytes, hnat]

lemma length_le_flatMap_encode (hs : List Header) : hs.length ≤ (hs.flatMap Header.encode).length := by
  induction hs with
  | nil => simp
  | cons h hs ih =>
      have hpos := h.encode_length_pos
      rw [List.flatMap_cons, List.length_append, List.length_cons]
      omega

lemma encode_eq (p : Packet) :
    ∃ hi lo, p.encode = p.opcode :: hi :: lo :: (p.fixedPayload ++ p.headers.flatMap Header.encode) := by
  obtain ⟨hi, lo, hbytes⟩ := u16ToBeBytes_eq
    (UInt16.ofNat (3 + p.fixedPayload.length + (p.headers.flatMap Header.encode).length))
  exact ⟨hi, lo, by simp only [encode, hbytes, List.cons_append, List.nil_append]⟩

lemma parse_encode {p : Packet} {fixed : FixedPayload} (hkind : ∀ h ∈ p.headers, h.WellFormed)
    (hfixed : p.fixedPayload.length = fixed.len) (hlen : p.encode.length ≤ 65535) :
    parse p.encode fixed = .ok p := by
  have hdeclared := declaredLength_encode hlen
  have hsize := encode_length p
  have hcount := length_le_flatMap_encode p.headers
  obtain ⟨hi, lo, hbytes⟩ := encode_eq p
  have hheaders : (p.encode.take (declaredLength p.encode)).drop (3 + fixed.len) = p.headers.flatMap Header.encode := by
    rw [hdeclared, List.take_length, ← hfixed, hbytes, Nat.add_comm 3]
    simp
  have hpayload : (p.encode.take (3 + fixed.len)).drop 3 = p.fixedPayload := by
    rw [← hfixed, hbytes, Nat.add_comm 3]
    simp
  have hopcode : p.encode.getD 0 0 = p.opcode := by rw [hbytes]; rfl
  have hshort : (p.headers.flatMap Header.encode).length ≤ 65535 := by omega
  have htotal : declaredLength p.encode = 3 + fixed.len + (p.headers.flatMap Header.encode).length := by omega
  have hfuel : p.headers.length ≤ p.encode.length := by omega
  have hread := parseHeaders_encode [] hkind hshort hheaders htotal hfuel
  rw [parse, parseWithin_of_fits (by omega) (by omega) (by omega), hread, hpayload, hopcode]
  rfl

lemma parse_append {fixed : FixedPayload} (hinput : 3 ≤ input.length) (hfits : declaredLength input ≤ input.length)
    (more : Bytes) : parse (input ++ more) fixed = parse input fixed := by
  have hget : ∀ i < 3, (input ++ more).getD i 0 = input.getD i 0 := by
    intro i hi
    rw [List.getD_append _ _ _ _ (by omega)]
  have hdeclared : declaredLength (input ++ more) = declaredLength input := by
    rw [declaredLength, declaredLength, hget 1 (by omega), hget 2 (by omega)]
  have htake : (input ++ more).take (declaredLength input) = input.take (declaredLength input) :=
    List.take_append_of_le_length hfits
  have hwithin : ∀ fuel, parseWithin fuel (input ++ more) fixed = parseWithin fuel input fixed := by
    intro fuel
    have hlong : input.length ≤ (input ++ more).length := by simp
    simp only [parseWithin, requireLen_of_le hinput, requireLen_of_le (hinput.trans hlong), hdeclared,
      hget 0 (by omega)]
    by_cases hmin : declaredLength input < 3 + fixed.len
    · rw [if_pos hmin, if_pos hmin]
    · rw [if_neg hmin, if_neg hmin, if_neg (by omega), if_neg (by omega), parseHeaders_congr htake,
        List.take_append_of_le_length (by omega)]
  have hends : parseWithin input.length (input ++ more) fixed = some (parse (input ++ more) fixed) :=
    parseWithin_eq_parse fixed (by omega)
  have hends' : parseWithin input.length input fixed = some (parse input fixed) := parseWithin_eq_parse fixed (by omega)
  exact Option.some.inj (hends.symm.trans ((hwithin input.length).trans hends'))

lemma parse_count {fixed : FixedPayload} {p : Packet} (h : parse input fixed = .ok p) :
    3 + fixed.len + 2 * p.headers.length ≤ declaredLength input ∧ declaredLength input ≤ input.length := by
  simp only [parse, parseWithin] at h
  cases hlen : requireLen input 3 "OBEX packet header" with
  | error message => simp [hlen] at h
  | ok u =>
      simp only [hlen] at h
      split_ifs at h with hmin hover
      · simp at h
      · simp at h
      · have hends : (parseHeaders input (declaredLength input) input.length (3 + fixed.len) []).isSome :=
          parseHeaders_isSome [] (by omega)
        obtain ⟨result, hresult⟩ := Option.isSome_iff_exists.mp hends
        cases result with
        | error message => simp [hresult, Except.map] at h
        | ok headers =>
            have hcount := parseHeaders_count (by omega) (by omega) hresult
            simp only [hresult, Option.map_some, Option.getD_some, Except.map, Except.ok.injEq] at h
            subst h
            simp only [List.length_nil] at hcount ⊢
            omega

/-- Packets are read back as they were written, and reading any bytes ends: each header takes two of them or more,
and none past the declared length counts. -/
theorem obex_packet_round_trip :
    (∀ (p : Packet) (fixed : FixedPayload), (∀ h ∈ p.headers, h.WellFormed) → p.fixedPayload.length = fixed.len →
      p.encode.length ≤ 65535 → parse p.encode fixed = .ok p) ∧
    (∀ (input : Bytes) (fixed : FixedPayload) (fuel : ℕ), declaredLength input ≤ 2 * fuel + 3 →
      parseWithin fuel input fixed = some (parse input fixed)) ∧
    (∀ (input : Bytes) (h : Header) (used : ℕ), Header.parse input = .ok (h, used) →
      2 ≤ used ∧ used ≤ input.length) ∧
    (∀ (input : Bytes) (fixed : FixedPayload) (p : Packet), parse input fixed = .ok p →
      3 + fixed.len + 2 * p.headers.length ≤ declaredLength input ∧ declaredLength input ≤ input.length) ∧
    ∀ (input more : Bytes) (fixed : FixedPayload), 3 ≤ input.length → declaredLength input ≤ input.length →
      parse (input ++ more) fixed = parse input fixed :=
  ⟨fun _ _ => parse_encode, fun _ fixed _ => parseWithin_eq_parse fixed, fun _ _ _ => Header.parse_progress,
    fun _ _ _ => parse_count, fun _ more _ hinput hfits => parse_append hinput hfits more⟩

/-- A SETPATH whose name has a surrogate pair, a NUL inside and a NUL at its end. -/
theorem obex_packet_round_trip_setpath :
    parse (Packet.encode ⟨opSetpath, [0, 0], [.connectionId 7, .name "a\x00😀\x00"]⟩) .setPath =
      .ok ⟨opSetpath, [0, 0], [.connectionId 7, .name "a\x00😀\x00"]⟩ :=
  obex_packet_round_trip.1 ⟨opSetpath, [0, 0], [.connectionId 7, .name "a\x00😀\x00"]⟩ .setPath (by decide) rfl
    (by decide)

end Packet

end Aokie.Radio.Obex
