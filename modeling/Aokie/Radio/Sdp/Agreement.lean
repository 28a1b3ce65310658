import Aokie.Radio.Sdp.Client
import Aokie.Radio.Sdp.Element

/-! What the client reads out of the server's answers is what the records were built with. -/

namespace Aokie.Radio.Sdp

open Aokie.Lib

/-- A service record's attributes, each with its value. -/
structure Record where
  handle : UInt32
  attributes : List (UInt16 × Element)
  fits : ∀ attr ∈ attributes, attr.2.Fits

namespace Record

def elements (record : Record) : List Element :=
  record.attributes.flatMap fun attr => [.uint16 attr.1, attr.2]

def encoded (record : Record) : Bytes := Element.encodeAll record.elements

def service (record : Record) : ServiceRecord := .new record.handle record.encoded

def Mentions (record : Record) (u : UInt16) : Prop := ∃ attr ∈ record.attributes, attr.2.Occurs u

instance (record : Record) (u : UInt16) : Decidable (record.Mentions u) := List.decidableBEx _ _

def value (record : Record) (attrId : UInt16) : Option Element :=
  (record.attributes.find? fun attr => attr.1 == attrId).map Prod.snd

end Record

lemma Element.fitsAll_iff {elements : List Element} : FitsAll elements ↔ ∀ element ∈ elements, element.Fits := by
  induction elements with
  | nil => simp [FitsAll]
  | cons element elements ih => simp [FitsAll, ih]

lemma Record.fitsAll (record : Record) : Element.FitsAll record.elements := by
  rw [Element.fitsAll_iff]
  intro element hmem
  obtain ⟨attr, hattr, hmem⟩ := List.mem_flatMap.mp hmem
  simp only [List.mem_cons, List.not_mem_nil, or_false] at hmem
  obtain rfl | rfl := hmem
  · trivial
  · exact record.fits attr hattr

lemma collectUuid16s_encodeAll {fuel : ℕ} {elements : List Element} (hfits : Element.FitsAll elements)
    (hfuel : (Element.encodeAll elements).length < fuel) (out : List UInt16) :
    collectUuid16s fuel (Element.encodeAll elements) out = (out ++ Element.uuidsAll elements, .ok ()) := by
  induction fuel generalizing elements out with
  | zero => omega
  | succ fuel ih =>
      cases elements with
      | nil => simp [Element.encodeAll, Element.uuidsAll, collectUuid16s]
      | cons element elements =>
          obtain ⟨hfirst, hrest⟩ := hfits
          have hpos := encode_length_pos element
          have hlen : (Element.encodeAll (element :: elements)).length =
              element.encode.length + (Element.encodeAll elements).length := by simp [Element.encodeAll]
          have hparse := parse_encode hfirst (Element.encodeAll elements)
          have hdrop : (element.encode ++ Element.encodeAll elements).drop element.encode.length =
              Element.encodeAll elements := List.drop_left
          have hne : (element.encode ++ Element.encodeAll elements).isEmpty = false := by
            rw [List.isEmpty_eq_false_iff]
            intro h
            rw [List.append_eq_nil_iff] at h
            rw [h.1] at hpos
            exact absurd hpos (by simp)
          have hnext := fun out => ih hrest (by omega) out
          rw [Element.encodeAll, collectUuid16s, hne]
          cases element with
          | sequence form inner | alternative form inner =>
              have hinner : (Element.encodeAll inner).length < fuel := by
                simp only [Element.encode, variableElement, List.length_append, List.length_cons] at hlen
                omega
              have hcollect := ih hfirst.2 hinner out
              simp only [hparse, Element.parsed, hcollect, hdrop, hnext, Element.uuidsAll, Element.uuids,
                Bool.false_eq_true, if_false, List.append_assoc]
          | uuid32 value =>
              simp only [hparse, Element.parsed, hdrop, hnext, Element.uuidsAll, ParsedDataElement.asUuid16,
                Element.uuids, Bool.false_eq_true, if_false, List.append_assoc]
              split_ifs <;> rfl
          | _ =>
              simp only [hparse, Element.parsed, hdrop, hnext, Element.uuidsAll, ParsedDataElement.asUuid16,
                Element.uuids, Bool.false_eq_true, if_false, List.append_assoc, Option.toList]

lemma mem_destutter' {u : UInt16} (b : UInt16) {uuids : List UInt16} (h : u ∈ b :: uuids) :
    u ∈ uuids.destutter' (· ≠ ·) b := by
  induction uuids generalizing b with
  | nil => simpa using h
  | cons c uuids ih =>
      rw [List.destutter'_cons]
      split_ifs with hne
      · obtain rfl | h := List.mem_cons.mp h
        · exact List.mem_cons_self ..
        · exact List.mem_cons_of_mem _ (ih c h)
      · apply ih b
        rw [not_not] at hne
        subst hne
        simpa using h

lemma mem_sortDedup {u : UInt16} {uuids : List UInt16} : u ∈ sortDedup uuids ↔ u ∈ uuids := by
  have hsort : u ∈ uuids.mergeSort (fun a b => decide (a ≤ b)) ↔ u ∈ uuids := List.mem_mergeSort
  rw [sortDedup, ← hsort]
  constructor
  · intro h
    exact (List.destutter_sublist _ _).subset h
  · intro h
    cases hl : uuids.mergeSort (fun a b => decide (a ≤ b)) with
    | nil => simp [hl] at h
    | cons b rest =>
        rw [hl] at h
        exact mem_destutter' b h

lemma Record.mem_searchableUuids {record : Record} {u : UInt16} :
    u ∈ record.service.searchableUuids ↔ record.Mentions u := by
  have hcollect := collectUuid16s_encodeAll record.fitsAll (Nat.lt_succ_self _) []
  simp only [service, ServiceRecord.new, encoded, mem_sortDedup, hcollect, List.nil_append, Element.mem_uuidsAll]
  simp only [elements, List.mem_flatMap, List.mem_cons, List.not_mem_nil, or_false, Mentions, Element.occurs_iff]
  constructor
  · rintro ⟨element, ⟨attr, hattr, rfl | rfl⟩, hmem⟩
    · simp [Element.uuids] at hmem
    · exact ⟨attr, hattr, hmem⟩
  · rintro ⟨attr, hattr, hmem⟩
    exact ⟨attr.2, ⟨attr, hattr, .inr rfl⟩, hmem⟩

lemma parse_uuid16 (u : UInt16) (rest : Bytes) :
    parseDataElement ((Element.uuid16 u).encode ++ rest) = .ok (.uuid16 u, 3) := by
  rw [parse_encode (by simp [Element.Fits])]
  simp [Element.parsed, Element.encode]

lemma parseUuidSearchPattern_uuid16 (u : UInt16) :
    parseUuidSearchPattern (encodeDataElement (.uuid16 u)) = .ok (some [u]) := by
  have hparse := parse_uuid16 u []
  rw [List.append_nil] at hparse
  have hencode : encodeDataElement (.uuid16 u) = (Element.uuid16 u).encode := rfl
  have hlen : (Element.uuid16 u).encode.length = 3 := by simp [Element.encode]
  have hne : (Element.uuid16 u).encode.isEmpty = false := rfl
  have hrest : (Element.uuid16 u).encode.drop 3 = [] := List.drop_of_length_le hlen.le
  rw [hencode, parseUuidSearchPattern, hlen]
  simp [searchPatternFrom, hparse, hne, hrest, ParsedDataElement.asUuid16, bind, Except.bind]

lemma encodeVariableElement_eq (baseDescriptor : UInt8) {payload : Bytes} (h : payload.length < 4294967296) :
    ∃ form : LengthForm, payload.length < 256 ^ form.width ∧
      encodeVariableElement baseDescriptor payload = variableElement baseDescriptor form payload := by
  simp only [encodeVariableElement]
  split_ifs with hshort hmedium
  · refine ⟨.bits8, by simp [LengthForm.width]; omega, ?_⟩
    simp [variableElement, LengthForm.offset, LengthForm.width, beBytes]
  · refine ⟨.bits16, by simp [LengthForm.width]; omega, ?_⟩
    have hlen : (UInt16.ofNat payload.length).toNat = payload.length :=
      UInt16.toNat_ofNat_of_lt (by rw [UInt16.size]; omega)
    simp only [variableElement, LengthForm.offset, LengthForm.width, u16ToBeBytes, hlen]
  · refine ⟨.bits32, by simp [LengthForm.width]; omega, ?_⟩
    have hlen : (UInt32.ofNat payload.length).toNat = payload.length :=
      UInt32.toNat_ofNat_of_lt (by rw [UInt32.size]; omega)
    simp only [variableElement, LengthForm.offset, LengthForm.width, u32ToBeBytes, hlen]

lemma parse_sequence {payload : Bytes} (h : payload.length < 4294967296) (rest : Bytes) :
    parseDataElement (encodeDataElement (.sequence payload) ++ rest) =
      .ok (.sequence payload, (encodeDataElement (.sequence payload)).length) := by
  obtain ⟨form, hfits, heq⟩ := encodeVariableElement_eq 0x35 h
  rw [encodeDataElement, heq]
  exact (parse_variableElement form payload rest hfits).2.2.1

lemma parse_request (t u m : UInt16) :
    parseServiceSearchAttributeRequest (Client.buildServiceSearchAttributeRequest t u m) =
      .ok ⟨t, encodeDataElement (.uuid16 u), m, encodeDataElement (.uint32 0xffff), []⟩ := by
  obtain ⟨t1, t0, ht⟩ := u16ToBeBytes_eq t
  obtain ⟨u1, u0, hu⟩ := u16ToBeBytes_eq u
  obtain ⟨m1, m0, hm⟩ := u16ToBeBytes_eq m
  have hlen : u16ToBeBytes 15 = [0, 15] := by decide
  have hparams : (u16FromBeBytes [0, 15]).toNat = 15 := by decide
  have hall : u32ToBeBytes 65535 = [0, 0, 0xff, 0xff] := by decide
  have hrequest : Client.buildServiceSearchAttributeRequest t u m =
      [0x06, t1, t0, 0x00, 15, 0x35, 3, 0x19, u1, u0, m1, m0, 0x35, 5, 0x0a, 0, 0, 0xff, 0xff, 0] := by
    simp [Client.buildServiceSearchAttributeRequest, Client.buildServiceSearchAttributeRequestContinued,
      encodeDataElement, encodeVariableElement, ht, hu, hm, hlen, hall, pduServiceSearchAttributeRequest]
  have hread : parseServiceSearchAttributeRequest
      [0x06, t1, t0, 0x00, 15, 0x35, 3, 0x19, u1, u0, m1, m0, 0x35, 5, 0x0a, 0, 0, 0xff, 0xff, 0] =
      .ok ⟨u16FromBeBytes [t1, t0], [0x19, u1, u0], u16FromBeBytes [m1, m0], [0x0a, 0, 0, 0xff, 0xff], []⟩ := by
    simp [parseServiceSearchAttributeRequest, requireLen, ensure, pduServiceSearchAttributeRequest, parseDataElement,
      variablePayload, beNat, sequencePayload, hparams, bind, Except.bind, pure, Except.pure]
  rw [hrequest, hread, ← ht, ← hm, u16FromBeBytes_toBeBytes, u16FromBeBytes_toBeBytes, encodeDataElement,
    encodeDataElement, hu, hall]

lemma encodeVariableElement_length (baseDescriptor : UInt8) (payload : Bytes) :
    (encodeVariableElement baseDescriptor payload).length =
      payload.length + if payload.length ≤ 255 then 2 else if payload.length ≤ 65535 then 3 else 5 := by
  simp only [encodeVariableElement]
  split_ifs <;> simp <;> omega

lemma encodeVariableElement_length_mono (baseDescriptor : UInt8) {xs ys : Bytes} (h : xs.length ≤ ys.length) :
    (encodeVariableElement baseDescriptor xs).length ≤ (encodeVariableElement baseDescriptor ys).length := by
  rw [encodeVariableElement_length, encodeVariableElement_length]
  split_ifs <;> omega

lemma length_flatMap_le_of_sublist {α : Type} {xs ys : List α} (f : α → Bytes) (h : xs.Sublist ys) :
    (xs.flatMap f).length ≤ (ys.flatMap f).length := by
  induction h with
  | slnil => simp
  | cons y _ ih =>
      rw [List.flatMap_cons, List.length_append]
      omega
  | cons_cons y _ ih =>
      rw [List.flatMap_cons, List.flatMap_cons, List.length_append, List.length_append]
      omega

lemma attributeLists_length_le {xs ys : List ServiceRecord} (h : xs.Sublist ys) :
    (SdpServer.attributeLists xs).length ≤ (SdpServer.attributeLists ys).length :=
  encodeVariableElement_length_mono _ (length_flatMap_le_of_sublist _ h)

lemma parse_response (t : UInt16) {attributeList : Bytes} (h : attributeList.length < 65530) :
    Client.parseServiceSearchAttributeResponse (serviceSearchAttributeResponse t attributeList) =
      .ok ⟨t, attributeList, []⟩ := by
  set params := u16ToBeBytes (UInt16.ofNat attributeList.length) ++ attributeList ++ [0] with hparams
  have hcount : (UInt16.ofNat attributeList.length).toNat = attributeList.length :=
    UInt16.toNat_ofNat_of_lt (by rw [UInt16.size]; omega)
  have hsize : params.length = attributeList.length + 3 := by
    simp [hparams]
    omega
  have hlen : (UInt16.ofNat params.length).toNat = params.length :=
    UInt16.toNat_ofNat_of_lt (by rw [UInt16.size]; omega)
  obtain ⟨t1, t0, ht⟩ := u16ToBeBytes_eq t
  obtain ⟨p1, p0, hp⟩ := u16ToBeBytes_eq (UInt16.ofNat params.length)
  obtain ⟨a1, a0, ha⟩ := u16ToBeBytes_eq (UInt16.ofNat attributeList.length)
  have hreply : serviceSearchAttributeResponse t attributeList = 0x07 :: t1 :: t0 :: p1 :: p0 :: params := by
    simp [serviceSearchAttributeResponse, ← hparams, ht, hp, pduServiceSearchAttributeResponse]
  have hdeclared : (u16FromBeBytes [p1, p0]).toNat = params.length := by rw [← hp, u16FromBeBytes_toBeBytes, hlen]
  have hbody : params = a1 :: a0 :: (attributeList ++ [0]) := by simp [hparams, ha]
  have hlists : (u16FromBeBytes [a1, a0]).toNat = attributeList.length := by
    rw [← ha, u16FromBeBytes_toBeBytes, hcount]
  have htid : u16FromBeBytes [t1, t0] = t := by rw [← ht, u16FromBeBytes_toBeBytes]
  rw [hreply]
  simp only [Client.parseServiceSearchAttributeResponse]
  simp [Client.requireLen, ensure, pduServiceSearchAttributeResponse, hdeclared, htid, bind, Except.bind, pure,
    Except.pure, Nat.add_comm]
  simp [hbody, hlists, Nat.add_comm]
  simp (disch := omega) only [if_pos]

lemma recordsFrom_flatMap {fuel : ℕ} {records : List ServiceRecord}
    (hshort : ∀ r ∈ records, r.encodedRecord.length < 4294967296)
    (hfuel : (records.flatMap fun r => encodeDataElement (.sequence r.encodedRecord)).length ≤ fuel)
      (found : List Bytes) :
    Client.recordsFrom fuel (records.flatMap fun r => encodeDataElement (.sequence r.encodedRecord)) found =
      .ok (found ++ records.map ServiceRecord.encodedRecord) := by
  induction records generalizing fuel found with
  | nil => cases fuel <;> simp [Client.recordsFrom]
  | cons r records ih =>
      obtain ⟨hr, hrecords⟩ := List.forall_mem_cons.mp hshort
      have hlen := encodeVariableElement_length 0x35 r.encodedRecord
      have hpos : 0 < (encodeDataElement (.sequence r.encodedRecord)).length := by
        rw [encodeDataElement, hlen]
        split_ifs <;> omega
      rw [List.flatMap_cons] at hfuel ⊢
      rw [List.length_append] at hfuel
      obtain ⟨fuel, rfl⟩ : ∃ n, fuel = n + 1 := ⟨fuel - 1, by omega⟩
      have hne : (encodeDataElement (.sequence r.encodedRecord) ++
          records.flatMap fun r => encodeDataElement (.sequence r.encodedRecord)).isEmpty = false := by
        rw [List.isEmpty_eq_false_iff]
        intro hnil
        rw [(List.append_eq_nil_iff.mp hnil).1] at hpos
        exact absurd hpos (by simp)
      simp only [Client.recordsFrom, hne, parse_sequence hr, sequencePayload, bind, Except.bind, List.drop_left,
        Bool.false_eq_true, if_false]
      rw [ih hrecords (by omega)]
      simp

lemma iterRecords_attributeLists {records : List ServiceRecord}
    (h : (SdpServer.attributeLists records).length < 65530) :
    Client.iterRecords (SdpServer.attributeLists records) = .ok (records.map ServiceRecord.encodedRecord) := by
  set payload := records.flatMap fun r => encodeDataElement (.sequence r.encodedRecord) with hpayload
  have hlen := encodeVariableElement_length 0x35 payload
  have hsmall : payload.length < 65530 := by
    rw [SdpServer.attributeLists, encodeDataElement, ← hpayload, hlen] at h
    omega
  have hshort : ∀ r ∈ records, r.encodedRecord.length < 4294967296 := by
    intro r hr
    have hle : (encodeDataElement (.sequence r.encodedRecord)).length ≤ payload.length := by
      rw [hpayload, List.length_flatMap]
      exact List.le_sum_of_mem (List.mem_map_of_mem hr)
    rw [encodeDataElement, encodeVariableElement_length] at hle
    omega
  have hparse : parseDataElement (encodeDataElement (.sequence payload)) =
      .ok (.sequence payload, (encodeDataElement (.sequence payload)).length) := by
    simpa using parse_sequence (show payload.length < 4294967296 by omega) []
  rw [SdpServer.attributeLists, ← hpayload]
  simp only [Client.iterRecords, hparse, bind, Except.bind, ensure, if_true, sequencePayload]
  rw [recordsFrom_flatMap hshort le_rfl, List.nil_append]

lemma append_isEmpty_false {xs : Bytes} (h : 0 < xs.length) (ys : Bytes) : (xs ++ ys).isEmpty = false := by
  rw [List.isEmpty_eq_false_iff]
  intro hnil
  rw [(List.append_eq_nil_iff.mp hnil).1] at h
  exact absurd h (by simp)

lemma findAttributeFrom_encodeAll {fuel : ℕ} {attrs : List (UInt16 × Element)} (attrId : UInt16)
    (hfits : ∀ attr ∈ attrs, attr.2.Fits)
    (hfuel : (Element.encodeAll (attrs.flatMap fun attr => [.uint16 attr.1, attr.2])).length ≤ fuel) :
    Client.findAttributeFrom attrId fuel (Element.encodeAll (attrs.flatMap fun attr => [.uint16 attr.1, attr.2])) =
      .ok ((attrs.find? fun attr => attr.1 == attrId).map fun attr => attr.2.encode) := by
  induction attrs generalizing fuel with
  | nil => cases fuel <;> simp [Client.findAttributeFrom, Element.encodeAll]
  | cons attr attrs ih =>
      obtain ⟨hfirst, hrest⟩ := List.forall_mem_cons.mp hfits
      have hpos := encode_length_pos (.uint16 attr.1)
      have hfitsId : (Element.uint16 attr.1).Fits := by simp [Element.Fits]
      have hparseId := parse_encode hfitsId
      have hparseValue := parse_encode hfirst
      have hencode : Element.encodeAll ((attr :: attrs).flatMap fun attr => [.uint16 attr.1, attr.2]) =
          (Element.uint16 attr.1).encode ++
            (attr.2.encode ++ Element.encodeAll (attrs.flatMap fun attr => [.uint16 attr.1, attr.2])) := by
        simp [Element.encodeAll]
      rw [hencode] at hfuel ⊢
      simp only [List.length_append] at hfuel
      obtain ⟨fuel, rfl⟩ : ∃ n, fuel = n + 1 := ⟨fuel - 1, by omega⟩
      simp only [Client.findAttributeFrom, append_isEmpty_false hpos, Bool.false_eq_true, if_false, hparseId,
        bind, Except.bind, Element.parsed, List.drop_left, hparseValue, List.take_left]
      by_cases hid : attr.1 = attrId
      · rw [if_pos hid, List.find?_cons_of_pos (by simp [hid])]
        rfl
      · rw [if_neg hid, List.find?_cons_of_neg (by simp [hid])]
        exact ih hrest (by omega)

lemma Record.findAttribute_encoded (record : Record) (attrId : UInt16) :
    Client.findAttribute record.encoded attrId = .ok ((record.value attrId).map Element.encode) := by
  rw [Client.findAttribute, encoded, elements, findAttributeFrom_encodeAll attrId record.fits le_rfl, value,
    Option.map_map]
  rfl

/-- One protocol of a ProtocolDescriptorList: its UUID and its parameters. -/
structure Protocol where
  form : LengthForm
  uuid : Element
  parameters : List Element

namespace Protocol

def element (protocol : Protocol) : Element := .sequence protocol.form (protocol.uuid :: protocol.parameters)

def IsRfcomm (protocol : Protocol) : Prop := protocol.uuid.uuid16? = some uuidRfcomm

instance (protocol : Protocol) : Decidable protocol.IsRfcomm := inferInstanceAs (Decidable (_ = _))

def channel (protocol : Protocol) : Option UInt8 :=
  match protocol.parameters with
  | .uint8 channel :: _ => some channel
  | .uint16 channel :: _ => if channel.toNat ≤ 255 then some (UInt8.ofNat channel.toNat) else none
  | _ => none

def WellFormed (protocol : Protocol) : Prop :=
  protocol.uuid.parsed.isUuid ∧ (protocol.IsRfcomm → protocol.channel.isSome)

end Protocol

def rfcommChannel (protocols : List Protocol) : Option UInt8 :=
  (protocols.find? fun protocol => decide protocol.IsRfcomm).bind Protocol.channel

lemma descriptorChannel_of_other {descriptor : Bytes} {uuid : ParsedDataElement} {used : ℕ}
    (hparse : parseDataElement descriptor = .ok (uuid, used)) (huuid : uuid.isUuid) (hnone : uuid.asUuid16 = none) :
    Client.descriptorChannel descriptor = .ok none := by
  simp only [Client.descriptorChannel, hparse, bind, Except.bind, hnone]
  cases uuid <;> simp [ParsedDataElement.isUuid] at huuid <;> rfl

lemma descriptorChannel_encodeAll {protocol : Protocol} (hfits : protocol.element.Fits) (hwf : protocol.WellFormed) :
    Client.descriptorChannel (Element.encodeAll (protocol.uuid :: protocol.parameters)) =
      .ok (if protocol.IsRfcomm then protocol.channel else none) := by
  simp only [Protocol.element, Element.Fits, Element.FitsAll] at hfits
  obtain ⟨-, huuid, hparameters⟩ := hfits
  have hparse := parse_encode huuid (Element.encodeAll protocol.parameters)
  rw [Element.encodeAll]
  cases hshort : protocol.uuid.parsed.asUuid16 with
  | none =>
      have hother : ¬protocol.IsRfcomm := by simp [Protocol.IsRfcomm, Element.uuid16?, hshort]
      rw [if_neg hother]
      exact descriptorChannel_of_other hparse hwf.1 hshort
  | some uuid =>
      simp only [Client.descriptorChannel, hparse, bind, Except.bind, List.drop_left, hshort]
      by_cases hrfcomm : uuid = uuidRfcomm
      · have his : protocol.IsRfcomm := by simp [Protocol.IsRfcomm, Element.uuid16?, hshort, hrfcomm]
        have hchannel := hwf.2 his
        rw [if_pos hrfcomm, if_pos his]
        cases hparams : protocol.parameters with
        | nil => simp [Protocol.channel, hparams] at hchannel
        | cons first rest =>
            rw [hparams] at hparameters
            have hfirst := parse_encode hparameters.1 (Element.encodeAll rest)
            have hne : first.encode ++ Element.encodeAll rest ≠ [] :=
              List.isEmpty_eq_false_iff.mp (append_isEmpty_false (encode_length_pos first) _)
            simp only [Element.encodeAll, ensure, hne, ne_eq, not_false_eq_true, if_true, hfirst]
            cases first with
            | uint8 channel => simp [Element.parsed, Protocol.channel, hparams, pure, Except.pure]
            | uint16 channel =>
                have hbyte : channel.toNat ≤ 255 := by
                  by_contra hbig
                  simp [Protocol.channel, hparams, hbig] at hchannel
                simp [Element.parsed, Protocol.channel, hparams, hbyte, pure, Except.pure]
            | _ => simp [Protocol.channel, hparams] at hchannel
      · have hother : ¬protocol.IsRfcomm := by simp [Protocol.IsRfcomm, Element.uuid16?, hshort, hrfcomm]
        rw [if_neg hrfcomm, if_neg hother]
        rfl

lemma rfcommChannelFrom_encodeAll {fuel : ℕ} {protocols : List Protocol}
    (hfits : ∀ protocol ∈ protocols, protocol.element.Fits) (hwf : ∀ protocol ∈ protocols, protocol.WellFormed)
    (hfuel : (Element.encodeAll (protocols.map Protocol.element)).length ≤ fuel) :
    Client.rfcommChannelFrom fuel (Element.encodeAll (protocols.map Protocol.element)) =
      .ok (rfcommChannel protocols) := by
  induction protocols generalizing fuel with
  | nil => cases fuel <;> rfl
  | cons protocol protocols ih =>
      obtain ⟨hfirst, hrest⟩ := List.forall_mem_cons.mp hfits
      obtain ⟨hwfFirst, hwfRest⟩ := List.forall_mem_cons.mp hwf
      have hpos := encode_length_pos protocol.element
      have hparse := parse_encode hfirst (Element.encodeAll (protocols.map Protocol.element))
      rw [List.map_cons, Element.encodeAll] at hfuel ⊢
      rw [List.length_append] at hfuel
      obtain ⟨fuel, rfl⟩ : ∃ n, fuel = n + 1 := ⟨fuel - 1, by omega⟩
      have hpayload : protocol.element.parsed =
          .sequence (Element.encodeAll (protocol.uuid :: protocol.parameters)) := rfl
      simp only [Client.rfcommChannelFrom, append_isEmpty_false hpos, Bool.false_eq_true, if_false, hparse, hpayload,
        sequencePayload, bind, Except.bind, descriptorChannel_encodeAll hfirst hwfFirst, List.drop_left]
      by_cases hrfcomm : protocol.IsRfcomm
      · obtain ⟨channel, hchannel⟩ := Option.isSome_iff_exists.mp (hwfFirst.2 hrfcomm)
        rw [if_pos hrfcomm, hchannel, rfcommChannel, List.find?_cons_of_pos (by simp [hrfcomm])]
        simp [hchannel, pure, Except.pure]
      · rw [if_neg hrfcomm, rfcommChannel, List.find?_cons_of_neg (by simp [hrfcomm])]
        exact ih hrest hwfRest (by omega)

lemma Record.fits_of_value {record : Record} {attrId : UInt16} {value : Element}
    (h : record.value attrId = some value) :
    value.Fits := by
  obtain ⟨attr, hfind, rfl⟩ := Option.map_eq_some_iff.mp h
  exact record.fits attr (List.mem_of_find?_eq_some hfind)

lemma Record.extractRfcommChannel_encoded {record : Record} {form : LengthForm} {protocols : List Protocol}
    (hvalue : record.value attrProtocolDescriptorList = some (.sequence form (protocols.map Protocol.element)))
    (hwf : ∀ protocol ∈ protocols, protocol.WellFormed) :
    Client.extractRfcommChannel record.encoded = .ok (rfcommChannel protocols) := by
  have hfits := Record.fits_of_value hvalue
  have hparse := parse_encode hfits []
  rw [List.append_nil] at hparse
  have hall : ∀ protocol ∈ protocols, protocol.element.Fits := by
    simp only [Element.Fits, Element.fitsAll_iff] at hfits
    intro protocol hmem
    exact hfits.2 _ (List.mem_map_of_mem hmem)
  simp only [Client.extractRfcommChannel, record.findAttribute_encoded, hvalue, Option.map_some, bind, Except.bind,
    hparse, Element.parsed, ensure, if_true, sequencePayload]
  exact rfcommChannelFrom_encodeAll hall hwf le_rfl

lemma Record.extractRfcommChannel_of_none {record : Record} (h : record.value attrProtocolDescriptorList = none) :
    Client.extractRfcommChannel record.encoded = .ok none := by
  simp only [Client.extractRfcommChannel, record.findAttribute_encoded, h, Option.map_none, bind, Except.bind]
  rfl

lemma foldl_register (records : List ServiceRecord) (server : SdpServer) :
    records.foldl SdpServer.register server = ⟨server.records ++ records⟩ := by
  induction records generalizing server with
  | nil => simp
  | cons record records ih => simp [ih, SdpServer.register]

def registered (records : List Record) : SdpServer := (records.map Record.service).foldl SdpServer.register {}

lemma registered_records (records : List Record) : (registered records).records = records.map Record.service := by
  rw [registered, foldl_register]
  rfl

lemma matchRecords_registered (records : List Record) (u : UInt16) :
    (registered records).matchRecords [u] =
      (records.filter fun record => decide (record.Mentions u)).map Record.service := by
  rw [SdpServer.matchRecords, registered_records, List.filter_map]
  congr 1
  apply List.filter_congr
  intro record _
  simp [← Record.mem_searchableUuids]

theorem sdp_client_reads_what_the_server_registered (records : List Record) (t u m : UInt16)
    (htotal : (SdpServer.attributeLists (records.map Record.service)).length < 65530) :
    (∃ reply response,
      (registered records).handleRequest (Client.buildServiceSearchAttributeRequest t u m) = .ok reply ∧
      Client.parseServiceSearchAttributeResponse reply = .ok response ∧
      response.transactionId = t ∧
      Client.iterRecords response.attributeLists =
        .ok ((records.filter fun record => decide (record.Mentions u)).map Record.encoded)) ∧
    ∀ record ∈ records,
      (∀ attrId, Client.findAttribute record.encoded attrId = .ok ((record.value attrId).map Element.encode)) ∧
      (record.value attrProtocolDescriptorList = none → Client.extractRfcommChannel record.encoded = .ok none) ∧
      ∀ form protocols,
        record.value attrProtocolDescriptorList = some (.sequence form (protocols.map Protocol.element)) →
        (∀ protocol ∈ protocols, protocol.WellFormed) →
        Client.extractRfcommChannel record.encoded = .ok (rfcommChannel protocols) := by
  constructor
  · have hmatched := matchRecords_registered records u
    have hsub : ((registered records).matchRecords [u]).Sublist (records.map Record.service) := by
      rw [← registered_records]
      exact List.filter_sublist
    have hlen : (SdpServer.attributeLists ((registered records).matchRecords [u])).length < 65530 :=
      (attributeLists_length_le hsub).trans_lt htotal
    refine ⟨_, _, ?_, parse_response t hlen, rfl, ?_⟩
    · simp only [SdpServer.handleRequest, parse_request, parseUuidSearchPattern_uuid16, bind, Except.bind]
      rfl
    · rw [iterRecords_attributeLists hlen, hmatched, List.map_map]
      rfl
  · intro record _
    exact ⟨record.findAttribute_encoded, Record.extractRfcommChannel_of_none,
      fun form protocols => Record.extractRfcommChannel_encoded⟩

def hfpProtocols : List Protocol :=
  [⟨.bits8, .uuid16 uuidL2cap, []⟩, ⟨.bits8, .uuid16 uuidRfcomm, [.uint8 aokieRfcommChannel]⟩]

def hfpRecord : Record where
  handle := aokieHfpServiceRecordHandle
  attributes :=
    [(attrServiceRecordHandle, .uint32 aokieHfpServiceRecordHandle),
      (attrServiceClassIdList, .sequence .bits8 [.uuid16 uuidHandsfree, .uuid16 uuidGenericAudio]),
      (attrProtocolDescriptorList, .sequence .bits8 (hfpProtocols.map Protocol.element)),
      (attrBrowseGroupList, .sequence .bits8 [.uuid16 uuidPublicBrowseRoot]),
      (attrBluetoothProfileDescriptorList,
        .sequence .bits8 [.sequence .bits8 [.uuid16 uuidHandsfree, .uint16 aokieHfpProfileVersion]]),
      (attrServiceName, .text .bits8 (intoBytes aokieHfpServiceName)),
      (attrSupportedFeatures, .uint16 aokieHfpSupportedFeatures)]
  fits := by
    have hname : (intoBytes aokieHfpServiceName).length < 256 := by decide
    simp [Element.Fits, Element.FitsAll, Element.encodeAll, Element.encode, variableElement, LengthForm.width,
      hfpProtocols, Protocol.element, hname]

/-- The record that the hands-free profile registers, found by its own UUID. -/
theorem sdp_client_finds_the_hfp_record :
    hfpRecord.encoded = buildHfpAttributeSequence ∧
    (∃ reply response,
      (registered [hfpRecord]).handleRequest
        (Client.buildServiceSearchAttributeRequest 7 uuidHandsfree 0xffff) = .ok reply ∧
      Client.parseServiceSearchAttributeResponse reply = .ok response ∧ response.transactionId = 7 ∧
      Client.iterRecords response.attributeLists = .ok [hfpRecord.encoded]) ∧
    Client.extractRfcommChannel hfpRecord.encoded = .ok (some aokieRfcommChannel) := by
  have htotal : (SdpServer.attributeLists ([hfpRecord].map Record.service)).length < 65530 := by decide
  have hmatch : ([hfpRecord].filter fun record => decide (record.Mentions uuidHandsfree)) = [hfpRecord] := by
    rw [List.filter_cons_of_pos (by decide)]
    rfl
  have hwf : ∀ protocol ∈ hfpProtocols, protocol.WellFormed := by
    simp only [hfpProtocols, List.forall_mem_cons]
    refine ⟨⟨rfl, fun h => ?_⟩, ⟨rfl, fun _ => rfl⟩, by simp⟩
    exact absurd h (by decide)
  have hfind := sdp_client_reads_what_the_server_registered [hfpRecord] 7 uuidHandsfree 0xffff htotal
  obtain ⟨⟨reply, response, hreply, hresponse, hid, hrecords⟩, hall⟩ := hfind
  rw [hmatch] at hrecords
  have hchannel := (hall hfpRecord (by simp)).2.2 .bits8 hfpProtocols rfl hwf
  exact ⟨by decide, ⟨reply, response, hreply, hresponse, hid, hrecords⟩, hchannel⟩

end Aokie.Radio.Sdp
