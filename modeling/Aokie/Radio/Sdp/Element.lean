import Aokie.Radio.Sdp.DataElement

/-! Data elements as trees, their encodings, and the UUIDs in them. -/

namespace Aokie.Radio.Sdp

open Aokie.Lib

inductive LengthForm
  | bits8
  | bits16
  | bits32
  deriving DecidableEq, Repr

def LengthForm.width : LengthForm → ℕ
  | bits8 => 1
  | bits16 => 2
  | bits32 => 4

def LengthForm.offset : LengthForm → UInt8
  | bits8 => 0
  | bits16 => 1
  | bits32 => 2

/-- The data elements of the SDP specification, as trees. -/
inductive Element
  | nil
  | uint8 (value : UInt8)
  | uint16 (value : UInt16)
  | uint32 (value : UInt32)
  | uint64 (value : UInt64)
  | uint128 (value : Vector UInt8 16)
  | int8 (value : Int8)
  | int16 (value : Int16)
  | int32 (value : Int32)
  | int64 (value : Int64)
  | int128 (value : Vector UInt8 16)
  | uuid16 (value : UInt16)
  | uuid32 (value : UInt32)
  | uuid128 (value : Vector UInt8 16)
  | bool (value : Bool)
  | text (form : LengthForm) (value : Bytes)
  | url (form : LengthForm) (value : Bytes)
  | sequence (form : LengthForm) (elements : List Element)
  | alternative (form : LengthForm) (elements : List Element)

/-- An element with a length field: the descriptor of its form, the length and the payload. -/
def variableElement (baseDescriptor : UInt8) (form : LengthForm) (payload : Bytes) : Bytes :=
  (baseDescriptor + form.offset) :: beBytes form.width payload.length ++ payload

mutual

def Element.encode : Element → Bytes
  | .nil => [0x00]
  | .uint8 value => [0x08, value]
  | .uint16 value => 0x09 :: u16ToBeBytes value
  | .uint32 value => 0x0a :: u32ToBeBytes value
  | .uint64 value => 0x0b :: beBytes 8 value.toNat
  | .uint128 value => 0x0c :: value.toList
  | .int8 value => [0x10, value.toUInt8]
  | .int16 value => 0x11 :: u16ToBeBytes value.toUInt16
  | .int32 value => 0x12 :: u32ToBeBytes value.toUInt32
  | .int64 value => 0x13 :: beBytes 8 value.toUInt64.toNat
  | .int128 value => 0x14 :: value.toList
  | .uuid16 value => 0x19 :: u16ToBeBytes value
  | .uuid32 value => 0x1a :: u32ToBeBytes value
  | .uuid128 value => 0x1c :: value.toList
  | .bool value => [0x28, if value then 1 else 0]
  | .text form value => variableElement 0x25 form value
  | .url form value => variableElement 0x45 form value
  | .sequence form elements => variableElement 0x35 form (Element.encodeAll elements)
  | .alternative form elements => variableElement 0x3d form (Element.encodeAll elements)

def Element.encodeAll : List Element → Bytes
  | [] => []
  | element :: elements => element.encode ++ Element.encodeAll elements

end

def Element.parsed : Element → ParsedDataElement
  | .nil => .nil
  | .uint8 value => .uint8 value
  | .uint16 value => .uint16 value
  | .uint32 value => .uint32 value
  | .uint64 value => .uint64 value
  | .uint128 value => .uint128 value.toList
  | .int8 value => .int8 value
  | .int16 value => .int16 value
  | .int32 value => .int32 value
  | .int64 value => .int64 value
  | .int128 value => .int128 value.toList
  | .uuid16 value => .uuid16 value
  | .uuid32 value => .uuid32 value
  | .uuid128 value => .uuid128 value.toList
  | .bool value => .bool value
  | .text _ value => .text value
  | .url _ value => .url value
  | .sequence _ elements => .sequence (encodeAll elements)
  | .alternative _ elements => .alternative (encodeAll elements)

mutual

def Element.Fits : Element → Prop
  | .text form value | .url form value => value.length < 256 ^ form.width
  | .sequence form elements | .alternative form elements =>
    (Element.encodeAll elements).length < 256 ^ form.width ∧ Element.FitsAll elements
  | _ => True

def Element.FitsAll : List Element → Prop
  | [] => True
  | element :: elements => element.Fits ∧ Element.FitsAll elements

end

lemma fixed_cons (descriptor : UInt8) (payload rest : Bytes) (name : String) {n : ℕ} (h : payload.length = n) :
    fixed (descriptor :: (payload ++ rest)) n name = .ok payload := by
  subst h
  have hlen : 1 + payload.length ≤ (descriptor :: (payload ++ rest)).length := by
    simp
    omega
  have hok : requireLen (descriptor :: (payload ++ rest)) (1 + payload.length) name = .ok () :=
    ensure_eq_ok_iff.mpr hlen
  simp [fixed, hok, bind, Except.bind, pure, Except.pure]

lemma variablePayload_cons (descriptor : UInt8) (form : LengthForm) (payload rest : Bytes)
    (h : payload.length < 256 ^ form.width) :
    variablePayload (descriptor :: (beBytes form.width payload.length ++ (payload ++ rest))) form.width =
      .ok (payload, 1 + form.width + payload.length) := by
  have htake : (beBytes form.width payload.length ++ (payload ++ rest)).take form.width =
      beBytes form.width payload.length := List.take_left' (beBytes_length ..)
  have hdrop : (beBytes form.width payload.length ++ (payload ++ rest)).drop form.width = payload ++ rest :=
    List.drop_left' (beBytes_length ..)
  have hvalue : beNat (beBytes form.width payload.length) = payload.length := by
    rw [beNat_beBytes, Nat.mod_eq_of_lt h]
  have hheader : requireLen (descriptor :: (beBytes form.width payload.length ++ (payload ++ rest)))
      (1 + form.width) "SDP variable element" = .ok () := by
    apply ensure_eq_ok_iff.mpr
    simp
    omega
  have hpayload : requireLen (descriptor :: (beBytes form.width payload.length ++ (payload ++ rest)))
      (1 + form.width + payload.length) "SDP variable element payload" = .ok () := by
    apply ensure_eq_ok_iff.mpr
    simp
    omega
  rw [Nat.add_comm 1 form.width] at *
  simp [variablePayload, hheader, htake, hvalue, hpayload, hdrop, Nat.add_comm 1, bind, Except.bind, pure, Except.pure]

lemma beNat_singleton (byte : UInt8) : beNat [byte] = byte.toNat := by simp [beNat]

lemma u64_beBytes (value : UInt64) : UInt64.ofNat (beNat (beBytes 8 value.toNat)) = value := by
  have hlt : value.toNat < 256 ^ 8 := value.toNat_lt
  rw [beNat_beBytes, Nat.mod_eq_of_lt hlt, UInt64.ofNat_toNat]

lemma parse_variableElement (form : LengthForm) (payload rest : Bytes) (h : payload.length < 256 ^ form.width) :
    parseDataElement (variableElement 0x25 form payload ++ rest) =
      .ok (.text payload, (variableElement 0x25 form payload).length) ∧
    parseDataElement (variableElement 0x45 form payload ++ rest) =
      .ok (.url payload, (variableElement 0x45 form payload).length) ∧
    parseDataElement (variableElement 0x35 form payload ++ rest) =
      .ok (.sequence payload, (variableElement 0x35 form payload).length) ∧
    parseDataElement (variableElement 0x3d form payload ++ rest) =
      .ok (.alternative payload, (variableElement 0x3d form payload).length) := by
  have hread := fun descriptor => variablePayload_cons descriptor form payload rest h
  cases form <;>
    simp only [LengthForm.width] at hread <;>
    simp [variableElement, LengthForm.offset, LengthForm.width, parseDataElement, hread, bind, Except.bind, pure,
      Except.pure, Nat.add_comm, Nat.add_left_comm]

lemma parse_encode {element : Element} (h : element.Fits) (rest : Bytes) :
    parseDataElement (element.encode ++ rest) = .ok (element.parsed, element.encode.length) := by
  cases element with
  | text form value => exact (parse_variableElement form value rest h).1
  | url form value => exact (parse_variableElement form value rest h).2.1
  | sequence form elements =>
      simp only [Element.Fits] at h
      simp only [Element.encode, Element.parsed]
      exact (parse_variableElement form _ rest h.1).2.2.1
  | alternative form elements =>
      simp only [Element.Fits] at h
      simp only [Element.encode, Element.parsed]
      exact (parse_variableElement form _ rest h.1).2.2.2
  | nil => simp [Element.encode, Element.parsed, parseDataElement]
  | uint8 value =>
      have hfixed := fixed_cons 0x08 [value] rest "SDP uint8" (n := 1) rfl
      simp only [List.cons_append, List.nil_append] at hfixed
      simp [Element.encode, Element.parsed, parseDataElement, hfixed, bind, Except.bind, pure, Except.pure,
        beNat_singleton]
  | uint16 value =>
      have hfixed := fixed_cons 0x09 (u16ToBeBytes value) rest "SDP uint16" (u16ToBeBytes_length value)
      simp [Element.encode, Element.parsed, parseDataElement, hfixed, bind, Except.bind, pure, Except.pure]
  | uint32 value =>
      have hfixed := fixed_cons 0x0a (u32ToBeBytes value) rest "SDP uint32" (u32ToBeBytes_length value)
      simp [Element.encode, Element.parsed, parseDataElement, hfixed, bind, Except.bind, pure, Except.pure]
  | uint64 value =>
      have hfixed := fixed_cons 0x0b (beBytes 8 value.toNat) rest "SDP uint64" (beBytes_length 8 _)
      simp [Element.encode, Element.parsed, parseDataElement, hfixed, bind, Except.bind, pure, Except.pure, u64_beBytes]
  | uint128 value =>
      have hfixed := fixed_cons 0x0c value.toList rest "SDP uint128" value.length_toList
      simp [Element.encode, Element.parsed, parseDataElement, hfixed, bind, Except.bind, pure, Except.pure]
  | int8 value =>
      have hfixed := fixed_cons 0x10 [value.toUInt8] rest "SDP int8" (n := 1) rfl
      simp only [List.cons_append, List.nil_append] at hfixed
      simp [Element.encode, Element.parsed, parseDataElement, hfixed, bind, Except.bind, pure, Except.pure,
        beNat_singleton]
  | int16 value =>
      have hback := u16FromBeBytes_toBeBytes value.toUInt16
      rw [u16FromBeBytes] at hback
      have hfixed := fixed_cons 0x11 (u16ToBeBytes value.toUInt16) rest "SDP int16" (u16ToBeBytes_length _)
      simp [Element.encode, Element.parsed, parseDataElement, hfixed, bind, Except.bind, pure, Except.pure, hback]
  | int32 value =>
      have hback := u32FromBeBytes_toBeBytes value.toUInt32
      rw [u32FromBeBytes] at hback
      have hfixed := fixed_cons 0x12 (u32ToBeBytes value.toUInt32) rest "SDP int32" (u32ToBeBytes_length _)
      simp [Element.encode, Element.parsed, parseDataElement, hfixed, bind, Except.bind, pure, Except.pure, hback]
  | int64 value =>
      have hfixed := fixed_cons 0x13 (beBytes 8 value.toUInt64.toNat) rest "SDP int64" (beBytes_length 8 _)
      simp [Element.encode, Element.parsed, parseDataElement, hfixed, bind, Except.bind, pure, Except.pure, u64_beBytes]
  | int128 value =>
      have hfixed := fixed_cons 0x14 value.toList rest "SDP int128" value.length_toList
      simp [Element.encode, Element.parsed, parseDataElement, hfixed, bind, Except.bind, pure, Except.pure]
  | uuid16 value =>
      have hfixed := fixed_cons 0x19 (u16ToBeBytes value) rest "SDP uuid16" (u16ToBeBytes_length value)
      simp [Element.encode, Element.parsed, parseDataElement, hfixed, bind, Except.bind, pure, Except.pure]
  | uuid32 value =>
      have hfixed := fixed_cons 0x1a (u32ToBeBytes value) rest "SDP uuid32" (u32ToBeBytes_length value)
      simp [Element.encode, Element.parsed, parseDataElement, hfixed, bind, Except.bind, pure, Except.pure]
  | uuid128 value =>
      have hfixed := fixed_cons 0x1c value.toList rest "SDP uuid128" value.length_toList
      simp [Element.encode, Element.parsed, parseDataElement, hfixed, bind, Except.bind, pure, Except.pure]
  | bool value =>
      have hfixed := fixed_cons 0x28 [if value then 1 else 0] rest "SDP boolean" rfl
      cases value <;>
        simp [Element.encode, Element.parsed, parseDataElement, bind, Except.bind, pure, Except.pure] at hfixed ⊢ <;>
        simp [hfixed, beNat_singleton]

lemma encode_length_pos (element : Element) : 0 < element.encode.length := by
  cases element <;> simp [Element.encode, variableElement]

def Element.uuid16? (element : Element) : Option UInt16 := element.parsed.asUuid16

mutual

def Element.uuids : Element → List UInt16
  | .sequence _ elements | .alternative _ elements => Element.uuidsAll elements
  | .uuid16 value => [value]
  | .uuid32 value => if value.toNat ≤ 65535 then [UInt16.ofNat value.toNat] else []
  | .uuid128 value => (baseUuid16 value.toList).toList
  | _ => []

def Element.uuidsAll : List Element → List UInt16
  | [] => []
  | element :: elements => element.uuids ++ Element.uuidsAll elements

end

/-- A UUID occurs in an element: it is that UUID, or one of its parts has it. -/
inductive Element.Occurs (u : UInt16) : Element → Prop
  | here {element : Element} (h : element.uuid16? = some u) : Occurs u element
  | inSequence {form : LengthForm} {elements : List Element} {element : Element} (hmem : element ∈ elements)
      (h : Occurs u element) : Occurs u (.sequence form elements)
  | inAlternative {form : LengthForm} {elements : List Element} {element : Element} (hmem : element ∈ elements)
      (h : Occurs u element) : Occurs u (.alternative form elements)

lemma Element.mem_uuidsAll {u : UInt16} {elements : List Element} :
    u ∈ Element.uuidsAll elements ↔ ∃ element ∈ elements, u ∈ element.uuids := by
  induction elements with
  | nil => simp [uuidsAll]
  | cons element elements ih => simp [uuidsAll, ih]

lemma Element.uuids_of_leaf {element : Element} (h : ∀ form elements, element ≠ .sequence form elements)
    (h' : ∀ form elements, element ≠ .alternative form elements) : element.uuids = element.uuid16?.toList := by
  cases element with
  | sequence form elements => exact absurd rfl (h form elements)
  | alternative form elements => exact absurd rfl (h' form elements)
  | uuid32 value =>
      simp only [uuids, uuid16?, parsed, ParsedDataElement.asUuid16]
      split_ifs <;> rfl
  | _ => rfl

lemma Element.mem_uuids_of_occurs {u : UInt16} {element : Element} (h : element.Occurs u) : u ∈ element.uuids := by
  induction h with
  | inSequence hmem _ ih | inAlternative hmem _ ih =>
      rw [uuids]
      exact mem_uuidsAll.mpr ⟨_, hmem, ih⟩
  | @here element h =>
      rw [uuids_of_leaf, h]
      · simp
      · rintro form elements rfl
        cases h
      · rintro form elements rfl
        cases h

mutual

lemma Element.occurs_of_mem_uuids {u : UInt16} (element : Element) (h : u ∈ element.uuids) : element.Occurs u := by
  cases element with
  | sequence form elements =>
      rw [uuids] at h
      obtain ⟨inner, hmem, hoccurs⟩ := exists_occurs_of_mem_uuidsAll elements h
      exact .inSequence hmem hoccurs
  | alternative form elements =>
      rw [uuids] at h
      obtain ⟨inner, hmem, hoccurs⟩ := exists_occurs_of_mem_uuidsAll elements h
      exact .inAlternative hmem hoccurs
  | _ =>
      rw [uuids_of_leaf (by simp) (by simp), Option.mem_toList] at h
      exact .here h

lemma Element.exists_occurs_of_mem_uuidsAll {u : UInt16} (elements : List Element) (h : u ∈ uuidsAll elements) :
    ∃ element ∈ elements, element.Occurs u := by
  cases elements with
  | nil => simp [uuidsAll] at h
  | cons element elements =>
      rw [uuidsAll, List.mem_append] at h
      obtain h | h := h
      · exact ⟨element, List.mem_cons_self .., occurs_of_mem_uuids element h⟩
      · obtain ⟨inner, hmem, hoccurs⟩ := exists_occurs_of_mem_uuidsAll elements h
        exact ⟨inner, List.mem_cons_of_mem _ hmem, hoccurs⟩

end

lemma Element.occurs_iff {u : UInt16} {element : Element} : element.Occurs u ↔ u ∈ element.uuids :=
  ⟨mem_uuids_of_occurs, occurs_of_mem_uuids element⟩

instance (u : UInt16) (element : Element) : Decidable (element.Occurs u) :=
  decidable_of_iff (u ∈ element.uuids) Element.occurs_iff.symm

end Aokie.Radio.Sdp
