import Aokie.Plugin.Relay.Sse

/-! Events do not depend on where the transport cuts the stream, unless it cuts a line end in two. -/

namespace Aokie.Plugin.Relay

open Aokie.Lib Aokie.Protocol

section BlankLines

lemma findBlankLine_eq {buffer block rest : List Char} (h : findBlankLine buffer = some (block, rest)) :
    buffer = block ++ '\n' :: '\n' :: rest := by
  fun_induction findBlankLine buffer generalizing block rest with
  | case1 tail =>
      simp only [Option.some.injEq, Prod.mk.injEq] at h
      obtain ⟨rfl, rfl⟩ := h
      rfl
  | case2 c tail _ ih =>
      obtain ⟨⟨block', rest'⟩, hfound, heq⟩ := Option.map_eq_some_iff.mp h
      simp only [Prod.mk.injEq] at heq
      obtain ⟨rfl, rfl⟩ := heq
      rw [ih hfound, List.cons_append]
  | case3 => simp at h

lemma findBlankLine_append {buffer block rest : List Char} (h : findBlankLine buffer = some (block, rest))
    (more : List Char) : findBlankLine (buffer ++ more) = some (block, rest ++ more) := by
  fun_induction findBlankLine buffer generalizing block rest with
  | case1 tail =>
      simp only [Option.some.injEq, Prod.mk.injEq] at h
      obtain ⟨rfl, rfl⟩ := h
      rfl
  | case2 c tail hc ih =>
      obtain ⟨⟨block', rest'⟩, hfound, heq⟩ := Option.map_eq_some_iff.mp h
      simp only [Prod.mk.injEq] at heq
      obtain ⟨rfl, rfl⟩ := heq
      have htail : ∀ after, c = '\n' → tail ++ more = '\n' :: after → False := by
        intro after hc' hafter
        cases tail with
        | nil => simp [findBlankLine] at hfound
        | cons d tail =>
            simp only [List.cons_append, List.cons.injEq] at hafter
            exact hc tail hc' (by rw [hafter.1])
      rw [List.cons_append, findBlankLine, ih hfound]
      · rfl
      · exact htail
  | case3 => simp at h

lemma findBlankLine_ne_none (front back : List Char) : findBlankLine (front ++ '\n' :: '\n' :: back) ≠ none := by
  induction front with
  | nil => simp [findBlankLine]
  | cons c front ih =>
      rw [List.cons_append]
      unfold findBlankLine
      split
      · simp
      · next heq =>
          simp only [List.cons.injEq] at heq
          obtain ⟨rfl, rfl⟩ := heq
          simpa using ih
      · simp_all

lemma nextEvent_lawful : nextEvent.Lawful where
  splits := by
    intro buffer frame rest h
    obtain ⟨⟨block, after⟩, hfound, heq⟩ := Option.map_eq_some_iff.mp h
    simp only [Prod.mk.injEq] at heq
    obtain ⟨rfl, rfl⟩ := heq
    rw [findBlankLine_eq hfound]
    simp
  nonempty := by
    intro buffer frame rest h
    obtain ⟨⟨block, after⟩, hfound, heq⟩ := Option.map_eq_some_iff.mp h
    simp only [Prod.mk.injEq] at heq
    obtain ⟨rfl, rfl⟩ := heq
    simp
  stable := by
    intro buffer frame rest h more
    obtain ⟨⟨block, after⟩, hfound, heq⟩ := Option.map_eq_some_iff.mp h
    simp only [Prod.mk.injEq] at heq
    obtain ⟨rfl, rfl⟩ := heq
    simp [nextEvent, findBlankLine_append hfound more]

lemma take_of_nextEvent {buffer more event rest : List Char} (hnone : nextEvent buffer = none)
    (hnext : nextEvent (buffer ++ more) = some (event, rest)) : buffer <+: event.dropLast := by
  obtain ⟨⟨block, after⟩, hfound, heq⟩ := Option.map_eq_some_iff.mp hnext
  simp only [Prod.mk.injEq] at heq
  obtain ⟨rfl, rfl⟩ := heq
  have hsplit := findBlankLine_eq hfound
  have hlast : (block ++ ['\n', '\n']).dropLast = block ++ ['\n'] := by
    rw [List.dropLast_append_of_ne_nil (by simp)]
    rfl
  rw [hlast]
  have hwhole : buffer ++ more = block ++ ['\n'] ++ ('\n' :: after) := by simpa using hsplit
  rcases List.append_eq_append_iff.mp hwhole with ⟨as, hblock, -⟩ | ⟨as, hbuffer, has⟩
  · exact ⟨as, hblock.symm⟩
  · -- the buffer would already hold the blank line
    cases as with
    | nil => exact ⟨[], by simpa using hbuffer⟩
    | cons c as =>
        simp only [List.cons_append, List.cons.injEq] at has
        obtain ⟨rfl, -⟩ := has
        have hne := findBlankLine_ne_none block as
        rw [hbuffer, List.append_assoc] at hnone
        simp [nextEvent] at hnone
        exact absurd hnone (by simpa using hne)

end BlankLines

def LineEndKept (front back : List Char) : Prop := ¬(front.getLast? = some '\r' ∧ back.head? = some '\n')

lemma normalizeLineEnds_append {front back : List Char} (h : LineEndKept front back) :
    normalizeLineEnds (front ++ back) = normalizeLineEnds front ++ normalizeLineEnds back := by
  fun_induction normalizeLineEnds front with
  | case1 rest ih =>
      rw [List.cons_append, List.cons_append, normalizeLineEnds, List.cons_append, ih]
      rintro ⟨hlast, hhead⟩
      refine h ⟨?_, hhead⟩
      cases rest with
      | nil => simp at hlast
      | cons => simpa using hlast
  | case2 c rest hc ih =>
      have hback : ∀ after, c = '\r' → rest ++ back = '\n' :: after → False := by
        intro after hcr hafter
        cases rest with
        | nil => exact h ⟨by simp [hcr], by simpa using congrArg List.head? hafter⟩
        | cons d rest =>
            simp only [List.cons_append, List.cons.injEq] at hafter
            exact hc rest hcr (by rw [hafter.1])
      rw [List.cons_append, normalizeLineEnds, List.cons_append, ih]
      · rintro ⟨hlast, hhead⟩
        refine h ⟨?_, hhead⟩
        cases rest with
        | nil => simp at hlast
        | cons => simpa using hlast
      · exact hback
  | case3 => rfl

/-- Every event of the text stays below the parser's ceiling, and so does the unfinished one at its end. -/
def Fits (text : List Char) : Prop :=
  (∀ event ∈ (Framing.drain nextEvent (normalizeLineEnds text)).1,
    byteLength (event.take (event.length - 2)) < maxStreamBufferBytes) ∧
  byteLength (Framing.drain nextEvent (normalizeLineEnds text)).2 ≤ maxStreamBufferBytes

instance (text : List Char) : Decidable (Fits text) := inferInstanceAs (Decidable (_ ∧ _))

lemma byteLength_dropLast {buffer event rest : List Char} (h : nextEvent buffer = some (event, rest)) :
    byteLength event.dropLast = byteLength (event.take (event.length - 2)) + 1 := by
  obtain ⟨⟨block, after⟩, -, heq⟩ := Option.map_eq_some_iff.mp h
  simp only [Prod.mk.injEq] at heq
  rw [← heq.1, List.dropLast_append_of_ne_nil (by simp), byteLength_append]
  simp [byteLength]
  rfl

lemma Fits.kept {done rest : List Char} (hfit : Fits (done ++ rest)) (hcut : LineEndKept done rest) :
    byteLength (Framing.drain nextEvent (normalizeLineEnds done)).2 ≤ maxStreamBufferBytes := by
  obtain ⟨hevents, hrest⟩ := hfit
  rw [normalizeLineEnds_append hcut, Framing.drain_append nextEvent_lawful] at hevents hrest
  generalize hkept : (Framing.drain nextEvent (normalizeLineEnds done)).2 = kept at hevents hrest ⊢
  have hnone : nextEvent kept = none := hkept ▸ Framing.drain_next_eq_none nextEvent_lawful _
  cases hnext : nextEvent (kept ++ normalizeLineEnds rest) with
  | none =>
      rw [Framing.drain_of_none hnext] at hrest
      exact (byteLength_le_of_start (List.prefix_append _ _)).trans hrest
  | some found =>
      obtain ⟨event, after⟩ := found
      have hbelow := hevents event (by
        rw [Framing.drain_of_some nextEvent_lawful hnext]
        simp)
      have hshort := byteLength_le_of_start (take_of_nextEvent hnone hnext)
      rw [byteLength_dropLast hnext] at hshort
      omega

def splitsLineEnd : List Bytes → Bool
  | [] => false
  | chunk :: rest => (chunk.getLast? == some 13 && rest.flatten.head? == some 10) || splitsLineEnd rest

section Cuts

lemma not_partial_encode (text : List Char) : ¬Partial (encode text) := by
  intro h
  have hcut := utf8Error_encode_partial [] h
  rw [encode_nil, List.nil_append, utf8Error_encode] at hcut
  simp at hcut

lemma encode_eq_nil {text : List Char} (h : encode text = []) : text = [] := by
  cases text with
  | nil => rfl
  | cons c text => simp at h

lemma readyBytes_cut (text : List Char) {part : Bytes} (hpart : part = [] ∨ Partial part) :
    readyBytes (encode text ++ part) = (encode text).length := by
  rcases hpart with rfl | hpart
  · simp [readyBytes, utf8Error_encode]
  · simp [readyBytes, utf8Error_encode_partial text hpart]

lemma head_of_cut {rest : List Char} {part back : Bytes} (hrest : encode rest = part ++ back)
    (hpart : part = [] ∨ Partial part) (hhead : rest.head? = some '\n') : part = [] ∧ back.head? = some 10 := by
  obtain ⟨tail, rfl⟩ : ∃ tail, rest = '\n' :: tail := by
    cases rest with
    | nil => simp at hhead
    | cons c tail => exact ⟨tail, by simpa using hhead⟩
  have hbytes : encode ('\n' :: tail) = 10 :: encode tail := rfl
  rw [hbytes] at hrest
  rcases hpart with rfl | ⟨hne, c, ⟨more, hmore⟩, hcut⟩
  · exact ⟨rfl, by rw [List.nil_append] at hrest; rw [← hrest]; rfl⟩
  · exfalso
    obtain ⟨lead, after, hc, hseq⟩ := isSequence_encodeChar c
    cases part with
    | nil => exact hne rfl
    | cons first part =>
        simp only [List.cons_append, List.cons.injEq] at hrest
        rw [hc, List.cons_append, List.cons.injEq] at hmore
        obtain ⟨rfl, hafter⟩ := hmore
        have hlength := hseq.length
        rw [← hrest.1, show sequenceLength 10 = 1 from rfl, ← hafter, List.length_append] at hlength
        have hpart : part = [] := List.length_eq_zero_iff.mp (by omega)
        have hmore : more = [] := List.length_eq_zero_iff.mp (by omega)
        subst hpart hmore
        exact hcut (by rw [hc, ← hafter]; rfl)

lemma encode_getLast {text : List Char} (h : text.getLast? = some '\r') : (encode text).getLast? = some 13 := by
  obtain ⟨front, rfl⟩ := List.getLast?_eq_some_iff.mp h
  rw [encode_append, List.getLast?_append]
  rfl

end Cuts

section Chunks

variable (fromStr : List Char → Option Json)

lemma push_eq {p : SseParser} {chunk : List Char}
    (h : byteLength (Framing.drain nextEvent (p.buffer ++ normalizeLineEnds chunk)).2 ≤ maxStreamBufferBytes) :
    SseParser.push fromStr p chunk =
      ({ p with buffer := (Framing.drain nextEvent (p.buffer ++ normalizeLineEnds chunk)).2 },
        (Framing.drain nextEvent (p.buffer ++ normalizeLineEnds chunk)).1.filterMap (parseEvent fromStr)) := by
  simp only [SseParser.push, if_neg (Nat.not_lt.mpr h)]

lemma pushBytes_cut {p : SseParser} {bytes part : Bytes} {text : List Char}
    (hbytes : p.pendingBytes ++ bytes = encode text ++ part) (hpart : part = [] ∨ Partial part) :
    SseParser.pushBytes fromStr p bytes = SseParser.push fromStr { p with pendingBytes := part } text := by
  simp only [SseParser.pushBytes, hbytes, readyBytes_cut text hpart, List.take_left, List.drop_left,
    fromUtf8Lossy_encode]

def eventsAfter (done rest : List Char) : List RelayStreamEvent :=
  (Framing.drain nextEvent ((Framing.drain nextEvent (normalizeLineEnds done)).2 ++ normalizeLineEnds rest)).1.filterMap
    (parseEvent fromStr)

def parserAt (done : List Char) (part : Bytes) : SseParser :=
  ⟨(Framing.drain nextEvent (normalizeLineEnds done)).2, part⟩

lemma drain_normalize {done more : List Char} (hcut : LineEndKept done more) :
    (Framing.drain nextEvent ((Framing.drain nextEvent (normalizeLineEnds done)).2 ++ normalizeLineEnds more)).2 =
      (Framing.drain nextEvent (normalizeLineEnds (done ++ more))).2 := by
  rw [normalizeLineEnds_append hcut, Framing.drain_append nextEvent_lawful (normalizeLineEnds done)]
  rfl

lemma LineEndKept.of_append {done more rest : List Char} (h : LineEndKept (done ++ more) rest) :
    LineEndKept more rest := by
  rintro ⟨hlast, hhead⟩
  exact h ⟨by simp [List.getLast?_append, hlast], hhead⟩

lemma eventsAfter_append {done more rest : List Char} (hcut : LineEndKept done more)
    (hrest : LineEndKept (done ++ more) rest) :
    eventsAfter fromStr done (more ++ rest) = eventsAfter fromStr done more ++ eventsAfter fromStr
      (done ++ more) rest := by
  simp only [eventsAfter]
  rw [← drain_normalize hcut, normalizeLineEnds_append hrest.of_append, ← List.append_assoc,
    Framing.drain_append nextEvent_lawful (_ ++ normalizeLineEnds more)]
  simp

lemma pushBytes_parserAt {done more rest : List Char} {part part' chunk : Bytes}
    (hbytes : part ++ chunk = encode more ++ part') (hpart : part' = [] ∨ Partial part')
    (hcut : LineEndKept done more) (hrest : LineEndKept (done ++ more) rest) (hfit : Fits (done ++ more ++ rest)) :
    SseParser.pushBytes fromStr (parserAt done part) chunk = (parserAt (done ++ more) part',
      eventsAfter fromStr done more) := by
  have hkept := hfit.kept hrest
  rw [← drain_normalize hcut] at hkept
  rw [pushBytes_cut fromStr hbytes hpart, push_eq fromStr hkept]
  exact Prod.ext (congrArg (SseParser.mk · part') (drain_normalize hcut)) rfl

lemma lineEndKept_next {done more rest : List Char} {part part' chunk later : Bytes}
    (hbytes : part ++ chunk = encode more ++ part') (hpart : part = [] ∨ Partial part)
    (hpart' : part' = [] ∨ Partial part') (hlater : encode rest = part' ++ later)
    (hcut : LineEndKept done (more ++ rest)) (hchunk : ¬(chunk.getLast? = some 13 ∧ later.head? = some 10)) :
    LineEndKept (done ++ more) rest := by
  rintro ⟨hlast, hhead⟩
  obtain ⟨rfl, hlf⟩ := head_of_cut hlater hpart' hhead
  rw [List.append_nil] at hbytes
  cases more with
  | nil => exact hcut ⟨by simpa using hlast, hhead⟩
  | cons c more =>
      have hcr : (encode (c :: more)).getLast? = some 13 := encode_getLast (by simpa [List.getLast?_append] using hlast)
      rw [← hbytes, List.getLast?_append] at hcr
      cases hend : chunk.getLast? with
      | some b =>
          rw [hend, Option.some_or] at hcr
          exact hchunk ⟨hend.trans hcr, hlf⟩
      | none =>
          -- an empty chunk completes no character
          rw [List.getLast?_eq_none_iff] at hend
          subst hend
          rw [List.append_nil] at hbytes
          rcases hpart with rfl | hpart
          · exact absurd (encode_eq_nil hbytes.symm) (by simp)
          · exact not_partial_encode _ (hbytes ▸ hpart)

lemma LineEndKept.take {done more rest : List Char} (h : LineEndKept done (more ++ rest)) : LineEndKept done more := by
  rintro ⟨hlast, hhead⟩
  exact h ⟨hlast, by simp [List.head?_append, hhead]⟩

lemma collect_pushBytes {text done rest : List Char} {part : Bytes} {chunks : List Bytes} (htext : text = done ++ rest)
    (hrest : encode rest = part ++ chunks.flatten) (hpart : part = [] ∨ Partial part) (hcut : LineEndKept done rest)
    (hchunks : splitsLineEnd chunks = false) (hfit : Fits text) :
    Machine.collect (SseParser.pushBytes fromStr) (parserAt done part) chunks =
      (parserAt text [], eventsAfter fromStr done rest) := by
  induction chunks generalizing done rest part with
  | nil =>
      rw [List.flatten_nil, List.append_nil] at hrest
      have hempty : part = [] := by
        rcases hpart with rfl | hpart
        · rfl
        · exact absurd (hrest ▸ hpart) (not_partial_encode rest)
      have hdone : rest = [] := encode_eq_nil (hrest.trans hempty)
      subst hempty hdone htext
      have hstop := Framing.drain_next_eq_none nextEvent_lawful (normalizeLineEnds done)
      simp [eventsAfter, normalizeLineEnds, Framing.drain_of_none hstop]
  | cons chunk chunks ih =>
      rw [List.flatten_cons, ← List.append_assoc] at hrest
      obtain ⟨more, rest, part', rfl, hbytes, hlater, hpart'⟩ := cut_encode hrest
      simp only [splitsLineEnd, Bool.or_eq_false_iff, Bool.and_eq_false_iff, beq_eq_false_iff_ne] at hchunks
      obtain ⟨hchunk, hchunks⟩ := hchunks
      have hnext : LineEndKept (done ++ more) rest :=
        lineEndKept_next hbytes hpart hpart' hlater hcut (by tauto)
      rw [Machine.collect_cons,
        pushBytes_parserAt fromStr hbytes hpart' hcut.take hnext (by rwa [List.append_assoc, ← htext]),
        ih (by rw [htext, List.append_assoc]) hlater hpart' hnext hchunks,
        eventsAfter_append fromStr hcut.take hnext]
      rfl

/-- A stream whose line ends are not cut in two gives the same events and the same rest however it is cut. -/
theorem events_do_not_depend_on_chunks (text : List Char) (chunks : List Bytes)
    (hstream : chunks.flatten = encode text) (hfit : Fits text) (hchunks : splitsLineEnd chunks = false) :
    Machine.collect (SseParser.pushBytes fromStr) {} chunks = SseParser.pushBytes fromStr {} (encode text) := by
  have hstart : ({} : SseParser) = parserAt [] [] := rfl
  have hempty : LineEndKept [] text := by simp [LineEndKept]
  have hstarted : text = [] ++ text := rfl
  have hpieces : encode text = [] ++ chunks.flatten := by rw [hstream, List.nil_append]
  have hpiece : encode text = [] ++ [encode text].flatten := by simp
  have hchunked := collect_pushBytes fromStr hstarted hpieces (.inl rfl) hempty hchunks hfit
  have hwhole := collect_pushBytes fromStr hstarted hpiece (.inl rfl) hempty (by simp [splitsLineEnd]) hfit
  rw [hstart, hchunked, ← hwhole, Machine.collect_cons]
  simp

end Chunks

/-- The relay's sign-off, cut between the last carriage return and line feed, is never read. -/
theorem cut_line_end_loses_event :
    ¬∀ (fromStr : List Char → Option Json) (text : List Char) (chunks : List Bytes),
      chunks.flatten = encode text → Fits text →
        Machine.collect (SseParser.pushBytes fromStr) {} chunks = SseParser.pushBytes fromStr {} (encode text) := by
  intro h
  have hevents := congrArg Prod.snd (h (fun _ => none) "event: end\r\n\r\n".toList
    [encode "event: end\r\n\r".toList, encode "\n".toList] (by decide) (by decide))
  exact absurd hevents (by decide)

/-- A comment line cut inside a character. -/
theorem cut_character_is_carried :
    Machine.collect (SseParser.pushBytes fun _ => none) {} [[58, 32, 195], [169, 13, 10, 10],
      encode "event: end\n\n".toList] =
      SseParser.pushBytes (fun _ => none) {} (encode ": é\r\n\nevent: end\n\n".toList) :=
  events_do_not_depend_on_chunks _ _ _ (by decide) (by decide) (by decide)

end Aokie.Plugin.Relay
