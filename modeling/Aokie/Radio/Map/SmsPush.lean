import Aokie.Radio.Map.BMessage

/-! What the envelope of an outgoing text says, and what its own reader makes of it. -/

namespace Aokie.Radio.Map

open Aokie.Lib Aokie.Protocol

def lineFeeds (body : List Char) : List Char := (replaceCrlf body).map fun c => if c = '\r' then '\n' else c

def outgoingLines (body : List Char) : List (List Char) := ((lineFeeds body).splitOn '\n').map escapeMsgLine

def readBack (body : List Char) : List Char := ['\n'].intercalate (outgoingLines body)

def envelopeLines (text : List Char) : List (List Char) :=
  (text.splitOn '\n').map fun line => line.rdropWhile (· == '\r')

structure EnvelopeOk (recipientPhone body : List Char) : Prop where
  ends : ∃ before after, envelopeLines (smsPushText recipientPhone body) = before ++ "BEGIN:MSG".toList :: after ∧
    (∀ line ∈ before, eqIgnoreAsciiCase line "BEGIN:MSG".toList = false) ∧
    after.countP (fun line => eqIgnoreAsciiCase line "END:MSG".toList) = 1
  length : ∃ before block after, smsPushText recipientPhone body =
      before ++ ("LENGTH:".toList ++ Nat.toDigits 10 (byteLength block) ++ crlf) ++ block ++ after ∧
    "BEGIN:MSG\r\n".toList <+: block ∧ "END:MSG\r\n".toList <:+ block
  reads : ∀ mimeText, (BMessage.parse mimeText (buildSmsPush recipientPhone body)).body = readBack body

/-- No blank line begins or ends the text, and its escaped form is no longer than what is read of a text. -/
def KeepsText (body : List Char) : Prop :=
  (readBack body).head? ≠ some '\n' ∧ (readBack body).getLast? ≠ some '\n' ∧
    ((readBack body).length ≤ maxIncomingBodyChars ∨
      (readBack body).length = maxIncomingBodyChars + 1 ∧ (readBack body).getLast? = some '…')

section Lines

def terminated (lines : List (List Char)) : List Char := lines.flatMap (· ++ crlf)

@[simp] lemma terminated_nil : terminated [] = [] := rfl

@[simp] lemma terminated_cons (line : List Char) (lines : List (List Char)) :
    terminated (line :: lines) = line ++ crlf ++ terminated lines := rfl

lemma terminated_append (lines more : List (List Char)) :
    terminated (lines ++ more) = terminated lines ++ terminated more := List.flatMap_append

lemma splitOn_terminated {lines : List (List Char)} (h : ∀ line ∈ lines, '\n' ∉ line) :
    (terminated lines).splitOn '\n' = lines.map (· ++ ['\r']) ++ [[]] := by
  induction lines with
  | nil => rfl
  | cons line lines ih =>
      obtain ⟨hline, hlines⟩ := List.forall_mem_cons.mp h
      have hfirst : '\n' ∉ line ++ ['\r'] := by simp [hline]
      have hsplit : terminated (line :: lines) = (line ++ ['\r']) ++ '\n' :: terminated lines := by simp [crlf]
      rw [hsplit, List.splitOn_append_cons_self_of_not_mem hfirst, ih hlines]
      rfl

lemma rdropWhile_cr {line : List Char} (h : '\r' ∉ line) : (line ++ ['\r']).rdropWhile (· == '\r') = line := by
  rw [List.rdropWhile_concat_pos _ _ _ (by rfl)]
  refine List.rdropWhile_eq_self_iff.mpr fun hne hlast => h ?_
  rw [← beq_iff_eq.mp hlast]
  exact List.getLast_mem hne

lemma intercalate_cons (line : List Char) (lines : List (List Char)) :
    ['\n'].intercalate (line :: lines) = line ++ lines.flatMap ('\n' :: ·) := by
  induction lines generalizing line with
  | nil => simp
  | cons next lines ih => simp [List.intercalate_cons_cons, ih]

end Lines

section Outgoing

lemma mem_replaceCrlf {c : Char} {body : List Char} (h : c ∈ replaceCrlf body) : c = '\n' ∨ c ∈ body := by
  induction body using replaceCrlf.induct with
  | case1 rest ih =>
      rw [replaceCrlf] at h
      obtain rfl | h := List.mem_cons.mp h
      · exact Or.inl rfl
      · exact (ih h).imp_right fun h => List.mem_cons_of_mem _ (List.mem_cons_of_mem _ h)
  | case2 d rest hne ih =>
      rw [replaceCrlf] at h
      · obtain rfl | h := List.mem_cons.mp h
        · exact Or.inr List.mem_cons_self
        · exact (ih h).imp_right (List.mem_cons_of_mem _)
      · exact hne
  | case3 => simp [replaceCrlf] at h

lemma mem_lineFeeds {c : Char} {body : List Char} (h : c ∈ lineFeeds body) : c = '\n' ∨ c ≠ '\r' ∧ c ∈ body := by
  obtain ⟨d, hd, rfl⟩ := List.mem_map.mp h
  split_ifs with hcr
  · exact Or.inl rfl
  · exact (mem_replaceCrlf hd).imp_right fun hd => ⟨hcr, hd⟩

lemma not_mem_splitOn {c : Char} {text line : List Char} (h : line ∈ text.splitOn c) : c ∉ line := by
  intro hc
  induction text generalizing line with
  | nil => simp_all
  | cons d text ih =>
      rw [List.splitOn_cons_eq_if_modifyHead] at h
      split_ifs at h with hd
      · obtain rfl | h := List.mem_cons.mp h
        · simp at hc
        · exact ih h hc
      · obtain ⟨first, rest, hsplit⟩ := List.exists_cons_of_ne_nil (List.splitOn_ne_nil c text)
        rw [hsplit, List.modifyHead_cons] at h
        rw [hsplit] at ih
        obtain rfl | h := List.mem_cons.mp h
        · obtain rfl | hc := List.mem_cons.mp hc
          · simp at hd
          · exact ih List.mem_cons_self hc
        · exact ih (List.mem_cons_of_mem _ h) hc

lemma mem_of_mem_splitOn {c d : Char} {text line : List Char} (h : line ∈ text.splitOn c) (hd : d ∈ line) :
    d ∈ text := by
  have hjoin : [c].intercalate (text.splitOn c) = text := List.intercalate_splitOn c
  rw [← hjoin]
  generalize text.splitOn c = lines at h
  induction lines with
  | nil => cases h
  | cons first lines ih =>
      cases lines with
      | nil =>
          obtain rfl := List.mem_singleton.mp h
          simpa using hd
      | cons second lines =>
          rw [List.intercalate_cons_cons]
          obtain rfl | h := List.mem_cons.mp h
          · simp [hd]
          · exact List.mem_append_right _ (ih h)

lemma mem_escapeMsgLine {c : Char} {line : List Char} (h : c ∈ escapeMsgLine line) : c = ' ' ∨ c ∈ line := by
  rw [escapeMsgLine] at h
  split_ifs at h
  · exact List.mem_cons.mp h
  · exact Or.inr h

lemma escapeMsgLine_not_mark (line : List Char) :
    eqIgnoreAsciiCase (escapeMsgLine line) "END:MSG".toList = false ∧
      eqIgnoreAsciiCase (escapeMsgLine line) "BEGIN:MSG".toList = false := by
  rw [escapeMsgLine]
  split_ifs with hmark
  · exact ⟨rfl, rfl⟩
  · simpa using hmark

lemma outgoing_plain {body line : List Char} (h : line ∈ outgoingLines body) :
    '\n' ∉ line ∧ '\r' ∉ line ∧ eqIgnoreAsciiCase line "END:MSG".toList = false := by
  obtain ⟨raw, hraw, rfl⟩ := List.mem_map.mp h
  refine ⟨?_, ?_, (escapeMsgLine_not_mark raw).1⟩
  · intro hc
    obtain hc | hc := mem_escapeMsgLine hc
    · exact absurd hc (by decide)
    · exact not_mem_splitOn hraw hc
  · intro hc
    obtain hc | hc := mem_escapeMsgLine hc
    · exact absurd hc (by decide)
    · obtain hc | hc := mem_lineFeeds (mem_of_mem_splitOn hraw hc)
      · exact absurd hc (by decide)
      · exact hc.1 rfl

lemma outgoingLines_ne_nil (body : List Char) : outgoingLines body ≠ [] := by
  simp [outgoingLines]

/-- The lines between BEGIN:MSG and END:MSG: an empty last one has no end of its own. -/
def msgLines (body : List Char) : List (List Char) :=
  if (outgoingLines body).getLast? = some [] ∧ (outgoingLines body).dropLast ≠ [] then (outgoingLines body).dropLast
  else outgoingLines body

lemma crlf_suffix_iff {lines : List (List Char)} {last : List Char} (h : '\n' ∉ last) :
    crlf <:+ terminated lines ++ last ↔ last = [] ∧ lines ≠ [] := by
  constructor
  · rintro ⟨front, hfront⟩
    have hlast : last = [] := by
      by_contra hne
      have hend : (front ++ crlf).getLast? = (terminated lines ++ last).getLast? := congrArg _ hfront
      rw [List.getLast?_append_of_ne_nil _ hne, List.getLast?_append_of_ne_nil _ (by decide)] at hend
      exact h (List.mem_of_getLast? hend.symm)
    refine ⟨hlast, ?_⟩
    rintro rfl
    rw [hlast] at hfront
    simp [crlf] at hfront
  · rintro ⟨rfl, hne⟩
    obtain ⟨front, line, rfl⟩ := List.eq_nil_or_concat lines |>.resolve_left hne
    rw [List.append_nil, List.concat_eq_append, terminated_append, terminated_cons, terminated_nil, List.append_nil]
    exact ⟨terminated front ++ line, by simp⟩

lemma escapeMsgBody_eq {body : List Char} {init : List (List Char)} {last : List Char}
    (h : outgoingLines body = init ++ [last]) : escapeMsgBody body = terminated init ++ last := by
  have hlines : (((lineFeeds body).splitOn '\n').flatMap fun line => escapeMsgLine line ++ crlf) =
      terminated init ++ last ++ crlf := by
    have hflat : (((lineFeeds body).splitOn '\n').flatMap fun line => escapeMsgLine line ++ crlf) =
        terminated (outgoingLines body) := by
      rw [terminated, outgoingLines, List.flatMap_map]
    rw [hflat, h, terminated_append, terminated_cons, terminated_nil, List.append_nil, List.append_assoc]
  change (if crlf <:+ _ then _ else _) = _
  rw [show (((replaceCrlf body).map fun c => if c = '\r' then '\n' else c).splitOn '\n') =
    (lineFeeds body).splitOn '\n' from rfl, hlines, if_pos (List.suffix_append _ _), List.length_append]
  exact List.take_left' rfl

lemma msgBlock_eq (safeBody : List Char) : msgBlock safeBody = "BEGIN:MSG".toList ++ crlf ++ safeBody ++
    (if crlf <:+ safeBody then [] else crlf) ++ ("END:MSG".toList ++ crlf) := by
  have hbegin : "BEGIN:MSG\r\n".toList = "BEGIN:MSG".toList ++ crlf := by decide
  have hend : "END:MSG\r\n".toList = "END:MSG".toList ++ crlf := by decide
  exact congrArg₂ (fun first final => first ++ safeBody ++ (if crlf <:+ safeBody then [] else crlf) ++
    final) hbegin hend

lemma msgBlock_escapeMsgBody (body : List Char) :
    msgBlock (escapeMsgBody body) = terminated ("BEGIN:MSG".toList :: (msgLines body ++ ["END:MSG".toList])) := by
  obtain ⟨init, last, hlines⟩ := List.eq_nil_or_concat (outgoingLines body) |>.resolve_left (outgoingLines_ne_nil body)
  rw [List.concat_eq_append] at hlines
  have hmem : last ∈ outgoingLines body := by
    rw [hlines]
    exact List.mem_append_right _ List.mem_cons_self
  have hplain : '\n' ∉ last := (outgoing_plain hmem).1
  have hblock : terminated (msgLines body) =
      escapeMsgBody body ++ if crlf <:+ escapeMsgBody body then [] else crlf := by
    rw [escapeMsgBody_eq hlines]
    simp only [msgLines, hlines, List.getLast?_concat, List.dropLast_concat, Option.some_inj, crlf_suffix_iff hplain]
    split_ifs with hempty
    · rw [hempty.1, List.append_nil, List.append_nil]
    · rw [terminated_append, terminated_cons, terminated_nil, List.append_nil, List.append_assoc]
  rw [msgBlock_eq]
  generalize "BEGIN:MSG".toList = first
  generalize "END:MSG".toList = final
  rw [terminated_cons, terminated_append, hblock, terminated_cons, terminated_nil]
  simp only [List.append_assoc, List.append_nil]

def beforeRecipient : List (List Char) :=
  ["BEGIN:BMSG".toList, "VERSION:1.0".toList, "STATUS:UNREAD".toList, "TYPE:SMS_GSM".toList,
    "FOLDER:telecom/msg/outbox".toList, "BEGIN:BENV".toList, "BEGIN:VCARD".toList, "VERSION:2.1".toList, "N:;".toList]

def afterRecipient : List (List Char) := ["END:VCARD".toList, "BEGIN:BBODY".toList, "CHARSET:UTF-8".toList]

def afterBlock : List (List Char) := ["END:BBODY".toList, "END:BENV".toList, "END:BMSG".toList]

def telLine (recipientPhone : List Char) : List Char := "TEL:".toList ++ recipientPhone

def lengthLine (body : List Char) : List Char :=
  "LENGTH:".toList ++ Nat.toDigits 10 (byteLength (msgBlock (escapeMsgBody body)))

def headerLines (recipientPhone body : List Char) : List (List Char) :=
  beforeRecipient ++ [telLine recipientPhone] ++ afterRecipient ++ [lengthLine body]

lemma regroup (a b c d e f g h i tel x y z block u v w : List Char) :
    a ++ b ++ c ++ d ++ e ++ f ++ g ++ h ++ i ++ tel ++ x ++ y ++ z ++ block ++ u ++ v ++ w =
      (a ++ b ++ c ++ d ++ e ++ f ++ g ++ h ++ i) ++ tel ++ (x ++ y ++ z) ++ block ++ (u ++ v ++ w) := by
  simp only [List.append_assoc]

set_option maxRecDepth 4000 in
lemma smsPushText_eq (recipientPhone body : List Char) : smsPushText recipientPhone body =
    terminated beforeRecipient ++ (telLine recipientPhone ++ crlf) ++ terminated afterRecipient ++
      (lengthLine body ++ crlf ++ msgBlock (escapeMsgBody body)) ++ terminated afterBlock := by
  have hbefore : "BEGIN:BMSG\r\n".toList ++ "VERSION:1.0\r\n".toList ++
      "STATUS:UNREAD\r\n".toList ++ "TYPE:SMS_GSM\r\n".toList ++ "FOLDER:telecom/msg/outbox\r\n".toList ++
      "BEGIN:BENV\r\n".toList ++ "BEGIN:VCARD\r\n".toList ++ "VERSION:2.1\r\n".toList ++ "N:;\r\n".toList =
      terminated beforeRecipient := by
    decide
  have hafter : "END:VCARD\r\n".toList ++ "BEGIN:BBODY\r\n".toList ++ "CHARSET:UTF-8\r\n".toList =
      terminated afterRecipient := by
    decide
  have hblock : "END:BBODY\r\n".toList ++ "END:BENV\r\n".toList ++ "END:BMSG\r\n".toList =
      terminated afterBlock := by
    decide
  refine (regroup _ _ _ _ _ _ _ _ _ _ _ _ _ _ _ _ _).trans ?_
  exact congrArg₂ (fun first final => first ++ (lengthLine body ++ crlf ++ msgBlock (escapeMsgBody body)) ++ final)
    (congrArg₂ (fun first second => first ++ (telLine recipientPhone ++ crlf) ++ second) hbefore hafter) hblock

lemma smsPushText_lines (recipientPhone body : List Char) : smsPushText recipientPhone body =
    terminated (headerLines recipientPhone body ++
      "BEGIN:MSG".toList :: (msgLines body ++ "END:MSG".toList :: afterBlock)) := by
  rw [smsPushText_eq, msgBlock_escapeMsgBody, headerLines]
  generalize "BEGIN:MSG".toList = first
  generalize "END:MSG".toList = final
  simp only [terminated_append, terminated_cons, terminated_nil, List.append_assoc, List.append_nil]

end Outgoing

section Envelope

def allLines (recipientPhone body : List Char) : List (List Char) :=
  headerLines recipientPhone body ++ "BEGIN:MSG".toList :: (msgLines body ++ "END:MSG".toList :: afterBlock)

def Unbroken (line : List Char) : Prop := '\n' ∉ line ∧ '\r' ∉ line

instance : DecidablePred Unbroken := fun line => inferInstanceAs (Decidable ('\n' ∉ line ∧ '\r' ∉ line))

lemma mem_msgLines {body line : List Char} (h : line ∈ msgLines body) : line ∈ outgoingLines body := by
  rw [msgLines] at h
  split_ifs at h
  · exact List.dropLast_subset _ h
  · exact h

lemma lengthLine_unbroken (body : List Char) : Unbroken (lengthLine body) := by
  have hdigits : ∀ c ∈ lengthLine body, c.isDigit = true ∨ c ∈ "LENGTH:".toList := by
    intro c hc
    obtain hc | hc := List.mem_append.mp hc
    · exact Or.inr hc
    · exact Or.inl (Nat.isDigit_of_mem_toDigits (by decide) (by decide) hc)
  constructor
  · intro hc
    exact absurd (hdigits _ hc) (by decide)
  · intro hc
    exact absurd (hdigits _ hc) (by decide)

lemma telLine_unbroken {recipientPhone : List Char} (h : Unbroken recipientPhone) :
    Unbroken (telLine recipientPhone) := by
  have htel : Unbroken "TEL:".toList := by decide
  exact ⟨List.not_mem_append htel.1 h.1, List.not_mem_append htel.2 h.2⟩

lemma headerLines_unbroken {recipientPhone : List Char} (h : Unbroken recipientPhone) (body : List Char) :
    ∀ line ∈ headerLines recipientPhone body, Unbroken line := by
  have hbefore : ∀ line ∈ beforeRecipient, Unbroken line := by decide
  have hafter : ∀ line ∈ afterRecipient, Unbroken line := by decide
  intro line hline
  obtain hline | hline := List.mem_append.mp hline
  · obtain hline | hline := List.mem_append.mp hline
    · obtain hline | hline := List.mem_append.mp hline
      · exact hbefore line hline
      · rw [List.mem_singleton.mp hline]
        exact telLine_unbroken h
    · exact hafter line hline
  · rw [List.mem_singleton.mp hline]
    exact lengthLine_unbroken body

lemma allLines_unbroken {recipientPhone : List Char} (h : Unbroken recipientPhone) (body : List Char) :
    ∀ line ∈ allLines recipientPhone body, Unbroken line := by
  have hbegin : Unbroken "BEGIN:MSG".toList := by decide
  have hend : ∀ line ∈ "END:MSG".toList :: afterBlock, Unbroken line := by decide
  intro line hline
  obtain hline | hline := List.mem_append.mp hline
  · exact headerLines_unbroken h body line hline
  · obtain rfl | hline := List.mem_cons.mp hline
    · exact hbegin
    · obtain hline | hline := List.mem_append.mp hline
      · have hplain := outgoing_plain (mem_msgLines hline)
        exact ⟨hplain.1, hplain.2.1⟩
      · exact hend line hline

lemma splitOn_smsPushText {recipientPhone : List Char} (h : Unbroken recipientPhone) (body : List Char) :
    (smsPushText recipientPhone body).splitOn '\n' = (allLines recipientPhone body).map (· ++ ['\r']) ++ [[]] := by
  have hlines : smsPushText recipientPhone body = terminated (allLines recipientPhone body) :=
    smsPushText_lines recipientPhone body
  rw [hlines]
  exact splitOn_terminated fun line hline => (allLines_unbroken h body line hline).1

lemma envelopeLines_smsPushText {recipientPhone : List Char} (h : Unbroken recipientPhone) (body : List Char) :
    envelopeLines (smsPushText recipientPhone body) = allLines recipientPhone body ++ [[]] := by
  rw [envelopeLines, splitOn_smsPushText h, List.map_append, List.map_map]
  have hlines : (allLines recipientPhone body).map
      ((fun line => line.rdropWhile (· == '\r')) ∘ fun line => line ++ ['\r']) = allLines recipientPhone body := by
    refine (List.map_congr_left fun line hline => ?_).trans (List.map_id _)
    exact rdropWhile_cr (allLines_unbroken h body line hline).2
  rw [hlines]
  rfl

lemma ne_mark_of_head {c d : Char} (line mark : List Char) (h : c.toLower ≠ d.toLower) :
    eqIgnoreAsciiCase (c :: line) (d :: mark) = false := by
  rw [eqIgnoreAsciiCase, List.map_cons, List.map_cons]
  exact beq_eq_false_iff_ne.mpr fun heq => h (List.cons_eq_cons.mp heq).1

lemma headerLines_not_begin (recipientPhone body : List Char) :
    ∀ line ∈ headerLines recipientPhone body, eqIgnoreAsciiCase line "BEGIN:MSG".toList = false := by
  have hbefore : ∀ line ∈ beforeRecipient, eqIgnoreAsciiCase line "BEGIN:MSG".toList = false := by decide
  have hafter : ∀ line ∈ afterRecipient, eqIgnoreAsciiCase line "BEGIN:MSG".toList = false := by decide
  intro line hline
  obtain hline | hline := List.mem_append.mp hline
  · obtain hline | hline := List.mem_append.mp hline
    · obtain hline | hline := List.mem_append.mp hline
      · exact hbefore line hline
      · rw [List.mem_singleton.mp hline]
        exact ne_mark_of_head ('E' :: 'L' :: ':' :: recipientPhone) "EGIN:MSG".toList (by decide)
    · exact hafter line hline
  · rw [List.mem_singleton.mp hline]
    exact ne_mark_of_head ("ENGTH:".toList ++ Nat.toDigits 10 (byteLength (msgBlock (escapeMsgBody body))))
      "EGIN:MSG".toList (by decide)

lemma one_end_mark (body : List Char) :
    (msgLines body ++ "END:MSG".toList :: afterBlock ++ [[]]).countP
      (fun line => eqIgnoreAsciiCase line "END:MSG".toList) = 1 := by
  have hmsg : (msgLines body).countP (fun line => eqIgnoreAsciiCase line "END:MSG".toList) = 0 := by
    refine List.countP_eq_zero.mpr fun line hline => ?_
    rw [(outgoing_plain (mem_msgLines hline)).2.2]
    exact Bool.false_ne_true
  have hrest : ("END:MSG".toList :: afterBlock ++ [[]]).countP
      (fun line => eqIgnoreAsciiCase line "END:MSG".toList) = 1 := by
    decide
  refine (congrArg (List.countP _) (List.append_assoc _ _ _)).trans (List.countP_append.trans ?_)
  exact congrArg₂ (· + ·) hmsg hrest

lemma length_counts_the_block (recipientPhone body : List Char) :
    ∃ before block after, smsPushText recipientPhone body =
      before ++ ("LENGTH:".toList ++ Nat.toDigits 10 (byteLength block) ++ crlf) ++ block ++ after ∧
    "BEGIN:MSG\r\n".toList <+: block ∧ "END:MSG\r\n".toList <:+ block := by
  refine ⟨terminated beforeRecipient ++ (telLine recipientPhone ++ crlf) ++ terminated afterRecipient,
    msgBlock (escapeMsgBody body), terminated afterBlock, ?_, ?_, ?_⟩
  · rw [smsPushText_eq]
    exact congrArg (· ++ terminated afterBlock) (List.append_assoc _ _ _).symm
  · exact ((List.prefix_append _ _).trans (List.prefix_append _ _)).trans (List.prefix_append _ _)
  · exact List.suffix_append _ _

end Envelope

section Reading

open BMessage

def plainLine (p : Parsing) (line : List Char) : Parsing := if p.inMsg then p.msgLine line else p.headerLine line

lemma line_cr (p : Parsing) {line : List Char} (h : '\r' ∉ line) : p.line (line ++ ['\r']) = plainLine p line := by
  rw [Parsing.line, rdropWhile_cr h, plainLine]

lemma foldl_line {lines : List (List Char)} (h : ∀ line ∈ lines, '\r' ∉ line) (p : Parsing) :
    (lines.map (· ++ ['\r'])).foldl Parsing.line p = lines.foldl plainLine p := by
  induction lines generalizing p with
  | nil => rfl
  | cons line lines ih =>
      obtain ⟨hline, hlines⟩ := List.forall_mem_cons.mp h
      rw [List.map_cons, List.foldl_cons, List.foldl_cons, line_cr p hline]
      exact ih hlines _

lemma headerLine_other (p : Parsing) {c : Char} {name value : List Char} (hsender : p.inVcardOriginator = false)
    (hmark : c.toUpper ≠ 'B' ∧ c.toUpper ≠ 'E') (hname : ':' ∉ c :: name)
    (hprop : ∀ prop, prop = (trim (((c :: name).splitOn ';').headD (c :: name))).map Char.toUpper →
      prop ≠ "TYPE".toList ∧ prop ≠ "FOLDER".toList ∧ prop ≠ "STATUS".toList) :
    p.headerLine (c :: name ++ ':' :: value) = p := by
  have hbegin : ∀ mark : List Char, mark.head? = some 'B' ∨ mark.head? = some 'E' →
      ¬mark <+: (c :: name ++ ':' :: value).map Char.toUpper := by
    intro mark hhead hmarked
    obtain ⟨rest, hrest⟩ := hmarked
    cases mark with
    | nil => simp at hhead
    | cons d mark =>
        have hd : d = c.toUpper := (List.cons_eq_cons.mp hrest).1
        rw [List.head?_cons, Option.some_inj, Option.some_inj, hd] at hhead
        exact hhead.elim hmark.1 hmark.2
  have hdrop : (c :: name ++ ':' :: value).dropWhile (· != ':') = ':' :: value := by
    rw [List.dropWhile_append_of_pos]
    · rfl
    · intro d hd
      exact bne_iff_ne.mpr fun heq => hname (heq ▸ hd)
  have htake : (c :: name ++ ':' :: value).takeWhile (· != ':') = c :: name := by
    rw [List.takeWhile_append_of_pos]
    · simp
    · intro d hd
      exact bne_iff_ne.mpr fun heq => hname (heq ▸ hd)
  obtain ⟨htype, hfolder, hstatus⟩ := hprop _ rfl
  rw [Parsing.headerLine]
  dsimp only
  rw [if_neg (hbegin "BEGIN:BENV".toList (by decide)), if_neg (hbegin "END:BENV".toList (by decide)),
    if_neg (hbegin "BEGIN:VCARD".toList (by decide)), if_neg (hbegin "END:VCARD".toList (by decide)),
    if_neg (hbegin "BEGIN:MSG".toList (by decide)),
    if_neg (not_or.mpr ⟨hbegin "BEGIN:".toList (by decide), hbegin "END:".toList (by decide)⟩), hdrop, htake]
  dsimp only
  rw [Parsing.property, if_neg fun h => htype h.1, if_neg fun h => hfolder h.1, if_neg fun h => hstatus h.1]
  simp [hsender]

lemma telLine_ignored (p : Parsing) (recipientPhone : List Char) (h : p.inVcardOriginator = false) :
    p.headerLine (telLine recipientPhone) = p :=
  @headerLine_other p 'T' "EL".toList recipientPhone h (by decide) (by decide) (by rintro prop rfl; decide)

lemma lengthLine_ignored (p : Parsing) (body : List Char) (h : p.inVcardOriginator = false) :
    p.headerLine (lengthLine body) = p :=
  @headerLine_other p 'L' "ENGTH".toList _ h (by decide) (by decide) (by rintro prop rfl; decide)

def atMessage : Parsing where
  out := { msgType := some "SMS_GSM".toList, folder := some "telecom/msg/outbox".toList, read := some false }
  depthEnvelope := 1
  inMsg := true
  vcardSeenCount := 1

set_option maxRecDepth 8000 in
lemma beforeRecipient_foldl : ((beforeRecipient.foldl plainLine {}).inMsg = false ∧
    (beforeRecipient.foldl plainLine {}).inVcardOriginator = false) ∧
    ((beforeRecipient ++ afterRecipient).foldl plainLine {}).inMsg = false ∧
    ((beforeRecipient ++ afterRecipient).foldl plainLine {}).inVcardOriginator = false ∧
    plainLine ((beforeRecipient ++ afterRecipient).foldl plainLine {}) "BEGIN:MSG".toList = atMessage := by
  decide

lemma headerLines_foldl (recipientPhone body : List Char) :
    plainLine ((headerLines recipientPhone body).foldl plainLine {}) "BEGIN:MSG".toList = atMessage := by
  obtain ⟨⟨hmsg, hsender⟩, hmsg', hsender', hbegin⟩ := beforeRecipient_foldl
  have htel : (beforeRecipient ++ [telLine recipientPhone]).foldl plainLine {} =
      beforeRecipient.foldl plainLine {} := by
    rw [List.foldl_append, List.foldl_cons, List.foldl_nil]
    exact (if_neg (ne_true_of_eq_false hmsg)).trans (telLine_ignored _ _ hsender)
  have hheader : (headerLines recipientPhone body).foldl plainLine {} =
      (beforeRecipient ++ afterRecipient).foldl plainLine {} := by
    rw [headerLines, List.foldl_append, List.foldl_append, htel, List.foldl_cons, List.foldl_nil,
      ← List.foldl_append]
    exact (if_neg (ne_true_of_eq_false hmsg')).trans (lengthLine_ignored _ _ hsender')
  rw [hheader]
  exact hbegin

/-- The lines of a message behind what is read of it already: blank ones at its start are left out. -/
def joinInto (body : List Char) (lines : List (List Char)) : List Char :=
  lines.foldl (fun body line => (if body.isEmpty then [] else body ++ ['\n']) ++ line) body

lemma msgLines_foldl {lines : List (List Char)} (h : ∀ line ∈ lines, eqIgnoreAsciiCase line "END:MSG".toList = false)
    (p : Parsing) (hmsg : p.inMsg = true) :
    lines.foldl plainLine p = { p with body := joinInto p.body lines } := by
  induction lines generalizing p with
  | nil => rfl
  | cons line lines ih =>
      obtain ⟨hline, hlines⟩ := List.forall_mem_cons.mp h
      have hstep : plainLine p line =
          { p with body := (if p.body.isEmpty then [] else p.body ++ ['\n']) ++ line } := by
        rw [plainLine, if_pos hmsg, Parsing.msgLine, hline]
        rfl
      rw [List.foldl_cons, hstep]
      exact ih hlines _ hmsg

lemma afterBlock_foldl (p : Parsing) (hmsg : p.inMsg = true) :
    ((("END:MSG".toList :: afterBlock).foldl plainLine p).line []).out = p.out ∧
      ((("END:MSG".toList :: afterBlock).foldl plainLine p).line []).body = p.body := by
  have hend : plainLine p "END:MSG".toList = { p with inMsg := false } := if_pos hmsg
  rw [List.foldl_cons, hend]
  exact ⟨rfl, rfl⟩

lemma joinInto_of_ne_nil {body : List Char} (h : body ≠ []) (lines : List (List Char)) :
    joinInto body lines = body ++ lines.flatMap ('\n' :: ·) := by
  induction lines generalizing body with
  | nil => simp [joinInto]
  | cons line lines ih =>
      have hstep : joinInto body (line :: lines) = joinInto (body ++ ['\n'] ++ line) lines := by
        rw [joinInto, List.foldl_cons, if_neg (by simpa using h)]
        rfl
      rw [hstep, ih (by simp)]
      simp

lemma joinInto_nil (lines : List (List Char)) :
    joinInto [] lines = ['\n'].intercalate (lines.dropWhile (·.isEmpty)) := by
  induction lines with
  | nil => rfl
  | cons line lines ih =>
      cases line with
      | nil => exact ih
      | cons c line =>
          rw [List.dropWhile_cons_of_neg (by simp), intercalate_cons]
          exact joinInto_of_ne_nil (List.cons_ne_nil c line) lines

def gathered (body : List Char) : List Char := joinInto [] (msgLines body)

lemma parse_buildSmsPush {recipientPhone : List Char} (h : Unbroken recipientPhone) (body : List Char)
    (mimeText : List Char → Option (List Char)) :
    (parse mimeText (buildSmsPush recipientPhone body)).body =
      cleanIncomingText (gathered body) maxIncomingBodyChars true := by
  have hfold : ((smsPushText recipientPhone body).splitOn '\n').foldl Parsing.line {} =
      (("END:MSG".toList :: afterBlock).foldl plainLine { atMessage with body := gathered body }).line [] := by
    rw [splitOn_smsPushText h, List.foldl_append, List.foldl_cons, List.foldl_nil,
      foldl_line fun line hline => (allLines_unbroken h body line hline).2]
    refine congrArg (Parsing.line · []) ?_
    refine List.foldl_append.trans ?_
    refine List.foldl_cons.trans ?_
    refine List.foldl_append.trans ?_
    refine congrArg (("END:MSG".toList :: afterBlock).foldl plainLine ·) ?_
    rw [headerLines_foldl]
    exact msgLines_foldl (fun line hline => (outgoing_plain (mem_msgLines hline)).2.2) atMessage rfl
  obtain ⟨hout, hbody⟩ := afterBlock_foldl { atMessage with body := gathered body } rfl
  have htype : atMessage.out.msgType.any (fun msgType => eqIgnoreAsciiCase msgType "MMS".toList) = false := by decide
  rw [parse, buildSmsPush, fromUtf8Lossy_encode, hfold]
  dsimp only
  rw [hout, hbody]
  exact congrArg (cleanIncomingText · maxIncomingBodyChars true) (if_neg (ne_true_of_eq_false htype))

end Reading

section Gathering

open BMessage

lemma intercalate_concat {init : List (List Char)} (h : init ≠ []) (last : List Char) :
    ['\n'].intercalate (init ++ [last]) = ['\n'].intercalate init ++ '\n' :: last := by
  obtain ⟨first, rest, rfl⟩ := List.exists_cons_of_ne_nil h
  rw [List.cons_append, intercalate_cons, intercalate_cons, List.flatMap_append]
  simp

lemma intercalate_dropWhile_length (lines : List (List Char)) :
    (['\n'].intercalate (lines.dropWhile (·.isEmpty))).length ≤ (['\n'].intercalate lines).length := by
  induction lines with
  | nil => exact le_rfl
  | cons line lines ih =>
      cases line with
      | nil =>
          refine ih.trans ?_
          cases lines with
          | nil => exact le_rfl
          | cons next lines => simp [List.intercalate_cons_cons]
      | cons c line => exact le_rfl

lemma gathered_cases (body : List Char) :
    (gathered body = readBack body ∧ (readBack body).head? ≠ some '\n' ∧ (readBack body).getLast? ≠ some '\n') ∨
      ((gathered body).length < (readBack body).length ∧
        ((readBack body).head? = some '\n' ∨ (readBack body).getLast? = some '\n')) := by
  obtain ⟨init, last, hlines⟩ := List.eq_nil_or_concat (outgoingLines body) |>.resolve_left (outgoingLines_ne_nil body)
  rw [List.concat_eq_append] at hlines
  have hplain : ∀ line ∈ init ++ [last], '\n' ∉ line := by
    intro line hline
    rw [← hlines] at hline
    exact (outgoing_plain hline).1
  rw [gathered, joinInto_nil, msgLines, readBack, hlines, List.getLast?_concat, List.dropLast_concat]
  by_cases hblank : last = [] ∧ init ≠ []
  · -- the break at the end has no line of its own
    obtain ⟨rfl, hinit⟩ := hblank
    rw [if_pos ⟨rfl, hinit⟩, intercalate_concat hinit]
    refine Or.inr ⟨?_, Or.inr (by simp)⟩
    rw [List.length_append]
    exact Nat.lt_succ_of_le (intercalate_dropWhile_length init)
  · rw [if_neg fun h => hblank ⟨Option.some_inj.mp h.1, h.2⟩]
    have hlast : (['\n'].intercalate (init ++ [last])).getLast? ≠ some '\n' := by
      intro h
      have hmem : '\n' ∈ last := by
        by_cases hinit : init = []
        · rw [hinit, List.nil_append, List.intercalate_singleton] at h
          exact List.mem_of_getLast? h
        · have hne : last ≠ [] := fun hnil => hblank ⟨hnil, hinit⟩
          rw [intercalate_concat hinit, List.getLast?_append_of_ne_nil _ (List.cons_ne_nil _ _),
            List.getLast?_cons_of_ne_nil hne] at h
          exact List.mem_of_getLast? h
      exact hplain last (List.mem_append_right _ List.mem_cons_self) hmem
    generalize init ++ [last] = lines at hplain hlast
    cases lines with
    | nil => exact Or.inl ⟨rfl, by simp, hlast⟩
    | cons first rest =>
        cases first with
        | nil =>
            cases rest with
            | nil => exact Or.inl ⟨rfl, by simp, hlast⟩
            | cons second rest =>
                refine Or.inr ⟨?_, Or.inl (by simp [List.intercalate_cons_cons])⟩
                rw [List.intercalate_cons_cons]
                exact Nat.lt_succ_of_le (intercalate_dropWhile_length (second :: rest))
        | cons c first =>
            refine Or.inl ⟨rfl, ?_, hlast⟩
            rw [intercalate_cons, List.cons_append, List.head?_cons]
            intro hc
            refine hplain _ List.mem_cons_self ?_
            rw [Option.some_inj.mp hc]
            exact List.mem_cons_self

lemma cleanFrom_plain {maxChars kept : ℕ} {text : List Char} (h : ∀ c ∈ text, isControl c = true → c = '\n')
    (hkept : kept ≤ maxChars) : cleanFrom maxChars true kept text =
      if kept + text.length ≤ maxChars then text else text.take (maxChars - kept) ++ ['…'] := by
  induction text generalizing kept with
  | nil => simp [cleanFrom, hkept]
  | cons c text ih =>
      obtain ⟨hc, htext⟩ := List.forall_mem_cons.mp h
      have hchar : cleanChar true c text.head? = some c := by
        by_cases hnl : c = '\n'
        · rw [hnl]
          rfl
        · have hcontrol : isControl c = false := by
            by_contra hctl
            exact hnl (hc (by simpa using hctl))
          have hcr : c ≠ '\r' := by
            rintro rfl
            exact absurd hcontrol (by decide)
          have htab : c ≠ '\t' := by
            rintro rfl
            exact absurd hcontrol (by decide)
          simp [cleanChar, hnl, hcr, htab, hcontrol]
      rw [cleanFrom, hchar]
      dsimp only
      by_cases hfull : kept = maxChars
      · rw [if_pos hfull, if_neg (by simp [hfull]), hfull, Nat.sub_self, List.take_zero, List.nil_append]
      · rw [if_neg hfull, ih htext (by omega), List.length_cons]
        have hroom : maxChars - kept = maxChars - (kept + 1) + 1 := by omega
        by_cases hfits : kept + 1 + text.length ≤ maxChars
        · rw [if_pos hfits, if_pos (by omega)]
        · rw [if_neg hfits, if_neg (by omega), hroom, List.take_succ_cons, List.cons_append]

lemma mem_intercalate {c : Char} {lines : List (List Char)} (h : c ∈ ['\n'].intercalate lines) :
    c = '\n' ∨ ∃ line ∈ lines, c ∈ line := by
  cases lines with
  | nil => simp at h
  | cons line lines =>
      rw [intercalate_cons] at h
      obtain h | h := List.mem_append.mp h
      · exact Or.inr ⟨line, List.mem_cons_self, h⟩
      · obtain ⟨next, hnext, h⟩ := List.mem_flatMap.mp h
        obtain h | h := List.mem_cons.mp h
        · exact Or.inl h
        · exact Or.inr ⟨next, List.mem_cons_of_mem _ hnext, h⟩

lemma joined_controls {body : List Char} (h : ∀ c ∈ body, isControl c = true → c = '\r' ∨ c = '\n')
    {lines : List (List Char)} (hlines : lines ⊆ outgoingLines body) :
    ∀ c ∈ ['\n'].intercalate lines, isControl c = true → c = '\n' := by
  intro c hc hcontrol
  obtain hc | ⟨line, hline, hc⟩ := mem_intercalate hc
  · exact hc
  · obtain ⟨raw, hraw, rfl⟩ := List.mem_map.mp (hlines hline)
    obtain rfl | hc := mem_escapeMsgLine hc
    · exact absurd hcontrol (by decide)
    · obtain hc | ⟨hcr, hc⟩ := mem_lineFeeds (mem_of_mem_splitOn hraw hc)
      · exact hc
      · exact (h c hc hcontrol).resolve_left hcr

lemma gathered_controls {body : List Char} (h : ∀ c ∈ body, isControl c = true → c = '\r' ∨ c = '\n') :
    ∀ c ∈ gathered body, isControl c = true → c = '\n' := by
  rw [gathered, joinInto_nil]
  refine joined_controls h fun line hline => ?_
  exact mem_msgLines ((List.dropWhile_sublist _).mem hline)

lemma cleaned_length_le {text : List Char} (h : ∀ c ∈ text, isControl c = true → c = '\n') :
    (cleanIncomingText text maxIncomingBodyChars true).length ≤ text.length := by
  rw [cleanIncomingText, cleanFrom_plain h (Nat.zero_le _)]
  split_ifs with hfits
  · exact le_rfl
  · rw [List.length_append, List.length_take, List.length_singleton]
    omega

lemma cleaned_eq_iff {text : List Char} (h : ∀ c ∈ text, isControl c = true → c = '\n') :
    cleanIncomingText text maxIncomingBodyChars true = text ↔ text.length ≤ maxIncomingBodyChars ∨
      text.length = maxIncomingBodyChars + 1 ∧ text.getLast? = some '…' := by
  rw [cleanIncomingText, cleanFrom_plain h (Nat.zero_le _), Nat.zero_add, Nat.sub_zero]
  split_ifs with hfits
  · exact iff_of_true rfl (Or.inl hfits)
  · constructor
    · intro hcut
      refine Or.inr ⟨?_, ?_⟩
      · have hlen := congrArg List.length hcut
        rw [List.length_append, List.length_take, List.length_singleton] at hlen
        omega
      · rw [← hcut]
        exact List.getLast?_concat
    · rintro (hle | ⟨hlen, hlast⟩)
      · exact absurd hle hfits
      · obtain ⟨front, hfront⟩ := List.getLast?_eq_some_iff.mp hlast
        rw [hfront, List.length_append, List.length_singleton, Nat.add_right_cancel_iff] at hlen
        rw [hfront, List.take_left' hlen]

end Gathering

/-- The envelope says what it should, and reads back as the text, exactly when the text has no blank line at its start
or at its end and its lines, once marked, are not too long to be read. -/
theorem smsPush_reads_back (recipientPhone body : List Char) (hrecipient : '\n' ∉ recipientPhone ∧
    '\r' ∉ recipientPhone)
    (hbody : ∀ c ∈ body, isControl c = true → c = '\r' ∨ c = '\n') :
    EnvelopeOk recipientPhone body ↔ KeepsText body := by
  have hparse : (∀ mimeText, (BMessage.parse mimeText (buildSmsPush recipientPhone body)).body = readBack body) ↔
      cleanIncomingText (gathered body) maxIncomingBodyChars true = readBack body := by
    constructor
    · intro h
      exact (parse_buildSmsPush hrecipient body fun _ => none).symm.trans (h fun _ => none)
    · intro h mimeText
      exact (parse_buildSmsPush hrecipient body mimeText).trans h
  have hreads : cleanIncomingText (gathered body) maxIncomingBodyChars true = readBack body ↔ KeepsText body := by
    obtain ⟨hall, hfirst, hlast⟩ | ⟨hlost, hblank⟩ := gathered_cases body
    · have hcontrols : ∀ c ∈ readBack body, isControl c = true → c = '\n' := joined_controls hbody (List.Subset.refl _)
      rw [hall, cleaned_eq_iff hcontrols, KeepsText]
      exact ⟨fun h => ⟨hfirst, hlast, h⟩, fun h => h.2.2⟩
    · refine iff_of_false ?_ fun h => hblank.elim h.1 h.2.1
      intro heq
      have hle := cleaned_length_le (gathered_controls hbody)
      rw [heq] at hle
      exact absurd hlost (Nat.not_lt.mpr hle)
  constructor
  · intro h
    exact hreads.mp (hparse.mp h.reads)
  · intro h
    have hbegin : envelopeLines (smsPushText recipientPhone body) = headerLines recipientPhone body ++
        "BEGIN:MSG".toList :: (msgLines body ++ "END:MSG".toList :: afterBlock ++ [[]]) := by
      refine (envelopeLines_smsPushText hrecipient body).trans ?_
      exact (List.append_assoc _ _ _).trans (congrArg (headerLines recipientPhone body ++ ·) rfl)
    exact {
      ends := ⟨headerLines recipientPhone body, msgLines body ++ "END:MSG".toList :: afterBlock ++ [[]], hbegin,
        headerLines_not_begin recipientPhone body, one_end_mark body⟩
      length := length_counts_the_block recipientPhone body
      reads := hparse.mpr (hreads.mpr h) }

set_option maxRecDepth 8000 in
theorem smsPush_reads_back_marked : EnvelopeOk "+4479".toList "hi\r\nEnd:Msg".toList := by
  refine (smsPush_reads_back "+4479".toList "hi\r\nEnd:Msg".toList (by decide) ?_).mpr ?_
  · change ∀ c ∈ ['h', 'i', '\r', '\n', 'E', 'n', 'd', ':', 'M', 's', 'g'], isControl c = true → c = '\r' ∨ c = '\n'
    simp [isControl]
  · exact ⟨by decide, by decide, Or.inl (by decide)⟩

set_option maxRecDepth 8000 in
/-- A blank first line is not read. -/
theorem blank_first_line_lost : ¬∀ recipientPhone body : List Char, '\n' ∉ recipientPhone ∧ '\r' ∉ recipientPhone →
    body.length ≤ maxIncomingBodyChars → (∀ c ∈ body, isControl c = true → c = '\r' ∨ c = '\n') →
    EnvelopeOk recipientPhone body := by
  intro h
  have hcontrols : ∀ c ∈ ['\n', 'h', 'i'], isControl c = true → c = '\r' ∨ c = '\n' := by
    simp [isControl]
  have hok := h "+4479".toList "\nhi".toList (by decide) (by decide) hcontrols
  have hread := (parse_buildSmsPush (by decide : Unbroken "+4479".toList) "\nhi".toList fun _ => none).symm.trans
    (hok.reads fun _ => none)
  exact absurd hread (by decide)

end Aokie.Radio.Map
