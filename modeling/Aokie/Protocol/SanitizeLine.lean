import Aokie.Protocol.ClaimChecks
import Aokie.Protocol.Text

/-! What `sanitize_line` comes to: the text with its forbidden runs made blanks, trimmed, cut and trimmed again. -/

namespace Aokie.Protocol

open Aokie.Lib

inductive TextBoundsError
  | empty | tooLong | forbiddenCharacter
  deriving DecidableEq

def checkLine (value : List Char) (maxBytes : ℕ) : Except TextBoundsError Unit :=
  if value.isEmpty then .error .empty
  else if maxBytes < byteLength value then .error .tooLong
  else if value.any isForbiddenChar then .error .forbiddenCharacter
  else .ok ()

/-- Each run of forbidden characters as one space; the flag says that a run has begun before the text. -/
def foldForbidden : Bool → List Char → List Char
  | _, [] => []
  | inRun, c :: rest =>
    if isForbiddenChar c then (if inRun then foldForbidden true rest else ' ' :: foldForbidden true rest)
    else c :: foldForbidden false rest

def lineOf (value : List Char) (maxBytes : ℕ) : List Char :=
  trimEnd (truncateToBytes (trim (foldForbidden false value)) maxBytes)

section Trimming

variable {text more : List Char} {maxBytes : ℕ}

@[simp] lemma trimEnd_nil : trimEnd [] = [] := rfl

lemma trimEnd_append_blanks (hmore : ∀ c ∈ more, isWhitespace c = true) : trimEnd (text ++ more) = trimEnd text := by
  induction more using List.reverseRecOn with
  | nil => rw [List.append_nil]
  | append_singleton more c ih =>
      rw [← List.append_assoc, trimEnd, List.rdropWhile_concat_pos _ _ _ (hmore c (by simp))]
      exact ih fun c hc => hmore c (by simp [hc])

lemma trimEnd_idem (text : List Char) : trimEnd (trimEnd text) = trimEnd text := List.rdropWhile_idempotent _ text

lemma exists_blanks (text : List Char) : ∃ blanks, text = trimEnd text ++ blanks ∧ ∀ c ∈ blanks,
    isWhitespace c = true := by
  induction text using List.reverseRecOn with
  | nil => exact ⟨[], rfl, by simp⟩
  | append_singleton text c ih =>
      by_cases hc : isWhitespace c = true
      · obtain ⟨blanks, heq, hblanks⟩ := ih
        refine ⟨blanks ++ [c], ?_, ?_⟩
        · rw [trimEnd, List.rdropWhile_concat_pos _ _ _ hc, ← List.append_assoc]
          exact congrArg (· ++ [c]) heq
        · intro d hd
          obtain hd | hd := List.mem_append.mp hd
          · exact hblanks d hd
          · rwa [List.mem_singleton.mp hd]
      · exact ⟨[], by rw [trimEnd, List.rdropWhile_concat_neg _ _ _ hc, List.append_nil], by simp⟩

lemma trimEnd_start (text : List Char) : trimEnd text <+: text := List.rdropWhile_prefix isWhitespace text

lemma truncateToBytes_start (text : List Char) (maxBytes : ℕ) : truncateToBytes text maxBytes <+: text := by
  induction text generalizing maxBytes with
  | nil => exact List.prefix_rfl
  | cons c text ih =>
      rw [truncateToBytes]
      split_ifs
      · exact List.cons_prefix_cons.mpr ⟨rfl, ih _⟩
      · exact List.nil_prefix

lemma byteLength_truncateToBytes (text : List Char) (maxBytes : ℕ) :
    byteLength (truncateToBytes text maxBytes) ≤ maxBytes := by
  induction text generalizing maxBytes with
  | nil => exact Nat.zero_le _
  | cons c text ih =>
      rw [truncateToBytes]
      split_ifs with hfits
      · have htail := ih (maxBytes - c.utf8Size)
        rw [byteLength_cons]
        omega
      · exact Nat.zero_le _

lemma truncateToBytes_of_le (hfits : byteLength text ≤ maxBytes) : truncateToBytes text maxBytes = text := by
  induction text generalizing maxBytes with
  | nil => rfl
  | cons c text ih =>
      rw [byteLength_cons] at hfits
      rw [truncateToBytes, if_pos (by omega), ih (by omega)]

lemma truncateToBytes_append (hfits : byteLength text ≤ maxBytes) :
    truncateToBytes (text ++ more) maxBytes = text ++ truncateToBytes more (maxBytes - byteLength text) := by
  induction text generalizing maxBytes with
  | nil => simp [byteLength]
  | cons c text ih =>
      rw [byteLength_cons] at hfits ⊢
      rw [List.cons_append, truncateToBytes, if_pos (by omega), ih (by omega), Nat.sub_sub, List.cons_append]

lemma truncateToBytes_append_of_le (hfull : maxBytes ≤ byteLength text) :
    truncateToBytes (text ++ more) maxBytes = truncateToBytes text maxBytes := by
  induction text generalizing maxBytes with
  | nil =>
      obtain rfl : maxBytes = 0 := by simpa [byteLength] using hfull
      cases more with
      | nil => rfl
      | cons c more => simp [truncateToBytes, Nat.ne_of_gt c.utf8Size_pos]
  | cons c text ih =>
      rw [byteLength_cons] at hfull
      rw [List.cons_append, truncateToBytes, truncateToBytes]
      split_ifs
      · rw [ih (by omega)]
      · rfl

lemma trimEnd_truncateToBytes (text : List Char) (maxBytes : ℕ) :
    trimEnd (truncateToBytes (trimEnd text) maxBytes) = trimEnd (truncateToBytes text maxBytes) := by
  obtain ⟨blanks, heq, hblanks⟩ := exists_blanks text
  conv_rhs => rw [heq]
  obtain hfits | hlong := le_total (byteLength (trimEnd text)) maxBytes
  · rw [truncateToBytes_of_le hfits, truncateToBytes_append hfits, trimEnd_append_blanks]
    intro c hc
    exact hblanks c ((truncateToBytes_start _ _).subset hc)
  · rw [truncateToBytes_append_of_le hlong]

end Trimming

section Gathering

variable {maxBytes : ℕ} {line rest : List Char}

lemma space_isWhitespace : isWhitespace ' ' = true := by decide

def gatherWhole : List Char → Bool → List Char → List Char
  | line, _, [] => line
  | line, pendingSpace, c :: rest =>
    if isForbiddenChar c then gatherWhole line true rest
    else if line.isEmpty && isWhitespace c then gatherWhole line pendingSpace rest
    else gatherWhole (line ++ (if pendingSpace && !line.isEmpty then [' ', c] else [c])) false rest

lemma gatherWhole_starts (line : List Char) (pendingSpace : Bool) (rest : List Char) :
    line <+: gatherWhole line pendingSpace rest := by
  induction rest generalizing line pendingSpace with
  | nil => exact List.prefix_rfl
  | cons c rest ih =>
      rw [gatherWhole]
      split_ifs
      · exact ih _ _
      · exact ih _ _
      · exact (List.prefix_append _ _).trans (ih _ _)
      · exact (List.prefix_append _ _).trans (ih _ _)

lemma gatherLine_eq_or (maxBytes : ℕ) (line : List Char) (pendingSpace : Bool) (rest : List Char) :
    gatherLine maxBytes line pendingSpace rest = gatherWhole line pendingSpace rest ∨
      gatherLine maxBytes line pendingSpace rest <+: gatherWhole line pendingSpace rest ∧
        maxBytes < byteLength (gatherLine maxBytes line pendingSpace rest) := by
  induction rest generalizing line pendingSpace with
  | nil => exact .inl rfl
  | cons c rest ih =>
      rw [gatherLine, gatherWhole]
      by_cases hforbidden : isForbiddenChar c = true
      · rw [if_pos hforbidden, if_pos hforbidden]
        exact ih _ _
      rw [if_neg hforbidden, if_neg hforbidden]
      by_cases hlead : (line.isEmpty && isWhitespace c) = true
      · rw [if_pos hlead, if_pos hlead]
        exact ih _ _
      rw [if_neg hlead, if_neg hlead]
      dsimp only
      by_cases hstop : maxBytes + 4 < byteLength (line ++ (if pendingSpace && !line.isEmpty then [' ', c] else [c]))
      · rw [if_pos hstop]
        exact .inr ⟨gatherWhole_starts _ _ _, by omega⟩
      · rw [if_neg hstop]
        exact ih _ _

lemma trimEnd_gatherWhole (hline : line ≠ []) (pendingSpace : Bool) (rest : List Char) :
    trimEnd (gatherWhole line pendingSpace rest) =
      trimEnd (line ++ if pendingSpace then ' ' :: foldForbidden true rest else foldForbidden false rest) := by
  induction rest generalizing line pendingSpace with
  | nil =>
      cases pendingSpace with
      | false => simp [gatherWhole, foldForbidden]
      | true =>
          rw [gatherWhole, if_pos rfl, foldForbidden]
          exact (trimEnd_append_blanks (by simp [space_isWhitespace])).symm
  | cons c rest ih =>
      have hnonempty : line.isEmpty = false := by simpa using hline
      rw [gatherWhole, hnonempty, Bool.false_and, if_neg Bool.false_ne_true]
      by_cases hforbidden : isForbiddenChar c = true
      · rw [if_pos hforbidden, ih hline]
        cases pendingSpace <;> simp [foldForbidden, hforbidden]
      · rw [if_neg hforbidden, ih (List.append_ne_nil_of_left_ne_nil hline _)]
        cases pendingSpace <;> simp [foldForbidden, hforbidden]

lemma trimEnd_gatherWhole_nil (pendingSpace inRun : Bool) (rest : List Char) :
    trimEnd (gatherWhole [] pendingSpace rest) = trimEnd ((foldForbidden inRun rest).dropWhile isWhitespace) := by
  induction rest generalizing pendingSpace inRun with
  | nil => rfl
  | cons c rest ih =>
      rw [gatherWhole, foldForbidden]
      by_cases hforbidden : isForbiddenChar c = true
      · rw [if_pos hforbidden, if_pos hforbidden]
        cases inRun with
        | true => exact ih true true
        | false =>
            rw [if_neg Bool.false_ne_true, List.dropWhile_cons_of_pos space_isWhitespace]
            exact ih true true
      rw [if_neg hforbidden, if_neg hforbidden]
      cases hblank : isWhitespace c with
      | true =>
          rw [List.dropWhile_cons_of_pos hblank]
          exact ih pendingSpace false
      | false =>
          rw [List.dropWhile_cons_of_neg (by simp [hblank])]
          have hwhole : trimEnd (gatherWhole [c] false rest) = trimEnd ([c] ++ foldForbidden false rest) :=
            trimEnd_gatherWhole (by simp) false rest
          simpa using hwhole

end Gathering

section Line

variable {value : List Char} {maxBytes : ℕ}

lemma sanitizeLine_eq_lineOf (value : List Char) (maxBytes : ℕ) :
    sanitizeLine value maxBytes = lineOf value maxBytes := by
  have hwhole : trimEnd (gatherWhole [] false value) = trim (foldForbidden false value) :=
      trimEnd_gatherWhole_nil false false value
  rw [lineOf, ← hwhole, trimEnd_truncateToBytes, sanitizeLine, trimEnd_truncateToBytes]
  obtain heq | ⟨⟨more, hmore⟩, hlong⟩ := gatherLine_eq_or maxBytes [] false value
  · rw [heq]
  · rw [← hmore, truncateToBytes_append_of_le hlong.le]

lemma not_forbidden_of_mem_foldForbidden {inRun : Bool} {text : List Char} {c : Char}
    (hc : c ∈ foldForbidden inRun text) :
    isForbiddenChar c = false := by
  induction text generalizing inRun with
  | nil => simp [foldForbidden] at hc
  | cons d text ih =>
      rw [foldForbidden] at hc
      split_ifs at hc with hforbidden
      · exact ih hc
      · obtain rfl | hc := List.mem_cons.mp hc
        · decide
        · exact ih hc
      · obtain rfl | hc := List.mem_cons.mp hc
        · simpa using hforbidden
        · exact ih hc

lemma foldForbidden_of_none {inRun : Bool} {text : List Char} (hnone : ∀ c ∈ text, isForbiddenChar c = false) :
    foldForbidden inRun text = text := by
  induction text generalizing inRun with
  | nil => rfl
  | cons c text ih =>
      obtain ⟨hc, htext⟩ := List.forall_mem_cons.mp hnone
      rw [foldForbidden, if_neg (by simp [hc]), ih htext]

lemma lineOf_start (value : List Char) (maxBytes : ℕ) : lineOf value maxBytes <+: trim (foldForbidden false value) :=
  (trimEnd_start _).trans (truncateToBytes_start _ _)

lemma byteLength_mono {text more : List Char} (h : text <+: more) : byteLength text ≤ byteLength more := by
  obtain ⟨rest, rfl⟩ := h
  rw [byteLength_append]
  omega

lemma byteLength_lineOf (value : List Char) (maxBytes : ℕ) : byteLength (lineOf value maxBytes) ≤ maxBytes :=
  (byteLength_mono (trimEnd_start _)).trans (byteLength_truncateToBytes _ _)

lemma not_forbidden_of_mem_lineOf {c : Char} (hc : c ∈ lineOf value maxBytes) : isForbiddenChar c = false := by
  have hmem := (lineOf_start value maxBytes).subset hc
  have hfold : c ∈ foldForbidden false value := (List.dropWhile_sublist _).subset ((trimEnd_start _).subset hmem)
  exact not_forbidden_of_mem_foldForbidden hfold

lemma trim_lineOf (value : List Char) (maxBytes : ℕ) : trim (lineOf value maxBytes) = lineOf value maxBytes := by
  have hstart : (lineOf value maxBytes).dropWhile isWhitespace = lineOf value maxBytes := by
    cases hline : lineOf value maxBytes with
    | nil => rfl
    | cons c line =>
        obtain ⟨rest, hrest⟩ := (lineOf_start value maxBytes).trans (trimEnd_start _)
        rw [hline, List.cons_append] at hrest
        have hhead := List.head?_dropWhile_not isWhitespace (foldForbidden false value)
        rw [← hrest] at hhead
        simp only [List.head?_cons] at hhead
        rw [List.dropWhile_cons_of_neg (by simp [hhead])]
  rw [trim, hstart]
  exact trimEnd_idem _

/-- A sanitised line is empty or passes the strict check, sanitising it again changes nothing, and it is the whole text
folded and trimmed, then cut and trimmed. -/
theorem sanitized_line_passes_the_check (value : List Char) (maxBytes : ℕ) :
    (sanitizeLine value maxBytes = [] ∨ checkLine (sanitizeLine value maxBytes) maxBytes = .ok ()) ∧
      sanitizeLine (sanitizeLine value maxBytes) maxBytes = sanitizeLine value maxBytes ∧
      sanitizeLine value maxBytes = trimEnd (truncateToBytes (trim (foldForbidden false value)) maxBytes) := by
  simp only [sanitizeLine_eq_lineOf]
  have hnone (c : Char) (hc : c ∈ lineOf value maxBytes) : isForbiddenChar c = false := not_forbidden_of_mem_lineOf hc
  have hbytes := byteLength_lineOf value maxBytes
  refine ⟨?_, ?_, rfl⟩
  · by_cases hempty : lineOf value maxBytes = []
    · exact .inl hempty
    · right
      rw [checkLine, if_neg (by simpa using hempty), if_neg (by omega), if_neg (by simpa using hnone)]
  · rw [lineOf, foldForbidden_of_none hnone, trim_lineOf, truncateToBytes_of_le hbytes]
    exact trimEnd_idem _

end Line

end Aokie.Protocol
