import Aokie.Plugin.SpeechPlan.Markers

/-! What of a sentence's markers reaches the caller: nothing while each of them fits its window. -/

namespace Aokie.Plugin.SpeechPlan

open Aokie.Lib Aokie.Protocol

variable {ρ : Type} {h : Host ρ}

section Calendar

variable {text out rest more : List Char} {c : Char} {skip : ℕ}

lemma marked_concat (hmarked : Marked (text ++ [c])) : Marked text ∨ text.getLast? = some '[' ∧ c = '[' := by
  rcases List.infix_concat_iff.1 hmarked with hsuffix | hpart
  · rcases List.suffix_concat_iff.1 hsuffix with hnil | ⟨front, hfront, hsuffix⟩
    · cases hnil
    · obtain ⟨rfl, hc⟩ := List.append_inj' (show ['['] ++ ['['] = front ++ [c] from hfront) rfl
      obtain ⟨before, rfl⟩ := hsuffix
      exact .inr ⟨by simp, (List.cons.inj hc).1.symm⟩
  · exact .inl hpart

lemma marked_of_append (hplain : '[' ∉ more) (hmarked : Marked (text ++ more)) : Marked text := by
  cases more with
  | nil => rwa [List.append_nil] at hmarked
  | cons c more =>
      have hc : c ∉ ['[', '['] := by
        intro hmem
        obtain rfl : c = '[' := by simpa using hmem
        exact hplain List.mem_cons_self
      rcases infix_append_cons hc hmarked with htext | hmore
      · exact htext
      · exact absurd (List.mem_cons_of_mem c (hmore.subset List.mem_cons_self)) hplain

lemma bracket_byte {text : String} (hmem : '[' ∈ text.toList) : (91 : UInt8) ∈ intoBytes text := by
  obtain ⟨before, after, hsplit⟩ := List.append_of_mem hmem
  have htext : text = String.ofList (before ++ '[' :: after) := by rw [← hsplit, String.ofList_toList]
  have hbracket : (91 : UInt8) ∈ "[".toByteArray.data := by
    rw [← Array.mem_toList_iff]
    exact List.mem_singleton.2 rfl
  rw [htext, intoBytes]
  simp [List.utf8Encode, hbracket]

lemma plain_of_bytes {text : String} (hbytes : (91 : UInt8) ∉ intoBytes text) : '[' ∉ text.toList :=
  fun hmem => hbytes (bracket_byte hmem)

lemma plain_getD (names : List String) (hnames : ∀ name ∈ names, (91 : UInt8) ∉ intoBytes name) (n : ℕ) :
    '[' ∉ (names.getD n "").toList := by
  rw [List.getD_eq_getElem?_getD]
  cases hget : names[n]? with
  | none => simp
  | some name => exact plain_of_bytes (hnames name (List.mem_of_getElem? hget))

lemma plain_int (n : ℤ) : '[' ∉ (toString n).toList := by
  have hnat : ∀ m : ℕ, '[' ∉ (toString m).toList := by
    intro m hmem
    rw [show toString m = m.repr from rfl, Nat.toList_repr] at hmem
    exact absurd (Nat.isDigit_of_mem_toDigits (by decide) le_rfl hmem) (by decide)
  cases n with
  | ofNat m => exact hnat m
  | negSucc m =>
      rw [show toString (Int.negSucc m) = "-" ++ toString (m + 1) from rfl, String.toList_append,
        List.mem_append, not_or]
      exact ⟨by decide, hnat (m + 1)⟩

lemma sayDate_shape (out : List Char) (date : SpokenDate) :
    ∃ front spoken, sayDate h out date = front ++ spoken ∧ front <+: out ∧ spoken ≠ [] ∧ '[' ∉ spoken := by
  refine ⟨_, _, rfl, ?_, ?_, ?_⟩
  · split_ifs
    · exact (List.take_prefix _ _).trans (List.rdropWhile_prefix _ _)
    · exact List.prefix_rfl
  · simp
  · have hweekday := plain_getD longWeekdays (by decide) date.weekday
    have hordinal := plain_getD ordinals (by decide) date.day
    have hmonth := plain_getD longMonths (by decide) date.month
    have hthe : '[' ∉ " the ".toList := by decide
    have hof : '[' ∉ " of ".toList := by decide
    have hyear : '[' ∉ (if date.year = h.currentYear then "" else ", " ++ toString date.year).toList := by
      split_ifs
      · decide
      · rw [String.toList_append, List.mem_append, not_or]
        exact ⟨by decide, plain_int _⟩
    simp only [String.toList_append, List.mem_append, not_or]
    exact ⟨⟨⟨⟨⟨hweekday, hthe⟩, hordinal⟩, hof⟩, hmonth⟩, hyear⟩

/-- What is spoken so far and what is still to come hold no two brackets, also not across the place between them. -/
structure Apart (skip : ℕ) (out rest : List Char) : Prop where
  said : ¬Marked out
  left : ¬Marked rest
  meet : out.getLast? = some '[' → skip = 0 ∧ rest.head? ≠ some '['

lemma calendarFrom_unmarked {before : Option Char} (hapart : Apart skip out rest) :
    ¬Marked (calendarFrom h skip before out rest) := by
  induction rest generalizing skip before out with
  | nil =>
      rw [calendarFrom]
      exact hapart.said
  | cons c rest ih =>
      have hlater : ¬Marked rest := fun hmarked => hapart.left (hmarked.mono (List.suffix_cons c rest).isInfix)
      cases skip with
      | succ skip =>
          rw [calendarFrom]
          exact ih ⟨hapart.said, hlater, fun hlast => absurd (hapart.meet hlast).1 (Nat.succ_ne_zero _)⟩
      | zero =>
          rw [calendarFrom]
          cases dateAt h before (c :: rest) with
          | some date =>
              obtain ⟨front, spoken, hsaid, hfront, hne, hplain⟩ := sayDate_shape (h := h) out date
              apply ih
              rw [hsaid]
              refine ⟨fun hmarked => hapart.said ((marked_of_append hplain hmarked).mono hfront.isInfix), hlater, ?_⟩
              intro hlast
              rw [List.getLast?_append_of_ne_nil _ hne] at hlast
              exact absurd (List.mem_of_getLast? hlast) hplain
          | none =>
              apply ih
              refine ⟨?_, hlater, ?_⟩
              · intro hmarked
                rcases marked_concat hmarked with hout | ⟨hlast, rfl⟩
                · exact hapart.said hout
                · exact (hapart.meet hlast).2 rfl
              · intro hlast
                obtain rfl : c = '[' := by simpa using hlast
                refine ⟨rfl, fun hhead => hapart.left ?_⟩
                obtain ⟨more, rfl⟩ := List.head?_eq_some_iff.1 hhead
                exact ⟨[], more, rfl⟩

lemma marked_normalize (hmarked : Marked (normalizeCalendarDates h text)) : Marked text := by
  by_contra hnot
  refine calendarFrom_unmarked ⟨?_, hnot, ?_⟩ hmarked
  · exact fun hnil => absurd (List.infix_nil.1 hnil) (by simp)
  · simp

end Calendar

section Plans

variable {sentence text inner other before after : List Char} {ps : List (List Char)} {pace : PaceState ρ}
    {mode : Mode ρ}
  {fuel fuel' protectedMaxMs : ℕ}

def Unspoken (spans : List (SpeechSpan ρ)) : Prop := ∀ span ∈ spans, ¬Marked span.text ∧ ¬Marked span.ttsText

lemma marked_iff_word : Marked text ↔ ∃ word ∈ splitWhitespace text, Marked word := by
  constructor
  · intro hmarked
    exact infix_splitWhitespace (by decide) (by simp) hmarked
  · rintro ⟨word, hword, hmarked⟩
    exact hmarked.mono (infix_of_mem_splitWhitespace hword)

lemma segments_words (hcuts : Cuts h sentence ps) (pace : PaceState ρ) :
    (segments h pace sentence).flatMap (fun segment => splitWhitespace segment.1) = ps.flatMap splitWhitespace := by
  obtain ⟨pieces, hpieces, hwords⟩ := exists_cuts pace .base (Nat.lt_succ_self sentence.length)
  rw [hcuts.unique hpieces]
  exact hwords

lemma unspoken_iff (hcuts : Cuts h sentence ps) (pace : PaceState ρ) (protectedMaxMs : ℕ) :
    Unspoken (planSpans h sentence pace protectedMaxMs) ↔ ¬∃ p ∈ ps, Marked p := by
  have hpieces : (∃ p ∈ ps, Marked p) ↔ ∃ word ∈ ps.flatMap splitWhitespace, Marked word := by
    constructor
    · rintro ⟨p, hp, hmarked⟩
      obtain ⟨word, hword, hmarked⟩ := marked_iff_word.1 hmarked
      exact ⟨word, List.mem_flatMap.2 ⟨p, hp, hword⟩, hmarked⟩
    · rintro ⟨word, hword, hmarked⟩
      obtain ⟨p, hp, hword⟩ := List.mem_flatMap.1 hword
      exact ⟨p, hp, marked_iff_word.2 ⟨word, hword, hmarked⟩⟩
  have hwords : (planSpans h sentence pace protectedMaxMs).flatMap (fun span => splitWhitespace span.text) =
      ps.flatMap splitWhitespace := (words_planSpans sentence pace protectedMaxMs).trans (segments_words hcuts pace)
  rw [hpieces]
  constructor
  · rintro hall ⟨word, hword, hmarked⟩
    rw [← hwords] at hword
    obtain ⟨span, hspan, hword⟩ := List.mem_flatMap.1 hword
    exact (hall span hspan).1 (marked_iff_word.2 ⟨word, hword, hmarked⟩)
  · intro hnone span hspan
    constructor
    · intro hmarked
      obtain ⟨word, hword, hmarked⟩ := marked_iff_word.1 hmarked
      exact hnone ⟨word, hwords ▸ List.mem_flatMap.2 ⟨span, hspan, hword⟩, hmarked⟩
    · intro hmarked
      obtain ⟨segment, hsegment, hspan⟩ := List.mem_flatMap.1 hspan
      obtain ⟨items, hitems, htts⟩ := (spoken_segmentSpans hspan).ttsText
      have hjoined : Marked (joinWords items) := by
        rcases htts with htts | htts
        · exact htts ▸ hmarked
        · exact marked_normalize (htts ▸ hmarked)
      obtain ⟨item, hitem, hmarked⟩ := infix_joinWords (by decide) (by simp) hjoined
      rcases hitems item hitem with htoken | hspelled
      · exact hnone ⟨item, segments_words hcuts pace ▸ List.mem_flatMap.2 ⟨segment, hsegment, htoken⟩, hmarked⟩
      · exact (hspelled '[' (hmarked.subset List.mem_cons_self)).2 rfl

lemma segments_fuel (hfuel : text.length < fuel) (hfuel' : text.length < fuel') :
    segmentsFrom h pace fuel mode text = segmentsFrom h pace fuel' mode text := by
  induction fuel generalizing fuel' mode text with
  | zero => omega
  | succ fuel ih =>
      cases fuel' with
      | zero => omega
      | succ fuel' =>
          rw [segmentsFrom, segmentsFrom]
          cases hnext : nextBracketToken h text with
          | none => rfl
          | some token =>
              have hlt := length_after_lt hnext
              have hrest : segmentsFrom h pace fuel (nextMode h pace mode token.inner) token.after =
                  segmentsFrom h pace fuel' (nextMode h pace mode token.inner) token.after := ih (by omega) (by omega)
              dsimp only
              rw [hrest]

lemma segments_marker (hlast : before.getLast? ≠ some '[') (hclean : Clean inner) (hclean' : Clean other)
    (hshort : byteLength inner ≤ 40) (hshort' : byteLength other ≤ 40) (hpace : recognizeMarker h inner = none)
    (hpace' : recognizeMarker h other = none) (hfuel : (before ++ (marker inner ++ after)).length < fuel)
    (hfuel' : (before ++ (marker other ++ after)).length < fuel') :
    segmentsFrom h pace fuel mode (before ++ (marker inner ++ after)) =
      segmentsFrom h pace fuel' mode (before ++ (marker other ++ after)) := by
  induction fuel generalizing fuel' mode before with
  | zero => omega
  | succ fuel ih =>
      cases fuel' with
      | zero => omega
      | succ fuel' =>
          have hnext := nextBracketToken_append (h := h) hlast ('[' :: (inner ++ [']', ']'] ++ after))
          have hnext' := nextBracketToken_append (h := h) hlast ('[' :: (other ++ [']', ']'] ++ after))
          have hwhole : ∀ inner : List Char, marker inner ++ after = '[' :: ('[' :: (inner ++ [']', ']'] ++ after)) :=
              fun _ => rfl
          rw [← hwhole] at hnext hnext'
          rw [segmentsFrom, segmentsFrom, hnext, hnext']
          cases hbefore : nextBracketToken h before with
          | some token =>
              have hlt := length_after_lt hbefore
              simp only [List.length_append] at hfuel hfuel'
              simp only [List.length_append] at ih
              dsimp only
              congr 1
              exact ih (last_after hbefore hlast) (by omega) (by omega)
          | none =>
              simp only [next_short hclean hshort, next_short hclean' hshort', Option.map_some, BracketToken.beyond,
                List.append_nil,
                nextMode, hpace, hpace']
              have hinner : 0 < (marker inner).length := Nat.succ_pos _
              have hother : 0 < (marker other).length := Nat.succ_pos _
              simp only [List.length_append] at hfuel hfuel'
              have hrest : segmentsFrom h pace fuel mode after = segmentsFrom h pace fuel' mode after :=
                  segments_fuel (by omega) (by omega)
              rw [hrest]

lemma Closed.last (hclosed : Closed (before ++ (marker inner ++ after))) : before.getLast? ≠ some '[' := by
  intro hlast
  obtain ⟨front, rfl⟩ := List.getLast?_eq_some_iff.1 hlast
  obtain ⟨first, rest, hclose, hbracket, -⟩ := hclosed front ('[' :: (inner ++ [']', ']'] ++ after)) (by simp [marker])
  cases first with
  | nil => cases hclose
  | cons c first =>
      obtain ⟨rfl, -⟩ := List.cons.inj hclose
      simp at hbracket

lemma Clean.of_plain (hbracket : '[' ∉ other) (hclose : ']' ∉ other) (hline : '\n' ∉ other) : Clean other where
  bracket := hbracket
  line := hline
  close := by
    rintro ⟨front, back, heq⟩
    have hcount := congrArg (List.count ']') heq
    simp only [List.count_append, List.count_eq_zero_of_not_mem hclose] at hcount
    simp at hcount
    omega

lemma Closed.replace (hclosed : Closed (before ++ (marker inner ++ after))) (hbracket : '[' ∉ other)
    (hline : '\n' ∉ other) : Closed (before ++ (marker other ++ after)) := by
  have hlast := hclosed.last
  have hplain : '[' ∉ other ++ [']', ']'] := by
    simp only [List.mem_append, List.mem_cons, not_or]
    exact ⟨hbracket, by decide, by decide, by simp⟩
  have hwhole : ∀ inner : List Char, marker inner ++ after = '[' :: '[' :: ((inner ++ [']', ']']) ++ after) :=
      fun _ => rfl
  intro front rest heq
  rcases List.append_eq_append_iff.1 heq with ⟨middle, rfl, hrest⟩ | ⟨middle, rfl, hrest⟩
  · rw [hwhole] at hrest
    rcases middle with - | ⟨_, - | ⟨_, middle⟩⟩
    · obtain ⟨-, hrest⟩ := List.cons.inj hrest
      obtain ⟨-, rfl⟩ := List.cons.inj hrest
      exact ⟨other, after, by simp, hbracket, hline⟩
    · obtain ⟨-, hrest⟩ := List.cons.inj hrest
      obtain ⟨-, hrest⟩ := List.cons.inj hrest
      have hmem : '[' ∈ other ++ [']', ']'] := by
        cases other with
        | nil => cases hrest
        | cons c other =>
            obtain ⟨rfl, -⟩ := List.cons.inj hrest
            simp
      exact absurd hmem hplain
    · obtain ⟨-, hrest⟩ := List.cons.inj hrest
      obtain ⟨-, hrest⟩ := List.cons.inj hrest
      obtain ⟨later, -, rfl⟩ := split_plain hplain hrest
      exact hclosed (before ++ (marker inner ++ later)) rest (by simp)
  · rcases middle with - | ⟨c, - | ⟨d, middle⟩⟩
    · rw [List.nil_append, hwhole] at hrest
      obtain ⟨-, hrest⟩ := List.cons.inj hrest
      obtain ⟨-, rfl⟩ := List.cons.inj hrest
      exact ⟨other, after, by simp, hbracket, hline⟩
    · obtain ⟨rfl, -⟩ := List.cons.inj hrest
      exact absurd (by simp) hlast
    · obtain ⟨rfl, htail⟩ := List.cons.inj hrest
      obtain ⟨rfl, rfl⟩ := List.cons.inj htail
      obtain ⟨first, later, hclose, hfirst, hlineFirst⟩ := hclosed front (middle ++ (marker inner ++ after)) (by simp)
      have hplainFirst : '[' ∉ first ++ [']', ']'] := by
        simp only [List.mem_append, List.mem_cons, not_or]
        exact ⟨hfirst, by decide, by decide, by simp⟩
      have hsplit : (first ++ [']', ']']) ++ later = middle ++ '[' :: ('[' :: ((inner ++ [']', ']']) ++ after)) := by
        rw [hwhole] at hclose
        simpa using hclose.symm
      obtain ⟨between, rfl, -⟩ := split_plain hplainFirst hsplit
      exact ⟨first, between ++ (marker other ++ after), by simp, hfirst, hlineFirst⟩

lemma count_words (ps : List (List Char)) : (ps.flatMap splitWhitespace).flatten.count '[' = ps.flatten.count '[' := by
  have hone : ∀ p : List Char, (splitWhitespace p).flatten.count '[' = p.count '[' := by
    intro p
    have hflatten : (splitWhitespace p).flatten = (p.splitOnP isWhitespace).flatten := by
      rw [splitWhitespace]
      induction p.splitOnP isWhitespace with
      | nil => rfl
      | cons word words ih => cases word <;> simpa using ih
    rw [hflatten, flatten_splitOnP, List.count_filter (by decide)]
  induction ps with
  | nil => rfl
  | cons p ps ih => rw [List.flatMap_cons, List.flatten_append, List.count_append, hone, ih, List.flatten_cons,
      List.count_append]

lemma glue_flatten {ps qs : List (List Char)} (hps : ps ≠ []) (hqs : qs ≠ []) :
    (glue ps qs).flatten = ps.flatten ++ qs.flatten := by
  obtain ⟨q, rest, rfl⟩ := List.exists_cons_of_ne_nil hqs
  rw [← List.dropLast_append_getLast hps, glue_concat]
  simp

def heard (spans : List (SpeechSpan ρ)) : List (List Char × List Char) :=
  spans.map fun span => (span.text, span.ttsText)

lemma heard_ne {more word : List Char} (hclean : Clean (word ++ ']' :: more)) (hclean' : Clean other)
    (hlast : before.getLast? ≠ some '[') (hlong : ¬byteLength (word ++ ']' :: more) ≤ 40) (hclose : ']' ∉ word)
    (hword : byteLength word ≤ 40) (hcontrol : isControlWord h word = true) (hshort : byteLength other ≤ 40) :
    heard (planSpans h (before ++ (marker (word ++ ']' :: more) ++ after)) pace protectedMaxMs) ≠
      heard (planSpans h (before ++ (marker other ++ after)) pace protectedMaxMs) := by
  intro hsame
  obtain ⟨fronts, hfronts⟩ := Cuts.exists h before
  obtain ⟨rests, hrests⟩ := Cuts.exists h after
  have hcuts : Cuts h (before ++ (marker (word ++ ']' :: more) ++ after)) _ :=
    hfronts.append hlast (Cuts.control hclean hlong hclose hword hcontrol hrests)
  have hcuts' : Cuts h (before ++ (marker other ++ after)) _ := hfronts.append hlast (Cuts.short hclean' hshort hrests)
  have hwords : ∀ sentence ps, Cuts h sentence ps →
      ((heard (planSpans h sentence pace protectedMaxMs)).flatMap fun said => splitWhitespace said.1) =
        ps.flatMap splitWhitespace := by
    intro sentence ps hps
    rw [heard, List.flatMap_map]
    exact (words_planSpans sentence pace protectedMaxMs).trans (segments_words hps pace)
  have hcount := congrArg (fun said => ((said.flatMap fun said => splitWhitespace said.1).flatten).count '[') hsame
  simp only [hwords _ _ hcuts, hwords _ _ hcuts', count_words] at hcount
  obtain ⟨first, rest, rfl⟩ := hrests.exists_cons
  obtain ⟨p, others, rfl⟩ := hfronts.exists_cons
  have hplain : '[' ∉ more ++ [']', ']'] := by
    have hall := plain_inner hclean
    simp only [List.mem_append, List.mem_cons, not_or] at hall ⊢
    exact ⟨hall.1.2.2, hall.2⟩
  rw [glue_flatten (by simp) (by simp), glue_flatten (by simp) (by simp), List.flatten_cons,
    show glue [more ++ [']', ']']] (first :: rest) = ((more ++ [']', ']']) ++ first) :: rest from rfl] at hcount
  simp only [List.flatten_cons, List.count_append, List.count_nil] at hcount hplain
  have hzero : (more ++ [']', ']']).count '[' = 0 := List.count_eq_zero_of_not_mem (by simpa using hplain)
  simp only [List.count_append] at hzero
  simp at hcount
  omega

end Plans

/-- Of a sentence whose markers are closed, a caller sees and hears no marker exactly where each is stripped; and a
marker without a pace can be exchanged for another unnoticed exactly where both fit the window of forty bytes. -/
theorem markup_unspoken_iff {sentence : List Char} (hclosed : Closed sentence) (pace : PaceState ρ)
    (protectedMaxMs : ℕ) :
    (Unspoken (planSpans h sentence pace protectedMaxMs) ↔ AllStripped h sentence) ∧
    ∀ before inner other after, sentence = before ++ (marker inner ++ after) → Clean inner →
      recognizeMarker h inner = none →
      '[' ∉ other → ']' ∉ other → '\n' ∉ other → recognizeMarker h other = none →
        (Unspoken (planSpans h sentence pace protectedMaxMs) ∧
            Unspoken (planSpans h (before ++ (marker other ++ after)) pace protectedMaxMs) ∧
            heard (planSpans h sentence pace protectedMaxMs) =
              heard (planSpans h (before ++ (marker other ++ after)) pace protectedMaxMs) ↔
          AllStripped h sentence ∧ byteLength inner ≤ 40 ∧ byteLength other ≤ 40) := by
  have hunspoken : ∀ {sentence : List Char}, Closed sentence →
      (Unspoken (planSpans h sentence pace protectedMaxMs) ↔ AllStripped h sentence) := by
    intro sentence hclosed
    obtain ⟨ps, hps⟩ := Cuts.exists h sentence
    rw [unspoken_iff hps, marked_pieces_iff hps hclosed, not_not]
  refine ⟨hunspoken hclosed, ?_⟩
  rintro before inner other after rfl hclean hpace hbracket hclose hline hpace'
  have hclean' := Clean.of_plain hbracket hclose hline
  have hclosed' := hclosed.replace hbracket hline
  have hlast := hclosed.last
  constructor
  · rintro ⟨hfirst, hsecond, hsame⟩
    have hall := (hunspoken hclosed).1 hfirst
    have hshort : byteLength other ≤ 40 := by
      rcases (hunspoken hclosed').1 hsecond before other after rfl hclean' with hshort | ⟨word, more, rfl, -⟩
      · exact hshort
      · simp at hclose
    refine ⟨hall, ?_, hshort⟩
    by_contra hlong
    obtain ⟨word, more, rfl, hcloseWord, hword, hcontrol⟩ := (hall before inner after rfl hclean).resolve_left hlong
    exact heard_ne hclean hclean' hlast hlong hcloseWord hword hcontrol hshort hsame
  · rintro ⟨hall, hshort, hshort'⟩
    have hplans : planSpans h (before ++ (marker inner ++ after)) pace protectedMaxMs =
        planSpans h (before ++ (marker other ++ after)) pace protectedMaxMs := by
      rw [planSpans, planSpans, segments, segments, segments_marker hlast hclean hclean' hshort hshort' hpace hpace'
        (Nat.lt_succ_self _) (Nat.lt_succ_self _)]
    rw [← hplans]
    exact ⟨(hunspoken hclosed).2 hall, (hunspoken hclosed).2 hall, rfl⟩

lemma closed_of_plain {before inner after : List Char} (hbefore : '[' ∉ before) (hbracket : '[' ∉ inner)
    (hline : '\n' ∉ inner)
    (hafter : '[' ∉ after) : Closed (before ++ (marker inner ++ after)) := by
  intro front rest heq
  obtain ⟨middle, -, hmiddle⟩ := split_plain hbefore heq
  have hplain : '[' ∉ inner ++ [']', ']'] ++ after := by
    simp only [List.mem_append, List.mem_cons, not_or]
    exact ⟨⟨hbracket, by decide, by decide, by simp⟩, hafter⟩
  have hbody : marker inner ++ after = '[' :: '[' :: (inner ++ [']', ']'] ++ after) := rfl
  rw [hbody] at hmiddle
  rcases middle with - | ⟨_, - | ⟨_, middle⟩⟩
  · obtain ⟨-, hmiddle⟩ := List.cons.inj hmiddle
    obtain ⟨-, rfl⟩ := List.cons.inj hmiddle
    exact ⟨inner, after, by simp, hbracket, hline⟩
  · obtain ⟨-, hmiddle⟩ := List.cons.inj hmiddle
    obtain ⟨-, hmiddle⟩ := List.cons.inj hmiddle
    exact absurd (hmiddle ▸ List.mem_cons_self) hplain
  · obtain ⟨-, hmiddle⟩ := List.cons.inj hmiddle
    obtain ⟨-, hmiddle⟩ := List.cons.inj hmiddle
    exact absurd (hmiddle ▸ List.mem_append_right middle List.mem_cons_self) hplain

def sampleHost : Host ℕ where
  isAlphanumeric := Char.isAlphanum
  isAlphanumeric_ascii _ _ := rfl
  parseRate _ := none
  parseDate _ := none
  currentYear := 2026

theorem wait_marker_unspoken : Unspoken (planSpans sampleHost "Sure. [[WAIT]] thanks".toList ⟨100, 75⟩ 2500) := by
  have hclosed : Closed ("Sure. ".toList ++ (marker "WAIT".toList ++ " thanks".toList)) :=
    closed_of_plain (by decide) (by decide) (by decide) (by decide)
  apply (markup_unspoken_iff hclosed ⟨100, 75⟩ 2500).1.2
  rintro before inner after heq -
  -- the whole sentence is shorter than the window
  have hsize := congrArg byteLength heq
  simp only [byteLength_append] at hsize
  have hinner : byteLength inner ≤ byteLength (marker inner) := by
    simp only [marker, byteLength_cons, byteLength_append]
    omega
  have hall : byteLength "Sure. ".toList + (byteLength (marker "WAIT".toList) + byteLength " thanks".toList) ≤
      40 := by decide
  exact .inl (by omega)

end Aokie.Plugin.SpeechPlan
