import Mathlib.Data.List.Chain
import Aokie.Plugin.SpeechPlan.Digits

/-! Control markup and what of it can be spoken: a marker is stripped while it fits the window of forty bytes. -/

namespace Aokie.Plugin.SpeechPlan

open Aokie.Lib Aokie.Protocol

variable {ρ : Type} {h : Host ρ}

def marker (inner : List Char) : List Char := '[' :: '[' :: (inner ++ [']', ']'])

/-- The text of a marker ends at the first close, on the line on which it began and without a bracket that opens. -/
structure Clean (inner : List Char) : Prop where
  bracket : '[' ∉ inner
  line : '\n' ∉ inner
  close : ¬[']', ']'] <:+: inner ++ [']']

/-- Each `[[` of a sentence is closed by a `]]` on the same line with no `[` between them. -/
def Closed (sentence : List Char) : Prop :=
  ∀ before rest, sentence = before ++ '[' :: '[' :: rest → ∃ inner after, rest = inner ++ ']' :: ']' :: after ∧
    '[' ∉ inner ∧ '\n' ∉ inner

/-- A marker that fits the window, or whose second bracket opens a control word of its own. -/
def Stripped (h : Host ρ) (inner : List Char) : Prop :=
  byteLength inner ≤ 40 ∨
    ∃ word more, inner = word ++ ']' :: more ∧ ']' ∉ word ∧ byteLength word ≤ 40 ∧ isControlWord h word = true

def Marked (text : List Char) : Prop := ['[', '['] <:+: text

section Close

variable {inner word after more text : List Char} {at_ : ℕ} {double : Bool}

lemma Clean.tail {c : Char} (hclean : Clean (c :: inner)) : Clean inner where
  bracket := fun hmem => hclean.bracket (List.mem_cons_of_mem _ hmem)
  line := fun hmem => hclean.line (List.mem_cons_of_mem _ hmem)
  close := fun hpart => hclean.close (hpart.trans (List.suffix_cons c _).isInfix)

lemma exists_clean (hbracket : '[' ∉ inner) (hline : '\n' ∉ inner) (after : List Char) :
    ∃ first more, inner ++ ']' :: ']' :: after = first ++ ']' :: ']' :: more ∧ Clean first := by
  induction hn : inner.length using Nat.strong_induction_on generalizing inner after with
  | _ n ih =>
      by_cases hclose : [']', ']'] <:+: inner ++ [']']
      · obtain ⟨front, back, heq⟩ := hclose
        have hlength := congrArg List.length heq
        simp only [List.length_append, List.length_cons, List.length_nil] at hlength
        have hfront : front <+: inner := by
          have hprefix : front <+: inner ++ [']'] := ⟨[']', ']'] ++ back, by rw [← heq, List.append_assoc]⟩
          exact List.prefix_of_prefix_length_le hprefix (List.prefix_append _ _) (by omega)
        obtain ⟨first, more, hfirst, hclean⟩ :=
            ih front.length (by omega) (show '[' ∉ front from fun hmem => hbracket (hfront.subset hmem))
          (fun hmem => hline (hfront.subset hmem)) (back ++ ']' :: after) rfl
        refine ⟨first, more, ?_, hclean⟩
        rw [← hfirst]
        have := congrArg (· ++ (']' :: after)) heq
        simpa using this.symm
      · exact ⟨inner, after, rfl, hbracket, hline, hclose⟩

lemma head_ne_of_clean {c : Char} (hclean : Clean (c :: inner)) (after : List Char) :
    ¬(c = ']' ∧ (inner ++ ']' :: ']' :: after).head? = some ']') := by
  rintro ⟨rfl, hhead⟩
  cases inner with
  | nil => exact hclean.close ⟨[], [], rfl⟩
  | cons d inner =>
      obtain rfl : d = ']' := by simpa using hhead
      exact hclean.close ⟨[], inner ++ [']'], by simp⟩

lemma findClose_clean (hclean : Clean inner) (after : List Char) :
    findClose true at_ (inner ++ ']' :: ']' :: after) =
      if at_ + byteLength inner ≤ 40 then some (inner, after) else none := by
  induction inner generalizing at_ with
  | nil =>
      simp only [List.nil_append, findClose, byteLength, List.map_nil, List.sum_nil, Nat.add_zero]
      by_cases hat : at_ ≤ 40
      · simp [hat, not_lt.2 hat]
      · simp [hat, not_le.1 hat]
  | cons c inner ih =>
      have hbracket : c ≠ '[' := fun heq => hclean.bracket (heq ▸ List.mem_cons_self)
      have hline : c ≠ '\n' := fun heq => hclean.line (heq ▸ List.mem_cons_self)
      have hhead := head_ne_of_clean hclean after
      have hsize := byteLength_cons c inner
      simp only [List.cons_append, findClose, hbracket, hline, or_false, true_implies, if_neg hhead,
        ih hclean.tail, hsize]
      by_cases hat : at_ + (c.utf8Size + byteLength inner) ≤ 40
      · rw [if_neg (by omega), if_pos (by omega), if_pos hat]
        rfl
      · rw [if_neg (show ¬at_ + c.utf8Size + byteLength inner ≤ 40 by omega), if_neg hat]
        split_ifs <;> rfl

lemma findClose_word (hbracket : '[' ∉ word) (hline : '\n' ∉ word) (hclose : ']' ∉ word) (after : List Char) :
    findClose false at_ (word ++ ']' :: after) = if at_ + byteLength word ≤ 40 then some (word, after) else none := by
  induction word generalizing at_ with
  | nil =>
      simp only [List.nil_append, findClose, byteLength, List.map_nil, List.sum_nil, Nat.add_zero]
      by_cases hat : at_ ≤ 40
      · simp [hat, not_lt.2 hat]
      · simp [hat, not_le.1 hat]
  | cons c word ih =>
      simp only [List.mem_cons, not_or] at hbracket hline hclose
      have hsize := byteLength_cons c word
      have hnot : ¬(c = ']' ∧ (false = true → (word ++ ']' :: after).head? = some ']')) :=
          fun hboth => hclose.1 hboth.1.symm
      simp only [List.cons_append, findClose, Ne.symm hbracket.1, Ne.symm hline.1, or_false, if_neg hnot,
        ih hbracket.2 hline.2 hclose.2, hsize]
      by_cases hat : at_ + (c.utf8Size + byteLength word) ≤ 40
      · rw [if_neg (by omega), if_pos (by omega), if_pos hat]
        rfl
      · rw [if_neg (show ¬at_ + c.utf8Size + byteLength word ≤ 40 by omega), if_neg hat]
        split_ifs <;> rfl

lemma findClose_append (text more : List Char) :
    findClose double at_ (text ++ '[' :: more) = (findClose double at_ text).map fun found =>
      (found.1, found.2 ++ '[' :: more) := by
  induction text generalizing at_ with
  | nil => simp [findClose]
  | cons c text ih =>
      have hhead : (text ++ '[' :: more).head? = some ']' ↔ text.head? = some ']' := by
        cases text with
        | nil => simp
        | cons d text => simp
      simp only [List.cons_append, findClose, hhead, ih]
      split_ifs with hstop hclose hdouble
      · rfl
      · cases text with
        | nil => simp [hdouble] at hclose
        | cons d text => rfl
      · rfl
      · simp [Function.comp_def]

end Close

section Next

def BracketToken.beyond (text : List Char) (token : BracketToken) : BracketToken :=
  { token with before := text ++ token.before }

def BracketToken.amid (token : BracketToken) (more : List Char) : BracketToken :=
  { token with after := token.after ++ more }

variable {before inner after more text word : List Char} {token : BracketToken} {c : Char}

lemma nextBracketToken_other (hc : c ≠ '[') (rest : List Char) :
    nextBracketToken h (c :: rest) = (nextBracketToken h rest).map (.behind c) := by
  rw [nextBracketToken, if_neg hc]

lemma getLast?_tail (hlast : (c :: before).getLast? ≠ some '[') : before.getLast? ≠ some '[' := by
  cases before with
  | nil => simp
  | cons d before => rwa [List.getLast?_cons_cons] at hlast

lemma nextBracketToken_append (hlast : before.getLast? ≠ some '[') (more : List Char) :
    nextBracketToken h (before ++ '[' :: more) =
      match nextBracketToken h before with
      | some token => some (token.amid ('[' :: more))
      | none => (nextBracketToken h ('[' :: more)).map (.beyond before) := by
  induction before with
  | nil =>
      change nextBracketToken h ('[' :: more) = (nextBracketToken h ('[' :: more)).map (.beyond [])
      cases nextBracketToken h ('[' :: more) <;> rfl
  | cons c before ih =>
      have hrest : (nextBracketToken h (before ++ '[' :: more)).map (BracketToken.behind c) =
          match (nextBracketToken h before).map (BracketToken.behind c) with
          | some token => some (token.amid ('[' :: more))
          | none => (nextBracketToken h ('[' :: more)).map (.beyond (c :: before)) := by
        rw [ih (getLast?_tail hlast)]
        cases nextBracketToken h before with
        | none =>
            simp only [Option.map_map, Option.map_none]
            rfl
        | some token => rfl
      rw [List.cons_append]
      by_cases hopen : c = '['
      · obtain rfl := hopen
        have hne : before ≠ [] := by
          rintro rfl
          exact hlast rfl
        obtain ⟨d, front, hfront⟩ := List.exists_cons_of_ne_nil hne
        have hhead : (before ++ '[' :: more).head? = before.head? := by rw [hfront]; rfl
        have hwindow :
            (if (before.head? == some '[') = true then (before ++ '[' :: more).tail else before ++ '[' :: more) =
            (if (before.head? == some '[') = true then before.tail else before) ++ '[' :: more := by
          rw [hfront]
          split_ifs <;> rfl
        rw [nextBracketToken, nextBracketToken, if_pos rfl, if_pos rfl]
        simp only [hhead, hwindow, findClose_append]
        cases findClose (before.head? == some '[') 0
            (if (before.head? == some '[') = true then before.tail else before) with
        | none => exact hrest
        | some found =>
            obtain ⟨inner, after⟩ := found
            simp only [Option.map_some]
            split_ifs
            · rfl
            · exact hrest
      · rw [nextBracketToken_other hopen, nextBracketToken_other hopen]
        exact hrest

lemma next_short (hclean : Clean inner) (hshort : byteLength inner ≤ 40) (after : List Char) :
    nextBracketToken h (marker inner ++ after) = some ⟨[], inner, after⟩ := by
  have hfound : findClose true 0 (inner ++ ']' :: ']' :: after) = some (inner, after) := by
    rw [findClose_clean hclean, if_pos (by omega)]
  have hsplit : marker inner ++ after = '[' :: '[' :: (inner ++ ']' :: ']' :: after) := by simp [marker]
  rw [hsplit, nextBracketToken, if_pos rfl]
  simp [hfound]

lemma next_long (hclean : Clean inner) (hlong : ¬byteLength inner ≤ 40) (after : List Char) :
    nextBracketToken h (marker inner ++ after) = (nextBracketToken h ('[' :: (inner ++ ']' :: ']' :: after))).map
      (.behind '[') := by
  have hfound : findClose true 0 (inner ++ ']' :: ']' :: after) = none := by
    rw [findClose_clean hclean, if_neg (by omega)]
  have hsplit : marker inner ++ after = '[' :: '[' :: (inner ++ ']' :: ']' :: after) := by simp [marker]
  rw [hsplit, nextBracketToken, if_pos rfl]
  simp [hfound]

lemma next_single (hbracket : '[' ∉ word) (hline : '\n' ∉ word) (hclose : ']' ∉ word) (rest : List Char) :
    nextBracketToken h ('[' :: (word ++ ']' :: rest)) =
      if byteLength word ≤ 40 ∧ isControlWord h word = true then some ⟨[], word, rest⟩
      else (nextBracketToken h (word ++ ']' :: rest)).map (.behind '[') := by
  have hhead : ((word ++ ']' :: rest).head? == some '[') = false := by
    cases word with
    | nil => rfl
    | cons c word =>
        have hc : c ≠ '[' := fun heq => hbracket (heq ▸ List.mem_cons_self)
        simpa using hc
  have hfound : findClose false 0 (word ++ ']' :: rest) =
      if 0 + byteLength word ≤ 40 then some (word, rest) else none :=
    findClose_word hbracket hline hclose rest
  rw [Nat.zero_add] at hfound
  rw [nextBracketToken, if_pos rfl]
  simp only [hhead, hfound, Bool.false_eq_true, if_false, Bool.false_or]
  by_cases hlength : byteLength word ≤ 40
  · by_cases hcontrol : isControlWord h word = true
    · rw [if_pos hlength, if_pos ⟨hlength, hcontrol⟩]
      simp [hcontrol]
    · rw [if_pos hlength, if_neg (fun hboth => hcontrol hboth.2)]
      simp [hcontrol]
  · rw [if_neg hlength, if_neg (fun hboth => hlength hboth.1)]

end Next

section Pieces

variable {text before more inner word after : List Char} {ps qs : List (List Char)} {c : Char}

/-- Pieces side by side: the last of the first and the first of the others are one. -/
def glue : List (List Char) → List (List Char) → List (List Char)
  | [], qs => qs
  | [p], q :: qs => (p ++ q) :: qs
  | p :: ps, qs => p :: glue ps qs

lemma glue_concat (front : List (List Char)) (p q : List Char) (qs : List (List Char)) :
    glue (front ++ [p]) (q :: qs) = front ++ (p ++ q) :: qs := by
  induction front with
  | nil => rfl
  | cons first front ih =>
      cases front with
      | nil => rfl
      | cons second front => exact congrArg (first :: ·) ih

lemma Cuts.exists_cons (hcuts : Cuts h text ps) : ∃ p rest, ps = p :: rest := by
  cases hcuts with
  | last => exact ⟨_, _, rfl⟩
  | token => exact ⟨_, _, rfl⟩

lemma Cuts.exists_concat (hcuts : Cuts h text ps) : ∃ front p, ps = front ++ [p] := by
  obtain ⟨p, rest, rfl⟩ := hcuts.exists_cons
  exact ⟨_, _, (List.dropLast_append_getLast (List.cons_ne_nil p rest)).symm⟩

lemma Cuts.unique (hcuts : Cuts h text ps) (hcuts' : Cuts h text qs) : ps = qs := by
  induction hcuts generalizing qs with
  | last hnone =>
      cases hcuts' with
      | last => rfl
      | token hnext => cases hnone.symm.trans hnext
  | token hnext hrest ih =>
      cases hcuts' with
      | last hnone => cases hnone.symm.trans hnext
      | token hnext' hrest' =>
          obtain rfl := Option.some.inj (hnext.symm.trans hnext')
          rw [ih hrest']

variable (h) in
lemma Cuts.exists (text : List Char) : ∃ ps, Cuts h text ps := by
  induction hn : text.length using Nat.strong_induction_on generalizing text with
  | _ n ih =>
      cases hnext : nextBracketToken h text with
      | none => exact ⟨_, .last hnext⟩
      | some token =>
          obtain ⟨ps, hps⟩ := ih token.after.length (hn ▸ length_after_lt hnext) token.after rfl
          exact ⟨_, .token hnext hps⟩

lemma Cuts.within (hcuts : Cuts h text ps) : ∀ p ∈ ps, p <:+: text := by
  induction hcuts with
  | last => simp
  | @token text token pieces hnext hrest ih =>
      obtain ⟨middle, rfl⟩ := nextBracketToken_split hnext
      intro p hp
      rcases List.mem_cons.1 hp with rfl | hp
      · exact (List.prefix_append _ _).isInfix
      · exact (ih p hp).trans ⟨token.before ++ '[' :: middle, [], by simp⟩

lemma last_after {token : BracketToken} (hnext : nextBracketToken h text = some token)
    (hlast : text.getLast? ≠ some '[') :
    token.after.getLast? ≠ some '[' := by
  obtain ⟨middle, rfl⟩ := nextBracketToken_split hnext
  intro hafter
  apply hlast
  obtain ⟨front, hfront⟩ := List.getLast?_eq_some_iff.1 hafter
  have hsplit : token.before ++ '[' :: (middle ++ token.after) = token.before ++ '[' ::
      (middle ++ front) ++ ['['] := by simp [hfront]
  rw [hsplit, List.getLast?_concat]

lemma Cuts.append (hbefore : Cuts h before ps) (hlast : before.getLast? ≠ some '[') (hmore : Cuts h ('[' :: more) qs) :
    Cuts h (before ++ '[' :: more) (glue ps qs) := by
  induction hbefore with
  | last hnone =>
      have hnext := nextBracketToken_append (h := h) hlast more
      rw [hnone] at hnext
      cases hmore with
      | last hnone' =>
          rw [hnone'] at hnext
          exact .last hnext
      | token hnext' hrest =>
          rw [hnext'] at hnext
          exact .token hnext hrest
  | @token before token pieces hnext hrest ih =>
      have hnext' := nextBracketToken_append (h := h) hlast more
      rw [hnext] at hnext'
      obtain ⟨p, rest, rfl⟩ := hrest.exists_cons
      have hfound : nextBracketToken h (before ++ '[' :: more) = some (token.amid ('[' :: more)) := hnext'
      exact @Cuts.token _ h _ (token.amid ('[' :: more)) _ hfound (ih (last_after hnext hlast))

lemma Cuts.cons (hnext : nextBracketToken h (c :: text) = (nextBracketToken h text).map (.behind c))
    (htext : Cuts h text qs) :
    Cuts h (c :: text) (glue [[c]] qs) := by
  cases htext with
  | last hnone =>
      rw [hnone] at hnext
      exact .last hnext
  | token hnext' hrest =>
      rw [hnext'] at hnext
      exact .token hnext hrest

lemma Cuts.plain (htext : '[' ∉ text) (hmore : Cuts h more qs) : Cuts h (text ++ more) (glue [text] qs) := by
  obtain ⟨q, rest, rfl⟩ := hmore.exists_cons
  induction text with
  | nil => exact hmore
  | cons c text ih =>
      have hc : c ≠ '[' := fun heq => htext (heq ▸ List.mem_cons_self)
      exact .cons (nextBracketToken_other hc _) (ih fun hmem => htext (List.mem_cons_of_mem _ hmem))

lemma Cuts.short (hclean : Clean inner) (hshort : byteLength inner ≤ 40) (hafter : Cuts h after qs) :
    Cuts h (marker inner ++ after) ([] :: qs) := .token (next_short hclean hshort after) hafter

lemma Cuts.control (hclean : Clean (word ++ ']' :: more)) (hlong : ¬byteLength (word ++ ']' :: more) ≤ 40)
    (hclose : ']' ∉ word)
    (hword : byteLength word ≤ 40) (hcontrol : isControlWord h word = true) (hafter : Cuts h after qs) :
    Cuts h (marker (word ++ ']' :: more) ++ after) (['['] :: glue [more ++ [']', ']']] qs) := by
  have hbracket : '[' ∉ word := fun hmem => hclean.bracket (List.mem_append_left _ hmem)
  have hline : '\n' ∉ word := fun hmem => hclean.line (List.mem_append_left _ hmem)
  have hmore : '[' ∉ more ++ [']', ']'] := by
    have hinner := hclean.bracket
    simp only [List.mem_append, List.mem_cons, not_or] at hinner ⊢
    exact ⟨hinner.2.2, by decide, by decide, by simp⟩
  have hsplit : word ++ ']' :: more ++ ']' :: ']' :: after = word ++ ']' :: ((more ++ [']', ']']) ++ after) := by simp
  have hnext : nextBracketToken h (marker (word ++ ']' :: more) ++ after) =
      some ⟨['['], word, (more ++ [']', ']']) ++ after⟩ := by
    rw [next_long hclean hlong, hsplit, next_single hbracket hline hclose, if_pos ⟨hword, hcontrol⟩]
    rfl
  exact .token hnext (.plain hmore hafter)

lemma Cuts.kept (hclean : Clean inner) (hkept : ¬Stripped h inner) (hafter : Cuts h after qs) :
    Cuts h (marker inner ++ after) (glue [marker inner] qs) := by
  have hlong : ¬byteLength inner ≤ 40 := fun hshort => hkept (.inl hshort)
  have hplain : '[' ∉ inner ++ [']', ']'] := by
    have hinner := hclean.bracket
    simp only [List.mem_append, List.mem_cons, not_or] at hinner ⊢
    exact ⟨hinner, by decide, by decide, by simp⟩
  have hsplit : inner ++ ']' :: ']' :: after = (inner ++ [']', ']']) ++ after := by simp
  have hsingle : nextBracketToken h ('[' :: (inner ++ ']' :: ']' :: after)) =
      (nextBracketToken h (inner ++ ']' :: ']' :: after)).map (.behind '[') := by
    by_cases hmem : ']' ∈ inner
    · obtain ⟨word, more, rfl, hclose⟩ := List.eq_append_cons_of_mem hmem
      have hbracket : '[' ∉ word := fun hmem => hclean.bracket (List.mem_append_left _ hmem)
      have hline : '\n' ∉ word := fun hmem => hclean.line (List.mem_append_left _ hmem)
      rw [List.append_assoc, List.cons_append, next_single hbracket hline hclose, if_neg]
      rintro ⟨hword, hcontrol⟩
      exact hkept (.inr ⟨word, more, rfl, hclose, hword, hcontrol⟩)
    · rw [next_single hclean.bracket hclean.line hmem, if_neg fun hboth => hlong hboth.1]
  obtain ⟨q, rest, rfl⟩ := hafter.exists_cons
  have hrest := (Cuts.plain hplain hafter).cons (hsplit ▸ hsingle)
  have hnext := next_long (h := h) hclean hlong after
  rw [hsplit] at hnext
  have hwhole : marker inner ++ after = '[' :: '[' :: ((inner ++ [']', ']']) ++ after) := rfl
  rw [hwhole] at hnext ⊢
  exact hrest.cons hnext

end Pieces

section Marked

variable {text before more inner after : List Char} {ps qs : List (List Char)} {c : Char}

lemma marked_append (hplain : '[' ∉ before) : Marked (before ++ text) ↔ Marked text := by
  induction before with
  | nil => rfl
  | cons c before ih =>
      have hc : ¬['[', '['] <+: c :: (before ++ text) := by
        rintro ⟨rest, heq⟩
        exact hplain ((List.cons.inj heq).1 ▸ List.mem_cons_self)
      rw [List.cons_append, Marked, List.infix_cons_iff, or_iff_right hc]
      exact ih fun hmem => hplain (List.mem_cons_of_mem _ hmem)

lemma Marked.mono (hmarked : Marked text) (hpart : text <:+: more) : Marked more := hmarked.trans hpart

lemma marked_marker (inner : List Char) : Marked (marker inner) := ⟨[], inner ++ [']', ']'], rfl⟩

lemma Closed.suffix (hclosed : Closed (before ++ text)) : Closed text := by
  rintro front rest rfl
  exact hclosed (before ++ front) rest (by simp)

lemma Closed.first (hclosed : Closed text) (hmarked : Marked text) :
    ∃ before inner after, text = before ++ (marker inner ++ after) ∧ Clean inner ∧ ¬Marked (before ++ ['[']) := by
  induction text with
  | nil => exact absurd (List.infix_nil.1 hmarked) (by simp)
  | cons c rest ih =>
      by_cases hhead : ['[', '['] <+: c :: rest
      · obtain ⟨more, hmore⟩ := hhead
        obtain ⟨inner, after, hclose, hbracket, hline⟩ := hclosed [] more (by simpa using hmore.symm)
        obtain ⟨first, later, hfirst, hclean⟩ := exists_clean hbracket hline after
        refine ⟨[], first, later, ?_, hclean, ?_⟩
        · rw [← hmore, hclose, hfirst]
          simp [marker]
        · rintro ⟨front, back, heq⟩
          have := congrArg List.length heq
          simp at this
          omega
      · rcases List.infix_cons_iff.1 hmarked with hmarked | hmarked
        · exact absurd hmarked hhead
        · obtain ⟨before, inner, after, rfl, hclean, hbefore⟩ :=
              ih ((show Closed ([c] ++ rest) from hclosed).suffix) hmarked
          refine ⟨c :: before, inner, after, rfl, hclean, ?_⟩
          rw [List.cons_append, Marked, List.infix_cons_iff, not_or]
          refine ⟨?_, hbefore⟩
          rintro ⟨back, heq⟩
          apply hhead
          obtain ⟨rfl, hrest⟩ := List.cons.inj heq
          cases before with
          | nil => exact ⟨'[' :: (inner ++ [']', ']']) ++ after, rfl⟩
          | cons d before =>
              obtain ⟨rfl, -⟩ := List.cons.inj hrest
              exact ⟨before ++ (marker inner ++ after), rfl⟩

lemma clean_inj {inner' after' : List Char} (hclean : Clean inner) (hclean' : Clean inner')
    (heq : inner ++ ']' :: ']' :: after = inner' ++ ']' :: ']' :: after') : inner = inner' ∧ after = after' := by
  -- one is no longer than the other, and what it lacks would begin with a close
  have hshorter : ∀ {inner inner' after after' : List Char}, Clean inner' →
      (∃ rest, inner' = inner ++ rest ∧ ']' :: ']' :: after = rest ++ ']' :: ']' :: after') → inner = inner' ∧
        after = after' := by
    rintro inner inner' after after' hclean' ⟨rest, rfl, hrest⟩
    cases rest with
    | nil => simpa using hrest
    | cons c rest =>
        obtain ⟨rfl, htail⟩ := List.cons.inj hrest
        clear hrest
        refine absurd ?_ hclean'.close
        cases rest with
        | nil => exact ⟨inner, [], by simp⟩
        | cons d rest =>
            obtain ⟨rfl, -⟩ := List.cons.inj htail
            exact ⟨inner, rest ++ [']'], by simp⟩
  rcases List.append_eq_append_iff.1 heq with hrest | ⟨rest, hinner, hrest⟩
  · exact hshorter hclean' hrest
  · obtain ⟨hsame, hafter⟩ := hshorter hclean ⟨rest, hinner, hrest⟩
    exact ⟨hsame.symm, hafter.symm⟩

lemma split_plain {front rest : List Char} (hplain : '[' ∉ before) (heq : before ++ after = front ++ '[' :: rest) :
    ∃ middle, front = before ++ middle ∧ after = middle ++ '[' :: rest := by
  rcases List.append_eq_append_iff.1 heq with hmiddle | ⟨middle, rfl, hrest⟩
  · exact hmiddle
  · cases middle with
    | nil => exact ⟨[], by simp, hrest.symm⟩
    | cons c middle =>
        obtain ⟨rfl, -⟩ := List.cons.inj hrest
        simp at hplain

lemma plain_inner (hclean : Clean inner) : '[' ∉ inner ++ [']', ']'] := by
  have hinner := hclean.bracket
  simp only [List.mem_append, List.mem_cons, not_or]
  exact ⟨hinner, by decide, by decide, by simp⟩

lemma marker_split {before' inner' after' : List Char} (hfirst : ¬Marked (before ++ ['['])) (hclean : Clean inner)
    (hclean' : Clean inner')
    (heq : before ++ (marker inner ++ after) = before' ++ (marker inner' ++ after')) :
    inner = inner' ∧ after = after' ∨ ∃ middle, after = middle ++ (marker inner' ++ after') := by
  induction before generalizing before' with
  | nil =>
      have hbody : marker inner ++ after = '[' :: '[' :: ((inner ++ [']', ']']) ++ after) := rfl
      rw [List.nil_append, hbody] at heq
      match before' with
      | [] =>
          left
          apply clean_inj hclean hclean'
          simpa [marker] using heq
      | [_] =>
          obtain ⟨-, hrest⟩ := List.cons.inj heq
          obtain ⟨-, hrest⟩ := List.cons.inj hrest
          have hmem : '[' ∈ inner ++ [']', ']'] := by
            cases inner with
            | nil => cases hrest
            | cons c inner =>
                obtain ⟨rfl, -⟩ := List.cons.inj hrest
                simp
          exact absurd hmem (plain_inner hclean)
      | _ :: _ :: front =>
          obtain ⟨-, hrest⟩ := List.cons.inj heq
          obtain ⟨-, hrest⟩ := List.cons.inj hrest
          obtain ⟨middle, -, hafter⟩ := split_plain (plain_inner hclean) hrest
          exact .inr ⟨middle, hafter⟩
  | cons c before ih =>
      rw [List.cons_append, Marked, List.infix_cons_iff, not_or] at hfirst
      cases before' with
      | nil =>
          refine absurd ?_ hfirst.1
          obtain ⟨rfl, hrest⟩ := List.cons.inj heq
          cases before with
          | nil => exact ⟨[], rfl⟩
          | cons d before =>
              obtain ⟨rfl, -⟩ := List.cons.inj hrest
              exact ⟨before ++ ['['], rfl⟩
      | cons d before' => exact ih hfirst.2 (List.cons.inj heq).2

def AllStripped (h : Host ρ) (text : List Char) : Prop :=
  ∀ before inner after, text = before ++ (marker inner ++ after) → Clean inner → Stripped h inner

lemma allStripped_iff (hfirst : ¬Marked (before ++ ['['])) (hclean : Clean inner) :
    AllStripped h (before ++ (marker inner ++ after)) ↔ Stripped h inner ∧ AllStripped h after := by
  constructor
  · intro hall
    refine ⟨hall before inner after rfl hclean, ?_⟩
    rintro front inner' rest rfl hclean'
    exact hall (before ++ (marker inner ++ front)) inner' rest (by simp) hclean'
  · rintro ⟨hstripped, hall⟩ before' inner' after' heq hclean'
    rcases marker_split hfirst hclean hclean' heq with ⟨rfl, -⟩ | ⟨middle, rfl⟩
    · exact hstripped
    · exact hall middle inner' after' rfl hclean'

lemma last_of_not_marked (hfirst : ¬Marked (before ++ ['['])) : before.getLast? ≠ some '[' := by
  intro hlast
  obtain ⟨front, rfl⟩ := List.getLast?_eq_some_iff.1 hlast
  exact hfirst ⟨front, [], by simp⟩

lemma marked_pieces_iff (hcuts : Cuts h text ps) (hclosed : Closed text) :
    (∃ p ∈ ps, Marked p) ↔ ¬AllStripped h text := by
  induction hn : text.length using Nat.strong_induction_on generalizing text ps with
  | _ n ih =>
      by_cases hmarked : Marked text
      · obtain ⟨before, inner, after, rfl, hclean, hfirst⟩ := hclosed.first hmarked
        obtain ⟨fronts, hfronts⟩ := Cuts.exists h before
        obtain ⟨rests, hrests⟩ := Cuts.exists h after
        have hlast := last_of_not_marked hfirst
        have hshorter : after.length < n := by
          rw [← hn]
          simp only [marker, List.length_append, List.length_cons]
          omega
        have hlater := ih after.length hshorter hrests ((hclosed.suffix).suffix) rfl
        -- before the marker there are no two brackets
        have hnone : ∀ p ∈ glue fronts [['[']], ¬Marked p := by
          intro p hp hmark
          exact hfirst (hmark.mono ((hfronts.append hlast (.last rfl)).within p hp))
        obtain ⟨front, last, rfl⟩ := hfronts.exists_concat
        obtain ⟨first, rest, rfl⟩ := hrests.exists_cons
        rw [glue_concat] at hnone
        simp only [List.mem_append, List.mem_cons, List.not_mem_nil, or_false] at hnone
        rw [allStripped_iff hfirst hclean]
        by_cases hstripped : Stripped h inner
        · rw [and_iff_right hstripped, ← hlater]
          by_cases hshort : byteLength inner ≤ 40
          · obtain rfl := hcuts.unique (hfronts.append hlast (.short hclean hshort hrests))
            rw [glue_concat]
            have hbefore : ¬Marked (last ++ []) := by
              rw [List.append_nil]
              exact fun hmark => hnone _ (.inr rfl) (hmark.mono (List.prefix_append _ _).isInfix)
            constructor
            · rintro ⟨p, hp, hmark⟩
              rcases List.mem_append.1 hp with hp | hp
              · exact absurd hmark (hnone p (.inl hp))
              · rcases List.mem_cons.1 hp with rfl | hp
                · exact absurd hmark hbefore
                · exact ⟨p, hp, hmark⟩
            · rintro ⟨p, hp, hmark⟩
              exact ⟨p, List.mem_append_right _ (List.mem_cons_of_mem _ hp), hmark⟩
          · obtain ⟨word, more, rfl, hclose, hword, hcontrol⟩ := hstripped.resolve_left hshort
            obtain rfl := hcuts.unique (hfronts.append hlast (.control hclean hshort hclose hword hcontrol hrests))
            have hplain : '[' ∉ more ++ [']', ']'] := by
              have hall := plain_inner hclean
              simp only [List.mem_append, List.mem_cons, not_or] at hall ⊢
              exact ⟨hall.1.2.2, hall.2⟩
            rw [glue_concat]
            constructor
            · rintro ⟨p, hp, hmark⟩
              rcases List.mem_append.1 hp with hp | hp
              · exact absurd hmark (hnone p (.inl hp))
              · rcases List.mem_cons.1 hp with rfl | hp
                · exact absurd hmark (hnone _ (.inr rfl))
                · rcases List.mem_cons.1 hp with rfl | hp
                  · exact ⟨first, List.mem_cons_self, (marked_append hplain).1 hmark⟩
                  · exact ⟨p, List.mem_cons_of_mem _ hp, hmark⟩
            · rintro ⟨p, hp, hmark⟩
              rcases List.mem_cons.1 hp with rfl | hp
              · exact ⟨_, List.mem_append_right _ (List.mem_cons_of_mem _ List.mem_cons_self),
                  (marked_append hplain).2 hmark⟩
              · exact ⟨p, List.mem_append_right _ (List.mem_cons_of_mem _ (List.mem_cons_of_mem _ hp)), hmark⟩
        · obtain rfl := hcuts.unique (hfronts.append hlast (.kept hclean hstripped hrests))
          refine iff_of_true ?_ fun hboth => hstripped hboth.1
          refine ⟨last ++ (marker inner ++ first), ?_, ?_⟩
          · rw [show glue [marker inner] (first :: rest) = (marker inner ++ first) :: rest from rfl, glue_concat]
            exact List.mem_append_right _ List.mem_cons_self
          · exact (marked_marker inner).mono ⟨last, first, by simp⟩
      · refine iff_of_false ?_ ?_
        · rintro ⟨p, hp, hmark⟩
          exact hmarked (hmark.mono (hcuts.within p hp))
        · intro hnot
          apply hnot
          rintro before inner after rfl -
          exact absurd ((marked_marker inner).mono ⟨before, after, by simp⟩) hmarked

end Marked

end Aokie.Plugin.SpeechPlan
