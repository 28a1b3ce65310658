import Aokie.Lib.Lines
import Aokie.Radio.Hfp.Result

/-! The AT stream cut into frames: the results do not depend on where the cuts fall, as long as they fall between
characters. -/

namespace Aokie.Radio.Hfp

open Aokie.Lib Aokie.Lib.Lines

def feedFrames (carry : String) : List Bytes → Except String (String × List HfpAgResult)
  | [] => .ok (carry, [])
  | frame :: frames => do
    let (carry, first) ← parseAgResultsBuffered carry frame
    let (carry, rest) ← feedFrames carry frames
    return (carry, first ++ rest)

def utf8Len (text : List Char) : ℕ := (text.map Char.utf8Size).sum

def ShortLines (text : List Char) : Prop := ∀ line ∈ text.splitOnP isLineBreak, utf8Len line ≤ 1024

instance (text : List Char) : Decidable (ShortLines text) :=
  inferInstanceAs (Decidable (∀ line ∈ text.splitOnP isLineBreak, utf8Len line ≤ 1024))

def readLines (text : List Char) : List HfpAgResult := (text.splitOnP isLineBreak).filterMap parseAgResultLine

lemma parseAgResultLine_nil : parseAgResultLine [] = none := rfl

lemma parseAgResultsBuffered_eq {carry text : String} {payload : Bytes} (htext : fromUtf8 payload = some text) :
    parseAgResultsBuffered carry payload = .ok
      (if utf8Len (unfinished isLineBreak (carry.toList ++ text.toList)) ≤ 1024 then
        String.ofList (unfinished isLineBreak (carry.toList ++ text.toList)) else "",
      readLines (complete isLineBreak (carry.toList ++ text.toList))) := by
  simp only [parseAgResultsBuffered, htext, String.toList_append, splitOn_flatMap_splitOn]
  rfl

lemma utf8Len_unfinished_le {text more : List Char} (h : ShortLines (text ++ more)) :
    utf8Len (unfinished isLineBreak text) ≤ 1024 := by
  have hunbroken : ∀ c ∈ unfinished isLineBreak text, isLineBreak c = false := fun _ hc =>
    isBreak_of_mem_unfinished hc
  obtain ⟨line, rest, hsplit, hstart⟩ := splitOnP_append_eq_cons hunbroken more
  have hline : line ∈ (text ++ more).splitOnP isLineBreak :=
    mem_splitOnP_of_unfinished (hsplit ▸ List.mem_cons_self)
  have hsize : utf8Len (unfinished isLineBreak text) ≤ utf8Len line :=
    (hstart.map Char.utf8Size).sublist.sum_le_sum fun _ _ => Nat.zero_le _
  exact hsize.trans (h line hline)

lemma feedFrames_eq {carry text : String} {frames : List Bytes}
    (hcarry : ∀ c ∈ carry.toList, isLineBreak c = false)
    (hframes : ∀ frame ∈ frames, (fromUtf8 frame).isSome) (htext : fromUtf8 frames.flatten = some text)
    (hshort : ShortLines (carry.toList ++ text.toList)) :
    feedFrames carry frames = .ok (String.ofList (unfinished isLineBreak (carry.toList ++ text.toList)),
      readLines (complete isLineBreak (carry.toList ++ text.toList))) := by
  induction frames generalizing carry text with
  | nil =>
      obtain rfl : text = "" := by
        have hempty : fromUtf8 [] = some "" := by decide
        exact (Option.some.inj (hempty.symm.trans htext)).symm
      simp [feedFrames, unfinished_eq_self hcarry, complete_eq_nil hcarry, readLines, parseAgResultLine_nil]
  | cons frame frames ih =>
      obtain ⟨hframe, hframes⟩ := List.forall_mem_cons.mp hframes
      obtain ⟨first, hfirst⟩ := Option.isSome_iff_exists.mp hframe
      obtain ⟨later, hlater⟩ := Option.isSome_iff_exists.mp (fromUtf8_flatten hframes)
      obtain rfl : text = first ++ later :=
        Option.some.inj (htext.symm.trans (fromUtf8_append hfirst hlater))
      rw [String.toList_append, ← List.append_assoc] at hshort
      have hunbroken : ∀ c ∈ (String.ofList (unfinished isLineBreak (carry.toList ++ first.toList))).toList,
          isLineBreak c = false := by
        intro c hc
        rw [String.toList_ofList] at hc
        exact isBreak_of_mem_unfinished hc
      have hshort' : ShortLines ((String.ofList (unfinished isLineBreak (carry.toList ++ first.toList))).toList ++
          later.toList) := by
        rw [String.toList_ofList]
        exact fun line hline => hshort line (mem_splitOnP_of_unfinished hline)
      have hrest := ih hunbroken hframes hlater hshort'
      rw [feedFrames, parseAgResultsBuffered_eq hfirst, if_pos (utf8Len_unfinished_le hshort)]
      simp only [bind, Except.bind, hrest, String.toList_ofList, pure, Except.pure]
      rw [String.toList_append, ← List.append_assoc, unfinished_append (carry.toList ++ first.toList),
        complete_append (carry.toList ++ first.toList), readLines, readLines, readLines,
        filterMap_splitOnP_append parseAgResultLine_nil]

lemma isSome_of_feedFrames {carry : String} {frames : List Bytes} {r : String × List HfpAgResult}
    (h : feedFrames carry frames = .ok r) : ∀ frame ∈ frames, (fromUtf8 frame).isSome := by
  induction frames generalizing carry r with
  | nil => simp
  | cons frame frames ih =>
      simp only [feedFrames] at h
      obtain ⟨⟨next, first⟩, hfirst, h⟩ := bind_eq_ok_iff.mp h
      obtain ⟨⟨final, rest⟩, hrest, -⟩ := bind_eq_ok_iff.mp h
      refine List.forall_mem_cons.mpr ⟨?_, ih hrest⟩
      cases htext : fromUtf8 frame with
      | none => simp [parseAgResultsBuffered, htext] at hfirst
      | some text => rfl

/-- A stream without overlong lines gives the same results and the same carry, however it is cut, exactly when no
cut falls inside a character. -/
theorem feedFrames_eq_whole_iff (frames : List Bytes) (text : String) (hstream : fromUtf8 frames.flatten = some text)
    (hshort : ShortLines text.toList) :
    feedFrames "" frames = parseAgResultsBuffered "" frames.flatten ↔ ∀ frame ∈ frames, (fromUtf8 frame).isSome := by
  have hwhole : parseAgResultsBuffered "" frames.flatten = .ok
      (if utf8Len (unfinished isLineBreak text.toList) ≤ 1024 then
        String.ofList (unfinished isLineBreak text.toList) else "",
      readLines (complete isLineBreak text.toList)) := parseAgResultsBuffered_eq hstream
  constructor
  · intro hsame
    exact isSome_of_feedFrames (hsame.trans hwhole)
  · intro hframes
    have hfed : feedFrames "" frames = .ok (String.ofList (unfinished isLineBreak text.toList),
        readLines (complete isLineBreak text.toList)) :=
      feedFrames_eq (by simp) hframes hstream hshort
    have hall : ShortLines (text.toList ++ []) := (List.append_nil text.toList).symm ▸ hshort
    rw [hfed, hwhole, if_pos (utf8Len_unfinished_le hall)]

/-- A caller's name, cut between two characters and between CR and LF. -/
theorem feedFrames_eq_whole_name :
    feedFrames "" [intoBytes "+CLIP: \"1\",,,,\"J", intoBytes "ürg\"\r", intoBytes "\nRI"] =
      parseAgResultsBuffered "" [intoBytes "+CLIP: \"1\",,,,\"J", intoBytes "ürg\"\r", intoBytes "\nRI"].flatten :=
  (feedFrames_eq_whole_iff [intoBytes "+CLIP: \"1\",,,,\"J", intoBytes "ürg\"\r", intoBytes "\nRI"]
    "+CLIP: \"1\",,,,\"Jürg\"\r\nRI" (by decide) (by decide)).mpr (by decide)

/-- The same name cut inside its second letter: the frame is refused and the number is lost. -/
theorem feedFrames_splits_character :
    ¬ ∀ (frames : List Bytes) (text : String), fromUtf8 frames.flatten = some text → ShortLines text.toList →
      feedFrames "" frames = parseAgResultsBuffered "" frames.flatten := by
  intro hsame
  have hname := hsame [intoBytes "+CLIP: \"1\",,,,\"J" ++ [0xc3], 0xbc :: intoBytes "rg\"\r\n"]
    "+CLIP: \"1\",,,,\"Jürg\"\r\n" (by decide) (by decide)
  revert hname
  decide

end Aokie.Radio.Hfp
