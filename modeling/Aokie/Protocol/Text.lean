import Aokie.Lib.Rust

/-! Display text that crosses the Companion boundary: one line, cut at a byte limit. -/

namespace Aokie.Protocol

open Aokie.Lib

def byteLength (text : List Char) : ℕ := (text.map Char.utf8Size).sum

lemma byteLength_append (text more : List Char) : byteLength (text ++ more) = byteLength text + byteLength more := by
  simp [byteLength]

lemma byteLength_cons (c : Char) (text : List Char) : byteLength (c :: text) = c.utf8Size + byteLength text := by
  simp [byteLength]

lemma byteLength_le_of_start {front text : List Char} (h : front <+: text) : byteLength front ≤ byteLength text := by
  obtain ⟨more, rfl⟩ := h
  rw [byteLength_append]
  omega

/-- `char::is_control`: the C0 and C1 controls and DEL. -/
def isControl (c : Char) : Bool := c.toNat ≤ 0x1f || (0x7f ≤ c.toNat && c.toNat ≤ 0x9f)

def isForbiddenChar (c : Char) : Bool := isControl c || c.toNat == 0x2028 || c.toNat == 0x2029

/-- The longest start of the text that fits, without splitting a character. -/
def truncateToBytes : List Char → ℕ → List Char
  | [], _ => []
  | c :: text, maxBytes => if c.utf8Size ≤ maxBytes then c :: truncateToBytes text (maxBytes - c.utf8Size) else []

def trimEnd (text : List Char) : List Char := text.rdropWhile isWhitespace

/-- The loop of `sanitize_line`: the line so far, and whether a space is due before the next character. -/
def gatherLine (maxBytes : ℕ) : List Char → Bool → List Char → List Char
  | line, _, [] => line
  | line, pendingSpace, c :: rest =>
    if isForbiddenChar c then gatherLine maxBytes line true rest
    else if line.isEmpty && isWhitespace c then gatherLine maxBytes line pendingSpace rest
    else
      let line := line ++ (if pendingSpace && !line.isEmpty then [' ', c] else [c])
      if maxBytes + 4 < byteLength line then line else gatherLine maxBytes line false rest

def sanitizeLine (value : List Char) (maxBytes : ℕ) : List Char :=
  trimEnd (truncateToBytes (trimEnd (gatherLine maxBytes [] false value)) maxBytes)

end Aokie.Protocol
