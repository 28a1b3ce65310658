import Aokie.Lib.Rust

/-! `String::from_utf8_lossy`: every maximal ill-formed sequence becomes one replacement character. -/

namespace Aokie.Lib

def isContinuation (b : UInt8) : Bool := b &&& 0xc0 == 0x80

def secondByteOk (lead second : UInt8) : Bool :=
  if lead == 0xe0 then 0xa0 ≤ second && second ≤ 0xbf
  else if lead == 0xed then 0x80 ≤ second && second ≤ 0x9f
  else if lead == 0xf0 then 0x90 ≤ second && second ≤ 0xbf
  else if lead == 0xf4 then 0x80 ≤ second && second ≤ 0x8f
  else isContinuation second

def sequenceLength (lead : UInt8) : ℕ :=
  if lead < 0x80 then 1
  else if 0xc2 ≤ lead && lead ≤ 0xdf then 2
  else if 0xe0 ≤ lead && lead ≤ 0xef then 3
  else if 0xf0 ≤ lead && lead ≤ 0xf4 then 4
  else 0

def continuationCount (lead : UInt8) (rest : Bytes) : ℕ :=
  match rest with
  | second :: later =>
    if secondByteOk lead second then
      1 + ((later.take (sequenceLength lead - 2)).takeWhile isContinuation).length
    else 0
  | [] => 0

def replacementChar : Char := '\ufffd'

def decodeLossy (lead : UInt8) (rest : Bytes) : Char × Bytes :=
  let len := sequenceLength lead
  if len = 1 then (Char.ofNat lead.toNat, rest)
  else if len = 0 then (replacementChar, rest)
  else
    let got := continuationCount lead rest
    if got + 1 = len then
      let bits := lead.toNat % (if len = 2 then 32 else if len = 3 then 16 else 8)
      (Char.ofNat ((rest.take got).foldl (fun acc b => acc * 64 + b.toNat % 64) bits), rest.drop got)
    else (replacementChar, rest.drop got)

def lossyFrom : ℕ → Bytes → List Char
  | 0, _ => []
  | _, [] => []
  | fuel + 1, lead :: rest =>
    let (c, rest) := decodeLossy lead rest
    c :: lossyFrom fuel rest

def fromUtf8Lossy (bytes : Bytes) : List Char := lossyFrom bytes.length bytes

end Aokie.Lib
