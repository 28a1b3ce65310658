import Aokie.Lib.Rust

/-! H2 packets around mSBC frames: the encoder that numbers them, and the byte streams that carry them to and from
the controller. -/

namespace Aokie.Msbc

open Aokie.Lib

def msbcFrameSize : ℕ := 57
def msbcSamplesPerFrame : ℕ := 120
def msbcH2PacketSize : ℕ := 60
def msbcSyncByte : UInt8 := 0xad

def h2SyncByte0 : UInt8 := 0x01
def h2SyncByte1 : List UInt8 := [0x08, 0x38, 0xc8, 0xf8]
def h2PaddingByte : UInt8 := 0x00

abbrev Pcm := Vector Int16 msbcSamplesPerFrame

/-- The mSBC encoder, which works in floating point: its state, and a frame that begins with the sync byte for every
block of samples. -/
structure MsbcEncoder where
  State : Type
  new : State
  encode : State → Pcm → State × Vector UInt8 msbcFrameSize
  encode_head : ∀ state pcm, (encode state pcm).2.toList.head? = some msbcSyncByte

structure H2Encoder (codec : MsbcEncoder) where
  inner : codec.State
  seq : UInt8

variable {codec : MsbcEncoder}

namespace H2Encoder

def new : H2Encoder codec := ⟨codec.new, 0⟩

def encodePacket (e : H2Encoder codec) (pcm : Pcm) : H2Encoder codec × Bytes :=
  let (inner, frame) := codec.encode e.inner pcm
  (⟨inner, (e.seq + 1) &&& 0x03⟩,
    [h2SyncByte0, h2SyncByte1.getD e.seq.toNat 0] ++ frame.toList ++ [h2PaddingByte])

end H2Encoder

def isValidH2SequenceByte (b : UInt8) : Bool :=
  if b &&& 0x0f ≠ 0x08 then false
  else
    let hn := b >>> 4
    (hn >>> 1) &&& 0x05 == hn &&& 0x05

structure MsbcStreamFramer where
  buffer : Bytes := []
  deriving DecidableEq, Repr

def findSync : Bytes → Option ℕ
  | b0 :: b1 :: b2 :: rest =>
    if b2 = msbcSyncByte ∧ b0 = h2SyncByte0 ∧ isValidH2SequenceByte b1 then some 0
    else (findSync (b1 :: b2 :: rest)).map (· + 1)
  | _ => none

namespace MsbcStreamFramer

def new : MsbcStreamFramer := {}

def maxBuffered : ℕ := 10 * msbcH2PacketSize

variable (f : MsbcStreamFramer)

def push (bytes : Bytes) : MsbcStreamFramer :=
  let buffer := f.buffer ++ bytes
  if maxBuffered < buffer.length then ⟨buffer.drop (buffer.length - maxBuffered)⟩ else ⟨buffer⟩

def nextFrame : MsbcStreamFramer × Option Bytes :=
  if f.buffer.length < 3 then (f, none)
  else
    match findSync f.buffer with
    | none => (⟨f.buffer.drop (f.buffer.length - 2)⟩, none)
    | some start =>
      let buffer := f.buffer.drop start
      if buffer.length < msbcH2PacketSize then (⟨buffer⟩, none)
      else (⟨buffer.drop msbcH2PacketSize⟩, some (buffer.take msbcH2PacketSize))

/-- The caller's loop: frames until there is none. Each takes bytes, so the buffer's length is enough fuel. -/
def framesFrom : ℕ → MsbcStreamFramer → MsbcStreamFramer × List Bytes
  | 0, f => (f, [])
  | fuel + 1, f =>
    match f.nextFrame with
    | (f, none) => (f, [])
    | (f, some frame) => (framesFrom fuel f).map id (frame :: ·)

def frames : MsbcStreamFramer × List Bytes := framesFrom (f.buffer.length + 1) f

def feed (chunk : Bytes) : MsbcStreamFramer × List Bytes := (f.push chunk).frames

end MsbcStreamFramer

structure MsbcStreamPackager (codec : MsbcEncoder) where
  encoder : H2Encoder codec
  pending : Bytes

namespace MsbcStreamPackager

def new : MsbcStreamPackager codec := ⟨.new, []⟩

variable {σ : Type} (nextPcm : σ → σ × Pcm)

/-- The loop of `pop_bytes`. A packet is more than one byte, so the number of bytes asked for is enough fuel. -/
def fill (n : ℕ) : ℕ → MsbcStreamPackager codec → σ → MsbcStreamPackager codec × σ
  | 0, p, source => (p, source)
  | fuel + 1, p, source =>
    if p.pending.length < n then
      let (source, pcm) := nextPcm source
      let (encoder, h2) := p.encoder.encodePacket pcm
      fill n fuel ⟨encoder, p.pending ++ h2⟩ source
    else (p, source)

def popBytes (p : MsbcStreamPackager codec) (source : σ) (n : ℕ) : (MsbcStreamPackager codec × σ) × Bytes :=
  let (p, source) := fill nextPcm n n p source
  (({ p with pending := p.pending.drop n }, source), p.pending.take n)

end MsbcStreamPackager

end Aokie.Msbc
