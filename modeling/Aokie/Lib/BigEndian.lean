import Aokie.Lib.Rust

/-! Numbers as bytes, the most significant byte first. -/

namespace Aokie.Lib

def beBytes : ℕ → ℕ → Bytes
  | 0, _ => []
  | width + 1, n => beBytes width (n / 256) ++ [UInt8.ofNat n]

def beNat (bytes : Bytes) : ℕ := bytes.foldl (fun acc byte => acc * 256 + byte.toNat) 0

@[simp] lemma beBytes_length (width n : ℕ) : (beBytes width n).length = width := by
  induction width generalizing n with
  | zero => rfl
  | succ width ih => simp [beBytes, ih]

@[simp] lemma beNat_nil : beNat [] = 0 := rfl

@[simp] lemma beNat_concat (bytes : Bytes) (byte : UInt8) :
  beNat (bytes ++ [byte]) = beNat bytes * 256 + byte.toNat := by
  simp [beNat]

lemma beNat_beBytes (width n : ℕ) : beNat (beBytes width n) = n % 256 ^ width := by
  induction width generalizing n with
  | zero => simp [beBytes, Nat.mod_one]
  | succ width ih =>
      have hbyte : (UInt8.ofNat n).toNat = n % 256 := by simp
      rw [beBytes, beNat_concat, ih, hbyte, pow_succ', Nat.mod_mul]
      ring

/-- `u16::to_be_bytes`. -/
def u16ToBeBytes (n : UInt16) : Bytes := beBytes 2 n.toNat

/-- `u16::from_be_bytes`. -/
def u16FromBeBytes (bytes : Bytes) : UInt16 := UInt16.ofNat (beNat bytes)

/-- `u32::to_be_bytes`. -/
def u32ToBeBytes (n : UInt32) : Bytes := beBytes 4 n.toNat

/-- `u32::from_be_bytes`. -/
def u32FromBeBytes (bytes : Bytes) : UInt32 := UInt32.ofNat (beNat bytes)

@[simp] lemma u16ToBeBytes_length (n : UInt16) : (u16ToBeBytes n).length = 2 := beBytes_length 2 _

@[simp] lemma u32ToBeBytes_length (n : UInt32) : (u32ToBeBytes n).length = 4 := beBytes_length 4 _

@[simp] lemma u16FromBeBytes_toBeBytes (n : UInt16) : u16FromBeBytes (u16ToBeBytes n) = n := by
  have hlt : n.toNat < 256 ^ 2 := n.toNat_lt
  rw [u16FromBeBytes, u16ToBeBytes, beNat_beBytes, Nat.mod_eq_of_lt hlt, UInt16.ofNat_toNat]

@[simp] lemma u32FromBeBytes_toBeBytes (n : UInt32) : u32FromBeBytes (u32ToBeBytes n) = n := by
  have hlt : n.toNat < 256 ^ 4 := n.toNat_lt
  rw [u32FromBeBytes, u32ToBeBytes, beNat_beBytes, Nat.mod_eq_of_lt hlt, UInt32.ofNat_toNat]

lemma u16ToBeBytes_eq (n : UInt16) : ∃ hi lo, u16ToBeBytes n = [hi, lo] := ⟨_, _, rfl⟩

lemma u32ToBeBytes_eq (n : UInt32) : ∃ a b c d, u32ToBeBytes n = [a, b, c, d] := ⟨_, _, _, _, rfl⟩

end Aokie.Lib
