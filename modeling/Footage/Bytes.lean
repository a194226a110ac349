/-!
# Octet strings

Octets and the big-endian integers that all framings and containers here are built from.
-/

namespace Footage

/-- A string of octets. -/
abbrev Bytes := List UInt8

namespace Bytes

/-- The low `width` octets of `n`, most significant first. -/
def bigEndian : (width n : Nat) → Bytes
  | 0, _ => []
  | width + 1, n => UInt8.ofNat (n >>> (8 * width)) :: bigEndian width n

/-- The number whose big-endian octets are `bs`. -/
def toNat (bs : Bytes) : Nat := bs.foldl (fun n b => 256 * n + b.toNat) 0

/-- One octet per character of a text whose characters are all below U+0100. -/
def ofLatin (text : String) : Bytes := text.toList.map fun c => UInt8.ofNat c.toNat

def zeros (count : Nat) : Bytes := List.replicate count 0

@[simp] theorem length_bigEndian (width n : Nat) : (bigEndian width n).length = width := by
  induction width with
  | zero => rfl
  | succ width ih => simp [bigEndian, ih]

@[simp] theorem length_zeros (count : Nat) : (zeros count).length = count := by
  simp [zeros]

end Bytes

end Footage
