import Footage.Export.TransportStream.Table

/-!
# The checksum of a table

A receiver takes the checksum of a whole table, its own checksum included, and compares with zero.
While the register takes in the octets of its own value, it sees only zeros in front and is just
moved on, until nothing is left of it.

* `checksum_append_self`: octets behind which their checksum is written have the checksum zero.
* `IsSection`: what a receiver expects of a table. `isSection_table`: what `table` gives.
-/

namespace Footage.TransportStream

/-! ## The checksum of a checksum -/

/-- Bits that are zero leave the polynomial out. -/
theorem checksumBits_eq_shiftLeft {count : Nat} {register : BitVec 32} (bound : count ≤ 32)
    (zeros : ∀ i, 32 - count ≤ i → register.getLsbD i = false) :
    checksumBits count register = register <<< count := by
  induction count generalizing register with
  | zero => exact (BitVec.shiftLeft_zero register).symm
  | succ count ih =>
    have top : register.msb = false := by
      rw [BitVec.msb_eq_getLsbD_last]
      exact zeros 31 (by omega)
    have moved : checksumBit register = register <<< 1 := by
      rw [checksumBit, top]
      rfl
    rw [checksumBits, moved, ih (by omega), ← BitVec.shiftLeft_add, Nat.add_comm]
    intro i high
    rw [BitVec.getLsbD_shiftLeft, zeros (i - 1) (by omega), Bool.and_false]

theorem getLsbD_topOctet (n i : Nat) :
    ((UInt8.ofNat n).toBitVec.setWidth 32 <<< 24).getLsbD i =
      (decide (24 ≤ i ∧ i < 32) && n.testBit (i - 24)) := by
  rw [BitVec.getLsbD_shiftLeft, BitVec.getLsbD_setWidth, UInt8.toBitVec_ofNat',
    BitVec.getLsbD_ofNat]
  grind

/-- The register of which `count` bits have been moved out takes in its next octet. -/
theorem checksumByte_shiftLeft (register : BitVec 32) (count : Nat) (bound : count ≤ 24) :
    checksumByte (register <<< count) (UInt8.ofNat (register.toNat >>> (24 - count))) =
      register <<< (count + 8) := by
  rw [checksumByte, checksumBits_eq_shiftLeft (by decide)]
  · -- the octet is moved out altogether
    refine BitVec.eq_of_getLsbD_eq fun i inside => ?_
    have below : ¬(24 ≤ i - 8 ∧ i - 8 < 32) := by omega
    rw [BitVec.getLsbD_shiftLeft, BitVec.getLsbD_xor, getLsbD_topOctet, decide_eq_false below,
      Bool.false_and, Bool.xor_false, BitVec.getLsbD_shiftLeft, BitVec.getLsbD_shiftLeft,
      Nat.sub_sub, Nat.add_comm 8 count]
    grind
  · -- until then it clears the top of the register
    intro i high
    rw [BitVec.getLsbD_xor, getLsbD_topOctet, BitVec.getLsbD_shiftLeft]
    by_cases inside : i < 32
    · have same : (register.toNat >>> (24 - count)).testBit (i - 24) =
          register.getLsbD (i - count) := by
        rw [Nat.testBit_shiftRight, BitVec.testBit_toNat]
        congr 1
        omega
      have notBelow : ¬i < count := by omega
      simp [same, inside, notBelow, show 24 ≤ i by omega]
    · simp [inside]

theorem checksum_append_self (octets : Bytes) :
    checksum (octets ++ Bytes.bigEndian 4 (checksum octets).toNat) = 0 := by
  -- each octet is the one that stands on top of the register by then
  generalize same : checksum octets = register
  have first := checksumByte_shiftLeft register 0 (by decide)
  have second := checksumByte_shiftLeft register 8 (by decide)
  have third := checksumByte_shiftLeft register 16 (by decide)
  have fourth := checksumByte_shiftLeft register 24 (by decide)
  rw [BitVec.shiftLeft_zero] at first
  rw [checksum, List.foldl_append, ← checksum, same]
  calc (Bytes.bigEndian 4 register.toNat).foldl checksumByte register
      = checksumByte (checksumByte (checksumByte (checksumByte register
          (UInt8.ofNat (register.toNat >>> 24))) (UInt8.ofNat (register.toNat >>> 16)))
          (UInt8.ofNat (register.toNat >>> 8))) (UInt8.ofNat (register.toNat >>> 0)) := rfl
    _ = register <<< 32 := by rw [first, second, third, fourth]
    _ = 0 := BitVec.shiftLeft_eq_zero (by decide)

/-! ## Tables at the receiver -/

/-- The length that a table tells of what comes behind its first three octets. -/
def sectionLength : Bytes → Nat
  | _ :: high :: low :: _ => high.toNat % 16 * 256 + low.toNat
  | _ => 0

/-- A receiver accepts the octets as one whole table. -/
structure IsSection (octets : Bytes) : Prop where
  length : octets.length = 3 + sectionLength octets
  checksum : checksum octets = 0

/-- The low four bits beside a mark in the high ones. -/
theorem or_mod_sixteen {n : Nat} (small : n < 16) : (0xB0 ||| n) % 256 % 16 = n := by
  have low : (0xB0 ||| n) % 16 = 0xB0 % 16 ||| n % 16 := Nat.or_mod_two_pow (n := 4)
  rw [Nat.mod_mod_of_dvd _ (by decide : 16 ∣ 256), low, Nat.mod_eq_of_lt small]
  exact Nat.zero_or n

theorem isSection_table (number : UInt8) {content : Bytes} (fits : content.length + 4 < 4096) :
    IsSection (table number content) := by
  constructor
  · have told : (0xB0 ||| ((content.length + 4) >>> 8) % 16) % 256 % 16 =
        (content.length + 4) / 256 := by
      have high : (content.length + 4) / 256 < 16 := Nat.div_lt_of_lt_mul fits
      rw [or_mod_sixteen (Nat.mod_lt _ (by decide)), Nat.shiftRight_eq_div_pow]
      exact Nat.mod_eq_of_lt high
    simp only [table, sectionLength, List.cons_append, List.nil_append, UInt8.toNat_ofNat',
      Nat.reducePow, List.length_cons, List.length_append, Bytes.length_bigEndian]
    rw [told]
    omega
  · exact checksum_append_self _

end Footage.TransportStream
