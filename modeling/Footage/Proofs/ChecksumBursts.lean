import Footage.BitReader
import Footage.Proofs.TableChecksum

/-!
# The checksum of a table notices bursts of errors

Errors on the way come in bursts: a row of bits is garbled, those around it arrive as they were
sent. The checksum goes through a table bit by bit, and the register is wide enough for 32 of them:
two registers that were the same differ as soon as they have taken in bits that differ, and cannot
become the same again within 32 bits, nor by any bits that they both take in.

* `checksum_eq_foldl_bits`: the checksum, one bit at a time.
* `AgreeBelow`: registers that agree in their low bits. They did so before the last bit, with one
  place less (`AgreeBelow.of_takeBit`).
* `DiffersInBurst`: octets that were received with a burst of errors.
* `checksum_notices_bursts`: such octets do not have the checksum of those that were sent, so a
  receiver refuses each table that arrives with a burst of at most 32 bits.
-/

namespace Footage.TransportStream

/-! ## Bit by bit -/

def takeBit (register : BitVec 32) (bit : Bool) : BitVec 32 :=
  if register.msb ^^ bit then (register <<< 1) ^^^ polynomial else register <<< 1

/-- The top bit of a word that is put over the register is taken in, the rest of it moves up. -/
theorem checksumBit_xor (register word : BitVec 32) :
    checksumBit (register ^^^ word) = takeBit register word.msb ^^^ (word <<< 1) := by
  unfold checksumBit takeBit
  rw [BitVec.msb_xor, BitVec.shiftLeft_xor_distrib]
  split
  · ac_rfl
  · rfl

/-- A word with nothing below its `count` top bits is taken in by as many steps. -/
theorem checksumBits_xor {count : Nat} {word : BitVec 32} (short : word <<< count = 0)
    (register : BitVec 32) :
    checksumBits count (register ^^^ word) =
      ((List.range count).map word.getMsbD).foldl takeBit register := by
  induction count generalizing register word with
  | zero =>
    rw [BitVec.shiftLeft_zero] at short
    rw [short]
    exact BitVec.xor_zero
  | succ count ih =>
    have rest : word <<< 1 <<< count = 0 := by
      rw [← BitVec.shiftLeft_add, Nat.add_comm]
      exact short
    have moved : (word <<< 1).getMsbD = word.getMsbD ∘ Nat.succ := by
      funext i
      exact BitVec.getMsbD_shiftLeft word 1
    rw [checksumBits, checksumBit_xor, ih rest, moved, ← List.map_map, List.range_succ_eq_map,
      List.map_cons, List.foldl_cons]
    rfl

theorem checksumByte_eq_foldl (register : BitVec 32) (b : UInt8) :
    checksumByte register b = (bitsOfByte b).foldl takeBit register := by
  have short : b.toBitVec.setWidth 32 <<< 24 <<< 8 = 0 := by
    rw [← BitVec.shiftLeft_add]
    exact BitVec.shiftLeft_eq_zero (by decide)
  have bits : (List.range 8).map (b.toBitVec.setWidth 32 <<< 24).getMsbD = bitsOfByte b := by
    have top (i : Nat) (inside : i < 8) :
        (b.toBitVec.setWidth 32 <<< 24).getMsbD i = b.toNat.testBit (7 - i) := by
      have whole := getLsbD_topOctet b.toNat (31 - i)
      rw [UInt8.ofNat_toNat, decide_eq_true (by omega : 24 ≤ 31 - i ∧ 31 - i < 32), Bool.true_and,
        show 31 - i - 24 = 7 - i by omega] at whole
      rw [BitVec.getMsbD_eq_getLsbD, decide_eq_true (by omega : i < 32), Bool.true_and]
      exact whole
    refine (List.map_congr_left fun i among => top i (List.mem_range.mp among)).trans ?_
    rfl
  rw [checksumByte, checksumBits_xor short, bits]

theorem checksum_eq_foldl_bits (octets : Bytes) :
    checksum octets = (bitsOf octets).foldl takeBit (BitVec.allOnes 32) := by
  have bytes : checksumByte = fun register b => (bitsOfByte b).foldl takeBit register := by
    funext register b
    exact checksumByte_eq_foldl register b
  rw [checksum, bitsOf, List.foldl_flatMap, bytes]

/-! ## Registers that agree -/

def AgreeBelow (count : Nat) (register register' : BitVec 32) : Prop :=
  ∀ i < count, register.getLsbD i = register'.getLsbD i

theorem AgreeBelow.of_eq {count : Nat} {register register' : BitVec 32}
    (same : register = register') : AgreeBelow count register register' :=
  fun i _ => congrArg (·.getLsbD i) same

theorem AgreeBelow.eq {register register' : BitVec 32} (h : AgreeBelow 32 register register') :
    register = register' :=
  BitVec.eq_of_getLsbD_eq h

theorem getLsbD_takeBit_zero (register : BitVec 32) (bit : Bool) :
    (takeBit register bit).getLsbD 0 = (register.msb ^^ bit) := by
  unfold takeBit
  split
  next taken =>
    rw [BitVec.getLsbD_xor, BitVec.getLsbD_shiftLeft, taken]
    rfl
  next left =>
    rw [BitVec.getLsbD_shiftLeft, Bool.eq_false_iff.mpr left]
    rfl

theorem getLsbD_takeBit_succ (register : BitVec 32) (bit : Bool) {i : Nat} (inside : i + 1 < 32) :
    (takeBit register bit).getLsbD (i + 1) =
      (register.getLsbD i ^^ ((register.msb ^^ bit) && polynomial.getLsbD (i + 1))) := by
  have moved : (register <<< 1).getLsbD (i + 1) = register.getLsbD i := by
    rw [BitVec.getLsbD_shiftLeft]
    simp [inside]
  unfold takeBit
  split
  next taken => rw [BitVec.getLsbD_xor, moved, taken, Bool.true_and]
  next left => rw [moved, Bool.eq_false_iff.mpr left, Bool.false_and, Bool.xor_false]

/-- What two registers agree in after a bit says what they agreed in before it: the lowest place
tells whether the polynomial came in, and the others have moved up by one. -/
theorem AgreeBelow.of_takeBit {count : Nat} {register register' : BitVec 32} {bit bit' : Bool}
    (bound : count < 32)
    (h : AgreeBelow (count + 1) (takeBit register bit) (takeBit register' bit')) :
    AgreeBelow count register register' ∧ (register.msb ^^ bit) = (register'.msb ^^ bit') := by
  have lowest := h 0 (Nat.succ_pos count)
  rw [getLsbD_takeBit_zero, getLsbD_takeBit_zero] at lowest
  refine ⟨fun i below => ?_, lowest⟩
  have next := h (i + 1) (Nat.succ_lt_succ below)
  rw [getLsbD_takeBit_succ _ _ (by omega), getLsbD_takeBit_succ _ _ (by omega), lowest] at next
  exact Bool.xor_left_inj.mp next

/-- Going back over some bits, the registers agree in as many places less. -/
theorem AgreeBelow.of_foldl {count : Nat} {register register' : BitVec 32} {bits bits' : List Bool}
    (same : bits'.length = bits.length) (bound : count + bits.length ≤ 32)
    (h : AgreeBelow (count + bits.length) (bits.foldl takeBit register)
      (bits'.foldl takeBit register')) :
    AgreeBelow count register register' := by
  -- over both rows at once, from the first bit on: the bits behind it leave one place more
  induction bits generalizing bits' count register register' with
  | nil =>
    obtain rfl := List.length_eq_zero_iff.mp same
    exact h
  | cons bit rest ih =>
    obtain ⟨bit', rest', rfl⟩ := List.exists_cons_of_length_eq_add_one same
    rw [List.length_cons] at bound h
    have later : AgreeBelow (count + 1) (takeBit register bit) (takeBit register' bit') := by
      refine ih (Nat.succ.inj same) (by omega) ?_
      rw [Nat.add_right_comm]
      exact h
    exact (later.of_takeBit (by omega)).1

/-- A register that took in at most 32 bits tells which ones. -/
theorem eq_of_foldl_takeBit {register : BitVec 32} {bits bits' : List Bool}
    (same : bits'.length = bits.length) (short : bits.length ≤ 32)
    (h : bits.foldl takeBit register = bits'.foldl takeBit register) : bits = bits' := by
  induction bits generalizing bits' register with
  | nil => exact (List.length_eq_zero_iff.mp same).symm
  | cons bit rest ih =>
    obtain ⟨bit', rest', rfl⟩ := List.exists_cons_of_length_eq_add_one same
    rw [List.length_cons] at short
    -- at most 31 bits follow, so the lowest place is still told, which took in this bit
    have later : AgreeBelow 1 (takeBit register bit) (takeBit register bit') :=
      AgreeBelow.of_foldl (Nat.succ.inj same) (by omega) (.of_eq h)
    obtain rfl : bit = bit' := Bool.xor_right_inj.mp (later.of_takeBit (by decide)).2
    rw [ih (Nat.succ.inj same) (by omega) h]

/-- Registers that become the same by bits that both take in were the same. -/
theorem foldl_takeBit_injective (bits : List Bool) :
    Function.Injective fun register => bits.foldl takeBit register := by
  induction bits with
  | nil => exact fun _ _ same => same
  | cons bit rest ih =>
    intro register register' same
    have step : takeBit register bit = takeBit register' bit := ih same
    have agree : AgreeBelow (31 + 1) (takeBit register bit) (takeBit register' bit) := .of_eq step
    obtain ⟨low, top⟩ := agree.of_takeBit (by decide)
    refine AgreeBelow.eq fun i inside => ?_
    rcases Nat.lt_succ_iff_lt_or_eq.mp inside with below | rfl
    · exact low i below
    · have tops := Bool.xor_left_inj.mp top
      rwa [BitVec.msb_eq_getLsbD_last, BitVec.msb_eq_getLsbD_last] at tops

/-! ## Bursts -/

/-- The octets were received as they were sent but for one burst: `width` bits in a row at most, of
which some arrived wrong. -/
def DiffersInBurst (width : Nat) (sent received : Bytes) : Prop :=
  ∃ front burst burst' back, bitsOf sent = front ++ burst ++ back ∧
    bitsOf received = front ++ burst' ++ back ∧ burst'.length = burst.length ∧
    burst.length ≤ width ∧ burst ≠ burst'

theorem checksum_ne_of_burst {sent received : Bytes} (h : DiffersInBurst 32 sent received) :
    checksum received ≠ checksum sent := by
  obtain ⟨front, burst, burst', back, whole, whole', same, short, wrong⟩ := h
  intro unnoticed
  rw [checksum_eq_foldl_bits, checksum_eq_foldl_bits, whole, whole'] at unnoticed
  simp only [List.foldl_append] at unnoticed
  have behind := foldl_takeBit_injective back unnoticed
  exact wrong (eq_of_foldl_takeBit same short behind.symm)

/-- A receiver that looks for the checksum zero accepts the octets as they were sent, and refuses
them with a burst of at most 32 bits. -/
structure IsGuarded (sent : Bytes) : Prop where
  accepted : checksum sent = 0
  refused : ∀ received, DiffersInBurst 32 sent received → checksum received ≠ 0

/-- Octets with their checksum behind them are guarded, and each table is made like that. -/
theorem checksum_notices_bursts :
    (∀ octets : Bytes, IsGuarded (octets ++ Bytes.bigEndian 4 (checksum octets).toNat)) ∧
      ∀ number content, IsGuarded (table number content) := by
  have guarded (octets : Bytes) :
      IsGuarded (octets ++ Bytes.bigEndian 4 (checksum octets).toNat) := by
    have accepted := checksum_append_self octets
    refine ⟨accepted, fun received burst unnoticed => ?_⟩
    exact checksum_ne_of_burst burst (unnoticed.trans accepted.symm)
  exact ⟨guarded, fun number content => guarded _⟩

/-- The association table with 32 bits in a row turned over, of which the first is the last one of
an octet. -/
def garbledTable : Bytes :=
  associationTable.zipWith (· ^^^ ·) ([0, 0, 1, 0xFF, 0xFF, 0xFF, 0xFE] ++ Bytes.zeros 9)

theorem checksum_notices_garbledTable :
    DiffersInBurst 32 associationTable garbledTable ∧ checksum associationTable = 0 ∧
      checksum garbledTable ≠ 0 := by
  have burst : DiffersInBurst 32 associationTable garbledTable := by
    let bits := bitsOf associationTable
    let garbled := bitsOf garbledTable
    refine ⟨bits.take 23, (bits.drop 23).take 32, (garbled.drop 23).take 32, bits.drop 55, ?_⟩
    decide +kernel
  have guarded : IsGuarded associationTable := checksum_notices_bursts.2 _ _
  exact ⟨burst, guarded.accepted, guarded.refused _ burst⟩

end Footage.TransportStream
