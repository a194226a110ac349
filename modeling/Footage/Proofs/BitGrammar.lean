import Footage.BitReader
import Mathlib.Data.List.Forall2

/-!
# What bit readers take

A reader is specified by the codes that it takes: strings of bits, each with the value that it
stands for. Readers that are put together take codes that are put together in the same way, so a
grammar is read off a reader step by step.

* `Reads`: a reader takes just the codes of a grammar, whatever follows them, and can only fail in
  ways that are listed.
* `Reads.bind`, `Reads.onlyUnless`, `Reads.skipIf`: readers one after another.
* `reads_bit`, `reads_unsigned`, `reads_skip`: the readers that all others are made of.
-/

namespace Footage

namespace BitReader

variable {ε α β : Type} {Fault : ε → Prop}

/-- The reader takes just the codes of `Code` from the front of its input, each for the value that
it stands for, and leaves what follows. What it fails with is a `Fault`. -/
structure Reads (reader : BitReader ε α) (Fault : ε → Prop) (Code : α → List Bool → Prop) :
    Prop where
  takes : ∀ input a rest, reader input = .ok (a, rest) ↔ ∃ code, Code a code ∧ input = code ++ rest
  refuses : ∀ input error, reader input = .error error → Fault error

namespace Reads

theorem congr {reader : BitReader ε α} {Code Code' : α → List Bool → Prop}
    (reads : Reads reader Fault Code) (same : ∀ a code, Code a code ↔ Code' a code) :
    Reads reader Fault Code' := by
  refine ⟨fun input a rest => ?_, reads.refuses⟩
  rw [reads.takes]
  exact exists_congr fun code => and_congr_left fun _ => same a code

theorem pure (a : α) : Reads (pure a : BitReader ε α) Fault fun b code => b = a ∧ code = [] := by
  refine ⟨fun input b rest => ⟨?_, ?_⟩, fun input error failed => by cases failed⟩
  · intro done
    cases done
    exact ⟨[], ⟨rfl, rfl⟩, rfl⟩
  · rintro ⟨_, ⟨rfl, rfl⟩, rfl⟩
    rfl

/-- Two readers take two codes one behind the other. -/
theorem bind {first : BitReader ε α} {next : α → BitReader ε β} {First : α → List Bool → Prop}
    {Next : α → β → List Bool → Prop} (reads : Reads first Fault First)
    (later : ∀ a code, First a code → Reads (next a) Fault (Next a)) :
    Reads (first >>= next) Fault fun b code =>
      ∃ a front back, First a front ∧ Next a b back ∧ code = front ++ back := by
  have step : ∀ input, (first >>= next) input =
      match first input with
      | .ok (a, rest) => next a rest
      | .error error => .error error := by
    intro input
    show (first input >>= fun done : α × List Bool => next done.1 done.2) = _
    rcases first input with _ | ⟨a, rest⟩ <;> rfl
  constructor
  · intro input b rest
    rw [step]
    constructor
    · intro done
      split at done
      next a middle taken =>
        obtain ⟨front, isFirst, rfl⟩ := (reads.takes _ _ _).mp taken
        obtain ⟨back, isNext, rfl⟩ := ((later a front isFirst).takes _ _ _).mp done
        exact ⟨front ++ back, ⟨a, front, back, isFirst, isNext, rfl⟩,
          (List.append_assoc ..).symm⟩
      next => cases done
    · rintro ⟨_, ⟨a, front, back, isFirst, isNext, rfl⟩, rfl⟩
      have taken := (reads.takes (front ++ back ++ rest) a (back ++ rest)).mpr
        ⟨front, isFirst, List.append_assoc ..⟩
      rw [taken]
      exact ((later a front isFirst).takes _ _ _).mpr ⟨back, isNext, rfl⟩
  · intro input error failed
    rw [step] at failed
    split at failed
    next a middle taken =>
      obtain ⟨front, isFirst, -⟩ := (reads.takes _ _ _).mp taken
      exact (later a front isFirst).refuses middle error failed
    next fault refused =>
      cases failed
      exact reads.refuses input _ refused

theorem map {reader : BitReader ε α} {Code : α → List Bool → Prop}
    (reads : Reads reader Fault Code) (f : α → β) :
    Reads (f <$> reader) Fault fun b code => ∃ a, Code a code ∧ b = f a := by
  rw [map_eq_pure_bind]
  refine (reads.bind fun a _ _ => pure (f a)).congr fun b code => ?_
  constructor
  · rintro ⟨a, front, _, isCode, ⟨rfl, rfl⟩, rfl⟩
    exact ⟨a, by rwa [List.append_nil], rfl⟩
  · rintro ⟨a, isCode, rfl⟩
    exact ⟨a, code, [], isCode, ⟨rfl, rfl⟩, (List.append_nil _).symm⟩

/-- A value that is not allowed takes no code. -/
theorem onlyUnless (bad : Prop) [Decidable bad] {error : ε} (fault : bad → Fault error)
    (next : Unit → BitReader ε α) {Code : α → List Bool → Prop}
    (reads : ¬bad → Reads (next ()) Fault Code) :
    Reads (if bad then fail error >>= next else next ()) Fault fun a code =>
      ¬bad ∧ Code a code := by
  by_cases refused : bad
  · rw [if_pos refused]
    refine ⟨fun input a rest => ⟨fun done => ?_, ?_⟩, ?_⟩
    · cases done
    · rintro ⟨_, ⟨allowed, -⟩, -⟩
      exact absurd refused allowed
    · intro input other failed
      cases failed
      exact fault refused
  · rw [if_neg refused]
    exact (reads refused).congr fun a code => (and_iff_right refused).symm

theorem ite (condition : Prop) [Decidable condition] {first second : BitReader ε α}
    {First Second : α → List Bool → Prop} (one : Reads first Fault First)
    (other : Reads second Fault Second) :
    Reads (if condition then first else second) Fault fun a code =>
      if condition then First a code else Second a code := by
  by_cases holds : condition
  · simpa only [if_pos holds] using one
  · simpa only [if_neg holds] using other

/-- What is passed over only under a condition takes bits only then. -/
theorem skipIf (condition : Prop) [Decidable condition] {first : BitReader ε Unit} {count : Nat}
    (skips : Reads first Fault fun _ code => code.length = count) (next : Unit → BitReader ε α)
    {Code : α → List Bool → Prop} (reads : Reads (next ()) Fault Code) :
    Reads (if condition then first >>= next else next ()) Fault fun a code =>
      ∃ front back, front.length = (if condition then count else 0) ∧ Code a back ∧
        code = front ++ back := by
  by_cases holds : condition
  · rw [if_pos holds, if_pos holds]
    refine (skips.bind fun _ _ _ => reads).congr fun a code => ?_
    constructor
    · rintro ⟨_, front, back, passed, taken, rfl⟩
      exact ⟨front, back, passed, taken, rfl⟩
    · rintro ⟨front, back, passed, taken, rfl⟩
      exact ⟨(), front, back, passed, taken, rfl⟩
  · rw [if_neg holds, if_neg holds]
    refine reads.congr fun a code => ⟨fun taken => ⟨[], code, rfl, taken, rfl⟩, ?_⟩
    rintro ⟨front, back, none, taken, rfl⟩
    rwa [List.eq_nil_of_length_eq_zero none, List.nil_append]

/-- The same with nothing behind it. -/
theorem skipOnlyIf {condition : Prop} [Decidable condition] {reader : BitReader ε Unit}
    {count : Nat}
    (skips : Reads reader Fault fun _ code => code.length = count) :
    Reads (if condition then reader else Pure.pure ()) Fault fun _ code =>
      code.length = if condition then count else 0 := by
  by_cases holds : condition
  · rw [if_pos holds, if_pos holds]
    exact skips
  · rw [if_neg holds, if_neg holds]
    refine (pure ()).congr fun _ code => ?_
    rw [List.length_eq_zero_iff]
    exact and_iff_right rfl

end Reads

/-- Two codes of which only the lengths matter are one such code. -/
theorem exists_lengths_iff {code : List Bool} {count more : Nat} :
    (∃ front back, front.length = count ∧ back.length = more ∧ code = front ++ back) ↔
      code.length = count + more := by
  constructor
  · rintro ⟨front, back, rfl, rfl, rfl⟩
    exact List.length_append
  · intro length
    refine ⟨code.take count, code.drop count, ?_, ?_, (List.take_append_drop _ _).symm⟩
    · rw [List.length_take]
      omega
    · rw [List.length_drop]
      omega

/-! ## The readers that all others are made of -/

theorem reads_bit {onEnd : ε} (fault : Fault onEnd) :
    Reads (bit onEnd) Fault fun b code => code = [b] := by
  constructor
  · intro input b rest
    constructor
    · intro done
      cases input with
      | nil => cases done
      | cons _ _ =>
        cases done
        exact ⟨[b], rfl, rfl⟩
    · rintro ⟨_, rfl, rfl⟩
      rfl
  · intro input error failed
    cases input with
    | nil =>
      cases failed
      exact fault
    | cons _ _ => cases failed

theorem reads_bits {onEnd : ε} (fault : Fault onEnd) (count : Nat) :
    Reads (bits onEnd count) Fault fun taken code => code = taken ∧ code.length = count := by
  constructor
  · intro input taken rest
    unfold bits
    constructor
    · intro done
      split at done
      next => cases done
      next enough =>
        rw [List.splitAt_eq] at done
        cases done
        exact ⟨_, ⟨rfl, List.length_take_of_le (Nat.le_of_not_lt enough)⟩,
          (List.take_append_drop _ _).symm⟩
    · rintro ⟨code, ⟨rfl, rfl⟩, rfl⟩
      rw [if_neg (by simp), List.splitAt_eq, List.take_left, List.drop_left]
  · intro input error failed
    unfold bits at failed
    split at failed
    next =>
      cases failed
      exact fault
    next => cases failed

theorem reads_unsigned {onEnd : ε} (fault : Fault onEnd) (count : Nat) :
    Reads (unsigned onEnd count) Fault fun value code =>
      code.length = count ∧ value = natOfBits code := by
  refine ((reads_bits fault count).map natOfBits).congr fun value code => ?_
  constructor
  · rintro ⟨taken, ⟨rfl, length⟩, rfl⟩
    exact ⟨length, rfl⟩
  · rintro ⟨length, rfl⟩
    exact ⟨code, ⟨rfl, length⟩, rfl⟩

theorem reads_skip {onEnd : ε} (fault : Fault onEnd) (count : Nat) :
    Reads (skip onEnd count) Fault fun _ code => code.length = count := by
  refine ((reads_bits fault count).map fun _ => ()).congr fun _ code => ?_
  constructor
  · rintro ⟨_, ⟨-, length⟩, -⟩
    exact length
  · exact fun length => ⟨code, ⟨rfl, length⟩, rfl⟩

/-- A step for each index, in order. -/
theorem reads_mapM_range {step : BitReader ε α} {Code : α → List Bool → Prop}
    (reads : Reads step Fault Code) (count : Nat) :
    Reads ((List.range count).mapM fun _ => step) Fault fun values code =>
      values.length = count ∧ ∃ codes, List.Forall₂ Code values codes ∧ code = codes.flatten := by
  generalize indices : List.range count = list
  obtain rfl : list.length = count := by rw [← indices, List.length_range]
  clear indices
  induction list with
  | nil =>
    rw [List.mapM_nil]
    refine (Reads.pure []).congr fun values code => ?_
    constructor
    · rintro ⟨rfl, rfl⟩
      exact ⟨rfl, [], .nil, rfl⟩
    · rintro ⟨none, codes, each, rfl⟩
      obtain rfl := List.eq_nil_of_length_eq_zero none
      cases each
      exact ⟨rfl, rfl⟩
  | cons index list ih =>
    rw [List.mapM_cons]
    refine (reads.bind fun first _ _ => ih.bind fun others _ _ =>
      Reads.pure (first :: others)).congr fun values code => ?_
    constructor
    · rintro ⟨first, front, _, isFirst,
        ⟨others, _, _, ⟨count, codes, each, rfl⟩, ⟨rfl, rfl⟩, rfl⟩, rfl⟩
      exact ⟨congrArg (· + 1) count, front :: codes, .cons isFirst each, by simp⟩
    · rintro ⟨count, codes, each, rfl⟩
      cases each with
      | nil => cases count
      | @cons first front others codes isFirst each =>
        exact ⟨first, front, codes.flatten, isFirst,
          ⟨others, codes.flatten, [], ⟨Nat.succ.inj count, codes, each, rfl⟩, ⟨rfl, rfl⟩,
            (List.append_nil _).symm⟩, rfl⟩

end BitReader

theorem length_bitsOf (octets : Bytes) : (bitsOf octets).length = 8 * octets.length := by
  induction octets with
  | nil => rfl
  | cons b rest ih =>
    have : (bitsOf (b :: rest)).length = 8 + (bitsOf rest).length := by
      simp [bitsOf, bitsOfByte, List.flatMap_cons]
      omega
    rw [this, ih, List.length_cons]
    omega

/-- A number of some bits stays below what a word of that width can hold. -/
theorem natOfBits_lt (code : List Bool) : natOfBits code < wordLimit code.length := by
  have pushed : ∀ n,
      code.foldl (fun n b => 2 * n + b.toNat) n < (n + 1) * wordLimit code.length := by
    induction code with
    | nil => intro n; simp [wordLimit]
    | cons b rest ih =>
      intro n
      have twice : wordLimit (b :: rest).length = 2 * wordLimit rest.length := by
        simp [wordLimit, Nat.pow_succ, Nat.mul_comm]
      have bit : b.toNat ≤ 1 := Bool.toNat_le b
      rw [List.foldl_cons, twice]
      refine Nat.lt_of_lt_of_le (ih _) ?_
      rw [← Nat.mul_assoc]
      exact Nat.mul_le_mul_right _ (by omega)
  simpa [natOfBits] using pushed 0

end Footage
