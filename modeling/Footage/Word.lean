/-!
# Words of fixed width
-/

namespace Footage

/-- What words of `bits` bits stay below. -/
def wordLimit (bits : Nat) : Nat := Nat.pow 2 bits

/-- Numbers that a word of `bits` bits can hold. -/
abbrev FitsIn (bits n : Nat) : Prop := n < wordLimit bits

/-- Arithmetic left the range of a word of 64 bits, or a size is more than memory can have. -/
inductive Overflow where
  | addition
  | subtraction
  | multiplication
  /-- No block of memory can be that large. -/
  | capacity
  /-- No channel can count its places up to there. -/
  | channelCapacity
deriving DecidableEq, Repr

def Overflow.message : Overflow → String
  | addition => "attempt to add with overflow"
  | subtraction => "attempt to subtract with overflow"
  | multiplication => "attempt to multiply with overflow"
  | capacity => "capacity overflow"
  | channelCapacity => "bounded channel capacity is too large"

/-- A result that a word of 64 bits has to hold. -/
def inWord (cause : Overflow) (n : Nat) : Except Overflow Nat :=
  if FitsIn 64 n then .ok n else .error cause

/-- A difference that a word without sign has to hold. -/
def wordMinus (a b : Nat) : Except Overflow Nat :=
  if b ≤ a then .ok (a - b) else .error .subtraction

def total : List Nat → Nat
  | [] => 0
  | size :: rest => size + total rest

theorem total_append (front back : List Nat) :
    total (front ++ back) = total front + total back := by
  induction front with
  | nil => simp [total]
  | cons size rest ih =>
    simp only [List.cons_append, total, ih]
    omega

end Footage
