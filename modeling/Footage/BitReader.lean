import Footage.Bytes
import Footage.Word

/-!
# Reading bits

Parameter sets are read bit by bit, most significant bit first. A reader takes bits from the
front and fails with a value of the error type `ε`.
-/

namespace Footage

/-- The bits of an octet, most significant first. -/
def bitsOfByte (b : UInt8) : List Bool :=
  [7, 6, 5, 4, 3, 2, 1, 0].map b.toNat.testBit

def bitsOf (bs : Bytes) : List Bool := bs.flatMap bitsOfByte

/-- The number whose binary digits are `bits`, most significant first. -/
def natOfBits (bits : List Bool) : Nat := bits.foldl (fun n b => 2 * n + b.toNat) 0

/-- A step that takes bits from the front. -/
abbrev BitReader (ε : Type) := StateT (List Bool) (Except ε)

namespace BitReader

variable {ε : Type}

def fail {α : Type} (error : ε) : BitReader ε α := fun _ => .error error

def bit (onEnd : ε) : BitReader ε Bool
  | [] => .error onEnd
  | b :: rest => .ok (b, rest)

def bits (onEnd : ε) (count : Nat) : BitReader ε (List Bool) := fun input =>
  if input.length < count then .error onEnd else .ok (input.splitAt count)

def unsigned (onEnd : ε) (count : Nat) : BitReader ε Nat :=
  natOfBits <$> bits onEnd count

def skip (onEnd : ε) (count : Nat) : BitReader ε Unit := discard (bits onEnd count)

def onlyIf {α : Type} (condition : Bool) (step : BitReader ε α) : BitReader ε (Option α) :=
  if condition then some <$> step else return none

/-- Runs `step` for each index below `count`, in order. -/
def repeated {α : Type} (count : Nat) (step : BitReader ε α) : BitReader ε Unit :=
  (List.range count).forM fun _ => discard step

end BitReader

/-- The value of an Exp-Golomb code with `zeros` leading zeros and the given suffix. -/
def expGolomb (zeros suffix : Nat) : Nat := wordLimit zeros - 1 + suffix

/-- The signed reading of an Exp-Golomb value: 0, 1, -1, 2, -2 and so on. -/
def signedGolomb (value : Nat) : Int :=
  if value % 2 = 1 then ((value / 2 + 1 : Nat) : Int) else -((value / 2 : Nat) : Int)

end Footage
