import Footage.Word

/-!
# Binary floating-point numbers, exactly

A finite double is a whole number times a power of two. Here it is taken apart into these, and
the double nearest to a fraction is found.
-/

namespace Footage.Decimal

/-- A double: not a number, infinite, or `mantissa * 2 ^ exponent`, each but the first with a
sign. -/
inductive Binary where
  | nan
  | infinite (isNegative : Bool)
  | finite (isNegative : Bool) (mantissa : Nat) (exponent : Int)
deriving DecidableEq, Repr

/-- The exponent of the smallest doubles. -/
def minExponent : Int := -1074

/-- The bit in front of the 52 that a normal double stores of its mantissa. -/
def hiddenBit : Nat := wordLimit 52

/-- The exponent field of infinities and of what is not a number. -/
def topField : Nat := wordLimit 11 - 1

def Binary.ofFloat (x : Float) : Binary :=
  let bits := x.toBits.toNat
  let isNegative := decide (wordLimit 63 ≤ bits)
  let field := (bits >>> 52) % wordLimit 11
  let fraction := bits % hiddenBit
  if field = topField then if fraction = 0 then infinite isNegative else nan
  else if field = 0 then finite isNegative fraction minExponent
  else finite isNegative (hiddenBit + fraction) (minExponent + (field - 1 : Nat))

/-- `n / d` rounded to a whole number, a half to the even neighbour. -/
def roundHalfEven (n d : Nat) : Nat :=
  let q := n / d
  let r := n % d
  if d < 2 * r ∨ (d = 2 * r ∧ q % 2 = 1) then q + 1 else q

/-- `n / d` over `2 ^ e`, as a fraction. -/
def scaleDown (n d : Nat) (e : Int) : Nat × Nat :=
  match e with
  | .ofNat k => (n, d <<< k)
  | .negSucc k => (n <<< (k + 1), d)

/-- The bits of the double nearest to `n / d`, a tie going to the even mantissa; infinity's from
half a step above the largest double on. `d` is not zero. -/
def nearestBits (n d : Nat) : Nat :=
  if n = 0 then 0
  else
    let guess : Int := max ((Nat.log2 n : Int) - Nat.log2 d - 53) minExponent
    let whole (e : Int) : Nat := let (a, b) := scaleDown n d e; a / b
    let exponent := if 2 * hiddenBit ≤ whole guess then guess + 1 else guess
    let (a, b) := scaleDown n d exponent
    let mantissa := roundHalfEven a b
    let bits := (exponent - minExponent).toNat * hiddenBit + mantissa
    min bits (topField * hiddenBit)

/-- The double nearest to `n / d`. -/
def nearest (n d : Nat) : Float := Float.ofBits (UInt64.ofNat (nearestBits n d))

def ofNat (n : Nat) : Float := nearest n 1

def powerOfTen (power : Nat) : Float := ofNat (Nat.pow 10 power)

end Footage.Decimal
