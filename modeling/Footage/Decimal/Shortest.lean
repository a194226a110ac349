import Footage.Decimal.Binary

/-!
# The shortest decimal of a double

Every double is the nearest one to all reals of an interval around it. Its shortest decimal is the
one in this interval that lies on the coarsest grid of multiples of a power of ten, and of two such
neighbours the nearer one. If both are equally near, the upper or the even one is taken, as the text
asks for.
-/

namespace Footage.Decimal

/-- `digits * 10 ^ exponent`. -/
structure Scaled where
  digits : Nat
  exponent : Int
deriving DecidableEq, Repr

/-- The reals around `mantissa * 2 ^ exponent` that it is the nearest double to, in quarters of
`2 ^ exponent`. -/
structure Interval where
  low : Nat
  value : Nat
  high : Nat
  /-- The ends belong to it. -/
  isClosed : Bool
deriving DecidableEq, Repr

/-- The next smaller double is half as far away as the next larger one if the mantissa is the
smallest of its binade. -/
def Interval.around (mantissa : Nat) (exponent : Int) : Interval where
  low :=
    if mantissa = hiddenBit ∧ minExponent < exponent then 4 * mantissa - 1 else 4 * mantissa - 2
  value := 4 * mantissa
  high := 4 * mantissa + 2
  isClosed := mantissa % 2 = 0

/-- Which of two equally near neighbours is taken. -/
inductive Tie where
  | upward
  | toEven
deriving DecidableEq, Repr

/-- `base ^ exponent` as a fraction. -/
def powerFraction (base : Nat) : (exponent : Int) → Nat × Nat
  | .ofNat k => (Nat.pow base k, 1)
  | .negSucc k => (1, Nat.pow base (k + 1))

/-- The multiple of `10 ^ power` in the interval of `mantissa * 2 ^ exponent`; of two the nearer
one, and the one that `tie` tells if both are equally near. -/
def gridPoint? (tie : Tie) (mantissa : Nat) (exponent power : Int) : Option Nat :=
  let around := Interval.around mantissa exponent
  let (twos, twosBelow) := powerFraction 2 (exponent - 2)
  let (tens, tensBelow) := powerFraction 10 power
  let unit := twos * tensBelow
  let step := tens * twosBelow
  let value := around.value * unit
  let isInside (point : Nat) : Bool :=
    if around.isClosed then around.low * unit ≤ point * step && point * step ≤ around.high * unit
    else around.low * unit < point * step && point * step < around.high * unit
  let below := value / step
  let fromBelow := value - below * step
  let toAbove := (below + 1) * step - value
  let isLower :=
    fromBelow < toAbove || (fromBelow = toAbove && tie = .toEven && below % 2 = 0)
  match isInside below, isInside (below + 1) with
  | true, true => some (if isLower then below else below + 1)
  | true, false => some below
  | false, true => some (below + 1)
  | false, false => none

/-- Tries `count` grids from `10 ^ power` on, each finer than the one before. -/
def coarsestHit (tie : Tie) (mantissa : Nat) (exponent : Int) :
    (count : Nat) → (power : Int) → Scaled
  | 0, power => ⟨0, power⟩
  | count + 1, power =>
    match gridPoint? tie mantissa exponent power with
    | some digits => ⟨digits, power⟩
    | none => coarsestHit tie mantissa exponent count (power - 1)

def topPower : Int := 309

def shortest (tie : Tie) (mantissa : Nat) (exponent : Int) : Scaled :=
  if mantissa = 0 then ⟨0, 0⟩ else coarsestHit tie mantissa exponent 650 topPower

/-! ## Text -/

/-- The decimal without exponent: `1500`, `0.25`, `-0`. -/
def Scaled.plain (s : Scaled) : String :=
  let digits := Nat.toDigits 10 s.digits
  let zeros (n : Nat) : List Char := List.replicate n '0'
  String.ofList <| match s.exponent with
    | .ofNat k => digits ++ zeros k
    | .negSucc k =>
      let padded := zeros (k + 2 - digits.length) ++ digits
      padded.take (padded.length - (k + 1)) ++ '.' :: padded.drop (padded.length - (k + 1))

/-- The decimal with a point in any case, and with a signed exponent if it is very large or small:
`1500.0`, `1e+30`, `1.5e-7`. -/
def Scaled.pointed (s : Scaled) : String :=
  let digits := Nat.toDigits 10 s.digits
  let magnitude : Int := digits.length + s.exponent
  if -5 < magnitude ∧ magnitude ≤ 16 then
    if 0 ≤ s.exponent then s.plain ++ ".0" else s.plain
  else
    let point := if digits.length = 1 then [] else '.' :: digits.drop 1
    let sign := if magnitude < 1 then "" else "+"
    String.ofList (digits.take 1 ++ point) ++ s!"e{sign}{magnitude - 1}"

/-- A double as text, with `finite` for the decimals. -/
def Binary.textWith (tie : Tie) (finite : Scaled → String) : Binary → String
  | nan => "NaN"
  | infinite isNegative => if isNegative then "-inf" else "inf"
  | .finite isNegative mantissa exponent =>
    (if isNegative then "-" else "") ++ finite (shortest tie mantissa exponent)

/-- A double as its shortest decimal without exponent. -/
def plainText (x : Float) : String := (Binary.ofFloat x).textWith .upward Scaled.plain

/-- A double as its shortest decimal that can be told from a whole number. -/
def pointedText (x : Float) : String := (Binary.ofFloat x).textWith .toEven Scaled.pointed

end Footage.Decimal
