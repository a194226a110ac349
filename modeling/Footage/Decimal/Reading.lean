import Footage.Decimal.Binary
import Footage.Decimal.Whole

/-!
# Reading a decimal

A text such as `25`, `-.5`, `2.5e-3` or `inf` as the nearest double.
-/

namespace Footage.Decimal

/-- The double nearest to `digits * 10 ^ exponent`. Far outside the range of doubles the power is
not worked out. -/
def nearestScaled (digits : Nat) (exponent : Int) : Float :=
  let magnitude : Int := (Nat.toDigits 10 digits).length + exponent
  if digits = 0 ∨ magnitude < -330 then 0
  else if 330 < magnitude then 1 / 0
  else
    match exponent with
    | .ofNat k => nearest (digits * Nat.pow 10 k) 1
    | .negSucc k => nearest digits (Nat.pow 10 (k + 1))

/-- A sign, if there is one, and what follows it. -/
def splitSign : List Char → Bool × List Char
  | '+' :: rest => (false, rest)
  | '-' :: rest => (true, rest)
  | text => (false, text)

/-- An exponent, from the letter on. No text stands for zero. -/
def exponent? : List Char → Option Int
  | [] => some 0
  | letter :: rest =>
    let (isNegative, digits) := splitSign rest
    if (letter = 'e' ∨ letter = 'E') ∧ !digits.isEmpty ∧ digits.all Char.isDigit then
      let n : Int := digitsValue digits
      some (if isNegative then -n else n)
    else none

/-- A decimal without sign: digits, perhaps with a point among, before or behind them, and perhaps
an exponent. -/
def unsigned? (text : List Char) : Option Float :=
  let whole := text.takeWhile Char.isDigit
  let rest := text.dropWhile Char.isDigit
  let (fraction, rest) := match rest with
    | '.' :: rest => (rest.takeWhile Char.isDigit, rest.dropWhile Char.isDigit)
    | _ => ([], rest)
  if whole.isEmpty && fraction.isEmpty then none
  else (exponent? rest).map fun exponent =>
    nearestScaled (digitsValue (whole ++ fraction)) (exponent - fraction.length)

/-- A decimal, an infinity or not a number; the names are read in any case. -/
def parse? (text : String) : Option Float :=
  let (isNegative, rest) := splitSign text.toList
  let magnitude := match String.ofList (rest.map Char.toLower) with
    | "inf" | "infinity" => some (1 / 0)
    | "nan" => some (0 / 0)
    | _ => unsigned? rest
  magnitude.map fun x => if isNegative then -x else x

end Footage.Decimal
