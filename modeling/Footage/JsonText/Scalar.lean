import Footage.Decimal.Reading
import Footage.Decimal.Shortest
import Footage.JsonText.Cursor

/-!
# Words, strings and numbers of a JSON text
-/

namespace Footage.JsonText

open Reading

/-- The rest of a word such as `true`. -/
def word : List Char → Reading Unit
  | [] => return
  | letter :: rest => do
    match ← next with
    | none => refuse .endInValue
    | some c => if c = letter then word rest else refuse .expectedWord

/-! ## Strings -/

def textOf (octets : Bytes) : String := (String.fromUTF8? ⟨octets.toArray⟩).getD ""

def hexValue? (c : Char) : Option Nat :=
  if c.isDigit then some (c.toNat - '0'.toNat)
  else if 'a' ≤ c ∧ c ≤ 'f' then some (c.toNat - 'a'.toNat + 10)
  else if 'A' ≤ c ∧ c ≤ 'F' then some (c.toNat - 'A'.toNat + 10)
  else none

def hexUnit : Reading Nat := do
  let digits := ((← get).rest.take 4).map Cursor.character
  modify (·.advanceBy digits.length)
  if digits.length < 4 then refuse .endInString
  match digits.mapM hexValue? with
  | some values => return values.foldl (fun n d => 16 * n + d) 0
  | none => refuse .invalidEscape

/-- A character that must come inside an escape. -/
def expectInEscape (c : Char) : Reading Unit := do
  match ← peek with
  | none => refuse .endInString
  | some found =>
    advance
    if found ≠ c then refuse .unfinishedSurrogatePair

/-- The character of an escape with hexadecimal digits. Characters outside the basic plane take
two of them. -/
def hexCharacter : Reading Bytes := do
  let utf8 (n : Nat) : Bytes := (String.singleton (Char.ofNat n)).toUTF8.toList
  let high ← hexUnit
  if 0xDC00 ≤ high ∧ high ≤ 0xDFFF then refuse .loneSurrogate
  else if high < 0xD800 ∨ 0xDBFF < high then return utf8 high
  else
    expectInEscape '\\'
    expectInEscape 'u'
    let low ← hexUnit
    if low < 0xDC00 ∨ 0xDFFF < low then refuse .loneSurrogate
    return utf8 (0x10000 + (high - 0xD800) * 0x400 + (low - 0xDC00))

/-- What a letter behind a backslash stands for. -/
def escapedOctet? : Char → Option UInt8
  | '"' => some 0x22
  | '\\' => some 0x5C
  | '/' => some 0x2F
  | 'b' => some 0x08
  | 'f' => some 0x0C
  | 'n' => some 0x0A
  | 'r' => some 0x0D
  | 't' => some 0x09
  | _ => none

/-- The rest of an escape, from behind the backslash on. -/
def escape : Reading Bytes := do
  match ← next with
  | none => refuse .endInString
  | some 'u' => hexCharacter
  | some c =>
    match escapedOctet? c with
    | some octet => return [octet]
    | none => refuse .invalidEscape

def isControl (c : Char) : Bool := c.toNat < 0x20

/-- A string's octets, at most `limit` parts of it. -/
def stringWithin : (limit : Nat) → Reading Bytes
  | 0 => refuse .endInString
  | limit + 1 => do
    match ← next with
    | none => refuse .endInString
    | some '"' => return []
    | some '\\' =>
      let octets ← escape
      return octets ++ (← stringWithin limit)
    | some c =>
      if isControl c then refuse .controlCharacter
      return UInt8.ofNat c.toNat :: (← stringWithin limit)

/-- The rest of a string, from behind its first quote on. -/
def string : Reading String := do return textOf (← stringWithin ((← left) + 1))

/-! ## Numbers -/

/-- A number. One with a point or an exponent is not whole, and neither is one that does not fit
in 64 bits, or zero with a minus sign. -/
inductive Number where
  | natural (n : Nat)
  /-- The number `-n`. -/
  | negative (n : Nat)
  | real (x : Float)

namespace Number

def ofWhole (isNegative : Bool) (n : Nat) : Number :=
  if !isNegative then natural n
  else if n = 0 ∨ wordLimit 63 < n then real (-Decimal.ofNat n)
  else negative n

def toFloat : Number → Float
  | natural n => Decimal.ofNat n
  | negative n => -Decimal.ofNat n
  | real x => x

def text : Number → String
  | natural n => s!"integer `{n}`"
  | negative n => s!"integer `-{n}`"
  | real x => s!"floating point `{Decimal.pointedText x}`"

end Number

/-- Takes digits into a number as long as it stays below the limit. The answer is the number and
the digits left over. -/
def absorb (limit : Nat) : (value : Nat) → List Char → Nat × List Char
  | value, [] => (value, [])
  | value, d :: rest =>
    let more := 10 * value + Decimal.digitValue d
    if more < limit then absorb limit more rest else (value, d :: rest)

/-- Takes digits into a significand of 64 bits. -/
def absorbSignificand (value : Nat) (digits : List Char) : Nat × List Char :=
  absorb (wordLimit 64) value digits

/-- The powers of ten that are doubles. -/
def maxPower : Nat := 308

/-- `x / 10 ^ power`, in steps of powers that are doubles. -/
def divideByPower (x : Float) (power : Nat) : Float :=
  if power ≤ maxPower then x / Decimal.powerOfTen power
  else if x == 0 then x
  else divideByPower (x / Decimal.powerOfTen maxPower) (power - maxPower)
termination_by power
decreasing_by simp only [maxPower] at *; omega

/-- `significand * 10 ^ exponent` by one rounded multiplication or division, if it is finite. -/
def scaled? (significand : Nat) (exponent : Int) : Option Float :=
  let x := Decimal.ofNat significand
  match exponent with
  | .ofNat power =>
    if power ≤ maxPower then
      let y := x * Decimal.powerOfTen power
      if y.isInf then none else some y
    else if x == 0 then some x
    else none
  | .negSucc power => some (divideByPower x (power + 1))

def real (isNegative : Bool) (significand : Nat) (exponent : Int) : Reading Number := do
  match scaled? significand exponent with
  | some x => return .real (if isNegative then -x else x)
  | none => refuse .numberOutOfRange

/-- An exponent, from its letter on. One of more than 31 bits gives zero or is out of range. -/
def withExponent (isNegative : Bool) (significand : Nat) (exponent : Int) : Reading Number := do
  advance
  let sign ← peek
  if sign = some '+' ∨ sign = some '-' then advance
  match ← next with
  | none => refuse .endInValue
  | some first =>
    if !first.isDigit then refuse .invalidNumber
    let digits := (← get).run Char.isDigit
    let (value, rest) := absorb (wordLimit 31) (Decimal.digitValue first) digits
    if rest.isEmpty then
      modify (·.advanceBy digits.length)
      let power : Int := if sign = some '-' then -(value : Int) else value
      real isNegative significand (exponent + power)
    else if significand ≠ 0 ∧ sign ≠ some '-' then
      modify (·.advanceBy (digits.length - rest.length + 1))
      refuse .numberOutOfRange
    else
      modify (·.advanceBy digits.length)
      real isNegative 0 0

def isExponentLetter (c : Option Char) : Bool := c = some 'e' || c = some 'E'

/-- The digits behind a point, from the point on. Those that do not fit in the significand are
ignored. -/
def withFraction (isNegative : Bool) (significand : Nat) (exponent : Int) : Reading Number := do
  advance
  let digits ← takeRun Char.isDigit
  let (significand, rest) := absorbSignificand significand digits
  let exponent := exponent - (digits.length - rest.length : Nat)
  let after ← peek
  if digits.isEmpty then refuseAhead (if after.isNone then .endInValue else .invalidNumber)
  if isExponentLetter after then withExponent isNegative significand exponent
  else real isNegative significand exponent

/-- A number, from behind its sign on. -/
def number (isNegative : Bool) : Reading Number := do
  match ← peek with
  | none => refuse .endInValue
  | some first =>
    if !first.isDigit then
      advance
      refuse .invalidNumber
    if first = '0' then
      advance
      if ((← peek).map Char.isDigit).getD false then refuseAhead .invalidNumber
    let digits ← takeRun Char.isDigit
    let (significand, rest) := absorbSignificand 0 digits
    let after ← peek
    if after = some '.' then withFraction isNegative significand rest.length
    else if isExponentLetter after then withExponent isNegative significand rest.length
    else if rest.isEmpty then return .ofWhole isNegative significand
    else real isNegative significand rest.length

end Footage.JsonText
