import Footage.Word

/-!
# Whole numbers in decimal digits
-/

namespace Footage.Decimal

def digitValue (c : Char) : Nat := c.toNat - '0'.toNat

def digitsValue (digits : List Char) : Nat := digits.foldl (fun n c => 10 * n + digitValue c) 0

/-- The number that a text denotes, if it fits in 64 bits. A plus sign in front is allowed. -/
def whole? (text : List Char) : Option Nat :=
  let digits := match text with
    | '+' :: rest => rest
    | _ => text
  if digits.isEmpty || digits.any (!·.isDigit) then none
  else if FitsIn 64 (digitsValue digits) then some (digitsValue digits)
  else none

end Footage.Decimal
