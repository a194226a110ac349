import Footage.Bytes

/-!
# Start codes

In a byte stream every NAL unit is announced by `00 00 01`, optionally with one more zero octet
in front.
-/

namespace Footage

/-- The mark in front of a NAL unit. -/
inductive StartCode where
  | none
  /-- `00 00 01` -/
  | short
  /-- `00 00 00 01` -/
  | long
deriving DecidableEq, Repr

namespace StartCode

def bytes : StartCode → Bytes
  | none => []
  | short => [0, 0, 1]
  | long => [0, 0, 0, 1]

def length (code : StartCode) : Nat := code.bytes.length

def detect : Bytes → StartCode
  | 0 :: 0 :: 1 :: _ => short
  | 0 :: 0 :: 0 :: 1 :: _ => long
  | _ => none

/-- The start code of a given length: only 0, 3 and 4 are lengths of one. -/
def ofLength? : Nat → Option StartCode
  | 0 => some none
  | 3 => some short
  | 4 => some long
  | _ => Option.none

def strip (payload : Bytes) : Bytes := payload.drop (detect payload).length

end StartCode

end Footage
