import Footage.Decimal.Binary
import Footage.Time

/-!
# Frame rates

A frame rate tells how far apart the pictures of a plain byte stream are.
-/

namespace Footage

/-- A number of seconds to the nearest nanosecond, a half to the even one. There is no span for a
number that is negative, not finite, or of more than 64 bits. -/
def Duration.ofBinary? : Decimal.Binary → Option Duration
  | .finite isNegative mantissa exponent =>
    let (whole, part) := Decimal.scaleDown mantissa 1 (-exponent)
    if isNegative && mantissa ≠ 0 then none
    else if wordLimit 64 * part ≤ whole then none
    else some ⟨Decimal.roundHalfEven (whole * nanosPerSecond) part⟩
  | .nan | .infinite _ => none

namespace FrameRate

/-- A rate that pictures can have. -/
def isValid (rate : Float) : Bool := rate > 0 && rate.isFinite

/-- The time from one picture to the next. -/
def interval? (rate : Float) : Option Duration := Duration.ofBinary? (.ofFloat (1 / rate))

end FrameRate

end Footage
