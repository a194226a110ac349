import Footage.Decimal.Binary
import Footage.Time

/-!
# Backing off

While a recorder waits for a keyframe it tries again after a delay that grows from attempt to
attempt.
-/

namespace Footage

/-- How the delay grows. -/
structure BackoffPolicy where
  base : Duration := .ofMillis 200
  /-- Growth per attempt. -/
  multiplier : Float := 1.5
  /-- From this attempt on the delay stays the same. -/
  maxExponent : Nat := 7

namespace BackoffPolicy

/-- `result * x ^ n` by squaring, for `n` of at most `bits` binary digits. -/
def powerLoop : (bits : Nat) → (x result : Float) → (n : Nat) → Float
  | 0, _, result, _ => result
  | bits + 1, x, result, n =>
    let result := if n % 2 = 1 then result * x else result
    if n / 2 = 0 then result else powerLoop bits (x * x) result (n / 2)

/-- `x ^ n` by squaring; a negative power is the inverse of the positive one. -/
def power (x : Float) (n : Int) : Float :=
  let positive := powerLoop 32 x 1 n.natAbs
  if n < 0 then 1 / positive else positive

/-- The delay before an attempt; the first one is made at once. The exponent is a 32-bit number
with sign, and the delay a 64-bit number of nanoseconds at which it saturates. -/
def delay (policy : BackoffPolicy) (attempt : Nat) : Duration :=
  if attempt = 0 then .zero
  else
    let exponent := Int.bmod (min attempt policy.maxExponent) (wordLimit 32)
    let nanos := Decimal.ofNat policy.base.nanos * power policy.multiplier exponent
    ⟨nanos.round.toUInt64.toNat⟩

end BackoffPolicy

end Footage
