import Footage.Word

/-!
# Spans of time and moments

Both count nanoseconds. A span's seconds fit in 64 bits without sign, a moment's in 64 bits with
sign, so sums and products can overflow.
-/

namespace Footage

def nanosPerSecond : Nat := 1000000000

structure Duration where
  nanos : Nat
deriving DecidableEq, Repr

/-- A moment of the wall clock, counted from 1970-01-01. -/
structure WallTime where
  nanos : Int
deriving DecidableEq, Repr

/-- Time arithmetic left its range. -/
inductive ClockError where
  | spanOverflow
  | momentOverflow
deriving DecidableEq, Repr

def ClockError.message : ClockError → String
  | spanOverflow => "overflow when multiplying duration by scalar"
  | momentOverflow => "overflow when adding duration to `SystemTime`"

namespace Duration

def zero : Duration := ⟨0⟩

def ofSeconds (seconds : Nat) : Duration := ⟨seconds * nanosPerSecond⟩
def ofMillis (millis : Nat) : Duration := ⟨millis * 1000000⟩

def seconds (d : Duration) : Nat := d.nanos / nanosPerSecond
def subsecondNanos (d : Duration) : Nat := d.nanos % nanosPerSecond
def millis (d : Duration) : Nat := d.nanos / 1000000

/-- The difference, or zero if `b` is the longer one. -/
def minus (a b : Duration) : Duration := ⟨a.nanos - b.nanos⟩

def times (d : Duration) (count : Nat) : Except ClockError Duration :=
  if d.nanos * count < wordLimit 64 * nanosPerSecond then .ok ⟨d.nanos * count⟩
  else .error .spanOverflow

/-- Ticks of the 90 kHz clock, in a 64-bit counter that wraps. -/
def ticks (d : Duration) : Nat := d.nanos * 90000 / nanosPerSecond % wordLimit 64

/-- Decimal digits of `n` behind a point, `width` of them, less the zeros at their end. -/
def fraction (width n : Nat) : String :=
  let digits := (toString n).toList
  let padded := List.replicate (width - digits.length) '0' ++ digits
  let kept := (padded.reverse.dropWhile (· = '0')).reverse
  if kept.isEmpty then "" else String.ofList ('.' :: kept)

/-- The span in the largest of the units s, ms, µs and ns in which it is at least one, without
zeros at the end: `1.75s`, `40ms`, `1.5µs`, `0ns`. -/
def text (d : Duration) : String :=
  let n := d.nanos
  let inUnit (size width : Nat) (unit : String) : String :=
    toString (n / size) ++ fraction width (n % size) ++ unit
  if nanosPerSecond ≤ n then inUnit nanosPerSecond 9 "s"
  else if 1000000 ≤ n then inUnit 1000000 6 "ms"
  else if 1000 ≤ n then inUnit 1000 3 "µs"
  else toString n ++ "ns"

end Duration

namespace WallTime

def epoch : WallTime := ⟨0⟩

def sinceEpoch (d : Duration) : WallTime := ⟨d.nanos⟩

def plus (t : WallTime) (d : Duration) : Except ClockError WallTime :=
  if t.nanos + d.nanos < (wordLimit 63 * nanosPerSecond : Nat) then .ok ⟨t.nanos + d.nanos⟩
  else .error .momentOverflow

/-- The span from `earlier` to `t`, zero if `t` comes first. -/
def since (t earlier : WallTime) : Duration := ⟨(t.nanos - earlier.nanos).toNat⟩

/-- The span between two moments, in either order. -/
def distance (a b : WallTime) : Duration := ⟨(a.nanos - b.nanos).natAbs⟩

end WallTime

end Footage
