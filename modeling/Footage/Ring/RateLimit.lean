/-!
# Rate limits

A repeated warning is shown at most once per interval. Those held back in between are counted,
and the next one that is shown tells their number.
-/

namespace Footage

/-- When a warning was last shown, and how many were held back since. Times are nanoseconds. -/
structure RateLimit where
  interval : Nat
  lastShown : Option Nat := none
  heldBack : Nat := 0
deriving DecidableEq, Repr

namespace RateLimit

/-- A warning is due at `now`. It is shown, with the number of those held back before it, unless
the last one was shown less than an interval ago; a time before the last one counts as no time
after it. -/
def tickAt (limit : RateLimit) (now : Nat) : Option Nat × RateLimit :=
  let shown := (some limit.heldBack, { limit with lastShown := some now, heldBack := 0 })
  match limit.lastShown with
  | none => shown
  | some last =>
    if now - last < limit.interval then (none, { limit with heldBack := limit.heldBack + 1 })
    else shown

def ticks (limit : RateLimit) : List Nat → List (Option Nat)
  | [] => []
  | now :: rest => let (shown, limit) := limit.tickAt now; shown :: ticks limit rest

end RateLimit

end Footage
