import Footage.Word

/-!
# Decode times

Decode times must rise from unit to unit. Without reordering they are the presentation times,
moved on by one tick where that would not rise. Counters of 64 bits cannot go on for ever.
-/

namespace Footage

/-- The decode time of a unit shown at `pts`, after a unit decoded at `last`. -/
def decodeTime : (last : Option Nat) → (pts : Nat) → Nat
  | some last, pts => if pts ≤ last then last + 1 else pts
  | none, pts => pts

def decodeTimes (last : Option Nat) : List Nat → List Nat
  | [] => []
  | pts :: rest =>
    let dts := decodeTime last pts
    dts :: decodeTimes (some dts) rest

/-- The decode time, if the counter can hold it. -/
def countedDecodeTime (last : Option Nat) (pts : Nat) : Except Overflow Nat :=
  inWord .addition (decodeTime last pts)

def countedDecodeTimes (last : Option Nat) : List Nat → Except Overflow (List Nat)
  | [] => .ok []
  | pts :: rest => do
    let dts ← countedDecodeTime last pts
    return dts :: (← countedDecodeTimes (some dts) rest)

end Footage
