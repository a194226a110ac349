import Footage.Word

/-!
# Weighted rings

A weighted ring holds entries in the order in which they came, as long as their total weight
stays within a budget. What does not fit any more leaves at the front. With a budget below
`2 ^ 63` all sums of weights fit in a word.
-/

namespace Footage

/-- Entries with their weights, oldest first, and the weight that they may have together. -/
structure WeightedRing (α : Type) where
  entries : List (Nat × α)
  /-- The sum of the weights. -/
  weight : Nat
  budget : Nat
deriving DecidableEq, Repr

/-- What became of a new entry. -/
inductive PushOutcome where
  /-- It was stored, and `evicted` older ones had to leave. -/
  | stored (evicted : Nat)
  /-- It is heavier than the whole budget. -/
  | rejected
deriving DecidableEq, Repr

namespace WeightedRing

variable {α : Type}

def empty (budget : Nat) : WeightedRing α := ⟨[], 0, budget⟩

/-- The entries without their weights, oldest first. -/
def toList (ring : WeightedRing α) : List α := ring.entries.map (·.2)

def length (ring : WeightedRing α) : Nat := ring.entries.length

def get? (ring : WeightedRing α) (index : Nat) : Option α := ring.toList[index]?

/-- Drops entries of the given weight sum at the front until `incoming` more would fit. The
answer is the number of dropped entries, the rest, and its weight. -/
def makeRoom (budget incoming : Nat) :
    List (Nat × α) → (weight : Nat) → Nat × List (Nat × α) × Nat
  | [], weight => (0, [], weight)
  | (w, a) :: rest, weight =>
    if budget < weight + incoming then
      let (evicted, kept, weight) := makeRoom budget incoming rest (weight - w)
      (evicted + 1, kept, weight)
    else (0, (w, a) :: rest, weight)

/-- Adds an entry at the end. One that is heavier than the budget changes nothing. -/
def push (ring : WeightedRing α) (weight : Nat) (a : α) : PushOutcome × WeightedRing α :=
  if ring.budget < weight then (.rejected, ring)
  else
    let (evicted, kept, keptWeight) := makeRoom ring.budget weight ring.entries ring.weight
    (.stored evicted, ⟨kept ++ [(weight, a)], keptWeight + weight, ring.budget⟩)

def pop (ring : WeightedRing α) : Option α × WeightedRing α :=
  match ring.entries with
  | [] => (none, ring)
  | (w, a) :: rest => (some a, ⟨rest, ring.weight - w, ring.budget⟩)

/-- Takes up to `count` of the oldest entries out. -/
def popMany (ring : WeightedRing α) : (count : Nat) → List α × WeightedRing α
  | 0 => ([], ring)
  | count + 1 =>
    match ring.pop with
    | (none, ring) => ([], ring)
    | (some a, ring) => let (taken, ring) := ring.popMany count; (a :: taken, ring)

def clear (ring : WeightedRing α) : WeightedRing α := ⟨[], 0, ring.budget⟩

/-! ## Counting in words -/

/-- `makeRoom`, as long as words can hold every sum and every difference on the way. -/
def makeRoomCounted (budget incoming : Nat) :
    List (Nat × α) → (weight : Nat) → Except Overflow (Nat × List (Nat × α) × Nat)
  | [], weight => do
    discard (inWord .addition (weight + incoming))
    return (0, [], weight)
  | (w, a) :: rest, weight => do
    discard (inWord .addition (weight + incoming))
    if budget < weight + incoming then
      let lighter ← wordMinus weight w
      let (evicted, kept, weight) ← makeRoomCounted budget incoming rest lighter
      return (evicted + 1, kept, weight)
    else return (0, (w, a) :: rest, weight)

/-- `push`, as long as words can hold what it computes. -/
def pushCounted (ring : WeightedRing α) (weight : Nat) (a : α) :
    Except Overflow (PushOutcome × WeightedRing α) := do
  if ring.budget < weight then return (.rejected, ring)
  let (evicted, kept, keptWeight) ←
    makeRoomCounted ring.budget weight ring.entries ring.weight
  let sum ← inWord .addition (keptWeight + weight)
  return (.stored evicted, ⟨kept ++ [(weight, a)], sum, ring.budget⟩)

/-- `pop`, as long as a word can hold the weight that is left. -/
def popCounted (ring : WeightedRing α) : Except Overflow (Option α × WeightedRing α) :=
  match ring.entries with
  | [] => return (none, ring)
  | (w, a) :: rest => do
    let left ← wordMinus ring.weight w
    return (some a, ⟨rest, left, ring.budget⟩)

/-- `popMany`, as long as words can hold the weights that are left. -/
def popManyCounted (ring : WeightedRing α) :
    (count : Nat) → Except Overflow (List α × WeightedRing α)
  | 0 => return ([], ring)
  | count + 1 => do
    match ← ring.popCounted with
    | (none, ring) => return ([], ring)
    | (some a, ring) =>
      let (taken, ring) ← ring.popManyCounted count
      return (a :: taken, ring)

/-! ## What is left after taking entries out -/

theorem popMany_fst (ring : WeightedRing α) (count : Nat) :
    (ring.popMany count).1 = ring.toList.take count := by
  induction count generalizing ring with
  | zero => rfl
  | succ count ih =>
    obtain ⟨entries, weight, budget⟩ := ring
    cases entries with
    | nil => rfl
    | cons entry rest => simp [popMany, pop, ih, toList]

theorem popMany_entries (ring : WeightedRing α) (count : Nat) :
    (ring.popMany count).2.entries = ring.entries.drop count := by
  induction count generalizing ring with
  | zero => rfl
  | succ count ih =>
    obtain ⟨entries, weight, budget⟩ := ring
    cases entries with
    | nil => rfl
    | cons entry rest => simp [popMany, pop, ih]

end WeightedRing

end Footage
