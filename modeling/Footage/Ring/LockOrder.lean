/-!
# Lock order

Every lock has a level. A thread may only take a lock whose level is above all levels that it
holds, so that no threads can wait for each other in a circle.
-/

namespace Footage

/-- The levels of locks, lowest first. -/
inductive LockLevel where
  /-- State of one camera. -/
  | camera
  /-- The stored packets. -/
  | ringBuffer
  /-- One packet at a time is delivered. -/
  | delivery
  /-- The registry of listeners. -/
  | listeners
deriving DecidableEq, Repr

namespace LockLevel

def rank : LockLevel → Nat
  | camera => 10
  | ringBuffer => 20
  | delivery => 30
  | listeners => 40

def label : LockLevel → String
  | camera => "Camera"
  | ringBuffer => "RingBuffer"
  | delivery => "Delivery"
  | listeners => "Listeners"

end LockLevel

/-- The levels that a thread holds, in the order in which it took them. -/
abbrev HeldLevels := List LockLevel

/-- A thread tried to take a lock out of order. -/
structure LockOrderViolation where
  acquiring : LockLevel
  /-- The highest level that the thread holds. -/
  holding : LockLevel
deriving DecidableEq, Repr

def LockOrderViolation.message (v : LockOrderViolation) : String :=
  s!"lock order violation: acquiring {v.acquiring.label} while holding {v.holding.label}"

namespace HeldLevels

def higher (a b : LockLevel) : LockLevel := if a.rank ≤ b.rank then b else a

def highest? : HeldLevels → Option LockLevel
  | [] => none
  | level :: rest => some (rest.foldl higher level)

/-- Takes a level, if it is above all that are held. -/
def acquire (held : HeldLevels) (level : LockLevel) : Except LockOrderViolation HeldLevels :=
  match highest? held with
  | some highest =>
    if highest.rank < level.rank then .ok (held ++ [level]) else .error ⟨level, highest⟩
  | none => .ok [level]

/-- Gives a level back: of several of the same kind the one that was taken last. -/
def release (held : HeldLevels) (level : LockLevel) : HeldLevels :=
  (held.reverse.erase level).reverse

end HeldLevels

/-! ## The locks of a ring buffer's operations -/

inductive LockAction where
  | acquire (level : LockLevel)
  | release (level : LockLevel)
deriving DecidableEq, Repr

namespace LockAction

def apply : LockAction → HeldLevels → Except LockOrderViolation HeldLevels
  | acquire level, held => held.acquire level
  | release level, held => .ok (held.release level)

/-- Does the actions in order. The answer is what is held at the end. -/
def run (actions : List LockAction) (held : HeldLevels) : Except LockOrderViolation HeldLevels :=
  actions.foldlM (fun held action => action.apply held) held

/-- Takes one level for a moment. -/
def brief (level : LockLevel) : List LockAction := [acquire level, release level]

/-- Looks at or changes the stored packets. -/
def storage : List LockAction := brief .ringBuffer

/-- Looks at or changes the registry. -/
def registry : List LockAction := brief .listeners

/-- Adds a packet: the registry is looked up while the storage is held, and the storage is given
back only once the delivery is held. -/
def add : List LockAction :=
  [acquire .ringBuffer] ++ registry ++ [acquire .delivery, release .ringBuffer, release .delivery]

/-- Takes listeners whose consumers are gone off the registry after adding a packet. -/
def addAndPrune : List LockAction := add ++ registry

/-- Takes a listener off the registry and waits for the delivery under way. -/
def removal : List LockAction := registry ++ brief .delivery

end LockAction

/-! ## The public operations of a ring buffer -/

/-- What a thread can ask of a ring buffer, with what the locks that it takes depend on. -/
inductive RingCall where
  | create
  /-- Looks at the settings, which never change. -/
  | settings
  | budget
  /-- Takes the storage lock for as long as the thread keeps the guard. -/
  | lock
  /-- Adds a packet; `someGone` tells whether consumers turned out to be gone. -/
  | add (someGone : Bool)
  | extract
  | latestKeyframe
  | length
  | isEmpty
  | weight
  | clear
  | listen
  /-- Takes a channel off the registry; `found` tells whether it was on it. -/
  | unlisten (found : Bool)
  | listenerCount
  | listenerStats
deriving DecidableEq, Repr

namespace RingCall

/-- The levels that a call takes and gives back. -/
def actions : RingCall → List LockAction
  | create | settings | budget => []
  | lock => [.acquire .ringBuffer]
  | add someGone => if someGone then LockAction.addAndPrune else LockAction.add
  | extract | latestKeyframe | length | isEmpty | weight | clear => LockAction.storage
  | listen | listenerCount | listenerStats => LockAction.registry
  | unlisten found => if found then LockAction.removal else LockAction.registry

/-- The levels that the thread still has after a call. -/
def kept : RingCall → HeldLevels
  | lock => [.ringBuffer]
  | _ => []

/-- The call can also be made by a thread that has the guard. -/
def isOpenToGuard : RingCall → Bool
  | listen | unlisten _ => true
  | _ => false

end RingCall

end Footage
