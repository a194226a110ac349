import Footage.Packet.Basic
import Footage.Word

/-!
# Listeners and their channels

A listener gets every packet through a channel of its own. Channels keep the order and hold a
limited number of packets; a listener's policy says what happens when its channel is full.
-/

namespace Footage

/-- What happens to a packet for a listener whose channel is full. -/
inductive FullPolicy where
  /-- The listener misses it. -/
  | drop
  /-- The producer waits for room. -/
  | stall
deriving DecidableEq, Repr

/-- A queue of packets between the ring and one consumer. -/
structure Channel where
  capacity : Nat
  /-- Oldest first. -/
  queue : List Packet := []
  /-- The consumer is still there. -/
  isConnected : Bool := true
  /-- The consumer waits for the next packet, and can take it even if the channel holds none. -/
  isAwaited : Bool := false
deriving DecidableEq, Repr

/-- What a channel does with a packet. -/
inductive Offer where
  | accepted (channel : Channel)
  | full
  | disconnected

namespace Channel

/-- Refuses capacities for which no channel can be made: twice the next power of two above the
capacity has to fit in a word, and the places, of 16 octets each, in a block of memory. -/
def checkCapacity (capacity : Nat) : Except Overflow Unit := do
  if wordLimit 62 ≤ capacity then throw .channelCapacity
  if wordLimit 63 ≤ 16 * capacity then throw .capacity

/-- No packet more can be stored. A channel that holds none is always full. -/
def isFull (c : Channel) : Bool := c.capacity ≤ c.queue.length

/-- How many packets can be under way. -/
def room (c : Channel) : Nat := if c.capacity = 0 then c.isAwaited.toNat else c.capacity

def offer (c : Channel) (p : Packet) : Offer :=
  if !c.isConnected then .disconnected
  else if c.queue.length < c.room then .accepted { c with queue := c.queue ++ [p] }
  else .full

def receive (c : Channel) : Option Packet × Channel :=
  match c.queue with
  | [] => (none, c)
  | p :: rest => (some p, { c with queue := rest, isAwaited := false })

/-- The consumer goes away, and what it has not taken is lost. -/
def hangUp (c : Channel) : Channel :=
  { c with queue := [], isConnected := false, isAwaited := false }

end Channel

structure Listener where
  /-- Which channel is its own. -/
  channel : Nat
  name : String
  policy : FullPolicy
  /-- It was taken off the registry, and is to get nothing more. -/
  isRemoved : Bool := false
  /-- Packets put into its channel. -/
  delivered : Nat := 0
  /-- Packets that it missed. -/
  dropped : Nat := 0
  /-- Deliveries that found its channel full and waited. -/
  stalled : Nat := 0
deriving DecidableEq, Repr

end Footage
