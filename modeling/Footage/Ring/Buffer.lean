import Footage.Ring.History
import Footage.Ring.Listener

/-!
# Ring buffers

A ring buffer stores the latest packets of a camera and hands each new one to every listener.

Adding a packet takes two sections. In the first the packet is stored (`keep`) and the registry
is looked up (`snapshot`). The second serves the listeners found then one after another, each in
`serve` steps; a step that finds no room for a listener that must not miss anything is blocked
until its consumer takes a packet, goes away, or is taken off the registry. Listeners whose
consumers are gone are taken off the registry at the end.
-/

namespace Footage

/-- A ring buffer with its listeners and their channels. -/
structure RingBuffer where
  store : WeightedRing Packet
  channels : List Channel := []
  /-- Every listener that was ever registered. Its index tells listeners apart. -/
  listeners : List Listener := []
  /-- The listeners in force, in the order of registration. -/
  registry : List Nat := []
deriving DecidableEq, Repr

/-- How far a delivery has come with a listener. -/
inductive Progress where
  | untouched
  /-- The listener was found in force. -/
  | inForce
  /-- The producer waits for room. -/
  | waiting
  /-- The producer had no room for some time, and looks whether the listener is still in force. -/
  | timedOut
deriving DecidableEq, Repr

/-- A packet on its way to the listeners. -/
structure Delivery where
  packet : Packet
  /-- Who is still to be served, in order. -/
  pending : List Nat
  /-- How far it has come with the first of them. -/
  progress : Progress := .untouched
  /-- Whose consumers turned out to be gone. -/
  gone : List Nat := []
deriving DecidableEq, Repr

namespace Delivery

/-- The first pending listener is done with. -/
def next (d : Delivery) : Delivery := { d with pending := d.pending.tail, progress := .untouched }

/-- The first pending listener is done with because its consumer is gone. -/
def nextGone (d : Delivery) : Delivery := { d.next with gone := d.gone ++ d.pending.take 1 }

/-- More than the number of `serve` steps that are left. -/
def stepBound (d : Delivery) : Nat := 4 * d.pending.length + 1

end Delivery

/-- What one step of a delivery leads to. -/
structure Served where
  ring : RingBuffer
  delivery : Delivery
  /-- Which channel got the packet, if one did. -/
  filled : Option (Nat × Packet) := none
deriving DecidableEq, Repr

namespace RingBuffer

def empty (budget : Nat) : RingBuffer := { store := .empty budget }

/-- The budget of a ring buffer unless it is set otherwise: 16 MiB. -/
def defaultBudget : Nat := 16 * 1024 * 1024

/-- The stored packets, oldest first. -/
def packets (ring : RingBuffer) : List Packet := ring.store.toList

/-- Where the newest packet with a keyframe stands. -/
def latestKeyframe? (ring : RingBuffer) : Option Nat :=
  (ring.packets.reverse.findIdx? (·.hasKeyframe)).map (ring.packets.length - 1 - ·)

def clear (ring : RingBuffer) : RingBuffer := { ring with store := ring.store.clear }

def extract (ring : RingBuffer) (method : ExtractMethod) (minimum : Duration) (mode : ExtractMode) :
    Except HistoryError PacketBuffer × RingBuffer :=
  let (result, store) := takeHistory ring.store method minimum mode
  (result, { ring with store })

/-! ## Channels and the registry -/

/-- Opens a channel; the answer is its index. -/
def openChannel (ring : RingBuffer) (capacity : Nat) : Nat × RingBuffer :=
  (ring.channels.length, { ring with channels := ring.channels ++ [{ capacity }] })

def changeChannel (ring : RingBuffer) (channel : Nat) (change : Channel → Channel) : RingBuffer :=
  { ring with channels := ring.channels.modify channel change }

def changeListener (ring : RingBuffer) (id : Nat) (change : Listener → Listener) : RingBuffer :=
  { ring with listeners := ring.listeners.modify id change }

def registered (ring : RingBuffer) : List Listener :=
  ring.registry.filterMap (ring.listeners[·]?)

/-- The listener in force that owns a channel. -/
def listenerOf? (ring : RingBuffer) (channel : Nat) : Option Nat :=
  ring.registry.find? fun id => (ring.listeners[id]?.map (·.channel)) = some channel

/-- Registers a listener, unless its channel has one already. -/
def register (ring : RingBuffer) (channel : Nat) (name : String) (policy : FullPolicy) :
    RingBuffer :=
  if (ring.listenerOf? channel).isSome then ring
  else
    { ring with
      listeners := ring.listeners ++ [{ channel, name, policy }]
      registry := ring.registry ++ [ring.listeners.length] }

/-- Takes the listener of a channel off the registry; the answer tells whether there was one. It
gets nothing more, even from deliveries that are under way. -/
def unregister (ring : RingBuffer) (channel : Nat) : Bool × RingBuffer :=
  match ring.listenerOf? channel with
  | none => (false, ring)
  | some id =>
    let ring := ring.changeListener id ({ · with isRemoved := true })
    (true, { ring with registry := ring.registry.filter (· ≠ id) })

/-- The consumer of a channel takes the oldest packet. -/
def receive (ring : RingBuffer) (channel : Nat) : Option Packet × RingBuffer :=
  match ring.channels[channel]? with
  | none => (none, ring)
  | some c => let (p, c) := c.receive; (p, ring.changeChannel channel fun _ => c)

/-- The consumer of a channel takes up to `count` packets. -/
def receiveMany (ring : RingBuffer) (channel : Nat) : (count : Nat) → List Packet × RingBuffer
  | 0 => ([], ring)
  | count + 1 =>
    match ring.receive channel with
    | (none, ring) => ([], ring)
    | (some p, ring) => let (taken, ring) := ring.receiveMany channel count; (p :: taken, ring)

def queued (ring : RingBuffer) (channel : Nat) : Nat :=
  (ring.channels[channel]?.map (·.queue.length)).getD 0

/-! ## Adding packets -/

/-- Stores a packet. One that is larger than the budget is not stored. -/
def keep (ring : RingBuffer) (p : Packet) : PushOutcome × RingBuffer :=
  let (outcome, store) := ring.store.push p.payloadSize p
  (outcome, { ring with store })

/-- Looks up the listeners that are to get a packet. -/
def snapshot (ring : RingBuffer) (p : Packet) : Delivery :=
  { packet := p, pending := ring.registry }

/-- Stores a packet and looks up the listeners that are to get it. A packet that is larger than
the budget is not stored, but delivered all the same. -/
def beginAdd (ring : RingBuffer) (p : Packet) : PushOutcome × RingBuffer × Delivery :=
  let (outcome, ring) := ring.keep p
  (outcome, ring, ring.snapshot p)

/-- A delivery puts its packet into the channel of its first pending listener, which thereby
becomes `c`. -/
def fill (ring : RingBuffer) (d : Delivery) (id channel : Nat) (c : Channel) : Served where
  ring := (ring.changeChannel channel fun _ => c).changeListener id fun l =>
    { l with delivered := l.delivered + 1 }
  delivery := d.next
  filled := some (channel, d.packet)

/-- One step towards serving the first pending listener. There is none if nobody is pending, or
if the producer must wait. -/
def serveStep (ring : RingBuffer) (d : Delivery) : Option Served := do
  let id ← d.pending.head?
  let listener ← ring.listeners[id]?
  let channel ← ring.channels[listener.channel]?
  match d.progress with
  | .untouched =>
    if listener.isRemoved then some { ring, delivery := d.next }
    else some { ring, delivery := { d with progress := .inForce } }
  | .inForce =>
    match listener.policy with
    | .drop =>
      match channel.offer d.packet with
      | .accepted c => some (ring.fill d id listener.channel c)
      | .disconnected => some { ring, delivery := d.nextGone }
      | .full =>
        let ring := ring.changeListener id fun l => { l with dropped := l.dropped + 1 }
        some { ring, delivery := d.next }
    | .stall =>
      let ring :=
        if channel.isFull then ring.changeListener id fun l => { l with stalled := l.stalled + 1 }
        else ring
      some { ring, delivery := { d with progress := .waiting } }
  | .waiting =>
    match channel.offer d.packet with
    | .accepted c => some (ring.fill d id listener.channel c)
    | .disconnected => some { ring, delivery := d.nextGone }
    | .full =>
      if listener.isRemoved then some { ring, delivery := { d with progress := .timedOut } }
      else none
  | .timedOut =>
    if listener.isRemoved then some { ring, delivery := d.next }
    else some { ring, delivery := { d with progress := .waiting } }

def serve (ring : RingBuffer) (d : Delivery) : Option (RingBuffer × Delivery) :=
  (ring.serveStep d).map fun served => (served.ring, served.delivery)

/-- A producer that waits for room has waited for some time. -/
def timeOut (ring : RingBuffer) (d : Delivery) : Option Delivery := do
  let id ← d.pending.head?
  let listener ← ring.listeners[id]?
  let channel ← ring.channels[listener.channel]?
  match d.progress, channel.offer d.packet with
  | .waiting, .full => some { d with progress := .timedOut }
  | _, _ => none

/-- Serves listeners for at most `steps` steps, as long as nothing blocks. -/
def serveWithin : (steps : Nat) → RingBuffer → Delivery → RingBuffer × Delivery
  | 0, ring, d => (ring, d)
  | steps + 1, ring, d =>
    match ring.serve d with
    | some (ring, d) => serveWithin steps ring d
    | none => (ring, d)

/-- Serves listeners until all are served or the producer must wait. -/
def serveAll (ring : RingBuffer) (d : Delivery) : RingBuffer × Delivery :=
  serveWithin d.stepBound ring d

/-- Takes listeners whose consumers are gone off the registry. -/
def prune (ring : RingBuffer) (gone : List Nat) : RingBuffer :=
  { ring with registry := ring.registry.filter (!gone.contains ·) }

end RingBuffer

end Footage
