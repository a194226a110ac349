import Footage.Ring.Buffer

/-!
# Threads around a ring buffer

Any number of threads and consumers use one ring buffer. Two locks keep them apart. Whoever holds
the storage lock alone sees and changes the stored packets, and whoever holds the delivery lock
alone serves listeners. The registry has a lock of its own, but no call holds it for longer than
one look at the registry or one change of it, and these are single steps here.

`add` takes the storage lock, stores the packet, looks up the listeners, takes the delivery lock,
and only then gives the storage lock back. It serves the listeners under the delivery lock alone.

* `Stage` is where a thread is in its call, and `System` all threads with the ring and the locks.
* `Step` is what one thread or consumer does at once, and `Event` what can be seen of it.
* `Run` is any interleaving of steps.
-/

namespace Footage

inductive Stage where
  /-- In no call. It may hold the storage lock as a guard. -/
  | idle
  /-- In `add`, before the storage lock. -/
  | adding (p : Packet)
  /-- In `add`, with the storage lock. -/
  | storing (p : Packet)
  /-- The packet is stored. -/
  | stored (p : Packet)
  /-- The listeners are looked up, and the delivery lock is next. -/
  | addressed (d : Delivery)
  /-- In `add`, with both locks. -/
  | handing (d : Delivery)
  /-- In `add`, with the delivery lock. -/
  | delivering (d : Delivery)
  /-- In `add`, without locks. Listeners whose consumers are gone may have to leave. -/
  | leaving (gone : List Nat)
  /-- A listener is off the registry, and the delivery lock is next. -/
  | removing
  /-- A listener is off the registry, and no delivery is under way. -/
  | settling
deriving DecidableEq

/-- What is seen of a step. -/
inductive Event where
  | lock (t : Nat)
  | unlock (t : Nat)
  | extract (t : Nat) (method : ExtractMethod) (minimum : Duration) (mode : ExtractMode)
      (result : Except HistoryError PacketBuffer)
  | clear (t : Nat)
  | listen (t channel : Nat) (name : String) (policy : FullPolicy)
  /-- A thread asks to take a channel off the registry; `found` tells whether it was on it. -/
  | unlisten (t channel : Nat) (found : Bool)
  | settle (t : Nat)
  | settled (t : Nat)
  /-- A thread calls `add`. -/
  | add (t : Nat) (p : Packet)
  | enter (t : Nat)
  | store (t : Nat) (p : Packet)
  | lookUp (t : Nat)
  | lockDelivery (t : Nat)
  | unlockStorage (t : Nat)
  /-- A step of a delivery; `filled` tells which channel got the packet, if one did. -/
  | serve (t : Nat) (filled : Option (Nat × Packet))
  | timeOut (t : Nat)
  | unlockDelivery (t : Nat)
  | prune (t : Nat)
  /-- A call of `add` returns. -/
  | leave (t : Nat)
  | openChannel (capacity : Nat)
  | receive (channel : Nat) (p : Packet)
  | await (channel : Nat)
  | hangUp (channel : Nat)

/-- A ring buffer with its locks and the threads that use it. -/
structure System where
  ring : RingBuffer
  /-- Who holds the storage lock. -/
  storage : Option Nat := none
  /-- Who holds the delivery lock. -/
  delivery : Option Nat := none
  stage : Nat → Stage := fun _ => .idle

/-- The stages after the thread `t` came to `stage`. -/
def placed (stages : Nat → Stage) (t : Nat) (stage : Stage) : Nat → Stage :=
  fun u => if u = t then stage else stages u

namespace System

def start (budget : Nat) : System := { ring := .empty budget }

def move (s : System) (t : Nat) (stage : Stage) : System :=
  { s with stage := placed s.stage t stage }

end System

/-- Steps of threads and consumers. -/
inductive Step (s : System) : Event → System → Prop
  | lock {t : Nat} : s.stage t = .idle → s.storage = none →
      Step s (.lock t) { s with storage := some t }
  | unlock {t : Nat} : s.stage t = .idle → s.storage = some t →
      Step s (.unlock t) { s with storage := none }
  | extract {t : Nat} {method : ExtractMethod} {minimum : Duration} {mode : ExtractMode}
      {result : Except HistoryError PacketBuffer} {ring : RingBuffer} :
      s.stage t = .idle → s.storage = some t →
      s.ring.extract method minimum mode = (result, ring) →
      Step s (.extract t method minimum mode result) { s with ring }
  | clear {t : Nat} : s.stage t = .idle → s.storage = some t →
      Step s (.clear t) { s with ring := s.ring.clear }
  | listen {t channel : Nat} {name : String} {policy : FullPolicy} : s.stage t = .idle →
      Step s (.listen t channel name policy)
        { s with ring := s.ring.register channel name policy }
  | unlisten {t channel : Nat} {ring : RingBuffer} : s.stage t = .idle →
      s.ring.unregister channel = (true, ring) →
      Step s (.unlisten t channel true) ({ s with ring }.move t .removing)
  | unlistenUnknown {t channel : Nat} {ring : RingBuffer} : s.stage t = .idle →
      s.ring.unregister channel = (false, ring) →
      Step s (.unlisten t channel false) { s with ring }
  | settle {t : Nat} : s.stage t = .removing → s.delivery = none →
      Step s (.settle t) ({ s with delivery := some t }.move t .settling)
  | settled {t : Nat} : s.stage t = .settling →
      Step s (.settled t) ({ s with delivery := none }.move t .idle)
  | add {t : Nat} {p : Packet} : s.stage t = .idle →
      Step s (.add t p) (s.move t (.adding p))
  | enter {t : Nat} {p : Packet} : s.stage t = .adding p → s.storage = none →
      Step s (.enter t) ({ s with storage := some t }.move t (.storing p))
  | store {t : Nat} {p : Packet} : s.stage t = .storing p →
      Step s (.store t p) ({ s with ring := (s.ring.keep p).2 }.move t (.stored p))
  | lookUp {t : Nat} {p : Packet} : s.stage t = .stored p →
      Step s (.lookUp t) (s.move t (.addressed (s.ring.snapshot p)))
  | lockDelivery {t : Nat} {d : Delivery} : s.stage t = .addressed d → s.delivery = none →
      Step s (.lockDelivery t) ({ s with delivery := some t }.move t (.handing d))
  | unlockStorage {t : Nat} {d : Delivery} : s.stage t = .handing d →
      Step s (.unlockStorage t) ({ s with storage := none }.move t (.delivering d))
  | serve {t : Nat} {d later : Delivery} {ring : RingBuffer} {filled : Option (Nat × Packet)} :
      s.stage t = .delivering d → s.ring.serveStep d = some { ring, delivery := later, filled } →
      Step s (.serve t filled) ({ s with ring }.move t (.delivering later))
  | timeOut {t : Nat} {d later : Delivery} : s.stage t = .delivering d →
      s.ring.timeOut d = some later →
      Step s (.timeOut t) (s.move t (.delivering later))
  | unlockDelivery {t : Nat} {d : Delivery} : s.stage t = .delivering d → d.pending = [] →
      Step s (.unlockDelivery t) ({ s with delivery := none }.move t (.leaving d.gone))
  | prune {t : Nat} {gone : List Nat} : s.stage t = .leaving gone → gone ≠ [] →
      Step s (.prune t) ({ s with ring := s.ring.prune gone }.move t (.leaving []))
  | leave {t : Nat} : s.stage t = .leaving [] →
      Step s (.leave t) (s.move t .idle)
  | openChannel {capacity : Nat} :
      Step s (.openChannel capacity) { s with ring := (s.ring.openChannel capacity).2 }
  | receive {channel : Nat} {p : Packet} {ring : RingBuffer} :
      s.ring.receive channel = (some p, ring) →
      Step s (.receive channel p) { s with ring }
  | await {channel : Nat} :
      Step s (.await channel)
        { s with ring := s.ring.changeChannel channel ({ · with isAwaited := true }) }
  | hangUp {channel : Nat} :
      Step s (.hangUp channel) { s with ring := s.ring.changeChannel channel (·.hangUp) }

/-- Interleavings of steps, with their events in order. -/
inductive Run : System → List Event → System → Prop
  | nil {s : System} : Run s [] s
  | cons {s s' s'' : System} {e : Event} {es : List Event} :
      Step s e s' → Run s' es s'' → Run s (e :: es) s''

/-- The systems that threads and consumers can get into. -/
def Reachable (budget : Nat) (s : System) : Prop := ∃ es, Run (.start budget) es s

namespace Event

/-- The packet that a step stores, or would store if it were smaller. -/
def stored : Event → List Packet
  | .store _ p => [p]
  | _ => []

/-- The packet that the consumer of a channel takes. -/
def received (channel : Nat) : Event → List Packet
  | .receive c p => if c = channel then [p] else []
  | _ => []

end Event

/-- The packets of a run in the order in which they came to be stored, also those that were too
large. -/
def storedIn (es : List Event) : List Packet := es.flatMap Event.stored

/-- What the consumer of a channel took in a run. -/
def receivedIn (channel : Nat) (es : List Event) : List Packet :=
  es.flatMap (Event.received channel)

end Footage
