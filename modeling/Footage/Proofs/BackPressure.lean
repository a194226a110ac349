import Footage.Proofs.LockHierarchy
import Footage.Proofs.Removal
import Mathlib.Logic.Relation

/-!
# The storage under back-pressure

A producer that waits for room in a channel has given the storage back. It still has the delivery
lock, though, and the next producer keeps the storage until it gets that lock. So a full channel
blocks the storage as soon as two producers meet, and a consumer that asks for the storage instead
of taking packets can block itself.

This file proves the following.
* A single delivery never blocks the storage: who has the storage does not wait for room
  (`StorageInUse.not_awaitsRoom`), and waits for the delivery lock only in a call of its own.
* Storage that is available in every state would be too much to ask
  (`storage_blocked_by_two_producers`).
* Which circles of waiting threads a consumer can be in, and that it is in none as long as no two
  calls of `add` meet (`storage_under_backPressure`).
-/

namespace Footage

def Progress.isWaiting : Progress → Bool
  | waiting | timedOut => true
  | untouched | inForce => false

namespace Stage

def isInAdd : Stage → Bool
  | adding _ | storing _ | stored _ | addressed _ | handing _ | delivering _ | leaving _ => true
  | idle | removing | settling => false

def awaitsDelivery : Stage → Bool
  | addressed _ | removing => true
  | _ => false

def isPastStorage : Stage → Bool
  | delivering _ | leaving _ => true
  | _ => false

theorem awaitsDelivery_cases {stage : Stage} (awaits : stage.awaitsDelivery = true) :
    (∃ d, stage = .addressed d) ∨ stage = .removing := by
  cases stage with
  | addressed d => exact .inl ⟨d, rfl⟩
  | removing => exact .inr rfl
  | _ => cases awaits

theorem not_holdsDelivery_of_awaits {stage : Stage} (awaits : stage.awaitsDelivery = true) :
    stage.holdsDelivery ≠ true := by
  cases stage with
  | addressed | removing => exact Bool.noConfusion
  | _ => cases awaits

end Stage

/-- What is known of the threads that take packets from channels. -/
structure Consumers where
  /-- The thread that takes the packets of a channel. -/
  ofChannel : Nat → Nat
  /-- The thread called `extract`, `len` or another look at the storage, and has not got it yet. -/
  asks : Nat → Prop

namespace System

/-- The thread waits for room in the channel of a listener that must not miss anything. -/
def AwaitsRoom (s : System) (t channel : Nat) : Prop :=
  ∃ d id l c, s.stage t = .delivering d ∧ d.pending.head? = some id ∧ d.progress.isWaiting = true ∧
    s.ring.listeners[id]? = some l ∧ l.policy = .stall ∧ l.channel = channel ∧
    s.ring.channels[channel]? = some c ∧ c.offer d.packet = .full

/-- The thread waits for room, or for the delivery lock of a thread that does. -/
def HangsOnRoom (s : System) (t : Nat) : Prop :=
  (∃ channel, s.AwaitsRoom t channel) ∨
    (s.stage t).awaitsDelivery = true ∧ ∃ u channel, s.delivery = some u ∧ s.AwaitsRoom u channel

def AwaitsStorage (s : System) (consumers : Consumers) (t : Nat) : Prop :=
  (∃ p, s.stage t = .adding p) ∨ s.stage t = .idle ∧ s.storage ≠ some t ∧ consumers.asks t

/-- The thread `t` cannot go on before `u` does something. -/
inductive WaitsOn (s : System) (consumers : Consumers) (t u : Nat) : Prop
  | storage : s.AwaitsStorage consumers t → s.storage = some u → WaitsOn s consumers t u
  | delivery : (s.stage t).awaitsDelivery = true → s.delivery = some u → WaitsOn s consumers t u
  | room {channel : Nat} : s.AwaitsRoom t channel → consumers.ofChannel channel = u →
      WaitsOn s consumers t u

/-- Whoever has the storage is not past giving it back. -/
def StorageInUse (s : System) : Prop :=
  ∀ t, s.storage = some t → (s.stage t).isPastStorage ≠ true

variable {s s' : System} {t u channel : Nat}

/-! ## Who has the storage -/

namespace StorageInUse

/-- A step of a thread that does not get past giving the storage back. -/
theorem within (h : StorageInUse s) {stage : Stage} {ring : RingBuffer} {delivery : Option Nat}
    (same : stage.isPastStorage = true → (s.stage t).isPastStorage = true) :
    StorageInUse ({ s with ring, delivery }.move t stage) := by
  intro u held
  have before := h u held
  by_cases mover : u = t
  · subst mover
    rw [move_stage, placed_self]
    exact fun past => before (same past)
  · rw [move_stage, placed_of_ne mover]
    exact before

theorem step {e : Event} (h : StorageInUse s) (step : Step s e s') : StorageInUse s' := by
  cases step with
  | @lock t idle _ =>
    intro u held
    obtain rfl : t = u := Option.some.inj held
    rw [show s.stage t = .idle from idle]
    exact Bool.noConfusion
  | enter =>
    intro u held
    obtain rfl := Option.some.inj held
    rw [move_stage, placed_self]
    exact Bool.noConfusion
  | unlock | unlockStorage => exact fun _ => nofun
  | extract | clear | listen | unlistenUnknown | openChannel | receive | await | hangUp => exact h
  | unlisten | settle | settled | add | store | lookUp | lockDelivery | leave =>
    exact h.within Bool.noConfusion
  | serve here | timeOut here | unlockDelivery here | prune here =>
    exact h.within fun _ => by rw [here]; rfl

theorem run {es : List Event} (h : StorageInUse s) (run : Run s es s') : StorageInUse s' := by
  induction run with
  | nil => exact h
  | cons step _ ih => exact ih (h.step step)

/-- Who has the storage does not wait for room. -/
theorem not_awaitsRoom (h : StorageInUse s) (held : s.storage = some t) :
    ¬ s.AwaitsRoom t channel := by
  rintro ⟨d, id, l, c, here, -⟩
  refine h t held ?_
  rw [here]
  rfl

end StorageInUse

theorem storageInUse_start (budget : Nat) : StorageInUse (.start budget) := fun _ => nofun

theorem deliveryInUse_start (budget : Nat) : DeliveryInUse (.start budget) := fun _ => nofun

/-! ## Who waits for whom -/

section Waiting

variable {consumers : Consumers}

theorem AwaitsRoom.holdsDelivery (awaits : s.AwaitsRoom t channel) :
    (s.stage t).holdsDelivery = true := by
  obtain ⟨d, id, l, c, here, -⟩ := awaits
  rw [here]
  rfl

theorem AwaitsRoom.isInAdd (awaits : s.AwaitsRoom t channel) : (s.stage t).isInAdd = true := by
  obtain ⟨d, id, l, c, here, -⟩ := awaits
  rw [here]
  rfl

/-- In no call a thread waits for the storage at most. -/
theorem WaitsOn.of_idle (waits : s.WaitsOn consumers t u) (idle : s.stage t = .idle) :
    s.AwaitsStorage consumers t ∧ s.storage = some u := by
  cases waits with
  | storage awaits held => exact ⟨awaits, held⟩
  | delivery awaits =>
    rw [idle] at awaits
    cases awaits
  | room awaits =>
    have used := awaits.holdsDelivery
    rw [idle] at used
    cases used

/-- Who has the storage waits for the delivery lock, unless it calls `add` with the guard. -/
theorem WaitsOn.of_storage (inUse : StorageInUse s) (held : s.storage = some t)
    (waits : s.WaitsOn consumers t u) :
    (s.stage t).awaitsDelivery = true ∧ s.delivery = some u ∨ u = t := by
  cases waits with
  | storage _ owner => exact .inr (Option.some.inj (owner.symm.trans held))
  | delivery awaits owner => exact .inl ⟨awaits, owner⟩
  | room awaits => exact absurd awaits (inUse.not_awaitsRoom held)

/-- Who has the delivery lock waits for room. -/
theorem WaitsOn.of_delivery (inUse : DeliveryInUse s) (held : s.delivery = some t)
    (waits : s.WaitsOn consumers t u) :
    ∃ channel, s.AwaitsRoom t channel ∧ consumers.ofChannel channel = u := by
  have used := inUse t held
  cases waits with
  | storage awaits =>
    rcases awaits with ⟨p, adding⟩ | ⟨idle, -⟩
    · rw [adding] at used
      cases used
    · rw [idle] at used
      cases used
  | delivery awaits => exact absurd used (Stage.not_holdsDelivery_of_awaits awaits)
  | room awaits consumer => exact ⟨_, awaits, consumer⟩

/-- Where the threads stand that a thread in no call waits for, one behind the other: the first
has the storage, the second the delivery lock, and the third is the consumer of the channel in
which the second waits for room. -/
inductive Ahead (s : System) (consumers : Consumers) (v : Nat) : Prop
  | storage : s.storage = some v → Ahead s consumers v
  | delivery {t : Nat} : s.storage = some t → (s.stage t).awaitsDelivery = true →
      s.delivery = some v → Ahead s consumers v
  | consumer {t u channel : Nat} : s.storage = some t → (s.stage t).awaitsDelivery = true →
      s.delivery = some u → s.AwaitsRoom u channel → consumers.ofChannel channel = v →
      Ahead s consumers v

/-- There is nobody behind the third. -/
theorem Ahead.next (locks : LocksHeld s) (storage : StorageInUse s) (delivery : DeliveryInUse s)
    (ahead : s.Ahead consumers t) (waits : s.WaitsOn consumers t u) : s.Ahead consumers u := by
  cases ahead with
  | storage held =>
    rcases waits.of_storage storage held with ⟨awaits, owner⟩ | rfl
    · exact .delivery held awaits owner
    · exact .storage held
  | delivery held awaits owner =>
    obtain ⟨channel, room, consumer⟩ := waits.of_delivery delivery owner
    exact .consumer held awaits owner room consumer
  | consumer held awaits owner room consumer =>
    cases waits with
    | storage _ held => exact .storage held
    | delivery _ owner => exact .delivery held awaits owner
    | room again next =>
      exact .consumer held awaits (locks.delivery t again.holdsDelivery) again next

theorem ahead_of_chain (locks : LocksHeld s) (storage : StorageInUse s)
    (delivery : DeliveryInUse s) (idle : s.stage t = .idle)
    (chain : Relation.TransGen (s.WaitsOn consumers) t u) : s.Ahead consumers u := by
  induction chain with
  | single waits => exact .storage (waits.of_idle idle).2
  | tail _ waits ih => exact ih.next locks storage delivery waits

/-- The circles that a thread in no call can be in. -/
theorem circle_iff (locks : LocksHeld s) (storage : StorageInUse s) (delivery : DeliveryInUse s)
    {k : Nat} (idle : s.stage k = .idle) :
    Relation.TransGen (s.WaitsOn consumers) k k ↔
      s.AwaitsStorage consumers k ∧ ∃ t u channel, s.storage = some t ∧
        (s.stage t).awaitsDelivery = true ∧ s.delivery = some u ∧ s.AwaitsRoom u channel ∧
        consumers.ofChannel channel = k := by
  constructor
  · intro circle
    have asking : s.AwaitsStorage consumers k := by
      obtain ⟨v, first, -⟩ := Relation.TransGen.head'_iff.mp circle
      exact (first.of_idle idle).1
    refine ⟨asking, ?_⟩
    cases ahead_of_chain locks storage delivery idle circle with
    | storage held =>
      rcases asking with ⟨p, adding⟩ | ⟨-, without, -⟩
      · rw [idle] at adding
        cases adding
      · exact absurd held without
    | delivery _ _ owner =>
      have used := delivery k owner
      rw [idle] at used
      cases used
    | consumer held awaits owner room consumer =>
      exact ⟨_, _, _, held, awaits, owner, room, consumer⟩
  · rintro ⟨asking, t, u, channel, held, awaits, owner, room, consumer⟩
    exact .tail (.tail (.single (.storage asking held)) (.delivery awaits owner))
      (.room room consumer)

end Waiting

/-- Who has the storage hangs on room only through the delivery lock, which is another thread's. -/
theorem StorageInUse.of_hangsOnRoom (inUse : StorageInUse s) (held : s.storage = some t)
    (hangs : s.HangsOnRoom t) :
    (s.stage t).awaitsDelivery = true ∧ ∃ u channel, u ≠ t ∧ s.delivery = some u ∧
      (s.stage u).isInAdd = true ∧ s.AwaitsRoom u channel := by
  rcases hangs with ⟨channel, room⟩ | ⟨awaits, u, channel, owner, room⟩
  · exact absurd room (inUse.not_awaitsRoom held)
  · refine ⟨awaits, u, channel, ?_, owner, room.isInAdd, room⟩
    rintro rfl
    exact Stage.not_holdsDelivery_of_awaits awaits room.holdsDelivery

/-! ## Two producers -/

/-- What waits for room is left alone by steps of other threads that do not touch channels. -/
theorem AwaitsRoom.of_same (awaits : s.AwaitsRoom t channel) (stage : s'.stage t = s.stage t)
    (listeners : s'.ring.listeners = s.ring.listeners)
    (channels : s'.ring.channels = s.ring.channels) : s'.AwaitsRoom t channel := by
  obtain ⟨d, id, l, c, here, first, waiting, listener, stall, owns, known, full⟩ := awaits
  exact ⟨d, id, l, c, stage.trans here, first, waiting, listeners ▸ listener, stall, owns,
    channels ▸ known, full⟩

/-- Whenever a call of `add` waits for room, the next call of `add` blocks the storage. -/
theorem AwaitsRoom.exists_blocked (awaits : s.AwaitsRoom t channel) (owner : s.delivery = some t)
    (free : s.storage = none) (idle : s.stage u = .idle) (p : Packet) :
    ∃ s', Run s [.add u p, .enter u, .store u p, .lookUp u] s' ∧ s'.storage = some u ∧
      (s'.stage u).awaitsDelivery = true ∧ s'.delivery = some t ∧ s'.AwaitsRoom t channel ∧
      ∀ v, v ≠ u → s'.stage v = s.stage v := by
  have other : t ≠ u := by
    rintro rfl
    have used := awaits.holdsDelivery
    rw [idle] at used
    cases used
  refine ⟨_, .cons (.add idle) (.cons (.enter (placed_self ..) free)
    (.cons (.store (placed_self ..)) (.cons (.lookUp (placed_self ..)) .nil))), rfl, ?_, owner,
    awaits.of_same ?_ rfl rfl, fun v apart => ?_⟩
  · rw [move_stage, placed_self]
    rfl
  · simp only [move_stage, placed_of_ne other]
  · simp only [move_stage, placed_of_ne apart]

end System

/-- The consumer of every channel is the thread 0, which asks for the storage. -/
def askingViewer : Consumers := ⟨fun _ => 0, fun t => t = 0⟩

/-- What is there after `stallingEvents`: one call of `add` waits for room, and nobody else does
anything. -/
theorem exists_stalled :
    ∃ s, Run (.start 64) stallingEvents s ∧ s.storage = none ∧ s.delivery = some 1 ∧
      s.AwaitsRoom 1 0 ∧ ∀ t, t ≠ 1 → s.stage t = .idle := by
  refine ⟨_, .cons .openChannel (.cons (.listen rfl) (.cons (.add rfl) (.cons (.enter rfl rfl)
    (.cons (.store rfl) (.cons (.lookUp rfl) (.cons (.lockDelivery rfl rfl)
    (.cons (.unlockStorage rfl) (.cons (.serve rfl rfl) (.cons (.serve rfl rfl)
    (.cons (.serve rfl rfl) (.cons (.unlockDelivery rfl rfl) (.cons (.leave rfl)
    (.cons (.add rfl) (.cons (.enter rfl rfl) (.cons (.store rfl) (.cons (.lookUp rfl)
    (.cons (.lockDelivery rfl rfl) (.cons (.unlockStorage rfl) (.cons (.serve rfl rfl)
    (.cons (.serve rfl rfl) .nil)))))))))))))))))))), rfl, rfl, ?_, fun t other => ?_⟩
  · exact ⟨_, _, _, _, rfl, rfl, rfl, rfl, rfl, rfl, rfl, rfl⟩
  · simp only [System.move_stage, placed_of_ne other]
    rfl

/-- A channel of one place is full, and one call of `add` waits for room in it. The call of a second
producer keeps the storage until it gets the delivery lock, so it hangs on room with the storage in
its hands. If the channel's consumer now asks for the storage, all three wait for each other. -/
theorem storage_blocked_by_two_producers :
    ∃ s, Run (.start 64) (stallingEvents ++
        [.add 2 smallPacket, .enter 2, .store 2 smallPacket, .lookUp 2]) s ∧
      s.storage = some 2 ∧ s.HangsOnRoom 2 ∧ s.stage 0 = .idle ∧
      Relation.TransGen (s.WaitsOn askingViewer) 0 0 := by
  obtain ⟨m, stalled, free, owner, room, idle⟩ := exists_stalled
  obtain ⟨s, second, held, awaits, owner, room, others⟩ :=
    room.exists_blocked owner free (idle 2 (by decide)) smallPacket
  have consumer : s.stage 0 = .idle := (others 0 (by decide)).trans (idle 0 (by decide))
  have asking : s.AwaitsStorage askingViewer 0 := by
    refine .inr ⟨consumer, ?_, rfl⟩
    rw [held]
    decide
  refine ⟨s, stalled.append second, held, .inr ⟨awaits, 1, 0, owner, room⟩, consumer, ?_⟩
  exact .tail (.tail (.single (.storage asking held)) (.delivery awaits owner)) (.room room rfl)

/-- While threads wait for room in full channels,

* no thread that has the storage waits for room itself;
* one that has it hangs on room only if it waits for the delivery lock, in its own call of `add` or
  in taking a listener off the registry with the guard, and the lock is another thread's whose call
  of `add` waits for room;
* a thread in no call, as a consumer is that takes packets and looks at the storage, is in a circle
  of waiting threads exactly if it waits for the storage of such a thread, and room is missing in
  its own channel;
* so if no two calls of `add` are under way, and the guard's owner takes no listener off the
  registry, then nobody hangs on room with the storage in its hands, and no such circle exists. -/
theorem storage_under_backPressure {budget : Nat} {s : System} (reachable : Reachable budget s) :
    (∀ t channel, s.storage = some t → ¬ s.AwaitsRoom t channel) ∧
    (∀ t, s.storage = some t → s.HangsOnRoom t →
      ((∃ d, s.stage t = .addressed d) ∨ s.stage t = .removing) ∧
      ∃ u channel, u ≠ t ∧ s.delivery = some u ∧ (s.stage u).isInAdd = true ∧
        s.AwaitsRoom u channel) ∧
    (∀ consumers k, s.stage k = .idle →
      (Relation.TransGen (s.WaitsOn consumers) k k ↔
        s.AwaitsStorage consumers k ∧ ∃ t u channel, s.storage = some t ∧
          (s.stage t).awaitsDelivery = true ∧ s.delivery = some u ∧ s.AwaitsRoom u channel ∧
          consumers.ofChannel channel = k)) ∧
    ((∀ t u, (s.stage t).isInAdd = true → (s.stage u).isInAdd = true → t = u) →
      (∀ t, s.storage = some t → s.stage t ≠ .removing) →
      (∀ t, s.storage = some t → ¬ s.HangsOnRoom t) ∧
      ∀ consumers k, s.stage k = .idle → ¬ Relation.TransGen (s.WaitsOn consumers) k k) := by
  obtain ⟨es, run⟩ := reachable
  have locks := (locksHeld_start budget).run run
  have storage := (System.storageInUse_start budget).run run
  have delivery := (System.deliveryInUse_start budget).run run
  refine ⟨fun t channel held => storage.not_awaitsRoom held, fun t held hangs => ?_,
    fun consumers k idle => System.circle_iff locks storage delivery idle, fun single free => ?_⟩
  · obtain ⟨awaits, blocker⟩ := storage.of_hangsOnRoom held hangs
    exact ⟨Stage.awaitsDelivery_cases awaits, blocker⟩
  · have available : ∀ t, s.storage = some t → ¬ s.HangsOnRoom t := by
      intro t held hangs
      obtain ⟨awaits, u, channel, other, -, isInAdd, -⟩ := storage.of_hangsOnRoom held hangs
      rcases Stage.awaitsDelivery_cases awaits with ⟨d, addressed⟩ | removing
      · exact other (single u t isInAdd (by rw [addressed]; rfl))
      · exact free t held removing
    refine ⟨available, fun consumers k idle circle => ?_⟩
    obtain ⟨-, t, u, channel, held, awaits, owner, room, -⟩ :=
      (System.circle_iff locks storage delivery idle).mp circle
    exact available t held (.inr ⟨awaits, u, channel, owner, room⟩)

/-- One call of `add` waits for room while the channel's consumer asks for the storage. -/
theorem storage_under_backPressure_stalled :
    ∃ s, Run (.start 64) stallingEvents s ∧ s.AwaitsRoom 1 0 ∧ s.AwaitsStorage askingViewer 0 ∧
      (∀ t u, (s.stage t).isInAdd = true → (s.stage u).isInAdd = true → t = u) ∧
      (∀ t, s.storage = some t → s.stage t ≠ .removing) ∧
      ¬ Relation.TransGen (s.WaitsOn askingViewer) 0 0 := by
  obtain ⟨s, stalled, free, owner, room, idle⟩ := exists_stalled
  have consumer := idle 0 (by decide)
  have single : ∀ t u, (s.stage t).isInAdd = true → (s.stage u).isInAdd = true → t = u := by
    have only : ∀ t, (s.stage t).isInAdd = true → t = 1 := by
      intro t isInAdd
      by_cases producer : t = 1
      · exact producer
      · rw [idle t producer] at isInAdd
        cases isInAdd
    intro t u first second
    rw [only t first, only u second]
  have unguarded : ∀ t, s.storage = some t → s.stage t ≠ .removing := by
    rw [free]
    exact fun t => nofun
  obtain ⟨_, _, _, available⟩ := storage_under_backPressure ⟨stallingEvents, stalled⟩
  have asking : s.AwaitsStorage askingViewer 0 := .inr ⟨consumer, by rw [free]; nofun, rfl⟩
  exact ⟨s, stalled, room, asking, single, unguarded,
    (available single unguarded).2 askingViewer 0 consumer⟩

end Footage
