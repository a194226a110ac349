import Footage.Ring.Buffer

/-!
# What the operations of a ring buffer leave alone

Threads and consumers change one ring buffer in turn, and most of what one of them does is
nothing to the others. This module says for each operation what it does to

* the queue of a channel (`queue`) and its consumer (`isConnected`),
* what a listener was registered for (`standing`),
* the registry.

`serveStep` is opened once, in `serveStep_cases`; what a delivery does to channels and
listeners follows from the list of cases `ServeCase`.
-/

namespace Footage

/-- What a listener was registered for, and whether it is off the registry by request. -/
def Listener.standing (l : Listener) : Nat × FullPolicy × Bool := (l.channel, l.policy, l.isRemoved)

namespace Channel

theorem offer_accepted {c c' : Channel} {p : Packet} (h : c.offer p = .accepted c') :
    c' = { c with queue := c.queue ++ [p] } := by
  unfold offer at h
  split at h
  · cases h
  · split at h
    · cases h
      rfl
    · cases h

theorem offer_disconnected {c : Channel} {p : Packet} (h : c.offer p = .disconnected) :
    c.isConnected = false := by
  unfold offer at h
  split at h
  next gone => simpa using gone
  next => split at h <;> cases h

end Channel

namespace RingBuffer

variable {ring later : RingBuffer}

def standing (ring : RingBuffer) (id : Nat) : Option (Nat × FullPolicy × Bool) :=
  ring.listeners[id]?.map Listener.standing

def queue (ring : RingBuffer) (channel : Nat) : List Packet :=
  (ring.channels[channel]?.map (·.queue)).getD []

def isConnected (ring : RingBuffer) (channel : Nat) : Bool :=
  (ring.channels[channel]?.map (·.isConnected)).getD false

/-! ## Channels and listeners -/

theorem queue_of_channel {channel : Nat} {c : Channel} (known : ring.channels[channel]? = some c) :
    ring.queue channel = c.queue := by
  rw [queue, known]
  rfl

theorem queue_changeChannel_of_ne {channel other : Nat} {change : Channel → Channel}
    (ne : other ≠ channel) :
    (ring.changeChannel other change).queue channel = ring.queue channel := by
  rw [queue, changeChannel, List.getElem?_modify_ne _ _ ne]
  rfl

theorem queue_changeChannel_self {channel : Nat} {c c' : Channel}
    (known : ring.channels[channel]? = some c) :
    (ring.changeChannel channel fun _ => c').queue channel = c'.queue := by
  rw [queue, changeChannel, List.getElem?_modify_eq, known]
  rfl

theorem queue_changeChannel_of_same {channel other : Nat} {change : Channel → Channel}
    (same : ∀ c, (change c).queue = c.queue) :
    (ring.changeChannel other change).queue channel = ring.queue channel := by
  by_cases ne : other = channel
  · subst ne
    rw [queue, changeChannel, List.getElem?_modify_eq, queue]
    cases ring.channels[other]? with
    | none => rfl
    | some c => exact same c
  · exact queue_changeChannel_of_ne ne

theorem isConnected_changeChannel_of_ne {channel other : Nat} {change : Channel → Channel}
    (ne : other ≠ channel) :
    (ring.changeChannel other change).isConnected channel = ring.isConnected channel := by
  rw [isConnected, changeChannel, List.getElem?_modify_ne _ _ ne]
  rfl

theorem isConnected_changeChannel_of_same {channel other : Nat} {change : Channel → Channel}
    (same : ∀ c, ring.channels[other]? = some c → (change c).isConnected = c.isConnected) :
    (ring.changeChannel other change).isConnected channel = ring.isConnected channel := by
  by_cases ne : other = channel
  · subst ne
    rw [isConnected, changeChannel, List.getElem?_modify_eq, isConnected]
    cases known : ring.channels[other]? with
    | none => rfl
    | some c => exact same c known
  · exact isConnected_changeChannel_of_ne ne

theorem queue_openChannel (capacity channel : Nat) :
    (ring.openChannel capacity).2.queue channel = ring.queue channel := by
  simp only [openChannel, queue, List.getElem?_append]
  split
  · rfl
  · next beyond =>
    rw [List.getElem?_eq_none (Nat.le_of_not_lt beyond)]
    cases channel - ring.channels.length <;> rfl

theorem isConnected_openChannel {capacity channel : Nat} (h : ring.isConnected channel = true) :
    (ring.openChannel capacity).2.isConnected channel = true := by
  simp only [openChannel, isConnected, List.getElem?_append]
  split
  · exact h
  · next beyond =>
    rw [isConnected, List.getElem?_eq_none (Nat.le_of_not_lt beyond)] at h
    cases h

theorem standing_changeListener {id : Nat} {change : Listener → Listener}
    (same : ∀ l, (change l).standing = l.standing) :
    (ring.changeListener id change).standing = ring.standing := by
  funext other
  simp only [standing, changeListener]
  by_cases ne : id = other
  · subst ne
    rw [List.getElem?_modify_eq]
    cases ring.listeners[id]? with
    | none => rfl
    | some l => exact congrArg some (same l)
  · rw [List.getElem?_modify_ne _ _ ne]

theorem receive_eq {channel : Nat} {p : Packet} (h : ring.receive channel = (some p, later)) :
    ∃ c rest, ring.channels[channel]? = some c ∧ c.queue = p :: rest ∧
      later = ring.changeChannel channel fun _ => { c with queue := rest, isAwaited := false } := by
  unfold receive Channel.receive at h
  split at h
  · cases h
  · next c known =>
    cases waiting : c.queue with
    | nil =>
      rw [waiting] at h
      cases h
    | cons q rest =>
      rw [waiting] at h
      cases h
      exact ⟨c, rest, known, waiting, rfl⟩

theorem queue_receive {channel : Nat} {p : Packet} (h : ring.receive channel = (some p, later)) :
    ring.queue channel = p :: later.queue channel := by
  obtain ⟨c, rest, known, waiting, rfl⟩ := receive_eq h
  rw [queue_changeChannel_self known, queue_of_channel known]
  exact waiting

/-- A channel gives a packet as long as one waits in it. -/
theorem queued_of_receive {channel : Nat} {taken : Option Packet}
    (h : ring.receive channel = (taken, later)) :
    ring.queued channel = if taken.isSome then later.queued channel + 1 else 0 := by
  cases taken with
  | some p =>
    obtain ⟨c, rest, known, waiting, rfl⟩ := receive_eq h
    simp [queued, changeChannel, known, waiting]
  | none =>
    unfold receive Channel.receive at h
    cases known : ring.channels[channel]? with
    | none => simp [queued, known]
    | some c =>
      cases waiting : c.queue with
      | nil => simp [queued, known, waiting]
      | cons p rest =>
        rw [known] at h
        simp only [waiting] at h
        cases h

/-! ## The registry -/

theorem listenerOf?_eq_some {channel id : Nat} (h : ring.listenerOf? channel = some id) :
    id ∈ ring.registry ∧ ∃ l, ring.listeners[id]? = some l ∧ l.channel = channel := by
  unfold listenerOf? at h
  refine ⟨List.mem_of_find?_eq_some h, ?_⟩
  have owns := List.find?_some h
  simpa using owns

theorem listenerOf?_isSome {channel id : Nat} {l : Listener} (registered : id ∈ ring.registry)
    (known : ring.listeners[id]? = some l) (owns : l.channel = channel) :
    (ring.listenerOf? channel).isSome := by
  unfold listenerOf?
  exact List.find?_isSome.mpr ⟨id, registered, by simp [known, owns]⟩

theorem register_eq (channel : Nat) (name : String) (policy : FullPolicy) :
    ring.register channel name policy = ring ∨
    ring.listenerOf? channel = none ∧ ring.register channel name policy =
      { ring with
        listeners := ring.listeners ++ [{ channel, name, policy }]
        registry := ring.registry ++ [ring.listeners.length] } := by
  unfold register
  cases owned : ring.listenerOf? channel with
  | none => exact .inr ⟨rfl, rfl⟩
  | some id => exact .inl rfl

theorem queue_register (ring : RingBuffer) (other : Nat) (name : String) (policy : FullPolicy)
    (channel : Nat) : (ring.register other name policy).queue channel = ring.queue channel := by
  rcases ring.register_eq other name policy with same | ⟨_, grown⟩
  · rw [same]
  · rw [grown]
    rfl

theorem unregister_true {channel : Nat} (h : ring.unregister channel = (true, later)) :
    ∃ id, ring.listenerOf? channel = some id ∧
      later = { ring.changeListener id ({ · with isRemoved := true }) with
        registry := ring.registry.filter (· ≠ id) } := by
  unfold unregister at h
  split at h
  · cases h
  · next id found =>
    cases h
    exact ⟨id, found, rfl⟩

theorem unregister_false {channel : Nat} (h : ring.unregister channel = (false, later)) :
    later = ring := by
  unfold unregister at h
  split at h
  · cases h
    rfl
  · cases h

theorem unowned_of_unregister {channel : Nat} (h : ring.unregister channel = (false, later)) :
    ring.listenerOf? channel = none := by
  unfold unregister at h
  split at h
  next unowned => exact unowned
  next => cases h

/-! ## One step of a delivery -/

/-- What one step can do for the listener that is first in line. -/
inductive ServeCase (ring : RingBuffer) (d : Delivery) (id : Nat) (l : Listener) (c : Channel) :
    Served → Prop
  | skipped : l.isRemoved = true → ServeCase ring d id l c { ring, delivery := d.next }
  | advanced (progress : Progress) :
      ServeCase ring d id l c { ring, delivery := { d with progress } }
  | stalled : ServeCase ring d id l c
      { ring := ring.changeListener id fun l => { l with stalled := l.stalled + 1 }
        delivery := { d with progress := .waiting } }
  | filled (c' : Channel) : c.offer d.packet = .accepted c' →
      ServeCase ring d id l c (ring.fill d id l.channel c')
  | missed : l.policy = .drop → ServeCase ring d id l c
      { ring := ring.changeListener id fun l => { l with dropped := l.dropped + 1 }
        delivery := d.next }
  | gone : c.isConnected = false → ServeCase ring d id l c { ring, delivery := d.nextGone }

theorem serveStep_cases {d : Delivery} {served : Served} (h : ring.serveStep d = some served) :
    ∃ id rest l c, d.pending = id :: rest ∧ ring.listeners[id]? = some l ∧
      ring.channels[l.channel]? = some c ∧ ServeCase ring d id l c served := by
  unfold serveStep at h
  obtain ⟨id, first, h⟩ := Option.bind_eq_some_iff.mp h
  obtain ⟨l, listener, h⟩ := Option.bind_eq_some_iff.mp h
  obtain ⟨c, channel, h⟩ := Option.bind_eq_some_iff.mp h
  obtain ⟨rest, pending⟩ := List.head?_eq_some_iff.mp first
  refine ⟨id, rest, l, c, pending, listener, channel, ?_⟩
  split at h
  · split at h
    next removed => cases h; exact .skipped removed
    next => cases h; exact .advanced .inForce
  · split at h
    next drop =>
      split at h
      next c' accepted => cases h; exact .filled c' accepted
      next gone => cases h; exact .gone (Channel.offer_disconnected gone)
      next => cases h; exact .missed drop
    next =>
      cases h
      split
      · exact .stalled
      · exact .advanced .waiting
  · split at h
    next c' accepted => cases h; exact .filled c' accepted
    next gone => cases h; exact .gone (Channel.offer_disconnected gone)
    next =>
      split at h
      next => cases h; exact .advanced .timedOut
      next => cases h
  · split at h
    next removed => cases h; exact .skipped removed
    next => cases h; exact .advanced .waiting

namespace ServeCase

variable {d : Delivery} {id : Nat} {l : Listener} {c : Channel} {served : Served}

theorem store (h : ServeCase ring d id l c served) : served.ring.store = ring.store := by
  cases h <;> rfl

theorem registry (h : ServeCase ring d id l c served) : served.ring.registry = ring.registry := by
  cases h <;> rfl

theorem standing (h : ServeCase ring d id l c served) : served.ring.standing = ring.standing := by
  cases h with
  | skipped | advanced | gone => rfl
  | stalled | missed | filled => exact standing_changeListener fun _ => rfl

theorem length_listeners (h : ServeCase ring d id l c served) :
    served.ring.listeners.length = ring.listeners.length := by
  cases h with
  | skipped | advanced | gone => rfl
  | stalled | missed | filled => exact List.length_modify ..

theorem pending_sublist (h : ServeCase ring d id l c served) :
    served.delivery.pending.Sublist d.pending := by
  cases h with
  | advanced | stalled => exact .refl _
  | skipped | filled | missed | gone => exact List.tail_sublist _

theorem delivery_gone (h : ServeCase ring d id l c served) :
    served.delivery.gone = d.gone ∨
    c.isConnected = false ∧ served.delivery.gone = d.gone ++ d.pending.take 1 := by
  cases h with
  | skipped | advanced | stalled | filled | missed => exact .inl rfl
  | gone disconnected => exact .inr ⟨disconnected, rfl⟩

end ServeCase

/-- Waiting changes nothing but the progress. -/
theorem timeOut_eq {d later : Delivery} (h : ring.timeOut d = some later) :
    later = { d with progress := .timedOut } := by
  unfold timeOut at h
  obtain ⟨id, _, h⟩ := Option.bind_eq_some_iff.mp h
  obtain ⟨l, _, h⟩ := Option.bind_eq_some_iff.mp h
  obtain ⟨c, _, h⟩ := Option.bind_eq_some_iff.mp h
  split at h
  · cases h
    rfl
  · cases h

end RingBuffer

end Footage
