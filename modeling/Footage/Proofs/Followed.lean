import Footage.Proofs.ThreadInvariant

/-!
# Listeners that are followed to the end

A listener with the policy to stall misses nothing as long as it is registered, its consumer is
there, and its channel is its own. This is so from the moment at which a fresh channel is
registered (`InForce.of_fresh`) until the consumer goes away or starts to take its listener off
the registry (`Event.endsListening`), whatever all others do in between (`Followed.step`).
-/

namespace Footage

namespace Event

/-- The consumer of a channel goes away, or starts to take its listener off the registry. -/
def endsListening (channel : Nat) : Event → Bool
  | .unlisten _ c _ => c = channel
  | .hangUp c => c = channel
  | _ => false

end Event

/-! ## Listeners in force -/

/-- A listener that is owed every packet, and a channel of its own. -/
structure InForce (ring : RingBuffer) (id channel : Nat) : Prop where
  standing : ring.standing id = some (channel, .stall, false)
  alone : ∀ other policy removed, ring.standing other = some (channel, policy, removed) →
    other = id
  registered : id ∈ ring.registry
  connected : ring.isConnected channel = true

/-- A channel that nobody has used yet. -/
structure RingBuffer.IsFresh (ring : RingBuffer) (channel : Nat) : Prop where
  empty : ring.queue channel = []
  connected : ring.isConnected channel = true
  unused : ∀ l, l ∈ ring.listeners → l.channel ≠ channel

theorem RingBuffer.standing_concat (ring : RingBuffer) (l : Listener) (registry : List Nat)
    (other : Nat) :
    { ring with listeners := ring.listeners ++ [l], registry }.standing other =
      if other = ring.listeners.length then some l.standing else ring.standing other := by
  simp only [standing, List.getElem?_append]
  split
  next known => rw [if_neg (Nat.ne_of_lt known)]
  next unknown =>
    split
    next last =>
      rw [last, Nat.sub_self]
      rfl
    next beyond =>
      have nothing : [l][other - ring.listeners.length]? = none :=
        List.getElem?_eq_none (by show 1 ≤ _; omega)
      rw [nothing, List.getElem?_eq_none (Nat.le_of_not_lt unknown)]

namespace InForce

variable {ring later : RingBuffer} {id channel : Nat}

theorem listener (h : InForce ring id channel) : ∃ l, ring.listeners[id]? = some l ∧
    l.channel = channel ∧ l.policy = .stall ∧ l.isRemoved = false := by
  obtain ⟨l, known, standing⟩ := Option.map_eq_some_iff.mp h.standing
  simp only [Listener.standing, Prod.mk.injEq] at standing
  exact ⟨l, known, standing⟩

/-- What a delivery finds when the listener is its turn. -/
theorem served (h : InForce ring id channel) {l : Listener} {c : Channel}
    (known : ring.listeners[id]? = some l) (opened : ring.channels[l.channel]? = some c) :
    l.channel = channel ∧ l.policy = .stall ∧ l.isRemoved = false ∧ c.isConnected = true := by
  obtain ⟨own, known', owns, stalls, kept⟩ := h.listener
  rw [known] at known'
  cases known'
  have connected := h.connected
  rw [RingBuffer.isConnected, ← owns, opened] at connected
  exact ⟨owns, stalls, kept, connected⟩

/-- What has nothing to do with the listener leaves it in force. -/
theorem of_same (h : InForce ring id channel) (standing : later.standing = ring.standing)
    (registered : id ∈ later.registry) (connected : later.isConnected channel = true) :
    InForce later id channel :=
  ⟨standing ▸ h.standing, standing ▸ h.alone, registered, connected⟩

/-- Whoever else is registered gets another channel. -/
theorem register (h : InForce ring id channel) (other : Nat) (name : String)
    (policy : FullPolicy) : InForce (ring.register other name policy) id channel := by
  rcases ring.register_eq other name policy with same | ⟨unowned, grown⟩
  · rw [same]
    exact h
  · obtain ⟨l, known, owns, _⟩ := h.listener
    -- the registry refuses a second listener for the channel
    have ne : other ≠ channel := by
      intro same
      have owned := RingBuffer.listenerOf?_isSome h.registered known owns
      rw [← same, unowned] at owned
      cases owned
    have old : id < ring.listeners.length := (List.getElem?_eq_some_iff.mp known).1
    rw [grown]
    refine ⟨?_, fun candidate policy removed standing => ?_,
      List.mem_append_left _ h.registered, h.connected⟩
    · rw [RingBuffer.standing_concat, if_neg (Nat.ne_of_lt old)]
      exact h.standing
    · rw [RingBuffer.standing_concat] at standing
      split at standing
      next =>
        simp only [Listener.standing, Option.some.injEq, Prod.mk.injEq] at standing
        exact absurd standing.1 ne
      next => exact h.alone candidate policy removed standing

/-- Taking another channel off the registry leaves the listener in force. -/
theorem unregister (h : InForce ring id channel) {other : Nat} (ne : other ≠ channel)
    (gone : ring.unregister other = (true, later)) : InForce later id channel := by
  obtain ⟨victim, owner, rfl⟩ := RingBuffer.unregister_true gone
  obtain ⟨_, l, known, owns⟩ := RingBuffer.listenerOf?_eq_some owner
  have standing_of_ne (candidate : Nat) (differs : victim ≠ candidate) :
      (ring.changeListener victim ({ · with isRemoved := true })).standing candidate =
        ring.standing candidate := by
    simp only [RingBuffer.standing, RingBuffer.changeListener,
      List.getElem?_modify_ne _ _ differs]
  have differs : victim ≠ id := by
    intro same
    obtain ⟨own, known', owns', _⟩ := h.listener
    rw [← same, known] at known'
    cases known'
    exact ne (owns.symm.trans owns')
  refine ⟨?_, fun candidate policy removed standing => ?_,
    List.mem_filter.mpr ⟨h.registered, by simpa using differs.symm⟩, h.connected⟩
  · exact (standing_of_ne id differs).trans h.standing
  · by_cases same : victim = candidate
    · subst same
      simp only [RingBuffer.standing, RingBuffer.changeListener, List.getElem?_modify_eq,
        known] at standing
      simp only [Option.map_eq_map, Option.map_some, Listener.standing, Option.some.injEq,
        Prod.mk.injEq] at standing
      exact absurd (owns.symm.trans standing.1) ne
    · exact h.alone candidate policy removed
        ((standing_of_ne candidate same).symm.trans standing)

/-- A listener with a fresh channel is in force once it is registered. -/
theorem of_fresh (fresh : ring.IsFresh channel) (name : String) :
    InForce (ring.register channel name .stall) ring.listeners.length channel := by
  have unused (other : Nat) (policy : FullPolicy) (removed : Bool) :
      ring.standing other ≠ some (channel, policy, removed) := by
    intro standing
    obtain ⟨l, known, standing⟩ := Option.map_eq_some_iff.mp standing
    simp only [Listener.standing, Prod.mk.injEq] at standing
    exact fresh.unused l (List.mem_of_getElem? known) standing.1
  have unowned : ring.listenerOf? channel = none := by
    cases owner : ring.listenerOf? channel with
    | none => rfl
    | some id =>
      obtain ⟨_, l, known, owns⟩ := RingBuffer.listenerOf?_eq_some owner
      exact absurd owns (fresh.unused l (List.mem_of_getElem? known))
  rw [RingBuffer.register, unowned]
  refine ⟨?_, fun other policy removed standing => ?_, ?_, fresh.connected⟩
  · exact (ring.standing_concat _ _ _).trans (if_pos rfl)
  · have standing := (ring.standing_concat _ _ other).symm.trans standing
    split at standing
    next same => exact same
    next => exact absurd standing (unused other policy removed)
  · exact List.mem_append_right _ (List.mem_singleton_self _)

/-! ### Deliveries -/

/-- A delivery never finds the consumer gone. -/
theorem notGone_serveStep (h : InForce ring id channel) {d : Delivery} {served : Served}
    (step : ring.serveStep d = some served) (notGone : id ∉ d.gone) :
    id ∉ served.delivery.gone := by
  obtain ⟨first, rest, l, c, pending, known, opened, case⟩ := RingBuffer.serveStep_cases step
  rcases case.delivery_gone with same | ⟨disconnected, more⟩
  · rw [same]
    exact notGone
  · rw [more, pending]
    intro mentioned
    rcases List.mem_append.mp mentioned with old | new
    · exact notGone old
    · obtain rfl : id = first := List.mem_singleton.mp new
      obtain ⟨_, _, _, connected⟩ := h.served known opened
      exact absurd (connected.symm.trans disconnected) (by decide)

theorem serveStep (h : InForce ring id channel) {d : Delivery} {served : Served}
    (step : ring.serveStep d = some served) : InForce served.ring id channel := by
  obtain ⟨first, rest, l, c, _, _, opened, case⟩ := RingBuffer.serveStep_cases step
  refine h.of_same case.standing (by rw [case.registry]; exact h.registered) ?_
  cases case with
  | skipped | advanced | gone | stalled | missed => exact h.connected
  | filled c' accepted =>
    refine (RingBuffer.isConnected_changeChannel_of_same fun old same => ?_).trans h.connected
    rw [opened] at same
    cases same
    rw [Channel.offer_accepted accepted]

end InForce

/-! ## A listener that is followed -/

/-- What holds as long as the consumer listens. -/
structure Followed (s : System) (id channel : Nat) : Prop where
  inForce : InForce s.ring id channel
  notGone : ∀ t, id ∉ (s.stage t).gone

namespace Followed

variable {s s' : System} {e : Event} {id channel : Nat}

/-- A change of the ring that leaves the listener in force. -/
theorem elsewhere (h : Followed s id channel) {ring : RingBuffer} {storage delivery : Option Nat}
    (inForce : InForce ring id channel) :
    Followed { ring, storage, delivery, stage := s.stage } id channel := ⟨inForce, h.notGone⟩

theorem moved (h : Followed s id channel) {t : Nat} {stage : Stage} {ring : RingBuffer}
    {storage delivery : Option Nat} (inForce : InForce ring id channel) (new : id ∉ stage.gone) :
    Followed ({ ring, storage, delivery, stage := s.stage : System }.move t stage) id channel :=
  ⟨inForce, forall_placed (id ∉ ·.gone) new h.notGone t⟩

theorem step (h : Followed s id channel) (step : Step s e s')
    (stays : e.endsListening channel = false) : Followed s' id channel := by
  have inForce := h.inForce
  cases step with
  | lock | unlock => exact h.elsewhere inForce
  | clear => exact h.elsewhere (inForce.of_same rfl inForce.registered inForce.connected)
  | extract _ _ taken =>
    obtain rfl := congrArg Prod.snd taken
    exact h.elsewhere (inForce.of_same rfl inForce.registered inForce.connected)
  | listen => exact h.elsewhere (inForce.register _ _ _)
  | unlistenUnknown _ unknown =>
    rw [RingBuffer.unregister_false unknown]
    exact h
  | @unlisten t other ring _ found =>
    have ne : other ≠ channel := by simpa [Event.endsListening] using stays
    exact h.moved (inForce.unregister ne found) List.not_mem_nil
  | settle | settled | add | enter => exact h.moved inForce List.not_mem_nil
  | store =>
    exact h.moved (inForce.of_same rfl inForce.registered inForce.connected) List.not_mem_nil
  | lookUp => exact h.moved inForce List.not_mem_nil
  | @lockDelivery t d here _ | @unlockStorage t d here | @unlockDelivery t d here _ =>
    have notGone := h.notGone t
    rw [here] at notGone
    exact h.moved inForce notGone
  | @serve t d later ring filled here step =>
    have notGone := h.notGone t
    rw [here] at notGone
    exact h.moved (inForce.serveStep step) (inForce.notGone_serveStep step notGone)
  | @timeOut t d later here waited =>
    have notGone := h.notGone t
    rw [here] at notGone
    rw [RingBuffer.timeOut_eq waited]
    exact h.moved inForce notGone
  | @prune t gone here _ =>
    have notGone : id ∉ (s.stage t).gone := h.notGone t
    rw [here] at notGone
    have notGone : id ∉ gone := notGone
    refine h.moved (inForce.of_same rfl ?_ inForce.connected) List.not_mem_nil
    exact List.mem_filter.mpr ⟨inForce.registered, by simpa using notGone⟩
  | leave => exact h.moved inForce List.not_mem_nil
  | openChannel =>
    exact h.elsewhere (inForce.of_same rfl inForce.registered
      (RingBuffer.isConnected_openChannel inForce.connected))
  | receive taken =>
    obtain ⟨c, rest, opened, _, rfl⟩ := RingBuffer.receive_eq taken
    refine h.elsewhere (inForce.of_same rfl inForce.registered ?_)
    refine (RingBuffer.isConnected_changeChannel_of_same fun old same => ?_).trans
      inForce.connected
    rw [opened] at same
    cases same
    rfl
  | await =>
    refine h.elsewhere (inForce.of_same rfl inForce.registered ?_)
    refine (RingBuffer.isConnected_changeChannel_of_same fun _ _ => ?_).trans inForce.connected
    rfl
  | @hangUp other =>
    have ne : other ≠ channel := by simpa [Event.endsListening] using stays
    refine h.elsewhere (inForce.of_same rfl inForce.registered ?_)
    exact (RingBuffer.isConnected_changeChannel_of_ne ne).trans inForce.connected

end Followed

end Footage
