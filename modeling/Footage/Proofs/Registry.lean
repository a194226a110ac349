import Footage.Proofs.StepFrame

/-!
# Who is registered, and why others are not

* No two listeners in force own the same channel, and none of them was asked off the registry.
* A listener that is not in force was asked off, or its consumer is gone.
* Whoever is taken for gone in a delivery is gone.

All this is kept by every step (`WellRegistered.step`), and so it is known how a listener can
leave the registry (`WellRegistered.leaves`).
-/

namespace Footage

structure RingBuffer.WellRegistered (ring : RingBuffer) : Prop where
  distinct : ring.registry.Pairwise (ring.channelOf · ≠ ring.channelOf ·)
  inForce : ∀ id ∈ ring.registry, ∃ channel policy,
    ring.standing id = some (channel, policy, false)
  left : ∀ {id channel : Nat} {policy : FullPolicy},
    ring.standing id = some (channel, policy, false) → id ∉ ring.registry →
    ring.IsHungUp channel

theorem RingBuffer.WellRegistered.owner_unique {ring : RingBuffer} (h : ring.WellRegistered)
    {a b channel : Nat} (one : a ∈ ring.registry) (other : b ∈ ring.registry)
    (owns : ring.channelOf a = some channel) (owns' : ring.channelOf b = some channel) : a = b := by
  obtain ⟨i, hi, rfl⟩ := List.getElem_of_mem one
  obtain ⟨j, hj, rfl⟩ := List.getElem_of_mem other
  have differ := List.pairwise_iff_getElem.mp h.distinct
  rcases Nat.lt_trichotomy i j with before | rfl | after
  · exact absurd (owns.trans owns'.symm) (differ i j hi hj before)
  · rfl
  · exact absurd (owns'.trans owns.symm) (differ j i hj hi after)

/-- What holds of the listeners that a call is still to serve, and of those that it found gone. -/
structure Stage.WellAddressed (ring : RingBuffer) (stage : Stage) : Prop where
  distinct : stage.pending.Pairwise (ring.channelOf · ≠ ring.channelOf ·)
  gone : ∀ id ∈ stage.gone, ∃ channel, ring.channelOf id = some channel ∧ ring.IsHungUp channel

structure WellRegistered (s : System) : Prop where
  ring : s.ring.WellRegistered
  stages : ∀ t, (s.stage t).WellAddressed s.ring

/-- Channels of known listeners stay theirs, so they stay different. -/
theorem RingBuffer.Remembers.distinct {ring later : RingBuffer} (h : ring.Remembers later)
    {ids : List Nat} (known : ∀ id ∈ ids, id < ring.listeners.length)
    (distinct : ids.Pairwise (ring.channelOf · ≠ ring.channelOf ·)) :
    ids.Pairwise (later.channelOf · ≠ later.channelOf ·) := by
  refine distinct.imp_of_mem fun {a b} one other differ => ?_
  rw [h.channelOf_eq (known a one), h.channelOf_eq (known b other)]
  exact differ

namespace Stage.WellAddressed

variable {ring later : RingBuffer} {stage : Stage}

/-- A stage that mentions nobody. -/
theorem of_none (pending : stage.pending = []) (gone : stage.gone = []) :
    stage.WellAddressed ring := by
  refine ⟨?_, fun id mentioned => ?_⟩
  · rw [pending]
    exact .nil
  · rw [gone] at mentioned
    cases mentioned

theorem mono (h : stage.WellAddressed ring) (accounted : stage.Accounted ring)
    (remembers : ring.Remembers later) : stage.WellAddressed later := by
  refine ⟨remembers.distinct accounted.pending h.distinct, fun id mentioned => ?_⟩
  obtain ⟨channel, owns, gone⟩ := h.gone id mentioned
  exact ⟨channel, remembers.channelOf owns, remembers.hungUp gone⟩

theorem serve {d : Delivery} {served : Served} (h : (Stage.delivering d).WellAddressed ring)
    (accounted : (Stage.delivering d).Accounted ring) (step : ring.serveStep d = some served)
    (remembers : ring.Remembers served.ring) :
    (Stage.delivering served.delivery).WellAddressed served.ring := by
  obtain ⟨first, rest, l, c, pending, known, opened, case⟩ := RingBuffer.serveStep_cases step
  have old := h.mono accounted remembers
  refine ⟨old.distinct.sublist case.pending_sublist, fun id mentioned => ?_⟩
  have mentioned : id ∈ served.delivery.gone := mentioned
  rcases case.delivery_gone with same | ⟨disconnected, more⟩
  · rw [same] at mentioned
    exact old.gone id mentioned
  · rw [more, pending] at mentioned
    rcases List.mem_append.mp mentioned with before | new
    · exact old.gone id before
    · obtain rfl : id = first := List.mem_singleton.mp new
      have owns := RingBuffer.channelOf_of_standing (RingBuffer.standing_of_listener known)
      exact ⟨l.channel, remembers.channelOf owns, remembers.hungUp ⟨c, opened, disconnected⟩⟩

end Stage.WellAddressed

theorem refused_of_filter {ids : List Nat} {keeps : Nat → Bool} {id : Nat} (one : id ∈ ids)
    (out : id ∉ ids.filter keeps) : keeps id = false := by
  cases kept : keeps id with
  | false => rfl
  | true => exact absurd (List.mem_filter.mpr ⟨one, kept⟩) out

namespace WellRegistered

variable {s s' : System} {e : Event}

/-- Who is pruned owns a channel whose consumer is gone. -/
theorem hungUp_of_pruned (h : WellRegistered s) {t id : Nat} {gone : List Nat}
    (here : s.stage t = .leaving gone) (registered : id ∈ s.ring.registry)
    (out : id ∉ (s.ring.prune gone).registry) :
    ∃ channel, s.ring.channelOf id = some channel ∧ s.ring.IsHungUp channel := by
  have refused : (!gone.contains id) = false := refused_of_filter registered out
  have mentioned : id ∈ gone := by simpa using refused
  have addressed := h.stages t
  rw [here] at addressed
  exact addressed.gone id mentioned

theorem ring_step (h : WellRegistered s) (accounted : Accounted s) (step : Step s e s') :
    s'.ring.WellRegistered := by
  have remembers := step.remembers
  have change := step.registry
  have distinct := remembers.distinct accounted.ring.known h.ring.distinct
  generalize s'.ring = ring at remembers change distinct
  cases change with
  | same registry _ standing =>
    refine ⟨registry ▸ distinct, fun id one => ?_, fun {id channel policy} known out => ?_⟩
    · obtain ⟨channel, policy, known⟩ := h.ring.inForce id (registry ▸ one)
      exact ⟨channel, policy, standing ▸ known⟩
    · exact remembers.hungUp (h.ring.left (standing ▸ known) (registry ▸ out))
  | @added t channel name policy unowned =>
    have newest := (s.ring.standing_concat { channel, name, policy }
      (s.ring.registry ++ [s.ring.listeners.length]) s.ring.listeners.length).trans (if_pos rfl)
    refine ⟨List.pairwise_append.mpr ⟨distinct, List.pairwise_singleton _ _, ?_⟩,
      fun id one => ?_, fun {id channel policy} known out => ?_⟩
    · intro old registered new isNew
      rw [List.mem_singleton.mp isNew, RingBuffer.channelOf_of_standing newest,
        remembers.channelOf_eq (accounted.ring.known _ registered)]
      exact RingBuffer.listenerOf?_eq_none_iff.mp unowned old registered
    · rcases List.mem_append.mp one with old | new
      · obtain ⟨channel, policy, known⟩ := h.ring.inForce id old
        refine ⟨channel, policy, ?_⟩
        rw [s.ring.standing_concat, if_neg (Nat.ne_of_lt (RingBuffer.lt_of_standing known))]
        exact known
      · rw [List.mem_singleton.mp new]
        exact ⟨channel, policy, newest⟩
    · rw [List.mem_append, List.mem_singleton, not_or] at out
      rw [s.ring.standing_concat, if_neg out.2] at known
      exact remembers.hungUp (h.ring.left known out.1)
  | @removed t channel victim _ =>
    refine ⟨distinct.filter _, fun id one => ?_, fun {id channel policy} known out => ?_⟩
    · obtain ⟨registered, other⟩ := List.mem_filter.mp one
      obtain ⟨channel, policy, known⟩ := h.ring.inForce id registered
      refine ⟨channel, policy, ?_⟩
      rw [s.ring.standing_remove, if_neg (by simpa using other)]
      exact known
    · rw [s.ring.standing_remove] at known
      split at known
      next =>
        obtain ⟨_, _, flagged⟩ := Option.map_eq_some_iff.mp known
        cases flagged
      next other =>
        refine remembers.hungUp (h.ring.left known fun registered => out ?_)
        exact List.mem_filter.mpr ⟨registered, by simpa using other⟩
  | @pruned t gone here =>
    refine ⟨distinct.filter _, fun id one => h.ring.inForce id (List.mem_filter.mp one).1,
      fun {id channel policy} known out => ?_⟩
    have known : s.ring.standing id = some (channel, policy, false) := known
    by_cases registered : id ∈ s.ring.registry
    · obtain ⟨own, owns, hungUp⟩ := h.hungUp_of_pruned here registered out
      obtain rfl := Option.some.inj ((RingBuffer.channelOf_of_standing known).symm.trans owns)
      exact remembers.hungUp hungUp
    · exact remembers.hungUp (h.ring.left known registered)

theorem step (h : WellRegistered s) (accounted : Accounted s) (step : Step s e s') :
    WellRegistered s' := by
  refine ⟨h.ring_step accounted step, ?_⟩
  have old (u : Nat) : (s.stage u).WellAddressed s'.ring :=
    (h.stages u).mono (accounted.stages u) step.remembers
  have remembers := step.remembers
  cases step with
  | lock | unlock | extract | clear | listen | unlistenUnknown | openChannel | receive | await
    | hangUp => exact old
  | unlisten | settle | settled | add | enter | store | prune | leave =>
    exact forall_placed _ (.of_none rfl rfl) old _
  | lookUp => exact forall_placed _ ⟨h.ring.distinct, fun _ => nofun⟩ old _
  | @lockDelivery t d here _ | @unlockStorage t d here =>
    have before := old t
    rw [here] at before
    exact forall_placed _ ⟨before.distinct, before.gone⟩ old _
  | @serve t d later ring filled here step =>
    have before := h.stages t
    have mentioned := accounted.stages t
    rw [here] at before mentioned
    exact forall_placed _ (before.serve mentioned step remembers) old _
  | @timeOut t d later here waited =>
    have before := old t
    rw [here] at before
    rw [RingBuffer.timeOut_eq waited]
    exact forall_placed _ ⟨before.distinct, before.gone⟩ old _
  | @unlockDelivery t d here _ =>
    have before := old t
    rw [here] at before
    exact forall_placed _ ⟨.nil, before.gone⟩ old _

theorem start (budget : Nat) : WellRegistered (.start budget) :=
  ⟨⟨.nil, fun _ => nofun, nofun⟩, fun _ => .of_none rfl rfl⟩

theorem run {es : List Event} (h : WellRegistered s) (accounted : Accounted s)
    (run : Run s es s') : WellRegistered s' := by
  induction run with
  | nil => exact h
  | cons step _ ih => exact ih (h.step accounted step) (accounted.step step)

/-- A listener leaves the registry when its channel is asked off it, or because its consumer is
gone. -/
theorem leaves (h : WellRegistered s) (step : Step s e s') {id channel : Nat}
    (owns : s.ring.channelOf id = some channel) (registered : id ∈ s.ring.registry)
    (out : id ∉ s'.ring.registry) :
    (∃ t, e = .unlisten t channel true) ∨ (∃ t, e = .prune t) ∧ s.ring.IsHungUp channel := by
  have change := step.registry
  generalize s'.ring = ring at change out
  cases change with
  | same registry => exact absurd (registry ▸ registered) out
  | added => exact absurd (List.mem_append_left _ registered) out
  | @removed t other victim found =>
    obtain rfl : id = victim := by simpa using refused_of_filter registered out
    obtain ⟨_, l, known, asked⟩ := RingBuffer.listenerOf?_eq_some found
    have owns' := RingBuffer.channelOf_of_standing (RingBuffer.standing_of_listener known)
    obtain rfl := asked.symm.trans (Option.some.inj (owns'.symm.trans owns))
    exact .inl ⟨t, rfl⟩
  | @pruned t gone here =>
    obtain ⟨own, owns', hungUp⟩ := h.hungUp_of_pruned here registered out
    obtain rfl := Option.some.inj (owns.symm.trans owns')
    exact .inr ⟨⟨t, rfl⟩, hungUp⟩

/-- Once a channel is asked off the registry, it has no listener. -/
theorem unowned_of_unlisten (h : WellRegistered s) {t channel : Nat}
    (step : Step s (.unlisten t channel true) s') : s'.ring.listenerOf? channel = none := by
  have remembers := step.remembers
  cases step with
  | unlisten _ found =>
    obtain ⟨victim, owner, rfl⟩ := RingBuffer.unregister_true found
    obtain ⟨victimBefore, l, known, own⟩ := RingBuffer.listenerOf?_eq_some owner
    have ownsVictim := RingBuffer.channelOf_of_standing (RingBuffer.standing_of_listener known)
    rw [own] at ownsVictim
    refine RingBuffer.listenerOf?_eq_none_iff.mpr fun id registered owns => ?_
    obtain ⟨before, other⟩ := List.mem_filter.mp registered
    obtain ⟨own', policy, standing⟩ := h.ring.inForce id before
    have owns' := RingBuffer.channelOf_of_standing standing
    have same := (remembers.channelOf owns').symm.trans owns
    rw [same] at owns'
    exact absurd (h.ring.owner_unique before victimBefore owns' ownsVictim) (by simpa using other)

end WellRegistered

theorem Reachable.wellRegistered {budget : Nat} {s : System} (h : Reachable budget s) :
    WellRegistered s :=
  let ⟨_, run⟩ := h
  (WellRegistered.start budget).run (accounted_start budget) run

end Footage
