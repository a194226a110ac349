import Footage.Ring.Threads
import Footage.Proofs.RingFrame

/-!
# What holds in every reachable system

* `LocksHeld`: a call that is past taking a lock and before giving it back is what the lock says
  holds it. So no two calls are between the same lock and unlock (`storage_exclusive`,
  `delivery_exclusive`).
* `Accounted`: nobody is registered or pending twice, and every listener that is mentioned
  anywhere exists. A listener that is made next is therefore mentioned nowhere.

Both are kept by every step (`LocksHeld.step`, `Accounted.step`).
-/

namespace Footage

namespace Stage

def holdsStorage : Stage → Bool
  | storing _ | stored _ | addressed _ | handing _ => true
  | _ => false

def holdsDelivery : Stage → Bool
  | handing _ | delivering _ | settling => true
  | _ => false

def pending : Stage → List Nat
  | addressed d | handing d | delivering d => d.pending
  | _ => []

def gone : Stage → List Nat
  | addressed d | handing d | delivering d => d.gone
  | leaving gone => gone
  | _ => []

end Stage

@[simp] theorem placed_self (stages : Nat → Stage) (t : Nat) (stage : Stage) :
    placed stages t stage t = stage := if_pos rfl

theorem placed_of_ne {stages : Nat → Stage} {t u : Nat} {stage : Stage} (ne : u ≠ t) :
    placed stages t stage u = stages u := if_neg ne

/-- What holds of the new stage and of all old ones holds of every stage afterwards. -/
theorem forall_placed (P : Stage → Prop) {stages : Nat → Stage} {stage : Stage} (new : P stage)
    (old : ∀ u, P (stages u)) (t u : Nat) : P (placed stages t stage u) := by
  by_cases same : u = t
  · rw [same, placed_self]
    exact new
  · rw [placed_of_ne same]
    exact old u

namespace System

@[simp] theorem move_ring (s : System) (t : Nat) (stage : Stage) : (s.move t stage).ring = s.ring :=
  rfl

@[simp] theorem move_storage (s : System) (t : Nat) (stage : Stage) :
    (s.move t stage).storage = s.storage := rfl

@[simp] theorem move_delivery (s : System) (t : Nat) (stage : Stage) :
    (s.move t stage).delivery = s.delivery := rfl

@[simp] theorem move_stage (s : System) (t : Nat) (stage : Stage) :
    (s.move t stage).stage = placed s.stage t stage := rfl

end System

/-! ## Locks -/

structure LocksHeld (s : System) : Prop where
  storage : ∀ t, (s.stage t).holdsStorage = true → s.storage = some t
  delivery : ∀ t, (s.stage t).holdsDelivery = true → s.delivery = some t

namespace LocksHeld

variable {s s' : System}

theorem storage_exclusive (h : LocksHeld s) {t u : Nat} (ht : (s.stage t).holdsStorage = true)
    (hu : (s.stage u).holdsStorage = true) : t = u :=
  Option.some.inj ((h.storage t ht).symm.trans (h.storage u hu))

theorem delivery_exclusive (h : LocksHeld s) {t u : Nat} (ht : (s.stage t).holdsDelivery = true)
    (hu : (s.stage u).holdsDelivery = true) : t = u :=
  Option.some.inj ((h.delivery t ht).symm.trans (h.delivery u hu))

/-- A free lock is held by no call. -/
theorem storage_free (h : LocksHeld s) (free : s.storage = none) (u : Nat) :
    (s.stage u).holdsStorage ≠ true := by
  intro held
  have owner := h.storage u held
  rw [free] at owner
  cases owner

theorem delivery_free (h : LocksHeld s) (free : s.delivery = none) (u : Nat) :
    (s.stage u).holdsDelivery ≠ true := by
  intro held
  have owner := h.delivery u held
  rw [free] at owner
  cases owner

/-- After a step of one thread the lock knows its holder if it does for this thread, and still
does for the others. -/
theorem after_move {holds : Stage → Bool} {owner : Option Nat} {t : Nat} {stage : Stage}
    (new : holds stage = true → owner = some t)
    (others : ∀ u, u ≠ t → holds (s.stage u) = true → owner = some u) (u : Nat)
    (held : holds (placed s.stage t stage u) = true) : owner = some u := by
  by_cases same : u = t
  · subst same
    rw [placed_self] at held
    exact new held
  · rw [placed_of_ne same] at held
    exact others u same held

/-- A step within a call that neither takes nor gives back a lock. -/
theorem within (h : LocksHeld s) {t : Nat} {stage : Stage} (ring : RingBuffer)
    (storage : stage.holdsStorage = (s.stage t).holdsStorage)
    (delivery : stage.holdsDelivery = (s.stage t).holdsDelivery) :
    LocksHeld ({ s with ring }.move t stage) :=
  ⟨after_move (fun held => h.storage t (storage ▸ held)) fun u _ => h.storage u,
    after_move (fun held => h.delivery t (delivery ▸ held)) fun u _ => h.delivery u⟩

theorem step {e : Event} (h : LocksHeld s) (step : Step s e s') : LocksHeld s' := by
  cases step with
  | lock _ free => exact ⟨fun u held => absurd held (h.storage_free free u), h.delivery⟩
  | @unlock t here held =>
    refine ⟨fun u held' => ?_, h.delivery⟩
    have same : t = u := Option.some.inj (held.symm.trans (h.storage u held'))
    subst same
    rw [show s.stage t = .idle from here] at held'
    cases held'
  | settle here free =>
    exact ⟨after_move Bool.noConfusion fun u _ => h.storage u,
      after_move (fun _ => rfl) fun u _ held => absurd held (h.delivery_free free u)⟩
  | settled here =>
    exact ⟨after_move Bool.noConfusion fun u _ => h.storage u,
      after_move Bool.noConfusion fun u ne held =>
        absurd (h.delivery_exclusive held (by rw [here]; rfl)) ne⟩
  | enter here free =>
    exact ⟨after_move (fun _ => rfl) fun u _ held => absurd held (h.storage_free free u),
      after_move Bool.noConfusion fun u _ => h.delivery u⟩
  | lockDelivery here free =>
    exact ⟨after_move (fun _ => h.storage _ (by rw [here]; rfl)) fun u _ => h.storage u,
      after_move (fun _ => rfl) fun u _ held => absurd held (h.delivery_free free u)⟩
  | unlockStorage here =>
    exact ⟨after_move Bool.noConfusion fun u ne held =>
        absurd (h.storage_exclusive held (by rw [here]; rfl)) ne,
      after_move (fun _ => h.delivery _ (by rw [here]; rfl)) fun u _ => h.delivery u⟩
  | unlockDelivery here _ =>
    exact ⟨after_move Bool.noConfusion fun u _ => h.storage u,
      after_move Bool.noConfusion fun u ne held =>
        absurd (h.delivery_exclusive held (by rw [here]; rfl)) ne⟩
  | unlisten here _ => exact h.within _ (by rw [here]; rfl) (by rw [here]; rfl)
  | add here => exact h.within _ (by rw [here]; rfl) (by rw [here]; rfl)
  | store here => exact h.within _ (by rw [here]; rfl) (by rw [here]; rfl)
  | lookUp here => exact h.within _ (by rw [here]; rfl) (by rw [here]; rfl)
  | serve here _ => exact h.within _ (by rw [here]; rfl) (by rw [here]; rfl)
  | timeOut here _ => exact h.within _ (by rw [here]; rfl) (by rw [here]; rfl)
  | prune here _ => exact h.within _ (by rw [here]; rfl) (by rw [here]; rfl)
  | leave here => exact h.within _ (by rw [here]; rfl) (by rw [here]; rfl)
  | extract | clear | listen | unlistenUnknown | openChannel | receive | await | hangUp =>
    exact ⟨h.storage, h.delivery⟩

end LocksHeld

/-! ## Who is mentioned -/

/-- Nobody is registered twice, and who is registered exists. -/
structure RingBuffer.Accounted (ring : RingBuffer) : Prop where
  nodup : ring.registry.Nodup
  known : ∀ id, id ∈ ring.registry → id < ring.listeners.length

/-- Nobody is served twice, and who is mentioned exists. -/
structure Stage.Accounted (ring : RingBuffer) (stage : Stage) : Prop where
  nodup : stage.pending.Nodup
  pending : ∀ id, id ∈ stage.pending → id < ring.listeners.length
  gone : ∀ id, id ∈ stage.gone → id < ring.listeners.length

structure Accounted (s : System) : Prop where
  ring : s.ring.Accounted
  stages : ∀ t, (s.stage t).Accounted s.ring

section Operations

variable {ring later : RingBuffer}

/-- A stage that mentions nobody. -/
theorem Stage.Accounted.of_none {stage : Stage} (pending : stage.pending = [])
    (gone : stage.gone = []) : stage.Accounted ring := by
  refine ⟨?_, fun id mentioned => ?_, fun id mentioned => ?_⟩
  · rw [pending]
    exact .nil
  · rw [pending] at mentioned
    cases mentioned
  · rw [gone] at mentioned
    cases mentioned

/-- Listeners are never forgotten. -/
theorem Stage.Accounted.mono {stage : Stage} (h : stage.Accounted ring)
    (longer : ring.listeners.length ≤ later.listeners.length) : stage.Accounted later :=
  ⟨h.nodup, fun id mentioned => Nat.lt_of_lt_of_le (h.pending id mentioned) longer,
    fun id mentioned => Nat.lt_of_lt_of_le (h.gone id mentioned) longer⟩

/-- Registered listeners may leave. -/
theorem RingBuffer.Accounted.filter (h : ring.Accounted) (p : Nat → Bool)
    (registry : later.registry = ring.registry.filter p)
    (same : later.listeners.length = ring.listeners.length) : later.Accounted := by
  refine ⟨?_, fun id mentioned => ?_⟩
  · rw [registry]
    exact h.nodup.filter p
  · rw [registry] at mentioned
    rw [same]
    exact h.known id (List.mem_filter.mp mentioned).1

theorem RingBuffer.Accounted.register (h : ring.Accounted) (channel : Nat) (name : String)
    (policy : FullPolicy) : (ring.register channel name policy).Accounted := by
  rcases ring.register_eq channel name policy with same | ⟨_, grown⟩
  · rw [same]
    exact h
  · rw [grown]
    refine ⟨?_, fun id mentioned => ?_⟩
    · refine List.nodup_append.mpr ⟨h.nodup, by simp, fun old oldIn new newIn => ?_⟩
      have := h.known old oldIn
      have : new = ring.listeners.length := List.mem_singleton.mp newIn
      omega
    · rw [List.length_append]
      rcases List.mem_append.mp mentioned with old | new
      · exact Nat.lt_succ_of_lt (h.known id old)
      · rw [List.mem_singleton.mp new]
        exact Nat.lt_succ_self _

theorem RingBuffer.length_register (ring : RingBuffer) (channel : Nat) (name : String)
    (policy : FullPolicy) :
    ring.listeners.length ≤ (ring.register channel name policy).listeners.length := by
  rcases ring.register_eq channel name policy with same | ⟨_, grown⟩
  · exact Nat.le_of_eq (congrArg (·.listeners.length) same.symm)
  · rw [grown, List.length_append]
    exact Nat.le_add_right _ _

/-- The next step of a delivery mentions nobody new. -/
theorem Stage.Accounted.serve {d : Delivery} {served : Served}
    (h : (Stage.delivering d).Accounted ring) (step : ring.serveStep d = some served) :
    (Stage.delivering served.delivery).Accounted served.ring := by
  obtain ⟨id, rest, l, c, _, _, _, case⟩ := RingBuffer.serveStep_cases step
  have same := case.length_listeners
  have fewer := case.pending_sublist
  refine ⟨h.nodup.sublist fewer, fun other mentioned => ?_, fun other mentioned => ?_⟩
  · rw [same]
    exact h.pending other (fewer.subset mentioned)
  · rw [same]
    have mentioned : other ∈ served.delivery.gone := mentioned
    rcases case.delivery_gone with all | ⟨_, more⟩
    · rw [all] at mentioned
      exact h.gone other mentioned
    · rw [more] at mentioned
      rcases List.mem_append.mp mentioned with old | new
      · exact h.gone other old
      · exact h.pending other (List.mem_of_mem_take new)

end Operations

namespace Accounted

variable {s s' : System}

/-- A step of a thread that changes the ring, too. -/
theorem moved (h : Accounted s) {t : Nat} {stage : Stage} {ring : RingBuffer}
    {storage delivery : Option Nat} (after : ring.Accounted)
    (longer : s.ring.listeners.length ≤ ring.listeners.length) (new : stage.Accounted ring) :
    Accounted ({ ring, storage, delivery, stage := s.stage : System }.move t stage) :=
  ⟨after, forall_placed (·.Accounted ring) new (fun u => (h.stages u).mono longer) t⟩

/-- A change of the ring that has nothing to do with listeners. -/
theorem elsewhere (h : Accounted s) {ring : RingBuffer} {storage delivery : Option Nat}
    (registry : ring.registry = s.ring.registry) (listeners : ring.listeners = s.ring.listeners) :
    Accounted { ring, storage, delivery, stage := s.stage } := by
  refine ⟨⟨?_, ?_⟩, fun t => (h.stages t).mono (Nat.le_of_eq (by rw [listeners]))⟩
  · rw [registry]
    exact h.ring.nodup
  · rw [registry, listeners]
    exact h.ring.known

theorem step {e : Event} (h : Accounted s) (step : Step s e s') : Accounted s' := by
  cases step with
  | lock | unlock | clear | openChannel | await | hangUp => exact h.elsewhere rfl rfl
  | extract _ _ taken =>
    obtain rfl := congrArg Prod.snd taken
    exact h.elsewhere rfl rfl
  | receive taken =>
    obtain ⟨_, _, _, _, rfl⟩ := RingBuffer.receive_eq taken
    exact h.elsewhere rfl rfl
  | @listen t channel name policy _ =>
    exact ⟨h.ring.register channel name policy,
      fun t => (h.stages t).mono (s.ring.length_register channel name policy)⟩
  | unlistenUnknown _ unknown =>
    rw [RingBuffer.unregister_false unknown]
    exact h
  | unlisten _ found =>
    obtain ⟨id, _, rfl⟩ := RingBuffer.unregister_true found
    have same : (s.ring.changeListener id ({ · with isRemoved := true })).listeners.length =
        s.ring.listeners.length := List.length_modify ..
    exact h.moved (h.ring.filter (· ≠ id) rfl same) (Nat.le_of_eq same.symm) (.of_none rfl rfl)
  | settle | settled | add | enter | leave =>
    exact h.moved h.ring (Nat.le_refl _) (.of_none rfl rfl)
  | store => exact h.moved ⟨h.ring.nodup, h.ring.known⟩ (Nat.le_refl _) (.of_none rfl rfl)
  | lookUp =>
    exact h.moved h.ring (Nat.le_refl _) ⟨h.ring.nodup, h.ring.known, fun _ => nofun⟩
  | @lockDelivery t d here _ | @unlockStorage t d here =>
    have old := h.stages t
    rw [here] at old
    exact h.moved h.ring (Nat.le_refl _) ⟨old.nodup, old.pending, old.gone⟩
  | @serve t d later ring filled here step =>
    have old := h.stages t
    rw [here] at old
    obtain ⟨id, rest, l, c, _, _, _, case⟩ := RingBuffer.serveStep_cases step
    have same := case.length_listeners
    refine h.moved ⟨?_, ?_⟩ (Nat.le_of_eq same.symm) (old.serve step)
    · rw [case.registry]
      exact h.ring.nodup
    · rw [case.registry, same]
      exact h.ring.known
  | @timeOut t d later here waited =>
    have old := h.stages t
    rw [here] at old
    rw [RingBuffer.timeOut_eq waited]
    exact h.moved h.ring (Nat.le_refl _) ⟨old.nodup, old.pending, old.gone⟩
  | @unlockDelivery t d here _ =>
    have old := h.stages t
    rw [here] at old
    exact h.moved h.ring (Nat.le_refl _) ⟨.nil, fun _ => nofun, old.gone⟩
  | @prune t gone _ _ =>
    exact h.moved (h.ring.filter (!gone.contains ·) rfl rfl) (Nat.le_refl _) (.of_none rfl rfl)

end Accounted

/-! ## Runs -/

theorem Run.append {s s' s'' : System} {front back : List Event} (first : Run s front s')
    (second : Run s' back s'') : Run s (front ++ back) s'' := by
  induction first with
  | nil => exact second
  | cons step _ ih => exact .cons step (ih second)

/-- A run in two parts. -/
theorem Run.split {s s' : System} {front back : List Event} (run : Run s (front ++ back) s') :
    ∃ m, Run s front m ∧ Run m back s' := by
  induction front generalizing s with
  | nil => exact ⟨s, .nil, run⟩
  | cons e front ih =>
    cases run with
    | cons step rest =>
      obtain ⟨m, before, after⟩ := ih rest
      exact ⟨m, .cons step before, after⟩

/-- A run in which a step is picked out. -/
theorem Run.split_at {s s' : System} {front back : List Event} {e : Event}
    (run : Run s (front ++ e :: back) s') :
    ∃ m m', Run s front m ∧ Step m e m' ∧ Run m' back s' := by
  obtain ⟨m, before, rest⟩ := run.split
  cases rest with
  | cons step after => exact ⟨m, _, before, step, after⟩

/-! ## Every reachable system -/

theorem locksHeld_start (budget : Nat) : LocksHeld (.start budget) :=
  ⟨fun _ => Bool.noConfusion, fun _ => Bool.noConfusion⟩

theorem accounted_start (budget : Nat) : Accounted (.start budget) :=
  ⟨⟨.nil, fun _ => nofun⟩, fun _ => .of_none rfl rfl⟩

theorem LocksHeld.run {s s' : System} {es : List Event} (h : LocksHeld s) (run : Run s es s') :
    LocksHeld s' := by
  induction run with
  | nil => exact h
  | cons step _ ih => exact ih (h.step step)

theorem Accounted.run {s s' : System} {es : List Event} (h : Accounted s) (run : Run s es s') :
    Accounted s' := by
  induction run with
  | nil => exact h
  | cons step _ ih => exact ih (h.step step)

theorem Reachable.run {budget : Nat} {s s' : System} {es : List Event} (h : Reachable budget s)
    (run : Run s es s') : Reachable budget s' :=
  let ⟨_, before⟩ := h
  ⟨_, before.append run⟩

theorem Reachable.step {budget : Nat} {s s' : System} {e : Event} (h : Reachable budget s)
    (step : Step s e s') : Reachable budget s' := h.run (.cons step .nil)

theorem Reachable.locksHeld {budget : Nat} {s : System} (h : Reachable budget s) : LocksHeld s :=
  let ⟨_, run⟩ := h
  (locksHeld_start budget).run run

theorem Reachable.accounted {budget : Nat} {s : System} (h : Reachable budget s) : Accounted s :=
  let ⟨_, run⟩ := h
  (accounted_start budget).run run

end Footage
