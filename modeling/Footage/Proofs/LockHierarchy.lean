import Footage.Ring.LockUse
import Footage.Proofs.ThreadInvariant

/-!
# The lock hierarchy

A thread may only take a level above all that it has, so its levels go up from the oldest to the
newest (`LockUser.InOrder`). If it takes each level directly before it locks the mutex, it only
waits for a mutex that is above all that it owns (`LockUser.Climbs`), and along a chain of threads
that wait for each other the awaited mutexes go up: no chain comes back to its start
(`Climbing.not_waitsFor_self`). Levels in order are not enough for that. Two threads that take the
levels first and lock later, in another order, wait for each other (`circle_of_late_turn`).

No thread of a ring buffer ever takes a level out of order (`System.run_lockActions`), whatever the
others do, and neither does any call that is made with nothing but a camera's level
(`RingCall.run_actions`).
-/

namespace Footage

/-! ## Levels -/

namespace HeldLevels

def IsBelow (held : HeldLevels) (level : LockLevel) : Prop := ∀ l ∈ held, l.rank < level.rank

theorem rank_higher (a b : LockLevel) : (higher a b).rank = max a.rank b.rank := by
  unfold higher
  split <;> omega

theorem higher_eq (a b : LockLevel) : higher a b = a ∨ higher a b = b := by
  unfold higher
  split
  · exact .inr rfl
  · exact .inl rfl

theorem foldl_higher (rest : HeldLevels) (level : LockLevel) :
    rest.foldl higher level ∈ level :: rest ∧
      ∀ l ∈ level :: rest, l.rank ≤ (rest.foldl higher level).rank := by
  induction rest generalizing level with
  | nil => simp
  | cons next rest ih =>
    obtain ⟨among, highest⟩ := ih (higher level next)
    have bound := highest _ List.mem_cons_self
    rw [rank_higher] at bound
    refine ⟨?_, fun l one => ?_⟩
    · rcases List.mem_cons.mp among with same | later
      · rw [List.foldl_cons, same]
        rcases higher_eq level next with first | second
        · rw [first]
          exact List.mem_cons_self
        · rw [second]
          exact List.mem_cons_of_mem _ List.mem_cons_self
      · exact List.mem_cons_of_mem _ (List.mem_cons_of_mem _ later)
    · rcases List.mem_cons.mp one with rfl | one
      · exact Nat.le_trans (Nat.le_max_left _ _) bound
      · rcases List.mem_cons.mp one with rfl | one
        · exact Nat.le_trans (Nat.le_max_right _ _) bound
        · exact highest l (List.mem_cons_of_mem _ one)

/-- A level is taken exactly if it is above all others. -/
theorem acquire_eq_ok_iff {held later : HeldLevels} {level : LockLevel} :
    held.acquire level = .ok later ↔ held.IsBelow level ∧ later = held ++ [level] := by
  cases held with
  | nil =>
    constructor
    · intro taken
      cases taken
      exact ⟨fun _ => nofun, rfl⟩
    · rintro ⟨_, rfl⟩
      rfl
  | cons first rest =>
    obtain ⟨among, highest⟩ := foldl_higher rest first
    simp only [acquire, highest?]
    constructor
    · intro taken
      split at taken
      next above =>
        cases taken
        exact ⟨fun l one => Nat.lt_of_le_of_lt (highest l one) above, rfl⟩
      next => cases taken
    · rintro ⟨below, rfl⟩
      rw [if_pos (below _ among)]

/-- What is given back is the newest of its kind. -/
theorem release_append {earlier later : HeldLevels} {level : LockLevel} (newest : level ∉ later) :
    release (earlier ++ level :: later) level = earlier ++ later := by
  have reversed : (earlier ++ level :: later).reverse =
      later.reverse ++ level :: earlier.reverse := by simp
  rw [release, reversed, List.erase_append_right _ (by simpa using newest),
    List.erase_cons_head]
  simp

theorem release_concat (held : HeldLevels) (level : LockLevel) :
    release (held ++ [level]) level = held := by
  rw [release_append List.not_mem_nil, List.append_nil]

end HeldLevels

/-! ## Threads and mutexes -/

section Users

variable {M : Type} {level : M → LockLevel}

/-- What holds of the levels of a thread at any time. -/
structure LockUser.InOrder (level : M → LockLevel) (user : LockUser M) : Prop where
  held : user.held = user.tokens.map level
  increasing : user.held.Pairwise (·.rank < ·.rank)

namespace LockUser.InOrder

variable {user : LockUser M}

/-- A new level goes on top. -/
theorem acquire (h : user.InOrder level) {m : M} {held : HeldLevels} (announced : List M)
    (taken : user.held.acquire (level m) = .ok held) :
    LockUser.InOrder level { user with held, tokens := user.tokens ++ [m], announced } := by
  obtain ⟨below, rfl⟩ := HeldLevels.acquire_eq_ok_iff.mp taken
  refine ⟨by simp [h.held], List.pairwise_append.mpr
    ⟨h.increasing, List.pairwise_singleton _ _, fun l one other new => ?_⟩⟩
  rw [List.mem_singleton.mp new]
  exact below l one

/-- Any token can be dropped. No two levels are the same, so its own is given back. -/
theorem drop (h : user.InOrder level) {m : M} {earlier later : List M}
    (tokens : user.tokens = earlier ++ m :: later) :
    LockUser.InOrder level
      { user with held := user.held.release (level m), tokens := earlier ++ later } := by
  have held : user.held = earlier.map level ++ level m :: later.map level := by
    rw [h.held, tokens, List.map_append, List.map_cons]
  have increasing := h.increasing
  rw [held] at increasing
  have newest : level m ∉ later.map level := by
    intro again
    have higher := (List.pairwise_cons.mp (List.pairwise_append.mp increasing).2.1).1 _ again
    exact Nat.lt_irrefl _ higher
  have released : user.held.release (level m) = earlier.map level ++ later.map level := by
    rw [held, HeldLevels.release_append newest]
  refine ⟨released.trans List.map_append.symm, ?_⟩
  show List.Pairwise _ (user.held.release (level m))
  rw [released]
  exact increasing.sublist ((List.sublist_cons_self _ _).append_left _)

end LockUser.InOrder

/-- The mutexes that a thread can come to own next. -/
def LockUser.targets (user : LockUser M) : List M := user.announced ++ user.awaited.toList

/-- What holds of a thread that locks each mutex directly after it took the level, if `owns` tells
which mutexes it owns. -/
structure LockUser.Climbs (level : M → LockLevel) (owns : M → Prop) (user : LockUser M) :
    Prop where
  single : user.targets.length ≤ 1
  /-- What it can come to own next is above all that it owns. -/
  above : ∀ m ∈ user.targets, ∀ owned, owns owned → (level owned).rank < (level m).rank

namespace LockUser.Climbs

variable {owns : M → Prop} {user : LockUser M}

theorem of_targets (h : user.Climbs level owns) {user' : LockUser M} {fewer : M → Prop}
    (same : user'.targets = user.targets) (less : ∀ m, fewer m → owns m) :
    user'.Climbs level fewer :=
  ⟨same ▸ h.single, fun m one owned still => h.above m (same ▸ one) owned (less _ still)⟩

/-- What it waits for is above all that it owns. -/
theorem rank_lt (h : user.Climbs level owns) {m owned : M} (waits : user.awaited = some m)
    (mine : owns owned) : (level owned).rank < (level m).rank :=
  h.above m (List.mem_append_right _ (by simp [waits])) owned mine

/-- What it owns has a token each, so a level on top of those of the tokens is above it. -/
theorem acquire (order : user.InOrder level) {m : M} {held : HeldLevels}
    (running : user.awaited = none) (covered : ∀ m, owns m → m ∈ user.tokens)
    (taken : user.held.acquire (level m) = .ok held) :
    LockUser.Climbs level owns
      { user with held, tokens := user.tokens ++ [m], announced := [m] } := by
  have alone : LockUser.targets
      { user with held, tokens := user.tokens ++ [m], announced := [m] } = [m] := by
    simp [targets, running]
  refine ⟨by rw [alone]; exact Nat.le_refl 1, fun n one owned mine => ?_⟩
  rw [alone, List.mem_singleton] at one
  subst one
  have among : level owned ∈ user.held := order.held ▸ List.mem_map_of_mem (covered owned mine)
  exact (HeldLevels.acquire_eq_ok_iff.mp taken).1 _ among

/-- It turns to the one mutex that it can come to own next. -/
theorem turn [DecidableEq M] (h : user.Climbs level owns) {m : M} (running : user.awaited = none)
    (announced : m ∈ user.announced) :
    LockUser.Climbs level owns
      { user with announced := user.announced.erase m, awaited := some m } := by
  have before : user.targets = user.announced := by simp [targets, running]
  have one : user.announced = [m] := by
    obtain ⟨n, alone⟩ := List.length_eq_one_iff.mp
      (Nat.le_antisymm (before ▸ h.single) (List.length_pos_of_mem announced))
    rw [alone, List.mem_singleton] at announced
    rw [alone, announced]
  refine h.of_targets ?_ fun _ => id
  rw [before, one]
  simp [targets]

/-- With the mutex that it waited for, there is none that it can come to own next. -/
theorem lock (h : user.Climbs level owns) {m : M} (waits : user.awaited = some m)
    (more : M → Prop) : LockUser.Climbs level more { user with awaited := none } := by
  have single := h.single
  have none : LockUser.targets { user with awaited := none } = [] := by
    simpa [targets, waits] using single
  exact ⟨by rw [none]; exact Nat.zero_le 1, fun n one => by rw [none] at one; cases one⟩

end LockUser.Climbs

namespace LockSystem

def Ordered (level : M → LockLevel) (s : LockSystem M) : Prop := ∀ t, (s.user t).InOrder level

/-- All threads lock what is above all that they own. -/
def Climbing (level : M → LockLevel) (s : LockSystem M) : Prop :=
  ∀ t, (s.user t).Climbs level (s.owner · = some t)

variable {discipline : LockDiscipline} {s s' : LockSystem M}

/-- Giving a mutex back leaves all threads with what they owned or less. -/
theorem owner_of_hand_none [DecidableEq M] {m n : M} {u : Nat}
    (owned : (s.hand m none).owner n = some u) : s.owner n = some u := by
  by_cases same : n = m
  · cases (if_pos same).symm.trans owned
  · exact (if_neg same).symm.trans owned

/-- Whoever does not get the mutex owns what it owned. -/
theorem owner_of_hand_some [DecidableEq M] {m n : M} {t u : Nat} (other : u ≠ t)
    (owned : (s.hand m (some t)).owner n = some u) : s.owner n = some u := by
  by_cases same : n = m
  · exact absurd (Option.some.inj ((if_pos same).symm.trans owned)).symm other
  · exact (if_neg same).symm.trans owned

namespace Ordered

theorem change (h : Ordered level s) {t : Nat} {user : LockUser M} {owner : M → Option Nat}
    (mover : user.InOrder level) : Ordered level (LockSystem.change { s with owner } t user) := by
  intro u
  show (if u = t then user else s.user u).InOrder level
  split
  next => exact mover
  next => exact h u

theorem step [DecidableEq M] (h : Ordered level s) (step : LockStep discipline level s s') :
    Ordered level s' := by
  cases step with
  | @acquire t m held _ _ taken => exact h.change ((h t).acquire _ taken)
  | refuse => exact h
  | @turn t => exact h.change ⟨(h t).held, (h t).increasing⟩
  | @lock t => exact h.change ⟨(h t).held, (h t).increasing⟩
  | unlock => exact h
  | @drop t m earlier later _ tokens => exact h.change ((h t).drop tokens)

end Ordered

theorem ordered_of_reachable [DecidableEq M] (h : LockReachable discipline level s) :
    Ordered level s := by
  induction h with
  | start => exact fun _ => ⟨rfl, .nil⟩
  | step _ step ih => exact ih.step step

namespace Climbing

/-- After a step the thread `t` is as `user` says, and the others own no more than before. -/
theorem change (h : Climbing level s) {t : Nat} {user : LockUser M} {owner : M → Option Nat}
    (mover : user.Climbs level (owner · = some t))
    (others : ∀ u, u ≠ t → ∀ m, owner m = some u → s.owner m = some u) :
    Climbing level (LockSystem.change { s with owner } t user) := by
  intro u
  show (if u = t then user else s.user u).Climbs level (owner · = some u)
  split
  next same => exact same ▸ mover
  next other => exact (h u).of_targets rfl (others u other)

theorem step [DecidableEq M] (h : Climbing level s) (order : Ordered level s)
    (step : LockStep .atOnce level s s') : Climbing level s' := by
  cases step with
  | @acquire t m held running covered taken =>
    exact h.change (.acquire (order t) running covered taken) fun _ _ _ => id
  | refuse => exact h
  | @turn t m running announced =>
    exact h.change ((h t).turn running announced) fun _ _ _ => id
  | @lock t m waits free =>
    exact h.change ((h t).lock waits _) fun u other n owned => owner_of_hand_some other owned
  | @unlock t m _ _ => exact fun u => (h u).of_targets rfl fun n => owner_of_hand_none
  | @drop t m earlier later _ tokens =>
    exact h.change ((h t).of_targets rfl fun _ => id) fun _ _ _ => id

end Climbing

theorem climbing_of_reachable [DecidableEq M] (h : LockReachable .atOnce level s) :
    Climbing level s := by
  induction h with
  | start => exact fun _ => ⟨Nat.zero_le 1, fun _ => nofun⟩
  | step reachable step ih => exact ih.step (ordered_of_reachable reachable) step

/-- Along a chain of threads that wait for each other, the mutexes that they wait for go up. -/
theorem Climbing.rank_lt_of_chain (h : Climbing level s) {t u : Nat}
    (chain : Relation.TransGen s.WaitsFor t u) {m n : M} (first : (s.user t).awaited = some m)
    (last : (s.user u).awaited = some n) : (level m).rank < (level n).rank := by
  induction chain generalizing n with
  | single waits =>
    obtain ⟨m', awaited, owned⟩ := waits
    cases awaited.symm.trans first
    exact (h _).rank_lt last owned
  | tail _ waits ih =>
    obtain ⟨m', awaited, owned⟩ := waits
    exact Nat.lt_trans (ih awaited) ((h _).rank_lt last owned)

/-- No thread waits for itself, not even through others. -/
theorem Climbing.not_waitsFor_self (h : Climbing level s) (t : Nat) :
    ¬ Relation.TransGen s.WaitsFor t t := by
  intro circle
  obtain ⟨m, awaited⟩ : ∃ m, (s.user t).awaited = some m := by
    have first : ∀ u, Relation.TransGen s.WaitsFor t u → ∃ m, (s.user t).awaited = some m := by
      intro u chain
      induction chain with
      | single waits => exact ⟨_, waits.choose_spec.1⟩
      | tail _ _ ih => exact ih
    exact first t circle
  exact Nat.lt_irrefl _ (h.rank_lt_of_chain circle awaited awaited)

end LockSystem

end Users

/-! ## The calls of a ring buffer -/

namespace HeldLevels.IsBelow

variable {held : HeldLevels} {level higher : LockLevel}

theorem mono (below : held.IsBelow level) (up : level.rank ≤ higher.rank) : held.IsBelow higher :=
  fun l one => Nat.lt_of_lt_of_le (below l one) up

theorem concat (below : held.IsBelow level) (up : level.rank < higher.rank) :
    HeldLevels.IsBelow (held ++ [level]) higher := by
  intro l one
  rcases List.mem_append.mp one with old | new
  · exact Nat.lt_trans (below l old) up
  · rw [List.mem_singleton.mp new]
    exact up

end HeldLevels.IsBelow

namespace LockAction

variable {held : HeldLevels} {level : LockLevel}

theorem run_append (first second : List LockAction) (held : HeldLevels) :
    run (first ++ second) held = run first held >>= run second := List.foldlM_append

theorem run_acquire (below : held.IsBelow level) (rest : List LockAction) :
    run (acquire level :: rest) held = run rest (held ++ [level]) := by
  have taken := HeldLevels.acquire_eq_ok_iff.mpr ⟨below, rfl⟩
  rw [run, List.foldlM_cons, apply, taken]
  rfl

theorem run_release (rest : List LockAction) (held : HeldLevels) :
    run (release level :: rest) held = run rest (held.release level) := rfl

theorem run_brief (below : held.IsBelow level) (rest : List LockAction) :
    run (brief level ++ rest) held = run rest held := by
  show run (acquire level :: release level :: rest) held = _
  rw [run_acquire below, run_release, HeldLevels.release_concat]

/-- Adding a packet gives the storage back below the delivery. -/
theorem run_add (below : held.IsBelow .ringBuffer) (rest : List LockAction) :
    run (add ++ rest) held = run rest held := by
  have withStorage : HeldLevels.IsBelow (held ++ [.ringBuffer]) .delivery :=
    below.concat (by decide)
  have released : HeldLevels.release (held ++ [.ringBuffer] ++ [.delivery]) .ringBuffer =
      held ++ [.delivery] := by
    rw [List.append_assoc]
    exact HeldLevels.release_append (by decide)
  show run (acquire .ringBuffer :: (brief .listeners ++ (acquire .delivery :: release .ringBuffer ::
    release .delivery :: rest))) held = _
  rw [run_acquire below, run_brief (withStorage.mono (by decide)), run_acquire withStorage,
    run_release, released, run_release, HeldLevels.release_concat]

theorem run_removal (below : held.IsBelow .delivery) (rest : List LockAction) :
    run (removal ++ rest) held = run rest held := by
  rw [removal, List.append_assoc, registry, run_brief (below.mono (by decide)), run_brief below]

end LockAction

namespace RingCall

variable {held : HeldLevels}

/-- A call that is made with lower levels only takes no level out of order, and leaves the levels
as they were. -/
theorem run_actions (call : RingCall) (below : held.IsBelow .ringBuffer) :
    LockAction.run call.actions held = .ok (held ++ call.kept) := by
  have same : (.ok held : Except LockOrderViolation HeldLevels) = .ok (held ++ []) := by
    rw [List.append_nil]
  have underRegistry : held.IsBelow .listeners := below.mono (by decide)
  have registry := LockAction.run_brief underRegistry []
  have storage := LockAction.run_brief below []
  rw [List.append_nil] at registry storage
  cases call with
  | create | settings | budget => exact same
  | lock => exact LockAction.run_acquire below []
  | add someGone =>
    cases someGone with
    | false => exact (LockAction.run_add below []).trans same
    | true => exact (LockAction.run_add below _).trans (registry.trans same)
  | extract | latestKeyframe | length | isEmpty | weight | clear => exact storage.trans same
  | listen | listenerCount | listenerStats => exact registry.trans same
  | unlisten found =>
    cases found with
    | false => exact registry.trans same
    | true => exact (LockAction.run_removal (below.mono (by decide)) []).trans same

/-- The calls that need no storage can be made with the storage in hand. -/
theorem run_actions_guarded {call : RingCall} (isOpen : call.isOpenToGuard = true)
    (below : held.IsBelow .delivery) : LockAction.run call.actions held = .ok held := by
  have underRegistry : held.IsBelow .listeners := below.mono (by decide)
  have registry := LockAction.run_brief underRegistry []
  rw [List.append_nil] at registry
  cases call with
  | listen => exact registry
  | unlisten found =>
    cases found with
    | false => exact registry
    | true => exact (LockAction.run_removal below []).trans rfl
  | _ => cases isOpen

end RingCall

/-! ## The threads of a ring buffer -/

/-- The levels that the thread `t` takes and gives back in a step. -/
def Event.lockActions (t : Nat) : Event → List LockAction
  | .lock u | .enter u => if u = t then [.acquire .ringBuffer] else []
  | .unlock u | .unlockStorage u => if u = t then [.release .ringBuffer] else []
  | .settle u | .lockDelivery u => if u = t then [.acquire .delivery] else []
  | .settled u | .unlockDelivery u => if u = t then [.release .delivery] else []
  | .listen u _ _ _ | .unlisten u _ _ | .lookUp u | .prune u =>
    if u = t then LockAction.registry else []
  | _ => []

/-- The levels that the thread `t` takes and gives back in a run. -/
def lockActionsOf (t : Nat) (es : List Event) : List LockAction := es.flatMap (Event.lockActions t)

namespace System

/-- The levels of the ring buffer's locks that a thread has. -/
def levels (s : System) (t : Nat) : HeldLevels :=
  (if s.storage = some t then [.ringBuffer] else []) ++
    if s.delivery = some t then [.delivery] else []

/-- Whoever has the delivery lock is in a call that took it. -/
def DeliveryInUse (s : System) : Prop := ∀ t, s.delivery = some t → (s.stage t).holdsDelivery = true

variable {s s' : System} {t : Nat}

theorem levels_congr (storage : s'.storage = some t ↔ s.storage = some t)
    (delivery : s'.delivery = some t ↔ s.delivery = some t) : s'.levels t = s.levels t := by
  simp only [levels, storage, delivery]

theorem isBelow_levels {base : HeldLevels} (below : base.IsBelow .ringBuffer) :
    HeldLevels.IsBelow (base ++ s.levels t) .listeners := by
  intro l one
  rcases List.mem_append.mp one with old | new
  · exact Nat.lt_trans (below l old) (by decide)
  · rcases List.mem_append.mp new with storage | delivery
    · split at storage
      next => rw [List.mem_singleton.mp storage]; decide
      next => cases storage
    · split at delivery
      next => rw [List.mem_singleton.mp delivery]; decide
      next => cases delivery

namespace DeliveryInUse

/-- A step within a call that neither takes nor gives back the delivery lock. -/
theorem within (h : DeliveryInUse s) {stage : Stage} {ring : RingBuffer} {storage : Option Nat}
    (same : (s.stage t).holdsDelivery = true → stage.holdsDelivery = true) :
    DeliveryInUse ({ s with ring, storage }.move t stage) := by
  intro u held
  have before := h u held
  by_cases mover : u = t
  · subst mover
    rw [move_stage, placed_self]
    exact same before
  · rw [move_stage, placed_of_ne mover]
    exact before

theorem taken {stage : Stage} (holds : stage.holdsDelivery = true) :
    DeliveryInUse ({ s with delivery := some t }.move t stage) := by
  intro u held
  obtain rfl : t = u := Option.some.inj held
  rw [move_stage, placed_self]
  exact holds

theorem step {e : Event} (h : DeliveryInUse s) (step : Step s e s') : DeliveryInUse s' := by
  cases step with
  | lock | unlock | extract | clear | listen | unlistenUnknown | openChannel | receive | await
    | hangUp => exact h
  | settle | lockDelivery => exact taken rfl
  | settled | unlockDelivery => exact fun _ => nofun
  | unlisten here | add here | enter here | store here | lookUp here | prune here | leave here =>
    exact h.within fun held => by rw [here] at held; cases held
  | unlockStorage here | serve here | timeOut here => exact h.within fun _ => rfl

theorem run {es : List Event} (h : DeliveryInUse s) (run : Run s es s') : DeliveryInUse s' := by
  induction run with
  | nil => exact h
  | cons step _ ih => exact ih (h.step step)

end DeliveryInUse

section Levels

variable {base : HeldLevels}

theorem run_acquire_storage (below : base.IsBelow .ringBuffer) (free : s.storage = none)
    (out : s.delivery ≠ some t) :
    LockAction.run [.acquire .ringBuffer] (base ++ s.levels t) =
      .ok (base ++ levels { s with storage := some t } t) := by
  have before : s.levels t = [] := by simp [levels, free, out]
  have after : levels { s with storage := some t } t = [.ringBuffer] := by simp [levels, out]
  rw [before, after, List.append_nil]
  exact LockAction.run_acquire below []

theorem run_acquire_delivery (below : base.IsBelow .ringBuffer) (free : s.delivery = none) :
    LockAction.run [.acquire .delivery] (base ++ s.levels t) =
      .ok (base ++ levels { s with delivery := some t } t) := by
  have after : levels { s with delivery := some t } t = s.levels t ++ [.delivery] := by
    simp [levels, free]
  have lower : HeldLevels.IsBelow (base ++ s.levels t) .delivery := by
    by_cases held : s.storage = some t
    · have before : s.levels t = [.ringBuffer] := by simp [levels, free, held]
      rw [before]
      exact below.concat (by decide)
    · have before : s.levels t = [] := by simp [levels, free, held]
      rw [before, List.append_nil]
      exact below.mono (by decide)
  rw [after, ← List.append_assoc]
  exact LockAction.run_acquire lower []

theorem run_release_storage (held : s.storage = some t) :
    LockAction.run [.release .ringBuffer] (base ++ s.levels t) =
      .ok (base ++ levels { s with storage := none } t) := by
  have before : s.levels t = .ringBuffer :: levels { s with storage := none } t := by
    simp [levels, held]
  have newest : LockLevel.ringBuffer ∉ levels { s with storage := none } t := by
    by_cases other : s.delivery = some t <;> simp [levels, other]
  rw [LockAction.run_release, before, HeldLevels.release_append newest]
  rfl

theorem run_release_delivery (held : s.delivery = some t) :
    LockAction.run [.release .delivery] (base ++ s.levels t) =
      .ok (base ++ levels { s with delivery := none } t) := by
  have before : s.levels t = levels { s with delivery := none } t ++ [.delivery] := by
    simp [levels, held]
  rw [LockAction.run_release, before, ← List.append_assoc, HeldLevels.release_concat]
  rfl

theorem run_registry (below : base.IsBelow .ringBuffer) (u : Nat) :
    LockAction.run (if u = t then LockAction.registry else []) (base ++ s.levels t) =
      .ok (base ++ s.levels t) := by
  split
  · have brief := LockAction.run_brief (isBelow_levels (s := s) (t := t) below) []
    rw [List.append_nil] at brief
    exact brief
  · rfl

/-- A step of the thread `u` that changes the levels of `u` alone. -/
theorem run_of_mover {u : Nat} {actions : List LockAction}
    (mine : u = t → LockAction.run actions (base ++ s.levels t) = .ok (base ++ s'.levels t))
    (others : u ≠ t → s'.levels t = s.levels t) :
    LockAction.run (if u = t then actions else []) (base ++ s.levels t) =
      .ok (base ++ s'.levels t) := by
  by_cases same : u = t
  · rw [if_pos same]
    exact mine same
  · rw [if_neg same, others same]
    rfl

end Levels

/-- No step takes a level out of order, and afterwards the thread has the levels of the locks that
are its own. -/
theorem run_lockActions_step {base : HeldLevels} {e : Event} (below : base.IsBelow .ringBuffer)
    (locks : LocksHeld s) (inUse : DeliveryInUse s) (step : Step s e s') :
    LockAction.run (e.lockActions t) (base ++ s.levels t) = .ok (base ++ s'.levels t) := by
  have idleOut {u : Nat} {stage : Stage} (here : s.stage u = stage)
      (holds : stage.holdsDelivery = false) : s.delivery ≠ some u := by
    intro held
    have used := inUse u held
    rw [here, holds] at used
    cases used
  cases step with
  | @lock u here free | @enter u _ here free =>
    refine run_of_mover (fun same => ?_) fun other =>
      levels_congr (by simp [free, other]) .rfl
    subst same
    exact run_acquire_storage below free (idleOut here rfl)
  | @unlock u _ held =>
    refine run_of_mover (fun same => ?_) fun other =>
      levels_congr (by simp [held, other]) .rfl
    subst same
    exact run_release_storage held
  | @unlockStorage u d here =>
    have held := locks.storage u (by rw [here]; rfl)
    refine run_of_mover (fun same => ?_) fun other =>
      levels_congr (by simp [held, other]) .rfl
    subst same
    exact run_release_storage held
  | @settle u _ free | @lockDelivery u _ _ free =>
    refine run_of_mover (fun same => ?_) fun other =>
      levels_congr .rfl (by simp [free, other])
    subst same
    exact run_acquire_delivery below free
  | @settled u here | @unlockDelivery u d here _ =>
    have held := locks.delivery u (by rw [here]; rfl)
    refine run_of_mover (fun same => ?_) fun other =>
      levels_congr .rfl (by simp [held, other])
    subst same
    exact run_release_delivery held
  | listen | unlisten | unlistenUnknown | lookUp | prune => exact run_registry below _
  | extract | clear | add | store | serve | timeOut | leave | openChannel | receive | await
    | hangUp => rfl

end System

theorem System.run_lockActions {s s' : System} {t : Nat} {es : List Event} {base : HeldLevels}
    (below : base.IsBelow .ringBuffer) (locks : LocksHeld s) (inUse : s.DeliveryInUse)
    (run : Run s es s') :
    LockAction.run (lockActionsOf t es) (base ++ s.levels t) = .ok (base ++ s'.levels t) := by
  induction run with
  | nil => rfl
  | @cons s middle s'' e es step _ ih =>
    have first := System.run_lockActions_step (t := t) below locks inUse step
    have rest := ih (locks.step step) (inUse.step step)
    show LockAction.run (e.lockActions t ++ lockActionsOf t es) _ = _
    rw [LockAction.run_append, first]
    exact rest

/-- Threads that take the level of a mutex before they lock it have levels that go up, those of
their tokens, and never wait for each other in a circle if they take each level directly before
they lock. The calls of a ring buffer that are made with at most a camera's level take no level out
of order and leave the levels as they were, until the guard is dropped with the storage's; so do
those that the guard's owner can make. In any run of a ring buffer's threads a thread has in
addition to its own levels those of the ring buffer's locks that it owns, and none when it is in no
call and without a guard. -/
theorem lockHierarchy :
    (∀ {M : Type} [DecidableEq M] (discipline : LockDiscipline) (level : M → LockLevel)
      (s : LockSystem M), LockReachable discipline level s →
        (∀ t, (s.user t).held.Pairwise (·.rank < ·.rank) ∧
          (s.user t).held = (s.user t).tokens.map level) ∧
        (discipline = .atOnce → ∀ t, ¬ Relation.TransGen s.WaitsFor t t)) ∧
    ∀ base : HeldLevels, base = [] ∨ base = [.camera] →
      (∀ call : RingCall, LockAction.run call.actions base = .ok (base ++ call.kept)) ∧
      (∀ call : RingCall, call.isOpenToGuard = true →
        LockAction.run call.actions (base ++ [.ringBuffer]) = .ok (base ++ [.ringBuffer])) ∧
      LockAction.run [.release .ringBuffer] (base ++ [.ringBuffer]) = .ok base ∧
      ∀ (budget : Nat) (es : List Event) (s : System) (t : Nat), Run (.start budget) es s →
        LockAction.run (lockActionsOf t es) base = .ok (base ++ s.levels t) ∧
        (s.stage t = .idle → s.storage ≠ some t → s.levels t = []) := by
  refine ⟨fun discipline level s reachable => ?_, fun base few => ?_⟩
  · have ordered := LockSystem.ordered_of_reachable reachable
    refine ⟨fun t => ⟨(ordered t).increasing, (ordered t).held⟩, ?_⟩
    rintro rfl
    exact (LockSystem.climbing_of_reachable reachable).not_waitsFor_self
  · have below : base.IsBelow .ringBuffer := by
      rcases few with rfl | rfl
      · exact fun _ => nofun
      · exact fun l one => by rw [List.mem_singleton.mp one]; decide
    refine ⟨fun call => call.run_actions below,
      fun call isOpen => call.run_actions_guarded isOpen (below.concat (by decide)), ?_,
      fun budget es s t run => ?_⟩
    · rw [LockAction.run_release, HeldLevels.release_concat]
      rfl
    · have start : (System.start budget).DeliveryInUse := fun _ => nofun
      have inUse : s.DeliveryInUse := start.run run
      have done := System.run_lockActions (t := t) below (locksHeld_start budget) start run
      rw [show (System.start budget).levels t = [] from rfl, List.append_nil] at done
      refine ⟨done, fun idle unguarded => ?_⟩
      have out : s.delivery ≠ some t := by
        intro held
        have used := inUse t held
        rw [idle] at used
        cases used
      simp [System.levels, unguarded, out]

/-- A thread has the storage, and another one waits for it with a camera's mutex in hand. In a ring
buffer, a thread with the guard takes its listener off the registry. -/
theorem lockHierarchy_contended :
    (∃ s : LockSystem LockLevel, LockReachable .atOnce id s ∧ s.WaitsFor 0 1 ∧
      (s.user 0).tokens = [.camera, .ringBuffer] ∧
      (s.user 0).held = [.camera, .ringBuffer] ∧ ¬ Relation.TransGen s.WaitsFor 0 0) ∧
    LockAction.run (RingCall.unlisten true).actions [.camera, .ringBuffer] =
      .ok [.camera, .ringBuffer] ∧
    ∃ s, Run (.start 64) [.openChannel 1, .lock 0, .listen 0 0 "viewer" .drop,
        .unlisten 0 0 true, .settle 0] s ∧
      LockAction.run (lockActionsOf 0 [.openChannel 1, .lock 0, .listen 0 0 "viewer" .drop,
        .unlisten 0 0 true, .settle 0]) [.camera] = .ok [.camera, .ringBuffer, .delivery] := by
  obtain ⟨mutexes, calls⟩ := lockHierarchy
  obtain ⟨_, guarded, _, threads⟩ := calls [.camera] (.inr rfl)
  refine ⟨?_, guarded (.unlisten true) rfl, ?_⟩
  · obtain ⟨s, reachable, waits, tokens⟩ : ∃ s : LockSystem LockLevel,
        LockReachable .atOnce id s ∧ s.WaitsFor 0 1 ∧
          (s.user 0).tokens = [.camera, .ringBuffer] := by
      refine ⟨_, .step (.step (.step (.step (.step (.step (.step (.step .start
        (.acquire (t := 1) (m := .ringBuffer) rfl (fun _ => nofun) rfl))
        (.turn (t := 1) (m := .ringBuffer) rfl (.head _)))
        (.lock (t := 1) (m := .ringBuffer) rfl rfl))
        (.acquire (t := 0) (m := .camera) rfl (fun m owned => ?_) rfl))
        (.turn (t := 0) (m := .camera) rfl (.head _)))
        (.lock (t := 0) (m := .camera) rfl rfl))
        (.acquire (t := 0) (m := .ringBuffer) rfl (fun m owned => ?_) rfl))
        (.turn (t := 0) (m := .ringBuffer) rfl (.head _)), ⟨.ringBuffer, rfl, rfl⟩, rfl⟩
      · cases m <;> cases owned
      · cases m with
        | camera => exact .head _
        | _ => cases owned
    obtain ⟨inOrder, noCircle⟩ := mutexes .atOnce id s reachable
    have held := (inOrder 0).2
    rw [tokens] at held
    exact ⟨s, reachable, waits, tokens, held, noCircle rfl 0⟩
  · obtain ⟨s, run, levels⟩ : ∃ s, Run (.start 64) [.openChannel 1, .lock 0,
        .listen 0 0 "viewer" .drop, .unlisten 0 0 true, .settle 0] s ∧
        s.levels 0 = [.ringBuffer, .delivery] :=
      ⟨_, .cons .openChannel (.cons (.lock rfl rfl) (.cons (.listen rfl)
        (.cons (.unlisten rfl rfl) (.cons (.settle rfl rfl) .nil)))), rfl⟩
    have done := (threads 64 _ s 0 run).1
    rw [levels] at done
    exact ⟨s, run, done⟩

/-- Both threads take a camera's level and then the storage's, and still have both tokens. The one
locks the storage before it turns to the camera, and the other one the camera before the storage:
they wait for each other. -/
theorem circle_of_late_turn : ∃ s : LockSystem LockLevel, LockReachable .sometime id s ∧
    (∀ t, t = 0 ∨ t = 1 → (s.user t).tokens = [.camera, .ringBuffer]) ∧
    s.WaitsFor 0 1 ∧ s.WaitsFor 1 0 ∧ Relation.TransGen s.WaitsFor 0 0 := by
  obtain ⟨s, reachable, tokens, first, second⟩ : ∃ s : LockSystem LockLevel,
      LockReachable .sometime id s ∧
        (∀ t, t = 0 ∨ t = 1 → (s.user t).tokens = [.camera, .ringBuffer]) ∧
        s.WaitsFor 0 1 ∧ s.WaitsFor 1 0 := by
    refine ⟨_, .step (.step (.step (.step (.step (.step (.step (.step (.step (.step .start
      (.acquire (t := 0) (m := .camera) rfl (fun _ => nofun) rfl))
      (.acquire (t := 0) (m := .ringBuffer) rfl (fun _ => nofun) rfl))
      (.turn (t := 0) (m := .ringBuffer) rfl (.head _)))
      (.lock (t := 0) (m := .ringBuffer) rfl rfl))
      (.acquire (t := 1) (m := .camera) rfl (fun m owned => ?_) rfl))
      (.turn (t := 1) (m := .camera) rfl (.head _)))
      (.lock (t := 1) (m := .camera) rfl rfl))
      (.acquire (t := 1) (m := .ringBuffer) rfl (fun m owned => ?_) rfl))
      (.turn (t := 1) (m := .ringBuffer) rfl (.head _)))
      (.turn (t := 0) (m := .camera) rfl (.head _)), ?_,
      ⟨.camera, rfl, rfl⟩, ⟨.ringBuffer, rfl, rfl⟩⟩
    · cases m <;> cases owned
    · cases m with
      | camera => exact .head _
      | _ => cases owned
    · rintro t (rfl | rfl) <;> rfl
  exact ⟨s, reachable, tokens, first, second, .tail (.single first) second⟩

end Footage
