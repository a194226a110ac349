import Footage.Ring.LockOrder

/-!
# Threads that lock mutexes

Any number of threads lock and unlock any set of mutexes, each of which has a level. Before a thread
turns to a mutex it takes the mutex's level, and has a token for it until it drops the token. The
levels of a thread are all that is checked; who gets a mutex only depends on who owns it.

* `LockUser` is one thread: the levels noted for it, its tokens, and the mutex it waits for.
* `LockDiscipline` says how long after its level a mutex may be locked.
* `LockStep` is what one thread does at once, and `LockReachable` what all of them can get into.
* `LockSystem.WaitsFor` says that a thread is kept from going on by another.
-/

namespace Footage

structure LockUser (M : Type) where
  /-- The levels that are noted for it. -/
  held : HeldLevels := []
  /-- The mutexes whose tokens it has not dropped, oldest token first. -/
  tokens : List M := []
  /-- The mutexes whose level it took and that it may still turn to. -/
  announced : List M := []
  /-- The mutex that it waits for. -/
  awaited : Option M := none
deriving DecidableEq, Repr

/-- How long after taking its level a thread may turn to a mutex. -/
inductive LockDiscipline where
  /-- At any time, also once it took other levels or locked other mutexes. -/
  | sometime
  /-- Directly: whoever takes another level first does not turn to the mutex any more. -/
  | atOnce
deriving DecidableEq, Repr

/-- The mutexes that a thread may turn to after it took the level of one more. -/
def LockDiscipline.announce {M : Type} : LockDiscipline → M → List M → List M
  | sometime, m, earlier => m :: earlier
  | atOnce, m, _ => [m]

/-- Threads and the mutexes that they share. -/
structure LockSystem (M : Type) where
  owner : M → Option Nat := fun _ => none
  user : Nat → LockUser M := fun _ => {}

namespace LockSystem

variable {M : Type}

def change (s : LockSystem M) (t : Nat) (user : LockUser M) : LockSystem M :=
  { s with user := fun u => if u = t then user else s.user u }

/-- A mutex changes hands. -/
def hand [DecidableEq M] (s : LockSystem M) (m : M) (owner : Option Nat) : LockSystem M :=
  { s with owner := fun n => if n = m then owner else s.owner n }

/-- For each mutex that the thread owns it still has the token. -/
def IsCovered (s : LockSystem M) (t : Nat) : Prop :=
  ∀ m, s.owner m = some t → m ∈ (s.user t).tokens

/-- The thread `t` waits for a mutex that `u` owns. -/
def WaitsFor (s : LockSystem M) (t u : Nat) : Prop :=
  ∃ m, (s.user t).awaited = some m ∧ s.owner m = some u

end LockSystem

/-- Steps of threads that use mutexes. A thread that waits does nothing else. One that owns a
mutex without its token takes no level until it gave the mutex back. With `LockDiscipline.atOnce`
a level is taken directly before its mutex is locked. -/
inductive LockStep {M : Type} [DecidableEq M] (discipline : LockDiscipline) (level : M → LockLevel)
    (s : LockSystem M) : LockSystem M → Prop
  /-- A thread takes the level of a mutex. -/
  | acquire {t : Nat} {m : M} {held : HeldLevels} : (s.user t).awaited = none →
      s.IsCovered t → (s.user t).held.acquire (level m) = .ok held →
      LockStep discipline level s (s.change t { s.user t with
        held, tokens := (s.user t).tokens ++ [m],
        announced := discipline.announce m (s.user t).announced })
  /-- A level out of order is refused, and nothing is noted. -/
  | refuse {t : Nat} {m : M} {violation : LockOrderViolation} : (s.user t).awaited = none →
      (s.user t).held.acquire (level m) = .error violation →
      LockStep discipline level s s
  /-- A thread turns to a mutex whose level it took. A second time needs the level a second time. -/
  | turn {t : Nat} {m : M} : (s.user t).awaited = none → m ∈ (s.user t).announced →
      LockStep discipline level s (s.change t { s.user t with
        announced := (s.user t).announced.erase m, awaited := some m })
  /-- A thread gets the mutex that it waits for. -/
  | lock {t : Nat} {m : M} : (s.user t).awaited = some m → s.owner m = none →
      LockStep discipline level s ((s.hand m (some t)).change t { s.user t with awaited := none })
  /-- A thread gives a mutex back, whether or not it still has the token. -/
  | unlock {t : Nat} {m : M} : (s.user t).awaited = none → s.owner m = some t →
      LockStep discipline level s (s.hand m none)
  /-- A thread drops any of its tokens. -/
  | drop {t : Nat} {m : M} {earlier later : List M} : (s.user t).awaited = none →
      (s.user t).tokens = earlier ++ m :: later →
      LockStep discipline level s (s.change t { s.user t with
        held := (s.user t).held.release (level m), tokens := earlier ++ later })

/-- The systems that threads can get into that start with nothing. -/
inductive LockReachable {M : Type} [DecidableEq M] (discipline : LockDiscipline)
    (level : M → LockLevel) : LockSystem M → Prop
  | start : LockReachable discipline level {}
  | step {s s' : LockSystem M} : LockReachable discipline level s →
      LockStep discipline level s s' → LockReachable discipline level s'

end Footage
