import Footage.Ring.RateLimit
import Footage.Word
import Mathlib.Data.List.Chain

/-!
# No warning is lost

Most warnings are held back, and what is left of them is a number that is told with the next
warning that is shown. This file says that these numbers, those of the warnings that were shown and
the count of those that still wait for the next one make up all warnings that were ever due,
whatever the clock does between them.

* `RateLimit.tickAt_cases`: the two things that can become of a warning.
* `RateLimit.Accounts`: what a limit has to do with the warnings up to now. A warning keeps it
  (`Accounts.tickAt`), so a run of them does (`Accounts.run`).
* `warnings_balance`: what this says of the warnings themselves, before each one of a run.
-/

namespace Footage

namespace RateLimit

/-! ## One warning -/

/-- The last warning was shown less than an interval ago. A time before it counts as no time
after it. -/
def IsTooSoon (limit : RateLimit) (now : Nat) : Prop :=
  ∃ last, limit.lastShown = some last ∧ now - last < limit.interval

/-- A warning is held back and counted, or it is shown with the count, which then starts anew. -/
theorem tickAt_cases (limit : RateLimit) (now : Nat) :
    limit.IsTooSoon now ∧
        limit.tickAt now = (none, { limit with heldBack := limit.heldBack + 1 }) ∨
      ¬limit.IsTooSoon now ∧
        limit.tickAt now =
          (some limit.heldBack, { limit with lastShown := some now, heldBack := 0 }) := by
  unfold tickAt IsTooSoon
  cases limit.lastShown with
  | none => exact .inr ⟨nofun, rfl⟩
  | some last =>
    by_cases soon : now - last < limit.interval
    · exact .inl ⟨⟨last, rfl, soon⟩, if_pos soon⟩
    · refine .inr ⟨?_, if_neg soon⟩
      rintro ⟨_, same, sooner⟩
      cases same
      exact soon sooner

theorem tickAt_eq_none_iff {limit : RateLimit} {now : Nat} :
    (limit.tickAt now).1 = none ↔ limit.IsTooSoon now := by
  rcases limit.tickAt_cases now with ⟨soon, step⟩ | ⟨due, step⟩
  · exact iff_of_true (congrArg Prod.fst step) soon
  · exact iff_of_false (by simp [step]) due

theorem told_of_tickAt {limit : RateLimit} {now number : Nat}
    (told : (limit.tickAt now).1 = some number) : number = limit.heldBack := by
  rcases limit.tickAt_cases now with ⟨_, step⟩ | ⟨_, step⟩
  · rw [step] at told
    cases told
  · rw [step] at told
    exact (Option.some.inj told).symm

/-! ## A run of warnings -/

/-- A warning that was due: when, and the number that was told with it if it was shown. -/
structure Warning where
  time : Nat
  told : Option Nat
deriving DecidableEq, Repr

def shownTimes (log : List Warning) : List Nat :=
  log.filterMap fun warning => warning.told.map fun _ => warning.time

def toldNumbers (log : List Warning) : List Nat := log.filterMap (·.told)

def after (limit : RateLimit) (times : List Nat) : RateLimit :=
  times.foldl (fun limit now => (limit.tickAt now).2) limit

def log (limit : RateLimit) (times : List Nat) : List Warning :=
  List.zipWith Warning.mk times (limit.ticks times)

theorem length_ticks (limit : RateLimit) (times : List Nat) :
    (limit.ticks times).length = times.length := by
  induction times generalizing limit with
  | nil => rfl
  | cons now rest ih => exact congrArg (· + 1) (ih _)

@[simp] theorem length_log (limit : RateLimit) (times : List Nat) :
    (limit.log times).length = times.length := by
  rw [log, List.length_zipWith, length_ticks, Nat.min_self]

/-- What becomes of warnings does not depend on those that come later. -/
theorem ticks_append (limit : RateLimit) (before later : List Nat) :
    limit.ticks (before ++ later) = limit.ticks before ++ (limit.after before).ticks later := by
  induction before generalizing limit with
  | nil => rfl
  | cons now before ih => exact congrArg (_ :: ·) (ih _)

/-- What a limit for one warning per `interval` has to do with the warnings up to now. -/
structure Accounts (interval : Nat) (limit : RateLimit) (log : List Warning) : Prop where
  perInterval : limit.interval = interval
  lastShown : limit.lastShown = (shownTimes log).getLast?
  balance : log.length = (shownTimes log).length + total (toldNumbers log) + limit.heldBack
  spaced : (shownTimes log).IsChain fun last next => interval ≤ next - last

theorem accounts_new (interval : Nat) : Accounts interval { interval } [] :=
  ⟨rfl, rfl, rfl, .nil⟩

namespace Accounts

variable {interval : Nat} {limit : RateLimit} {log : List Warning}

theorem isTooSoon_iff (h : Accounts interval limit log) (now : Nat) :
    limit.IsTooSoon now ↔
      ∃ last, (shownTimes log).getLast? = some last ∧ now - last < interval := by
  rw [IsTooSoon, h.lastShown, h.perInterval]

theorem tickAt (h : Accounts interval limit log) (now : Nat) :
    Accounts interval (limit.tickAt now).2 (log ++ [⟨now, (limit.tickAt now).1⟩]) := by
  have balance := h.balance
  rcases limit.tickAt_cases now with ⟨_, step⟩ | ⟨due, step⟩
  -- held back: one more is waiting, and nothing new was shown
  · have times : shownTimes (log ++ [⟨now, none⟩]) = shownTimes log := by simp [shownTimes]
    have numbers : toldNumbers (log ++ [⟨now, none⟩]) = toldNumbers log := by simp [toldNumbers]
    rw [step]
    refine ⟨h.perInterval, ?_, ?_, ?_⟩
    · rw [times]
      exact h.lastShown
    · rw [times, numbers, List.length_append, balance]
      rfl
    · rw [times]
      exact h.spaced
  -- shown: all that were waiting move over to what was told
  · have times : shownTimes (log ++ [⟨now, some limit.heldBack⟩]) = shownTimes log ++ [now] := by
      simp [shownTimes]
    have numbers : toldNumbers (log ++ [⟨now, some limit.heldBack⟩]) =
        toldNumbers log ++ [limit.heldBack] := by
      simp [toldNumbers]
    rw [step]
    refine ⟨h.perInterval, ?_, ?_, ?_⟩
    · rw [times, List.getLast?_concat]
    · rw [times, numbers, total_append, List.length_append, List.length_append, balance]
      simp only [List.length_singleton, total]
      omega
    · rw [times]
      refine List.isChain_append.mpr ⟨h.spaced, .singleton now, ?_⟩
      intro last shown next following
      obtain rfl : now = next := Option.some.inj following
      exact Nat.le_of_not_lt fun soon => due ((h.isTooSoon_iff now).mpr ⟨last, shown, soon⟩)

theorem run (h : Accounts interval limit log) (times : List Nat) :
    Accounts interval (limit.after times) (log ++ limit.log times) := by
  induction times generalizing limit log with
  | nil =>
    rw [RateLimit.log, List.zipWith_nil_left, List.append_nil]
    exact h
  | cons now rest ih =>
    have later := ih (h.tickAt now)
    rw [List.append_assoc, List.singleton_append] at later
    exact later

end Accounts

end RateLimit

open RateLimit

/-- Before each warning of a run, at any times and in any order, all those that were due are the
ones that were shown, the ones that were told with them, and the ones that are held back for the
next one that is shown; so no count is above the number of warnings. Those that were shown one after
another are at least an interval apart. The warning itself is held back just if it comes less than
an interval after the last one that was shown, and else told with all that are held back. -/
theorem warnings_balance (interval : Nat) (before : List Nat) (now : Nat) (later : List Nat) :
    let limit : RateLimit := { interval }
    let log := limit.log before
    let heldBack := (limit.after before).heldBack
    before.length = (shownTimes log).length + total (toldNumbers log) + heldBack ∧
      (shownTimes log).IsChain (fun last next => interval ≤ next - last) ∧
      ∃ shown rest,
        limit.ticks (before ++ now :: later) = limit.ticks before ++ shown :: rest ∧
        (shown = none ↔
          ∃ last, (shownTimes log).getLast? = some last ∧ now - last < interval) ∧
        ∀ number, shown = some number → number = heldBack := by
  intro limit log heldBack
  have accounts : Accounts interval (limit.after before) log :=
    (accounts_new interval).run before
  refine ⟨?_, accounts.spaced, ((limit.after before).tickAt now).1, _,
    limit.ticks_append before (now :: later), ?_, ?_⟩
  · rw [← accounts.balance, length_log]
  · rw [tickAt_eq_none_iff, accounts.isTooSoon_iff]
  · exact fun number told => told_of_tickAt told

end Footage
