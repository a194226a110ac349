import Footage.Export.DecodeClock
import Footage.Proofs.Effects
import Mathlib.Data.List.Chain
import Mathlib.Data.List.Forall2

/-!
# Decode times are the least legal ones

Decode times have to rise, and none may come before the time at which its unit is shown. The clock
goes from unit to unit and knows only the last time it gave. Still each of its times is the least
that is possible, whatever disorder the times of the units are in.

* `clampedTime`: the decode time of a unit, told of all units up to it at once.
  `decodeTimes_eq`: the clock gives just these.
* `IsLegal`: what decode times have to be. `isLegal_decodeTimes`: the clock's times are that,
  `decodeTimes_le`: and no legal times come before them.
-/

namespace Footage

/-! ## One step -/

theorem decodeTime_some (last time : Nat) : decodeTime (some last) time = max time (last + 1) := by
  show (if time ≤ last then last + 1 else time) = _
  split <;> omega

theorem le_decodeTime (last : Option Nat) (time : Nat) : time ≤ decodeTime last time := by
  cases last with
  | none => exact Nat.le_refl _
  | some last =>
    rw [decodeTime_some]
    exact Nat.le_max_left _ _

theorem lt_decodeTime (last time : Nat) : last < decodeTime (some last) time := by
  rw [decodeTime_some]
  exact Nat.le_max_right _ _

@[simp] theorem length_decodeTimes (last : Option Nat) (times : List Nat) :
    (decodeTimes last times).length = times.length := by
  induction times generalizing last with
  | nil => rfl
  | cons time rest ih => exact congrArg (· + 1) (ih _)

/-- The counter holds the times just if it can hold each of them. -/
theorem countedDecodeTimes_eq_ok_iff {last : Option Nat} {times dts : List Nat} :
    countedDecodeTimes last times = .ok dts ↔
      dts = decodeTimes last times ∧ ∀ d ∈ decodeTimes last times, FitsIn 64 d := by
  induction times generalizing last dts with
  | nil =>
    rw [countedDecodeTimes, decodeTimes, Except.ok.injEq, eq_comm]
    simp
  | cons time rest ih =>
    rw [countedDecodeTimes, decodeTimes, List.forall_mem_cons, countedDecodeTime, inWord]
    by_cases fits : FitsIn 64 (decodeTime last time)
    · rw [if_pos fits, ok_bind]
      have later := @ih (some (decodeTime last time))
      cases others : countedDecodeTimes (some (decodeTime last time)) rest with
      | ok behind =>
        obtain ⟨same, all⟩ := later.mp others
        rw [ok_bind, ← same]
        rw [← same] at all
        show Except.ok _ = Except.ok dts ↔ _
        rw [Except.ok.injEq, eq_comm]
        exact (and_iff_left ⟨fits, all⟩).symm
      | error fault =>
        have late : ¬∀ d ∈ decodeTimes (some (decodeTime last time)) rest, FitsIn 64 d := by
          intro all
          rw [later.mpr ⟨rfl, all⟩] at others
          cases others
        exact iff_of_false (fun done => by cases done) fun h => late h.2.2
    · rw [if_neg fits]
      exact iff_of_false (fun done => by cases done) fun h => fits h.2.1

/-! ## All times at once -/

/-- When the unit at an index can be decoded at the earliest: each unit up to it puts it off, to one
tick for each step from there. -/
def clampedTime (times : List Nat) (index : Nat) : Nat :=
  ((List.range (index + 1)).map fun i => times.getD i 0 + (index - i)).max?.getD 0

theorem max?_eq_clampedTime (times : List Nat) (index : Nat) :
    ((List.range (index + 1)).map fun i => times.getD i 0 + (index - i)).max? =
      some (clampedTime times index) := by
  unfold clampedTime
  cases found : ((List.range (index + 1)).map fun i => times.getD i 0 + (index - i)).max? with
  | none => simp [List.max?_eq_none_iff] at found
  | some latest => rfl

theorem le_clampedTime (times : List Nat) {i index : Nat} (upTo : i ≤ index) :
    times.getD i 0 + (index - i) ≤ clampedTime times index :=
  (List.max?_eq_some_iff.mp (max?_eq_clampedTime times index)).2 _
    (List.mem_map_of_mem (List.mem_range.mpr (Nat.lt_succ_of_le upTo)))

theorem exists_clampedTime_eq (times : List Nat) (index : Nat) :
    ∃ i ≤ index, clampedTime times index = times.getD i 0 + (index - i) := by
  have among := (List.max?_eq_some_iff.mp (max?_eq_clampedTime times index)).1
  obtain ⟨i, within, attained⟩ := List.mem_map.mp among
  exact ⟨i, Nat.le_of_lt_succ (List.mem_range.mp within), attained.symm⟩

theorem clampedTime_zero (times : List Nat) : clampedTime times 0 = times.getD 0 0 := by
  obtain ⟨i, upTo, same⟩ := exists_clampedTime_eq times 0
  obtain rfl := Nat.le_zero.mp upTo
  exact same

theorem clampedTime_succ (times : List Nat) (index : Nat) :
    clampedTime times (index + 1) =
      max (times.getD (index + 1) 0) (clampedTime times index + 1) := by
  refine Nat.le_antisymm ?_ (Nat.max_le.mpr ⟨?_, ?_⟩)
  · obtain ⟨i, upTo, same⟩ := exists_clampedTime_eq times (index + 1)
    rw [same]
    obtain rfl | before := Nat.eq_or_lt_of_le upTo
    · omega
    · have := le_clampedTime times (Nat.le_of_lt_succ before)
      omega
  · have := le_clampedTime times (Nat.le_refl (index + 1))
    omega
  · obtain ⟨i, upTo, same⟩ := exists_clampedTime_eq times index
    have := le_clampedTime times (show i ≤ index + 1 by omega)
    omega

theorem clampedTime_lt {times : List Nat} {i index : Nat} (before : i < index) :
    clampedTime times i < clampedTime times index := by
  induction before with
  | refl =>
    rw [clampedTime_succ]
    exact Nat.le_max_right _ _
  | step _ ih =>
    rw [clampedTime_succ]
    exact Nat.lt_of_lt_of_le (Nat.lt_succ_of_lt ih) (Nat.le_max_right _ _)

/-- The clock takes the first time as it is, and after that goes by the last one that it gave. -/
theorem getElem?_decodeTimes_succ {last : Option Nat} {times : List Nat} {index dts time : Nat}
    (here : (decodeTimes last times)[index]? = some dts) (next : times[index + 1]? = some time) :
    (decodeTimes last times)[index + 1]? = some (decodeTime (some dts) time) := by
  induction index generalizing last times with
  | zero =>
    obtain _ | ⟨first, _ | ⟨second, rest⟩⟩ := times
    · cases next
    · cases next
    · cases here
      cases next
      rfl
  | succ index ih =>
    obtain _ | ⟨first, rest⟩ := times
    · cases next
    · exact ih here next

theorem getElem?_decodeTimes {times : List Nat} {index : Nat} (inside : index < times.length) :
    (decodeTimes none times)[index]? = some (clampedTime times index) := by
  induction index with
  | zero =>
    obtain _ | ⟨first, rest⟩ := times
    · cases inside
    · rw [clampedTime_zero]
      rfl
  | succ index ih =>
    have here := ih (Nat.lt_of_succ_lt inside)
    rw [getElem?_decodeTimes_succ here (List.getElem?_eq_getElem inside), decodeTime_some,
      clampedTime_succ, List.getD_eq_getElem?_getD, List.getElem?_eq_getElem inside]
    rfl

theorem decodeTimes_eq (times : List Nat) :
    decodeTimes none times = (List.range times.length).map (clampedTime times) := by
  refine List.ext_getElem? fun index => ?_
  by_cases inside : index < times.length
  · rw [getElem?_decodeTimes inside]
    simp [inside]
  · rw [List.getElem?_eq_none (by simpa using inside),
      List.getElem?_eq_none (by simpa using inside)]

/-! ## Legal times -/

/-- Times at which units that are shown at `times` may be decoded. -/
structure IsLegal (times dts : List Nat) : Prop where
  rises : dts.IsChain (· < ·)
  /-- There is one for each unit, and it is not before the unit's own time. -/
  notBefore : List.Forall₂ (· ≤ ·) times dts

theorem isChain_cons_decodeTimes (last : Nat) (times : List Nat) :
    (last :: decodeTimes (some last) times).IsChain (· < ·) := by
  induction times generalizing last with
  | nil => exact List.isChain_singleton last
  | cons time rest ih => exact List.isChain_cons_cons.mpr ⟨lt_decodeTime last time, ih _⟩

theorem forall₂_le_decodeTimes (last : Option Nat) (times : List Nat) :
    List.Forall₂ (· ≤ ·) times (decodeTimes last times) := by
  induction times generalizing last with
  | nil => exact .nil
  | cons time rest ih => exact .cons (le_decodeTime last time) (ih _)

theorem isLegal_decodeTimes (times : List Nat) : IsLegal times (decodeTimes none times) := by
  refine ⟨?_, forall₂_le_decodeTimes none times⟩
  cases times with
  | nil => exact List.isChain_nil
  | cons time rest => exact isChain_cons_decodeTimes time rest

/-- Times that rise from `last` on come nowhere before those of the clock. -/
theorem decodeTimes_le_of_isChain {last : Option Nat} {times others : List Nat}
    (notBefore : List.Forall₂ (· ≤ ·) times others) (rises : others.IsChain (· < ·))
    (after : ∀ l ∈ last, ∀ d ∈ others.head?, l < d) :
    List.Forall₂ (· ≤ ·) (decodeTimes last times) others := by
  induction notBefore generalizing last with
  | nil => exact .nil
  | @cons time d rest others shown _ ih =>
    have first : decodeTime last time ≤ d := by
      cases last with
      | none => exact shown
      | some l =>
        rw [decodeTime_some]
        exact Nat.max_le.mpr ⟨shown, after l rfl d rfl⟩
    refine .cons first (ih rises.tail ?_)
    rintro _ ⟨⟩ next behind
    exact Nat.lt_of_le_of_lt first (rises.rel_head? behind)

theorem decodeTimes_le {times others : List Nat} (legal : IsLegal times others) :
    List.Forall₂ (· ≤ ·) (decodeTimes none times) others :=
  decodeTimes_le_of_isChain legal.notBefore legal.rises nofun

example : decodeTimes none [0, 3000, 3000, 2000, 9000] = [0, 3000, 3001, 3002, 9000] := rfl

end Footage
