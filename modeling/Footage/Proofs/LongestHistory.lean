import Mathlib.Data.Nat.Find
import Footage.Proofs.HistoryAnchor

/-!
# The longest history

If no usable keyframe reaches back far enough, the backward pass ends with the one that was stored
first. Its history is the longest as long as times rise. Nothing checks that they do: after a clock
was set back, a keyframe that was stored later can be the one that reaches back furthest, and the
pass does not see it.

* `IsLongest`: what is called the longest history, over all usable keyframes.
* `extract_oldest`: what a ring gives is the history of the oldest one.
* `isLongest_iff`: that history is the longest just if no other usable keyframe is shown earlier.
* `oldest_not_longest`: a ring in which it is not.
-/

namespace Footage

/-- The packet at index `i` is a usable keyframe, and no other one reaches back further. -/
def IsLongest (packets : List Packet) (i : Nat) : Prop :=
  IsUsable packets i ∧
    ∀ j, IsUsable packets j → (coverageAt packets j).nanos ≤ (coverageAt packets i).nanos

/-- The packet at index `i` is the usable keyframe that was stored first. -/
def IsOldest (packets : List Packet) (i : Nat) : Prop :=
  IsUsable packets i ∧ ∀ j, IsUsable packets j → i ≤ j

/-- Some usable keyframe is shown before the packet at index `i`, and before the newest one. -/
def IsOvertaken (packets : List Packet) (i : Nat) : Prop :=
  ∃ j p q newest, IsUsable packets j ∧ packets[i]? = some p ∧ packets[j]? = some q ∧
    packets.getLast? = some newest ∧ q.pts.nanos < p.pts.nanos ∧ q.pts.nanos < newest.pts.nanos

theorem exists_oldest {packets : List Packet} (some : ∃ i, IsUsable packets i) :
    ∃ i, IsOldest packets i := by
  classical
  exact ⟨Nat.find some, Nat.find_spec some, fun j usable => Nat.find_min' some usable⟩

/-- If no usable keyframe reaches back far enough, only the oldest one counts, whatever the
method. -/
theorem extract_oldest {ring : RingBuffer} {minimum : Duration} {i : Nat}
    (oldest : IsOldest ring.packets i)
    (short : ∀ j, IsUsable ring.packets j → ¬Covers ring.packets minimum j)
    (method : ExtractMethod) :
    (ring.extract method minimum .strict).1 =
      .error (.insufficient minimum (coverageAt ring.packets i)) ∧
    (ring.extract method minimum .bestEffort).1 =
      .ok ⟨ring.packets.drop (leadStart ring.packets i)⟩ := by
  have outcome : ∀ mode, HistoryOf ring.packets minimum mode
      (ring.extract method minimum mode).1 := historyOf_takeHistory ring.store method minimum
  constructor
  · exact (outcome .strict).unique (.tooShort rfl oldest.1 short oldest.2)
  · exact (outcome .bestEffort).unique (.oldest rfl oldest.1 short oldest.2)

/-- Two histories of one content are compared by the times of their keyframes, as far as these are
before the newest packet. -/
theorem coverageAt_le_iff {packets : List Packet} {i j : Nat} {p q newest : Packet}
    (first : packets[i]? = some p) (second : packets[j]? = some q)
    (last : packets.getLast? = some newest) :
    (coverageAt packets j).nanos ≤ (coverageAt packets i).nanos ↔
      ¬(q.pts.nanos < p.pts.nanos ∧ q.pts.nanos < newest.pts.nanos) := by
  simp only [coverageAt, first, second, last, Duration.minus]
  omega

theorem isLongest_iff {packets : List Packet} {i : Nat} (usable : IsUsable packets i) :
    IsLongest packets i ↔ ¬IsOvertaken packets i := by
  obtain ⟨p, first, -⟩ := id usable
  constructor
  · rintro ⟨-, longest⟩ ⟨j, p', q, newest, other, same, second, last, earlier⟩
    obtain rfl : p = p' := Option.some.inj (first.symm.trans same)
    exact (coverageAt_le_iff first second last).mp (longest j other) earlier
  · intro never
    refine ⟨usable, fun j other => ?_⟩
    obtain ⟨q, second, -⟩ := id other
    have some : packets ≠ [] := by
      rintro rfl
      cases first
    have last := List.getLast?_eq_some_getLast some
    rw [coverageAt_le_iff first second last]
    exact fun earlier => never ⟨j, p, q, _, other, first, second, last, earlier⟩

/-- As long as times do not fall, no keyframe overtakes the oldest one. -/
theorem IsOldest.not_isOvertaken {packets : List Packet} {i : Nat} (oldest : IsOldest packets i)
    (rising : packets.Pairwise (·.pts.nanos ≤ ·.pts.nanos)) : ¬IsOvertaken packets i := by
  rintro ⟨j, p, q, newest, other, first, second, -, earlier, -⟩
  obtain ⟨insideFirst, rfl⟩ := List.getElem?_eq_some_iff.mp first
  obtain ⟨insideSecond, rfl⟩ := List.getElem?_eq_some_iff.mp second
  rcases Nat.lt_or_eq_of_le (oldest.2 j other) with later | rfl
  · have := List.pairwise_iff_getElem.mp rising i j insideFirst insideSecond later
    exact absurd earlier (Nat.not_lt_of_le this)
  · exact absurd earlier (Nat.lt_irrefl _)

/-- If there are usable keyframes and none reaches back far enough, then what is reported and given
is the history of the one that was stored first. It is the longest just if no other usable keyframe
is shown both before it and before the newest packet, and so always as long as times do not fall. -/
theorem oldest_history {ring : RingBuffer} {minimum : Duration}
    (some : ∃ j, IsUsable ring.packets j)
    (short : ∀ j, IsUsable ring.packets j → ¬Covers ring.packets minimum j) :
    ∃ i, IsOldest ring.packets i ∧
      (∀ method, (ring.extract method minimum .strict).1 =
        .error (.insufficient minimum (coverageAt ring.packets i))) ∧
      (∀ method, (ring.extract method minimum .bestEffort).1 =
        .ok ⟨ring.packets.drop (leadStart ring.packets i)⟩) ∧
      (IsLongest ring.packets i ↔ ¬IsOvertaken ring.packets i) ∧
      (ring.packets.Pairwise (·.pts.nanos ≤ ·.pts.nanos) → IsLongest ring.packets i) := by
  obtain ⟨i, oldest⟩ := exists_oldest some
  have longest := isLongest_iff oldest.1
  refine ⟨i, oldest, fun method => (extract_oldest oldest short method).1,
    fun method => (extract_oldest oldest short method).2, longest, fun rising => ?_⟩
  exact longest.mpr (oldest.not_isOvertaken rising)

/-- Two keyframes with their parameter sets, between which the clock was set back by four seconds,
and a picture shown one second after the first of them. -/
def setBackRing : RingBuffer :=
  let keyframe (seconds : Nat) : Packet :=
    { codec := .h264, units := [.ofRaw [0x67, 0x42], .ofRaw [0x68, 0xCE], .ofRaw [0x65, 0x88]],
      pts := .ofSeconds seconds, wall := .epoch }
  [keyframe 9, keyframe 5,
    { codec := .h264, units := [.ofRaw [0x41, 0x9A]], pts := .ofSeconds 10, wall := .epoch }].foldl
    (fun ring p => (ring.keep p).2) (.empty 64)

theorem isUsable_setBackRing : IsUsable setBackRing.packets 0 ∧ IsUsable setBackRing.packets 1 :=
  ⟨(isUsable_iff_of_anchorAt rfl).mp rfl, (isUsable_iff_of_anchorAt rfl).mp rfl⟩

theorem short_setBackRing : ∀ j, IsUsable setBackRing.packets j →
    ¬Covers setBackRing.packets (.ofSeconds 6) j := by
  have each : ∀ j < setBackRing.packets.length, ¬Covers setBackRing.packets (.ofSeconds 6) j := by
    decide
  exact fun j usable => each j usable.lt_length

theorem oldest_history_setBackRing :
    (∃ j, IsUsable setBackRing.packets j) ∧
    (∀ j, IsUsable setBackRing.packets j → ¬Covers setBackRing.packets (.ofSeconds 6) j) ∧
    ∃ i, IsOldest setBackRing.packets i ∧
      (setBackRing.extract .shared (.ofSeconds 6) .strict).1 =
        .error (.insufficient (.ofSeconds 6) (coverageAt setBackRing.packets i)) ∧
      ¬IsLongest setBackRing.packets i := by
  have usable := isUsable_setBackRing
  obtain ⟨i, oldest, reported, -, longest, -⟩ :=
    oldest_history ⟨0, usable.1⟩ short_setBackRing
  obtain rfl : i = 0 := Nat.le_zero.mp (oldest.2 0 usable.1)
  refine ⟨⟨0, usable.1⟩, short_setBackRing, 0, oldest, reported .shared, ?_⟩
  rw [longest, not_not]
  exact ⟨1, _, _, _, usable.2, rfl, rfl, rfl, by decide, by decide⟩

/-- Of two usable keyframes the one that was stored later reaches back five seconds. Yet one second
is reported as the longest history, and the history that is given starts at the keyframe that was
stored first, with its one second. -/
theorem oldest_not_longest :
    IsUsable setBackRing.packets 1 ∧
    (∀ j, IsUsable setBackRing.packets j →
      ¬Covers setBackRing.packets (.ofSeconds 6) j) ∧
    coverageAt setBackRing.packets 1 = .ofSeconds 5 ∧
    (setBackRing.extract .shared (.ofSeconds 6) .strict).1 =
      .error (.insufficient (.ofSeconds 6) (.ofSeconds 1)) ∧
    (setBackRing.extract .shared (.ofSeconds 6) .bestEffort).1 = .ok ⟨setBackRing.packets⟩ ∧
    (PacketBuffer.mk setBackRing.packets).firstKeyframe? = some 0 ∧
    coverageAt setBackRing.packets 0 = .ofSeconds 1 :=
  ⟨isUsable_setBackRing.2, short_setBackRing, rfl, rfl, rfl, rfl, rfl⟩

end Footage
