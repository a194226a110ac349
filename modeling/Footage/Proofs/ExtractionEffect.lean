import Footage.Proofs.ByteBudget

/-!
# What taking history leaves behind

History is chosen before anything is taken out of the ring, so a request that is refused has
touched nothing yet. Only draining takes packets out, in two groups: those before the history and
the history itself. Together these are all packets there are.

* `extract_fst`: what is given depends on the stored packets and not on the method.
* `RingReaches.extract_snd`: what is left is the ring as it was, or an empty one.
* `RingReaches.drain_counted`: no weight that is reckoned with in a drain leaves a word.
* `extract_effect`: all of it together.
* `Reachable.extract_step`: what it comes to if a thread takes history while others use the ring.
-/

namespace Footage

/-- All methods give the packets from the chosen anchor on, or the same error. -/
theorem extract_fst (ring : RingBuffer) (method : ExtractMethod) (minimum : Duration)
    (mode : ExtractMode) :
    (ring.extract method minimum mode).1 =
      (Anchor.choose ring.packets minimum mode).map fun a => ⟨ring.packets.drop a.start⟩ := by
  show (takeHistory ring.store method minimum mode).1 = _
  unfold RingBuffer.packets
  rcases chosen : Anchor.choose ring.store.toList minimum mode with error | a
  · exact takeHistory_of_error method chosen
  · exact takeHistory_of_anchor method chosen

/-- The guarantee that a drain checks at its end is never found broken. -/
theorem extract_ne_invariantViolated (ring : RingBuffer) (method : ExtractMethod)
    (minimum : Duration) (mode : ExtractMode) (detail : String) :
    (ring.extract method minimum mode).1 ≠ .error (.invariantViolated detail) := by
  intro broken
  have outcome : HistoryOf ring.packets minimum mode (ring.extract method minimum mode).1 :=
    historyOf_takeHistory ring.store method minimum mode
  rw [broken] at outcome
  cases outcome

namespace RingReaches

variable {budget : Nat} {ring : RingBuffer} {history : List Packet}

/-- Only a drain that succeeds changes the ring, and then it leaves what dropping all packets would
leave. -/
theorem extract_snd (run : RingReaches budget ring history) (method : ExtractMethod)
    (minimum : Duration) (mode : ExtractMode) :
    (ring.extract method minimum mode).2 =
      if method = .drained ∧ (ring.extract method minimum mode).1.isOk then ring.clear
      else ring := by
  have left := run.keepsBudget.takeHistory_snd method minimum mode
  show ({ ring with store := (takeHistory ring.store method minimum mode).2 } : RingBuffer) =
    if method = .drained ∧ (takeHistory ring.store method minimum mode).1.isOk then _ else _
  rw [left]
  split <;> rfl

/-- Wherever history starts, the packets before it and then its own can be taken out without a
weight that leaves a word, and nothing is left. -/
theorem drain_counted (run : RingReaches budget ring history) (start : Nat) :
    ∃ left, ring.store.popManyCounted start = .ok (ring.packets.take start, left) ∧
      left.popManyCounted (ring.store.length - start) =
        .ok (ring.packets.drop start, ring.clear.store) := by
  have kept := run.keepsBudget
  have weight := WeightedRing.weight_popMany kept.weight start
  refine ⟨(ring.store.popMany start).2, ?_, ?_⟩
  · rw [WeightedRing.popManyCounted_eq kept.weight]
    exact congrArg Except.ok (Prod.ext (ring.store.popMany_fst start) rfl)
  · rw [WeightedRing.popManyCounted_eq weight]
    refine congrArg Except.ok (Prod.ext ?_ ?_)
    · have others : (ring.store.popMany start).2.toList = ring.packets.drop start := by
        unfold WeightedRing.toList
        rw [ring.store.popMany_entries, List.map_drop]
        rfl
      rw [WeightedRing.popMany_fst, others]
      refine List.take_of_length_le ?_
      simp [RingBuffer.packets, WeightedRing.toList, WeightedRing.length]
    · have drained := kept.drainFrom_snd start
      rw [drainFrom_eq] at drained
      exact drained

end RingReaches

/-- Taking history out of a ring, whatever was added, cleared and taken before: an error leaves the
ring as it was, whatever the method, and so does a method that keeps the packets. A drain that
succeeds leaves no packets and no weight, and wherever it starts no weight on the way leaves a
word. All methods give the same result, and none finds its guarantee broken. -/
theorem extract_effect {budget : Nat} {ring : RingBuffer} {history : List Packet}
    (run : RingReaches budget ring history) (minimum : Duration) (mode : ExtractMode) :
    (∀ method error, (ring.extract method minimum mode).1 = .error error →
      (ring.extract method minimum mode).2 = ring) ∧
    (∀ method, method ≠ .drained → (ring.extract method minimum mode).2 = ring) ∧
    (∀ window, (ring.extract .drained minimum mode).1 = .ok window →
      (ring.extract .drained minimum mode).2.packets = [] ∧
      (ring.extract .drained minimum mode).2.store.weight = 0) ∧
    (∀ start, ∃ left, ring.store.popManyCounted start = .ok (ring.packets.take start, left) ∧
      left.popManyCounted (ring.store.length - start) =
        .ok (ring.packets.drop start, ring.clear.store)) ∧
    (∀ method other,
      (ring.extract method minimum mode).1 = (ring.extract other minimum mode).1) ∧
    ∀ method detail,
      (ring.extract method minimum mode).1 ≠ .error (.invariantViolated detail) := by
  refine ⟨fun method error failed => ?_, fun method keeps => ?_, fun window taken => ?_,
    run.drain_counted, fun method other => ?_,
    fun method => extract_ne_invariantViolated ring method minimum mode⟩
  · rw [run.extract_snd, failed, if_neg]
    rintro ⟨-, ok⟩
    cases ok
  · rw [run.extract_snd, if_neg]
    rintro ⟨drains, -⟩
    exact keeps drains
  · rw [run.extract_snd, taken, if_pos ⟨rfl, rfl⟩]
    exact ⟨rfl, rfl⟩
  · rw [extract_fst, extract_fst]

def oneSecondRing : RingBuffer :=
  [({ codec := .h264, units := [.ofRaw [0x67], .ofRaw [0x68], .ofRaw [0x65]],
      pts := .zero, wall := .epoch } : Packet),
    { codec := .h264, units := [.ofRaw [0x41]], pts := .ofSeconds 1, wall := .epoch }].foldl
    (fun ring p => (ring.beginAdd p).2.1) (.empty 64)

/-- A drain that asks for too much takes nothing; the same one takes all if less will do. -/
theorem extract_effect_oneSecondRing :
    RingReaches 64 oneSecondRing oneSecondRing.packets ∧
    (oneSecondRing.extract .drained (.ofSeconds 2) .strict).1 =
      .error (.insufficient (.ofSeconds 2) (.ofSeconds 1)) ∧
    (oneSecondRing.extract .drained (.ofSeconds 2) .strict).2 = oneSecondRing ∧
    (oneSecondRing.extract .drained (.ofSeconds 2) .bestEffort).1 =
      .ok ⟨oneSecondRing.packets⟩ ∧
    (oneSecondRing.extract .drained (.ofSeconds 2) .bestEffort).2.packets = [] ∧
    (oneSecondRing.extract .drained (.ofSeconds 2) .bestEffort).2.store.weight = 0 := by
  have run : RingReaches 64 oneSecondRing oneSecondRing.packets := .add _ (.add _ (.start rfl))
  have failed : (oneSecondRing.extract .drained (.ofSeconds 2) .strict).1 =
      .error (.insufficient (.ofSeconds 2) (.ofSeconds 1)) := rfl
  have taken : (oneSecondRing.extract .drained (.ofSeconds 2) .bestEffort).1 =
      .ok ⟨oneSecondRing.packets⟩ := rfl
  exact ⟨run, failed, (extract_effect run _ _).1 _ _ failed, taken,
    (extract_effect run _ _).2.2.1 _ taken⟩

/-- A thread that takes history out of a ring, whatever the others are doing, changes nothing but
the stored packets, and these only if a drain succeeds. It never finds its guarantee broken. -/
theorem Reachable.extract_step {budget t : Nat} {s s' : System} {method : ExtractMethod}
    {minimum : Duration} {mode : ExtractMode} {result : Except HistoryError PacketBuffer}
    (reachable : Reachable budget s) (step : Step s (.extract t method minimum mode result) s') :
    s' = (if method = .drained ∧ result.isOk then { s with ring := s.ring.clear } else s) ∧
      ∀ detail, result ≠ .error (.invariantViolated detail) := by
  obtain ⟨es, run⟩ := reachable
  cases step with
  | extract _ _ taken =>
    obtain rfl := congrArg Prod.fst taken
    obtain rfl := congrArg Prod.snd taken
    refine ⟨?_, extract_ne_invariantViolated s.ring method minimum mode⟩
    rw [run.ringReaches.extract_snd]
    split <;> rfl

end Footage
