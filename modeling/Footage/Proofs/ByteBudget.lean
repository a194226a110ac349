import Footage.Proofs.HistoryAnchor
import Footage.Proofs.RingFrame
import Footage.Ring.Threads

/-!
# The byte budget over whole runs

A ring evicts packet by packet and knows nothing but what it stores. What it stores is all the
same a matter of the whole history: the longest end part of it that fits into the budget. One
eviction loop keeps the longest end part of the stored packets that leaves room for the next one
(`makeRoom_eq`), and longest end parts compose (`IsLongestFitting.trans`,
`IsLongestFitting.concat`), so nothing that was evicted once is ever missed later.

The weight of the ring is the sum of the weights of its entries at every point of an eviction or
a drain, so no difference in it leaves a word (`makeRoomCounted_eq`, `popManyCounted_eq`).

`RingReaches` are the runs, `KeepsBudget` is the invariant, and `byteBudget` the result. Threads
that use a ring at the same time lead to no others (`Run.ringReaches`), so its budget is kept, too
(`Run.keepsBudget`).
-/

namespace Footage

/-! ## Longest end parts -/

/-- `stored` is the longest end part of `history` whose sizes sum up to at most `budget`. -/
structure IsLongestFitting {α : Type} (size : α → Nat) (budget : Nat) (history stored : List α) :
    Prop where
  isSuffix : stored <:+ history
  fits : total (stored.map size) ≤ budget
  longest : ∀ other, other <:+ history → total (other.map size) ≤ budget →
    other.length ≤ stored.length

section EndParts

variable {α β : Type} {size : α → Nat} {budget : Nat}

theorem IsLongestFitting.refl {all : List α} (fits : total (all.map size) ≤ budget) :
    IsLongestFitting size budget all all :=
  ⟨List.suffix_rfl, fits, fun _ isSuffix _ => isSuffix.length_le⟩

/-- Of a longest end part only the rest counts when the budget shrinks. -/
theorem IsLongestFitting.trans {less : Nat} {history stored kept : List α}
    (first : IsLongestFitting size budget history stored) (smaller : less ≤ budget)
    (second : IsLongestFitting size less stored kept) :
    IsLongestFitting size less history kept := by
  refine ⟨second.isSuffix.trans first.isSuffix, second.fits, fun other isSuffix fits => ?_⟩
  have bound := first.longest other isSuffix (Nat.le_trans fits smaller)
  exact second.longest other
    (List.suffix_of_suffix_length_le isSuffix first.isSuffix bound) fits

/-- One more entry leaves the others that much less room. -/
theorem IsLongestFitting.concat {history kept : List α} {a : α} (fits : size a ≤ budget)
    (room : IsLongestFitting size (budget - size a) history kept) :
    IsLongestFitting size budget (history ++ [a]) (kept ++ [a]) := by
  have grown (back : List α) : total ((back ++ [a]).map size) = total (back.map size) + size a := by
    rw [List.map_append, total_append]
    rfl
  refine ⟨List.suffix_append_self_iff.mpr room.isSuffix, ?_, ?_⟩
  · have := room.fits
    rw [grown]
    omega
  · intro other isSuffix otherFits
    rcases List.suffix_concat_iff.mp isSuffix with rfl | ⟨back, rfl, backSuffix⟩
    · exact Nat.zero_le _
    · rw [grown] at otherFits
      have := room.longest back backSuffix (by omega)
      simpa using this

/-- Longest end parts can be found after mapping, if sizes stay the same. -/
theorem IsLongestFitting.of_map {sizeOf : β → Nat} (f : α → β) {history : List α} {count : Nat}
    (same : ∀ a, sizeOf (f a) = size a)
    (h : IsLongestFitting sizeOf budget (history.map f) ((history.map f).drop count)) :
    IsLongestFitting size budget history (history.drop count) := by
  have sizes (back : List α) : (back.map f).map sizeOf = back.map size := by
    rw [List.map_map]
    exact List.map_congr_left fun a _ => same a
  have fits := h.fits
  have longest := h.longest
  rw [← List.map_drop] at fits longest
  rw [sizes] at fits
  refine ⟨List.drop_suffix count history, fits, fun other isSuffix otherFits => ?_⟩
  have := longest (other.map f) (isSuffix.map f) (by rw [sizes]; exact otherFits)
  simpa using this

end EndParts

/-! ## Weights -/

namespace WeightedRing

variable {α : Type}

abbrev weightOf (entries : List (Nat × α)) : Nat := total (entries.map (·.1))

/-- The loop keeps the longest end part of the entries that leaves room for the next one. -/
theorem makeRoom_eq {budget incoming : Nat} (fits : incoming ≤ budget)
    (entries : List (Nat × α)) :
    ∃ evicted, evicted ≤ entries.length ∧
      makeRoom budget incoming entries (weightOf entries) =
        (evicted, entries.drop evicted, weightOf (entries.drop evicted)) ∧
      IsLongestFitting (·.1) (budget - incoming) entries (entries.drop evicted) := by
  induction entries with
  | nil => exact ⟨0, Nat.le_refl 0, rfl, .refl (Nat.zero_le _)⟩
  | cons entry rest ih =>
    obtain ⟨w, a⟩ := entry
    by_cases full : budget < weightOf ((w, a) :: rest) + incoming
    · obtain ⟨evicted, bound, step, kept⟩ := ih
      have lighter : weightOf ((w, a) :: rest) - w = weightOf rest := by
        simp [weightOf, total]
      refine ⟨evicted + 1, Nat.succ_le_succ bound, ?_, ?_⟩
      · rw [makeRoom, if_pos full, lighter, step]
        rfl
      · refine ⟨kept.isSuffix.trans (List.suffix_cons _ _), kept.fits, ?_⟩
        intro other isSuffix otherFits
        rcases List.suffix_cons_iff.mp isSuffix with rfl | inRest
        · -- the whole list is what does not leave enough room
          exact absurd full (by simp only [weightOf]; omega)
        · exact kept.longest other inRest otherFits
    · refine ⟨0, Nat.zero_le _, ?_, .refl ?_⟩
      · rw [makeRoom, if_neg full]
        rfl
      · show weightOf ((w, a) :: rest) ≤ budget - incoming
        omega

/-- Every sum and every difference in the loop stays within a word. -/
theorem makeRoomCounted_eq {budget incoming : Nat} {entries : List (Nat × α)}
    (small : FitsIn 64 (weightOf entries + incoming)) :
    makeRoomCounted budget incoming entries (weightOf entries) =
      .ok (makeRoom budget incoming entries (weightOf entries)) := by
  induction entries with
  | nil =>
    rw [makeRoomCounted, inWord, if_pos small]
    rfl
  | cons entry rest ih =>
    obtain ⟨w, a⟩ := entry
    have lighter : weightOf ((w, a) :: rest) - w = weightOf rest := by
      simp [weightOf, total]
    have heavy : w ≤ weightOf ((w, a) :: rest) := Nat.le_add_right _ _
    have rest_small : FitsIn 64 (weightOf rest + incoming) :=
      Nat.lt_of_le_of_lt (by omega) small
    rw [makeRoomCounted, makeRoom, inWord, if_pos small, wordMinus, if_pos heavy, lighter]
    split
    · show (makeRoomCounted budget incoming rest (weightOf rest) >>= _) = _
      rw [ih rest_small]
      rfl
    · rfl

/-- What a run of pops leaves weighs what its entries weigh. -/
theorem weight_popMany {ring : WeightedRing α} (h : ring.weight = weightOf ring.entries)
    (count : Nat) :
    (ring.popMany count).2.weight = weightOf (ring.popMany count).2.entries := by
  induction count generalizing ring with
  | zero => exact h
  | succ count ih =>
    obtain ⟨entries, weight, budget⟩ := ring
    cases entries with
    | nil => exact h
    | cons entry rest =>
      obtain ⟨w, a⟩ := entry
      simp only [weightOf, List.map_cons, total] at h
      have left : (⟨rest, weight - w, budget⟩ : WeightedRing α).weight = weightOf rest := by
        simp only [weightOf]
        omega
      exact ih left

theorem budget_popMany (ring : WeightedRing α) (count : Nat) :
    (ring.popMany count).2.budget = ring.budget := by
  induction count generalizing ring with
  | zero => rfl
  | succ count ih =>
    obtain ⟨entries, weight, budget⟩ := ring
    cases entries with
    | nil => rfl
    | cons entry rest => exact ih ⟨rest, weight - entry.1, budget⟩

/-- No difference in a run of pops leaves a word. -/
theorem popManyCounted_eq {ring : WeightedRing α} (h : ring.weight = weightOf ring.entries)
    (count : Nat) : ring.popManyCounted count = .ok (ring.popMany count) := by
  induction count generalizing ring with
  | zero => rfl
  | succ count ih =>
    obtain ⟨entries, weight, budget⟩ := ring
    cases entries with
    | nil => rfl
    | cons entry rest =>
      obtain ⟨w, a⟩ := entry
      simp only [weightOf, List.map_cons, total] at h
      have heavy : w ≤ weight := by omega
      have left : (⟨rest, weight - w, budget⟩ : WeightedRing α).weight = weightOf rest := by
        simp only [weightOf]
        omega
      have step := ih left
      rw [popManyCounted, popCounted]
      simp only [wordMinus, if_pos heavy]
      show (popManyCounted ⟨rest, weight - w, budget⟩ count >>= _) = _
      rw [step]
      rfl

end WeightedRing

/-! ## Runs -/

/-- The rings that calls lead to, with the packets that were added since the last call that
emptied the ring on purpose. Packets that are larger than the whole budget are left out. Between
calls anything may happen that leaves the stored packets alone, such as deliveries. -/
inductive RingReaches (budget : Nat) : RingBuffer → List Packet → Prop
  | start {ring : RingBuffer} : ring.store = .empty budget → RingReaches budget ring []
  | add {ring : RingBuffer} {history : List Packet} (p : Packet) :
      RingReaches budget ring history →
      RingReaches budget (ring.beginAdd p).2.1
        (if p.payloadSize ≤ budget then history ++ [p] else history)
  | clear {ring : RingBuffer} {history : List Packet} :
      RingReaches budget ring history → RingReaches budget ring.clear []
  | extract {ring : RingBuffer} {history : List Packet} (method : ExtractMethod)
      (minimum : Duration) (mode : ExtractMode) :
      RingReaches budget ring history →
      RingReaches budget (ring.extract method minimum mode).2
        (if method = .drained ∧ (ring.extract method minimum mode).1.isOk then [] else history)
  | elsewhere {ring later : RingBuffer} {history : List Packet} :
      RingReaches budget ring history → later.store = ring.store →
      RingReaches budget later history

/-- What holds of the stored packets after every call. -/
structure KeepsBudget (budget : Nat) (history : List Packet) (ring : WeightedRing Packet) :
    Prop where
  entries : ring.entries = ring.toList.map fun p => (p.payloadSize, p)
  weight : ring.weight = WeightedRing.weightOf ring.entries
  sameBudget : ring.budget = budget
  longest : IsLongestFitting Packet.payloadSize budget history ring.toList

namespace KeepsBudget

variable {budget : Nat} {history : List Packet} {ring : WeightedRing Packet}

theorem empty (budget : Nat) : KeepsBudget budget [] (.empty budget) :=
  ⟨rfl, rfl, rfl, .refl (Nat.zero_le budget)⟩

theorem weight_eq (h : KeepsBudget budget history ring) :
    ring.weight = total (ring.toList.map (·.payloadSize)) := by
  rw [h.weight, WeightedRing.weightOf, h.entries, List.map_map]
  rfl

theorem weight_le (h : KeepsBudget budget history ring) : ring.weight ≤ budget := by
  rw [h.weight_eq]
  exact h.longest.fits

/-- What a push that has room for the packet leaves behind. -/
theorem push_eq (h : KeepsBudget budget history ring) {p : Packet}
    (small : p.payloadSize ≤ budget) :
    ∃ evicted, evicted ≤ ring.length ∧
      (ring.push p.payloadSize p).1 = .stored evicted ∧
      (ring.push p.payloadSize p).2.toList = ring.toList.drop evicted ++ [p] ∧
      KeepsBudget budget (history ++ [p]) (ring.push p.payloadSize p).2 := by
  obtain ⟨evicted, bound, step, room⟩ := WeightedRing.makeRoom_eq small ring.entries
  have kept : ring.entries.drop evicted =
      (ring.toList.drop evicted).map fun p => (p.payloadSize, p) := by
    rw [List.map_drop, ← h.entries]
  have pushed : ring.push p.payloadSize p =
      (.stored evicted, ⟨ring.entries.drop evicted ++ [(p.payloadSize, p)],
        WeightedRing.weightOf (ring.entries.drop evicted) + p.payloadSize, ring.budget⟩) := by
    rw [WeightedRing.push, if_neg (by rw [h.sameBudget]; omega), h.sameBudget, h.weight, step]
  have list : (ring.push p.payloadSize p).2.toList = ring.toList.drop evicted ++ [p] := by
    simp [pushed, WeightedRing.toList]
  refine ⟨evicted, bound, by rw [pushed], list, ?_, ?_, ?_, ?_⟩
  · rw [list, List.map_append, ← kept, pushed]
    rfl
  · rw [pushed]
    simp [WeightedRing.weightOf, total_append, total]
  · rw [pushed]
    exact h.sameBudget
  · rw [h.entries] at room
    have back : IsLongestFitting Packet.payloadSize (budget - p.payloadSize) ring.toList
        (ring.toList.drop evicted) :=
      .of_map (fun p => (p.payloadSize, p)) (fun _ => rfl) room
    rw [list]
    exact (h.longest.trans (Nat.sub_le _ _) back).concat small

/-- A packet that is larger than the whole budget changes nothing. -/
theorem push_of_large (h : KeepsBudget budget history ring) {p : Packet}
    (large : budget < p.payloadSize) : ring.push p.payloadSize p = (.rejected, ring) := by
  rw [WeightedRing.push, if_pos (by rw [h.sameBudget]; exact large)]

theorem clear (h : KeepsBudget budget history ring) : KeepsBudget budget [] ring.clear := by
  rw [WeightedRing.clear, h.sameBudget]
  exact empty budget

theorem drainFrom_snd (h : KeepsBudget budget history ring) (start : Nat) :
    (drainFrom ring start).2 = ring.clear := by
  rw [drainFrom_eq]
  have weight := WeightedRing.weight_popMany (WeightedRing.weight_popMany h.weight start)
    (ring.length - start)
  have same := ((ring.popMany start).2.budget_popMany (ring.length - start)).trans
    (ring.budget_popMany start)
  have empty : ((ring.popMany start).2.popMany (ring.length - start)).2.entries = [] := by
    rw [WeightedRing.popMany_entries, WeightedRing.popMany_entries, List.drop_drop,
      List.drop_eq_nil_iff]
    simp only [WeightedRing.length]
    omega
  generalize ((ring.popMany start).2.popMany (ring.length - start)).2 = left at weight same empty
  obtain ⟨entries, weightLeft, budgetLeft⟩ := left
  simp only at weight same empty
  simp [WeightedRing.clear, empty, weight, same, WeightedRing.weightOf, total]

/-- Only a drain that succeeds changes the stored packets, and then it leaves none. -/
theorem takeHistory_snd (h : KeepsBudget budget history ring) (method : ExtractMethod)
    (minimum : Duration) (mode : ExtractMode) :
    (takeHistory ring method minimum mode).2 =
      if method = .drained ∧ (takeHistory ring method minimum mode).1.isOk then ring.clear
      else ring := by
  rcases chosen : Anchor.choose ring.toList minimum mode with error | a
  · simp [takeHistory, chosen, Except.isOk, Except.toBool]
  · rw [takeHistory_of_anchor method chosen]
    cases method with
    | shared => simp [takeHistory, chosen]
    | copied => simp [takeHistory, chosen]
    | drained => simp [takeHistory, chosen, Except.isOk, Except.toBool, h.drainFrom_snd]

end KeepsBudget

/-- Every call keeps the invariant. -/
theorem RingReaches.keepsBudget {budget : Nat} {ring : RingBuffer} {history : List Packet}
    (h : RingReaches budget ring history) : KeepsBudget budget history ring.store := by
  induction h with
  | start fresh =>
    rw [fresh]
    exact .empty budget
  | @add ring history p _ ih =>
    by_cases small : p.payloadSize ≤ budget
    · obtain ⟨_, _, _, _, after⟩ := ih.push_eq small
      rw [if_pos small]
      exact after
    · rw [if_neg small]
      show KeepsBudget budget history (ring.store.push p.payloadSize p).2
      rw [ih.push_of_large (Nat.lt_of_not_le small)]
      exact ih
  | clear _ ih => exact ih.clear
  | @extract ring history method minimum mode _ ih =>
    show KeepsBudget budget _ (takeHistory ring.store method minimum mode).2
    rw [ih.takeHistory_snd method minimum mode]
    show KeepsBudget budget (if method = .drained ∧
      (takeHistory ring.store method minimum mode).1.isOk then [] else history) _
    split
    · exact ih.clear
    · exact ih
  | elsewhere _ same ih =>
    rw [same]
    exact ih

/-- A push never leaves a word. -/
theorem KeepsBudget.pushCounted_eq {budget : Nat} {history : List Packet}
    {ring : WeightedRing Packet} (h : KeepsBudget budget history ring)
    (small : FitsIn 63 budget) (p : Packet) :
    ring.pushCounted p.payloadSize p = .ok (ring.push p.payloadSize p) := by
  have word : wordLimit 64 = 2 * wordLimit 63 := by decide
  have same := h.sameBudget
  have weight := h.weight_le
  unfold FitsIn at small
  by_cases fits : p.payloadSize ≤ budget
  · have sums : FitsIn 64 (WeightedRing.weightOf ring.entries + p.payloadSize) := by
      rw [← h.weight]
      unfold FitsIn
      omega
    obtain ⟨evicted, _, step, room⟩ := WeightedRing.makeRoom_eq fits ring.entries
    have sum : FitsIn 64
        (WeightedRing.weightOf (ring.entries.drop evicted) + p.payloadSize) := by
      have := room.fits
      show total _ + _ < _
      omega
    have accepted : ¬ring.budget < p.payloadSize := by omega
    rw [WeightedRing.pushCounted, WeightedRing.push, if_neg accepted, if_neg accepted, same,
      h.weight, WeightedRing.makeRoomCounted_eq sums, step]
    show (inWord .addition _ >>= _) = _
    rw [inWord, if_pos sum]
    rfl
  · have refused : ring.budget < p.payloadSize := by omega
    rw [WeightedRing.pushCounted, WeightedRing.push, if_pos refused, if_pos refused]
    rfl

/-- After every sequence of calls the ring stores the longest end part of its history that fits
into the budget, and weighs what that weighs. The next call never leaves a word, however often it
takes packets out. An added packet is refused just if it is larger than the whole budget, and
then nothing changes; otherwise the reported number of packets leaves at the front. -/
theorem byteBudget {budget : Nat} {ring : RingBuffer} {history : List Packet}
    (small : FitsIn 63 budget) (run : RingReaches budget ring history) :
    IsLongestFitting Packet.payloadSize budget history ring.packets ∧
    ring.store.weight = total (ring.packets.map (·.payloadSize)) ∧
    ring.store.weight ≤ budget ∧
    (∀ count, ring.store.popManyCounted count = .ok (ring.store.popMany count)) ∧
    ∀ p : Packet,
      ring.store.pushCounted p.payloadSize p = .ok (ring.store.push p.payloadSize p) ∧
      ((ring.beginAdd p).1 = .rejected ↔ budget < p.payloadSize) ∧
      ((ring.beginAdd p).1 = .rejected → (ring.beginAdd p).2.1.packets = ring.packets) ∧
      ∀ evicted, (ring.beginAdd p).1 = .stored evicted →
        evicted ≤ ring.packets.length ∧
        (ring.beginAdd p).2.1.packets = ring.packets.drop evicted ++ [p] := by
  have h := run.keepsBudget
  refine ⟨h.longest, h.weight_eq, h.weight_le, WeightedRing.popManyCounted_eq h.weight,
    fun p => ⟨h.pushCounted_eq small p, ?_⟩⟩
  show ((ring.store.push p.payloadSize p).1 = .rejected ↔ _) ∧
    ((ring.store.push p.payloadSize p).1 = .rejected →
      (ring.store.push p.payloadSize p).2.toList = ring.store.toList) ∧
    ∀ evicted, (ring.store.push p.payloadSize p).1 = .stored evicted →
      evicted ≤ ring.store.toList.length ∧
      (ring.store.push p.payloadSize p).2.toList = ring.store.toList.drop evicted ++ [p]
  by_cases fits : p.payloadSize ≤ budget
  · obtain ⟨count, bound, outcome, after, _⟩ := h.push_eq fits
    rw [outcome, after]
    refine ⟨⟨fun absurd => ?_, fun large => ?_⟩, fun absurd => ?_, fun evicted reported => ?_⟩
    · cases absurd
    · exact absurd fits (Nat.not_le_of_lt large)
    · cases absurd
    · cases reported
      exact ⟨by simpa [WeightedRing.toList, WeightedRing.length] using bound, rfl⟩
  · have large := Nat.lt_of_not_le fits
    rw [h.push_of_large large]
    refine ⟨⟨fun _ => large, fun _ => rfl⟩, fun _ => rfl, fun evicted reported => ?_⟩
    cases reported

def blank (size : Nat) : Packet :=
  .ofTransport .unknown [.zeros size] .zero ⟨0⟩ false

/-- Two packets that fill the budget, one that is refused, and one that evicts the first. -/
def crowded : RingBuffer :=
  [3, 2, 9, 1].foldl (fun ring size => (ring.beginAdd (blank size)).2.1) (.empty 5)

theorem byteBudget_crowded :
    FitsIn 63 5 ∧ RingReaches 5 crowded [blank 3, blank 2, blank 1] ∧
    IsLongestFitting Packet.payloadSize 5 [blank 3, blank 2, blank 1] crowded.packets ∧
    crowded.packets = [blank 2, blank 1] ∧ crowded.store.weight = 3 := by
  have small : FitsIn 63 5 := by decide
  have run : RingReaches 5 crowded [blank 3, blank 2, blank 1] :=
    .add (blank 1) (.add (blank 9) (.add (blank 2) (.add (blank 3) (.start rfl))))
  exact ⟨small, run, (byteBudget small run).1, by decide, by decide⟩

/-! ## Threads that use a ring at the same time -/

/-- The packets that were added since the ring was emptied on purpose, after one more step. -/
def Event.historyAfter (budget : Nat) (history : List Packet) : Event → List Packet
  | .store _ p => if p.payloadSize ≤ budget then history ++ [p] else history
  | .clear _ => []
  | .extract _ method _ _ result => if method = .drained ∧ result.isOk then [] else history
  | _ => history

/-- A step of any thread is at most one call. -/
theorem RingReaches.step {budget : Nat} {s s' : System} {e : Event} {history : List Packet}
    (h : RingReaches budget s.ring history) (step : Step s e s') :
    RingReaches budget s'.ring (e.historyAfter budget history) := by
  cases step with
  | lock | unlock | settle | settled | add | enter | lookUp | lockDelivery | unlockStorage
    | timeOut | unlockDelivery | leave => exact h
  | clear => exact h.clear
  | @extract t method minimum mode _ _ _ _ taken =>
    obtain rfl := congrArg Prod.fst taken
    obtain rfl := congrArg Prod.snd taken
    exact h.extract method minimum mode
  | @store t p _ => exact h.add p
  | @listen t channel name policy _ =>
    rcases s.ring.register_eq channel name policy with same | ⟨_, grown⟩
    · exact h.elsewhere (congrArg (·.store) same)
    · exact h.elsewhere (congrArg (·.store) grown)
  | unlisten _ found =>
    obtain ⟨_, _, rfl⟩ := RingBuffer.unregister_true found
    exact h.elsewhere rfl
  | unlistenUnknown _ unknown =>
    rw [RingBuffer.unregister_false unknown]
    exact h
  | serve _ served =>
    obtain ⟨_, _, _, _, _, _, _, case⟩ := RingBuffer.serveStep_cases served
    exact h.elsewhere case.store
  | receive taken =>
    obtain ⟨_, _, _, _, rfl⟩ := RingBuffer.receive_eq taken
    exact h.elsewhere rfl
  | prune | openChannel | await | hangUp => exact h.elsewhere rfl

theorem RingReaches.run {budget : Nat} {s s' : System} {es : List Event} {history : List Packet}
    (h : RingReaches budget s.ring history) (run : Run s es s') :
    RingReaches budget s'.ring (es.foldl (Event.historyAfter budget) history) := by
  induction run generalizing history with
  | nil => exact h
  | cons step _ ih => exact ih (h.step step)

/-- Every interleaving of threads amounts to calls in a row. -/
theorem Run.ringReaches {budget : Nat} {es : List Event} {s : System}
    (run : Run (.start budget) es s) :
    RingReaches budget s.ring (es.foldl (Event.historyAfter budget) []) :=
  RingReaches.run (.start rfl) run

/-- Whatever threads do at the same time, the ring stores the longest end part of what they added
that fits into the budget, and weighs what that weighs. No push or pop leaves a word. -/
theorem Run.keepsBudget {budget : Nat} {es : List Event} {s : System} (small : FitsIn 63 budget)
    (run : Run (.start budget) es s) :
    IsLongestFitting Packet.payloadSize budget (es.foldl (Event.historyAfter budget) [])
      s.ring.packets ∧
    s.ring.store.weight = total (s.ring.packets.map (·.payloadSize)) ∧
    s.ring.store.weight ≤ budget ∧
    (∀ count, s.ring.store.popManyCounted count = .ok (s.ring.store.popMany count)) ∧
    ∀ p : Packet,
      s.ring.store.pushCounted p.payloadSize p = .ok (s.ring.store.push p.payloadSize p) := by
  have h := run.ringReaches.keepsBudget
  exact ⟨h.longest, h.weight_eq, h.weight_le, WeightedRing.popManyCounted_eq h.weight,
    h.pushCounted_eq small⟩

end Footage
