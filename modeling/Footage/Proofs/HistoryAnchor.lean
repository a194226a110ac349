import Footage.Ring.Buffer

/-!
# The keyframe at which history starts

`Anchor.find` reads the packets newest first, skips keyframes without parameter sets, and stops
at the first one that reaches back far enough. This file states the choice without any reading
order, over the indices of the stored packets, and proves that taking history makes exactly that
choice.

* `leadStart`, `IsUsable`, `coverageAt`: what the choice looks at, for the packet at an index.
* `HistoryOf`: the outcome that a content, a minimum and a mode have.
* `find_take_reverse`: what one pass over the first `count` packets finds.
* `extract_iff_historyOf`: the outcome of taking history is the one that `HistoryOf` allows,
  for every content, minimum, mode and method.
-/

namespace Footage

/-! ## The choice, said over indices -/

/-- Where the packets that belong to the one at index `i` start: just behind the last packet
before it that has a picture. -/
def leadStart (packets : List Packet) (i : Nat) : Nat :=
  let pictures := (List.range i).filter fun j => packets[j]?.any (·.hasPicture)
  (pictures.getLast?.map (· + 1)).getD 0

/-- The packet at index `i` has a keyframe, and the packets from `leadStart` up to it carry every
parameter set that its codec needs. -/
def IsUsable (packets : List Packet) (i : Nat) : Prop :=
  ∃ p, packets[i]? = some p ∧ p.hasKeyframe ∧
    ∀ type ∈ p.codec.parameterSetTypes, ∃ j q,
      leadStart packets i ≤ j ∧ j ≤ i ∧ packets[j]? = some q ∧ q.hasType type

/-- The time from the packet at index `i` to the newest one, zero if that comes first. -/
def coverageAt (packets : List Packet) (i : Nat) : Duration :=
  match packets[i]?, packets.getLast? with
  | some p, some newest => newest.pts.minus p.pts
  | _, _ => .zero

/-- History from the packet at index `i` on is at least `minimum` long. -/
abbrev Covers (packets : List Packet) (minimum : Duration) (i : Nat) : Prop :=
  minimum.nanos ≤ (coverageAt packets i).nanos

/-- What taking history out of `packets` has to give. -/
inductive HistoryOf (packets : List Packet) (minimum : Duration) (mode : ExtractMode) :
    Except HistoryError PacketBuffer → Prop
  | noVideo : packets = [] → HistoryOf packets minimum mode (.error .noVideo)
  | noKeyframe : packets ≠ [] → (∀ p ∈ packets, p.hasKeyframe = false) →
      HistoryOf packets minimum mode (.error (.noKeyframe packets.length))
  | noParameterSets {newest : Packet} : packets.getLast? = some newest →
      (∃ p ∈ packets, p.hasKeyframe = true) → (∀ i, ¬IsUsable packets i) →
      HistoryOf packets minimum mode (.error (.missingEssentialMetadata
        s!"no {newest.codec.label} keyframe is preceded by its parameter sets"))
  /-- The newest of the usable keyframes that reach back far enough. -/
  | covering {i : Nat} : IsUsable packets i → Covers packets minimum i →
      (∀ j, IsUsable packets j → Covers packets minimum j → j ≤ i) →
      HistoryOf packets minimum mode (.ok ⟨packets.drop (leadStart packets i)⟩)
  /-- The oldest usable keyframe, because none reaches back far enough. -/
  | oldest {i : Nat} : mode = .bestEffort → IsUsable packets i →
      (∀ j, IsUsable packets j → ¬Covers packets minimum j) →
      (∀ j, IsUsable packets j → i ≤ j) →
      HistoryOf packets minimum mode (.ok ⟨packets.drop (leadStart packets i)⟩)
  | tooShort {i : Nat} : mode = .strict → IsUsable packets i →
      (∀ j, IsUsable packets j → ¬Covers packets minimum j) →
      (∀ j, IsUsable packets j → i ≤ j) →
      HistoryOf packets minimum mode (.error (.insufficient minimum (coverageAt packets i)))

theorem IsUsable.lt_length {packets : List Packet} {i : Nat} (h : IsUsable packets i) :
    i < packets.length := by
  obtain ⟨p, stored, _⟩ := h
  exact (List.getElem?_eq_some_iff.mp stored).1

theorem IsUsable.ne_nil {packets : List Packet} {i : Nat} (h : IsUsable packets i) :
    packets ≠ [] := List.ne_nil_of_length_pos (Nat.zero_lt_of_lt h.lt_length)

theorem IsUsable.exists_keyframe {packets : List Packet} {i : Nat} (h : IsUsable packets i) :
    ∃ p ∈ packets, p.hasKeyframe = true := by
  obtain ⟨p, stored, keyframe, _⟩ := h
  exact ⟨p, List.mem_of_getElem? stored, keyframe⟩

/-! ## The packets in front of a keyframe -/

theorem leadStart_succ (packets : List Packet) (i : Nat) :
    leadStart packets (i + 1) =
      if packets[i]?.any (·.hasPicture) then i + 1 else leadStart packets i := by
  simp only [leadStart, List.range_succ, List.filter_append]
  split
  · next picture => simp [picture]
  · next noPicture => simp [noPicture]

theorem leadStart_le (packets : List Packet) (i : Nat) : leadStart packets i ≤ i := by
  induction i with
  | zero => exact Nat.le_refl 0
  | succ i ih =>
    rw [leadStart_succ]
    split <;> omega

/-- The backward walk over packets without picture ends at `leadStart`. -/
theorem takeWhile_take_reverse (packets : List Packet) (i : Nat) :
    (packets.take i).reverse.takeWhile (!·.hasPicture) =
      ((packets.take i).drop (leadStart packets i)).reverse := by
  induction i with
  | zero => simp
  | succ i ih =>
    rw [leadStart_succ]
    rcases stored : packets[i]? with _ | p
    · have all : packets.take (i + 1) = packets.take i := by
        have short := List.getElem?_eq_none_iff.mp stored
        rw [List.take_of_length_le short, List.take_of_length_le (by omega)]
      simp only [all, ih, Option.any_none, Bool.false_eq_true, if_false]
    · have next : packets.take (i + 1) = packets.take i ++ [p] := by
        rw [List.take_add_one, stored]
        rfl
      have full : (packets.take i).length = i := by
        have := (List.getElem?_eq_some_iff.mp stored).1
        rw [List.length_take]
        omega
      simp only [next, List.reverse_append, List.reverse_singleton, List.singleton_append,
        Option.any_some]
      by_cases picture : p.hasPicture
      · rw [if_pos picture, List.takeWhile_cons_of_neg (by simp [picture]),
          List.drop_of_length_le (by simp [full])]
        rfl
      · have start := leadStart_le packets i
        rw [if_neg picture, List.takeWhile_cons_of_pos (by simp [picture]), ih,
          List.drop_append_of_le_length (by omega)]
        simp

/-! ## Anchors at an index -/

/-- The anchor that a backward pass makes of the packet at index `i`. -/
def anchorAt (packets : List Packet) (i : Nat) : Option Anchor :=
  packets[i]?.map (⟨·, (packets.take i).reverse⟩)

theorem lead_of_anchorAt {packets : List Packet} {i : Nat} {a : Anchor}
    (h : anchorAt packets i = some a) :
    a.lead = ((packets.take i).drop (leadStart packets i)).reverse := by
  obtain ⟨p, _, rfl⟩ := Option.map_eq_some_iff.mp h
  exact takeWhile_take_reverse packets i

theorem start_of_anchorAt {packets : List Packet} {i : Nat} {a : Anchor}
    (h : anchorAt packets i = some a) : a.start = leadStart packets i := by
  have lead := lead_of_anchorAt h
  obtain ⟨p, stored, rfl⟩ := Option.map_eq_some_iff.mp h
  have inside := (List.getElem?_eq_some_iff.mp stored).1
  have start := leadStart_le packets i
  rw [Anchor.start, lead]
  simp only [List.length_reverse, List.length_drop, List.length_take]
  omega

theorem mem_lead_iff {packets : List Packet} {i : Nat} {a : Anchor}
    (h : anchorAt packets i = some a) {q : Packet} :
    q ∈ a.lead ↔ ∃ j, leadStart packets i ≤ j ∧ j < i ∧ packets[j]? = some q := by
  rw [lead_of_anchorAt h, List.mem_reverse, List.mem_iff_getElem?]
  simp only [List.getElem?_drop, List.getElem?_take]
  constructor
  · rintro ⟨k, found⟩
    split at found
    · next inside => exact ⟨leadStart packets i + k, by omega, inside, found⟩
    · cases found
  · rintro ⟨j, behind, before, found⟩
    refine ⟨j - leadStart packets i, ?_⟩
    rw [Nat.add_sub_cancel' behind, if_pos before, found]

theorem isUsable_iff_of_anchorAt {packets : List Packet} {i : Nat} {a : Anchor}
    (h : anchorAt packets i = some a) : a.isUsable = true ↔ IsUsable packets i := by
  have lead := @mem_lead_iff packets i a h
  obtain ⟨p, stored, rfl⟩ := Option.map_eq_some_iff.mp h
  simp only [Anchor.isUsable, Anchor.hasParameterSets, Bool.and_eq_true, List.all_eq_true,
    List.any_eq_true, List.mem_cons]
  constructor
  · rintro ⟨keyframe, carried⟩
    refine ⟨p, stored, keyframe, fun type required => ?_⟩
    obtain ⟨q, rfl | inLead, has⟩ := carried type required
    · exact ⟨i, q, leadStart_le packets i, Nat.le_refl i, stored, has⟩
    · obtain ⟨j, behind, before, found⟩ := lead.mp inLead
      exact ⟨j, q, behind, Nat.le_of_lt before, found, has⟩
  · rintro ⟨p', stored', keyframe, carried⟩
    obtain rfl : p = p' := Option.some.inj (stored.symm.trans stored')
    refine ⟨keyframe, fun type required => ?_⟩
    obtain ⟨j, q, behind, upTo, found, has⟩ := carried type required
    rcases Nat.lt_or_eq_of_le upTo with before | rfl
    · exact ⟨q, Or.inr (lead.mpr ⟨j, behind, before, found⟩), has⟩
    · exact ⟨q, Or.inl (Option.some.inj (found.symm.trans stored)), has⟩

theorem coverage_of_anchorAt {packets : List Packet} {newest : Packet} {i : Nat} {a : Anchor}
    (last : packets.getLast? = some newest) (h : anchorAt packets i = some a) :
    a.coverage newest = coverageAt packets i := by
  obtain ⟨p, stored, rfl⟩ := Option.map_eq_some_iff.mp h
  simp only [coverageAt, stored, last, Anchor.coverage]

theorem anchorAt_of_isUsable {packets : List Packet} {i : Nat} (h : IsUsable packets i) :
    ∃ a, anchorAt packets i = some a := by
  obtain ⟨p, stored, _⟩ := h
  exact ⟨_, Option.map_eq_some_iff.mpr ⟨p, stored, rfl⟩⟩

/-! ## The backward pass -/

/-- What a backward pass over the first `count` packets gives if it starts with the candidate
`best`. -/
inductive FoundWithin (packets : List Packet) (minimum : Duration) (count : Nat)
    (best : Option Anchor) : Option Anchor → Prop
  | covering {i : Nat} : i < count → IsUsable packets i → Covers packets minimum i →
      (∀ j, j < count → IsUsable packets j → Covers packets minimum j → j ≤ i) →
      FoundWithin packets minimum count best (anchorAt packets i)
  | oldest {i : Nat} : i < count → IsUsable packets i →
      (∀ j, j < count → IsUsable packets j → ¬Covers packets minimum j) →
      (∀ j, j < count → IsUsable packets j → i ≤ j) →
      FoundWithin packets minimum count best (anchorAt packets i)
  | nothing : (∀ j, j < count → ¬IsUsable packets j) →
      FoundWithin packets minimum count best best

/-- One more packet on the newer side that is not usable changes nothing. -/
theorem FoundWithin.skip {packets : List Packet} {minimum : Duration} {count : Nat}
    {best found : Option Anchor} (h : FoundWithin packets minimum count best found)
    (skipped : ¬IsUsable packets count) :
    FoundWithin packets minimum (count + 1) best found := by
  have older : ∀ j, j < count + 1 → IsUsable packets j → j < count := by
    intro j bound usable
    rcases Nat.lt_succ_iff_lt_or_eq.mp bound with before | rfl
    · exact before
    · exact absurd usable skipped
  cases h with
  | covering inside usable covers newest =>
    exact .covering (by omega) usable covers fun j bound u => newest j (older j bound u) u
  | oldest inside usable none first =>
    exact .oldest (by omega) usable (fun j bound u => none j (older j bound u) u)
      fun j bound u => first j (older j bound u) u
  | nothing none => exact .nothing fun j bound u => none j (older j bound u) u

/-- One more packet on the newer side that is usable but too short is the candidate that the
older ones are compared with. -/
theorem FoundWithin.candidate {packets : List Packet} {minimum : Duration} {count : Nat}
    {best found : Option Anchor}
    (h : FoundWithin packets minimum count (anchorAt packets count) found)
    (usable : IsUsable packets count) (short : ¬Covers packets minimum count) :
    FoundWithin packets minimum (count + 1) best found := by
  cases h with
  | covering inside usable' covers newest =>
    refine .covering (by omega) usable' covers fun j bound u c => ?_
    rcases Nat.lt_succ_iff_lt_or_eq.mp bound with before | rfl
    · exact newest j before u c
    · exact absurd c short
  | oldest inside usable' none first =>
    refine .oldest (by omega) usable' (fun j bound u => ?_) fun j bound u => ?_
    · rcases Nat.lt_succ_iff_lt_or_eq.mp bound with before | rfl
      · exact none j before u
      · exact short
    · rcases Nat.lt_succ_iff_lt_or_eq.mp bound with before | rfl
      · exact first j before u
      · exact Nat.le_of_lt inside
  | nothing none =>
    refine .oldest (Nat.lt_succ_self count) usable (fun j bound u => ?_) fun j bound u => ?_
    · rcases Nat.lt_succ_iff_lt_or_eq.mp bound with before | rfl
      · exact absurd u (none j before)
      · exact short
    · rcases Nat.lt_succ_iff_lt_or_eq.mp bound with before | rfl
      · exact absurd u (none j before)
      · exact Nat.le_refl j

theorem find_take_reverse {packets : List Packet} {newest : Packet} (minimum : Duration)
    (last : packets.getLast? = some newest) (best : Option Anchor) {count : Nat}
    (bound : count ≤ packets.length) :
    FoundWithin packets minimum count best
      (Anchor.find minimum newest best (packets.take count).reverse) := by
  induction count generalizing best with
  | zero => exact .nothing fun j impossible => absurd impossible (Nat.not_lt_zero j)
  | succ count ih =>
    have stored : packets[count]? = some packets[count] := List.getElem?_eq_getElem bound
    have here : anchorAt packets count = some ⟨packets[count], (packets.take count).reverse⟩ := by
      rw [anchorAt, stored]
      rfl
    rw [List.take_add_one, stored, List.reverse_append, Option.toList_some,
      List.reverse_singleton, List.singleton_append, Anchor.find]
    simp only [coverage_of_anchorAt last here]
    split
    · next found =>
      have usable := (isUsable_iff_of_anchorAt here).mp found
      split
      · next covers =>
        rw [← here]
        exact .covering (Nat.lt_succ_self count) usable covers fun j inside _ _ => by omega
      · next short =>
        rw [← here]
        exact (ih (anchorAt packets count) (by omega)).candidate usable short
    · next skipped =>
      exact (ih best (by omega)).skip fun usable =>
        skipped ((isUsable_iff_of_anchorAt here).mpr usable)

/-! ## Taking history -/

/-- Draining gives the packets from `start` on, and never finds its guarantee broken. -/
theorem drainFrom_eq (ring : WeightedRing Packet) (start : Nat) :
    drainFrom ring start = (.ok ⟨ring.toList.drop start⟩,
      ((ring.popMany start).2.popMany (ring.length - start)).2) := by
  have skipped := ring.popMany_entries start
  unfold drainFrom
  generalize ring.popMany start = first at skipped ⊢
  obtain ⟨_, kept⟩ := first
  have taken := kept.popMany_fst (ring.length - start)
  have gone := kept.popMany_entries (ring.length - start)
  simp only at skipped ⊢
  generalize kept.popMany (ring.length - start) = second at taken gone ⊢
  obtain ⟨given, left⟩ := second
  simp only at taken gone ⊢
  have whole : given = ring.toList.drop start := by
    rw [taken, WeightedRing.toList, skipped, List.take_of_length_le]
    · simp [WeightedRing.toList]
    · simp [WeightedRing.length]
  have empty : left.length = 0 := by
    simp only [WeightedRing.length, gone, skipped, List.length_drop]
    omega
  have complete : given.length = ring.length - start := by
    simp [whole, WeightedRing.toList, WeightedRing.length]
  rw [if_neg (by simp [empty, complete]), whole]

theorem takeHistory_of_anchor {ring : WeightedRing Packet} {minimum : Duration}
    {mode : ExtractMode} {a : Anchor} (method : ExtractMethod)
    (chosen : Anchor.choose ring.toList minimum mode = .ok a) :
    (takeHistory ring method minimum mode).1 = .ok ⟨ring.toList.drop a.start⟩ := by
  simp only [takeHistory, chosen]
  cases method with
  | shared => rfl
  | copied => rfl
  | drained => exact congrArg Prod.fst (drainFrom_eq ring a.start)

theorem takeHistory_of_error {ring : WeightedRing Packet} {minimum : Duration}
    {mode : ExtractMode} {error : HistoryError} (method : ExtractMethod)
    (refused : Anchor.choose ring.toList minimum mode = .error error) :
    (takeHistory ring method minimum mode).1 = .error error := by
  simp only [takeHistory, refused]

/-- History that was taken starts at the chosen anchor. -/
theorem RingBuffer.extract_eq_ok {ring later : RingBuffer} {method : ExtractMethod}
    {minimum : Duration} {mode : ExtractMode} {window : PacketBuffer}
    (taken : ring.extract method minimum mode = (.ok window, later)) :
    ∃ a, Anchor.choose ring.packets minimum mode = .ok a ∧
      window.packets = ring.packets.drop a.start := by
  have result : (takeHistory ring.store method minimum mode).1 = .ok window :=
    congrArg Prod.fst taken
  cases chosen : Anchor.choose ring.store.toList minimum mode with
  | error error =>
    rw [takeHistory_of_error method chosen] at result
    cases result
  | ok a =>
    rw [takeHistory_of_anchor method chosen] at result
    cases result
    exact ⟨a, chosen, rfl⟩

/-- Taking history has an outcome that `HistoryOf` allows. -/
theorem historyOf_takeHistory (ring : WeightedRing Packet) (method : ExtractMethod)
    (minimum : Duration) (mode : ExtractMode) :
    HistoryOf ring.toList minimum mode (takeHistory ring method minimum mode).1 := by
  rcases last : ring.toList.getLast? with _ | newest
  · have refused : Anchor.choose ring.toList minimum mode = .error .noVideo := by
      rw [Anchor.choose, last]
    rw [takeHistory_of_error method refused]
    exact .noVideo (List.getLast?_eq_none_iff.mp last)
  have found := find_take_reverse minimum last none (Nat.le_refl _)
  rw [List.take_length] at found
  generalize result : Anchor.find minimum newest none ring.toList.reverse = best at found
  cases found with
  | @covering i inside usable covers newestOne =>
    obtain ⟨a, here⟩ := anchorAt_of_isUsable usable
    have long : ¬((a.coverage newest).nanos < minimum.nanos ∧ mode = .strict) := by
      rw [coverage_of_anchorAt last here]
      exact fun ⟨short, _⟩ => absurd covers (Nat.not_le_of_lt short)
    have chosen : Anchor.choose ring.toList minimum mode = .ok a := by
      simp only [Anchor.choose, last, result, here, if_neg long]
    rw [takeHistory_of_anchor method chosen, start_of_anchorAt here]
    exact .covering usable covers fun j u c => newestOne j u.lt_length u c
  | @oldest i inside usable none first =>
    obtain ⟨a, here⟩ := anchorAt_of_isUsable usable
    have short : (coverageAt ring.toList i).nanos < minimum.nanos :=
      Nat.lt_of_not_le (none i inside usable)
    cases mode with
    | bestEffort =>
      have chosen : Anchor.choose ring.toList minimum .bestEffort = .ok a := by
        simp [Anchor.choose, last, result, here]
      rw [takeHistory_of_anchor method chosen, start_of_anchorAt here]
      exact .oldest rfl usable (fun j u => none j u.lt_length u) fun j u => first j u.lt_length u
    | strict =>
      have refused : Anchor.choose ring.toList minimum .strict =
          .error (.insufficient minimum (coverageAt ring.toList i)) := by
        simp only [Anchor.choose, last, result, here, coverage_of_anchorAt last here]
        rw [if_pos ⟨short, trivial⟩]
      rw [takeHistory_of_error method refused]
      exact .tooShort rfl usable (fun j u => none j u.lt_length u) fun j u => first j u.lt_length u
  | nothing none =>
    have noneUsable : ∀ i, ¬IsUsable ring.toList i :=
      fun i usable => none i usable.lt_length usable
    by_cases keyframe : ring.toList.any (·.hasKeyframe)
    · have refused : Anchor.choose ring.toList minimum mode = .error (.missingEssentialMetadata
          s!"no {newest.codec.label} keyframe is preceded by its parameter sets") := by
        simp only [Anchor.choose, last, result, if_pos keyframe]
      rw [takeHistory_of_error method refused]
      exact .noParameterSets last (by simpa using keyframe) noneUsable
    · have refused : Anchor.choose ring.toList minimum mode =
          .error (.noKeyframe ring.toList.length) := by
        simp only [Anchor.choose, last, result, if_neg keyframe]
      rw [takeHistory_of_error method refused]
      refine .noKeyframe (fun empty => ?_) (by simpa using keyframe)
      rw [empty] at last
      cases last

/-! ## One outcome only -/

theorem not_isUsable_of_noKeyframe {packets : List Packet}
    (none : ∀ p ∈ packets, p.hasKeyframe = false) (i : Nat) : ¬IsUsable packets i := by
  intro usable
  obtain ⟨p, stored, keyframe⟩ := usable.exists_keyframe
  rw [none p stored] at keyframe
  cases keyframe

namespace HistoryOf

variable {packets : List Packet} {minimum : Duration} {mode : ExtractMode}
  {result : Except HistoryError PacketBuffer} {i : Nat}

theorem eq_of_nil (h : HistoryOf [] minimum mode result) : result = .error .noVideo := by
  cases h with
  | noVideo => rfl
  | noKeyframe some => exact absurd rfl some
  | noParameterSets last => cases last
  | covering usable | oldest _ usable | tooShort _ usable =>
    exact absurd usable.lt_length (Nat.not_lt_zero _)

theorem eq_of_noKeyframe (h : HistoryOf packets minimum mode result) (some : packets ≠ [])
    (none : ∀ p ∈ packets, p.hasKeyframe = false) :
    result = .error (.noKeyframe packets.length) := by
  cases h with
  | noVideo empty => exact absurd empty some
  | noKeyframe => rfl
  | noParameterSets _ exists_keyframe =>
    obtain ⟨p, stored, keyframe⟩ := exists_keyframe
    rw [none p stored] at keyframe
    cases keyframe
  | covering usable | oldest _ usable | tooShort _ usable =>
    exact absurd usable (not_isUsable_of_noKeyframe none _)

theorem eq_of_noParameterSets (h : HistoryOf packets minimum mode result) {newest : Packet}
    (last : packets.getLast? = some newest) (keyframe : ∃ p ∈ packets, p.hasKeyframe = true)
    (none : ∀ i, ¬IsUsable packets i) :
    result = .error (.missingEssentialMetadata
      s!"no {newest.codec.label} keyframe is preceded by its parameter sets") := by
  cases h with
  | noVideo empty =>
    rw [empty] at last
    cases last
  | noKeyframe _ without =>
    obtain ⟨p, stored, keyframe⟩ := keyframe
    rw [without p stored] at keyframe
    cases keyframe
  | noParameterSets last' => rw [Option.some.inj (last.symm.trans last')]
  | covering usable | oldest _ usable | tooShort _ usable => exact absurd usable (none _)

/-- Two indices that are both the highest are the same. -/
theorem eq_of_covering (h : HistoryOf packets minimum mode result) (usable : IsUsable packets i)
    (covers : Covers packets minimum i)
    (highest : ∀ j, IsUsable packets j → Covers packets minimum j → j ≤ i) :
    result = .ok ⟨packets.drop (leadStart packets i)⟩ := by
  cases h with
  | noVideo empty => exact absurd empty usable.ne_nil
  | noKeyframe _ without => exact absurd usable (not_isUsable_of_noKeyframe without i)
  | noParameterSets _ _ none => exact absurd usable (none i)
  | covering usable' covers' highest' =>
    rw [Nat.le_antisymm (highest _ usable' covers') (highest' i usable covers)]
  | oldest _ _ none | tooShort _ _ none => exact absurd covers (none i usable)

/-- Two indices that are both the lowest are the same. What becomes of it is for the mode to say. -/
theorem eq_of_short (h : HistoryOf packets minimum mode result) (usable : IsUsable packets i)
    (none : ∀ j, IsUsable packets j → ¬Covers packets minimum j)
    (lowest : ∀ j, IsUsable packets j → i ≤ j) :
    (mode = .bestEffort → result = .ok ⟨packets.drop (leadStart packets i)⟩) ∧
      (mode = .strict → result = .error (.insufficient minimum (coverageAt packets i))) := by
  cases h with
  | noVideo empty => exact absurd empty usable.ne_nil
  | noKeyframe _ without => exact absurd usable (not_isUsable_of_noKeyframe without i)
  | noParameterSets _ _ unusable => exact absurd usable (unusable i)
  | covering usable' covers' => exact absurd covers' (none _ usable')
  | oldest bestEffort usable' _ lowest' =>
    rw [Nat.le_antisymm (lowest _ usable') (lowest' i usable)]
    refine ⟨fun _ => rfl, fun strict => ?_⟩
    cases bestEffort.symm.trans strict
  | tooShort strict usable' _ lowest' =>
    rw [Nat.le_antisymm (lowest _ usable') (lowest' i usable)]
    refine ⟨fun bestEffort => ?_, fun _ => rfl⟩
    cases strict.symm.trans bestEffort

/-- A content leaves no choice: the conditions of any two outcomes exclude each other. -/
theorem unique {first second : Except HistoryError PacketBuffer}
    (h₁ : HistoryOf packets minimum mode first) (h₂ : HistoryOf packets minimum mode second) :
    first = second := by
  symm
  cases h₁ with
  | noVideo empty =>
    subst empty
    exact h₂.eq_of_nil
  | noKeyframe some none => exact h₂.eq_of_noKeyframe some none
  | noParameterSets last keyframe none => exact h₂.eq_of_noParameterSets last keyframe none
  | covering usable covers highest => exact h₂.eq_of_covering usable covers highest
  | oldest bestEffort usable none lowest =>
    exact (h₂.eq_of_short usable none lowest).1 bestEffort
  | tooShort strict usable none lowest => exact (h₂.eq_of_short usable none lowest).2 strict

end HistoryOf

/-- Taking history gives a result just if the content, the minimum and the mode call for it,
whatever the method. -/
theorem extract_iff_historyOf (ring : RingBuffer) (method : ExtractMethod) (minimum : Duration)
    (mode : ExtractMode) (result : Except HistoryError PacketBuffer) :
    (ring.extract method minimum mode).1 = result ↔
      HistoryOf ring.packets minimum mode result := by
  have actual : HistoryOf ring.packets minimum mode (ring.extract method minimum mode).1 :=
    historyOf_takeHistory ring.store method minimum mode
  constructor
  · rintro rfl
    exact actual
  · exact actual.unique

end Footage
