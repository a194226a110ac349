import Footage.AnnexB.Split
import Footage.Proofs.EmulationPrevention
import Mathlib.Data.List.Chain

/-!
# Cutting a byte stream is exact

`split` scans for start codes octet by octet. This file says without any scan where a stream is
cut, and proves that `split` cuts just there.

* `IsCut`: how a stream falls into octets in front and NAL units behind start codes.
* `exists_cut`: every stream falls apart like that.
* `split_of_isCut`: whichever way it does, `split` gives the units that are not empty. So there is
  only one way.
* `split_joined_split`: what was cut out and is joined by long start codes is cut out again.
* `split_exact`: both of the first two, and that cutting undoes the joining of escaped payloads.
-/

namespace Footage.AnnexB

/-! ## Where a stream is cut -/

def joined (units : List (StartCode × Bytes)) : Bytes :=
  units.flatMap fun (code, unit) => code.bytes ++ unit

/-- A short start code stands nowhere in the octets, so neither does a long one. -/
def HasNoCode (octets : Bytes) : Prop := ¬StartCode.short.bytes <:+: octets

/-- The stream `front ++ joined units` is cut rightly: no start code is left in a piece, and a
zero in front of `00 00 01` belongs to the start code. -/
inductive IsCut : (front : Bytes) → (units : List (StartCode × Bytes)) → Prop
  | last {front : Bytes} : HasNoCode front → IsCut front []
  | announce {front unit : Bytes} {code : StartCode} {rest : List (StartCode × Bytes)} :
      HasNoCode front → code ≠ .none → (code = .short → front.getLast? ≠ some 0) →
      IsCut unit rest → IsCut front ((code, unit) :: rest)

def nonempty (units : List Bytes) : List Bytes := units.filter (!·.isEmpty)

/-! ## What the scan sees -/

theorem HasNoCode.tail {b : UInt8} {front : Bytes} (h : HasNoCode (b :: front)) :
    HasNoCode front :=
  fun inside => h (inside.trans (List.suffix_cons b front).isInfix)

theorem hasNoCode_nil : HasNoCode [] := by
  rintro ⟨before, after, whole⟩
  simp [StartCode.bytes] at whole

theorem getLast?_tail_ne {b : UInt8} {front : Bytes} (h : (b :: front).getLast? ≠ some 0) :
    front.getLast? ≠ some 0 := by
  cases front with
  | nil => nofun
  | cons c front => rwa [List.getLast?_cons_cons] at h

theorem IsCut.tail {b : UInt8} {front : Bytes} {units : List (StartCode × Bytes)}
    (h : IsCut (b :: front) units) : IsCut front units := by
  cases h with
  | last plain => exact .last plain.tail
  | announce plain real short rest =>
    exact .announce plain.tail real (fun same => getLast?_tail_ne (short same)) rest

theorem IsCut.hasNoCode {front : Bytes} {units : List (StartCode × Bytes)}
    (h : IsCut front units) : HasNoCode front := by
  cases h with
  | last plain => exact plain
  | announce plain => exact plain

theorem bytes_append_strip (octets : Bytes) :
    (StartCode.detect octets).bytes ++ StartCode.strip octets = octets := by
  unfold StartCode.strip StartCode.detect
  split <;> rfl

theorem joined_cons (code : StartCode) (unit : Bytes) (rest : List (StartCode × Bytes)) :
    joined ((code, unit) :: rest) = code.bytes ++ (unit ++ joined rest) := by
  simp [joined]

theorem three_le_length_bytes {code : StartCode} (real : code ≠ .none) :
    3 ≤ code.bytes.length := by
  cases code with
  | none => exact absurd rfl real
  | short => decide
  | long => decide

theorem detect_append {code : StartCode} (real : code ≠ .none) (rest : Bytes) :
    StartCode.detect (code.bytes ++ rest) = code := by
  cases code with
  | none => exact absurd rfl real
  | short => rfl
  | long => rfl

/-- What stands behind a piece: nothing, or a start code, of which two zeros are sure, and a third
one if the piece ends in a zero. -/
theorem IsCut.joined_cases {front : Bytes} {units : List (StartCode × Bytes)}
    (h : IsCut front units) :
    joined units = [] ∨ ∃ b back, joined units = 0 :: 0 :: b :: back ∧
      (front.getLast? = some 0 → b = 0) := by
  cases h with
  | last => exact .inl rfl
  | @announce _ unit code rest _ real short =>
    cases code with
    | none => exact absurd rfl real
    | short => exact .inr ⟨1, unit ++ joined rest, rfl, fun zero => absurd zero (short rfl)⟩
    | long => exact .inr ⟨0, 1 :: (unit ++ joined rest), rfl, fun _ => rfl⟩

/-- Inside a piece no start code is seen, not even one that would reach over its end. -/
theorem IsCut.detect_eq_none {b : UInt8} {front : Bytes} {units : List (StartCode × Bytes)}
    (h : IsCut (b :: front) units) :
    StartCode.detect (b :: (front ++ joined units)) = .none := by
  have plain := h.hasNoCode
  have behind := h.joined_cases
  have whole := bytes_append_strip (b :: (front ++ joined units))
  generalize StartCode.strip (b :: (front ++ joined units)) = back at whole
  cases seen : StartCode.detect (b :: (front ++ joined units)) with
  | none => rfl
  | short =>
    rw [seen] at whole
    match front with
    | c :: d :: front =>
      obtain ⟨rfl, rfl, rfl, -⟩ : 0 = b ∧ 0 = c ∧ 1 = d ∧ back = front ++ joined units := by
        simpa [StartCode.bytes] using whole
      exact absurd (List.prefix_append [0, 0, 1] front).isInfix plain
    -- the code would need a one among the first two octets behind the piece
    | [] | [_] =>
      rcases behind with nothing | ⟨third, rest, zeros, _⟩ <;> simp_all [StartCode.bytes]
  | long =>
    rw [seen] at whole
    match front with
    | c :: d :: e :: front =>
      obtain ⟨rfl, rfl, rfl, rfl, -⟩ :
          0 = b ∧ 0 = c ∧ 0 = d ∧ 1 = e ∧ back = front ++ joined units := by
        simpa [StartCode.bytes] using whole
      exact absurd ⟨[0], front, rfl⟩ plain
    -- or as the third one, behind a piece that ends in a zero
    | [] =>
      rcases behind with nothing | ⟨third, rest, zeros, ends⟩
      · simp [nothing, StartCode.bytes] at whole
      · obtain ⟨rfl, rfl, -⟩ : 0 = b ∧ 1 = third ∧ back = rest := by
          simpa [zeros, StartCode.bytes] using whole
        exact absurd (ends rfl) (by decide)
    | [_] | [_, _] =>
      rcases behind with nothing | ⟨third, rest, zeros, _⟩ <;> simp_all [StartCode.bytes]

/-! ## The scan cuts at every start code -/

theorem splitFrom_front {front : Bytes} {units : List (StartCode × Bytes)} (h : IsCut front units)
    (done : List Bytes) (unit : Option Bytes) :
    splitFrom done unit 0 (front ++ joined units) =
      splitFrom done (unit.map (front.reverse ++ ·)) 0 (joined units) := by
  induction front generalizing unit with
  | nil => cases unit <;> rfl
  | cons b front ih =>
    rw [List.cons_append, splitFrom, h.detect_eq_none]
    simp only [ih h.tail, Option.map_map]
    congr 2
    funext seen
    simp

/-- A start code closes the unit before it and opens a new one. -/
theorem splitFrom_code {code : StartCode} (real : code ≠ .none) (done : List Bytes)
    (unit : Option Bytes) (rest : Bytes) :
    splitFrom done unit 0 (code.bytes ++ rest) = splitFrom (close done unit) (some []) 0 rest := by
  cases code with
  | none => exact absurd rfl real
  | short => rfl
  | long => rfl

theorem reverse_close (done : List Bytes) (unit : Bytes) :
    (close done (some unit.reverse)).reverse = done.reverse ++ nonempty [unit] := by
  rcases List.eq_nil_or_concat unit with rfl | ⟨front, b, rfl⟩
  · simp [close, nonempty]
  · simp [close, nonempty]

/-- From the start of a unit on the scan finds this unit and all that follow. -/
theorem splitFrom_unit {unit : Bytes} {units : List (StartCode × Bytes)} (h : IsCut unit units)
    (done : List Bytes) :
    splitFrom done (some []) 0 (unit ++ joined units) =
      done.reverse ++ nonempty (unit :: units.map (·.2)) := by
  -- along the cut: each start code moves a unit over to those that are done
  induction h generalizing done with
  | @last unit plain =>
    rw [splitFrom_front (.last plain), Option.map_some, List.append_nil]
    exact reverse_close done unit
  | @announce unit next code rest plain real short cut ih =>
    rw [splitFrom_front (.announce plain real short cut)]
    rw [joined_cons, splitFrom_code real, ih, Option.map_some, List.append_nil, reverse_close,
      List.append_assoc, nonempty, nonempty, ← List.filter_append]
    rfl

/-- A stream that can be cut in some way is cut in that way. -/
theorem split_of_isCut {front : Bytes} {units : List (StartCode × Bytes)} (h : IsCut front units) :
    split (front ++ joined units) = nonempty (units.map (·.2)) := by
  rw [split, splitFrom_front h, Option.map_none]
  cases h with
  | last => rfl
  | @announce _ next code rest _ real _ cut =>
    rw [joined_cons, splitFrom_code real]
    exact splitFrom_unit cut []

/-! ## Every stream can be cut -/

theorem IsCut.cons {b : UInt8} {front : Bytes} {units : List (StartCode × Bytes)}
    (h : IsCut front units)
    (unseen : StartCode.detect (b :: (front ++ joined units)) = .none) :
    IsCut (b :: front) units := by
  have plain : HasNoCode (b :: front) := by
    intro inside
    rcases List.infix_cons_iff.mp inside with ⟨back, start⟩ | later
    · rw [← List.cons_append, ← start, List.append_assoc, detect_append (by decide)] at unseen
      cases unseen
    · exact h.hasNoCode later
  cases h with
  | last => exact .last plain
  | @announce _ unit code rest _ real short cut =>
    refine .announce plain real (fun same => ?_) cut
    cases front with
    | nil =>
      -- a zero right in front of a short start code would have been seen as part of a long one
      subst same
      intro zero
      obtain rfl : b = 0 := Option.some.inj zero
      cases unseen
    | cons c front => simpa using short same

theorem exists_cut (stream : Bytes) :
    ∃ front units, IsCut front units ∧ stream = front ++ joined units := by
  match stream with
  | [] => exact ⟨[], [], .last hasNoCode_nil, rfl⟩
  | b :: rest =>
    have whole := bytes_append_strip (b :: rest)
    by_cases seen : StartCode.detect (b :: rest) = .none
    -- the octet goes in front of the piece that the rest begins with
    · obtain ⟨front, units, cut, rfl⟩ := exists_cut rest
      exact ⟨b :: front, units, cut.cons seen, rfl⟩
    · have shorter : (StartCode.strip (b :: rest)).length < (b :: rest).length := by
        have sizes := congrArg List.length whole
        have some := three_le_length_bytes seen
        rw [List.length_append] at sizes
        omega
      obtain ⟨unit, units, cut, body⟩ := exists_cut (StartCode.strip (b :: rest))
      refine ⟨[], (StartCode.detect (b :: rest), unit) :: units,
        .announce hasNoCode_nil seen nofun cut, ?_⟩
      rw [List.nil_append, joined_cons, ← body, whole]
termination_by stream.length
decreasing_by
  · exact Nat.lt_succ_self rest.length
  · exact shorter

/-! ## What is cut out -/

theorem IsCut.forall_hasNoCode {front : Bytes} {units : List (StartCode × Bytes)}
    (h : IsCut front units) : ∀ u ∈ units, HasNoCode u.2 := by
  induction h with
  | last => nofun
  | announce _ _ _ cut ih => exact List.forall_mem_cons.mpr ⟨cut.hasNoCode, ih⟩

/-- What is cut out of a stream is not empty, and there is nothing in it to be cut. -/
theorem of_mem_split {stream unit : Bytes} (among : unit ∈ split stream) :
    unit ≠ [] ∧ HasNoCode unit := by
  obtain ⟨front, units, cut, rfl⟩ := exists_cut stream
  rw [split_of_isCut cut] at among
  obtain ⟨piece, full⟩ := List.mem_filter.mp among
  obtain ⟨u, one, rfl⟩ := List.mem_map.mp piece
  exact ⟨by simpa using full, cut.forall_hasNoCode u one⟩

theorem isCut_long {pieces : List Bytes} (plain : ∀ piece ∈ pieces, HasNoCode piece)
    {front : Bytes} (before : HasNoCode front) : IsCut front (pieces.map (StartCode.long, ·)) := by
  induction pieces generalizing front with
  | nil => exact .last before
  | cons piece rest ih =>
    obtain ⟨first, later⟩ := List.forall_mem_cons.mp plain
    exact .announce before nofun nofun (ih later first)

/-- Pieces without start codes are what is cut out behind long ones, even if they end in zeros. -/
theorem split_joined_long {pieces : List Bytes} (plain : ∀ piece ∈ pieces, HasNoCode piece) :
    split (joined (pieces.map (StartCode.long, ·))) = nonempty pieces := by
  rw [← List.nil_append (joined _), split_of_isCut (isCut_long plain hasNoCode_nil), List.map_map]
  exact congrArg nonempty (List.map_id _)

/-- What was cut out of a stream is cut out again. -/
theorem split_joined_split (stream : Bytes) :
    split (joined ((split stream).map (StartCode.long, ·))) = split stream := by
  rw [split_joined_long fun piece among => (of_mem_split among).2]
  exact List.filter_eq_self.mpr fun piece among => by simpa using (of_mem_split among).1

/-! ## Joining and cutting again -/

theorem hasNoCode_of_isEscaped {escaped : Bytes} (h : IsEscaped escaped) : HasNoCode escaped := by
  rintro ⟨front, back, whole⟩
  have large := h.1 front 1 back (by rw [← whole]; simp [StartCode.bytes])
  exact absurd large (by decide)

theorem getLast?_escapeAfter (run : Nat) (raw : Bytes) :
    (escapeAfter run raw).getLast? = raw.getLast? := by
  induction raw generalizing run with
  | nil => rfl
  | cons b rest ih =>
    rw [escapeAfter]
    split <;> simp [List.getLast?_cons, ih]

theorem escape_eq_nil_iff {raw : Bytes} : escape raw = [] ↔ raw = [] := by
  rw [← List.getLast?_eq_none_iff, escape, getLast?_escapeAfter, List.getLast?_eq_none_iff]

/-- A short start code does not stand directly behind a payload that ends in a zero. -/
def Separable (unit next : StartCode × Bytes) : Prop :=
  next.1 = .short → unit.2.getLast? ≠ some 0

/-- Escaped payloads behind start codes are cut rightly where they were joined. -/
theorem isCut_escaped {units : List (StartCode × Bytes)} (codes : ∀ u ∈ units, u.1 ≠ .none)
    (separable : units.IsChain Separable) {front : Bytes} (plain : HasNoCode front)
    (ends : ∀ u ∈ units.head?, u.1 = .short → front.getLast? ≠ some 0) :
    IsCut front (units.map fun u => (u.1, escape u.2)) := by
  induction units generalizing front with
  | nil => exact .last plain
  | cons u units ih =>
    refine .announce plain (codes u List.mem_cons_self) (ends u rfl) ?_
    refine ih (fun v later => codes v (List.mem_cons_of_mem _ later)) separable.tail
      (hasNoCode_of_isEscaped (isEscaped_escape u.2)) fun v next => ?_
    rw [escape, getLast?_escapeAfter]
    exact separable.rel_head? next

theorem nonempty_map_escape (raws : List Bytes) :
    nonempty (raws.map escape) = (nonempty raws).map escape := by
  rw [nonempty, List.filter_map]
  congr 2
  funext raw
  have same := @escape_eq_nil_iff raw
  cases raw with
  | nil => rfl
  | cons b rest =>
    have kept : escape (b :: rest) ≠ [] := fun empty => absurd (same.mp empty) nofun
    simpa using kept

/-- Escaped payloads that were joined come apart again, and only the empty ones are lost. -/
theorem split_joined_map_escape {units : List (StartCode × Bytes)}
    (codes : ∀ u ∈ units, u.1 ≠ .none) (separable : units.IsChain Separable) :
    split (joined (units.map fun u => (u.1, escape u.2))) =
      (nonempty (units.map (·.2))).map escape := by
  have cut := isCut_escaped codes separable hasNoCode_nil fun _ _ _ => nofun
  rw [← List.nil_append (joined _), split_of_isCut cut, List.map_map, ← nonempty_map_escape,
    List.map_map]
  rfl

/-- Every stream falls apart into octets in front and units behind start codes, with no start code
left in a piece, and cutting it gives the units that are not empty. Conversely escaped payloads
that were joined behind start codes come apart again, and only the empty ones are lost, unless a
short start code takes a zero for its own that ends the payload before it. -/
theorem split_exact :
    (∀ stream, ∃ front units, IsCut front units ∧ stream = front ++ joined units ∧
      split stream = nonempty (units.map (·.2))) ∧
    ∀ units : List (StartCode × Bytes), (∀ u ∈ units, u.1 ≠ .none) → units.IsChain Separable →
      ∃ encoded, units.mapM (fun u => encode u.2 u.1 true) = .ok encoded ∧
        split encoded.flatten = (nonempty (units.map (·.2))).map escape := by
  refine ⟨fun stream => ?_, fun units codes separable => ?_⟩
  · obtain ⟨front, units, cut, whole⟩ := exists_cut stream
    exact ⟨front, units, cut, whole, whole ▸ split_of_isCut cut⟩
  · refine ⟨units.map fun u => encodedForm u.2 u.1 true, ?_, ?_⟩
    · simp only [encode_eq]
      exact List.mapM_pure
    · have whole : (units.map fun u => encodedForm u.2 u.1 true).flatten =
          joined (units.map fun u => (u.1, escape u.2)) := by
        simp [joined, encodedForm, List.flatMap_def, Function.comp_def]
      rw [whole, split_joined_map_escape codes separable]

/-- An empty payload, one that ends in zeros before a long start code, one of zeros only, and a
last one. -/
def zeroUnits : List (StartCode × Bytes) :=
  [(.short, []), (.short, [0x65, 0, 0]), (.long, [0, 0, 0]), (.long, [0x41])]

theorem split_exact_zeroUnits :
    (∀ u ∈ zeroUnits, u.1 ≠ .none) ∧ zeroUnits.IsChain Separable ∧
      ∃ encoded, zeroUnits.mapM (fun u => encode u.2 u.1 true) = .ok encoded ∧
        split encoded.flatten = [[0x65, 0, 0], [0, 0, 3, 0], [0x41]] := by
  have codes : ∀ u ∈ zeroUnits, u.1 ≠ .none := by decide
  have separable : zeroUnits.IsChain Separable := by
    unfold Separable
    decide
  exact ⟨codes, separable, split_exact.2 zeroUnits codes separable⟩

end Footage.AnnexB
