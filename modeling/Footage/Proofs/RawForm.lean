import Footage.Proofs.Framing

/-!
# The raw form of a NAL unit

The raw form has no start code in front. What is left there may still look like one, because
another one stood behind the first, or because one shows up when a `03` is dropped. Then the raw
form is not what it should be: read again it loses those octets too, and may tell another type.

* `prefix_unescapeAfter_iff`: all the ways in which octets can read as a given text.
* `toRaw_plain_iff`: the raw form is as it should be unless the unit hides a start code
  (`HidesCode`).
* `toRaw_disguised`: units that are framed and escaped as they should be, and hide one.
-/

namespace Footage

open AnnexB

/-! ## What reads as a given text -/

namespace AnnexB

theorem head?_unescape (escaped : Bytes) : (unescape escaped).head? = escaped.head? := by
  cases escaped with
  | nil => rfl
  | cons b rest =>
    rw [unescape, unescapeAfter_zero_cons]
    rfl

/-- What is read begins with `a` if `a` stands there, or a `03` that is dropped and then `a`. -/
theorem cons_prefix_unescapeAfter {run : Nat} {a : UInt8} {later octets : Bytes} :
    a :: later <+: unescapeAfter run octets ↔
      (¬(2 ≤ run ∧ a = preventionByte) ∧
        ∃ rest, octets = a :: rest ∧ later <+: unescapeAfter (zeroRun run a) rest) ∨
      (2 ≤ run ∧ ∃ rest, octets = preventionByte :: a :: rest ∧
        later <+: unescapeAfter (zeroRun 0 a) rest) := by
  constructor
  · intro start
    cases octets with
    | nil => cases List.eq_nil_of_prefix_nil start
    | cons b rest =>
      rw [unescapeAfter] at start
      split at start
      · next dropped =>
        cases rest with
        | nil => cases List.eq_nil_of_prefix_nil start
        | cons c rest =>
          rw [unescapeAfter_zero_cons, List.cons_prefix_cons] at start
          obtain ⟨rfl, start⟩ := start
          exact .inr ⟨dropped.1, rest, by rw [dropped.2], start⟩
      · next kept =>
        rw [List.cons_prefix_cons] at start
        obtain ⟨rfl, start⟩ := start
        exact .inl ⟨kept, rest, rfl, start⟩
  · rintro (⟨kept, rest, rfl, start⟩ | ⟨long, rest, rfl, start⟩)
    · rw [unescapeAfter, if_neg kept, List.cons_prefix_cons]
      exact ⟨rfl, start⟩
    · rw [unescapeAfter, if_pos ⟨long, rfl⟩, unescapeAfter_zero_cons, List.cons_prefix_cons]
      exact ⟨rfl, start⟩

/-- All that reads as `text` behind a run of zeros: each octet as it is, or after a `03` that is
dropped. -/
def readAs : (run : Nat) → (text : Bytes) → List Bytes
  | _, [] => [[]]
  | run, a :: later =>
    (if 2 ≤ run ∧ a = preventionByte then [] else (readAs (zeroRun run a) later).map (a :: ·)) ++
      if 2 ≤ run then (readAs (zeroRun 0 a) later).map (preventionByte :: a :: ·) else []

theorem exists_prefix_mem_map (front : Bytes) (texts : List Bytes) (octets : Bytes) :
    (∃ seen ∈ texts.map (front ++ ·), seen <+: octets) ↔
      ∃ rest, octets = front ++ rest ∧ ∃ seen ∈ texts, seen <+: rest := by
  constructor
  · rintro ⟨_, among, back, rfl⟩
    obtain ⟨seen, found, rfl⟩ := List.mem_map.mp among
    exact ⟨seen ++ back, List.append_assoc .., seen, found, List.prefix_append seen back⟩
  · rintro ⟨_, rfl, seen, found, back, rfl⟩
    exact ⟨front ++ seen, List.mem_map_of_mem found, back, List.append_assoc ..⟩

theorem prefix_unescapeAfter_iff {run : Nat} {text octets : Bytes} :
    text <+: unescapeAfter run octets ↔ ∃ seen ∈ readAs run text, seen <+: octets := by
  induction text generalizing run octets with
  | nil => simp [readAs]
  | cons a later ih =>
    rw [cons_prefix_unescapeAfter, readAs]
    simp only [ih, List.mem_append, or_and_right, exists_or]
    refine or_congr ?_ ?_
    · split
      · next dropped => simp [dropped]
      · next kept =>
        rw [and_iff_right kept]
        exact (exists_prefix_mem_map [a] _ octets).symm
    · split
      · next long =>
        rw [and_iff_right long]
        exact (exists_prefix_mem_map [preventionByte, a] _ octets).symm
      · next short => simp [short]

end AnnexB

/-! ## Start codes that come up -/

theorem strip_eq_self_iff {octets : Bytes} :
    StartCode.strip octets = octets ↔ StartCode.detect octets = .none := by
  have parts := bytes_append_strip octets
  constructor
  · intro same
    by_contra real
    have some := three_le_length_bytes real
    have sizes := congrArg List.length parts
    rw [same, List.length_append] at sizes
    omega
  · intro codeless
    rwa [codeless] at parts

/-- What is a start code in front of a body: as it is, and, if the body is still to be unescaped,
also after a `03` is dropped. -/
def disguises : (escaped : Bool) → List Bytes
  | false => [[0, 0, 1], [0, 0, 0, 1]]
  | true => [[0, 0, 1], [0, 0, 3, 1], [0, 0, 0, 1], [0, 0, 0, 3, 1], [0, 0, 3, 0, 1]]

theorem disguises_true : disguises true = (disguises false).flatMap (readAs 0) := by
  decide

theorem head?_of_mem_disguises {escaped : Bool} {seen : Bytes} (among : seen ∈ disguises escaped) :
    seen.head? = some 0 := by
  have each : ∀ escaped, ∀ seen ∈ disguises escaped, seen.head? = some 0 := by decide
  exact each escaped seen among

theorem detect_ne_none_iff {octets : Bytes} :
    StartCode.detect octets ≠ .none ↔ ∃ code ∈ disguises false, code <+: octets := by
  constructor
  · intro real
    have parts := bytes_append_strip octets
    refine ⟨(StartCode.detect octets).bytes, ?_, StartCode.strip octets, parts⟩
    cases seen : StartCode.detect octets with
    | none => exact absurd seen real
    | short => decide
    | long => decide
  · rintro ⟨code, among, back, rfl⟩
    simp only [disguises, List.mem_cons, List.not_mem_nil, or_false] at among
    rcases among with rfl | rfl
    · nofun
    · nofun

/-! ## What is left in front of the raw form -/

namespace NalUnit

variable (unit : NalUnit)

/-- Where the body begins there is one more start code, plain or in disguise. -/
def HidesCode : Prop :=
  ∃ seen ∈ disguises (unit.isAnnexB && !unit.hasNoEscapes), seen <+: unit.body

instance : Decidable unit.HidesCode :=
  inferInstanceAs (Decidable (∃ seen ∈ disguises _, seen <+: unit.body))

theorem detect_toRaw : StartCode.detect unit.toRaw.payload ≠ .none ↔ unit.HidesCode := by
  rw [detect_ne_none_iff]
  unfold HidesCode toRaw
  cases unit.isAnnexB && !unit.hasNoEscapes with
  | false => exact Iff.rfl
  | true =>
    rw [disguises_true]
    simp only [List.mem_flatMap]
    show (∃ code ∈ disguises false, code <+: unescape unit.body) ↔ _
    simp only [unescape, prefix_unescapeAfter_iff]
    constructor
    · rintro ⟨code, real, seen, among, start⟩
      exact ⟨seen, ⟨code, real, among⟩, start⟩
    · rintro ⟨seen, ⟨code, real, among⟩, start⟩
      exact ⟨code, real, seen, among, start⟩

theorem isPlainRaw_toRaw : unit.toRaw.isPlainRaw = true ↔ ¬unit.HidesCode := by
  rw [← detect_toRaw, not_not]
  unfold isPlainRaw startCode
  simp [toRaw, ofRaw]

theorem toRaw_toRaw : unit.toRaw.toRaw = unit.toRaw ↔ ¬unit.HidesCode := by
  rw [← detect_toRaw, not_not, ← strip_eq_self_iff]
  have again : unit.toRaw.toRaw = ofRaw (StartCode.strip unit.toRaw.payload) := rfl
  constructor
  · intro same
    rw [again] at same
    exact congrArg payload same
  · intro same
    rw [again, same]
    rfl

theorem head?_payload_toRaw : unit.toRaw.payload.head? = unit.body.head? := by
  unfold toRaw ofRaw
  split
  · exact head?_unescape unit.body
  · rfl

theorem role_of_type_eq_zero {unit : NalUnit} {codec : Codec} (zero : unit.type codec = 0) :
    unit.role codec = codec.role 0 := by
  unfold type at zero
  unfold role
  cases whole : unit.body with
  | nil =>
    rw [whole] at zero
    cases codec with
    | unknown => rfl
    | h264 => decide
    | h265 => cases zero
  | cons header rest =>
    rw [whole] at zero
    exact congrArg codec.role zero

/-- A start code begins with a zero, which tells type 0 for every codec. -/
theorem HidesCode.type_eq_zero {unit : NalUnit} (hides : unit.HidesCode) (codec : Codec) :
    unit.type codec = 0 := by
  obtain ⟨seen, among, back, whole⟩ := hides
  obtain ⟨rest, rfl⟩ := List.head?_eq_some_iff.mp (head?_of_mem_disguises among)
  unfold type
  rw [← whole]
  cases codec with
  | unknown => rfl
  | h264 => rfl
  | h265 => rfl

/-- The raw form is raw and without start code just if the unit hides none, and just then it is
its own raw form. Then it also tells the unit's type for every codec, and what the unit is for; if
the unit hides a start code it does so only where the octets behind that one tell type 0. -/
theorem toRaw_plain_iff :
    (unit.toRaw.isPlainRaw = true ↔ ¬unit.HidesCode) ∧
    (unit.toRaw.toRaw = unit.toRaw ↔ ¬unit.HidesCode) ∧
    ∀ codec, unit.toRaw.type codec = unit.type codec ∧ unit.toRaw.role codec = unit.role codec ↔
      ¬unit.HidesCode ∨ unit.toRaw.type codec = 0 := by
  refine ⟨unit.isPlainRaw_toRaw, unit.toRaw_toRaw, fun codec => ?_⟩
  by_cases hides : unit.HidesCode
  · have zero := hides.type_eq_zero codec
    constructor
    · rintro ⟨same, -⟩
      exact .inr (same.trans zero)
    · rintro (plain | again)
      · exact absurd hides plain
      · exact ⟨again.trans zero.symm,
          (role_of_type_eq_zero again).trans (role_of_type_eq_zero zero).symm⟩
  · have whole : unit.toRaw.body = unit.toRaw.payload := by
      rw [← detect_toRaw, not_not, ← strip_eq_self_iff] at hides
      exact hides
    have same : unit.toRaw.body.head? = unit.body.head? := by
      rw [whole, head?_payload_toRaw]
    constructor
    · intro _
      exact .inl hides
    · intro _
      exact ⟨type_congr codec same, role_congr codec same⟩

/-- A unit of type 0, escaped and framed as it should be. What it holds begins with `00 00 01`. -/
def disguisedUnit : NalUnit := .ofAnnexB [0, 0, 1, 0, 0, 3, 1, 0, 0x41]

/-- Another one, in which the header of a keyframe slice stands behind these octets. -/
def disguisedSlice : NalUnit := .ofAnnexB [0, 0, 1, 0, 0, 3, 1, 0x65]

theorem toRaw_disguised :
    disguisedUnit.isFramed = true ∧ disguisedUnit.body = escape [0, 0, 1, 0, 0x41] ∧
      disguisedUnit.toRaw.isPlainRaw = false ∧ disguisedUnit.toRaw.toRaw ≠ disguisedUnit.toRaw ∧
      disguisedSlice.role .h264 = .other ∧ disguisedSlice.toRaw.role .h264 = .keyframe := by
  decide

end NalUnit

end Footage
