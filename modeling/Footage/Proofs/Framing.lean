import Footage.Packet.Basic
import Footage.Proofs.Effects
import Footage.Proofs.StreamSplit

/-!
# NAL units in a byte stream

NAL units of any form are brought into a byte stream. This file says what each of them looks like
there: a start code, its own or a short one, and the escaped body (`framedForm`).

* `toAnnexB_payload`, `toStream_eq`: both writers give this form, and neither ever fails.
* `role_framedForm`, `toRaw_framedForm`: what is read from it is what the unit tells.
-/

namespace Footage

/-! ## Octets that need no escape -/

namespace AnnexB

/-- Octets without `00 00 03` lose nothing when they are read. -/
theorem unescapeAfter_eq_self {run : Nat} {octets : Bytes}
    (plain : ¬[0, 0, 3] <:+: List.replicate run 0 ++ octets) :
    unescapeAfter run octets = octets := by
  -- along the octets: the run that is counted is still in front of those that are left
  induction octets generalizing run with
  | nil => rfl
  | cons b rest ih =>
    rw [unescapeAfter]
    split
    next dropped =>
      obtain ⟨long, rfl⟩ := dropped
      obtain ⟨more, zeros⟩ := zeros_of_long long (preventionByte :: rest)
      refine absurd ⟨List.replicate more 0, rest, ?_⟩ plain
      rw [zeros, List.append_assoc]
      rfl
    next =>
      have later : ¬[0, 0, 3] <:+: List.replicate (zeroRun run b) 0 ++ rest := by
        intro inside
        exact plain (inside.trans (zeroRun_suffix run b rest).isInfix)
      rw [ih later]

theorem unescape_eq_self {octets : Bytes} (plain : ¬[0, 0, 3] <:+: octets) :
    unescape octets = octets :=
  unescapeAfter_eq_self plain

/-- No `03` is put in front of the first octet. -/
theorem head?_escape (raw : Bytes) : (escape raw).head? = raw.head? := by
  cases raw with
  | nil => rfl
  | cons b rest =>
    rw [escape, escapeAfter_zero_cons]
    rfl

end AnnexB

open AnnexB

/-! ## What a unit looks like -/

namespace NalUnit

/-- The start code in front of the unit, its own if it is behind one. -/
def frameCode (unit : NalUnit) : StartCode := if unit.isFramed then unit.startCode else .short

/-- The body as it is written; only raw ones may have to be escaped. -/
def escapedBody (escaping : Bool) (unit : NalUnit) : Bytes :=
  if escaping && !unit.isAnnexB then escape unit.body else unit.body

/-- The unit in a byte stream. -/
def framedForm (escaping : Bool) (unit : NalUnit) : Bytes :=
  unit.frameCode.bytes ++ unit.escapedBody escaping

variable (unit : NalUnit) (escaping : Bool) (codec : Codec)

theorem startCode_append_body : unit.startCode.bytes ++ unit.body = unit.payload :=
  bytes_append_strip unit.payload

theorem body_of_codeless {unit : NalUnit} (codeless : unit.startCode = .none) :
    unit.body = unit.payload := by
  have parts := unit.startCode_append_body
  rwa [codeless] at parts

theorem frameCode_ne_none : unit.frameCode ≠ .none := by
  unfold frameCode
  split
  next framed =>
    unfold isFramed at framed
    simp at framed
    exact framed.2
  next => decide

theorem startCode_framedForm : StartCode.detect (unit.framedForm escaping) = unit.frameCode :=
  detect_append unit.frameCode_ne_none _

theorem body_framedForm :
    (ofAnnexB (unit.framedForm escaping)).body = unit.escapedBody escaping := by
  have code : (ofAnnexB (unit.framedForm escaping)).startCode = unit.frameCode :=
    unit.startCode_framedForm escaping
  unfold body
  rw [code]
  exact List.drop_left

theorem framedForm_of_isFramed {unit : NalUnit} (framed : unit.isFramed = true) :
    unit.framedForm escaping = unit.payload := by
  have escaped : unit.isAnnexB = true := by
    unfold isFramed at framed
    exact (Bool.and_eq_true_iff.mp framed).1
  unfold framedForm frameCode escapedBody
  rw [if_pos framed, if_neg (by simp [escaped]), startCode_append_body]

theorem framedForm_of_not_isFramed {unit : NalUnit} (unframed : ¬unit.isFramed = true) :
    unit.framedForm escaping = encodedForm unit.body .short (escaping && !unit.isAnnexB) := by
  unfold framedForm frameCode escapedBody encodedForm
  rw [if_neg unframed]

theorem isFramed_framedForm : (ofAnnexB (unit.framedForm escaping)).isFramed = true := by
  have code : (ofAnnexB (unit.framedForm escaping)).startCode = unit.frameCode :=
    unit.startCode_framedForm escaping
  unfold isFramed
  rw [code]
  simp [ofAnnexB, unit.frameCode_ne_none]

/-- A unit that is behind a start code stays as it is. -/
theorem framedForm_framedForm (again : Bool) :
    (ofAnnexB (unit.framedForm escaping)).framedForm again = unit.framedForm escaping :=
  framedForm_of_isFramed again (unit.isFramed_framedForm escaping)

/-- A raw payload gets a short start code. -/
theorem framedForm_ofRaw {raw : Bytes} (codeless : StartCode.detect raw = .none) :
    (ofRaw raw).framedForm true = StartCode.short.bytes ++ escape raw := by
  have whole : (ofRaw raw).body = raw := body_of_codeless codeless
  rw [framedForm_of_not_isFramed true (by simp [isFramed, ofRaw]), whole]
  rfl

/-- The unit in its byte stream form. What is raw needs no unescaping later if it did not grow. -/
def framedUnit : NalUnit where
  payload := unit.framedForm true
  isAnnexB := true
  hasNoEscapes :=
    if unit.isAnnexB then unit.hasNoEscapes else (escape unit.body).length = unit.body.length

theorem toAnnexB_eq : unit.toAnnexB = .ok unit.framedUnit := by
  unfold toAnnexB framedUnit
  split
  next escaped =>
    split
    next codeless =>
      have unframed : ¬unit.isFramed = true := by simp [isFramed, codeless]
      rw [framedForm_of_not_isFramed true unframed, encodedForm, if_neg (by simp [escaped]),
        body_of_codeless codeless, escaped]
    next coded =>
      have framed : unit.isFramed = true := by simp [isFramed, escaped, coded]
      rw [framedForm_of_isFramed true framed, ← escaped]
  next raw =>
    have unframed : ¬unit.isFramed = true := by simp [isFramed, raw]
    have sizes : (encodedForm unit.body .short true).length =
        StartCode.short.length + (escape unit.body).length := by
      rw [encodedForm, if_pos rfl, List.length_append]
      rfl
    rw [encode_eq, framedForm_of_not_isFramed true unframed, ok_bind, sizes]
    simp [raw, Nat.add_comm, pure, Except.pure]

theorem exists_toAnnexB : ∃ framed, unit.toAnnexB = .ok framed :=
  ⟨unit.framedUnit, unit.toAnnexB_eq⟩

/-- The byte stream form always exists. -/
theorem toAnnexB_payload : ∃ framed, unit.toAnnexB = .ok framed ∧
    framed.payload = unit.framedForm true :=
  ⟨unit.framedUnit, unit.toAnnexB_eq, rfl⟩

theorem mapM_toAnnexB_eq (units : List NalUnit) :
    units.mapM (·.toAnnexB) = .ok (units.map (·.framedUnit)) :=
  mapM_ok fun unit _ => unit.toAnnexB_eq

/-! ## What is read from it -/

theorem head?_escapedBody : (unit.escapedBody escaping).head? = unit.body.head? := by
  unfold escapedBody
  split
  · exact head?_escape _
  · rfl

theorem type_congr {unit other : NalUnit} (same : unit.body.head? = other.body.head?) :
    unit.type codec = other.type codec := by
  unfold type
  cases first : unit.body <;> cases second : other.body <;> simp_all

theorem role_congr {unit other : NalUnit} (same : unit.body.head? = other.body.head?) :
    unit.role codec = other.role codec := by
  unfold role
  cases first : unit.body <;> cases second : other.body <;> simp_all

theorem role_framedForm :
    (ofAnnexB (unit.framedForm escaping)).role codec = unit.role codec := by
  refine role_congr codec ?_
  rw [body_framedForm, head?_escapedBody]

theorem toRaw_escape (raw : Bytes) : (ofAnnexB (escape raw)).toRaw = ofRaw raw := by
  have codeless : (ofAnnexB (escape raw)).startCode = .none :=
    detect_of_isEscaped (isEscaped_escape raw)
  have whole : (ofAnnexB (escape raw)).body = escape raw := body_of_codeless codeless
  unfold toRaw
  rw [whole]
  exact congrArg ofRaw (unescape_escape raw)

/-- The raw form is the same, unless the unit has a prevention octet that it says it has not. -/
theorem toRaw_framedForm {unit : NalUnit}
    (honest : unit.isAnnexB = true → unit.hasNoEscapes = true → ¬[0, 0, 3] <:+: unit.body) :
    (ofAnnexB (unit.framedForm true)).toRaw = unit.toRaw := by
  have body := unit.body_framedForm true
  unfold toRaw
  rw [body]
  congr 1
  show unescape (unit.escapedBody true) = _
  unfold escapedBody
  cases escaped : unit.isAnnexB with
  | false => exact unescape_escape unit.body
  | true =>
    cases plain : unit.hasNoEscapes with
    | false => rfl
    | true => exact unescape_eq_self (honest escaped plain)

end NalUnit

/-! ## Writing units into a buffer -/

namespace Packet

variable (escaping : Bool)

theorem packUnit_eq (unit : NalUnit) (buffer : Bytes) :
    packUnit escaping unit buffer = copyInto (unit.framedForm escaping) buffer := by
  unfold packUnit
  split
  next framed => rw [NalUnit.framedForm_of_isFramed escaping framed]
  next unframed => rw [NalUnit.framedForm_of_not_isFramed escaping unframed, encodeInto_eq]

/-- Packing units one by one writes what copying all of them at once would write. -/
theorem packUnits_eq (units : List NalUnit) (buffer : Bytes) :
    packUnits escaping units buffer = copyInto (units.flatMap (·.framedForm escaping)) buffer := by
  induction units generalizing buffer with
  | nil => simp [packUnits, copyInto]
  | cons unit rest ih =>
    rw [packUnits, packUnit_eq, List.flatMap_cons, copyInto_append, Option.bind_eq_bind]
    congr 1
    funext written
    rw [ih]

theorem length_framedForm_le (unit : NalUnit) :
    (unit.framedForm escaping).length ≤ roomFor unit := by
  have whole : unit.startCode.length + unit.body.length = unit.payload.length := by
    rw [← unit.startCode_append_body, List.length_append]
    rfl
  unfold roomFor
  by_cases framed : unit.isFramed = true
  · have escaped : unit.isAnnexB = true := by
      unfold NalUnit.isFramed at framed
      exact (Bool.and_eq_true_iff.mp framed).1
    rw [NalUnit.framedForm_of_isFramed escaping framed, if_pos escaped]
    exact Nat.le_add_left _ _
  · rw [NalUnit.framedForm_of_not_isFramed escaping framed]
    have code : StartCode.short.length + 1 = StartCode.long.length := rfl
    split
    next escaped =>
      have size : (encodedForm unit.body .short (escaping && !unit.isAnnexB)).length =
          StartCode.short.length + unit.body.length := by
        simp [encodedForm, escaped, StartCode.length]
      omega
    next =>
      have bound := length_encodedForm_le unit.body .short (escaping && !unit.isAnnexB)
      unfold worstLength at bound ⊢
      omega

theorem length_flatMap_framedForm_le (units : List NalUnit) :
    (units.flatMap (·.framedForm escaping)).length ≤ total (units.map roomFor) := by
  induction units with
  | nil => exact Nat.le_refl 0
  | cons unit rest ih =>
    rw [List.flatMap_cons, List.length_append, List.map_cons, total]
    exact Nat.add_le_add (length_framedForm_le escaping unit) ih

/-- With the room that is reckoned for them, units are always packed. -/
theorem packUnits_roomFor (units : List NalUnit) : ∃ back,
    packUnits escaping units (.zeros (total (units.map roomFor))) =
      some ⟨units.flatMap (·.framedForm escaping), back⟩ := by
  have fits := length_flatMap_framedForm_le escaping units
  rw [← Bytes.length_zeros (total (units.map roomFor))] at fits
  rw [packUnits_eq, copyInto, if_pos fits]
  exact ⟨_, rfl⟩

/-- The byte stream of a packet always exists. -/
theorem toStream_eq (p : Packet) :
    p.toStream escaping = .ok (p.units.flatMap (·.framedForm escaping)) := by
  obtain ⟨back, packed⟩ := packUnits_roomFor escaping p.units
  unfold toStream
  simp only [packed]
  split
  next only alone =>
    split
    next framed =>
      rw [alone, List.flatMap_singleton, NalUnit.framedForm_of_isFramed escaping framed]
    next => rfl
  next => rfl

end Packet

end Footage
