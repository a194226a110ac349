import Footage.Proofs.EscapedForm
import Footage.Proofs.Framing

/-!
# The byte stream form of a NAL unit

A unit can be brought into byte stream form from whatever form it is in, and this file says what
that keeps.

* `toAnnexB_agrees`: the byte stream form always exists, tells the same type, and reads as the same
  raw form. To bring it into byte stream form again changes nothing.
* `escapeFree_iff`: a raw unit is marked as free of escapes just if no `03` had to be put in, so
  nothing is lost where such units are not unescaped.
-/

namespace Footage

open AnnexB

/-! ## Bringing a unit into it -/

namespace NalUnit

variable (unit : NalUnit)

theorem isFramed_framedUnit : unit.framedUnit.isFramed = true :=
  unit.isFramed_framedForm true

theorem startCode_framedUnit : unit.framedUnit.startCode = unit.frameCode :=
  unit.startCode_framedForm true

theorem body_framedUnit : unit.framedUnit.body = unit.escapedBody true :=
  unit.body_framedForm true

theorem toAnnexB_framedUnit : unit.framedUnit.toAnnexB = .ok unit.framedUnit := by
  have coded : ¬unit.framedUnit.startCode = .none := by
    rw [startCode_framedUnit]
    exact unit.frameCode_ne_none
  have escaped : unit.framedUnit.isAnnexB = true := rfl
  unfold toAnnexB
  rw [if_pos escaped, if_neg coded]

theorem head?_body_framedUnit : unit.framedUnit.body.head? = unit.body.head? := by
  rw [body_framedUnit, head?_escapedBody]

theorem toRaw_framedUnit : unit.framedUnit.toRaw = unit.toRaw := by
  unfold toRaw
  rw [body_framedUnit]
  cases escaped : unit.isAnnexB with
  | true => simp [framedUnit, escapedBody, escaped]
  | false =>
    -- whether the reader unescapes the body depends on whether escaping made it longer
    by_cases free : IsEscapeFree unit.body
    · simp [framedUnit, escapedBody, escaped, escape_eq_self free]
    · simp [framedUnit, escapedBody, escaped, length_escape_eq_iff, free, unescape_escape]

/-- The byte stream form always exists, and is in byte stream form behind a start code. Once there
a unit does not change any more. Its type, what it is for and its raw form are those of the unit.
The start code is the unit's own if it was in byte stream form behind one, and else a short one;
only a raw body is escaped. -/
theorem toAnnexB_agrees : ∃ framed, unit.toAnnexB = .ok framed ∧
    framed.isFramed = true ∧ framed.toAnnexB = .ok framed ∧
    (∀ codec, framed.type codec = unit.type codec ∧ framed.role codec = unit.role codec) ∧
    framed.toRaw = unit.toRaw ∧
    framed.startCode = unit.frameCode ∧ framed.body = unit.escapedBody true := by
  refine ⟨unit.framedUnit, unit.toAnnexB_eq, unit.isFramed_framedUnit, unit.toAnnexB_framedUnit,
    fun codec => ?_, unit.toRaw_framedUnit, unit.startCode_framedUnit, unit.body_framedUnit⟩
  have same := unit.head?_body_framedUnit
  exact ⟨type_congr codec same, role_congr codec same⟩

end NalUnit

/-! ## Units that need no unescaping -/

theorem NalUnit.toRaw_of_unescape_eq_self {unit : NalUnit} (same : unescape unit.body = unit.body) :
    unit.toRaw = { unit with hasNoEscapes := false }.toRaw := by
  have unread : { unit with hasNoEscapes := false }.body = unit.body := rfl
  unfold toRaw
  rw [unread, same]
  simp

/-- For a raw payload that does not begin like a start code it is one and the same that its unit
is marked as free of escapes, that it is escaped to itself, that no hint is found in its escaped
form, with or without start code, and that no two zeros in it stand before an octet below 4. Then
unescaping changes nothing, so it is right to leave it out. If it is not so, the hint is two
octets in front of the first `03` that was put in. -/
theorem escapeFree_iff {raw : Bytes} (codeless : StartCode.detect raw = .none) :
    ∃ framed encoded, (NalUnit.ofRaw raw).toAnnexB = .ok framed ∧
      encode raw .none true = .ok encoded ∧ framed.body = encoded ∧
      (framed.hasNoEscapes = true ↔ IsEscapeFree raw) ∧ (encoded = raw ↔ IsEscapeFree raw) ∧
      (escapeHint? encoded = none ↔ IsEscapeFree raw) ∧
      (escapeHint? framed.payload = none ↔ IsEscapeFree raw) ∧
      (IsEscapeFree raw → unescape encoded = encoded ∧
        framed.toRaw = { framed with hasNoEscapes := false }.toRaw) ∧
      (¬IsEscapeFree raw → ∃ front b back, FirstEscape raw front b back ∧
        encoded = front ++ 0 :: 0 :: preventionByte :: escape (b :: back) ∧
        escapeHint? encoded = some front.length) := by
  have whole : (NalUnit.ofRaw raw).body = raw := NalUnit.body_of_codeless codeless
  have body : (NalUnit.ofRaw raw).framedUnit.body = escape raw := by
    rw [NalUnit.body_framedUnit]
    show escape (NalUnit.ofRaw raw).body = escape raw
    rw [whole]
  have payload : (NalUnit.ofRaw raw).framedUnit.payload = StartCode.short.bytes ++ escape raw :=
    NalUnit.framedForm_ofRaw codeless
  have marked : (NalUnit.ofRaw raw).framedUnit.hasNoEscapes = true ↔
      (escape raw).length = raw.length := by
    show decide ((escape (NalUnit.ofRaw raw).body).length = (NalUnit.ofRaw raw).body.length) =
      true ↔ _
    rw [whole, decide_eq_true_iff]
  refine ⟨_, escape raw, (NalUnit.ofRaw raw).toAnnexB_eq, encode_eq raw .none true, body,
    marked.trans length_escape_eq_iff, escape_eq_self_iff, escapeHint?_escape_eq_none_iff, ?_, ?_,
    ?_⟩
  · rw [payload, escapeHint?_short, Option.map_eq_none_iff]
    exact escapeHint?_escape_eq_none_iff
  · intro free
    have same : unescape (escape raw) = escape raw := by
      rw [escape_eq_self free]
      exact unescape_eq_self free.not_infix
    exact ⟨same, NalUnit.toRaw_of_unescape_eq_self (body ▸ same)⟩
  · intro h
    obtain ⟨front, b, back, first⟩ := exists_firstEscape h
    exact ⟨front, b, back, first, first.escape_eq, first.hint_eq⟩

/-- A slice whose zeros need two prevention octets. -/
def zeroSlice : Bytes := [0x65, 0, 0, 0, 0, 3]

theorem escapeFree_iff_zeroSlice : StartCode.detect zeroSlice = .none ∧
    ∃ framed encoded, (NalUnit.ofRaw zeroSlice).toAnnexB = .ok framed ∧
      encode zeroSlice .none true = .ok encoded ∧ framed.hasNoEscapes = false ∧
      encoded = [0x65, 0, 0, 3, 0, 0, 3, 3] ∧ escapeHint? encoded = some 1 := by
  have codeless : StartCode.detect zeroSlice = .none := rfl
  obtain ⟨framed, encoded, made, written, -, marked, same, -⟩ := escapeFree_iff codeless
  have form : encode zeroSlice .none true = .ok [0x65, 0, 0, 3, 0, 0, 3, 3] := by decide
  obtain rfl : encoded = [0x65, 0, 0, 3, 0, 0, 3, 3] := by
    rw [form] at written
    exact (Except.ok.inj written).symm
  have unmarked : framed.hasNoEscapes = false := by
    rw [← Bool.not_eq_true, marked, ← same]
    decide
  exact ⟨codeless, framed, _, made, written, unmarked, rfl, rfl⟩

end Footage
