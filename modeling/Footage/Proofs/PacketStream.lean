import Footage.Proofs.ArchiveRoundTrip
import Footage.Proofs.EscapedForm

/-!
# The byte stream of a packet

Octets of a packet are put into byte stream form in three places: unit by unit, for a whole packet
into one buffer, and on the way into an archive. They share little, and this file says that they
agree.

* `flatMap_eq_iff`: rows of parts agree just if the parts do, if those of one are never longer.
* `framedForm_eq_iff`: what a unit looks like without escaping, compared with what it should.
* `emitters_agree`: all writers give the same octets, and room that was reckoned suffices.
-/

namespace Footage

open AnnexB

/-! ## Rows of parts -/

section Rows

variable {α β : Type} {f g : α → List β} {row : List α}

theorem length_flatMap_le (le : ∀ a ∈ row, (f a).length ≤ (g a).length) :
    (row.flatMap f).length ≤ (row.flatMap g).length := by
  induction row with
  | nil => exact Nat.le_refl 0
  | cons a rest ih =>
    rw [List.flatMap_cons, List.flatMap_cons, List.length_append, List.length_append]
    exact Nat.add_le_add (le a List.mem_cons_self) (ih fun b later =>
      le b (List.mem_cons_of_mem a later))

/-- No part can make up for another one that is shorter. -/
theorem flatMap_eq_iff (le : ∀ a ∈ row, (f a).length ≤ (g a).length) :
    row.flatMap f = row.flatMap g ↔ ∀ a ∈ row, f a = g a := by
  constructor
  · intro same
    induction row with
    | nil => exact nofun
    | cons a rest ih =>
      have first : (f a).length ≤ (g a).length := le a List.mem_cons_self
      have later : ∀ b ∈ rest, (f b).length ≤ (g b).length := fun b inside =>
        le b (List.mem_cons_of_mem a inside)
      have behind := length_flatMap_le later
      rw [List.flatMap_cons, List.flatMap_cons] at same
      have sizes := congrArg List.length same
      rw [List.length_append, List.length_append] at sizes
      obtain ⟨here, there⟩ := List.append_inj same (by omega)
      exact List.forall_mem_cons.mpr ⟨here, ih later there⟩
  · exact List.flatMap_congr

end Rows

/-! ## Writing without escaping -/

namespace NalUnit

variable (unit : NalUnit)

theorem length_framedForm_false_le :
    (unit.framedForm false).length ≤ (unit.framedForm true).length := by
  unfold framedForm escapedBody
  rw [List.length_append, List.length_append]
  refine Nat.add_le_add_left ?_ _
  rw [if_neg (by simp)]
  split
  · exact length_le_escapeAfter 0 unit.body
  · exact Nat.le_refl _

/-- Escaping is missed only in raw bodies that need it. -/
theorem framedForm_eq_iff :
    unit.framedForm false = unit.framedForm true ↔
      (unit.isAnnexB = false → IsEscapeFree unit.body) := by
  unfold framedForm escapedBody
  rw [List.append_cancel_left_eq, if_neg (by simp)]
  cases unit.isAnnexB with
  | false => simp [← escape_eq_self_iff, eq_comm]
  | true => simp

end NalUnit

/-! ## All writers agree -/

namespace Packet

variable (p : Packet)

theorem payloads_archivedUnits :
    p.archivedUnits.flatMap (·.payload) = p.units.flatMap (·.framedForm true) := by
  unfold archivedUnits
  rw [List.flatMap_map]

/-- `stream` is what becomes of a packet wherever its NAL units are put into byte stream form. -/
structure IsStream (stream : Bytes) : Prop where
  /-- Unit by unit. -/
  units : ∃ framed, p.units.mapM (·.toAnnexB) = .ok framed ∧
    stream = framed.flatMap (·.payload)
  /-- All units at once. -/
  whole : p.toStream = .ok stream
  /-- Into one buffer, with the room that is reckoned for it, even if a lone unit could be handed on
  as it is. -/
  packed : ∃ back,
    packUnits true p.units (.zeros (total (p.units.map roomFor))) = some ⟨stream, back⟩
  /-- Into an archive, with any packets before and behind. -/
  archived : ∀ before after size, ∃ track front own back,
    Track.ofPackets (before ++ p :: after) size = .ok track ∧
      track.units = front ++ own ++ back ∧
      front.length = total (before.map (·.units.length)) ∧ own.length = p.units.length ∧
      stream = own.flatMap (·.payload)

theorem length_archivedUnits : p.archivedUnits.length = p.units.length := by
  unfold archivedUnits
  rw [List.length_map]

theorem length_flatMap_archivedUnits (packets : List Packet) :
    (packets.flatMap (·.archivedUnits)).length = total (packets.map (·.units.length)) := by
  induction packets with
  | nil => rfl
  | cons p rest ih =>
    rw [List.flatMap_cons, List.length_append, ih, length_archivedUnits, List.map_cons, total]

theorem isStream_flatMap : p.IsStream (p.units.flatMap (·.framedForm true)) where
  units := ⟨_, NalUnit.mapM_toAnnexB_eq p.units, by rw [List.flatMap_map]; rfl⟩
  whole := p.toStream_eq true
  packed := packUnits_roomFor true p.units
  archived before after size := by
    refine ⟨_, before.flatMap (·.archivedUnits), p.archivedUnits, after.flatMap (·.archivedUnits),
      Track.ofPackets_eq _ size, ?_, length_flatMap_archivedUnits before, p.length_archivedUnits,
      p.payloads_archivedUnits.symm⟩
    rw [List.flatMap_append, List.flatMap_cons, List.append_assoc]

/-- Every packet has one byte stream, whoever writes it, with units that are copied and units that
are encoded. The room that is reckoned with suffices for each unit and for all of them. If escaping
is off, writing succeeds as well, and gives the same octets just if no raw body has two zeros in
front of an octet below 4. -/
theorem emitters_agree : ∃ stream plain, p.IsStream stream ∧
    (∀ unit ∈ p.units, ∃ framed, unit.toAnnexB = .ok framed ∧
      ∀ buffer : Bytes, roomFor unit ≤ buffer.length →
        packUnit true unit buffer =
          some ⟨framed.payload, buffer.drop framed.payload.length⟩) ∧
    p.toStream false = .ok plain ∧
    (∃ back, packUnits false p.units (.zeros (total (p.units.map roomFor))) =
      some ⟨plain, back⟩) ∧
    (plain = stream ↔ ∀ unit ∈ p.units, unit.isAnnexB = false → IsEscapeFree unit.body) := by
  refine ⟨p.units.flatMap (·.framedForm true), p.units.flatMap (·.framedForm false),
    p.isStream_flatMap, fun unit _ => ⟨unit.framedUnit, unit.toAnnexB_eq, fun buffer room => ?_⟩,
    p.toStream_eq false, packUnits_roomFor false p.units, ?_⟩
  · have fits : (unit.framedForm true).length ≤ buffer.length :=
      Nat.le_trans (length_framedForm_le true unit) room
    rw [packUnit_eq, copyInto, if_pos fits]
    rfl
  · rw [flatMap_eq_iff fun unit _ => unit.length_framedForm_false_le]
    exact forall₂_congr fun unit _ => unit.framedForm_eq_iff

/-- A raw unit, an escaped one without start code, one behind a start code, and a raw payload that
begins like a start code itself: only raw bodies lose their `03` when escaping is off. -/
example :
    let p : Packet := { codec := .h264, pts := .zero, wall := .epoch, units := [
      .ofRaw [0x65, 0, 0, 1], .ofAnnexB [0x41, 0, 0, 3, 1], .ofAnnexB [0, 0, 0, 1, 0x41],
      .ofRaw [0, 0, 1, 0x67, 0, 0, 0]] }
    p.toStream = .ok [0, 0, 1, 0x65, 0, 0, 3, 1, 0, 0, 1, 0x41, 0, 0, 3, 1, 0, 0, 0, 1, 0x41,
      0, 0, 1, 0x67, 0, 0, 3, 0] ∧
    p.toStream false = .ok [0, 0, 1, 0x65, 0, 0, 1, 0, 0, 1, 0x41, 0, 0, 3, 1, 0, 0, 0, 1, 0x41,
      0, 0, 1, 0x67, 0, 0, 0] := by
  decide

end Packet

end Footage
