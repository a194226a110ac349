import Footage.Export.File
import Footage.Proofs.ArchiveRoundTrip
import Footage.Proofs.StreamForm

/-!
# The framing of a source does not matter

Cameras deliver NAL units raw, escaped, or behind start codes, and a buffer may hold any mixture.
This file says that nothing depends on it: a buffer whose NAL units are all brought into byte stream
form answers the same questions in the same way, and is written to archives and containers as the
same octets.

The argument is the same everywhere. What is read from a unit in byte stream form (its type, its
role, its raw form) is what is read from the unit, and its byte stream form is itself. So whatever
reads units only in these ways commutes with framing, or is the same with and without.

* `PacketBuffer.inStreamForm_eq`: every buffer can be brought into byte stream form.
* `framing_independent`: what is the same afterwards.
-/

namespace Footage

/-! ## Bringing a buffer into byte stream form -/

def Packet.inStreamForm (p : Packet) : Except BitstreamError Packet := do
  let units ← p.units.mapM (·.toAnnexB)
  return { p with units }

def PacketBuffer.inStreamForm (buffer : PacketBuffer) : Except BitstreamError PacketBuffer := do
  let packets ← buffer.packets.mapM (·.inStreamForm)
  return ⟨packets⟩

def Packet.framed (p : Packet) : Packet := { p with units := p.units.map (·.framedUnit) }

def PacketBuffer.framed (buffer : PacketBuffer) : PacketBuffer :=
  ⟨buffer.packets.map (·.framed)⟩

theorem Packet.inStreamForm_eq (p : Packet) : p.inStreamForm = .ok p.framed := by
  unfold inStreamForm
  rw [NalUnit.mapM_toAnnexB_eq]
  rfl

theorem PacketBuffer.inStreamForm_eq (buffer : PacketBuffer) :
    buffer.inStreamForm = .ok buffer.framed := by
  have packets : buffer.packets.mapM (·.inStreamForm) = .ok (buffer.packets.map (·.framed)) :=
    mapM_ok fun p _ => p.inStreamForm_eq
  unfold inStreamForm
  rw [packets]
  rfl

/-! ## What is read from a unit -/

namespace NalUnit

variable (unit : NalUnit) (codec : Codec)

@[simp] theorem type_framedUnit : unit.framedUnit.type codec = unit.type codec :=
  type_congr codec unit.head?_body_framedUnit

@[simp] theorem role_framedUnit : unit.framedUnit.role codec = unit.role codec :=
  role_congr codec unit.head?_body_framedUnit

@[simp] theorem framedForm_framedUnit (escaping : Bool) :
    unit.framedUnit.framedForm escaping = unit.framedForm true :=
  framedForm_of_isFramed escaping unit.isFramed_framedUnit

@[simp] theorem framedUnit_framedUnit : unit.framedUnit.framedUnit = unit.framedUnit :=
  Except.ok.inj (unit.framedUnit.toAnnexB_eq.symm.trans unit.toAnnexB_framedUnit)

end NalUnit

/-! ## What is read from a packet -/

namespace Packet

variable (p : Packet)

theorem hasRole_framed (role : NalRole) : p.framed.hasRole role = p.hasRole role := by
  unfold hasRole framed
  rw [List.any_map]
  simp only [Function.comp_def, NalUnit.role_framedUnit]

theorem hasKeyframe_framed : p.framed.hasKeyframe = p.hasKeyframe := p.hasRole_framed .keyframe

theorem isInterFrame_framed : p.framed.isInterFrame = p.isInterFrame := by
  unfold isInterFrame framed
  rcases p.units with _ | ⟨unit, _ | ⟨other, rest⟩⟩
  · rfl
  · simp only [List.map_cons, List.map_nil, NalUnit.role_framedUnit]
  · rfl

theorem firstOfType?_framed (type : UInt8) :
    p.framed.firstOfType? type = (p.firstOfType? type).map (·.framedUnit) := by
  unfold firstOfType? framed
  rw [List.find?_map]
  simp only [Function.comp_def, NalUnit.type_framedUnit]

/-- The byte stream of a packet is the one of its units in byte stream form. -/
theorem toStream_framed : p.framed.toStream = p.toStream := by
  rw [toStream_eq, toStream_eq]
  unfold framed
  simp only [List.flatMap_map, NalUnit.framedForm_framedUnit]

theorem archived_framed : p.framed.archived = p.archived := by
  rw [archived_eq, archived_eq]
  unfold archivedUnits framed
  simp

end Packet

theorem Track.ofPackets_framed (packets : List Packet) (size : Dimensions) :
    Track.ofPackets (packets.map (·.framed)) size = Track.ofPackets packets size := by
  have codec : ((packets.map (·.framed)).head?.map (·.codec)) = packets.head?.map (·.codec) := by
    rw [List.head?_map, Option.map_map]
    rfl
  unfold ofPackets
  rw [codec, List.mapM_map]
  simp only [Function.comp_def, Packet.archived_framed]

/-! ## What is read from a buffer -/

namespace PacketBuffer

variable (buffer : PacketBuffer) {head : List Packet}

theorem codec_framed : buffer.framed.codec = buffer.codec := by
  unfold codec framed
  rw [List.head?_map, Option.map_map]
  rfl

theorem hasKeyframe_framed : buffer.framed.hasKeyframe = buffer.hasKeyframe := by
  unfold hasKeyframe framed
  rw [List.any_map]
  simp only [Function.comp_def, Packet.hasKeyframe_framed]

theorem firstWithRole?_framed (role : NalRole) :
    buffer.framed.firstWithRole? role = buffer.firstWithRole? role := by
  unfold firstWithRole? framed
  rw [List.findIdx?_map]
  simp only [Function.comp_def, Packet.hasRole_framed]

theorem findSome?_firstOfType?_framed (packets : List Packet) (type : UInt8) :
    (packets.map (·.framed)).findSome? (·.firstOfType? type) =
      (packets.findSome? (·.firstOfType? type)).map (·.framedUnit) := by
  induction packets with
  | nil => rfl
  | cons p rest ih =>
    rw [List.map_cons, List.findSome?_cons, List.findSome?_cons, Packet.firstOfType?_framed]
    cases p.firstOfType? type with
    | some unit => rfl
    | none => exact ih

theorem firstOfType?_framed (type : UInt8) :
    buffer.framed.firstOfType? type = (buffer.firstOfType? type).map (·.framedUnit) :=
  findSome?_firstOfType?_framed buffer.packets type

theorem latestOfType?_framed (head : List Packet) (type : UInt8) :
    latestOfType? (head.map (·.framed)) type = (latestOfType? head type).map (·.framedUnit) := by
  unfold latestOfType?
  rw [← List.map_reverse]
  exact findSome?_firstOfType?_framed head.reverse type

theorem pictureSize_framed [H264.SizeReader] : buffer.framed.pictureSize = buffer.pictureSize := by
  unfold pictureSize
  rw [codec_framed]
  cases buffer.codec.spsType? with
  | none => rfl
  | some type =>
    simp only [firstOfType?_framed]
    cases buffer.firstOfType? type with
    | none => rfl
    | some sps => simp only [Option.map_some, sps.toRaw_framedUnit]

/-! ## What an export writes -/

theorem requiredSet_framed (codec : Codec) (head : List Packet) (type : UInt8) :
    requiredSet codec (head.map (·.framed)) type =
      (requiredSet codec head type).map (·.framedUnit) := by
  unfold requiredSet
  rw [latestOfType?_framed]
  cases latestOfType? head type <;> rfl

theorem requiredSets_framed [H264.SizeReader] (codec : Codec) (head : List Packet)
    (types : List UInt8) :
    requiredSets codec (head.map (·.framed)) types = requiredSets codec head types := by
  induction types with
  | nil => rfl
  | cons type rest ih =>
    unfold requiredSets
    rw [requiredSet_framed, ih]
    cases requiredSet codec head type with
    | error error => rfl
    | ok unit =>
      rw [Except.map, ok_bind, ok_bind, unit.toRaw_framedUnit, unit.toAnnexB_framedUnit,
        unit.toAnnexB_eq]

theorem exportStart_framed [H264.SizeReader] : buffer.framed.exportStart = buffer.exportStart := by
  have first : buffer.framed.firstKeyframe? = buffer.firstKeyframe? :=
    buffer.firstWithRole?_framed .keyframe
  have head (count : Nat) : buffer.framed.packets.take count =
      (buffer.packets.take count).map (·.framed) := List.map_take.symm
  unfold exportStart
  simp only [codec_framed, first, head, requiredSets_framed]

theorem accessUnit_framed (base : Duration) (p : Packet) :
    accessUnit base p.framed = accessUnit base p := by
  have units : p.framed.units.mapM NalUnit.toAnnexB = p.units.mapM NalUnit.toAnnexB := by
    rw [NalUnit.mapM_toAnnexB_eq, NalUnit.mapM_toAnnexB_eq]
    unfold Packet.framed
    simp
  unfold accessUnit
  rw [units, p.hasKeyframe_framed]
  rfl

theorem exportTo_framed [H264.SizeReader] {σ : Type} (writer : ContainerWriter σ) :
    buffer.framed.exportTo writer = buffer.exportTo writer := by
  have rest (first : Nat) : buffer.framed.packets.drop first =
      (buffer.packets.drop first).map (·.framed) := List.map_drop.symm
  have origin (packets : List Packet) :
      (packets.map (·.framed)).head?.map (·.pts) = packets.head?.map (·.pts) := by
    rw [List.head?_map, Option.map_map]
    rfl
  unfold exportTo
  simp only [exportStart_framed, rest, origin, List.forM_eq_forM, List.forM_map, accessUnit_framed]

theorem save_framed [H264.SizeReader] {σ : Type} (format : ContainerFormat) (sink : ByteSink σ) :
    buffer.framed.save format sink = buffer.save format sink := by
  cases format with
  | transportStream =>
    unfold save saveTransportStream exportFrom
    simp only [exportTo_framed]
  | mp4 =>
    unfold save saveMp4 exportFrom
    simp only [exportTo_framed, codec_framed]

end PacketBuffer

/-- Every buffer can be brought into byte stream form, and nothing that is asked of it or written
from it depends on whether it is: not its codec, where its keyframes and other roles are and which
packets are inter frames, the picture size or why there is none, the byte stream and the archived
track of its packets, the calls of any container writer and the octets of a transport stream or MP4
file. -/
theorem framing_independent [H264.SizeReader] (buffer : PacketBuffer) :
    ∃ framed, buffer.inStreamForm = .ok framed ∧
      (∀ p ∈ framed.packets, ∀ unit ∈ p.units, unit.isFramed = true) ∧
      framed.codec = buffer.codec ∧
      framed.hasKeyframe = buffer.hasKeyframe ∧
      framed.packets.map (·.hasKeyframe) = buffer.packets.map (·.hasKeyframe) ∧
      framed.firstKeyframe? = buffer.firstKeyframe? ∧
      (∀ role, framed.firstWithRole? role = buffer.firstWithRole? role) ∧
      framed.packets.map (·.isInterFrame) = buffer.packets.map (·.isInterFrame) ∧
      framed.pictureSize = buffer.pictureSize ∧
      framed.packets.map (·.toStream) = buffer.packets.map (·.toStream) ∧
      (∀ size, Track.ofPackets framed.packets size = Track.ofPackets buffer.packets size) ∧
      (∀ (σ : Type) (writer : ContainerWriter σ), framed.exportTo writer = buffer.exportTo writer ∧
        framed.exportTo writer.logging = buffer.exportTo writer.logging) ∧
      ∀ (σ : Type) (sink : ByteSink σ) format,
        framed.save format sink = buffer.save format sink := by
  have each {α : Type} {tells : Packet → α} (same : ∀ p : Packet, tells p.framed = tells p) :
      buffer.framed.packets.map tells = buffer.packets.map tells := by
    unfold PacketBuffer.framed
    rw [List.map_map]
    exact List.map_congr_left fun p _ => same p
  refine ⟨buffer.framed, buffer.inStreamForm_eq, ?_, buffer.codec_framed,
    buffer.hasKeyframe_framed, each Packet.hasKeyframe_framed,
    buffer.firstWithRole?_framed .keyframe, buffer.firstWithRole?_framed,
    each Packet.isInterFrame_framed, buffer.pictureSize_framed, each Packet.toStream_framed,
    Track.ofPackets_framed buffer.packets, fun σ writer =>
      ⟨buffer.exportTo_framed writer, buffer.exportTo_framed writer.logging⟩,
    fun σ sink format => buffer.save_framed format sink⟩
  intro p' inside unit' among
  obtain ⟨p, _, rfl⟩ := List.mem_map.mp inside
  obtain ⟨unit, _, rfl⟩ := List.mem_map.mp among
  exact unit.isFramed_framedUnit

end Footage
