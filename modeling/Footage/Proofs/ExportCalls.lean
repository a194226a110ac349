import Footage.Proofs.StreamForm
import Footage.Proofs.WriterCalls

/-!
# The calls of an export

An export looks for all that it needs before it calls its writer, which may fail in every call. This
file says which calls are made, for any buffer and any writer.

* `PacketBuffer.IsUnready`: why an export does not start. `ExportsFrom`: where it starts, and what
  it then has for the writer. `exportStart_outcome`: an export does one or the other.
* `exportTo_calls`: both together.
-/

namespace Footage

open AnnexB

/-! ## What an export looks for -/

def Packet.IsFirstOfType (p : Packet) (type : UInt8) (unit : NalUnit) : Prop :=
  ∃ before after, p.units = before ++ unit :: after ∧ unit.type p.codec = type ∧
    ∀ earlier ∈ before, earlier.type p.codec ≠ type

theorem Packet.firstOfType?_eq_some_iff {p : Packet} {type : UInt8} {unit : NalUnit} :
    p.firstOfType? type = some unit ↔ p.IsFirstOfType type unit := by
  unfold firstOfType? IsFirstOfType
  rw [List.find?_eq_some_iff_append]
  constructor
  · rintro ⟨typed, before, after, whole, others⟩
    exact ⟨before, after, whole, of_decide_eq_true typed, fun earlier held =>
      by simpa using others earlier held⟩
  · rintro ⟨before, after, whole, typed, others⟩
    exact ⟨decide_eq_true typed, before, after, whole, fun earlier held =>
      by simpa using others earlier held⟩

theorem Packet.firstOfType?_eq_none_iff {p : Packet} {type : UInt8} :
    p.firstOfType? type = none ↔ p.hasType type = false := by
  unfold firstOfType? hasType
  rw [List.find?_eq_none, List.any_eq_false]

/-- The NAL unit of the type that is in force at the end of `head`: the first one in the last packet
that has any. -/
def IsInForce (head : List Packet) (type : UInt8) (unit : NalUnit) : Prop :=
  ∃ front p back, head = front ++ p :: back ∧ p.IsFirstOfType type unit ∧
    ∀ later ∈ back, later.hasType type = false

namespace PacketBuffer

variable {head : List Packet} {type : UInt8}

theorem latestOfType?_eq_some_iff {unit : NalUnit} :
    latestOfType? head type = some unit ↔ IsInForce head type unit := by
  unfold latestOfType? IsInForce
  rw [List.findSome?_eq_some_iff]
  constructor
  · rintro ⟨back, p, front, whole, first, others⟩
    refine ⟨front.reverse, p, back.reverse, ?_, Packet.firstOfType?_eq_some_iff.mp first,
      fun later held => ?_⟩
    · rw [← List.reverse_reverse head, whole]
      simp
    · exact Packet.firstOfType?_eq_none_iff.mp (others later (List.mem_reverse.mp held))
  · rintro ⟨front, p, back, rfl, first, others⟩
    refine ⟨back.reverse, p, front.reverse, by simp, Packet.firstOfType?_eq_some_iff.mpr first,
      fun later held => ?_⟩
    exact Packet.firstOfType?_eq_none_iff.mpr (others later (List.mem_reverse.mp held))

theorem latestOfType?_eq_none_iff :
    latestOfType? head type = none ↔ ∀ p ∈ head, p.hasType type = false := by
  unfold latestOfType?
  simp only [List.findSome?_eq_none_iff, List.mem_reverse, Packet.firstOfType?_eq_none_iff]

end PacketBuffer

/-- `set` is the NAL unit as a parameter set for the writer: escaped, and without start code. -/
structure NalUnit.IsBareForm (unit : NalUnit) (set : Bytes) : Prop where
  octets : set = if unit.isAnnexB then unit.body else escape unit.body
  codeless : StartCode.detect set = .none

theorem detect_of_head? {octets : Bytes} (start : octets.head? ≠ some 0) :
    StartCode.detect octets = .none := by
  unfold StartCode.detect
  split
  · exact absurd rfl start
  · exact absurd rfl start
  · rfl

/-- What has the type of a parameter set begins with a header that is not zero. -/
theorem NalUnit.head?_body_of_type {unit : NalUnit} {codec codec' : Codec} {type : UInt8}
    (needed : type ∈ codec.parameterSetTypes) (typed : unit.type codec' = type) :
    unit.body.head? ≠ some 0 := by
  intro zero
  obtain ⟨rest, whole⟩ := List.head?_eq_some_iff.mp zero
  have zeroType : codec'.typeOf 0 = 0 := by cases codec' <;> rfl
  have same : unit.type codec' = codec'.typeOf 0 := by unfold NalUnit.type; rw [whole]
  rw [← typed, same, zeroType] at needed
  cases codec <;> exact absurd needed (by decide)

theorem NalUnit.body_framedUnit_eq (unit : NalUnit) :
    unit.framedUnit.body = if unit.isAnnexB then unit.body else escape unit.body := by
  rw [body_framedUnit, escapedBody]
  cases unit.isAnnexB <;> rfl

theorem NalUnit.IsBareForm.eq_body {unit : NalUnit} {set : Bytes} (h : unit.IsBareForm set) :
    set = unit.framedUnit.body :=
  h.octets.trans unit.body_framedUnit_eq.symm

theorem NalUnit.isBareForm_framedUnit {unit : NalUnit} {codec codec' : Codec} {type : UInt8}
    (needed : type ∈ codec.parameterSetTypes) (typed : unit.type codec' = type) :
    unit.IsBareForm unit.framedUnit.body where
  octets := unit.body_framedUnit_eq
  codeless := by
    refine detect_of_head? ?_
    rw [head?_body_framedUnit]
    exact head?_body_of_type needed typed

/-! ## Where an export starts -/

/-- The parameter set of the type is there, and tells the picture size if it is the one to do so. -/
def IsReady [H264.SizeReader] (codec : Codec) (head : List Packet) (type : UInt8) : Prop :=
  ∃ unit, IsInForce head type unit ∧
    (codec.spsType? = some type → ∃ size, codec.pictureSize unit.toRaw.payload = .ok size)

/-- What can be wrong with the parameter set of the type. -/
inductive SetFault [H264.SizeReader] (codec : Codec) (head : List Packet) (type : UInt8) :
    PacketError → Prop
  | missing : (∀ p ∈ head, p.hasType type = false) →
      SetFault codec head type (.missingEssentialMetadata
        s!"{codec.label} NAL unit type {type} not found before the first keyframe")
  | unreadable {sps : NalUnit} {cause : BitstreamError} : codec.spsType? = some type →
      IsInForce head type sps → codec.pictureSize sps.toRaw.payload = .error cause →
      SetFault codec head type (.bitstream cause)

/-- The octets of a parameter set of the type for the writer. -/
def IsStartingSet (head : List Packet) (type : UInt8) (set : Bytes) : Prop :=
  ∃ unit, IsInForce head type unit ∧ unit.IsBareForm set

/-- The picture size that the sequence parameter set in force tells. -/
def IsSizeInForce [H264.SizeReader] (codec : Codec) (head : List Packet) (size : Dimensions) :
    Prop :=
  ∃ type sps, codec.spsType? = some type ∧ IsInForce head type sps ∧
    codec.pictureSize sps.toRaw.payload = .ok size

namespace PacketBuffer

def IsFirstKeyframe (buffer : PacketBuffer) (first : Nat) (p : Packet) : Prop :=
  buffer.packets[first]? = some p ∧ p.hasKeyframe = true ∧
    ∀ earlier ∈ buffer.packets.take first, earlier.hasKeyframe = false

/-- Why an export does not start. Parameter sets are looked at in the order in which a decoder needs
them, and the first fault counts. -/
inductive IsUnready [H264.SizeReader] (buffer : PacketBuffer) : PacketError → Prop
  | empty : buffer.codec = .unknown → IsUnready buffer .empty
  | noKeyframe : buffer.codec ≠ .unknown → (∀ p ∈ buffer.packets, p.hasKeyframe = false) →
      IsUnready buffer .noKeyframe
  | set {first : Nat} {p : Packet} {before after : List UInt8} {type : UInt8}
      {error : PacketError} :
      buffer.IsFirstKeyframe first p →
      buffer.codec.parameterSetTypes = before ++ type :: after →
      (∀ earlier ∈ before, IsReady buffer.codec (buffer.packets.take (first + 1)) earlier) →
      SetFault buffer.codec (buffer.packets.take (first + 1)) type error → IsUnready buffer error

end PacketBuffer

/-- What a writer gets for a packet in an export whose times count from `base`. A time before that
counts as zero. -/
structure Packet.IsHandedOn (p : Packet) (base : Duration) (unit : AccessUnit) : Prop where
  pts : unit.pts.nanos = p.pts.nanos - base.nanos
  units : List.Forall₂ (fun nal framed => nal.toAnnexB = .ok framed ∧ framed.isFramed = true)
    p.units unit.units
  isKeyframe : unit.isKeyframe = p.hasKeyframe

namespace PacketBuffer

/-- An export starts at the first keyframe, with the parameter sets in force there, and hands on
every packet from there on. -/
structure ExportsFrom [H264.SizeReader] (buffer : PacketBuffer) (first : Nat)
    (parameters : StreamParameters)
    (units : List AccessUnit) : Prop where
  codec : parameters.codec = buffer.codec
  sets : List.Forall₂ (IsStartingSet (buffer.packets.take (first + 1)))
    buffer.codec.parameterSetTypes parameters.parameterSets
  size : IsSizeInForce buffer.codec (buffer.packets.take (first + 1)) parameters.size
  packets : ∃ p, buffer.IsFirstKeyframe first p ∧
    List.Forall₂ (fun q unit => q.IsHandedOn p.pts unit) (buffer.packets.drop first) units
  fromZero : units.head?.map (·.pts) = some .zero

theorem isHandedOn_accessUnitOf (base : Duration) (p : Packet) :
    p.IsHandedOn base (accessUnitOf base p) where
  pts := rfl
  units := by
    unfold accessUnitOf
    rw [List.forall₂_map_right_iff, List.forall₂_same]
    exact fun unit _ => ⟨unit.toAnnexB_eq, unit.isFramed_framedUnit⟩
  isKeyframe := rfl

theorem firstKeyframe?_eq_some_iff {buffer : PacketBuffer} {first : Nat} :
    buffer.firstKeyframe? = some first ↔ ∃ p, buffer.IsFirstKeyframe first p := by
  unfold firstKeyframe? firstWithRole?
  rw [List.findIdx?_eq_some_iff_getElem]
  constructor
  · rintro ⟨inside, keyframe, earlier⟩
    refine ⟨buffer.packets[first], List.getElem?_eq_getElem inside, keyframe, fun p before => ?_⟩
    obtain ⟨index, lower, rfl⟩ := List.mem_take_iff_getElem.mp before
    exact Bool.eq_false_iff.mpr (earlier index (Nat.lt_of_lt_of_le lower (Nat.min_le_left ..)))
  · rintro ⟨p, here, keyframe, others⟩
    obtain ⟨inside, rfl⟩ := List.getElem?_eq_some_iff.mp here
    refine ⟨inside, keyframe, fun index lower => ?_⟩
    have among : buffer.packets[index] ∈ buffer.packets.take first :=
      List.mem_take_iff_getElem.mpr ⟨index, Nat.lt_min.mpr ⟨lower, Nat.lt_trans lower inside⟩, rfl⟩
    exact Bool.eq_false_iff.mp (others _ among)

/-- The picture size of a parameter set, if it is of the type that tells it. -/
def sizeOf? [H264.SizeReader] (codec : Codec) (type : UInt8) (unit : NalUnit) :
    Except PacketError (Option Dimensions) :=
  if codec.spsType? = some type then
    some <$> (codec.pictureSize unit.toRaw.payload).mapError .bitstream
  else .ok none

theorem sizeOf?_cases [H264.SizeReader] (codec : Codec) (type : UInt8) (unit : NalUnit) :
    (∃ size?, sizeOf? codec type unit = .ok size? ∧
      (codec.spsType? = some type → size?.isSome) ∧
      ∀ size, size? = some size → codec.spsType? = some type ∧
        codec.pictureSize unit.toRaw.payload = .ok size) ∨
    ∃ cause, codec.spsType? = some type ∧ codec.pictureSize unit.toRaw.payload = .error cause ∧
      sizeOf? codec type unit = .error (.bitstream cause) := by
  unfold sizeOf?
  split
  · next isSps =>
    cases codec.pictureSize unit.toRaw.payload with
    | ok size =>
      refine .inl ⟨some size, rfl, fun _ => rfl, ?_⟩
      rintro _ ⟨⟩
      exact ⟨isSps, rfl⟩
    | error cause => exact .inr ⟨cause, isSps, rfl, rfl⟩
  · next other => exact .inl ⟨none, rfl, fun same => absurd same other, nofun⟩

theorem requiredSets_cons [H264.SizeReader] {codec : Codec} {head : List Packet} {type : UInt8}
    {rest : List UInt8}
    {unit framed : NalUnit} (found : latestOfType? head type = some unit)
    (inStream : unit.toAnnexB = .ok framed) :
    requiredSets codec head (type :: rest) = (do
      let size? ← sizeOf? codec type unit
      let (laterSize?, sets) ← requiredSets codec head rest
      return (laterSize? <|> size?, framed.body :: sets)) := by
  have here : requiredSet codec head type = .ok unit := by simp only [requiredSet, found]
  rw [requiredSets, here, ok_bind, inStream, sizeOf?]
  split <;> rfl

/-- A parameter set is in force and collected, or it has a fault and nothing else is looked at. -/
theorem requiredSets_cons_outcome [H264.SizeReader] {codec : Codec} (head : List Packet)
    {type : UInt8}
    (needed : type ∈ codec.parameterSetTypes) :
    (∃ unit size?, IsInForce head type unit ∧ unit.IsBareForm unit.framedUnit.body ∧
      (codec.spsType? = some type → size?.isSome) ∧
      (∀ size, size? = some size → codec.spsType? = some type ∧
        codec.pictureSize unit.toRaw.payload = .ok size) ∧
      ∀ rest, requiredSets codec head (type :: rest) = (do
        let (laterSize?, sets) ← requiredSets codec head rest
        return (laterSize? <|> size?, unit.framedUnit.body :: sets))) ∨
    ∃ error, SetFault codec head type error ∧
      ∀ rest, requiredSets codec head (type :: rest) = .error error := by
  cases found : latestOfType? head type with
  | none =>
    refine .inr ⟨_, .missing (latestOfType?_eq_none_iff.mp found), fun rest => ?_⟩
    simp only [requiredSets, requiredSet, found]
    rfl
  | some unit =>
    have inForce := latestOfType?_eq_some_iff.mp found
    rcases sizeOf?_cases codec type unit with
      ⟨size?, read, sized, told⟩ | ⟨cause, isSps, refused, failed⟩
    · obtain ⟨_, p, _, _, ⟨_, _, _, typed, _⟩, _⟩ := id inForce
      refine .inl ⟨unit, size?, inForce, NalUnit.isBareForm_framedUnit needed typed, sized, told,
        fun rest => ?_⟩
      rw [requiredSets_cons found unit.toAnnexB_eq, read, ok_bind]
    · refine .inr ⟨_, .unreadable isSps inForce refused, fun rest => ?_⟩
      rw [requiredSets_cons found unit.toAnnexB_eq, failed]
      rfl

/-- Collecting the parameter sets ends with all of them, or with the fault of the first one that has
any. -/
theorem requiredSets_outcome [H264.SizeReader] {codec : Codec} (head : List Packet)
    {types : List UInt8}
    (needed : ∀ type ∈ types, type ∈ codec.parameterSetTypes) :
    (∃ size? sets, requiredSets codec head types = .ok (size?, sets) ∧
      List.Forall₂ (IsStartingSet head) types sets ∧
      (∀ size, size? = some size → IsSizeInForce codec head size) ∧
      ∀ type ∈ types, codec.spsType? = some type → size?.isSome) ∨
    ∃ before type after error, types = before ++ type :: after ∧
      (∀ earlier ∈ before, IsReady codec head earlier) ∧ SetFault codec head type error ∧
      requiredSets codec head types = .error error := by
  induction types with
  | nil => exact .inl ⟨none, [], rfl, .nil, nofun, nofun⟩
  | cons type rest ih =>
    rcases requiredSets_cons_outcome head (needed type List.mem_cons_self) with
      ⟨unit, size?, inForce, bare, sized, told, goes⟩ | ⟨error, fault, stops⟩
    · rcases ih fun other later => needed other (List.mem_cons_of_mem _ later) with
        ⟨laterSize?, sets, ok, starting, inForceLater, sizedLater⟩ |
        ⟨before, other, after, error, parts, ready, fault, failed⟩
      · refine .inl ⟨laterSize? <|> size?, unit.framedUnit.body :: sets, by rw [goes, ok]; rfl,
          .cons ⟨unit, inForce, bare⟩ starting, ?_, ?_⟩
        · intro size same
          cases laterSize? with
          | some later => exact inForceLater size same
          | none =>
            obtain ⟨isSps, whole⟩ := told size same
            exact ⟨type, unit, isSps, inForce, whole⟩
        · intro other held isSps
          cases laterSize? with
          | some size => rfl
          | none =>
            rcases List.mem_cons.mp held with rfl | later
            · exact sized isSps
            · cases sizedLater other later isSps
      · refine .inr ⟨type :: before, other, after, error, by rw [parts]; rfl,
          List.forall_mem_cons.mpr ⟨⟨unit, inForce, fun isSps => ?_⟩, ready⟩, fault,
          by rw [goes, failed]; rfl⟩
        obtain ⟨size, same⟩ := Option.isSome_iff_exists.mp (sized isSps)
        exact ⟨size, (told size same).2⟩
    · exact .inr ⟨[], type, rest, error, rfl, nofun, fault, stops rest⟩

/-- A codec whose sequence parameter set tells the picture size needs that set. -/
theorem mem_parameterSetTypes {codec : Codec} {type : UInt8} (isSps : codec.spsType? = some type) :
    type ∈ codec.parameterSetTypes := by
  cases codec with
  | unknown => cases isSps
  | h264 | h265 =>
    cases isSps
    decide

/-- An export is not ready, or it starts at the first keyframe. -/
theorem exportStart_outcome [H264.SizeReader] (buffer : PacketBuffer) :
    (∃ error, buffer.IsUnready error ∧ buffer.exportStart = .error error) ∨
    ∃ first parameters, buffer.exportStart = .ok (first, parameters) ∧
      (∃ p, buffer.IsFirstKeyframe first p) ∧ parameters.codec = buffer.codec ∧
      List.Forall₂ (IsStartingSet (buffer.packets.take (first + 1)))
        buffer.codec.parameterSetTypes parameters.parameterSets ∧
      IsSizeInForce buffer.codec (buffer.packets.take (first + 1)) parameters.size := by
  cases isSps : buffer.codec.spsType? with
  | none =>
    refine .inl ⟨.empty, .empty ?_, by simp only [exportStart, isSps]; rfl⟩
    cases codec : buffer.codec with
    | unknown => rfl
    | h264 | h265 =>
      rw [codec] at isSps
      cases isSps
  | some type =>
    have known : buffer.codec ≠ .unknown := by
      intro unknown
      rw [unknown] at isSps
      cases isSps
    cases found : buffer.firstKeyframe? with
    | none =>
      refine .inl ⟨.noKeyframe, .noKeyframe known fun p held => ?_, ?_⟩
      · exact List.findIdx?_eq_none_iff.mp found p held
      · simp only [exportStart, isSps, found]
        rfl
    | some first =>
      obtain ⟨p, keyframe⟩ := firstKeyframe?_eq_some_iff.mp found
      rcases requiredSets_outcome (buffer.packets.take (first + 1))
          (fun _ => id : ∀ type ∈ buffer.codec.parameterSetTypes, type ∈ _) with
        ⟨size?, sets, ok, starting, inForce, sized⟩ |
        ⟨before, other, after, error, parts, ready, fault, failed⟩
      · obtain ⟨size, rfl⟩ :=
          Option.isSome_iff_exists.mp (sized type (mem_parameterSetTypes isSps) isSps)
        refine .inr ⟨first, ⟨buffer.codec, size, sets⟩, ?_, ⟨p, keyframe⟩, rfl, starting,
          inForce size rfl⟩
        simp only [exportStart, isSps, found, ok]
        rfl
      · refine .inl ⟨error, .set keyframe parts ready fault, ?_⟩
        simp only [exportStart, isSps, found, failed]
        rfl

/-- An export that starts makes the calls of its packets. -/
theorem exportTo_outcome [H264.SizeReader] (buffer : PacketBuffer) :
    (∃ error, buffer.IsUnready error ∧ ∀ (σ : Type) (writer : ContainerWriter σ) s,
      buffer.exportTo writer s = (.error error, s)) ∨
    ∃ first parameters units, buffer.ExportsFrom first parameters units ∧
      ∀ (σ : Type) (writer : ContainerWriter σ), buffer.exportTo writer =
        (writer.performAll (exportCalls parameters units)).rename WriterError.inExport := by
  rcases buffer.exportStart_outcome with
    ⟨error, unready, failed⟩ | ⟨first, parameters, start, ⟨p, keyframe⟩, codec, sets, size⟩
  · refine .inl ⟨error, unready, fun σ writer s => ?_⟩
    rw [exportTo, failed]
    rfl
  · have begins : buffer.packets.drop first = p :: buffer.packets.drop (first + 1) := by
      obtain ⟨inside, rfl⟩ := List.getElem?_eq_some_iff.mp keyframe.1
      exact List.drop_eq_getElem_cons inside
    have origin : ((buffer.packets.drop first).head?.map (·.pts)).getD .zero = p.pts := by
      rw [begins]
      rfl
    refine .inr ⟨first, parameters, (buffer.packets.drop first).map (accessUnitOf p.pts),
      ⟨codec, sets, size, ⟨p, keyframe, ?_⟩, ?_⟩, fun σ writer =>
        exportTo_of_start start origin (mapM_accessUnit _ _) writer⟩
    · rw [List.forall₂_map_right_iff, List.forall₂_same]
      exact fun q _ => isHandedOn_accessUnitOf p.pts q
    · rw [begins]
      simp [accessUnitOf, Duration.minus, Duration.zero]

end PacketBuffer

end Footage
