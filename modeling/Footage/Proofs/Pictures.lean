import Footage.Packet.Buffer
import Footage.Proofs.Effects

/-!
# The pictures of a byte stream

NAL units are cut into pictures without loss (`flatten_pictures`), and `ofStream` makes one packet
of each, if no time leaves its range (`ofStream_eq`).
-/

namespace Footage.PacketBuffer

variable {codec : Codec}

theorem flatten_pictures (units : List NalUnit) : (pictures codec units).flatten = units := by
  induction units with
  | nil => rfl
  | cons unit rest ih =>
    rw [pictures]
    split
    · rw [List.flatten_cons, ih, List.singleton_append]
    · cases later : pictures codec rest with
      | nil =>
        rw [later] at ih
        rw [← ih]
        rfl
      | cons group groups =>
        rw [later, List.flatten_cons] at ih
        show unit :: (group ++ groups.flatten) = _
        rw [ih]

theorem length_pictures_le (units : List NalUnit) :
    (pictures codec units).length ≤ units.length := by
  induction units with
  | nil => exact Nat.le_refl 0
  | cons unit rest ih =>
    rw [pictures, List.length_cons]
    split
    · exact Nat.succ_le_succ ih
    · cases later : pictures codec rest with
      | nil => exact Nat.succ_le_succ (Nat.zero_le _)
      | cons group groups =>
        rw [later] at ih
        exact Nat.le_succ_of_le ih

/-- None of the times of the first `count` pictures leaves its range. -/
def TimesFit (interval : Duration) (start : WallTime) (count : Nat) : Prop :=
  ∀ index < count, ∃ pts wall,
    interval.times (index % wordLimit 32) = .ok pts ∧ start.plus pts = .ok wall

/-- The packet of the picture with a number, which is taken `interval` after the one before it. -/
def numberedPacket (codec : Codec) (interval : Duration) (start : WallTime)
    (units : List NalUnit) (number : Nat) : Packet :=
  let pts : Duration := ⟨interval.nanos * number⟩
  { receiveId := number, codec, units, pts, wall := ⟨start.nanos + pts.nanos⟩ }

theorem picturePacket_eq {interval : Duration} {start : WallTime} {index : Nat}
    (fits : ∃ pts wall, interval.times (index % wordLimit 32) = .ok pts ∧ start.plus pts = .ok wall)
    (units : List NalUnit) :
    picturePacket codec interval start index units =
      .ok (numberedPacket codec interval start units (index % wordLimit 32)) := by
  obtain ⟨pts, wall, span, moment⟩ := fits
  have told : pts = ⟨interval.nanos * (index % wordLimit 32)⟩ := by
    unfold Duration.times at span
    split at span
    · exact (Except.ok.inj span).symm
    · cases span
  have taken : wall = ⟨start.nanos + pts.nanos⟩ := by
    unfold WallTime.plus at moment
    split at moment
    · exact (Except.ok.inj moment).symm
    · cases moment
  show (interval.times _ >>= fun pts => start.plus pts >>= _) = _
  rw [span, ok_bind, moment, ok_bind, taken, told]
  rfl

/-- The packets of NAL units, one for each picture, with numbers of 32 bits. -/
def numberedPackets (codec : Codec) (interval : Duration) (start : WallTime)
    (units : List NalUnit) : List Packet :=
  (pictures codec units).zipIdx.map fun (group, index) =>
    numberedPacket codec interval start group (index % wordLimit 32)

theorem units_numberedPackets (interval : Duration) (start : WallTime) (units : List NalUnit) :
    (numberedPackets codec interval start units).map (·.units) = pictures codec units := by
  rw [numberedPackets, List.map_map]
  exact List.zipIdx_map_fst 0 _

theorem ofStream_eq {stream : Bytes} {interval : Duration} {start : WallTime}
    {units : List NalUnit} (cut : (AnnexB.split stream).map .ofAnnexB = units)
    (times : TimesFit interval start (pictures codec units).length) :
    ofStream codec stream interval start =
      .ok ⟨numberedPackets codec interval start units⟩ := by
  have each : ∀ picture ∈ (pictures codec units).zipIdx,
      picturePacket codec interval start picture.2 picture.1 =
        .ok (numberedPacket codec interval start picture.1 (picture.2 % wordLimit 32)) :=
    fun picture among =>
      picturePacket_eq (times picture.2 (List.snd_lt_of_mem_zipIdx among)) picture.1
  rw [ofStream, cut, mapM_ok each]
  rfl

theorem exists_ofStream {stream : Bytes} {interval : Duration} {start : WallTime}
    {units : List NalUnit} (cut : (AnnexB.split stream).map .ofAnnexB = units)
    (times : TimesFit interval start (pictures codec units).length) :
    ∃ buffer, ofStream codec stream interval start = .ok buffer ∧
      buffer.packets.map (·.units) = pictures codec units :=
  ⟨_, ofStream_eq cut times, units_numberedPackets interval start units⟩

end Footage.PacketBuffer
