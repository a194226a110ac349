import Footage.Proofs.Pictures
import Footage.Proofs.StreamSplit

/-!
# The packets of a byte stream

A byte stream says where NAL units begin, but not where pictures do. Its packets are found by what
the units carry: each ends with the one unit that has picture data. This file says that nothing of
the stream is lost in that, and that packets which are written out again come back the same.

* `ArePictures`: what the groups of units have to be. `arePictures_pictures`: they are that.
* `ArePictures.length_eq`: how many there are, told by the units alone.
* `pictures_partition`: both of these for the packets of a stream, with their numbers and times.
* `numbers_start_anew`: what the numbers are once there are too many packets for them.
-/

namespace Footage.PacketBuffer

variable {codec : Codec}

/-! ## Groups of units -/

def carriesPicture (codec : Codec) (unit : NalUnit) : Bool := (unit.role codec).isPicture

/-- Units that belong to a picture, and behind them the one that has its data. -/
def IsPicture (codec : Codec) (group : List NalUnit) : Prop :=
  ∃ others unit, group = others ++ [unit] ∧
    (∀ other ∈ others, carriesPicture codec other = false) ∧ carriesPicture codec unit = true

/-- Each group is a picture, but the last one may be other units only, which no picture follows. -/
inductive ArePictures (codec : Codec) : List (List NalUnit) → Prop
  | none : ArePictures codec []
  | others {group : List NalUnit} : group ≠ [] →
      (∀ other ∈ group, carriesPicture codec other = false) → ArePictures codec [group]
  | picture {group : List NalUnit} {groups : List (List NalUnit)} : IsPicture codec group →
      ArePictures codec groups → ArePictures codec (group :: groups)

theorem arePictures_pictures (units : List NalUnit) :
    ArePictures codec (pictures codec units) := by
  induction units with
  | nil => exact .none
  | cons unit rest ih =>
    rw [pictures]
    split
    next carries =>
      have none : ∀ other ∈ ([] : List NalUnit), carriesPicture codec other = false := by simp
      exact .picture ⟨[], unit, rfl, none, carries⟩ ih
    next other =>
      have first : carriesPicture codec unit = false := Bool.eq_false_iff.mpr other
      -- the unit is put in front of the first group of the rest, whatever that is
      generalize pictures codec rest = groups at ih
      cases ih with
      | none => exact .others (List.cons_ne_nil _ _) (by simpa using first)
      | others _ none =>
        exact .others (List.cons_ne_nil _ _) (List.forall_mem_cons.mpr ⟨first, none⟩)
      | picture isPicture later =>
        obtain ⟨others, last, rfl, none, carries⟩ := isPicture
        exact .picture ⟨unit :: others, last, rfl, List.forall_mem_cons.mpr ⟨first, none⟩, carries⟩
          later

/-- How many groups there are without picture data: one if the units end without. -/
def leftOver (codec : Codec) (units : List NalUnit) : Nat :=
  (units.getLast?.any fun unit => !carriesPicture codec unit).toNat

theorem countP_eq_zero {group : List NalUnit}
    (none : ∀ other ∈ group, carriesPicture codec other = false) :
    group.countP (carriesPicture codec) = 0 :=
  List.countP_eq_zero.mpr fun other among => Bool.eq_false_iff.mp (none other among)

theorem IsPicture.countP {group : List NalUnit} (h : IsPicture codec group) :
    group.countP (carriesPicture codec) = 1 := by
  obtain ⟨others, unit, rfl, none, carries⟩ := h
  rw [List.countP_append, countP_eq_zero none, List.countP_singleton, carries]
  rfl

/-- Behind a picture it is for the units that follow to leave something over. -/
theorem IsPicture.leftOver_append {group : List NalUnit} (h : IsPicture codec group)
    (rest : List NalUnit) : leftOver codec (group ++ rest) = leftOver codec rest := by
  obtain ⟨others, unit, rfl, -, carries⟩ := h
  unfold leftOver
  rw [List.getLast?_append, List.getLast?_concat]
  cases rest.getLast? with
  | none => simp [carries]
  | some last => rfl

/-- There are as many groups as units with picture data, and one more if the units end without. -/
theorem ArePictures.length_eq {groups : List (List NalUnit)} (h : ArePictures codec groups) :
    groups.length =
      groups.flatten.countP (carriesPicture codec) + leftOver codec groups.flatten := by
  induction h with
  | none => rfl
  | @others group some none =>
    have last := List.getLast?_eq_some_getLast some
    have other := none _ (List.getLast_mem some)
    rw [List.flatten_singleton, countP_eq_zero none, leftOver, last, Option.any_some, other]
    rfl
  | @picture group groups isPicture _ ih =>
    rw [List.flatten_cons, List.countP_append, isPicture.countP, isPicture.leftOver_append,
      List.length_cons, ih]
    omega

/-! ## Packets of a stream -/

/-- The packet has the number, and with it the times that go with it. -/
structure IsNumbered (codec : Codec) (interval : Duration) (start : WallTime) (number : Nat)
    (p : Packet) : Prop where
  receiveId : p.receiveId = number
  pts : p.pts.nanos = number * interval.nanos
  wall : p.wall.nanos = start.nanos + p.pts.nanos
  codec : p.codec = codec
  live : p.isBacklog = false

theorem isNumbered_of_getElem? {interval : Duration} {start : WallTime} {units : List NalUnit}
    {index : Nat} {p : Packet}
    (here : (numberedPackets codec interval start units)[index]? = some p) :
    IsNumbered codec interval start (index % wordLimit 32) p := by
  rw [numberedPackets, List.getElem?_map, List.getElem?_zipIdx, Option.map_map,
    Nat.zero_add] at here
  obtain ⟨group, -, rfl⟩ := Option.map_eq_some_iff.mp here
  exact ⟨rfl, Nat.mul_comm .., rfl, rfl, rfl⟩

/-- A packet that has the number with what does not fit cut off has it all if all of it fits. -/
theorem IsNumbered.iff_fitsIn {interval : Duration} {start : WallTime} {index : Nat} {p : Packet}
    (numbered : IsNumbered codec interval start (index % wordLimit 32) p) :
    IsNumbered codec interval start index p ↔ FitsIn 32 index := by
  constructor
  · intro whole
    have same : index % wordLimit 32 = index := by
      have ids := numbered.receiveId.symm.trans whole.receiveId
      exact_mod_cast ids
    rw [FitsIn, ← same]
    exact Nat.mod_lt index (by decide)
  · intro fits
    rwa [Nat.mod_eq_of_lt fits] at numbered

def unitsIn (stream : Bytes) : List NalUnit := (AnnexB.split stream).map .ofAnnexB

/-- NAL units one after another as they are, each behind a long start code. -/
def joinedUnits (units : List NalUnit) : Bytes :=
  units.flatMap fun unit => StartCode.long.bytes ++ unit.payload

theorem joinedUnits_ofAnnexB (pieces : List Bytes) :
    joinedUnits (pieces.map .ofAnnexB) = AnnexB.joined (pieces.map (StartCode.long, ·)) := by
  rw [joinedUnits, AnnexB.joined, List.flatMap_map, List.flatMap_map]
  rfl

theorem split_joinedUnits (stream : Bytes) :
    AnnexB.split (joinedUnits (unitsIn stream)) = AnnexB.split stream := by
  rw [unitsIn, joinedUnits_ofAnnexB, AnnexB.split_joined_split]

theorem ofStream_congr {stream stream' : Bytes} (same : AnnexB.split stream' = AnnexB.split stream)
    (interval : Duration) (start : WallTime) :
    ofStream codec stream' interval start = ofStream codec stream interval start := by
  unfold ofStream
  rw [same]

/-! ## Streams of keyframes -/

/-- One keyframe after another, each of a single octet behind a long start code. -/
def keyframes (count : Nat) : Bytes := joinedUnits ((List.replicate count [0x65]).map .ofAnnexB)

theorem unitsIn_keyframes (count : Nat) :
    unitsIn (keyframes count) = List.replicate count (.ofAnnexB [0x65]) := by
  have plain : ∀ piece ∈ List.replicate count ([0x65] : Bytes), AnnexB.HasNoCode piece := by
    intro piece among inside
    rw [(List.mem_replicate.mp among).2] at inside
    exact absurd inside.length_le (by decide)
  have full : AnnexB.nonempty (List.replicate count ([0x65] : Bytes)) =
      List.replicate count [0x65] := List.filter_replicate_of_pos rfl
  rw [unitsIn, keyframes, joinedUnits_ofAnnexB, AnnexB.split_joined_long plain, full,
    List.map_replicate]

theorem pictures_replicate {unit : NalUnit} (carries : carriesPicture codec unit = true)
    (count : Nat) : pictures codec (List.replicate count unit) = List.replicate count [unit] := by
  induction count with
  | zero => rfl
  | succ count ih =>
    have first : (unit.role codec).isPicture = true := carries
    rw [List.replicate_succ, pictures, if_pos first, ih, List.replicate_succ]

/-- Each keyframe becomes a packet. -/
theorem ofStream_keyframes {count : Nat} {interval : Duration} {start : WallTime}
    (times : TimesFit interval start count) :
    ∃ buffer, ofStream .h264 (keyframes count) interval start = .ok buffer ∧
      ∀ index < count, ∃ p, buffer.packets[index]? = some p ∧
        IsNumbered .h264 interval start (index % wordLimit 32) p := by
  have carries : carriesPicture .h264 (.ofAnnexB [0x65]) = true := by decide
  have groups := pictures_replicate carries count
  have fit : TimesFit interval start
      (pictures .h264 (List.replicate count (.ofAnnexB [0x65]))).length := by
    rwa [groups, List.length_replicate]
  refine ⟨_, ofStream_eq (unitsIn_keyframes count) fit, fun index below => ?_⟩
  have inside : index < (numberedPackets .h264 interval start
      (List.replicate count (.ofAnnexB [0x65]))).length := by
    rwa [numberedPackets, List.length_map, List.length_zipIdx, groups, List.length_replicate]
  have here := List.getElem?_eq_getElem inside
  exact ⟨_, here, isNumbered_of_getElem? here⟩

/-! ## The packets of any stream -/

/-- Whatever the octets of a stream are, if no time leaves its range it becomes packets that have
all its units, each of them once and in order. All packets but the last one are pictures, and the
last one is a picture or has only units that no picture follows; so there are as many packets as
units with picture data, and one more if the units end without. The packets are numbered from zero
on, which tells their times, but with numbers of 32 bits: they have the right ones as far as the
numbers reach, and no further. The units of the packets behind long start codes are a stream of the
same packets. -/
theorem pictures_partition {stream : Bytes} {interval : Duration} {start : WallTime}
    (times : TimesFit interval start (pictures codec (unitsIn stream)).length) :
    ∃ buffer, ofStream codec stream interval start = .ok buffer ∧
      buffer.packets.flatMap (·.units) = unitsIn stream ∧
      ArePictures codec (buffer.packets.map (·.units)) ∧
      buffer.length = (unitsIn stream).countP (carriesPicture codec) +
        leftOver codec (unitsIn stream) ∧
      (∀ (index : Nat) (p : Packet), buffer.packets[index]? = some p →
        IsNumbered codec interval start (index % wordLimit 32) p ∧
        (IsNumbered codec interval start index p ↔ FitsIn 32 index)) ∧
      ofStream codec (joinedUnits (buffer.packets.flatMap (·.units))) interval start =
        .ok buffer := by
  have made : ofStream codec stream interval start =
      .ok ⟨numberedPackets codec interval start (unitsIn stream)⟩ := ofStream_eq rfl times
  have units := @units_numberedPackets codec interval start (unitsIn stream)
  generalize whole : numberedPackets codec interval start (unitsIn stream) = packets at made units
  have flat : packets.flatMap (·.units) = unitsIn stream := by
    rw [List.flatMap_def, units, flatten_pictures]
  refine ⟨⟨packets⟩, made, flat, units ▸ arePictures_pictures _, ?_, fun index p here => ?_, ?_⟩
  · have count : packets.length = (pictures codec (unitsIn stream)).length := by
      rw [← units, List.length_map]
    show packets.length = _
    rw [count, (arePictures_pictures _).length_eq, flatten_pictures]
  · have numbered := isNumbered_of_getElem? (whole ▸ here)
    exact ⟨numbered, numbered.iff_fitsIn⟩
  · rw [flat, ofStream_congr (split_joinedUnits stream), made]

/-- An octet in front, a keyframe with its parameter sets, another picture, and a unit behind it
that ends in a zero. -/
def endingStream : Bytes :=
  [0xFF, 0, 0, 0, 1, 0x67, 1, 0, 0, 1, 0x68, 2, 0, 0, 1, 0x65, 3, 0, 0, 0, 1, 0x41, 4,
    0, 0, 1, 0x06, 5, 0]

theorem pictures_partition_endingStream :
    TimesFit (.ofMillis 40) .epoch (pictures .h264 (unitsIn endingStream)).length ∧
      ∃ buffer, ofStream .h264 endingStream (.ofMillis 40) .epoch = .ok buffer ∧
        buffer.packets.flatMap (·.units) =
          [[0x67, 1], [0x68, 2], [0x65, 3], [0x41, 4], [0x06, 5, 0]].map NalUnit.ofAnnexB ∧
        ArePictures .h264 (buffer.packets.map (·.units)) ∧ buffer.length = 2 + 1 ∧
        (∀ (index : Nat) (p : Packet), buffer.packets[index]? = some p →
          IsNumbered .h264 (.ofMillis 40) .epoch index p) ∧
        ofStream .h264 (joinedUnits (buffer.packets.flatMap (·.units))) (.ofMillis 40) .epoch =
          .ok buffer := by
  have times : TimesFit (.ofMillis 40) .epoch (pictures .h264 (unitsIn endingStream)).length := by
    have count : (pictures .h264 (unitsIn endingStream)).length = 3 := by decide
    rw [count]
    intro index below
    match index with
    | 0 | 1 | 2 => exact ⟨_, _, rfl, rfl⟩
  have units : unitsIn endingStream =
      [[0x67, 1], [0x68, 2], [0x65, 3], [0x41, 4], [0x06, 5, 0]].map NalUnit.ofAnnexB := by
    decide
  obtain ⟨buffer, made, flat, groups, count, numbered, again⟩ := pictures_partition times
  rw [units] at flat count
  have three : buffer.packets.length = 3 := count
  refine ⟨times, buffer, made, flat, groups, count, fun index p here => ?_, again⟩
  have below : index < buffer.packets.length := (List.getElem?_eq_some_iff.mp here).1
  exact (numbered index p here).2.mpr (Nat.lt_trans (three ▸ below) (by decide))

/-- Of 2 ^ 32 + 1 keyframes no time leaves its range, but the last one becomes a packet with the
number and the time of the first. -/
theorem numbers_start_anew :
    (∀ index ≤ wordLimit 32, ∃ pts wall, (Duration.ofMillis 40).times index = .ok pts ∧
      WallTime.epoch.plus pts = .ok wall) ∧
    ∃ buffer p, ofStream .h264 (keyframes (wordLimit 32 + 1)) (.ofMillis 40) .epoch = .ok buffer ∧
      buffer.packets[wordLimit 32]? = some p ∧ p.receiveId = 0 ∧ p.pts = .zero ∧
      p.wall = .epoch ∧ ¬IsNumbered .h264 (.ofMillis 40) .epoch (wordLimit 32) p := by
  have times : ∀ index ≤ wordLimit 32, ∃ pts wall, (Duration.ofMillis 40).times index = .ok pts ∧
      WallTime.epoch.plus pts = .ok wall := by
    intro index most
    have last : (Duration.ofMillis 40).nanos * wordLimit 32 < wordLimit 63 * nanosPerSecond := by
      decide
    have inMoment := Nat.lt_of_le_of_lt (Nat.mul_le_mul_left _ most) last
    have inSpan : (Duration.ofMillis 40).nanos * index < wordLimit 64 * nanosPerSecond :=
      Nat.lt_trans inMoment (by decide)
    exact ⟨_, _, if_pos inSpan, if_pos (by simpa [WallTime.epoch] using Int.ofNat_lt.mpr inMoment)⟩
  have positive : 0 < wordLimit 32 := by decide
  obtain ⟨buffer, made, each⟩ := ofStream_keyframes fun index _ =>
    times (index % wordLimit 32) (Nat.mod_lt index positive).le
  obtain ⟨p, here, numbered⟩ := each (wordLimit 32) (Nat.lt_succ_self _)
  refine ⟨times, buffer, p, made, here, ?_⟩
  have outside := numbered.iff_fitsIn.not.mpr (Nat.lt_irrefl _)
  rw [Nat.mod_self] at numbered
  have pts : p.pts.nanos = 0 := numbered.pts.trans (Nat.zero_mul _)
  have wall : p.wall.nanos = 0 := by
    rw [numbered.wall, pts]
    rfl
  exact ⟨numbered.receiveId, congrArg Duration.mk pts, congrArg WallTime.mk wall, outside⟩


end Footage.PacketBuffer
