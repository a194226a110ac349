import Footage.CommandLine.Run
import Footage.Proofs.DumpRoundTrip
import Footage.Proofs.Framing
import Footage.Proofs.Pictures

/-!
# A stream that was dumped is joined again

A byte stream is cut into packets, the packets are dumped, the dump is read and its packets are
joined to a byte stream. NAL units change their form at each of these steps: they are escaped in a
stream and raw in a dump. `join_dump_lossless` says that the new stream has the pictures of the
old one, and the payloads that it was made of.

Payloads must be plain for that (`IsPlain`), since the framing cannot tell apart what is not.
-/

namespace Footage

open AnnexB

/-- A raw payload that framing does not change. Empty payloads would be dropped, a zero at the end
would be taken for one of the next start code, and a start code in front would be taken off. -/
structure IsPlain (raw : Bytes) : Prop where
  nonempty : raw ≠ []
  ends : raw.getLast? ≠ some 0
  begins : ∀ code, code ≠ .none → ¬StartCode.bytes code <+: raw

theorem IsPlain.detect_eq_none {raw : Bytes} (plain : IsPlain raw) :
    StartCode.detect raw = .none := by
  by_contra real
  exact plain.begins _ real ⟨StartCode.strip raw, bytes_append_strip raw⟩

/-! ## Each step on plain payloads -/

/-- Plain payloads behind any start codes are found again. -/
theorem split_joined_escape {units : List (StartCode × Bytes)} (codes : ∀ u ∈ units, u.1 ≠ .none)
    (plain : ∀ u ∈ units, IsPlain u.2) :
    split (joined (units.map fun u => (u.1, escape u.2))) = units.map fun u => escape u.2 := by
  have separable : units.IsChain Separable := by
    refine (List.pairwise_of_forall_mem_list ?_).isChain
    intro u among v _ _
    exact (plain u among).ends
  have kept : nonempty (units.map (·.2)) = units.map (·.2) := by
    refine List.filter_eq_self.mpr fun raw among => ?_
    obtain ⟨u, one, rfl⟩ := List.mem_map.mp among
    simpa using (plain u one).nonempty
  rw [split_joined_map_escape codes separable, kept, List.map_map]
  rfl

theorem exists_encoded (units : List (StartCode × Bytes)) :
    ∃ encoded, units.mapM (fun u => encode u.2 u.1 true) = .ok encoded ∧
      encoded.flatten = joined (units.map fun u => (u.1, escape u.2)) := by
  refine ⟨units.map fun u => encodedForm u.2 u.1 true, ?_, ?_⟩
  · exact mapM_ok fun u _ => encode_eq u.2 u.1 true
  · simp [joined, encodedForm, List.flatMap_def, Function.comp_def]

/-- Joining packets never fails. -/
theorem joinedStream_eq (escaping : Bool) (packets : List Packet) :
    CommandLine.joinedStream escaping packets =
      ((packets.flatMap (·.units)).flatMap (·.framedForm escaping), .ok ()) := by
  induction packets with
  | nil => rfl
  | cons p rest ih =>
    rw [CommandLine.joinedStream, p.toStream_eq, ih, List.flatMap_cons, List.flatMap_append]

/-- Packets that a dump loses have no NAL unit to lose. -/
theorem units_reloadedFrom (codec : Codec) (first : Nat) (packets : List Packet) :
    ((reloadedFrom codec first packets).map (·.2)).flatMap (·.units) =
      (packets.flatMap (·.units)).map (·.toRaw) := by
  induction packets generalizing first with
  | nil => rfl
  | cons p rest ih =>
    have later := ih (first + 1)
    unfold reloadedFrom at later ⊢
    rw [List.zipIdx_cons, List.flatMap_cons, List.map_append, ← later]
    cases units : p.units <;> simp [units, Packet.reloaded]

theorem fitsMemory_of_pictures {buffer : PacketBuffer} {codec : Codec} {units : List NalUnit}
    (few : FitsIn 63 units.length)
    (groups : buffer.packets.map (·.units) = PacketBuffer.pictures codec units) :
    buffer.FitsMemory := by
  constructor
  · have count := congrArg List.length groups
    rw [List.length_map] at count
    exact count ▸ Nat.lt_of_le_of_lt (PacketBuffer.length_pictures_le units) few
  · intro p one
    have group : p.units ∈ PacketBuffer.pictures codec units :=
      groups ▸ List.mem_map_of_mem one
    refine Nat.lt_of_le_of_lt ?_ few
    have part := (List.sublist_flatten_of_mem group).length_le
    rwa [PacketBuffer.flatten_pictures] at part

/-! ## The pipeline -/

/-- Payloads as NAL units of a byte stream. -/
def streamUnits (raws : List Bytes) : List NalUnit := raws.map fun raw => .ofAnnexB (escape raw)

theorem toRaw_streamUnits (raws : List Bytes) :
    (streamUnits raws).map (·.toRaw) = raws.map .ofRaw := by
  unfold streamUnits
  rw [List.map_map]
  exact List.map_congr_left fun raw _ => NalUnit.toRaw_escape raw

/-- Packets of plain payloads are joined to a stream in which these are found again. -/
theorem split_joinedStream {packets : List Packet} {raws : List Bytes}
    (plain : ∀ raw ∈ raws, IsPlain raw) (units : packets.flatMap (·.units) = raws.map .ofRaw) :
    ∃ joined, CommandLine.joinedStream true packets = (joined, .ok ()) ∧
      (split joined).map .ofAnnexB = streamUnits raws := by
  have stream : (raws.map NalUnit.ofRaw).flatMap (·.framedForm true) =
      joined ((raws.map (StartCode.short, ·)).map fun u => (u.1, escape u.2)) := by
    rw [List.map_map, joined, List.flatMap_map, List.flatMap_map]
    exact List.flatMap_congr fun raw among =>
      NalUnit.framedForm_ofRaw (plain raw among).detect_eq_none
  refine ⟨_, joinedStream_eq true packets, ?_⟩
  rw [units, stream, split_joined_escape]
  · rw [List.map_map, List.map_map]
    rfl
  · simp
  · simpa using plain

/-- A stream of plain payloads, as many as memory can hold, is cut into packets, dumped into any
directory, read from any listing of it, joined, and cut again. Nothing of this fails as long as no
time leaves its range, the pictures are those that they were at first, and the payloads are the
ones that went in. -/
theorem join_dump_lossless {codec : Codec} {units : List (StartCode × Bytes)}
    (codes : ∀ u ∈ units, u.1 ≠ .none) (plain : ∀ u ∈ units, IsPlain u.2)
    (few : FitsIn 63 units.length) {interval interval' : Duration} {start start' : WallTime}
    (times : PacketBuffer.TimesFit interval start
      (PacketBuffer.pictures codec (streamUnits (units.map (·.2)))).length)
    (times' : PacketBuffer.TimesFit interval' start'
      (PacketBuffer.pictures codec (streamUnits (units.map (·.2)))).length)
    {dir : Directory} {listed : List String} (isMap : (dir.map (·.1)).Nodup)
    (all : listed.Perm (dir.map (·.1))) :
    ∃ encoded first count after loaded joined second,
      units.mapM (fun u => encode u.2 u.1 true) = .ok encoded ∧
      PacketBuffer.ofStream codec encoded.flatten interval start = .ok first ∧
      first.dumpInto Directory.allInReach listed dir = (.ok count, after) ∧
      (∀ path listing, listing.Perm (after.map fun (name, content) => (name, .ok content)) →
        PacketBuffer.ofDump path codec listing = .ok loaded) ∧
      CommandLine.joinedStream ({} : PacketSettings).escaping loaded.packets =
        (joined, .ok ()) ∧
      PacketBuffer.ofStream codec joined interval' start' = .ok second ∧
      second.packets.map (·.units) = first.packets.map (·.units) ∧
      (second.packets.flatMap (·.units)).map (·.toRaw.payload) = units.map (·.2) := by
  have plainRaws : ∀ raw ∈ units.map (·.2), IsPlain raw := List.forall_mem_map.mpr plain
  obtain ⟨encoded, made, whole⟩ := exists_encoded units
  have cut : (split encoded.flatten).map .ofAnnexB = streamUnits (units.map (·.2)) := by
    rw [whole, split_joined_escape codes plain, streamUnits, List.map_map, List.map_map]
    rfl
  obtain ⟨first, parsed, groups⟩ := PacketBuffer.exists_ofStream cut times
  have dumped := dumpInto_eq first all isMap
  have fits : first.FitsMemory := by
    refine fitsMemory_of_pictures ?_ groups
    simpa [streamUnits] using few
  have flat : first.packets.flatMap (·.units) = streamUnits (units.map (·.2)) := by
    rw [List.flatMap_def, groups, PacketBuffer.flatten_pictures]
  have loaded : (first.reloaded codec).packets.flatMap (·.units) =
      (units.map (·.2)).map .ofRaw := by
    rw [PacketBuffer.reloaded, units_reloadedFrom, flat, toRaw_streamUnits]
  obtain ⟨joined, whole', cut'⟩ := split_joinedStream plainRaws loaded
  obtain ⟨second, parsed', groups'⟩ := PacketBuffer.exists_ofStream cut' times'
  refine ⟨encoded, first, _, _, first.reloaded codec, joined, second, made, parsed, dumped,
    fun path listing any => ofDump_replaced fits any, whole', parsed',
    groups'.trans groups.symm, ?_⟩
  rw [List.flatMap_def, groups', PacketBuffer.flatten_pictures]
  have raw := congrArg (List.map (·.payload)) (toRaw_streamUnits (units.map (·.2)))
  simpa [NalUnit.ofRaw, Function.comp_def] using raw

/-- Parameter sets and two pictures, with octets that have to be escaped. -/
def cameraUnits : List (StartCode × Bytes) :=
  [(.long, [0x67, 0, 0, 1]), (.short, [0x68, 1]), (.long, [0x65, 0, 0, 0, 2]), (.short, [0x41, 3])]

theorem join_dump_lossless_cameraUnits :
    (∀ u ∈ cameraUnits, u.1 ≠ .none) ∧ (∀ u ∈ cameraUnits, IsPlain u.2) ∧
    PacketBuffer.TimesFit (.ofMillis 40) .epoch
      (PacketBuffer.pictures .h264 (streamUnits (cameraUnits.map (·.2)))).length ∧
    ∃ encoded first after loaded joined second,
      cameraUnits.mapM (fun u => encode u.2 u.1 true) = .ok encoded ∧
      PacketBuffer.ofStream .h264 encoded.flatten (.ofMillis 40) .epoch = .ok first ∧
      (first.dumpInto Directory.allInReach [] []).2 = after ∧
      (∀ path listing, listing.Perm (after.map fun (name, content) => (name, .ok content)) →
        PacketBuffer.ofDump path .h264 listing = .ok loaded) ∧
      CommandLine.joinedStream true loaded.packets = (joined, .ok ()) ∧
      PacketBuffer.ofStream .h264 joined (.ofMillis 40) .epoch = .ok second ∧
      second.packets.map (·.units) = first.packets.map (·.units) ∧
      (second.packets.flatMap (·.units)).map (·.toRaw.payload) =
        [[0x67, 0, 0, 1], [0x68, 1], [0x65, 0, 0, 0, 2], [0x41, 3]] := by
  have codes : ∀ u ∈ cameraUnits, u.1 ≠ .none := by decide
  have plain : ∀ u ∈ cameraUnits, IsPlain u.2 := by
    have nonempty : ∀ u ∈ cameraUnits, u.2 ≠ [] := by decide
    have ends : ∀ u ∈ cameraUnits, u.2.getLast? ≠ some 0 := by decide
    have short : ∀ u ∈ cameraUnits, ¬StartCode.short.bytes <+: u.2 := by decide
    have long : ∀ u ∈ cameraUnits, ¬StartCode.long.bytes <+: u.2 := by decide
    intro u among
    refine ⟨nonempty u among, ends u among, fun code real => ?_⟩
    cases code with
    | none => exact absurd rfl real
    | short => exact short u among
    | long => exact long u among
  have count : (PacketBuffer.pictures .h264 (streamUnits (cameraUnits.map (·.2)))).length = 2 := by
    decide
  have times : PacketBuffer.TimesFit (.ofMillis 40) .epoch
      (PacketBuffer.pictures .h264 (streamUnits (cameraUnits.map (·.2)))).length := by
    rw [count]
    intro index below
    match index with
    | 0 => exact ⟨_, _, rfl, rfl⟩
    | 1 => exact ⟨_, _, rfl, rfl⟩
  have isMap : (([] : Directory).map (·.1)).Nodup := List.nodup_nil
  obtain ⟨encoded, first, _, after, loaded, joined, second, made, parsed, dumped, read, whole,
    parsed', groups, raws⟩ :=
    join_dump_lossless codes plain (by decide) times times isMap (List.Perm.refl [])
  exact ⟨codes, plain, times, encoded, first, after, loaded, joined, second, made, parsed,
    congrArg Prod.snd dumped, read, whole, parsed', groups, raws⟩

end Footage
