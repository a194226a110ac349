import Footage.Export.File
import Footage.Proofs.LatestSets
import Footage.Proofs.TransportLossless

/-!
# What a decoder gets of a transport stream

A transport stream that was exported from raw NAL units holds one elementary packet for each packet
with a picture, from the first keyframe on. Here these are taken apart again, down to raw NAL units:
a delimiter, the latest parameter sets if it is a keyframe, and what the packet itself had.

* `elementaryUnits`: the reader. `elementaryUnits_append`: it finds the payloads that were written.
* `IsShown`: what it is to find for a packet. `forall₂_isShown`: it does so for each one in order.
* `PacketBuffer.exportFrom_eq_ok_iff`: what an export that succeeds has done.
  `saved_pictures`: what a decoder gets of it, from any sink that keeps what it takes.
-/

namespace Footage

open AnnexB TransportStream

/-! ## Reading an elementary packet -/

/-- The octets behind the header. Its ninth octet tells how many more it has. -/
def elementaryData (octets : Bytes) : Bytes :=
  octets.drop (9 + (octets[8]?.map (·.toNat)).getD 0)

/-- The raw payloads of the NAL units. -/
def elementaryUnits (octets : Bytes) : List Bytes := (split (elementaryData octets)).map unescape

theorem elementaryData_append (pts dts : Nat) (stream : Bytes) :
    elementaryData (pictureHeader pts dts ++ stream) = stream := by
  unfold elementaryData pictureHeader timeField
  split <;> rfl

/-- A zero at the end of a payload is not taken for one of the long start code behind it. -/
theorem split_byteStream (raws : List Bytes) :
    (split (byteStream (raws.map escape))).map unescape = nonempty raws := by
  have codes : ∀ u ∈ raws.map (StartCode.long, ·), u.1 ≠ .none := by simp
  have separable : (raws.map (StartCode.long, ·)).IsChain Separable := by
    refine (List.pairwise_of_forall_mem_list ?_).isChain
    intro u _ v among short
    obtain ⟨raw, _, rfl⟩ := List.mem_map.mp among
    cases short
  have whole : byteStream (raws.map escape) =
      joined ((raws.map (StartCode.long, ·)).map fun u => (u.1, escape u.2)) := by
    simp [byteStream, joined, List.flatMap_map, Function.comp_def]
  have bare : (raws.map (StartCode.long, ·)).map (·.2) = raws :=
    (List.map_map ..).trans (List.map_id' raws)
  rw [whole, split_joined_map_escape codes separable, bare, List.map_map]
  exact (List.map_congr_left fun raw _ => unescape_escape raw).trans (List.map_id' _)

theorem elementaryUnits_append (pts dts : Nat) (raws : List Bytes) :
    elementaryUnits (pictureHeader pts dts ++ byteStream (raws.map escape)) = nonempty raws := by
  rw [elementaryUnits, elementaryData_append, split_byteStream]

/-! ## What is shown -/

/-- Packets with all parameter sets that are known once each has come, the oldest first. -/
def heard (known : List Bytes) : List Packet → List (Packet × List Bytes)
  | [] => []
  | p :: rest =>
    let known := known ++ p.setBodies
    (p, known) :: heard known rest

/-- What a decoder is to get for a packet: a delimiter, then for a keyframe the latest parameter set
of each type that it needs, then what else the packet has. -/
def IsShown (p : Packet) (known units : List Bytes) : Prop :=
  ∃ front sets, typeOf? p.codec front = p.codec.delimiterType? ∧
    (if p.hasKeyframe then AreLatest p.codec p.codec.parameterSetTypes known sets else sets = []) ∧
    units = front :: (sets ++ p.otherBodies)

theorem typeOf?_delimiter {codec : Codec} (known : codec ≠ .unknown) :
    typeOf? codec (delimiter codec) = codec.delimiterType? := by
  cases codec with
  | unknown => exact absurd rfl known
  | h264 => rfl
  | h265 => rfl

theorem escape_delimiter (codec : Codec) : escape (delimiter codec) = delimiter codec := by
  cases codec <;> decide

namespace Packet

variable {p : Packet}

theorem codec_ne_unknown (picture : p.hasPicture = true) : p.codec ≠ .unknown := by
  intro unknown
  rw [hasPicture, hasRole, hasRole, unknown] at picture
  have other : ∀ unit : NalUnit, unit.role .unknown = .other := by
    intro unit
    unfold NalUnit.role
    split <;> rfl
  simp [other] at picture

theorem roleOf_of_mem_setBodies {body : Bytes} (among : body ∈ p.setBodies) :
    ∃ type ∈ p.codec.parameterSetTypes, typeOf? p.codec body = some type :=
  roleOf_eq_parameterSet_iff.mp (of_decide_eq_true (List.mem_filter.mp among).2)

theorem ne_nil_of_mem_otherBodies {body : Bytes} (among : body ∈ p.otherBodies) : body ≠ [] := by
  have inside := (List.mem_filter.mp among).1
  simpa using (List.mem_filter.mp inside).2

/-- The elementary packet of a raw packet is read as what it was made of. -/
theorem isShown_elementaryPacket (raw : p.IsRaw) (picture : p.hasPicture = true)
    {known sets : List Bytes} (latest : AreLatest p.codec p.codec.parameterSetTypes known sets)
    (base : Duration) (origin dts : Nat) :
    IsShown p known (elementaryUnits (Seen.elementaryPacket p.codec origin
      ⟨PacketBuffer.accessUnitOf base p, sets.map escape⟩ dts)) := by
  have stream : Seen.stream p.codec ⟨PacketBuffer.accessUnitOf base p, sets.map escape⟩ =
      byteStream ((delimiter p.codec ::
        ((if p.hasKeyframe then sets else []) ++ p.otherBodies)).map escape) := by
    unfold Seen.stream
    rw [showsKeyframe_accessUnitOf, content_accessUnitOf base raw, List.map_cons,
      escape_delimiter, List.map_append]
    split <;> rfl
  have full : ∀ body ∈ delimiter p.codec :: ((if p.hasKeyframe then sets else []) ++ p.otherBodies),
      body ≠ [] := by
    refine List.forall_mem_cons.mpr ⟨?_, List.forall_mem_append.mpr ⟨?_, ?_⟩⟩
    · cases p.codec <;> decide
    · split
      · exact latest.ne_nil
      · exact nofun
    · exact fun body => ne_nil_of_mem_otherBodies
  refine ⟨delimiter p.codec, if p.hasKeyframe then sets else [],
    typeOf?_delimiter (codec_ne_unknown picture), ?_, ?_⟩
  · split
    · exact latest
    · rfl
  · rw [Seen.elementaryPacket, stream, elementaryUnits_append]
    exact List.filter_eq_self.mpr fun body among => by simpa using full body among

end Packet

/-- From the latest sets on, each packet with a picture is read as what it is to show, with all sets
that have come by then, also in packets without picture. -/
theorem forall₂_isShown {codec : Codec} {packets : List Packet} {known sets : List Bytes}
    (oneCodec : ∀ p ∈ packets, p.codec = codec) (raw : ∀ p ∈ packets, p.IsRaw)
    (latest : AreLatest codec codec.parameterSetTypes known sets) (base : Duration)
    (last origin : Option Nat) :
    List.Forall₂ (fun shown octets => IsShown shown.1 shown.2 (elementaryUnits octets))
      ((heard known packets).filter (·.1.hasPicture))
      (elementaryPackets codec last origin
        ((seen codec (sets.map escape) (packets.map (PacketBuffer.accessUnitOf base))).filter
          fun s => showsPicture codec s.unit)) := by
  -- along the packets: the writer's sets stay the latest of those that have come
  induction packets generalizing known sets last origin with
  | nil => exact .nil
  | cons p rest ih =>
    obtain rfl := oneCodec p List.mem_cons_self
    have plain := raw p List.mem_cons_self
    have noted := latest.foldl_remember (nodup_parameterSetTypes p.codec)
      fun set => Packet.roleOf_of_mem_setBodies
    have later := ih (fun q behind => oneCodec q (List.mem_cons_of_mem p behind))
      (fun q behind => raw q (List.mem_cons_of_mem p behind)) noted
    rw [heard, List.map_cons, seen, Packet.setsIn_accessUnitOf base plain,
      foldl_remember_map_escape, List.filter_cons, List.filter_cons]
    simp only [Packet.showsPicture_accessUnitOf]
    split
    next picture =>
      rw [elementaryPackets_cons]
      exact .cons (Packet.isShown_elementaryPacket plain picture noted base _ _) (later _ _)
    next => exact later last origin

/-! ## A whole export -/

/-- The sets that an export starts with are the latest ones at its start. -/
theorem exists_setsAtStart {parameters : StreamParameters} {raws : List Bytes}
    (escaped : parameters.parameterSets = raws.map escape)
    (typed : List.Forall₂ (fun type raw => typeOf? parameters.codec raw = some type)
      parameters.codec.parameterSetTypes raws) :
    ∃ sets, setsAtStart parameters = sets.map escape ∧
      AreLatest parameters.codec parameters.codec.parameterSetTypes raws sets := by
  have full : ∀ raw ∈ raws, raw ≠ [] := by
    clear escaped
    generalize parameters.codec.parameterSetTypes = types at typed
    induction typed with
    | nil => exact nofun
    | cons one _ ih =>
      refine List.forall_mem_cons.mpr ⟨?_, ih⟩
      rintro rfl
      cases one
  have all : nonempty raws = raws :=
    List.filter_eq_self.mpr fun raw among => by simpa using full raw among
  have none : AreLatest parameters.codec [] [] [] := .nil
  refine ⟨_, ?_, none.foldl_fresh (nodup_parameterSetTypes parameters.codec) typed⟩
  rw [setsAtStart, escaped]
  show (nonempty (raws.map escape)).foldl _ _ = _
  rw [nonempty_map_escape, all]
  exact foldl_remember_map_escape raws []

/-- From a keyframe on every unit with a picture is due. -/
theorem dueUnits_of_keyframe {parameters : StreamParameters} {unit : AccessUnit}
    {rest : List AccessUnit} (keyframe : showsKeyframe parameters.codec unit = true) :
    dueUnits parameters (unit :: rest) =
      (seen parameters.codec (setsAtStart parameters) (unit :: rest)).filter
        fun s => showsPicture parameters.codec s.unit := by
  have picture : showsPicture parameters.codec unit = true := by
    obtain ⟨payload, inside, role⟩ := List.any_eq_true.mp keyframe
    exact List.any_eq_true.mpr ⟨payload, inside, by rw [of_decide_eq_true role]; rfl⟩
  rw [dueUnits, seen, due_cons, picture, keyframe, List.filter_cons, picture]
  rfl

/-- The access units of an export that starts at the packet at an index. Their times count from
it. -/
def PacketBuffer.exportUnits (buffer : PacketBuffer) (first : Nat) : List AccessUnit :=
  let packets := buffer.packets.drop first
  packets.map (accessUnitOf ((packets.head?.map (·.pts)).getD .zero))

/-- The units of an export start with a keyframe. -/
theorem PacketBuffer.exists_exportUnits {buffer : PacketBuffer} {first : Nat}
    (oneCodec : ∀ p ∈ buffer.packets, p.codec = buffer.codec)
    (found : buffer.firstKeyframe? = some first) :
    ∃ unit rest, buffer.exportUnits first = unit :: rest ∧
      showsKeyframe buffer.codec unit = true := by
  obtain ⟨inside, keyframe, -⟩ := List.findIdx?_eq_some_iff_getElem.mp found
  have starts := List.drop_eq_getElem_cons inside
  refine ⟨_, _, by rw [exportUnits, starts, List.map_cons], ?_⟩
  rw [← oneCodec _ (List.getElem_mem inside), Packet.showsKeyframe_accessUnitOf]
  exact keyframe

/-- An export succeeds just if it can start and all calls that it makes succeed. -/
theorem PacketBuffer.exportFrom_eq_ok_iff [H264.SizeReader] {σ τ : Type} {buffer : PacketBuffer}
    {writer : ContainerWriter (τ × σ)} {initial : τ} {out out' : σ} :
    buffer.exportFrom writer initial out = (.ok (), out') ↔
      ∃ first parameters s s' t, buffer.exportStart = .ok (first, parameters) ∧
        writer.start parameters (initial, out) = (.ok (), s) ∧
        forM (buffer.exportUnits first) writer.write s = (.ok (), s') ∧
        writer.finish s' = (.ok (), (t, out')) := by
  have calls : ∀ {first parameters}, buffer.exportStart = .ok (first, parameters) →
      buffer.exportTo writer = (writer.performAll
        (exportCalls parameters (buffer.exportUnits first))).rename WriterError.inExport :=
    fun start => exportTo_of_start start rfl (mapM_accessUnit _ _) writer
  constructor
  · intro saved
    rcases exported : buffer.exportTo writer (initial, out) with ⟨result, t, out₁⟩
    have same : buffer.exportFrom writer initial out = (result, out₁) := by
      unfold exportFrom
      rw [exported]
    rw [same] at saved
    cases saved
    cases start : buffer.exportStart with
    | error =>
      rw [exportTo, start] at exported
      cases exported
    | ok found =>
      obtain ⟨first, parameters⟩ := found
      rw [calls start] at exported
      obtain ⟨s, s', made⟩ :=
        ContainerWriter.performAll_exportCalls_iff.mp (Effect.of_rename_ok exported)
      exact ⟨first, parameters, s, s', t, rfl, made⟩
  · rintro ⟨first, parameters, s, s', t, start, made⟩
    have all := ContainerWriter.performAll_exportCalls_iff.mpr ⟨s, s', made⟩
    unfold exportFrom
    rw [calls start, Effect.rename_apply, all]
    rfl

/-- On a reliable sink an export that can start succeeds, if decode times can be counted. -/
theorem exists_saved [H264.SizeReader] {σ : Type} {sink : ByteSink σ} {held : σ → Bytes}
    (reliable : sink.IsReliable held) {buffer : PacketBuffer} {first : Nat}
    {parameters : StreamParameters} (start : buffer.exportStart = .ok (first, parameters))
    (known : parameters.codec ≠ .unknown)
    (counted : ∀ dts ∈ decodeTimes none ((dueUnits parameters
      (buffer.exportUnits first)).map Seen.time), FitsIn 64 dts) (out : σ) :
    ∃ out', buffer.saveTransportStream sink out = (.ok (), out') := by
  obtain ⟨s, s', begun, written⟩ := exists_stream reliable known _ counted out
  obtain ⟨s'', finished⟩ := Muxer.finish_reliable reliable s'
  exact ⟨s''.2, PacketBuffer.exportFrom_eq_ok_iff.mpr
    ⟨first, parameters, s, s', s''.1, start, begun, written, finished⟩⟩

/-- An export that succeeds starts at the first keyframe. Its octets are packets that a receiver
accepts, and of the video it gets an elementary packet for each packet with a picture from there on,
in order, and nothing else. Each is read as one delimiter, for a keyframe one parameter set of each
type that the codec needs, and all other NAL units of the packet that are not empty, in order. The
sets are the latest of those that the export started with and those that came since, also in packets
without picture. So decoding can start at every keyframe. -/
theorem saved_pictures [H264.SizeReader] {σ : Type} {sink : ByteSink σ} {held : σ → Bytes}
    (keeps : sink.KeepsAccepted held) {buffer : PacketBuffer}
    (oneCodec : ∀ p ∈ buffer.packets, p.codec = buffer.codec)
    (raw : ∀ p ∈ buffer.packets, p.IsRaw)
    {out out' : σ} (saved : buffer.saveTransportStream sink out = (.ok (), out')) :
    ∃ first parameters packets received pictures,
      buffer.exportStart = .ok (first, parameters) ∧ buffer.firstKeyframe? = some first ∧
      held out' = held out ++ packets.flatten ∧ Accepts packets received ∧
      demux received = ([], pictures) ∧
      List.Forall₂ (fun shown octets => IsShown shown.1 shown.2 (elementaryUnits octets))
        ((heard (parameters.parameterSets.map unescape) (buffer.packets.drop first)).filter
          (·.1.hasPicture)) pictures := by
  obtain ⟨first, parameters, s, s', m, start, begun, written, finished⟩ :=
    PacketBuffer.exportFrom_eq_ok_iff.mp saved
  obtain ⟨found, same, typed⟩ := PacketBuffer.exportStart_eq_ok oneCodec start
  obtain ⟨escaped, typed⟩ := PacketBuffer.rawSets_of_typed raw typed
  obtain ⟨packets, received, octets, accepted, units⟩ :=
    stream_accepted keeps begun written
  have ended := Muxer.finish_accepted keeps finished
  rw [← same] at typed
  obtain ⟨sets, known, latest⟩ := exists_setsAtStart escaped typed
  have within : ∀ p ∈ buffer.packets.drop first, p ∈ buffer.packets :=
    fun p => List.mem_of_mem_drop
  have allDue : dueUnits parameters (buffer.exportUnits first) =
      (seen parameters.codec (sets.map escape) (buffer.exportUnits first)).filter
        fun s => showsPicture parameters.codec s.unit := by
    obtain ⟨unit, rest, whole, keyframe⟩ := PacketBuffer.exists_exportUnits oneCodec found
    rw [← known, whole]
    exact dueUnits_of_keyframe (same ▸ keyframe)
  rw [allDue] at units
  refine ⟨first, parameters, packets, received, _, start, found, ?_, accepted, units, ?_⟩
  · rw [← octets]
    exact ended
  · exact forall₂_isShown (fun p later => (oneCodec p (within p later)).trans same.symm)
      (fun p later => raw p (within p later)) latest _ none none

def updatedSps : Bytes := [0x67, 0x64, 0x00, 0x28, 0xAC, 0xDA, 0x01, 0xE0, 0x08, 0x9F, 0x95]

/-- A picture that needs earlier ones, a keyframe with its parameter sets, a parameter set on its
own, one more picture, and a keyframe without parameter sets. -/
def updatedBuffer : PacketBuffer :=
  let packet (units : List Bytes) : Packet := .ofTransport .h264 units .zero .epoch false
  ⟨[packet [[0x41]], packet [updatedSps, [0x68], [0x65, 0, 0, 1]], packet [[0x68, 7]],
    packet [[0x41, 0]], packet [[0x65]]]⟩

theorem saved_pictures_updatedBuffer :
    (∀ p ∈ updatedBuffer.packets, p.codec = updatedBuffer.codec) ∧
    (∀ p ∈ updatedBuffer.packets, p.IsRaw) ∧
    ∃ out' packets received first second third front,
      updatedBuffer.saveTransportStream CommandLine.collector [] = (.ok (), out') ∧
      out'.reverse.flatten = packets.flatten ∧ Accepts packets received ∧
      demux received = ([], [first, second, third]) ∧
      elementaryUnits third = [front, updatedSps, [0x68, 7], [0x65]] := by
  have oneCodec : ∀ p ∈ updatedBuffer.packets, p.codec = updatedBuffer.codec := by decide
  have raw : ∀ p ∈ updatedBuffer.packets, p.IsRaw := by
    unfold Packet.IsRaw
    decide
  have start : updatedBuffer.exportStart =
      .ok (1, ⟨.h264, ⟨1920, 1080⟩, [updatedSps, [0x68]]⟩) := rfl
  have counted := @counted_of_small ⟨.h264, ⟨1920, 1080⟩, [updatedSps, [0x68]]⟩
    ((updatedBuffer.packets.drop 1).map (PacketBuffer.accessUnitOf .zero)) (by decide) (by decide)
  obtain ⟨out', saved⟩ := exists_saved CommandLine.collector_isReliable start (by decide)
    counted []
  obtain ⟨_, _, packets, received, pictures, start', -, octets, accepted, units, shown⟩ :=
    saved_pictures CommandLine.collector_isReliable.keepsAccepted oneCodec raw saved
  rw [start] at start'
  cases start'
  obtain _ | ⟨_, _ | ⟨_, _ | ⟨⟨front, sets, -, latest, same⟩, _ | _⟩⟩⟩ := shown
  have latest : AreLatest .h264 [7, 8]
    [updatedSps, [0x68], updatedSps, [0x68], [0x68, 7]] sets := latest
  obtain _ | ⟨sps, _ | ⟨pps, _ | _⟩⟩ := latest
  cases sps
  cases pps
  exact ⟨oneCodec, raw, out', packets, received, _, _, _, front, saved, octets, accepted, units,
    same⟩

end Footage
