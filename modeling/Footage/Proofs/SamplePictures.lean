import Footage.Proofs.Mp4File
import Footage.Proofs.WrittenSets

/-!
# The pictures of both formats

A transport stream leaves out access units without picture. An MP4 file leaves out only those of
which nothing belongs into a sample. So of one buffer the file gets every picture that the stream
gets, with the same NAL units, but also samples that hold no picture.

* `Collector.forM_write_accepted`: the samples of units that were taken one after another.
* `HoldsSamples`, `HoldsPicture`: what is in a file and in a stream.
* `shown_eq_filter_stored`: the pictures of the stream are the samples with a picture.
  `stored_without_picture`: there are others.
-/

namespace Footage

namespace Mp4

def holdsSome (unit : AccessUnit) : Bool := !(content unit).isEmpty

theorem holdsSome_of_any {unit : AccessUnit} {pick : Bytes → Bool}
    (found : (content unit).any pick = true) : holdsSome unit = true := by
  unfold holdsSome
  cases inside : content unit with
  | nil => simp [inside] at found
  | cons => rfl

namespace Collector

variable {σ : Type} {sink : ByteSink σ} {held : σ → Bytes} {c : Collector} {out : σ}
  {s' : Collector × σ}

theorem exists_collect_of_write {unit : AccessUnit}
    (done : (writer sink).write unit (c, out) = (.ok (), s')) :
    ∃ c', (c.note unit).collect unit = .ok c' := by
  have taken : write unit (c, out) = (.ok (), s') := Effect.of_rename_ok done
  cases collected : (c.note unit).collect unit with
  | ok c' => exact ⟨c', rfl⟩
  | error fault =>
    simp only [write, Effect.bind_apply, Effect.modify_apply, Effect.get_apply, Effect.lift_apply,
      collected] at taken
    cases taken

/-- From the first keyframe on a unit of which something belongs into a sample becomes one. -/
theorem write_accepted {unit : AccessUnit}
    (begins : c.samples.isEmpty = false ∨ showsKeyframe unit = true)
    (done : (writer sink).write unit (c, out) = (.ok (), s')) :
    s'.1.samples = c.samples ++ ([unit].filter holdsSome).map sampleOf ∧ s'.2 = out ∧
      ∀ other ∈ [unit].filter holdsSome, isStorable other = true := by
  have begun : (!c.samples.isEmpty || showsKeyframe unit) = true := by simpa using begins
  have state : s' = (c.taking unit, out) := by rw [← @write_snd σ sink, done]
  subst state
  rw [samples_taking, begun, Bool.and_true]
  cases inside : holdsSome unit with
  | false =>
    have none : isStorable unit = false := by rw [isStorable, ← holdsSome, inside, Bool.false_and]
    simp [inside, none]
  | true =>
    have fits : FitsIn 32 (LengthPrefix.join (content unit)).length := by
      obtain ⟨c', collected⟩ := exists_collect_of_write done
      have notEmpty : (content unit).isEmpty = false := by simpa [holdsSome] using inside
      have notEarly : (c.samples.isEmpty && !showsKeyframe unit) = false := by
        rw [← Bool.not_eq_true', ← begun]
        simp
      rw [collect_note, notEmpty, notEarly, Bool.or_false, if_neg Bool.false_ne_true] at collected
      by_contra large
      rw [if_neg large] at collected
      cases collected
    have storable : isStorable unit = true := by
      rw [isStorable, ← holdsSome, inside, Bool.true_and, decide_eq_true fits]
    simp [inside, storable]

/-- So it is for units that are taken one after another, the first of them a keyframe. -/
theorem forM_write_accepted {units : List AccessUnit}
    (begins : c.samples.isEmpty = false ∨
      ∃ unit rest, units = unit :: rest ∧ showsKeyframe unit = true)
    (done : forM units (writer sink).write (c, out) = (.ok (), s')) :
    s'.1.samples = c.samples ++ (units.filter holdsSome).map sampleOf ∧ s'.2 = out ∧
      ∀ unit ∈ units.filter holdsSome, isStorable unit = true := by
  induction units generalizing c out with
  | nil =>
    cases done
    exact ⟨(List.append_nil _).symm, rfl, nofun⟩
  | cons unit rest ih =>
    rw [List.forM_cons] at done
    obtain ⟨_, ⟨c', out'⟩, first, others⟩ := Effect.of_bind_ok done
    have now : c.samples.isEmpty = false ∨ showsKeyframe unit = true := by
      obtain started | ⟨_, _, ⟨⟩, keyframe⟩ := begins
      · exact .inl started
      · exact .inr keyframe
    obtain ⟨samples, same, storable⟩ := write_accepted now first
    have started : c'.samples.isEmpty = false := by
      rw [samples]
      obtain started | keyframe := now
      · simpa using fun none => absurd none (by simpa using started)
      · simp [holdsSome_of_any keyframe]
    obtain ⟨later, out, all⟩ := ih (.inl started) others
    have split : (unit :: rest).filter holdsSome =
        [unit].filter holdsSome ++ rest.filter holdsSome := by
      rw [← List.filter_append, List.singleton_append]
    refine ⟨?_, out.trans same, ?_⟩
    · rw [later, samples, split, List.map_append, List.append_assoc]
    · rw [split]
      exact List.forall_mem_append.mpr ⟨storable, all⟩

end Collector

/-- A file with the given access units as samples. If the size of the movie box has room in its
field, a reader gets them back. -/
structure HoldsSamples (file : Bytes) (units : List AccessUnit) (data : Bytes) (movie : Movie) :
    Prop where
  parts : file = fileHead data.length ++ data ++ movie.box.encode
  samples : movie.samples = units.map sampleOf
  whole : data = (movie.samples.map (·.data)).flatten
  nals : (movie.samples.map (·.data)).mapM LengthPrefix.split = some (units.map content)
  givesBack : FitsIn 32 movie.box.encode.length →
    GivesBack file units data movie.box.found movie.table (movie.samples.map (·.data))

namespace Collector

variable {σ : Type} {sink : ByteSink σ} {held : σ → Bytes}

/-- The file of a writer that has taken access units, the first of them a keyframe. -/
theorem file_accepted (keeps : sink.KeepsAccepted held) {parameters : StreamParameters} {out : σ}
    {s s' s'' : Collector × σ}
    (begun : (writer sink).start parameters ({}, out) = (.ok (), s)) {unit : AccessUnit}
    {rest : List AccessUnit} (keyframe : showsKeyframe unit = true)
    (done : forM (unit :: rest) (writer sink).write s = (.ok (), s'))
    (finished : (writer sink).finish s' = (.ok (), s'')) :
    ∃ file data movie, held s''.2 = held out ++ file ∧
      HoldsSamples file ((unit :: rest).filter holdsSome) data movie := by
  obtain ⟨c, out₁⟩ := s
  obtain ⟨c', out₂⟩ := s'
  obtain ⟨noSamples, rfl⟩ := start_samples begun
  obtain ⟨samples, rfl, storable⟩ := forM_write_accepted (.inr ⟨unit, rest, rfl, keyframe⟩) done
  rw [show c.samples = [] from noSamples, List.nil_append] at samples
  obtain ⟨head, data, movie, made, written⟩ := finish_accepted keeps finished
  obtain ⟨-, dataIs, dataFits, rfl, m, same, offset, rfl⟩ := parts_eq_ok made
  rw [samples] at same
  rw [samples, ← same] at dataIs
  refine ⟨_, data, m, written, ?_⟩
  constructor
  case parts => rfl
  case samples => exact same
  case whole => exact dataIs
  case nals =>
    rw [same, List.map_map]
    exact mapM_split storable
  case givesBack =>
    intro movieFits
    have starts : ((unit :: rest).filter holdsSome).head? = some unit := by
      rw [List.filter_cons_of_pos (holdsSome_of_any keyframe)]
      rfl
    exact givesBack_file storable starts keyframe same dataIs offset dataFits movieFits

end Collector

end Mp4

namespace TransportStream

/-- Both formats sort NAL units alike. -/
theorem content_h264 (unit : AccessUnit) : content .h264 unit = Mp4.content unit := rfl

theorem mem_of_mem_remember {codec : Codec} {set payload : Bytes} {sets : List Bytes}
    (inside : payload ∈ remember codec set sets) : payload = set ∨ payload ∈ sets := by
  induction sets with
  | nil => exact .inl (List.mem_singleton.mp inside)
  | cons earlier rest ih =>
    rw [remember] at inside
    split at inside
    · obtain rfl | later := List.mem_cons.mp inside
      · exact .inl rfl
      · exact .inr (List.mem_cons_of_mem _ later)
    · obtain rfl | later := List.mem_cons.mp inside
      · exact .inr List.mem_cons_self
      · exact (ih later).imp_right (List.mem_cons_of_mem _)

theorem forall_mem_foldl_remember (codec : Codec) {kind : Bytes → Prop} {sets later : List Bytes}
    (known : ∀ set ∈ sets, kind set) (new : ∀ set ∈ later, kind set) :
    ∀ set ∈ later.foldl (fun sets set => remember codec set sets) sets, kind set := by
  induction later generalizing sets with
  | nil => exact known
  | cons first later ih =>
    refine ih (fun set inside => ?_) fun set behind => new set (List.mem_cons_of_mem _ behind)
    obtain rfl | earlier := mem_of_mem_remember inside
    · exact new set List.mem_cons_self
    · exact known set earlier

/-- Nothing but parameter sets is noted. -/
theorem sets_of_mem_seen {codec : Codec} {known : List Bytes} {units : List AccessUnit}
    (areSets : ∀ set ∈ known, roleOf codec set = .parameterSet) :
    ∀ s ∈ seen codec known units, ∀ set ∈ s.sets, roleOf codec set = .parameterSet := by
  induction units generalizing known with
  | nil => exact nofun
  | cons unit rest ih =>
    have new : ∀ set ∈ setsIn codec unit, roleOf codec set = .parameterSet :=
      fun set inside => of_decide_eq_true (List.mem_filter.mp inside).2
    have noted := forall_mem_foldl_remember codec areSets new
    exact List.forall_mem_cons.mpr ⟨noted, ih noted⟩

/-- The elementary packet holds the NAL units of the access unit, and in front of them a delimiter
and parameter sets. -/
def HoldsPicture (unit : AccessUnit) (picture : Bytes) : Prop :=
  ∃ sets, (∀ set ∈ sets, roleOf .h264 set = .parameterSet) ∧
    elementaryData picture = byteStream (delimiter .h264 :: (sets ++ Mp4.content unit))

/-- The pictures of a stream that starts with a keyframe. -/
theorem forall₂_holdsPicture {parameters : StreamParameters} (isH264 : parameters.codec = .h264)
    (areSets : ∀ set ∈ parameters.parameterSets, roleOf .h264 set = .parameterSet)
    {unit : AccessUnit} {rest : List AccessUnit} (keyframe : showsKeyframe .h264 unit = true) :
    List.Forall₂ HoldsPicture ((unit :: rest).filter (showsPicture .h264))
      (elementaryPackets parameters.codec none none (dueUnits parameters (unit :: rest))) := by
  have shown : (unit :: rest).filter (showsPicture .h264) =
      (dueUnits parameters (unit :: rest)).map Seen.unit := by
    rw [dueUnits_of_keyframe (isH264 ▸ keyframe), isH264]
    conv_lhs => rw [← map_unit_seen .h264 (setsAtStart parameters) (unit :: rest)]
    exact List.filter_map
  have start : ∀ set ∈ setsAtStart parameters, roleOf .h264 set = .parameterSet :=
    forall_mem_foldl_remember _ nofun fun set inside => areSets set (List.mem_filter.mp inside).1
  have written := map_elementaryData parameters.codec (dueUnits parameters (unit :: rest))
  rw [← List.forall₂_eq_eq_eq, List.map_map, List.forall₂_map_left_iff,
    List.forall₂_map_right_iff] at written
  have noted : ∀ s ∈ dueUnits parameters (unit :: rest), ∀ set ∈ s.sets,
      roleOf .h264 set = .parameterSet := by
    rw [dueUnits_of_keyframe (isH264 ▸ keyframe), isH264]
    exact fun s due => sets_of_mem_seen start s (List.mem_filter.mp due).1
  rw [shown, List.forall₂_map_left_iff]
  refine ((List.forall₂_and_left _ _).mpr ⟨noted, written.flip⟩).imp ?_
  rintro s picture ⟨areSets, same⟩
  refine ⟨if showsKeyframe .h264 s.unit then s.sets else [], ?_, ?_⟩
  · split
    · exact areSets
    · exact nofun
  · rw [same, isH264, Function.comp_apply, Seen.written, content_h264, List.cons_append]

end TransportStream

/-! ## One buffer in both formats -/

open TransportStream

theorem forall_mem_of_forall₂ {α β : Type} {p : β → Prop} {front : List α} {back : List β}
    (all : List.Forall₂ (fun _ b => p b) front back) : ∀ b ∈ back, p b := by
  induction all with
  | nil => exact nofun
  | cons one _ ih => exact List.forall_mem_cons.mpr ⟨one, ih⟩

/-- What an export of H.264 packets starts with: a keyframe, and parameter sets. -/
theorem PacketBuffer.exportStart_h264 [H264.SizeReader] {buffer : PacketBuffer} {first : Nat}
    {parameters : StreamParameters} (oneCodec : ∀ p ∈ buffer.packets, p.codec = .h264)
    (start : buffer.exportStart = .ok (first, parameters)) :
    parameters.codec = .h264 ∧
      (∀ set ∈ parameters.parameterSets, roleOf .h264 set = .parameterSet) ∧
      ∃ unit rest, buffer.exportUnits first = unit :: rest ∧
        showsKeyframe .h264 unit = true := by
  have codec : ∀ p ∈ buffer.packets, buffer.codec = .h264 := by
    intro p inside
    obtain ⟨head, rest, packets⟩ := List.exists_cons_of_ne_nil (List.ne_nil_of_mem inside)
    rw [PacketBuffer.codec, packets]
    exact oneCodec head (packets ▸ List.mem_cons_self)
  have same : ∀ p ∈ buffer.packets, p.codec = buffer.codec :=
    fun p inside => (oneCodec p inside).trans (codec p inside).symm
  obtain ⟨found, ofBuffer, typed⟩ := PacketBuffer.exportStart_eq_ok same start
  obtain ⟨within, -, -⟩ := List.findIdx?_eq_some_iff_getElem.mp found
  have isH264 := codec _ (List.getElem_mem within)
  have starts := PacketBuffer.exists_exportUnits same found
  rw [isH264] at ofBuffer typed starts
  have needed := (List.forall₂_and_left (p := (· ∈ Codec.h264.parameterSetTypes)) _ _).mpr
    ⟨fun _ => id, typed⟩
  refine ⟨ofBuffer, forall_mem_of_forall₂ (needed.imp ?_), starts⟩
  rintro type set ⟨among, one, -⟩
  exact roleOf_eq_parameterSet_iff.mpr ⟨type, among, one⟩

section

variable {σ τ : Type} {stream : ByteSink σ} {inStream : σ → Bytes} {file : ByteSink τ}
  {inFile : τ → Bytes} {buffer : PacketBuffer} {first : Nat} {parameters : StreamParameters}

/-- A transport stream of H.264 packets holds the units with a picture. -/
theorem saved_shown [H264.SizeReader] (keeps : stream.KeepsAccepted inStream)
    (oneCodec : ∀ p ∈ buffer.packets, p.codec = .h264)
    (start : buffer.exportStart = .ok (first, parameters)) {out out' : σ}
    (saved : buffer.saveTransportStream stream out = (.ok (), out')) :
    ∃ packets received pictures, inStream out' = inStream out ++ packets.flatten ∧
      Accepts packets received ∧ demux received = ([], pictures) ∧
      List.Forall₂ HoldsPicture ((buffer.exportUnits first).filter (showsPicture .h264))
        pictures := by
  obtain ⟨first, parameters, s, s', m, same, begun, written, finished⟩ :=
    PacketBuffer.exportFrom_eq_ok_iff.mp saved
  rw [start] at same
  cases same
  obtain ⟨isH264, areSets, unit, rest, units, keyframe⟩ :=
    PacketBuffer.exportStart_h264 oneCodec start
  obtain ⟨packets, received, octets, accepted, pictures⟩ := stream_accepted keeps begun written
  have ended := Muxer.finish_accepted keeps finished
  refine ⟨packets, received, _, ended.trans octets, accepted, pictures, ?_⟩
  rw [units]
  exact forall₂_holdsPicture isH264 areSets keyframe

/-- An MP4 file of H.264 packets holds the units of which something belongs into a sample. -/
theorem saved_stored [H264.SizeReader] (keeps : file.KeepsAccepted inFile)
    (oneCodec : ∀ p ∈ buffer.packets, p.codec = .h264)
    (start : buffer.exportStart = .ok (first, parameters)) {out out' : τ}
    (saved : buffer.saveMp4 file out = (.ok (), out')) :
    ∃ octets data movie, inFile out' = inFile out ++ octets ∧
      Mp4.HoldsSamples octets ((buffer.exportUnits first).filter Mp4.holdsSome) data movie := by
  unfold PacketBuffer.saveMp4 at saved
  split at saved
  · cases saved
  obtain ⟨first, parameters, s, s', m, same, begun, written, finished⟩ :=
    PacketBuffer.exportFrom_eq_ok_iff.mp saved
  rw [start] at same
  cases same
  obtain ⟨-, -, unit, rest, units, keyframe⟩ := PacketBuffer.exportStart_h264 oneCodec start
  rw [units] at written ⊢
  exact Mp4.Collector.file_accepted keeps begun keyframe written finished

/-- Of H.264 packets that both exports have taken, the transport stream holds the units with a
picture and the MP4 file those of which something belongs into a sample, from the first keyframe on.
Beside a delimiter and parameter sets the NAL units are the same. So the pictures of the stream are
those samples that hold a picture, and there are as many samples as pictures just if each sample
holds one. -/
theorem shown_eq_filter_stored [H264.SizeReader] (keepsStream : stream.KeepsAccepted inStream)
    (keepsFile : file.KeepsAccepted inFile) (oneCodec : ∀ p ∈ buffer.packets, p.codec = .h264)
    {out out' : σ} (streamed : buffer.saveTransportStream stream out = (.ok (), out'))
    {back back' : τ} (filed : buffer.saveMp4 file back = (.ok (), back')) :
    ∃ first parameters packets received pictures octets data movie,
      buffer.exportStart = .ok (first, parameters) ∧
      inStream out' = inStream out ++ packets.flatten ∧ Accepts packets received ∧
      demux received = ([], pictures) ∧ inFile back' = inFile back ++ octets ∧
      let shown := (buffer.exportUnits first).filter (showsPicture .h264)
      let stored := (buffer.exportUnits first).filter Mp4.holdsSome
      List.Forall₂ HoldsPicture shown pictures ∧ Mp4.HoldsSamples octets stored data movie ∧
      shown = stored.filter (showsPicture .h264) ∧
      (pictures.length = movie.samples.length ↔
        ∀ unit ∈ stored, showsPicture .h264 unit = true) := by
  obtain ⟨first, parameters, -, -, -, start, -⟩ := PacketBuffer.exportFrom_eq_ok_iff.mp streamed
  obtain ⟨packets, received, pictures, streamOctets, accepted, demuxed, holdsPictures⟩ :=
    saved_shown keepsStream oneCodec start streamed
  obtain ⟨octets, data, movie, fileOctets, holdsSamples⟩ :=
    saved_stored keepsFile oneCodec start filed
  have among : (buffer.exportUnits first).filter (showsPicture .h264) =
      ((buffer.exportUnits first).filter Mp4.holdsSome).filter (showsPicture .h264) := by
    rw [List.filter_filter]
    refine List.filter_congr fun unit _ => ?_
    cases picture : showsPicture .h264 unit with
    | false => rfl
    | true => exact (Mp4.holdsSome_of_any picture).symm
  refine ⟨first, parameters, packets, received, pictures, octets, data, movie, start, streamOctets,
    accepted, demuxed, fileOctets, holdsPictures, holdsSamples, among, ?_⟩
  rw [← holdsPictures.length_eq, holdsSamples.samples, List.length_map, among]
  exact List.length_filter_eq_length_iff

theorem shown_eq_filter_stored_updatedBuffer :
    CommandLine.collector.KeepsAccepted (fun newestFirst => newestFirst.reverse.flatten) ∧
    (∀ p ∈ updatedBuffer.packets, p.codec = .h264) ∧
    ∃ out' back' packets received pictures octets units data movie,
      updatedBuffer.saveTransportStream CommandLine.collector [] = (.ok (), out') ∧
      updatedBuffer.saveMp4 CommandLine.collector [] = (.ok (), back') ∧
      out'.reverse.flatten = packets.flatten ∧ Accepts packets received ∧
      demux received = ([], pictures) ∧ back'.reverse.flatten = octets ∧
      Mp4.HoldsSamples octets units data movie ∧
      units.map Mp4.content = [[[0x65, 0, 0, 3, 1]], [[0x41, 0]], [[0x65]]] ∧
      pictures.length = movie.samples.length := by
  have keeps := CommandLine.collector_isReliable.keepsAccepted
  have oneCodec : ∀ p ∈ updatedBuffer.packets, p.codec = .h264 := by decide
  have start : updatedBuffer.exportStart =
      .ok (1, ⟨.h264, ⟨1920, 1080⟩, [updatedSps, [0x68]]⟩) := rfl
  obtain ⟨out', streamed⟩ := exists_saved CommandLine.collector_isReliable start (by decide)
    (counted_of_small (by decide) (by decide)) []
  obtain ⟨back', filed⟩ :
      ∃ back', updatedBuffer.saveMp4 CommandLine.collector [] = (.ok (), back') := ⟨_, rfl⟩
  obtain ⟨_, _, packets, received, pictures, octets, data, movie, start', streamOctets, accepted,
    demuxed, fileOctets, -, holdsSamples, -, alike⟩ :=
    shown_eq_filter_stored keeps keeps oneCodec streamed filed
  rw [start] at start'
  cases start'
  exact ⟨keeps, oneCodec, out', back', packets, received, pictures, octets, _, data, movie,
    streamed, filed, streamOctets, accepted, demuxed, fileOctets, holdsSamples, by decide,
    alike.mpr (by decide)⟩

/-- A keyframe, then a packet with nothing but supplemental information, then one more picture. -/
def annotatedBuffer : PacketBuffer :=
  let packet (millis : Nat) (units : List Bytes) : Packet :=
    .ofTransport .h264 units (.ofMillis millis) .epoch false
  ⟨[packet 0 [updatedSps, [0x68], [0x65, 1]], packet 40 [[0x06, 5]], packet 80 [[0x41, 2]]]⟩

/-- A sample need not hold a picture, and then the stream has fewer pictures than the file has
samples. -/
theorem stored_without_picture :
    ∃ out' back' packets received pictures octets units data movie,
      annotatedBuffer.saveTransportStream CommandLine.collector [] = (.ok (), out') ∧
      annotatedBuffer.saveMp4 CommandLine.collector [] = (.ok (), back') ∧
      out'.reverse.flatten = packets.flatten ∧ Accepts packets received ∧
      demux received = ([], pictures) ∧ back'.reverse.flatten = octets ∧
      Mp4.HoldsSamples octets units data movie ∧ pictures.length = 2 ∧ movie.samples.length = 3 ∧
      (movie.samples.map (·.data)).mapM LengthPrefix.split =
        some [[[0x65, 1]], [[0x06, 5]], [[0x41, 2]]] ∧
      roleOf .h264 [0x06, 5] = .other := by
  have keeps := CommandLine.collector_isReliable.keepsAccepted
  have oneCodec : ∀ p ∈ annotatedBuffer.packets, p.codec = .h264 := by decide
  have start : annotatedBuffer.exportStart =
      .ok (0, ⟨.h264, ⟨1920, 1080⟩, [updatedSps, [0x68]]⟩) := rfl
  obtain ⟨out', streamed⟩ := exists_saved CommandLine.collector_isReliable start (by decide)
    (counted_of_small (by decide) (by decide)) []
  obtain ⟨back', filed⟩ :
      ∃ back', annotatedBuffer.saveMp4 CommandLine.collector [] = (.ok (), back') := ⟨_, rfl⟩
  obtain ⟨packets, received, pictures, streamOctets, accepted, demuxed, shown⟩ :=
    saved_shown keeps oneCodec start streamed
  obtain ⟨octets, data, movie, fileOctets, stored⟩ := saved_stored keeps oneCodec start filed
  have pictureCount : pictures.length = 2 := by
    rw [← shown.length_eq]
    decide
  have sampleCount : movie.samples.length = 3 := by
    rw [stored.samples, List.length_map]
    decide
  have nals : (movie.samples.map (·.data)).mapM LengthPrefix.split =
      some [[[0x65, 1]], [[0x06, 5]], [[0x41, 2]]] := by
    rw [stored.nals]
    decide
  exact ⟨out', back', packets, received, pictures, octets, _, data, movie, streamed, filed,
    streamOctets, accepted, demuxed, fileOctets, stored, pictureCount, sampleCount, nals, by decide⟩

end

end Footage
