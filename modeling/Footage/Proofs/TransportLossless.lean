import Footage.Proofs.Emissions

/-!
# A transport stream loses nothing

However pictures are cut into packets, padded and mixed with tables, a receiver that reads packet
by packet gets each of them back.

* `assemble_emissions`: a receiver of numbered packets gets the elementary packets they were made
  of.
* `transport_lossless`: so does a receiver of what the writer puts into a reliable sink.
* `counted_of_small`: when decode times can be counted.
-/

namespace Footage.TransportStream

/-! ## The packets of emissions -/

/-- What the first packet tells beside its data leaves room for data. -/
theorem length_pictureFields (isKeyframe : Bool) (clock : Option Nat) :
    (pictureFields isKeyframe clock).length < roomSize := by
  cases isKeyframe <;> cases clock <;> simp [pictureFields, clockField, roomSize, packetSize]

theorem isSound_tablePackets (codec : Codec) : ∀ packet ∈ tablePackets codec, packet.IsSound := by
  intro packet isIn
  obtain rfl | isIn := List.mem_cons.1 isIn
  · exact isSound_association
  · obtain rfl := List.mem_singleton.1 isIn
    exact isSound_map _

namespace Emission

theorem elementaryPacket_ne_nil (e : Emission) : e.elementaryPacket ≠ [] := by
  simp [elementaryPacket, pictureHeader]

/-- An emission is one unit of the video flow, perhaps with the tables in front of it. -/
theorem exists_packets (codec : Codec) (e : Emission) :
    ∃ tables first rest, e.packets codec = tables ++ first :: rest ∧
      (∀ packet ∈ tables, packet ∈ tablePackets codec) ∧
      CarriesUnit e.elementaryPacket first rest := by
  obtain ⟨first, rest, same, unit⟩ :=
    carriesUnit_videoPackets (length_pictureFields e.isKeyframe e.clock) e.elementaryPacket_ne_nil
  refine ⟨_, first, rest, by rw [packets, same], fun packet isIn => ?_, unit⟩
  split at isIn
  · exact isIn
  · exact absurd isIn List.not_mem_nil

theorem isSound_packets (codec : Codec) (e : Emission) :
    ∀ packet ∈ e.packets codec, packet.IsSound := by
  obtain ⟨tables, first, rest, same, ofTables, unit⟩ := e.exists_packets codec
  intro packet isIn
  rw [same] at isIn
  obtain table | video := List.mem_append.1 isIn
  · exact isSound_tablePackets codec packet (ofTables packet table)
  · exact ⟨unit.isFull packet video, fun notVideo => absurd (unit.video packet video) notVideo⟩

end Emission

/-- What a receiver of the video flow gets of numbered packets. -/
def videoOf (sent : List (Packet × Nat)) : List Received :=
  (receivedAll sent).filter (·.pid = 256)

theorem videoOf_append (front back : List (Packet × Nat)) :
    videoOf (front ++ back) = videoOf front ++ videoOf back := by
  simp [videoOf, receivedAll]

theorem videoOf_eq (sent : List (Packet × Nat)) :
    videoOf sent = receivedAll (sent.filter (·.1.flow = .video)) :=
  filter_receivedAll sent .video

theorem videoOf_tables {codec : Codec} (counters : Counters) {tables : List Packet}
    (ofTables : ∀ packet ∈ tables, packet ∈ tablePackets codec) :
    videoOf (numbered counters tables) = [] := by
  have none : (numbered counters tables).filter (·.1.flow = .video) = [] := by
    refine List.filter_eq_nil_iff.2 fun sent isIn => ?_
    have isTable := ofTables sent.1 (mem_of_mem_numbered isIn)
    simp only [tablePackets, List.mem_cons, List.not_mem_nil, or_false] at isTable
    obtain same | same := isTable <;> simp [same, tablePacket]
  rw [videoOf_eq, none]
  rfl

theorem videoOf_unit {octets : Bytes} {first : Packet} {rest : List Packet}
    (unit : CarriesUnit octets first rest) (counters : Counters) :
    videoOf (numbered counters (first :: rest)) =
      receivedAll (numbered counters (first :: rest)) := by
  rw [videoOf_eq, List.filter_eq_self.2]
  exact fun sent isIn => decide_eq_true (unit.video sent.1 (mem_of_mem_numbered isIn))

/-- A receiver gets the elementary packets of all emissions, and nothing before the first. -/
theorem assemble_emissions (codec : Codec) (emissions : List Emission) (counters : Counters) :
    assemble (videoOf (numbered counters (packetsOf codec emissions))) =
      ([], emissions.map Emission.elementaryPacket) := by
  induction emissions generalizing counters with
  | nil => rfl
  | cons e rest ih =>
    obtain ⟨tables, first, others, same, ofTables, unit⟩ := e.exists_packets codec
    have split : packetsOf codec (e :: rest) =
        tables ++ ((first :: others) ++ packetsOf codec rest) := by
      rw [packetsOf, List.flatMap_cons, same, List.append_assoc]
      rfl
    rw [split, numbered_append, videoOf_append, videoOf_tables _ ofTables, List.nil_append,
      numbered_append, videoOf_append, videoOf_unit unit, assemble_unit unit _ (by rw [ih]), ih]
    rfl

/-! ## A whole stream -/

/-- The parameter sets that a writer knows at the start of a stream. -/
def setsAtStart (parameters : StreamParameters) : List Bytes :=
  (parameters.parameterSets.filter (!·.isEmpty)).foldl
    (fun known set => remember parameters.codec set known) []

def dueUnits (parameters : StreamParameters) (units : List AccessUnit) : List Seen :=
  due parameters.codec false (seen parameters.codec (setsAtStart parameters) units)

/-- What is known with a unit changes, the units themselves do not. -/
theorem map_unit_seen (codec : Codec) (known : List Bytes) (units : List AccessUnit) :
    (seen codec known units).map Seen.unit = units := by
  induction units generalizing known with
  | nil => rfl
  | cons unit rest ih => exact congrArg (unit :: ·) (ih _)

theorem dueUnits_sublist (parameters : StreamParameters) (units : List AccessUnit) :
    ((dueUnits parameters units).map Seen.unit).Sublist units := by
  have kept : (dueUnits parameters units).Sublist
      (seen parameters.codec (setsAtStart parameters) units) :=
    (List.dropWhile_sublist _).trans List.filter_sublist
  have := kept.map Seen.unit
  rwa [map_unit_seen] at this

/-- A decode time is at most one tick higher for each unit before. -/
theorem decodeTimes_lt {limit : Nat} {last : Option Nat} {times : List Nat}
    (before : ∀ dts ∈ last, dts < limit) (small : ∀ time ∈ times, time < limit) :
    ∀ dts ∈ decodeTimes last times, dts < limit + times.length := by
  induction times generalizing last limit with
  | nil => exact fun _ isIn => absurd isIn List.not_mem_nil
  | cons time rest ih =>
    have first : decodeTime last time < limit + 1 := by
      have := small time List.mem_cons_self
      cases last with
      | none => exact Nat.lt_succ_of_lt this
      | some last =>
        have := before last rfl
        simp only [decodeTime]
        split <;> omega
    intro dts isIn
    rw [List.length_cons]
    obtain rfl | later := List.mem_cons.1 isIn
    · omega
    · have := ih
        (by rintro _ ⟨⟩; exact first)
        (fun time isIn => Nat.lt_succ_of_lt (small time (List.mem_cons_of_mem _ isIn))) dts later
      omega

/-- Decode times can be counted if the units do not ask for too late times and are not too many. -/
theorem counted_of_small {parameters : StreamParameters} {units : List AccessUnit}
    (few : units.length ≤ wordLimit 63) (small : ∀ unit ∈ units, unit.pts.ticks < wordLimit 63) :
    ∀ dts ∈ decodeTimes none ((dueUnits parameters units).map Seen.time), FitsIn 64 dts := by
  have sub := dueUnits_sublist parameters units
  have early : ∀ time ∈ (dueUnits parameters units).map Seen.time, time < wordLimit 63 := by
    intro time isIn
    obtain ⟨s, isDue, rfl⟩ := List.mem_map.1 isIn
    exact small s.unit (sub.subset (List.mem_map_of_mem isDue))
  have count := sub.length_le
  have double : wordLimit 64 = wordLimit 63 + wordLimit 63 := rfl
  intro dts isIn
  have below := decodeTimes_lt (by rintro _ ⟨⟩) early dts isIn
  rw [List.length_map] at count below
  rw [FitsIn, double]
  omega

namespace Muxer

def begun (parameters : StreamParameters) : Muxer :=
  { codec := parameters.codec, parameterSets := setsAtStart parameters }

def announced (parameters : StreamParameters) : Muxer :=
  { begun parameters with counters := ({} : Counters).after (tablePackets parameters.codec) }

variable {σ : Type} {sink : ByteSink σ} {held : σ → Bytes}

theorem start_apply (sink : ByteSink σ) {parameters : StreamParameters}
    (known : parameters.codec ≠ .unknown) (out : σ) :
    start sink parameters ({}, out) = sendTables sink (begun parameters, out) := by
  simp only [start, known, if_false, Effect.bind_apply, Effect.modify_apply]
  rfl

/-- A stream that begins at all begins with the tables. -/
theorem start_accepted (keeps : sink.KeepsAccepted held) {parameters : StreamParameters} {out : σ}
    {s : Muxer × σ} (isBegun : (writer sink).start parameters ({}, out) = (.ok (), s)) :
    s.1 = announced parameters ∧
      held s.2 = held out ++ (encodeAll (numbered {} (tablePackets parameters.codec))).flatten := by
  have started : start sink parameters ({}, out) = (.ok (), s) := Effect.of_rename_ok isBegun
  by_cases unknown : parameters.codec = .unknown
  · simp only [start, unknown, if_true, Effect.bind_apply, Effect.throw_apply] at started
    cases started
  · rw [start_apply sink unknown] at started
    have sent := sendTables_accepted keeps started
    exact ⟨sent.muxer, sent.octets⟩

theorem start_reliable (reliable : sink.IsReliable held) {parameters : StreamParameters}
    (known : parameters.codec ≠ .unknown) (out : σ) :
    ∃ s, (writer sink).start parameters ({}, out) = (.ok (), s) := by
  obtain ⟨s, done⟩ := sendTables_reliable reliable (begun parameters, out)
  refine ⟨s, ?_⟩
  show (start sink parameters).rename WriterError.reported ({}, out) = (.ok (), s)
  rw [Effect.rename_apply, start_apply sink known, done]
  rfl

/-- The end of a stream adds nothing. -/
theorem finish_accepted (keeps : sink.KeepsAccepted held) {s s' : Muxer × σ}
    (done : (writer sink).finish s = (.ok (), s')) : held s'.2 = held s.2 := by
  have flushed : (sink.flush.onSecond : Effect (Muxer × σ) IoError Unit) s = (.ok (), s') :=
    Effect.of_rename_ok (Effect.of_rename_ok done)
  exact keeps.flush _ _ (Effect.of_onSecond_ok flushed).2

theorem finish_reliable (reliable : sink.IsReliable held) (s : Muxer × σ) :
    ∃ s', (writer sink).finish s = (.ok (), s') := by
  obtain ⟨m, out⟩ := s
  obtain ⟨out', done, -⟩ := reliable.flush out
  exact ⟨(m, out'), by simp [writer, finish, done]⟩

end Muxer

def streamPackets (parameters : StreamParameters) (units : List AccessUnit) : List Packet :=
  tablePackets parameters.codec ++
    packetsOf parameters.codec ((Muxer.announced parameters).emissions units)

theorem isSound_streamPackets (parameters : StreamParameters) (units : List AccessUnit) :
    ∀ packet ∈ streamPackets parameters units, packet.IsSound := by
  intro packet isIn
  obtain table | emitted := List.mem_append.1 isIn
  · exact isSound_tablePackets _ packet table
  · obtain ⟨e, -, isIn⟩ := List.mem_flatMap.1 emitted
    exact e.isSound_packets _ packet isIn

theorem demux_streamPackets (parameters : StreamParameters) (units : List AccessUnit) :
    demux (receivedAll (numbered {} (streamPackets parameters units))) =
      ([], elementaryPackets parameters.codec none none (dueUnits parameters units)) := by
  have nothing : videoOf (numbered {} (tablePackets parameters.codec)) = [] :=
    videoOf_tables {} fun _ isIn => isIn
  rw [demux, ← videoOf, streamPackets, numbered_append, videoOf_append, nothing, List.nil_append,
    assemble_emissions]
  exact congrArg ([], ·) (Muxer.elementaryPackets_dueOf (Muxer.announced parameters) units)

/-- The association table and the program map come first. -/
theorem pids_streamPackets (parameters : StreamParameters) (units : List AccessUnit) :
    ((receivedAll (numbered {} (streamPackets parameters units))).take 2).map (·.pid) =
      [0, 0x1000] := rfl

theorem areSmall_default : ({} : Counters).AreSmall := by
  intro flow
  cases flow <;> decide

section

variable {σ : Type} {sink : ByteSink σ} {held : σ → Bytes}

/-- What a stream holds that has begun and has taken the access units. -/
theorem held_stream (keeps : sink.KeepsAccepted held) {parameters : StreamParameters} {out : σ}
    {s s' : Muxer × σ} (begun : (Muxer.writer sink).start parameters ({}, out) = (.ok (), s))
    {units : List AccessUnit} (done : forM units (Muxer.writer sink).write s = (.ok (), s')) :
    held s'.2 =
      held out ++ (encodeAll (numbered {} (streamPackets parameters units))).flatten := by
  obtain ⟨m, out₁⟩ := s
  obtain ⟨rfl, tables⟩ : m = Muxer.announced parameters ∧ held out₁ = _ :=
    Muxer.start_accepted keeps begun
  rw [Muxer.forM_write_accepted keeps done, tables, streamPackets, numbered_append]
  simp [encodeAll, Muxer.announced, Muxer.begun]

/-- These are packets that a receiver accepts, out of which it gets the elementary packets of all
units that the stream is to hold. -/
theorem stream_accepted (keeps : sink.KeepsAccepted held) {parameters : StreamParameters} {out : σ}
    {s s' : Muxer × σ} (begun : (Muxer.writer sink).start parameters ({}, out) = (.ok (), s))
    {units : List AccessUnit} (done : forM units (Muxer.writer sink).write s = (.ok (), s')) :
    ∃ packets received, held s'.2 = held out ++ packets.flatten ∧ Accepts packets received ∧
      demux received =
        ([], elementaryPackets parameters.codec none none (dueUnits parameters units)) :=
  ⟨_, _, held_stream keeps begun done,
    accepts_numbered areSmall_default (isSound_streamPackets parameters units),
    demux_streamPackets parameters units⟩

/-- On a reliable sink all access units are taken, if decode times can be counted. -/
theorem exists_written (reliable : sink.IsReliable held) {parameters : StreamParameters} {out : σ}
    {s : Muxer × σ} (begun : (Muxer.writer sink).start parameters ({}, out) = (.ok (), s))
    {units : List AccessUnit}
    (counted : ∀ dts ∈ decodeTimes none ((dueUnits parameters units).map Seen.time),
      FitsIn 64 dts) :
    ∃ s', forM units (Muxer.writer sink).write s = (.ok (), s') := by
  obtain ⟨m, out₁⟩ := s
  obtain rfl : m = Muxer.announced parameters :=
    (Muxer.start_accepted reliable.keepsAccepted begun).1
  exact Muxer.forM_write_reliable reliable (m := Muxer.announced parameters) out₁ counted

theorem exists_stream (reliable : sink.IsReliable held) {parameters : StreamParameters}
    (known : parameters.codec ≠ .unknown) (units : List AccessUnit)
    (counted : ∀ dts ∈ decodeTimes none ((dueUnits parameters units).map Seen.time), FitsIn 64 dts)
    (out : σ) :
    ∃ s s', (Muxer.writer sink).start parameters ({}, out) = (.ok (), s) ∧
      forM units (Muxer.writer sink).write s = (.ok (), s') := by
  obtain ⟨s, begun⟩ := Muxer.start_reliable reliable known out
  obtain ⟨s', done⟩ := exists_written reliable begun counted
  exact ⟨s, s', begun, done⟩

end

/-- On a reliable sink, a stream that has begun takes every access unit whose decode time can be
counted. Its octets are packets that a receiver accepts. The first two carry the tables, and out of
all of them the receiver gets the elementary packets of all units that the stream is to hold, in
order and unchanged. -/
theorem transport_lossless {σ : Type} {sink : ByteSink σ} {held : σ → Bytes}
    (reliable : sink.IsReliable held) {parameters : StreamParameters} {out : σ} {s : Muxer × σ}
    (begun : (Muxer.writer sink).start parameters ({}, out) = (.ok (), s))
    {units : List AccessUnit}
    (counted : ∀ dts ∈ decodeTimes none ((dueUnits parameters units).map Seen.time),
      FitsIn 64 dts) :
    ∃ s' packets received,
      forM units (Muxer.writer sink).write s = (.ok (), s') ∧
      held s'.2 = held out ++ packets.flatten ∧
      Accepts packets received ∧
      (received.take 2).map (·.pid) = [0, 0x1000] ∧
      demux received =
        ([], elementaryPackets parameters.codec none none (dueUnits parameters units)) := by
  obtain ⟨s', done⟩ := exists_written reliable begun counted
  exact ⟨s', _, _, done, held_stream reliable.keepsAccepted begun done,
    accepts_numbered areSmall_default (isSound_streamPackets parameters units),
    pids_streamPackets parameters units, demux_streamPackets parameters units⟩

def longUnits : List AccessUnit :=
  [⟨.zero, [.ofAnnexB ([0, 0, 1, 0x65] ++ List.replicate 300 0xAB)], true⟩,
    ⟨.ofMillis 40, [.ofAnnexB [0, 0, 1, 0x41]], false⟩]

def longParameters : StreamParameters := ⟨.h264, ⟨16, 16⟩, [[0x67, 0x64], [0x68]]⟩

theorem transport_lossless_longUnits :
    ∃ s, (Muxer.writer CommandLine.collector).start longParameters ({}, []) = (.ok (), s) ∧
      ∃ s' packets received,
        forM longUnits (Muxer.writer CommandLine.collector).write s = (.ok (), s') ∧
        s'.2.reverse.flatten = packets.flatten ∧
        Accepts packets received ∧
        (received.take 2).map (·.pid) = [0, 0x1000] ∧
        demux received = ([],
          [pictureHeader 0 0 ++ byteStream
              [[0x09, 0xF0], [0x67, 0x64], [0x68], 0x65 :: List.replicate 300 0xAB],
            pictureHeader 3600 3600 ++ byteStream [[0x09, 0xF0], [0x41]]]) := by
  have counted : ∀ dts ∈ decodeTimes none ((dueUnits longParameters longUnits).map Seen.time),
      FitsIn 64 dts := counted_of_small (by decide) (by decide)
  refine ⟨_, rfl, ?_⟩
  exact transport_lossless CommandLine.collector_isReliable rfl counted

end Footage.TransportStream
