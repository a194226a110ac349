import Footage.Proofs.SampleTables
import Footage.Proofs.Sinks

/-!
# An MP4 file gives its samples back

The writer collects samples and writes the file at the end: two boxes in front, whose size it can
tell by then, the samples in one chunk, and the movie box with tables about them. A reader that has
only the octets gets back the NAL units of each access unit that was kept.

* `LengthPrefix.split`, `cut`: how a reader takes samples and the units in them apart.
* `kept`: which access units become samples, told of all of them at once.
  `Collector.samples_foldl_taking`: those are collected.
* `GivesBack`: what a reader gets of a file.
* `mp4_gives_back`: it does so of what the writer puts into a reliable sink.
-/

namespace Footage

namespace LengthPrefix

/-- Takes NAL units apart, each behind its length. -/
def split (sample : Bytes) : Option (List Bytes) :=
  if sample = [] then some []
  else if sample.length < 4 + Bytes.toNat (sample.take 4) then none
  else
    (split (sample.drop (4 + Bytes.toNat (sample.take 4)))).map
      ((sample.drop 4).take (Bytes.toNat (sample.take 4)) :: ·)
termination_by sample.length
decreasing_by
  rw [List.length_drop]
  have := List.length_pos_iff.2 ‹sample ≠ []›
  omega

theorem join_cons (unit : Bytes) (rest : List Bytes) :
    join (unit :: rest) = Bytes.bigEndian 4 unit.length ++ (unit ++ join rest) := by
  rw [join, List.flatMap_cons, List.append_assoc]
  rfl

theorem split_join {units : List Bytes} (fit : ∀ unit ∈ units, FitsIn 32 unit.length) :
    split (join units) = some units := by
  induction units with
  | nil =>
    rw [split]
    rfl
  | cons unit rest ih =>
    have prefixLength : (Bytes.bigEndian 4 unit.length).length = 4 := Bytes.length_bigEndian 4 _
    have told : Bytes.toNat ((join (unit :: rest)).take 4) = unit.length := by
      rw [join_cons, List.take_left' prefixLength, Bytes.toNat_bigEndian]
      exact Nat.mod_eq_of_lt (fit unit List.mem_cons_self)
    have behind : (join (unit :: rest)).drop 4 = unit ++ join rest := by
      rw [join_cons, List.drop_left' prefixLength]
    have size : (join (unit :: rest)).length = 4 + (unit.length + (join rest).length) := by
      rw [join_cons, List.length_append, List.length_append, prefixLength]
    have notEmpty : join (unit :: rest) ≠ [] := by
      rw [← List.length_pos_iff, size]
      omega
    rw [split, if_neg notEmpty, if_neg (by omega), told, ← List.drop_drop, behind, List.drop_left,
      List.take_left, ih fun other isIn => fit other (List.mem_cons_of_mem _ isIn)]
    rfl

theorem length_le_of_mem {unit : Bytes} {units : List Bytes} (isIn : unit ∈ units) :
    unit.length ≤ (join units).length := by
  induction units with
  | nil => exact absurd isIn List.not_mem_nil
  | cons first rest ih =>
    rw [join_cons, List.length_append, List.length_append]
    obtain rfl | later := List.mem_cons.1 isIn
    · omega
    · have := ih later
      omega

end LengthPrefix

namespace Mp4

/-- Cuts octets into pieces of the given sizes, which have to take up all of them. -/
def cut : (sizes : List Nat) → Bytes → Option (List Bytes)
  | [], octets => if octets = [] then some [] else none
  | size :: rest, octets =>
    if octets.length < size then none
    else (cut rest (octets.drop size)).map (octets.take size :: ·)

theorem cut_flatten (pieces : List Bytes) :
    cut (pieces.map List.length) pieces.flatten = some pieces := by
  induction pieces with
  | nil => rfl
  | cons piece rest ih => simp [cut, ih]

/-! ## Which units are kept -/

/-- The access unit holds a NAL unit of a picture that can be decoded on its own. -/
def showsKeyframe (unit : AccessUnit) : Bool :=
  (content unit).any fun payload => roleOf payload = .keyframe

/-- Something of the access unit belongs into a sample, and it is not too much for one. -/
def isStorable (unit : AccessUnit) : Bool :=
  !(content unit).isEmpty && FitsIn 32 (LengthPrefix.join (content unit)).length

/-- The access units that are kept: all that can be, from the first keyframe on. -/
def kept (units : List AccessUnit) : List AccessUnit :=
  (units.filter isStorable).dropWhile (!showsKeyframe ·)

def sampleOf (unit : AccessUnit) : Sample :=
  ⟨unit.pts.ticks, LengthPrefix.join (content unit), showsKeyframe unit⟩

namespace Collector

theorem samples_supply (c : Collector) (set : Bytes) : (c.supply set).samples = c.samples := by
  unfold supply
  split
  · rfl
  · split <;> rfl

theorem samples_note (c : Collector) (unit : AccessUnit) : (c.note unit).samples = c.samples := by
  unfold note
  induction payloads unit generalizing c with
  | nil => rfl
  | cons set rest ih => rw [List.foldl_cons, ih, samples_supply]

theorem samples_adopt (c : Collector) (set : Bytes) : (c.adopt set).samples = c.samples := by
  unfold adopt
  split
  · rfl
  · split <;> rfl

/-- What is known behind an access unit, whether it could be written or not. -/
def taking (c : Collector) (unit : AccessUnit) : Collector :=
  match (c.note unit).collect unit with
  | .ok c => c
  | .error _ => c.note unit

/-- An access unit becomes a sample if something of it belongs into one, the samples have started
or start with it, and it is not too much. -/
theorem collect_note (c : Collector) (unit : AccessUnit) :
    (c.note unit).collect unit =
      if (content unit).isEmpty || (c.samples.isEmpty && !showsKeyframe unit) then .ok (c.note unit)
      else if FitsIn 32 (LengthPrefix.join (content unit)).length then
        .ok { c.note unit with samples := c.samples ++ [sampleOf unit] }
      else .error ⟨"sample larger than 4 GiB",
        ["out of range integral type conversion attempted"]⟩ := by
  rw [collect, samples_note]
  rfl

theorem samples_taking (c : Collector) (unit : AccessUnit) :
    (c.taking unit).samples =
      if isStorable unit && (!c.samples.isEmpty || showsKeyframe unit) then
        c.samples ++ [sampleOf unit]
      else c.samples := by
  rw [taking, collect_note, isStorable]
  cases (content unit).isEmpty with
  | true => simp [samples_note]
  | false =>
    by_cases fits : FitsIn 32 (LengthPrefix.join (content unit)).length <;>
      cases c.samples.isEmpty <;> cases showsKeyframe unit <;> simp [fits, samples_note]

theorem samples_foldl_taking (c : Collector) (units : List AccessUnit) :
    (units.foldl taking c).samples =
      c.samples ++ (if c.samples.isEmpty then kept units else units.filter isStorable).map
        sampleOf := by
  induction units generalizing c with
  | nil => simp [kept]
  | cons unit rest ih =>
    rw [List.foldl_cons, ih, samples_taking]
    cases storable : isStorable unit with
    | false => simp [kept, storable]
    | true =>
      cases empty : c.samples.isEmpty with
      | false => simp [storable]
      | true =>
        -- a keyframe starts the samples, and then everything storable is kept
        cases keyframe : showsKeyframe unit <;> simp [kept, storable, keyframe, empty]

variable {σ : Type} {sink : ByteSink σ} {held : σ → Bytes}

theorem write_snd (unit : AccessUnit) (c : Collector) (out : σ) :
    ((writer sink).write unit (c, out)).2 = (c.taking unit, out) := by
  show ((write unit).rename WriterError.reported (c, out)).2 = _
  rw [Effect.rename_apply, taking]
  cases made : (c.note unit).collect unit <;> simp [write, made]

/-- Access units are taken one after another. Nothing is written yet. -/
theorem foldl_write (units : List AccessUnit) (c : Collector) (out : σ) :
    units.foldl (fun s unit => ((writer sink).write unit s).2) (c, out) =
      (units.foldl taking c, out) := by
  induction units generalizing c with
  | nil => rfl
  | cons unit rest ih => rw [List.foldl_cons, write_snd, ih, List.foldl_cons]

theorem start_samples {parameters : StreamParameters} {out : σ} {s : Collector × σ}
    (begun : (writer sink).start parameters ({}, out) = (.ok (), s)) :
    s.1.samples = [] ∧ s.2 = out := by
  have samples : ∀ (sets : List Bytes) (c : Collector),
      (sets.foldl adopt c).samples = c.samples := by
    intro sets
    induction sets with
    | nil => exact fun _ => rfl
    | cons set rest ih => exact fun c => (ih _).trans (samples_adopt c set)
  change (start parameters).rename WriterError.reported ({}, out) = (.ok (), s) at begun
  rw [Effect.rename_apply] at begun
  by_cases known : parameters.codec = .h264
  · simp only [start, known, ne_eq, not_true_eq_false, if_false, Effect.modify_apply,
      mapError_ok] at begun
    cases begun
    exact ⟨samples _ _, rfl⟩
  · simp only [start, known, ne_eq, not_false_eq_true, if_true, Effect.bind_apply,
      Effect.throw_apply, mapError_error] at begun
    cases begun

theorem parts_eq_ok {c : Collector} {head data movie : Bytes}
    (made : c.parts = .ok (head, data, movie)) :
    c.samples ≠ [] ∧ data = (c.samples.map (·.data)).flatten ∧
      FitsIn 32 (boxHeaderSize + data.length) ∧
      head = fileHead data.length ∧
      ∃ m : Movie, m.samples = c.samples ∧ m.offset = head.length ∧ movie = m.box.encode := by
  unfold parts at made
  cases empty : c.samples.isEmpty with
  | true =>
    rw [empty] at made
    cases made
  | false =>
    rw [empty] at made
    cases sps : c.sps with
    | none =>
      rw [sps] at made
      cases made
    | some sps' =>
      cases pps : c.pps with
      | none =>
        rw [sps, pps] at made
        cases made
      | some pps' =>
        cases configured : LengthPrefix.configuration sps' pps' with
        | error fault =>
          simp only [sps, pps, configured, mapError_error] at made
          cases made
        | ok configuration =>
          by_cases fits : FitsIn 32 (boxHeaderSize + (c.samples.flatMap (·.data)).length)
          · simp only [sps, pps, configured, mapError_ok, ok_bind, fits, not_true, if_false] at made
            cases made
            refine ⟨?_, List.flatMap_def, fits, rfl, _, rfl, rfl, rfl⟩
            rintro none
            rw [none] at empty
            cases empty
          · simp only [sps, pps, configured, mapError_ok, ok_bind, fits, not_false_iff,
              if_true] at made
            cases made

/-- A file that gets finished is all there. -/
theorem finish_accepted (keeps : sink.KeepsAccepted held) {c : Collector} {out : σ}
    {s' : Collector × σ} (finished : (writer sink).finish (c, out) = (.ok (), s')) :
    ∃ head data movie, c.parts = .ok (head, data, movie) ∧
      held s'.2 = held out ++ (head ++ data ++ movie) := by
  have done : finish sink (c, out) = (.ok (), s') := Effect.of_rename_ok finished
  cases made : c.parts with
  | error fault =>
    simp only [finish, Effect.bind_apply, Effect.get_apply, Effect.lift_apply, made] at done
    cases done
  | ok parts =>
    obtain ⟨head, data, movie⟩ := parts
    rw [finish, Effect.bind_apply, Effect.get_apply] at done
    dsimp only at done
    rw [Effect.bind_apply, Effect.lift_apply, made] at done
    obtain ⟨_, s₁, first, behind⟩ := Effect.of_bind_ok done
    obtain ⟨_, s₂, second, behind⟩ := Effect.of_bind_ok behind
    obtain ⟨_, s₃, third, last⟩ := Effect.of_bind_ok behind
    have hasHead := keeps.write _ _ _ (Effect.of_onSecond_ok (Effect.of_rename_ok first)).2
    have hasData := keeps.write _ _ _ (Effect.of_onSecond_ok (Effect.of_rename_ok second)).2
    have hasMovie := keeps.write _ _ _ (Effect.of_onSecond_ok (Effect.of_rename_ok third)).2
    have flushed := keeps.flush _ _ (Effect.of_onSecond_ok (Effect.of_rename_ok last)).2
    refine ⟨head, data, movie, rfl, ?_⟩
    rw [flushed, hasMovie, hasData, hasHead]
    simp

end Collector

/-! ## The file -/

/-- What the first box tells: the brand of the file with its version, and the brands that it is
compatible with. -/
def brands : Bytes := Bytes.ofLatin "isom" ++ [0, 0, 2, 0] ++ Bytes.ofLatin "isomiso2avc1mp41"

/-- What a reader gets of a file: the data of the samples, the movie box, the tables in it, the
samples that the tables cut out of the data. They are the kept units, one for each sample. -/
structure GivesBack (file : Bytes) (kept : List AccessUnit) (data : Bytes) (movie : Found)
    (table : SampleTable) (samples : List Bytes) : Prop where
  boxes : readBoxes file = some
    [.mk (Bytes.ofLatin "ftyp") brands [], .mk (Bytes.ofLatin "mdat") data [], movie]
  /-- There is nothing between the three boxes, nor between those inside. -/
  tiles : Tiles file
    [.mk (Bytes.ofLatin "ftyp") brands [], .mk (Bytes.ofLatin "mdat") data [], movie]
  movieKind : movie.kind = Bytes.ofLatin "moov"
  tables : readTable
    [.mk (Bytes.ofLatin "ftyp") brands [], .mk (Bytes.ofLatin "mdat") data [], movie] = some table
  /-- The chunk starts with the data, behind which there is only the movie box. -/
  chunk : ∃ behind, file.drop table.offset = data ++ behind ∧ readBoxes behind = some [movie]
  cut : cut table.sizes data = some samples
  units : samples.mapM LengthPrefix.split = some (kept.map content)
  sizeCount : table.sizes.length = kept.length
  chunkCount : table.samplesInChunk = kept.length
  syncNumbers : ∀ n, n ∈ table.syncNumbers ↔
    ∃ i unit, kept[i]? = some unit ∧ showsKeyframe unit = true ∧ n = i + 1
  syncAscend : table.syncNumbers.Pairwise (· < ·)
  syncFirst : table.syncNumbers.head? = some 1
  durationCount : table.durations.length = kept.length
  /-- Times that rise gently can be told from the durations. -/
  times : RiseGently (kept.map (·.pts.ticks)) → ∀ i first unit, kept[0]? = some first →
    kept[i]? = some unit → first.pts.ticks + total (table.durations.take i) = unit.pts.ticks

theorem fileHead_append (data : Bytes) :
    fileHead data.length ++ data = fileType.encode ++ (Box.leaf "mdat" data).encode := by
  simp [fileHead, Box.leaf, Box.encode, Box.encodeAll, Box.frame, word]

theorem length_encode_mdat (data : Bytes) :
    (Box.leaf "mdat" data).encode.length = boxHeaderSize + data.length := by
  have four : (Bytes.ofLatin "mdat").length = 4 := by decide
  simp [Box.leaf, Box.encode, Box.encodeAll, Box.frame, four, boxHeaderSize]
  omega

theorem length_fileHead (n : Nat) : (fileHead n).length = 40 := by
  have : fileType.encode.length = 32 := by decide
  simp [fileHead, this, word]
  decide

theorem isStorable_of_mem_kept {units : List AccessUnit} :
    ∀ unit ∈ kept units, isStorable unit = true := fun _ isIn =>
  (List.mem_filter.1 ((List.dropWhile_sublist _).subset isIn)).2

theorem showsKeyframe_of_kept {units : List AccessUnit} {first : AccessUnit}
    (starts : (kept units).head? = some first) : showsKeyframe first = true := by
  have front := List.head?_dropWhile_not (!showsKeyframe ·) (units.filter isStorable)
  rw [← kept, starts] at front
  simpa using front

theorem fits_of_isStorable {unit : AccessUnit} (storable : isStorable unit = true) :
    content unit ≠ [] ∧ FitsIn 32 (LengthPrefix.join (content unit)).length := by
  rw [isStorable, Bool.and_eq_true] at storable
  exact ⟨by simpa using storable.1, of_decide_eq_true storable.2⟩

/-- A sample is never empty, so there are no more samples than octets. -/
theorem length_le_data {units : List AccessUnit}
    (storable : ∀ unit ∈ units, isStorable unit = true) :
    units.length ≤ (units.flatMap fun unit => (sampleOf unit).data).length := by
  induction units with
  | nil => exact Nat.le_refl 0
  | cons unit rest ih =>
    obtain ⟨holdsSome, -⟩ := fits_of_isStorable (storable unit List.mem_cons_self)
    have others := ih fun other isIn => storable other (List.mem_cons_of_mem _ isIn)
    have positive : 0 < (LengthPrefix.join (content unit)).length := by
      cases nal : content unit with
      | nil => exact absurd nal holdsSome
      | cons first more =>
        rw [LengthPrefix.join_cons, List.length_append, Bytes.length_bigEndian]
        omega
    rw [List.flatMap_cons, List.length_append, List.length_cons]
    simp only [sampleOf] at *
    omega

theorem mapM_split {units : List AccessUnit} (storable : ∀ unit ∈ units, isStorable unit = true) :
    (units.map fun unit => (sampleOf unit).data).mapM LengthPrefix.split =
      some (units.map content) := by
  induction units with
  | nil => rfl
  | cons unit rest ih =>
    obtain ⟨-, fits⟩ := fits_of_isStorable (storable unit List.mem_cons_self)
    have here : LengthPrefix.split (sampleOf unit).data = some (content unit) :=
      LengthPrefix.split_join fun nal isIn =>
        Nat.lt_of_le_of_lt (LengthPrefix.length_le_of_mem isIn) fits
    rw [List.map_cons, List.mapM_cons, here,
      ih fun other isIn => storable other (List.mem_cons_of_mem _ isIn)]
    rfl

theorem readBoxes_file (m : Movie) {data : Bytes}
    (dataFits : FitsIn 32 (boxHeaderSize + data.length))
    (movieFits : FitsIn 32 m.box.encode.length) :
    readBoxes (fileHead data.length ++ data ++ m.box.encode) = some (foundFile m data) := by
  have whole : fileHead data.length ++ data ++ m.box.encode =
      Box.encodeAll [fileType, .leaf "mdat" data, m.box] := by
    simp [fileHead_append, Box.encodeAll]
  rw [whole]
  refine Box.readBoxes_encodeAll ⟨Box.isReadable_leaf (by decide) (by decide) _,
    Box.isReadable_leaf (by decide) (by decide) _, m.isReadable_box, trivial⟩ ?_
  intro box isIn
  simp only [List.mem_cons, List.not_mem_nil, or_false] at isIn
  obtain rfl | rfl | rfl := isIn
  · decide
  · rwa [length_encode_mdat]
  · exact movieFits

section

variable {m : Movie} {units : List AccessUnit}

/-- Sample data that has room in one box can be told in the tables. -/
theorem fits_of_samples (storable : ∀ unit ∈ units, isStorable unit = true)
    (samples : m.samples = units.map sampleOf)
    (dataFits : FitsIn 32 (boxHeaderSize + (m.samples.map (·.data)).flatten.length))
    (offset : FitsIn 32 m.offset) : m.Fits := by
  refine ⟨?_, ?_, offset⟩
  · have few := length_le_data storable
    have sameData : (m.samples.map (·.data)).flatten =
        units.flatMap fun unit => (sampleOf unit).data := by
      rw [samples, List.map_map, List.flatMap_def]
      rfl
    rw [← sameData] at few
    rw [FitsIn] at *
    rw [samples, List.length_map]
    omega
  · intro s isSample
    rw [samples] at isSample
    obtain ⟨unit, isIn, rfl⟩ := List.mem_map.1 isSample
    exact (fits_of_isStorable (storable unit isIn)).2

theorem sampleAt_of_unitAt (samples : m.samples = units.map sampleOf) {i : Nat} {unit : AccessUnit}
    (isAt : units[i]? = some unit) : m.samples[i]? = some (sampleOf unit) := by
  rw [samples, List.getElem?_map, isAt]
  rfl

theorem mem_syncNumbers_units (samples : m.samples = units.map sampleOf) (n : Nat) :
    n ∈ syncNumbers m.samples ↔
      ∃ i unit, units[i]? = some unit ∧ showsKeyframe unit = true ∧ n = i + 1 := by
  rw [mem_syncNumbers]
  constructor
  · rintro ⟨i, s, isAt, keyframe, rfl⟩
    rw [samples, List.getElem?_map] at isAt
    obtain ⟨unit, unitAt, rfl⟩ := Option.map_eq_some_iff.1 isAt
    exact ⟨i, unit, unitAt, keyframe, rfl⟩
  · rintro ⟨i, unit, unitAt, keyframe, rfl⟩
    exact ⟨i, sampleOf unit, sampleAt_of_unitAt samples unitAt, keyframe, rfl⟩

/-- A file made of access units, the first of them a keyframe. -/
theorem givesBack_file {first : AccessUnit} (storable : ∀ unit ∈ units, isStorable unit = true)
    (starts : units.head? = some first) (isKeyframe : showsKeyframe first = true)
    (samples : m.samples = units.map sampleOf) {data : Bytes}
    (dataIs : data = (m.samples.map (·.data)).flatten)
    (offset : m.offset = (fileHead data.length).length)
    (dataFits : FitsIn 32 (boxHeaderSize + data.length))
    (movieFits : FitsIn 32 m.box.encode.length) :
    GivesBack (fileHead data.length ++ data ++ m.box.encode) units data m.box.found
      m.table (m.samples.map (·.data)) := by
  have count : m.samples.length = units.length := by rw [samples, List.length_map]
  have read := readBoxes_file m dataFits movieFits
  have fits : m.Fits := by
    refine fits_of_samples storable samples (dataIs ▸ dataFits) ?_
    rw [offset, length_fileHead]
    decide
  constructor
  case boxes => exact read
  case tiles => exact tiles_of_readBoxes read
  case movieKind => rfl
  case tables => exact Movie.readTable_foundFile fits data
  case chunk =>
    refine ⟨m.box.encode, ?_, ?_⟩
    · show (fileHead data.length ++ data ++ m.box.encode).drop m.offset = _
      rw [offset, List.append_assoc, List.drop_left]
    · have movieRead := Box.readBoxes_encode m.isReadable_box movieFits []
      rwa [List.append_nil, readBoxes_nil] at movieRead
  case cut =>
    have pieces := cut_flatten (m.samples.map (·.data))
    rwa [← dataIs, List.map_map] at pieces
  case units =>
    rw [samples, List.map_map]
    exact mapM_split storable
  case sizeCount => exact (List.length_map _).trans count
  case chunkCount => exact count
  case syncNumbers => exact mem_syncNumbers_units samples
  case syncAscend => exact pairwise_syncNumbers m.samples
  case syncFirst =>
    show (syncNumbers m.samples).head? = some 1
    obtain ⟨rest, rfl⟩ := List.head?_eq_some_iff.1 starts
    rw [samples]
    exact head?_syncNumbers isKeyframe
  case durationCount => exact (length_durations m.samples).trans count
  case times =>
    intro gentle i start unit at_0 at_i
    refine total_durations ?_ (sampleAt_of_unitAt samples at_0) (sampleAt_of_unitAt samples at_i)
    rwa [samples, List.map_map]

end

/-- A file that gets finished on a reliable sink, with a movie box whose size has room in its field,
is three boxes back to back, and a reader gets from it the NAL units of every access unit that was
kept, which of these are keyframes, and their times where they rise gently. -/
theorem mp4_gives_back {σ : Type} {sink : ByteSink σ} {held : σ → Bytes}
    (reliable : sink.IsReliable held) {parameters : StreamParameters} {out : σ}
    {s s' : Collector × σ}
    (begun : (Collector.writer sink).start parameters ({}, out) = (.ok (), s))
    {units : List AccessUnit}
    (finished : (Collector.writer sink).finish
      (units.foldl (fun s unit => ((Collector.writer sink).write unit s).2) s) = (.ok (), s'))
    (small : ∀ head data movie,
      (units.foldl (fun s unit => ((Collector.writer sink).write unit s).2) s).1.parts =
        .ok (head, data, movie) → FitsIn 32 movie.length) :
    ∃ file data movie table samples, held s'.2 = held out ++ file ∧
      GivesBack file (kept units) data movie table samples := by
  obtain ⟨c, out'⟩ := s
  obtain ⟨noSamples, rfl⟩ := Collector.start_samples begun
  rw [Collector.foldl_write] at finished small
  obtain ⟨head, data, movie, made, written⟩ :=
    Collector.finish_accepted reliable.keepsAccepted finished
  have movieFits := small head data movie made
  obtain ⟨holdsSome, dataIs, dataFits, rfl, m, samples, offset, rfl⟩ := Collector.parts_eq_ok made
  have collected : (units.foldl Collector.taking c).samples = (kept units).map sampleOf := by
    rw [Collector.samples_foldl_taking, show c.samples = [] from noSamples]
    rfl
  rw [collected] at holdsSome samples dataIs
  rw [← samples] at dataIs
  cases starts : (kept units).head? with
  | none =>
    rw [List.head?_eq_none_iff.1 starts] at holdsSome
    exact absurd rfl holdsSome
  | some first =>
    have givesBack := givesBack_file isStorable_of_mem_kept starts (showsKeyframe_of_kept starts)
      samples dataIs offset dataFits movieFits
    exact ⟨_, data, m.box.found, m.table, _, written, givesBack⟩

/-- A picture that needs earlier ones, a keyframe behind its parameter sets, a unit that holds
nothing for a sample, and one more picture. -/
def clipUnits : List AccessUnit :=
  let unit (millis : Nat) (payloads : List Bytes) : AccessUnit :=
    ⟨.ofMillis millis, payloads.map fun payload => .ofAnnexB ([0, 0, 1] ++ payload), false⟩
  [unit 0 [[0x41]], unit 40 [[0x67, 1, 2, 3], [0x68], [0x65, 7]], unit 80 [[0x09, 0xF0]],
    unit 120 [[0x06, 5], [0x41]]]

def clipParameters : StreamParameters := ⟨.h264, ⟨16, 16⟩, []⟩

theorem mp4_gives_back_clipUnits :
    ∃ s s', (Collector.writer CommandLine.collector).start clipParameters ({}, []) = (.ok (), s) ∧
      (Collector.writer CommandLine.collector).finish (clipUnits.foldl
        (fun s unit => ((Collector.writer CommandLine.collector).write unit s).2) s) =
          (.ok (), s') ∧
      (kept clipUnits).map content = [[[0x65, 7]], [[0x06, 5], [0x41]]] ∧
      ∃ file data movie table samples, s'.2.reverse.flatten = file ∧
        GivesBack file (kept clipUnits) data movie table samples := by
  refine ⟨_, _, rfl, rfl, by decide, ?_⟩
  refine @mp4_gives_back _ _ _ CommandLine.collector_isReliable clipParameters [] _ _ rfl clipUnits
    rfl ?_
  intro head data movie made
  cases made
  decide +kernel

end Mp4

end Footage
