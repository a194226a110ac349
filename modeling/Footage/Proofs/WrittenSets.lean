import Footage.Proofs.DecodeTimes
import Footage.Proofs.PictureContent
import Mathlib.Data.List.Nodup

/-!
# Which parameter sets a transport stream holds

The writer takes the parameter sets out of every access unit. It writes sets only in front of
keyframes, and keeps one of each type for that. So a set gets into the stream just if a keyframe
comes while it is the latest of its type. One that is followed by another of its type before, in the
same unit or a later one, is lost, and with it the pictures that need it.

* `KeepsLatest`: what is kept, told of all sets that have come. `forall₂_seen`: the writer keeps
  to it.
* `Seen.written`, `mem_written_iff`: the NAL units of a picture, and the sets among them.
* `parameterSet_written_iff`: which sets a receiver of the stream gets, and by when.
  `parameterSet_lost`: not all that it needs.
-/

namespace Footage.TransportStream

open AnnexB

variable {codec : Codec} {known sets : List Bytes} {set : Bytes}

/-! ## Sets that are kept -/

/-- The payload has come, and no other one of its type since. -/
def IsLatest (codec : Codec) (known : List Bytes) (set : Bytes) : Prop :=
  (typeOf? codec set).bind (latest? codec known) = some set

instance : Decidable (IsLatest codec known set) := inferInstanceAs (Decidable (_ = _))

theorem isLatest_iff : IsLatest codec known set ↔ ∃ type, latest? codec known type = some set := by
  unfold IsLatest
  rw [Option.bind_eq_some_iff]
  constructor
  · rintro ⟨type, -, found⟩
    exact ⟨type, found⟩
  · rintro ⟨type, found⟩
    exact ⟨type, typeOf?_of_latest? found, found⟩

theorem AreLatest.mem_iff {types : List UInt8} (latest : AreLatest codec types known sets) :
    set ∈ sets ↔ ∃ type ∈ types, latest? codec known type = some set := by
  induction latest with
  | nil => simp
  | cons found _ ih =>
    rw [List.mem_cons, List.exists_mem_cons_iff, ih, found, Option.some.injEq, eq_comm]

/-- The latest sets of all types that have come. -/
def KeepsLatest (codec : Codec) (known sets : List Bytes) : Prop :=
  ∃ types : List UInt8, types.Nodup ∧ AreLatest codec types known sets ∧
    ∀ payload ∈ known, ∃ type ∈ types, typeOf? codec payload = some type

namespace KeepsLatest

theorem nil : KeepsLatest codec [] [] := ⟨[], List.nodup_nil, .nil, nofun⟩

theorem remember (kept : KeepsLatest codec known sets) (full : set ≠ []) :
    KeepsLatest codec (known ++ [set]) (TransportStream.remember codec set sets) := by
  obtain ⟨types, once, latest, covered⟩ := kept
  obtain ⟨type, typed⟩ : ∃ type, typeOf? codec set = some type := by
    obtain ⟨header, rest, rfl⟩ := List.exists_cons_of_ne_nil full
    exact ⟨_, rfl⟩
  by_cases among : type ∈ types
  · refine ⟨types, once, latest.remember once typed among, ?_⟩
    exact List.forall_mem_append.mpr ⟨covered, List.forall_mem_singleton.mpr ⟨type, among, typed⟩⟩
  · refine ⟨types ++ [type], ?_, latest.remember_fresh typed among, ?_⟩
    · exact List.Nodup.append once (List.nodup_singleton type) (List.disjoint_singleton.mpr among)
    · refine List.forall_mem_append.mpr ⟨fun payload earlier => ?_, ?_⟩
      · obtain ⟨other, inside, same⟩ := covered payload earlier
        exact ⟨other, List.mem_append_left _ inside, same⟩
      · exact List.forall_mem_singleton.mpr ⟨type, by simp, typed⟩

theorem foldl_remember (kept : KeepsLatest codec known sets) {later : List Bytes}
    (full : ∀ set ∈ later, set ≠ []) :
    KeepsLatest codec (known ++ later)
      (later.foldl (fun sets set => TransportStream.remember codec set sets) sets) := by
  induction later generalizing known sets with
  | nil => rwa [List.append_nil]
  | cons set later ih =>
    have next := ih (kept.remember (full set List.mem_cons_self)) fun set behind =>
      full set (List.mem_cons_of_mem _ behind)
    rwa [List.append_assoc, List.singleton_append] at next

theorem mem_iff (kept : KeepsLatest codec known sets) : set ∈ sets ↔ IsLatest codec known set := by
  obtain ⟨types, -, latest, covered⟩ := kept
  rw [latest.mem_iff, isLatest_iff]
  refine ⟨fun ⟨type, _, found⟩ => ⟨type, found⟩, fun ⟨type, found⟩ => ?_⟩
  obtain ⟨other, among, typed⟩ :=
    covered set (List.mem_reverse.mp (List.mem_of_find?_eq_some found))
  obtain rfl : other = type := Option.some.inj (typed.symm.trans (typeOf?_of_latest? found))
  exact ⟨other, among, found⟩

end KeepsLatest

/-! ## Sets that are written -/

/-- The NAL units of a picture: the delimiter, the parameter sets if it is a keyframe, the rest. -/
def Seen.written (codec : Codec) (s : Seen) : List Bytes :=
  delimiter codec :: (if showsKeyframe codec s.unit then s.sets else []) ++ content codec s.unit

/-- Parameter sets are written for keyframes only, and only those that were kept. -/
theorem Seen.mem_written_iff {s : Seen} (isSet : roleOf codec set = .parameterSet) :
    set ∈ s.written codec ↔ showsKeyframe codec s.unit = true ∧ set ∈ s.sets := by
  have noDelimiter : set ≠ delimiter codec := by
    rintro rfl
    cases codec <;> exact absurd isSet (by decide)
  have noContent : set ∉ content codec s.unit := by
    intro inside
    have := (List.mem_filter.mp inside).2
    simp [isSet] at this
  unfold written
  split
  next keyframe => simp [noDelimiter, noContent, keyframe]
  next other => simp [noDelimiter, noContent, other]

/-- Access units with all parameter sets that have come by then, the oldest first. -/
def hearing (codec : Codec) (known : List Bytes) : List AccessUnit → List Seen
  | [] => []
  | unit :: rest =>
    let known := known ++ setsIn codec unit
    ⟨unit, known⟩ :: hearing codec known rest

theorem ne_nil_of_mem_setsIn {unit : AccessUnit} : ∀ set ∈ setsIn codec unit, set ≠ [] := by
  intro set among
  have inside := (List.mem_filter.mp among).1
  simpa using (List.mem_filter.mp inside).2

/-- From the latest sets on, what is kept with each unit are the latest sets again. -/
theorem forall₂_seen (kept : KeepsLatest codec known sets) (units : List AccessUnit) :
    List.Forall₂ (fun s h => s.unit = h.unit ∧ KeepsLatest codec h.sets s.sets)
      (seen codec sets units) (hearing codec known units) := by
  induction units generalizing known sets with
  | nil => exact .nil
  | cons unit rest ih =>
    have full : ∀ set ∈ setsIn codec unit, set ≠ [] := ne_nil_of_mem_setsIn
    have next := kept.foldl_remember full
    exact .cons ⟨rfl, next⟩ (ih next)

/-- What is due does not depend on the sets. -/
theorem forall₂_due {related : Seen → Seen → Prop} {front back : List Seen}
    (all : List.Forall₂ related front back) (same : ∀ {s h}, related s h → s.unit = h.unit)
    (isStarted : Bool) :
    List.Forall₂ related (due codec isStarted front) (due codec isStarted back) := by
  induction all generalizing isStarted with
  | nil => cases isStarted <;> exact .nil
  | cons one _ ih =>
    rw [due_cons, due_cons, same one]
    split
    · exact .cons one (ih true)
    · exact ih isStarted

/-- The units that a stream is to hold, each with all parameter sets that have come by then, also
those in units that are left out. -/
def dueHearing (parameters : StreamParameters) (units : List AccessUnit) : List Seen :=
  due parameters.codec false
    (hearing parameters.codec (nonempty parameters.parameterSets) units)

/-- With a keyframe the latest sets are written, and no sets with other pictures. -/
theorem forall₂_written (parameters : StreamParameters) (units : List AccessUnit) :
    List.Forall₂ (fun written h => ∀ set, roleOf parameters.codec set = .parameterSet →
        (set ∈ written ↔ showsKeyframe parameters.codec h.unit = true ∧
          IsLatest parameters.codec h.sets set))
      ((dueUnits parameters units).map (·.written parameters.codec))
      (dueHearing parameters units) := by
  have full : ∀ set ∈ nonempty parameters.parameterSets, set ≠ [] := fun set inside => by
    simpa using (List.mem_filter.mp inside).2
  have start : KeepsLatest parameters.codec (nonempty parameters.parameterSets)
      (setsAtStart parameters) := KeepsLatest.nil.foldl_remember full
  rw [List.forall₂_map_left_iff]
  refine (forall₂_due (forall₂_seen start units) (fun one => one.1) false).imp ?_
  rintro s h ⟨same, kept⟩ set isSet
  rw [Seen.mem_written_iff isSet, same, kept.mem_iff]

/-! ## What a receiver gets -/

theorem exists_mem_iff_of_forall₂ {α β : Type} {p : α → Prop} {q : β → Prop} {front : List α}
    {back : List β} (all : List.Forall₂ (fun a b => p a ↔ q b) front back) :
    (∃ a ∈ front, p a) ↔ ∃ b ∈ back, q b := by
  induction all with
  | nil => simp
  | cons one _ ih => rw [List.exists_mem_cons_iff, List.exists_mem_cons_iff, one, ih]

theorem map_elementaryData (codec : Codec) (units : List Seen) :
    (elementaryPackets codec none none units).map elementaryData =
      (units.map (·.written codec)).map byteStream := by
  have each : ∀ (origin : Nat) (s : Seen) (dts : Nat),
      elementaryData (s.elementaryPacket codec origin dts) = byteStream (s.written codec) :=
    fun origin s dts => elementaryData_append _ _ _
  rw [elementaryPackets, List.map_zipWith, List.map_map]
  simp only [each]
  refine List.ext_getElem (by simp) fun index _ _ => ?_
  rw [List.getElem_zipWith, List.getElem_map]
  rfl

/-- A receiver of a stream that has taken access units gets the NAL units that are written for each
picture. A parameter set is among those of some picture up to the one at an index just if up to
there comes a keyframe while the set is the latest of its type, among the sets from the start and
from all units, those that are left out too. -/
theorem parameterSet_written_iff {σ : Type} {sink : ByteSink σ} {held : σ → Bytes}
    (keeps : sink.KeepsAccepted held) {parameters : StreamParameters} {out : σ} {s s' : Muxer × σ}
    (begun : (Muxer.writer sink).start parameters ({}, out) = (.ok (), s))
    {units : List AccessUnit} (done : forM units (Muxer.writer sink).write s = (.ok (), s')) :
    let written := (dueUnits parameters units).map (·.written parameters.codec)
    ∃ packets received pictures, held s'.2 = held out ++ packets.flatten ∧
      Accepts packets received ∧ demux received = ([], pictures) ∧
      pictures.map elementaryData = written.map byteStream ∧
      ∀ index set, roleOf parameters.codec set = .parameterSet →
        ((∃ nals ∈ written.take (index + 1), set ∈ nals) ↔
          ∃ h ∈ (dueHearing parameters units).take (index + 1),
            showsKeyframe parameters.codec h.unit = true ∧
              IsLatest parameters.codec h.sets set) := by
  obtain ⟨packets, received, octets, accepted, pictures⟩ := stream_accepted keeps begun done
  refine ⟨packets, received, _, octets, accepted, pictures, map_elementaryData _ _, ?_⟩
  intro index set isSet
  exact exists_mem_iff_of_forall₂
    ((List.forall₂_take (index + 1) (forall₂_written parameters units)).imp
      fun nals h one => one set isSet)

/-- A keyframe with two picture parameter sets, and a picture that comes with a third one. -/
def updatedUnits : List AccessUnit :=
  [⟨.zero, [.ofAnnexB [0, 0, 1, 0x67, 0x64], .ofAnnexB [0, 0, 1, 0x68, 0xCE],
      .ofAnnexB [0, 0, 1, 0x68, 0x5B], .ofAnnexB [0, 0, 1, 0x65, 0x88]], true⟩,
    ⟨.ofMillis 40, [.ofAnnexB [0, 0, 1, 0x68, 0x78], .ofAnnexB [0, 0, 1, 0x41, 0x9A]], false⟩]

/-- With one more keyframe the third set is written. The first one is not. -/
theorem parameterSet_written_iff_updatedUnits :
    CommandLine.collector.KeepsAccepted (fun newestFirst => newestFirst.reverse.flatten) ∧
    ∃ s s' packets received pictures,
    ∃ written : List (List Bytes),
      (Muxer.writer CommandLine.collector).start longParameters ({}, []) = (.ok (), s) ∧
      forM (updatedUnits ++ [⟨.ofMillis 80, [.ofAnnexB [0, 0, 1, 0x65]], true⟩])
        (Muxer.writer CommandLine.collector).write s = (.ok (), s') ∧
      s'.2.reverse.flatten = packets.flatten ∧ Accepts packets received ∧
      demux received = ([], pictures) ∧ pictures.map elementaryData = written.map byteStream ∧
      ¬(∃ nals ∈ written.take 3, [0x68, 0xCE] ∈ nals) ∧
      ¬(∃ nals ∈ written.take 2, [0x68, 0x78] ∈ nals) ∧
      ∃ nals ∈ written.take 3, [0x68, 0x78] ∈ nals := by
  have reliable := CommandLine.collector_isReliable
  have known : longParameters.codec ≠ .unknown := by decide
  obtain ⟨s, s', begun, done⟩ := exists_stream reliable known
    (updatedUnits ++ [⟨.ofMillis 80, [.ofAnnexB [0, 0, 1, 0x65]], true⟩])
    (counted_of_small (by decide) (by decide)) []
  obtain ⟨packets, received, pictures, octets, accepted, shown, same, written⟩ :=
    parameterSet_written_iff reliable.keepsAccepted begun done
  refine ⟨reliable.keepsAccepted, s, s', packets, received, pictures, _, begun, done, octets,
    accepted, shown, same, ?_, ?_, ?_⟩
  · rw [written 2 [0x68, 0xCE] (by decide)]
    decide
  · rw [written 1 [0x68, 0x78] (by decide)]
    decide
  · rw [written 2 [0x68, 0x78] (by decide)]
    decide

/-- Of the sets that come with pictures that are emitted, some are not in the octets that a receiver
gets of these or of any earlier picture. -/
theorem parameterSet_lost :
    ∃ s s' packets received first second,
      (Muxer.writer CommandLine.collector).start longParameters ({}, []) = (.ok (), s) ∧
      forM updatedUnits (Muxer.writer CommandLine.collector).write s = (.ok (), s') ∧
      s'.2.reverse.flatten = packets.flatten ∧ Accepts packets received ∧
      demux received = ([], [first, second]) ∧
      updatedUnits.map (setsIn .h264) =
        [[[0x67, 0x64], [0x68, 0xCE], [0x68, 0x5B]], [[0x68, 0x78]]] ∧
      ¬[0x68, 0xCE] <:+: first ∧ ¬[0x68, 0x78] <:+: first ∧ ¬[0x68, 0x78] <:+: second := by
  have reliable := CommandLine.collector_isReliable
  have known : longParameters.codec ≠ .unknown := by decide
  obtain ⟨s, s', begun, done⟩ :=
    exists_stream reliable known updatedUnits (counted_of_small (by decide) (by decide)) []
  obtain ⟨packets, received, octets, accepted, pictures⟩ :=
    stream_accepted reliable.keepsAccepted begun done
  exact ⟨s, s', packets, received, _, _, begun, done, octets, accepted, pictures, by decide,
    by decide, by decide, by decide⟩

end Footage.TransportStream
