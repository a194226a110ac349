import Footage.Proofs.Effects
import Footage.Proofs.Framing
import Footage.Recorder.Archive
import Mathlib.Data.List.SplitBy

/-!
# An archive gives packets back

An archive keeps NAL units in byte stream form with the time of their packet, and nothing that says
where a packet ends. What comes back are the runs of neighbours that were taken at the same time.

* `ofPackets_eq`: what an archive keeps.
* `sameTimeGroups_flatMap`: runs are told apart by their times.
* `archive_roundTrip`: the packets that come back, and what they keep of the packets that went in.
-/

namespace Footage

/-- The NAL unit that an archive gives back. -/
def NalUnit.reframed (unit : NalUnit) : NalUnit := .ofAnnexB (unit.framedForm true)

def firstTime (packets : List Packet) : WallTime := (packets.head?.map (·.wall)).getD .epoch

/-- Neighbours that were taken at the same time. -/
def sameTimeRuns (packets : List Packet) : List (List Packet) :=
  packets.splitBy (·.wall == ·.wall)

/-- The packet that an archive gives back for a run. Times are counted from `origin` on. -/
def Packet.ofRun (codec : Codec) (origin : WallTime) (index : Nat) (run : List Packet) : Packet :=
  { receiveId := index, codec, units := (run.flatMap (·.units)).map (·.reframed),
    pts := (firstTime run).since origin, wall := firstTime run }

def kept (packets : List Packet) : List Packet := packets.filter (!·.units.isEmpty)

/-- The packets that an archive gives back. Those without NAL units are lost, and a run of packets
that were taken at the same time has become one. -/
def PacketBuffer.rearchived (codec : Codec) (packets : List Packet) : PacketBuffer :=
  ⟨(sameTimeRuns (kept packets)).zipIdx.map fun (run, index) =>
    .ofRun codec (firstTime (kept packets)) index run⟩

/-! ## What an archive keeps -/

def Packet.archivedUnits (p : Packet) : List ArchivedUnit :=
  p.units.map fun unit => ⟨p.wall, .ofRole (unit.role p.codec), unit.framedForm true⟩

theorem Packet.archived_eq (p : Packet) : p.archived = .ok p.archivedUnits := by
  unfold archived archivedUnits
  refine mapM_ok fun unit _ => ?_
  obtain ⟨framed, made, payload⟩ := unit.toAnnexB_payload
  rw [made, ← payload]
  rfl

/-- Packets can always be archived. -/
theorem Track.ofPackets_eq (packets : List Packet) (size : Dimensions) :
    Track.ofPackets packets size =
      .ok ⟨(packets.head?.map (·.codec)).getD .unknown, size,
        packets.flatMap (·.archivedUnits)⟩ := by
  have units : packets.mapM (·.archived) = .ok (packets.map (·.archivedUnits)) :=
    mapM_ok fun p _ => p.archived_eq
  rw [ofPackets, units, List.flatMap_def]
  rfl

theorem contains_annexB (role : NalRole) : (NalFlags.ofRole role).contains .annexB = true := by
  cases role <;> rfl

theorem map_unit_archivedUnits (p : Packet) :
    p.archivedUnits.map (·.unit) = p.units.map (·.reframed) := by
  unfold Packet.archivedUnits
  rw [List.map_map]
  refine List.map_congr_left fun unit _ => ?_
  exact if_pos (contains_annexB _)

theorem time_of_mem {p : Packet} {archived : ArchivedUnit} (among : archived ∈ p.archivedUnits) :
    archived.time = p.wall := by
  obtain ⟨unit, _, rfl⟩ := List.mem_map.mp among
  rfl

theorem archivedUnits_of_empty {p : Packet} (empty : p.units = []) : p.archivedUnits = [] := by
  rw [Packet.archivedUnits, empty, List.map_nil]

/-- Packets without NAL units leave nothing. -/
theorem flatMap_kept {α : Type} {f : Packet → List α} (nothing : ∀ p, p.units = [] → f p = [])
    (packets : List Packet) : (kept packets).flatMap f = packets.flatMap f := by
  unfold kept
  induction packets with
  | nil => rfl
  | cons p rest ih =>
    rw [List.filter_cons, List.flatMap_cons, ← ih]
    split
    next => rw [List.flatMap_cons]
    next empty =>
      rw [nothing p (by simpa using empty)]
      rfl

theorem full_of_mem_kept {packets : List Packet} {p : Packet} (among : p ∈ kept packets) :
    p.units ≠ [] := by
  simpa using (List.mem_filter.mp among).2

/-! ## Runs -/

/-- All packets of a run have the time of its first one. -/
theorem wall_of_mem_run {run : List Packet}
    (same : run.IsChain fun p q => (p.wall == q.wall) = true) {p : Packet} (one : p ∈ run) :
    p.wall = firstTime run := by
  induction run with
  | nil => cases one
  | cons first rest ih =>
    rcases List.mem_cons.mp one with rfl | later
    · rfl
    · cases rest with
      | nil => cases later
      | cons second rest =>
        have step : first.wall = second.wall := by simpa using same.rel
        exact (ih same.tail later).trans step.symm

/-- Packets cut into runs: none is empty, and times tell neighbouring ones apart. -/
structure AreRuns (runs : List (List Packet)) : Prop where
  nonempty : ∀ run ∈ runs, run ≠ []
  full : ∀ run ∈ runs, ∀ p ∈ run, p.units ≠ []
  same : ∀ run ∈ runs, ∀ p ∈ run, p.wall = firstTime run
  apart : runs.IsChain fun run next => firstTime run ≠ firstTime next

theorem AreRuns.tail {run : List Packet} {rest : List (List Packet)} (h : AreRuns (run :: rest)) :
    AreRuns rest where
  nonempty other later := h.nonempty other (List.mem_cons_of_mem _ later)
  full other later := h.full other (List.mem_cons_of_mem _ later)
  same other later := h.same other (List.mem_cons_of_mem _ later)
  apart := h.apart.tail

theorem mem_of_mem_run {packets run : List Packet} (among : run ∈ sameTimeRuns packets) {p : Packet}
    (one : p ∈ run) : p ∈ packets := by
  rw [← List.flatten_splitBy (·.wall == ·.wall) packets]
  exact List.mem_flatten_of_mem among one

theorem areRuns_sameTimeRuns {packets : List Packet} (full : ∀ p ∈ packets, p.units ≠ []) :
    AreRuns (sameTimeRuns packets) := by
  have same : ∀ run ∈ sameTimeRuns packets, ∀ p ∈ run, p.wall = firstTime run :=
    fun run among p one => wall_of_mem_run (List.isChain_of_mem_splitBy among) one
  refine ⟨fun run => List.ne_nil_of_mem_splitBy, fun run among p one =>
    full p (mem_of_mem_run among one), same, ?_⟩
  refine List.IsChain.imp_of_mem_imp (fun run next among _ apart => ?_)
    (List.isChain_getLast_head_splitBy _ packets)
  obtain ⟨some, some', differ⟩ := apart
  rw [← same run among _ (List.getLast_mem some)]
  cases next with
  | nil => exact absurd rfl some'
  | cons q next =>
    show _ ≠ q.wall
    simpa using differ

/-! ## Telling runs apart -/

theorem head?_sameTimeGroups (archived : List ArchivedUnit) :
    (PacketBuffer.sameTimeGroups archived).head?.map (·.1) = archived.head?.map (·.time) := by
  cases archived with
  | nil => rfl
  | cons first rest =>
    rw [PacketBuffer.sameTimeGroups]
    split
    · split
      next same => simp [same]
      next => rfl
    · rfl

/-- Units of one time are put together, if the next one is of another time. -/
theorem sameTimeGroups_append {time : WallTime} {units rest : List ArchivedUnit}
    (some : units ≠ []) (same : ∀ archived ∈ units, archived.time = time)
    (apart : ∀ archived ∈ rest.head?, archived.time ≠ time) :
    PacketBuffer.sameTimeGroups (units ++ rest) =
      (time, units.map (·.unit)) :: PacketBuffer.sameTimeGroups rest := by
  induction units with
  | nil => exact absurd rfl some
  | cons first units ih =>
    have start : first.time = time := same first List.mem_cons_self
    rw [List.cons_append, PacketBuffer.sameTimeGroups]
    cases units with
    | nil =>
      -- the last one of this time stays by itself
      rw [List.nil_append, start]
      have behind := head?_sameTimeGroups rest
      cases groups : PacketBuffer.sameTimeGroups rest with
      | nil => rfl
      | cons group more =>
        obtain ⟨next, group⟩ := group
        cases rest with
        | nil => cases groups
        | cons archived rest =>
          have other : next ≠ time := by
            have same : next = archived.time := by simpa [groups] using behind
            exact same ▸ apart archived rfl
          simp [other]
    | cons second units =>
      rw [ih nofun fun archived later => same archived (List.mem_cons_of_mem _ later)]
      simp [start]

theorem head?_flatMap_archivedUnits {packets : List Packet} (full : ∀ p ∈ packets, p.units ≠ []) :
    (packets.flatMap (·.archivedUnits)).head?.map (·.time) = packets.head?.map (·.wall) := by
  cases packets with
  | nil => rfl
  | cons p rest =>
    cases units : p.units with
    | nil => exact absurd units (full p List.mem_cons_self)
    | cons unit more => simp [Packet.archivedUnits, units]

/-- The first unit of some runs has the time of the first run. -/
theorem AreRuns.time_of_head {runs : List (List Packet)} (h : AreRuns runs)
    {archived : ArchivedUnit}
    (first : archived ∈ (runs.flatten.flatMap (·.archivedUnits)).head?) :
    ∃ run ∈ runs.head?, archived.time = firstTime run := by
  have full : ∀ p ∈ runs.flatten, p.units ≠ [] := by
    intro p among
    obtain ⟨run, one, inside⟩ := List.mem_flatten.mp among
    exact h.full run one p inside
  have time := head?_flatMap_archivedUnits full
  rw [Option.mem_def.mp first, Option.map_some] at time
  cases runs with
  | nil => cases time
  | cons run rest =>
    refine ⟨run, rfl, ?_⟩
    cases run with
    | nil => exact absurd rfl (h.nonempty [] List.mem_cons_self)
    | cons p run => exact Option.some.inj time

/-- Runs are told apart by their times. -/
theorem sameTimeGroups_flatMap {runs : List (List Packet)} (h : AreRuns runs) :
    PacketBuffer.sameTimeGroups (runs.flatten.flatMap (·.archivedUnits)) =
      runs.map fun run => (firstTime run, (run.flatMap (·.units)).map (·.reframed)) := by
  induction runs with
  | nil => rfl
  | cons run rest ih =>
    have some : run.flatMap (·.archivedUnits) ≠ [] := by
      intro nothing
      have time := head?_flatMap_archivedUnits (h.full run List.mem_cons_self)
      rw [nothing] at time
      cases run with
      | nil => exact h.nonempty [] List.mem_cons_self rfl
      | cons p run => cases time
    have same : ∀ archived ∈ run.flatMap (·.archivedUnits), archived.time = firstTime run := by
      intro archived among
      obtain ⟨p, one, unit⟩ := List.mem_flatMap.mp among
      exact (time_of_mem unit).trans (h.same run List.mem_cons_self p one)
    have apart : ∀ archived ∈ (rest.flatten.flatMap (·.archivedUnits)).head?,
        archived.time ≠ firstTime run := by
      intro archived first
      obtain ⟨next, behind, time⟩ := h.tail.time_of_head first
      rw [time]
      exact (h.apart.rel_head? behind).symm
    rw [List.flatten_cons, List.flatMap_append, sameTimeGroups_append some same apart, ih h.tail,
      List.map_cons, List.map_flatMap, List.map_flatMap]
    simp only [map_unit_archivedUnits]

/-! ## The round trip -/

/-- What is read of an archive of packets. -/
theorem ofArchive_archivedUnits (codec : Codec) (packets : List Packet) :
    PacketBuffer.ofArchive codec (packets.flatMap (·.archivedUnits)) =
      .rearchived codec packets := by
  have full : ∀ p ∈ kept packets, p.units ≠ [] := fun p => full_of_mem_kept
  have all : (kept packets).flatMap (·.archivedUnits) = packets.flatMap (·.archivedUnits) :=
    flatMap_kept (fun p => archivedUnits_of_empty) packets
  have groups := sameTimeGroups_flatMap (areRuns_sameTimeRuns full)
  have origin := head?_flatMap_archivedUnits full
  rw [sameTimeRuns, List.flatten_splitBy, ← sameTimeRuns, all] at groups
  rw [all] at origin
  unfold PacketBuffer.ofArchive PacketBuffer.rearchived
  simp only [groups, origin, List.zipIdx_map, List.map_map]
  rfl

/-- What a view of a packet shows of its run alone can be told from the runs. -/
theorem map_rearchived {α : Type} {codec : Codec} {packets : List Packet} {view : Packet → α}
    {runView : List Packet → α}
    (alone : ∀ run ∈ sameTimeRuns (kept packets), ∀ origin index,
      view (.ofRun codec origin index run) = runView run) :
    (PacketBuffer.rearchived codec packets).packets.map view =
      (sameTimeRuns (kept packets)).map runView := by
  unfold PacketBuffer.rearchived
  rw [List.map_map]
  calc (sameTimeRuns (kept packets)).zipIdx.map _
      = (sameTimeRuns (kept packets)).zipIdx.map fun numbered => runView numbered.1 :=
        List.map_congr_left fun numbered among =>
          alone numbered.1 (List.fst_mem_of_mem_zipIdx among) _ _
    _ = ((sameTimeRuns (kept packets)).zipIdx.map (·.1)).map runView := by
      rw [List.map_map]
      rfl
    _ = (sameTimeRuns (kept packets)).map runView := by rw [List.zipIdx_map_fst]

/-- Runs have everything that the packets have. -/
theorem flatMap_sameTimeRuns {α : Type} (f : Packet → List α) (packets : List Packet) :
    (sameTimeRuns packets).flatMap (·.flatMap f) = packets.flatMap f := by
  rw [← List.flatMap_assoc, List.flatMap_id', sameTimeRuns, List.flatten_splitBy]

/-- What the packet of a run has of each of its packets, all packets together have. -/
theorem flatMap_rearchived {α : Type} {codec : Codec} {packets : List Packet}
    {view part : Packet → List α}
    (parts : ∀ run ∈ sameTimeRuns (kept packets), ∀ origin index,
      view (.ofRun codec origin index run) = run.flatMap part)
    (nothing : ∀ p, p.units = [] → part p = []) :
    (PacketBuffer.rearchived codec packets).packets.flatMap view = packets.flatMap part := by
  rw [List.flatMap_def, map_rearchived parts, ← List.flatMap_def, flatMap_sameTimeRuns]
  exact flatMap_kept nothing packets

theorem units_rearchived (codec : Codec) (packets : List Packet) :
    (PacketBuffer.rearchived codec packets).packets.flatMap (·.units) =
      (packets.flatMap (·.units)).map (·.reframed) := by
  rw [List.map_flatMap]
  refine flatMap_rearchived (fun run _ _ _ => List.map_flatMap) fun p empty => ?_
  rw [empty, List.map_nil]

/-- The packet of a run leaves what the packets of the run left. -/
theorem archivedUnits_ofRun {codec : Codec} {run : List Packet}
    (one : ∀ p ∈ run, p.codec = codec) (same : ∀ p ∈ run, p.wall = firstTime run)
    (origin : WallTime) (index : Nat) :
    (Packet.ofRun codec origin index run).archivedUnits = run.flatMap (·.archivedUnits) := by
  unfold Packet.archivedUnits Packet.ofRun
  rw [List.map_map, List.map_flatMap]
  refine List.flatMap_congr fun p among => List.map_congr_left fun unit _ => ?_
  rw [Function.comp_apply, NalUnit.reframed, NalUnit.framedForm_framedForm, NalUnit.role_framedForm,
    one p among, same p among]

theorem archivedUnits_rearchived {codec : Codec} {packets : List Packet}
    (one : ∀ p ∈ packets, p.codec = codec) :
    (PacketBuffer.rearchived codec packets).packets.flatMap (·.archivedUnits) =
      packets.flatMap (·.archivedUnits) := by
  have runs := areRuns_sameTimeRuns fun p (among : p ∈ kept packets) => full_of_mem_kept among
  refine flatMap_rearchived (fun run among origin index => ?_) fun p => archivedUnits_of_empty
  refine archivedUnits_ofRun (fun p inside => one p ?_) (runs.same run among) origin index
  exact (List.mem_filter.mp (mem_of_mem_run among inside)).1

/-- Packets whose times tell them apart come back one by one. -/
theorem boundaries_rearchived {codec : Codec} {packets : List Packet}
    (full : ∀ p ∈ packets, p.units ≠ []) (apart : packets.IsChain (·.wall ≠ ·.wall)) :
    (PacketBuffer.rearchived codec packets).packets.map (fun p => (p.wall, p.units)) =
      packets.map fun p => (p.wall, p.units.map (·.reframed)) := by
  have all : kept packets = packets :=
    List.filter_eq_self.mpr fun p among => by simpa using full p among
  have runs : sameTimeRuns (kept packets) = packets.map ([·]) := by
    rw [all, sameTimeRuns, List.splitBy_eq_iff]
    refine ⟨?_, ?_, ?_, ?_⟩
    · rw [← List.flatMap_def, List.flatMap_singleton']
    · simp
    · intro run among
      obtain ⟨p, _, rfl⟩ := List.mem_map.mp among
      exact List.isChain_singleton p
    · rw [List.isChain_map]
      refine apart.imp fun p q differ => ⟨nofun, nofun, ?_⟩
      simpa using differ
  have views : (PacketBuffer.rearchived codec packets).packets.map (fun p => (p.wall, p.units)) =
      (sameTimeRuns (kept packets)).map fun run =>
        (firstTime run, (run.flatMap (·.units)).map (·.reframed)) :=
    map_rearchived fun run _ _ _ => rfl
  rw [views, runs, List.map_map]
  refine List.map_congr_left fun p _ => ?_
  simp [firstTime]

/-- Packets of one codec can always be archived. What comes back is `rearchived`: packets without
NAL units are left out, neighbours of one time are put together, and each NAL unit has the byte
stream form of the one that went in. So packets survive if all of them have NAL units and no
neighbours have the same time, and raw payloads survive unless a NAL unit denies an escape that it
has. Archiving what came back gives the same archive. -/
theorem archive_roundTrip {codec : Codec} {packets : List Packet}
    (one : ∀ p ∈ packets, p.codec = codec) (size : Dimensions) :
    ∃ track, Track.ofPackets packets size = .ok track ∧
      PacketBuffer.ofArchive codec track.units = .rearchived codec packets ∧
      (∀ unit : NalUnit, ∃ framed, unit.toAnnexB = .ok framed ∧
        unit.reframed = .ofAnnexB framed.payload) ∧
      ((∀ p ∈ packets, p.units ≠ []) → packets.IsChain (·.wall ≠ ·.wall) →
        (PacketBuffer.rearchived codec packets).packets.map (fun p => (p.wall, p.units)) =
          packets.map fun p => (p.wall, p.units.map (·.reframed))) ∧
      ((∀ p ∈ packets, ∀ unit ∈ p.units, unit.isAnnexB = true → unit.hasNoEscapes = true →
          ¬[0, 0, 3] <:+: unit.body) →
        ((PacketBuffer.rearchived codec packets).packets.flatMap (·.units)).map (·.toRaw) =
          (packets.flatMap (·.units)).map (·.toRaw)) ∧
      ∀ size', ∃ again,
        Track.ofPackets (PacketBuffer.rearchived codec packets).packets size' = .ok again ∧
          again.units = track.units := by
  refine ⟨_, Track.ofPackets_eq packets size, ofArchive_archivedUnits codec packets,
    fun unit => ?_, boundaries_rearchived, fun honest => ?_, fun size' => ?_⟩
  · obtain ⟨framed, made, payload⟩ := unit.toAnnexB_payload
    exact ⟨framed, made, by rw [payload, NalUnit.reframed]⟩
  · rw [units_rearchived, List.map_map]
    refine List.map_congr_left fun unit among => ?_
    obtain ⟨p, inside, unit⟩ := List.mem_flatMap.mp among
    exact NalUnit.toRaw_framedForm (honest p inside _ unit)
  · exact ⟨_, Track.ofPackets_eq _ size', archivedUnits_rearchived one⟩

/-- A packet without NAL units between two of one time, and a clock that was set back. -/
def restlessPackets : List Packet := [
  { codec := .h264, units := [.ofRaw [0x65, 0, 0, 1]], pts := .zero, wall := ⟨100⟩ },
  { codec := .h264, units := [], pts := .ofMillis 40, wall := ⟨200⟩ },
  { codec := .h264, units := [.ofAnnexB [0, 0, 0, 1, 0x41]], pts := .ofMillis 80, wall := ⟨100⟩ },
  { codec := .h264, units := [.ofAnnexB [0x41, 2]], pts := .ofMillis 120, wall := ⟨50⟩ }]

theorem archive_roundTrip_restlessPackets :
    (∀ p ∈ restlessPackets, p.codec = .h264) ∧
    ∃ track, Track.ofPackets restlessPackets ⟨640, 480⟩ = .ok track ∧
      PacketBuffer.ofArchive .h264 track.units = ⟨[
        { receiveId := 0, codec := .h264,
          units := [.ofAnnexB [0, 0, 1, 0x65, 0, 0, 3, 1], .ofAnnexB [0, 0, 0, 1, 0x41]],
          pts := .zero, wall := ⟨100⟩ },
        { receiveId := 1, codec := .h264, units := [.ofAnnexB [0, 0, 1, 0x41, 2]],
          pts := .zero, wall := ⟨50⟩ }]⟩ := by
  have one : ∀ p ∈ restlessPackets, p.codec = .h264 := by decide
  obtain ⟨track, made, back, -⟩ := archive_roundTrip one ⟨640, 480⟩
  exact ⟨one, track, made, back.trans rfl⟩

end Footage
