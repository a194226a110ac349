import Footage.Proofs.ArchiveRoundTrip
import Footage.Proofs.ExportableWindow
import Footage.Proofs.PictureContent
import Footage.Proofs.RecorderRun

/-!
# The picture size of a stream

Two ways lead to a picture size. A buffer tells that of its first sequence parameter set, which is
also what a recorder stores and archives its tracks with. An export tells its writer that of the set
in force at the first keyframe, which is the last one up to there.

* `IsEarliest`: the first NAL unit of a type, where `IsInForce` is the last one.
* `RecordingRun.hasSize`: the size that a recorder stores and archives with.
* `started_size`: where both sizes come from, and when they are the same.
-/

namespace Footage

/-! ## The first parameter set -/

/-- The first NAL unit of the type: the first one in the first packet that has any. -/
def IsEarliest (packets : List Packet) (type : UInt8) (unit : NalUnit) : Prop :=
  ∃ front p back, packets = front ++ p :: back ∧ p.IsFirstOfType type unit ∧
    ∀ earlier ∈ front, earlier.hasType type = false

namespace IsEarliest

variable {packets : List Packet} {type : UInt8} {unit : NalUnit}

theorem append (h : IsEarliest packets type unit) (rest : List Packet) :
    IsEarliest (packets ++ rest) type unit := by
  obtain ⟨front, p, back, rfl, first, others⟩ := h
  exact ⟨front, p, back ++ rest, by rw [List.append_assoc, List.cons_append], first, others⟩

theorem exists_packet (h : IsEarliest packets type unit) :
    ∃ p ∈ packets, unit ∈ p.units ∧ unit.type p.codec = type := by
  obtain ⟨front, p, back, rfl, ⟨before, after, whole, typed, _⟩, _⟩ := h
  refine ⟨p, List.mem_append_right front List.mem_cons_self, ?_, typed⟩
  rw [whole]
  exact List.mem_append_right before List.mem_cons_self

end IsEarliest

theorem PacketBuffer.firstOfType?_eq_some_iff {buffer : PacketBuffer} {type : UInt8}
    {unit : NalUnit} :
    buffer.firstOfType? type = some unit ↔ IsEarliest buffer.packets type unit := by
  unfold firstOfType? IsEarliest
  simp only [List.findSome?_eq_some_iff, Packet.firstOfType?_eq_some_iff,
    Packet.firstOfType?_eq_none_iff]

theorem Packet.IsFirstOfType.hasType {p : Packet} {type : UInt8} {unit : NalUnit}
    (h : p.IsFirstOfType type unit) : p.hasType type = true := by
  rw [← Bool.not_eq_false, ← firstOfType?_eq_none_iff, firstOfType?_eq_some_iff.mpr h]
  nofun

/-- Where there is a last NAL unit of the type, there is a first one. -/
theorem IsInForce.exists_isEarliest {head : List Packet} {type : UInt8} {latest : NalUnit}
    (h : IsInForce head type latest) : ∃ earliest, IsEarliest head type earliest := by
  obtain ⟨front, p, back, rfl, first, _⟩ := h
  cases found : (PacketBuffer.mk (front ++ p :: back)).firstOfType? type with
  | some earliest => exact ⟨earliest, PacketBuffer.firstOfType?_eq_some_iff.mp found⟩
  | none =>
    have none := List.findSome?_eq_none_iff.mp found p
      (List.mem_append_right front List.mem_cons_self)
    rw [Packet.firstOfType?_eq_none_iff, first.hasType] at none
    cases none

/-! ## The size that a recorder stores -/

def ArchiveCall.tracks : ArchiveCall → List Track
  | write _ tracks _ => tracks.map (·.2)
  | flush => []

def WorkerStage.isCommitted : WorkerStage → Bool
  | waiting | attempting | guarding | refused | taken _ => false
  | _ => true

/-- What a recorder that has not registered knows of the size of its history. -/
def WorkerStage.Knows [H264.SizeReader] (size? : Option Dimensions) : WorkerStage → Prop
  | waiting | attempting | guarding | refused | stopped => True
  | taken history => ∃ size, history.pictureSize = .ok size ∧ size? = some size
  | _ => False

namespace Recording

variable {σ : Type}

/-- The recorder stores the size, and every track that it gave its archive has it. -/
structure HasSize (r : Recording (List ArchiveCall × σ)) (size : Dimensions) : Prop where
  stored : r.recorder.size = some size
  tracks : ∀ call ∈ r.archive.1, ∀ track ∈ call.tracks, track.size = size

/-- The recorder has written nothing, and stores the size of the history that it has. -/
structure IsPending [H264.SizeReader] (r : Recording (List ArchiveCall × σ)) : Prop where
  calls : r.archive.1 = []
  knows : r.stage.Knows r.recorder.size

end Recording

section Runs

variable {σ : Type} {r r' : Recording (List ArchiveCall × σ)} {sink : ArchiveSink σ} {t : Nat}
  {e : RecordingEvent} {es : List RecordingEvent} {size : Dimensions}

namespace Recording

theorem HasSize.of_call (h : r.HasSize size) {call : ArchiveCall}
    (sized : ∀ track ∈ call.tracks, track.size = size) :
    ∀ made ∈ r.archive.1 ++ [call], ∀ track ∈ made.tracks, track.size = size := by
  intro made held
  rcases List.mem_append.mp held with earlier | newest
  · exact h.tracks made earlier
  · rw [List.mem_singleton.mp newest]
    exact sized

/-- A batch is written with the size that the recorder stores. -/
theorem HasSize.wrote (h : r.HasSize size) (packets : List Packet) (stage : WorkerStage) :
    (r.wrote (Recorder.writeBatch sink.logging packets) stage).HasSize size := by
  obtain ⟨track, video⟩ := r.recorder.exists_track packets
  obtain ⟨accepted, archive, wrote⟩ :=
    Recorder.writeBatch_logging sink r.recorder r.archive.1 r.archive.2 video
  have sized : track.size = size := by
    rw [Recorder.track, Track.ofPackets_eq, h.stored] at video
    cases video
    rfl
  have after : r.wrote (Recorder.writeBatch sink.logging packets) stage =
      { r with recorder := r.recorder.counting packets accepted,
               archive := (r.archive.1 ++
                 [.write r.recorder.stream [(videoTrack, track)] accepted], archive),
               stage } :=
    congrArg (fun after : Recorder × List ArchiveCall × σ =>
      { r with recorder := after.1, archive := after.2, stage }) wrote
  rw [after]
  refine ⟨?_, h.of_call fun written held => ?_⟩
  · cases accepted <;> exact h.stored
  · rw [List.mem_singleton.mp held]
    exact sized

theorem HasSize.step [H264.SizeReader] (h : r.HasSize size) (committed : r.stage.isCommitted = true)
    (step : RecordingStep sink.logging t r e r') :
    r'.HasSize size ∧ r'.stage.isCommitted = true := by
  cases step with
  | attempt here | giveUp here | lock here | refuse here | refuseSize here | take here | retry here
    | handOff here =>
    rw [here] at committed
    cases committed
  | requestStop | others | await | discard | drop => exact ⟨⟨h.stored, h.tracks⟩, committed⟩
  | unlock | record | receive | leave | unlisten | unlistenUnknown | settle | settled | stop =>
    exact ⟨⟨h.stored, h.tracks⟩, rfl⟩
  | flush => exact ⟨⟨h.stored, h.of_call nofun⟩, rfl⟩
  | @writeBacklog history =>
    -- the history is counted before it is written, which does not concern the size
    have counted : Recording.HasSize { r with recorder := { r.recorder with
        historyPackets := r.recorder.historyPackets + history.backlog.length } } size :=
      ⟨h.stored, h.tracks⟩
    exact ⟨counted.wrote history.backlog .flushing, rfl⟩
  | write => exact ⟨h.wrote _ _, rfl⟩

theorem HasSize.run [H264.SizeReader] (h : r.HasSize size) (committed : r.stage.isCommitted = true)
    (run : RecordingRun sink.logging t r es r') : r'.HasSize size := by
  induction run with
  | nil => exact h
  | cons step _ ih =>
    obtain ⟨next, committed'⟩ := h.step committed step
    exact ih next committed'

theorem IsPending.step [H264.SizeReader] (h : r.IsPending)
    (step : RecordingStep sink.logging t r e r')
    (before : ∀ history, e ≠ .handOff history) : r'.IsPending := by
  have knows {stage : WorkerStage} (here : r.stage = stage) : stage.Knows r.recorder.size :=
    here ▸ h.knows
  cases step with
  | requestStop | others | drop => exact ⟨h.calls, h.knows⟩
  | attempt | giveUp | lock | refuse | refuseSize | retry => exact ⟨h.calls, trivial⟩
  | take _ _ sized => exact ⟨h.calls, _, sized, rfl⟩
  | handOff => exact absurd rfl (before _)
  | unlock here | writeBacklog here | flush here | record here | receive here | await here
    | write here | leave here | unlisten here | unlistenUnknown here | settle here | settled here
    | discard here | stop here => exact (knows here).elim

/-- A recorder registers with the history whose size it stores. -/
theorem IsPending.handOff [H264.SizeReader] (h : r.IsPending) {history : PacketBuffer}
    (step : RecordingStep sink.logging t r (.handOff history) r') :
    ∃ size, history.pictureSize = .ok size ∧ r'.HasSize size ∧ r'.stage.isCommitted = true := by
  cases step with
  | handOff here =>
    have knows := h.knows
    rw [here] at knows
    obtain ⟨size, told, stored⟩ := knows
    refine ⟨size, told, ⟨stored, fun call made => ?_⟩, rfl⟩
    have none : call ∈ [] := h.calls ▸ made
    cases none

theorem IsPending.run [H264.SizeReader] (h : r.IsPending)
    (run : RecordingRun sink.logging t r es r')
    {window : PacketBuffer} {later : List RecordingEvent}
    (registers : afterHandOff es = some (window, later)) :
    ∃ size, window.pictureSize = .ok size ∧ r'.HasSize size := by
  induction run with
  | nil => cases registers
  | @cons r middle r'' e es step run ih =>
    by_cases here : ∃ history, e = .handOff history
    · obtain ⟨history, rfl⟩ := here
      cases registers
      obtain ⟨size, told, has, committed⟩ := h.handOff step
      exact ⟨size, told, has.run committed run⟩
    · have other (history : PacketBuffer) : e ≠ .handOff history := fun is => here ⟨history, is⟩
      rw [afterHandOff_of_ne other] at registers
      exact ih (h.step step other) registers

end Recording

/-- The size that a recorder stores, and archives with, is what the history tells with which it
registers. -/
theorem RecordingRun.hasSize [H264.SizeReader] {threads : System} {stream : String}
    {settings : RecorderSettings}
    {archive : σ} {window : PacketBuffer} {later : List RecordingEvent}
    (run : RecordingRun sink.logging t (.start threads stream settings ([], archive)) es r)
    (registers : afterHandOff es = some (window, later)) :
    ∃ size, window.pictureSize = .ok size ∧ r.HasSize size :=
  have pending : (Recording.start threads stream settings
    (([] : List ArchiveCall), archive)).IsPending := ⟨rfl, trivial⟩
  pending.run run registers

end Runs

/-! ## The size that an export starts with -/

/-- An export that calls its writer starts with the parameters that it found. -/
theorem PacketBuffer.exportsFrom_of_started [H264.SizeReader] {σ : Type} {buffer : PacketBuffer}
    {writer : ContainerWriter σ} {s s' : σ} {result : Except PacketError Unit}
    {log : List WriterCall} {parameters : StreamParameters}
    (exported : buffer.exportTo writer.logging ([], s) = (result, (log, s')))
    (started : .start parameters ∈ log) :
    ∃ first units, buffer.ExportsFrom first parameters units := by
  rcases buffer.exportTo_outcome with
    ⟨error, -, refused⟩ | ⟨first, parameters', units, exports, calls⟩
  · rw [refused] at exported
    cases exported
    cases started
  · obtain ⟨plain, made, s₁, makes, -, logged⟩ :=
      writer.makes_logging (exportCalls parameters' units) [] s
    rw [calls, Effect.rename_apply, logged, List.append_nil] at exported
    cases exported
    have among := makes.made_prefix.subset (List.mem_reverse.mp started)
    obtain rfl : parameters = parameters' := by
      rcases List.mem_cons.mp among with same | later
      · exact WriterCall.start.inj same
      · rcases List.mem_append.mp later with written | finished
        · obtain ⟨_, _, other⟩ := List.mem_map.mp written
          cases other
        · cases List.mem_singleton.mp finished
    exact ⟨first, units, exports⟩

/-- Where a sequence parameter set is in force, the buffer tells the size in its first one, which
comes no later. -/
theorem PacketBuffer.pictureSize_of_isInForce [H264.SizeReader] {buffer : PacketBuffer}
    {count : Nat} {type : UInt8}
    {latest : NalUnit} (isSps : buffer.codec.spsType? = some type)
    (inForce : IsInForce (buffer.packets.take count) type latest) :
    ∃ earliest, IsEarliest (buffer.packets.take count) type earliest ∧
      IsEarliest buffer.packets type earliest ∧
      buffer.pictureSize =
        (buffer.codec.pictureSize earliest.toRaw.payload).mapError .bitstream := by
  obtain ⟨earliest, inHead⟩ := inForce.exists_isEarliest
  have inBuffer := inHead.append (buffer.packets.drop count)
  rw [List.take_append_drop] at inBuffer
  refine ⟨earliest, inHead, inBuffer, ?_⟩
  unfold pictureSize
  simp only [isSps, firstOfType?_eq_some_iff.mpr inBuffer]

/-- An export that calls its writer tells it the size in the sequence parameter set in force at the
first keyframe. The buffer itself tells the size in its first one, and both are the same exactly if
the two sets tell the same, so they are if no set up to the keyframe tells another one. A recorder
that registers with the buffer as its history stores the size that the buffer tells, and gives it to
every track that it writes. -/
theorem started_size [H264.SizeReader] {σ : Type} {buffer : PacketBuffer}
    {writer : ContainerWriter σ} {s s' : σ}
    {result : Except PacketError Unit} {log : List WriterCall} {parameters : StreamParameters}
    (exported : buffer.exportTo writer.logging ([], s) = (result, (log, s')))
    (started : .start parameters ∈ log) :
    (∃ first p type earliest latest, buffer.IsFirstKeyframe first p ∧
      buffer.codec.spsType? = some type ∧ IsEarliest buffer.packets type earliest ∧
      IsInForce (buffer.packets.take (first + 1)) type latest ∧
      buffer.codec.pictureSize latest.toRaw.payload = .ok parameters.size ∧
      buffer.pictureSize = (buffer.codec.pictureSize earliest.toRaw.payload).mapError .bitstream ∧
      (buffer.pictureSize = .ok parameters.size ↔
        buffer.codec.pictureSize earliest.toRaw.payload =
          buffer.codec.pictureSize latest.toRaw.payload) ∧
      ((∀ q ∈ buffer.packets.take (first + 1), ∀ unit ∈ q.units, unit.type q.codec = type →
          buffer.codec.pictureSize unit.toRaw.payload =
            buffer.codec.pictureSize latest.toRaw.payload) →
        buffer.pictureSize = .ok parameters.size)) ∧
    ∀ (ρ : Type) (sink : ArchiveSink ρ) t threads stream settings archive es r later,
      RecordingRun sink.logging t (.start threads stream settings ([], archive)) es r →
      afterHandOff es = some (buffer, later) →
      ∃ size, buffer.pictureSize = .ok size ∧ r.HasSize size := by
  refine ⟨?_, fun ρ sink t threads stream settings archive es r later run registers =>
    run.hasSize registers⟩
  obtain ⟨first, units, exports⟩ := PacketBuffer.exportsFrom_of_started exported started
  obtain ⟨p, keyframe, -⟩ := exports.packets
  obtain ⟨type, latest, isSps, inForce, told⟩ := exports.size
  obtain ⟨earliest, inHead, inBuffer, own⟩ :=
    PacketBuffer.pictureSize_of_isInForce isSps inForce
  have agree : buffer.pictureSize = .ok parameters.size ↔
      buffer.codec.pictureSize earliest.toRaw.payload =
        buffer.codec.pictureSize latest.toRaw.payload := by
    rw [own, told]
    exact mapError_eq_ok_iff
  refine ⟨first, p, type, earliest, latest, keyframe, isSps, inBuffer, inForce, told, own, agree,
    fun steady => ?_⟩
  obtain ⟨q, inside, among, typed⟩ := inHead.exists_packet
  exact agree.mpr (steady q inside earliest among typed)

def smallSets : Packet :=
  .ofTransport .h264 [[0x67, 0x42, 0xC0, 0x1E, 0xDA, 0x03, 0x20, 0x4D, 0xF9, 0x50], [0x68]]
    .zero .epoch false

def largeKeyframe : Packet := .ofTransport .h264 [updatedSps, [0x68], [0x65]] .zero .epoch false

/-- A stream whose picture size changes before its first keyframe. -/
def resizedBuffer : PacketBuffer := ⟨[smallSets, largeKeyframe]⟩

/-- An export of this buffer starts with another size than the buffer tells. -/
theorem resizedBuffer_sizes :
    ∃ log, resizedBuffer.exportTo acceptingWriter.logging ([], ()) = (.ok (), (log, ())) ∧
      .start ⟨.h264, ⟨1920, 1080⟩, [updatedSps, [0x68]]⟩ ∈ log ∧
      resizedBuffer.pictureSize = .ok ⟨800, 600⟩ :=
  ⟨_, rfl, .tail _ (.tail _ (.head _)), rfl⟩

/-- How a camera adds a packet while nobody listens. -/
def addingEvents (p : Packet) : List Event :=
  [.add 1 p, .enter 1, .store 1 p, .lookUp 1, .lockDelivery 1, .unlockStorage 1, .unlockDelivery 1,
    .leave 1]

/-- A recorder takes that as its history and writes it. -/
def resizedEvents : List RecordingEvent :=
  [.attempt, .ring (.lock 0), .ring (.extract 0 .shared .zero .bestEffort (.ok resizedBuffer)),
    .handOff resizedBuffer, .ring (.unlock 0), .write resizedBuffer.backlog]

theorem started_size_resizedBuffer :
    ∃ log threads r, resizedBuffer.exportTo acceptingWriter.logging ([], ()) =
        (.ok (), (log, ())) ∧
      .start ⟨.h264, ⟨1920, 1080⟩, [updatedSps, [0x68]]⟩ ∈ log ∧
      Run (.start 64) (addingEvents smallSets ++ addingEvents largeKeyframe) threads ∧
      RecordingRun moodyArchive.logging 0
        (.start threads "camera" { history := .zero } ([], [true])) resizedEvents r ∧
      r.archive.1.length = 1 ∧ r.HasSize ⟨800, 600⟩ := by
  obtain ⟨log, made, started⟩ :
      ∃ log, resizedBuffer.exportTo acceptingWriter.logging ([], ()) = (.ok (), (log, ())) ∧
        .start ⟨.h264, ⟨1920, 1080⟩, [updatedSps, [0x68]]⟩ ∈ log :=
    ⟨_, rfl, .tail _ (.tail _ (.head _))⟩
  obtain ⟨threads, added, r, run, written⟩ :
      ∃ threads, Run (.start 64) (addingEvents smallSets ++ addingEvents largeKeyframe) threads ∧
        ∃ r, RecordingRun moodyArchive.logging 0
            (.start threads "camera" { history := .zero } ([], [true])) resizedEvents r ∧
          r.archive.1.length = 1 := by
    refine ⟨_, .cons (.add rfl) (.cons (.enter rfl rfl) (.cons (.store rfl) (.cons (.lookUp rfl)
      (.cons (.lockDelivery rfl rfl) (.cons (.unlockStorage rfl) (.cons (.unlockDelivery rfl rfl)
      (.cons (.leave rfl) (.cons (.add rfl) (.cons (.enter rfl rfl) (.cons (.store rfl)
      (.cons (.lookUp rfl) (.cons (.lockDelivery rfl rfl) (.cons (.unlockStorage rfl)
      (.cons (.unlockDelivery rfl rfl) (.cons (.leave rfl) .nil))))))))))))))), ?_⟩
    refine ⟨_, .cons (.attempt rfl) (.cons (.lock rfl (.lock rfl rfl))
      (.cons (.take rfl (.extract rfl rfl rfl) rfl) (.cons (.handOff rfl (.listen rfl))
      (.cons (.unlock rfl (.unlock rfl rfl)) (.cons (.writeBacklog rfl) .nil))))), rfl⟩
  obtain ⟨-, archived⟩ := started_size made started
  obtain ⟨size, told, has⟩ := archived _ _ _ _ _ _ _ _ _ _ run rfl
  cases told
  exact ⟨log, threads, r, made, started, added, run, written, has⟩

end Footage
