import Mathlib.Data.List.Forall2
import Footage.Proofs.Effects
import Footage.Proofs.Framing
import Footage.Recorder.Worker

/-!
# What a recorder asks of its archive

A recorder writes its history as one batch, asks for a flush, and writes every packet of the live
feed as a batch of its own (`requestsOf`). Batches come to calls of the archive, which may refuse
them; a refused batch is counted as a failure, and any other with its packets (`Tallied`). That a
batch never fails before the archive is called is `Recorder.exists_track`.
-/

namespace Footage

variable {σ : Type}

/-! ## Requests -/

/-- What a recorder asks of its archive. -/
inductive ArchiveRequest where
  | batch (packets : List Packet)
  | flush

def ArchiveRequest.packets : ArchiveRequest → List Packet
  | batch packets => packets
  | flush => []

def acceptedPackets (done : List (ArchiveRequest × Bool)) : Nat :=
  total ((done.filter (·.2)).map (·.1.packets.length))

def refusals (done : List (ArchiveRequest × Bool)) : Nat := done.countP (!·.2)

/-- A recorder that goes on: the history as one batch, the hint that it should be made safe, and
then each packet as a batch of its own. -/
def requestsOf (history : PacketBuffer) (live : List Packet) : List ArchiveRequest :=
  .batch history.backlog :: .flush :: live.map fun p => .batch [p]

theorem acceptedPackets_concat (done : List (ArchiveRequest × Bool)) (request : ArchiveRequest)
    (accepted : Bool) : acceptedPackets (done ++ [(request, accepted)]) =
      acceptedPackets done + if accepted then request.packets.length else 0 := by
  rw [acceptedPackets, List.filter_append, List.map_append, total_append]
  cases accepted <;> rfl

theorem refusals_concat (done : List (ArchiveRequest × Bool)) (request : ArchiveRequest)
    (accepted : Bool) : refusals (done ++ [(request, accepted)]) =
      refusals done + if accepted then 0 else 1 := by
  rw [refusals, List.countP_append]
  cases accepted <;> rfl

theorem requestsOf_concat (window : PacketBuffer) (live : List Packet) (p : Packet) :
    requestsOf window (live ++ [p]) = requestsOf window live ++ [.batch [p]] := by
  simp [requestsOf]

namespace Recorder

/-- The call by which a recorder makes a request, and whether it went well. -/
inductive Calls (r : Recorder) : ArchiveCall → ArchiveRequest × Bool → Prop
  | batch {packets : List Packet} {track : Track} {accepted : Bool} :
      r.track packets = .ok track →
      Calls r (.write r.stream [(videoTrack, track)] accepted) (.batch packets, accepted)
  | flush : Calls r .flush (.flush, true)

/-- Calls depend on the stream and the picture size only. -/
theorem Calls.congr {r r' : Recorder} {call : ArchiveCall} {request : ArchiveRequest × Bool}
    (h : r.Calls call request) (stream : r'.stream = r.stream) (size : r'.size = r.size) :
    r'.Calls call request := by
  cases h with
  | batch video =>
    rw [← stream]
    exact .batch (by rw [track, size]; exact video)
  | flush => exact .flush

theorem exists_track (r : Recorder) (packets : List Packet) :
    ∃ track, r.track packets = .ok track := by
  have each (p : Packet) (_ : p ∈ packets) : ∃ units, p.archived = .ok units :=
    exists_mapM_ok fun unit _ => by
      obtain ⟨framed, inStream⟩ := unit.exists_toAnnexB
      exact ⟨⟨p.wall, .ofRole (unit.role p.codec), framed.payload⟩, by rw [inStream]; rfl⟩
  obtain ⟨units, archived⟩ := exists_mapM_ok each
  refine ⟨⟨(packets.head?.map (·.codec)).getD .unknown, r.size.getD ⟨0, 0⟩, units.flatten⟩, ?_⟩
  rw [track, Track.ofPackets, archived]
  rfl

def counting (r : Recorder) (packets : List Packet) (accepted : Bool) : Recorder :=
  if accepted then { r with packetsWritten := r.packetsWritten + packets.length }
  else { r with writeFailures := r.writeFailures + 1 }

/-- A batch comes to one call, which is counted by how it went. -/
theorem writeBatch_logging (sink : ArchiveSink σ) (r : Recorder) (calls : List ArchiveCall)
    (archive : σ) {packets : List Packet} {track : Track} (video : r.track packets = .ok track) :
    ∃ accepted archive', (writeBatch sink.logging packets (r, (calls, archive))).2 =
      (r.counting packets accepted,
        (calls ++ [.write r.stream [(videoTrack, track)] accepted], archive')) := by
  rcases wrote : sink.write r.stream [(videoTrack, track)] archive with ⟨result, archive'⟩
  refine ⟨result.isOk, archive', ?_⟩
  show (StateT.run (writeBatch sink.logging packets) (r, (calls, archive))).2 = _
  cases result <;> simp [writeBatch, video, ArchiveSink.logging, wrote] <;> rfl

end Recorder

/-- The calls made are those of the requests `done`, and the recorder has counted them. -/
structure Tallied (r : Recorder) (calls : List ArchiveCall)
    (done : List (ArchiveRequest × Bool)) : Prop where
  calls : List.Forall₂ r.Calls calls done
  written : r.packetsWritten = acceptedPackets done
  failures : r.writeFailures = refusals done

namespace Tallied

variable {r r' : Recorder} {calls : List ArchiveCall} {done : List (ArchiveRequest × Bool)}

theorem none (written : r.packetsWritten = 0) (failures : r.writeFailures = 0) : Tallied r [] [] :=
  ⟨.nil, written, failures⟩

/-- What does not concern writing leaves the tally as it is. -/
theorem congr (h : Tallied r calls done) (stream : r'.stream = r.stream) (size : r'.size = r.size)
    (written : r'.packetsWritten = r.packetsWritten)
    (failures : r'.writeFailures = r.writeFailures) : Tallied r' calls done := by
  exact ⟨h.calls.imp fun _ _ made => made.congr stream size, written.trans h.written,
    failures.trans h.failures⟩

theorem flush (h : Tallied r calls done) :
    Tallied r (calls ++ [.flush]) (done ++ [(.flush, true)]) := by
  refine ⟨List.rel_append h.calls (.cons .flush .nil), ?_, ?_⟩
  · rw [acceptedPackets_concat]
    exact h.written
  · rw [refusals_concat]
    exact h.failures

/-- A batch that goes wrong counts as one failure, and one that goes well with its packets. -/
theorem batch (h : Tallied r calls done) {packets : List Packet} {track : Track} (accepted : Bool)
    (video : r.track packets = .ok track) :
    Tallied (r.counting packets accepted)
      (calls ++ [.write r.stream [(videoTrack, track)] accepted])
      (done ++ [(.batch packets, accepted)]) := by
  have made : List.Forall₂ r.Calls (calls ++ [.write r.stream [(videoTrack, track)] accepted])
      (done ++ [(.batch packets, accepted)]) := List.rel_append h.calls (.cons (.batch video) .nil)
  cases accepted with
  | true =>
    refine ⟨made.imp fun _ _ made => made.congr rfl rfl, ?_, ?_⟩
    · rw [acceptedPackets_concat, ← h.written]
      rfl
    · rw [refusals_concat]
      exact h.failures
  | false =>
    refine ⟨made.imp fun _ _ made => made.congr rfl rfl, ?_, ?_⟩
    · rw [acceptedPackets_concat]
      exact h.written
    · rw [refusals_concat, ← h.failures]
      rfl

end Tallied

/-- A recorder that writes a batch on its way to `stage` makes one call more. -/
theorem Recording.wrote_batch (sink : ArchiveSink σ) (r : Recording (List ArchiveCall × σ))
    (packets : List Packet) (stage : WorkerStage) {done : List (ArchiveRequest × Bool)}
    (tally : Tallied r.recorder r.archive.1 done) :
    ∃ accepted recorder archive,
      r.wrote (Recorder.writeBatch sink.logging packets) stage =
        { r with recorder, archive, stage } ∧
      recorder.state = r.recorder.state ∧ recorder.channel = r.recorder.channel ∧
      Tallied recorder archive.1 (done ++ [(.batch packets, accepted)]) := by
  obtain ⟨track, video⟩ := r.recorder.exists_track packets
  obtain ⟨accepted, archive, wrote⟩ :=
    Recorder.writeBatch_logging sink r.recorder r.archive.1 r.archive.2 video
  refine ⟨accepted, r.recorder.counting packets accepted,
    (r.archive.1 ++ [.write r.recorder.stream [(videoTrack, track)] accepted], archive), ?_, ?_, ?_,
    tally.batch accepted video⟩
  · exact congrArg (fun after : Recorder × List ArchiveCall × σ =>
      { r with recorder := after.1, archive := after.2, stage }) wrote
  · cases accepted <;> rfl
  · cases accepted <;> rfl

end Footage
