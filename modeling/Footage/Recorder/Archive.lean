import Footage.Packet.Buffer
import Footage.Report

/-!
# Archives

An archive keeps recorded video: for every stream a row of writes, and in each write the NAL
units of some tracks. Archived NAL units are in byte stream form and carry the wall clock time of
their packet, from which the packets can be told apart again.
-/

namespace Footage

/-- What an archive notes about a NAL unit, as bits. -/
structure NalFlags where
  bits : UInt8
deriving DecidableEq, Repr

namespace NalFlags

/-- In byte stream form and behind a start code. -/
def annexB : NalFlags := ⟨1⟩

/-- Must be known before decoding can start. -/
def parameterSet : NalFlags := ⟨2⟩

def keyframe : NalFlags := ⟨4⟩

def union (a b : NalFlags) : NalFlags := ⟨a.bits ||| b.bits⟩

/-- Every flag of `b` is one of `a`. -/
def contains (a b : NalFlags) : Bool := a.bits &&& b.bits = b.bits

/-- The flags of a NAL unit in byte stream form. -/
def ofRole : NalRole → NalFlags
  | .parameterSet => annexB.union parameterSet
  | .keyframe => annexB.union keyframe
  | .interFrame | .other => annexB

end NalFlags

structure ArchivedUnit where
  /-- When its packet was taken. -/
  time : WallTime
  flags : NalFlags
  payload : Bytes
deriving DecidableEq, Repr

/-- NAL units of one track, with what a decoder must know about them. -/
structure Track where
  codec : Codec
  size : Dimensions
  units : List ArchivedUnit
deriving DecidableEq, Repr

abbrev Tracks := List (String × Track)

def videoTrack : String := "video"

/-! ## Packets and tracks -/

/-- The NAL units of a packet as an archive keeps them. -/
def Packet.archived (p : Packet) : Except BitstreamError (List ArchivedUnit) :=
  p.units.mapM fun unit => do
    let framed ← unit.toAnnexB
    return ⟨p.wall, .ofRole (unit.role p.codec), framed.payload⟩

/-- Packets as a track. The first packet tells the codec. -/
def Track.ofPackets (packets : List Packet) (size : Dimensions) : Except BitstreamError Track := do
  let units ← packets.mapM (·.archived)
  return ⟨(packets.head?.map (·.codec)).getD .unknown, size, units.flatten⟩

/-- The NAL unit that an archive kept. -/
def ArchivedUnit.unit (archived : ArchivedUnit) : NalUnit :=
  if archived.flags.contains .annexB then .ofAnnexB archived.payload else .ofRaw archived.payload

namespace PacketBuffer

/-- Neighbours with the same time put together. -/
def sameTimeGroups : List ArchivedUnit → List (WallTime × List NalUnit)
  | [] => []
  | archived :: rest =>
    match sameTimeGroups rest with
    | (time, units) :: more =>
      if time = archived.time then (time, archived.unit :: units) :: more
      else (archived.time, [archived.unit]) :: (time, units) :: more
    | [] => [(archived.time, [archived.unit])]

/-- The packets whose NAL units an archive kept. Neighbours with the same time were one packet,
and times are counted from the first one. -/
def ofArchive (codec : Codec) (archived : List ArchivedUnit) : PacketBuffer :=
  let origin := (archived.head?.map (·.time)).getD .epoch
  ⟨(sameTimeGroups archived).zipIdx.map fun ((time, units), index) =>
    { receiveId := index, codec, units, pts := time.since origin, wall := time }⟩

end PacketBuffer

/-! ## Sinks -/

/-- An archive with state `σ` that recordings are written to. -/
structure ArchiveSink (σ : Type) where
  /-- Adds tracks to a stream. -/
  write : (stream : String) → Tracks → Effect σ Report Unit
  /-- A hint that what was written should be made safe soon. -/
  flush : StateM σ Unit

inductive ArchiveCall where
  /-- A write, and whether it was accepted. -/
  | write (stream : String) (tracks : Tracks) (accepted : Bool)
  | flush
deriving DecidableEq, Repr

/-- The same archive with a log of the calls made. -/
def ArchiveSink.logging {σ : Type} (sink : ArchiveSink σ) :
    ArchiveSink (List ArchiveCall × σ) where
  write stream tracks := fun (calls, archive) =>
    let (result, archive) := sink.write stream tracks archive
    (result, (calls ++ [.write stream tracks result.isOk], archive))
  flush := fun (calls, archive) =>
    let (_, archive) := sink.flush archive
    ((), (calls ++ [.flush], archive))

structure MemoryArchive where
  /-- Stream and tracks of each write, in order. -/
  writes : List (String × Tracks) := []
  flushes : Nat := 0
  /-- Writes fail, as on a full disk. -/
  isFailing : Bool := false
deriving DecidableEq, Repr

namespace MemoryArchive

/-- Everything written to a track of a stream, in order. -/
def units (archive : MemoryArchive) (stream track : String) : List ArchivedUnit :=
  let written := archive.writes.filter (·.1 = stream)
  written.flatMap fun (_, tracks) => ((tracks.lookup track).map (·.units)).getD []

def sink : ArchiveSink MemoryArchive where
  write stream tracks := do
    let archive ← get
    if archive.isFailing then throw ⟨"archive unavailable", []⟩
    set { archive with writes := archive.writes ++ [(stream, tracks)] }
  flush := modify fun archive => { archive with flushes := archive.flushes + 1 }

end MemoryArchive

/-- A byte stream file that collects the video of all streams. -/
structure StreamFile where
  /-- What was written, newest first. -/
  chunks : List Bytes := []
  /-- NAL units written. -/
  count : Nat := 0
  /-- Octets written. -/
  size : Nat := 0
deriving DecidableEq, Repr

namespace StreamFile

def content (file : StreamFile) : Bytes := file.chunks.reverse.flatten

/-- Adds the NAL units of a track. -/
def append (file : StreamFile) (track : Track) : StreamFile :=
  track.units.foldl (fun file archived =>
    ⟨archived.payload :: file.chunks, file.count + 1, file.size + archived.payload.length⟩) file

def sink : ArchiveSink StreamFile where
  write _ tracks :=
    match tracks.lookup videoTrack with
    | some track => modify (·.append track)
    | none => return
  flush := return

end StreamFile

end Footage
