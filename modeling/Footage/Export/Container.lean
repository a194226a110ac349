import Footage.Packet.Buffer

/-!
# Export to a container

A container writer is told the stream parameters, then each access unit, then the end. Export
starts at the first keyframe, and only if every parameter set that the codec needs is there by
then; otherwise the writer is not called at all.
-/

namespace Footage

/-- What a container writer must know before the first access unit. -/
structure StreamParameters where
  codec : Codec
  size : Dimensions
  /-- Escaped and without start codes, in the order in which a decoder needs them. -/
  parameterSets : List Bytes
deriving DecidableEq, Repr

/-- The NAL units of one packet as a container writer gets them. -/
structure AccessUnit where
  /-- Counted from the start of the export. -/
  pts : Duration
  /-- In byte stream form, each behind a start code. -/
  units : List NalUnit
  isKeyframe : Bool
deriving DecidableEq, Repr

inductive WriterError where
  | reported (report : Report)
  /-- A counter of the writer is at its end. -/
  | overflow (cause : Overflow)
deriving DecidableEq, Repr

def WriterError.inExport : WriterError → PacketError
  | reported report => .external report
  | overflow cause => .overflow cause

/-- A writer of one container format with state `σ`. -/
structure ContainerWriter (σ : Type) where
  start : StreamParameters → Effect σ WriterError Unit
  write : AccessUnit → Effect σ WriterError Unit
  finish : Effect σ WriterError Unit

inductive WriterCall where
  | start (parameters : StreamParameters)
  | write (unit : AccessUnit)
  | finish
deriving DecidableEq, Repr

namespace ContainerWriter

variable {σ : Type}

def perform (writer : ContainerWriter σ) : WriterCall → Effect σ WriterError Unit
  | .start parameters => writer.start parameters
  | .write unit => writer.write unit
  | .finish => writer.finish

/-- Writes a call to the log and then makes it. The newest call comes first. -/
def logged (writer : ContainerWriter σ) (call : WriterCall) :
    Effect (List WriterCall × σ) WriterError Unit := do
  modify fun (calls, state) => (call :: calls, state)
  (writer.perform call).onSecond

/-- The same writer with a log of the calls made. -/
def logging (writer : ContainerWriter σ) : ContainerWriter (List WriterCall × σ) where
  start parameters := writer.logged (.start parameters)
  write unit := writer.logged (.write unit)
  finish := writer.logged .finish

end ContainerWriter

namespace PacketBuffer

variable {σ : Type}

/-- The parameter set of a type that holds at the end of `head`. -/
def latestOfType? (head : List Packet) (type : UInt8) : Option NalUnit :=
  head.reverse.findSome? (·.firstOfType? type)

/-- The parameter set of a type that an export starts with. -/
def requiredSet (codec : Codec) (head : List Packet) (type : UInt8) : Except PacketError NalUnit :=
  match latestOfType? head type with
  | some unit => .ok unit
  | none => .error (.missingEssentialMetadata
      s!"{codec.label} NAL unit type {type} not found before the first keyframe")

/-- The parameter sets of the given types, and the picture size if the sequence parameter set is
among them. -/
def requiredSets [H264.SizeReader] (codec : Codec) (head : List Packet) :
    List UInt8 → Except PacketError (Option Dimensions × List Bytes)
  | [] => .ok (none, [])
  | type :: rest => do
    let unit ← requiredSet codec head type
    let size? ← if codec.spsType? = some type then
        some <$> (codec.pictureSize unit.toRaw.payload).mapError .bitstream
      else pure none
    let framed ← unit.toAnnexB.mapError .bitstream
    let (laterSize?, sets) ← requiredSets codec head rest
    return (laterSize? <|> size?, framed.body :: sets)

/-- Where the export starts, and with which parameters. -/
def exportStart [H264.SizeReader] (buffer : PacketBuffer) :
    Except PacketError (Nat × StreamParameters) := do
  let codec := buffer.codec
  if codec.spsType?.isNone then throw .empty
  let some first := buffer.firstKeyframe? | throw .noKeyframe
  let head := buffer.packets.take (first + 1)
  let (size?, sets) ← requiredSets codec head codec.parameterSetTypes
  let some size := size? | throw .missingSps
  return (first, ⟨codec, size, sets⟩)

/-- The packet as an access unit of an export that starts at `base`. -/
def accessUnit (base : Duration) (p : Packet) : Except PacketError AccessUnit := do
  let units ← (p.units.mapM NalUnit.toAnnexB).mapError .bitstream
  return ⟨p.pts.minus base, units, p.hasKeyframe⟩

/-- Hands the packets from the first keyframe on to the writer. -/
def exportTo [H264.SizeReader] (buffer : PacketBuffer) (writer : ContainerWriter σ) :
    Effect σ PacketError Unit := do
  let (first, parameters) ← buffer.exportStart
  let packets := buffer.packets.drop first
  let base := (packets.head?.map (·.pts)).getD .zero
  (writer.start parameters).rename WriterError.inExport
  packets.forM fun p => do
    let unit ← accessUnit base p
    (writer.write unit).rename WriterError.inExport
  writer.finish.rename WriterError.inExport

end PacketBuffer

end Footage
