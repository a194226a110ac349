import Footage.Export.Container
import Footage.Export.Mp4.Movie

/-!
# Writing an MP4 file

Samples are collected and the file is written at the end: file type, sample data, movie box. Of
H.264 only. Samples start at the first keyframe.
-/

namespace Footage.Mp4

/-- What is known of the file so far. -/
structure Collector where
  size : Dimensions := ⟨0, 0⟩
  sps : Option Bytes := none
  pps : Option Bytes := none
  samples : List Sample := []
deriving DecidableEq, Repr

def fileType : Box :=
  .leaf "ftyp" (.ofLatin "isom" ++ word 0x200 ++ .ofLatin "isomiso2avc1mp41")

/-- All in front of the sample data: the file type, and size and kind of the data box. -/
def fileHead (dataLength : Nat) : Bytes :=
  fileType.encode ++ word (boxHeaderSize + dataLength) ++ Bytes.ofLatin "mdat"

/-- The part of a payload in decoding, told by its header. -/
def roleOf (payload : Bytes) : NalRole :=
  ((payload.head?.map H264.typeOf).map Codec.h264.role).getD .other

def typeOf? (payload : Bytes) : Option UInt8 := payload.head?.map H264.typeOf

/-- The payloads of an access unit's NAL units, without start codes and without empty ones. -/
def payloads (unit : AccessUnit) : List Bytes :=
  (unit.units.map (·.body)).filter (!·.isEmpty)

/-- The payloads that belong into a sample: no parameter sets and no delimiters. -/
def content (unit : AccessUnit) : List Bytes :=
  (payloads unit).filter fun payload =>
    roleOf payload ≠ .parameterSet && typeOf? payload ≠ some H264.delimiter

namespace Collector

variable {σ : Type}

/-- Takes the parameter sets of the stream; the last one of a kind holds. -/
def adopt (c : Collector) (set : Bytes) : Collector :=
  if typeOf? set = some H264.sps then { c with sps := some set }
  else if typeOf? set = some H264.pps then { c with pps := some set }
  else c

/-- Takes a parameter set out of the stream itself, if none of its kind is known. -/
def supply (c : Collector) (set : Bytes) : Collector :=
  if typeOf? set = some H264.sps then { c with sps := c.sps <|> some set }
  else if typeOf? set = some H264.pps then { c with pps := c.pps <|> some set }
  else c

def start (parameters : StreamParameters) : Effect (Collector × σ) Report Unit := do
  if parameters.codec ≠ .h264 then
    throw ⟨s!"MP4 export does not support codec {parameters.codec.label}", []⟩
  modify fun (c, out) =>
    (parameters.parameterSets.foldl adopt { c with size := parameters.size }, out)

def note (c : Collector) (unit : AccessUnit) : Collector := (payloads unit).foldl supply c

/-- Adds an access unit as a sample, unless nothing of it belongs into one or it comes before the
first keyframe. -/
def collect (c : Collector) (unit : AccessUnit) : Except Report Collector :=
  let units := content unit
  let isKeyframe := units.any fun payload => roleOf payload = .keyframe
  if units.isEmpty || (c.samples.isEmpty && !isKeyframe) then .ok c
  else
    let data := LengthPrefix.join units
    if FitsIn 32 data.length then
      .ok { c with samples := c.samples ++ [⟨unit.pts.ticks, data, isKeyframe⟩] }
    else
      .error ⟨"sample larger than 4 GiB", ["out of range integral type conversion attempted"]⟩

def write (unit : AccessUnit) : Effect (Collector × σ) Report Unit := do
  modify fun (c, out) => (c.note unit, out)
  let c ← (← get).1.collect unit
  modify fun (_, out) => (c, out)

/-- The three parts of the file: all in front of the data, the data, the movie box. -/
def parts (c : Collector) : Except Report (Bytes × Bytes × Bytes) := do
  if c.samples.isEmpty then throw ⟨"MP4 export has no samples", []⟩
  let (some sps, some pps) := (c.sps, c.pps) | throw ⟨"MP4 export needs an SPS and a PPS", []⟩
  let configuration ← (LengthPrefix.configuration sps pps).mapError fun error =>
    (⟨error.message, []⟩ : Report)
  let data := c.samples.flatMap (·.data)
  if ¬ FitsIn 32 (boxHeaderSize + data.length) then
    throw ⟨"mdat larger than 4 GiB", ["out of range integral type conversion attempted"]⟩
  let head := fileHead data.length
  let movie : Movie := ⟨c.size, configuration, c.samples, head.length⟩
  return (head, data, movie.box.encode)

def finish (sink : ByteSink σ) : Effect (Collector × σ) Report Unit := do
  let (head, data, movie) ← (← get).1.parts
  let put (octets : Bytes) (doing : String) : Effect (Collector × σ) Report Unit :=
    (sink.write octets).onSecond.rename fun error => (Report.ofIo error).within doing
  put head "writing MP4 header"
  put data "writing MP4 sample data"
  put movie "writing MP4 movie box"
  sink.flush.onSecond.rename fun error => (Report.ofIo error).within "flushing MP4 output"

def writer (sink : ByteSink σ) : ContainerWriter (Collector × σ) where
  start parameters := (start parameters).rename .reported
  write unit := (write unit).rename .reported
  finish := (finish sink).rename .reported

end Collector

end Footage.Mp4
