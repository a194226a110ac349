import Footage.Export.Container
import Footage.Export.DecodeClock
import Footage.Export.TransportStream.Picture
import Footage.Export.TransportStream.Table

/-!
# Writing a transport stream

Writing starts at the first keyframe. The latest parameter sets and the tables are repeated at
every keyframe, so that decoding can start at each of them. What is no picture is left out.
-/

namespace Footage.TransportStream

/-- What a transport stream writer knows between two calls. -/
structure Muxer where
  codec : Codec := .unknown
  /-- The latest parameter set of each type, in the order in which the types first came. -/
  parameterSets : List Bytes := []
  lastDecodeTime : Option Nat := none
  /-- The decode time of the first unit, from which all times are counted. -/
  origin : Option Nat := none
  /-- The first keyframe has come. -/
  isStarted : Bool := false
  counters : Counters := {}
  unitsWritten : Nat := 0
deriving DecidableEq, Repr

def typeOf? (codec : Codec) (payload : Bytes) : Option UInt8 := payload.head?.map codec.typeOf

/-- Puts a parameter set in the place of the earlier one of its type, or behind all others. -/
def remember (codec : Codec) (set : Bytes) : List Bytes → List Bytes
  | [] => [set]
  | earlier :: rest =>
    if typeOf? codec earlier = typeOf? codec set then set :: rest
    else earlier :: remember codec set rest

/-- The part of a payload in decoding, told by its header. -/
def roleOf (codec : Codec) (payload : Bytes) : NalRole :=
  ((typeOf? codec payload).map codec.role).getD .other

/-- The payloads of an access unit's NAL units, without start codes and without empty ones. -/
def payloads (unit : AccessUnit) : List Bytes :=
  (unit.units.map (·.body)).filter (!·.isEmpty)

/-- The payloads that are written as they come: no parameter sets and no delimiters. -/
def content (codec : Codec) (unit : AccessUnit) : List Bytes :=
  (payloads unit).filter fun payload =>
    roleOf codec payload ≠ .parameterSet && typeOf? codec payload ≠ codec.delimiterType?

namespace Muxer

variable {σ : Type}

def learn (m : Muxer) (sets : List Bytes) : Muxer :=
  let parameterSets := sets.foldl (fun known set => remember m.codec set known) m.parameterSets
  { m with parameterSets }

/-- Writes a packet under the next number of its flow. A failed packet uses up its number. -/
def send (sink : ByteSink σ) (packet : Packet) : Effect (Muxer × σ) IoError Unit := do
  let (m, _) ← get
  modify fun (m, out) => ({ m with counters := m.counters.bump packet.flow }, out)
  (sink.write (packet.encode (m.counters.get packet.flow))).onSecond

def sendTables (sink : ByteSink σ) : Effect (Muxer × σ) Report Unit := do
  let (m, _) ← get
  let step : Effect (Muxer × σ) IoError Unit := do
    send sink (tablePacket .programAssociation associationTable)
    send sink (tablePacket .programMap (mapTable (streamType m.codec)))
  step.rename fun error => (Report.ofIo error).within "writing PAT/PMT"

/-- Begins a stream: the parameter sets are kept for the first keyframe. -/
def start (sink : ByteSink σ) (parameters : StreamParameters) : Effect (Muxer × σ) Report Unit := do
  if parameters.codec = .unknown then
    throw ⟨s!"MPEG-TS export does not support codec {parameters.codec.label}", []⟩
  modify fun (m, out) =>
    (learn { m with codec := parameters.codec } (parameters.parameterSets.filter (!·.isEmpty)), out)
  sendTables sink

/-- The octets of a picture: the delimiter, the parameter sets if it is a keyframe, the rest. -/
def picture (m : Muxer) (isKeyframe : Bool) (units : List Bytes) : Bytes :=
  byteStream <|
    delimiter m.codec :: (if isKeyframe then m.parameterSets else []) ++ units

def sendPicture (sink : ByteSink σ) (time : Nat) (isKeyframe : Bool) (units : List Bytes) :
    Effect (Muxer × σ) WriterError Unit := do
  let (m, _) ← get
  let dts ← (countedDecodeTime m.lastDecodeTime time).mapError WriterError.overflow
  let origin := m.origin.getD dts
  modify fun (m, out) => ({ m with lastDecodeTime := some dts, origin := some origin }, out)
  if isKeyframe && 0 < m.unitsWritten then
    (sendTables sink).rename .reported
  let shown := max time dts - origin
  let decoded := dts - origin
  let clock := if isKeyframe || m.unitsWritten = 0 then some decoded else none
  let octets := pictureHeader shown decoded ++ m.picture isKeyframe units
  let packets := videoPackets (pictureFields isKeyframe clock) octets
  (packets.forM (send sink)).rename fun error =>
    .reported ((Report.ofIo error).within "writing PES packet")
  modify fun (m, out) => ({ m with unitsWritten := m.unitsWritten + 1 }, out)

/-- Writes an access unit, unless it holds no picture or comes before the first keyframe. Its
parameter sets are noted in any case. -/
def write (sink : ByteSink σ) (unit : AccessUnit) : Effect (Muxer × σ) WriterError Unit := do
  let codec := (← get).1.codec
  let sets := (payloads unit).filter fun payload => roleOf codec payload = .parameterSet
  modify fun (m, out) => (m.learn sets, out)
  let units := content codec unit
  let isKeyframe := units.any fun payload => roleOf codec payload = .keyframe
  let hasPicture := units.any fun payload => (roleOf codec payload).isPicture
  if hasPicture && ((← get).1.isStarted || isKeyframe) then
    modify fun (m, out) => ({ m with isStarted := true }, out)
    sendPicture sink unit.pts.ticks isKeyframe units

def finish (sink : ByteSink σ) : Effect (Muxer × σ) Report Unit :=
  sink.flush.onSecond.rename fun error => (Report.ofIo error).within "flushing MPEG-TS output"

def writer (sink : ByteSink σ) : ContainerWriter (Muxer × σ) where
  start parameters := (start sink parameters).rename .reported
  write := write sink
  finish := (finish sink).rename .reported

end Muxer

end Footage.TransportStream
