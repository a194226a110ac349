import Footage.NalUnit
import Footage.Packet.Error
import Footage.Time

/-!
# Packets

A packet holds the NAL units that a camera delivered together: usually one picture with the
parameter sets in front of it.
-/

namespace Footage

/-- NAL units that were received together. -/
structure Packet where
  /-- Numbers the packets of a camera, so that gaps show. -/
  receiveId : Int := 0
  /-- The codec of every NAL unit in the packet. -/
  codec : Codec
  /-- In decode order. -/
  units : List NalUnit
  /-- When the picture is shown, from the start of the stream. -/
  pts : Duration
  /-- When the picture was taken. -/
  wall : WallTime
  /-- Replayed from history to a consumer that came late. -/
  isBacklog : Bool := false
deriving DecidableEq, Repr

namespace Packet

/-- A packet of NAL units as a transport delivers them. Escaped units without start code get a
short one. -/
def ofTransport (codec : Codec) (payloads : List Bytes) (pts : Duration) (wall : WallTime)
    (escaped : Bool) : Packet :=
  let unit (payload : Bytes) : NalUnit :=
    if !escaped then .ofRaw payload
    else if StartCode.detect payload = .none then .ofAnnexB (StartCode.short.bytes ++ payload)
    else .ofAnnexB payload
  { codec, units := payloads.map unit, pts, wall }

def hasRole (p : Packet) (role : NalRole) : Bool := p.units.any (·.role p.codec = role)

def hasType (p : Packet) (type : UInt8) : Bool := p.units.any (·.type p.codec = type)

def hasKeyframe (p : Packet) : Bool := p.hasRole .keyframe

def hasPicture (p : Packet) : Bool := p.hasRole .keyframe || p.hasRole .interFrame

/-- The packet is nothing but one NAL unit of a picture that needs earlier ones. -/
def isInterFrame (p : Packet) : Bool :=
  match p.units with
  | [unit] => unit.role p.codec = .interFrame
  | _ => false

def firstOfType? (p : Packet) (type : UInt8) : Option NalUnit :=
  p.units.find? (·.type p.codec = type)

/-- The size of all payloads, start codes included. -/
def payloadSize (p : Packet) : Nat := total (p.units.map (·.payload.length))

/-! ## Description -/

def typeName : Codec → UInt8 → String
  | .h264, type =>
    if type = H264.nonIdrSlice then "NonIDR"
    else if type = H264.idrSlice then "IDR"
    else if type = H264.supplemental then "SEI"
    else if type = H264.sps then "SPS"
    else if type = H264.pps then "PPS"
    else if type = H264.delimiter then "AUD"
    else s!"type {type}"
  | .h265, type =>
    if type = H265.idrWithLeading ∨ type = H265.idrWithoutLeading then "IDR"
    else if type = H265.vps then "VPS"
    else if type = H265.sps then "SPS"
    else if type = H265.pps then "PPS"
    else if type = H265.delimiter then "AUD"
    else s!"type {type}"
  | .unknown, type => s!"type {type}"

/-- One line on the NAL units, such as `2 NALUs: SPS (10 bytes), IDR (3 bytes)`. -/
def summary (p : Packet) : String :=
  let unitText (unit : NalUnit) : String :=
    s!"{typeName p.codec (unit.type p.codec)} ({unit.payload.length} bytes)"
  s!"{p.units.length} NALUs: " ++ String.intercalate ", " (p.units.map unitText)

/-! ## The byte stream of a packet -/

/-- Room for one NAL unit in byte stream form, whatever has to be escaped. -/
def roomFor (unit : NalUnit) : Nat :=
  StartCode.long.length +
    if unit.isAnnexB then unit.payload.length else AnnexB.worstLength 0 unit.payload.length

/-- Writes one NAL unit into a buffer. A unit behind a start code is copied, any other one gets
a short start code and, if it is raw and `escaping` is on, is escaped. -/
def packUnit (escaping : Bool) (unit : NalUnit) (buffer : Bytes) : Option AnnexB.Written :=
  if unit.isFramed then AnnexB.copyInto unit.payload buffer
  else AnnexB.encodeInto unit.body .short (escaping && !unit.isAnnexB) buffer

/-- Writes NAL units one after another into a buffer. -/
def packUnits (escaping : Bool) : List NalUnit → (buffer : Bytes) → Option AnnexB.Written
  | [], buffer => some ⟨[], buffer⟩
  | unit :: rest, buffer => do
    let written ← packUnit escaping unit buffer
    (packUnits escaping rest written.back).map (.after written.front)

/-- The NAL units as a byte stream. With `escaping` off raw units are not escaped, for sources
that never need it. A lone unit that is in its final form already is handed on as it is. -/
def toStream (p : Packet) (escaping : Bool := true) : Except PacketError Bytes :=
  let capacity := total (p.units.map roomFor)
  let packed : Except PacketError Bytes :=
    match packUnits escaping p.units (.zeros capacity) with
    | some written => .ok written.front
    | none => .error (.bitstream (.invariantViolated
        s!"ran out of space packing {p.units.length} NAL units into {capacity} bytes"))
  match p.units with
  | [only] => if only.isFramed then .ok only.payload else packed
  | _ => packed

end Packet

end Footage
