import Footage.AnnexB.Split
import Footage.Packet.Basic
import Footage.ParameterSet.Size

/-!
# Packet buffers

A packet buffer is a snapshot of a stream: packets in the order in which they were received.
-/

namespace Footage

/-- Packets in receive order. -/
structure PacketBuffer where
  packets : List Packet
deriving DecidableEq, Repr

namespace PacketBuffer

/-! ## From a byte stream -/

/-- Cuts NAL units into pictures. What is no picture belongs to the picture that follows; only
the last group may be without one. -/
def pictures (codec : Codec) : List NalUnit → List (List NalUnit)
  | [] => []
  | unit :: rest =>
    if (unit.role codec).isPicture then [unit] :: pictures codec rest
    else
      match pictures codec rest with
      | [] => [[unit]]
      | group :: groups => (unit :: group) :: groups

/-- The packet of a picture, which is taken `interval` after the one before it. Pictures are
numbered with 32 bits. -/
def picturePacket (codec : Codec) (interval : Duration) (start : WallTime) (index : Nat)
    (units : List NalUnit) : Except ClockError Packet := do
  let number := index % wordLimit 32
  let pts ← interval.times number
  let wall ← start.plus pts
  return { receiveId := number, codec, units, pts, wall }

/-- The packets of a byte stream, one per picture, `interval` apart from `start` on. -/
def ofStream (codec : Codec) (stream : Bytes) (interval : Duration) (start : WallTime) :
    Except ClockError PacketBuffer := do
  let groups := pictures codec ((AnnexB.split stream).map .ofAnnexB)
  let packets ← groups.zipIdx.mapM fun (units, index) =>
    picturePacket codec interval start index units
  return ⟨packets⟩

/-! ## Queries -/

def length (buffer : PacketBuffer) : Nat := buffer.packets.length

/-- The codec of the first packet. -/
def codec (buffer : PacketBuffer) : Codec := (buffer.packets.head?.map (·.codec)).getD .unknown

/-- The time from the first packet to the last one. -/
def duration (buffer : PacketBuffer) : Duration :=
  match buffer.packets.head?, buffer.packets.getLast? with
  | some first, some last => last.pts.minus first.pts
  | _, _ => .zero

def payloadSize (buffer : PacketBuffer) : Nat := total (buffer.packets.map (·.payloadSize))

def hasKeyframe (buffer : PacketBuffer) : Bool := buffer.packets.any (·.hasKeyframe)

def firstWithRole? (buffer : PacketBuffer) (role : NalRole) : Option Nat :=
  buffer.packets.findIdx? (·.hasRole role)

def firstKeyframe? (buffer : PacketBuffer) : Option Nat := buffer.firstWithRole? .keyframe

/-- Of two candidates the one with the shorter distance; the earlier one if they tie. -/
def nearer : Option (Nat × Duration) → Nat × Duration → Option (Nat × Duration)
  | none, found => some found
  | some best, found => if found.2.nanos < best.2.nanos then some found else some best

/-- Where the packet taken closest to `target` stands; the earliest one of several. With
`keyframesOnly` packets without a keyframe do not count. -/
def closest? (buffer : PacketBuffer) (target : WallTime) (keyframesOnly : Bool) : Option Nat :=
  let candidates := buffer.packets.zipIdx.filter fun (p, _) => !keyframesOnly || p.hasKeyframe
  let distances := candidates.map fun (p, index) => (index, p.wall.distance target)
  (distances.foldl nearer none).map (·.1)

def firstOfType? (buffer : PacketBuffer) (type : UInt8) : Option NalUnit :=
  buffer.packets.findSome? (·.firstOfType? type)

/-- The picture size in the first sequence parameter set. -/
def pictureSize [H264.SizeReader] (buffer : PacketBuffer) : Except PacketError Dimensions :=
  match buffer.codec.spsType? with
  | none => .error .empty
  | some type =>
    match buffer.firstOfType? type with
    | none => .error .missingSps
    | some sps => (buffer.codec.pictureSize sps.toRaw.payload).mapError .bitstream

/-- The packets with times counted from the first one. -/
def rebased (buffer : PacketBuffer) : PacketBuffer :=
  match buffer.packets.head? with
  | none => buffer
  | some first => ⟨buffer.packets.map fun p => { p with pts := p.pts.minus first.pts }⟩

end PacketBuffer

end Footage
