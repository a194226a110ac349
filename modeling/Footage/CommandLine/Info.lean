import Footage.Packet.Buffer

/-!
# Describing a buffer
-/

namespace Footage.CommandLine

structure BufferInfo where
  codec : Codec
  packets : Nat
  keyframes : Nat
  payloadSize : Nat
  millis : Nat
  /-- Known if there is a readable sequence parameter set. -/
  size : Option Dimensions
  firstParameterSet : Option Nat
deriving DecidableEq, Repr

namespace BufferInfo

def of [H264.SizeReader] (buffer : PacketBuffer) : BufferInfo where
  codec := buffer.codec
  packets := buffer.length
  keyframes := (buffer.packets.filter (·.hasKeyframe)).length
  payloadSize := buffer.payloadSize
  millis := buffer.duration.millis
  size := buffer.pictureSize.toOption
  firstParameterSet := buffer.firstWithRole? .parameterSet

def lines (info : BufferInfo) : List String :=
  let dimensions := match info.size with
    | some size => s!"{size.width}x{size.height}"
    | none => "unknown (no SPS)"
  [ s!"codec:      {info.codec.label}",
    s!"packets:    {info.packets} ({info.keyframes} keyframes)",
    s!"payload:    {info.payloadSize} bytes",
    s!"duration:   {info.millis} ms",
    s!"dimensions: {dimensions}" ] ++
  (info.firstParameterSet.map fun index => s!"first parameter set at packet {index}").toList

def json (info : BufferInfo) : String :=
  let number (n : Option Nat) : String := (n.map toString).getD "null"
  let members := [
    ("codec", s!"\"{info.codec.tag}\""),
    ("packets", toString info.packets),
    ("keyframes", toString info.keyframes),
    ("payload_bytes", toString info.payloadSize),
    ("duration_ms", toString info.millis),
    ("width", number (info.size.map (·.width))),
    ("height", number (info.size.map (·.height)))]
  let lines := members.map fun (key, value) => s!"  \"{key}\": {value}"
  "\x7b\n" ++ String.intercalate ",\n" lines ++ "\n\x7d"

end BufferInfo

/-- A number with blanks in front up to a width. -/
def rightAligned (width n : Nat) : String :=
  let digits := toString n
  String.ofList (List.replicate (width - digits.length) ' ') ++ digits

def packetLines (buffer : PacketBuffer) : List String :=
  buffer.packets.zipIdx.map fun (p, index) =>
    s!"{rightAligned 5 index} {rightAligned 8 p.pts.millis} ms  {p.summary}"

end Footage.CommandLine
