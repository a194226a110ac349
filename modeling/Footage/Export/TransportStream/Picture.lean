import Footage.Codec
import Footage.Export.TransportStream.Packet
import Footage.StartCode

/-!
# Pictures in a transport stream

Each picture travels in an elementary packet: a header with its times, then its NAL units as a
byte stream. Times are ticks of a 90 kHz clock, of which 33 bits are written.
-/

namespace Footage.TransportStream

/-- A time in five octets: a four-bit mark, then three, fifteen and fifteen bits, each group
closed by a one. -/
def timeField (mark time : Nat) : Bytes :=
  [UInt8.ofNat (mark * 16 + (time >>> 30) % 8 * 2 + 1), UInt8.ofNat (time >>> 22),
    UInt8.ofNat ((time >>> 15) % 128 * 2 + 1), UInt8.ofNat (time >>> 7),
    UInt8.ofNat (time % 128 * 2 + 1)]

/-- The header of an elementary packet: the decode time is written only if it is not the
presentation time. -/
def pictureHeader (pts dts : Nat) : Bytes :=
  [0x00, 0x00, 0x01, 0xE0, 0x00, 0x00, 0x80] ++
    if pts = dts then [0x80, 5] ++ timeField 2 pts
    else [0xC0, 10] ++ timeField 3 pts ++ timeField 1 dts

/-- The program clock: 33 bits of the 90 kHz clock, six reserved bits, and no finer part. -/
def clockField (time : Nat) : Bytes :=
  [UInt8.ofNat (time >>> 25), UInt8.ofNat (time >>> 17), UInt8.ofNat (time >>> 9),
    UInt8.ofNat (time >>> 1), UInt8.ofNat (time % 2 * 128 + 0x7E), 0x00]

/-- What the first packet of a picture tells beside its data: that decoding can start here, and
the program clock. -/
def pictureFields (isKeyframe : Bool) (clock : Option Nat) : Bytes :=
  if !isKeyframe && clock.isNone then []
  else
    let flags := (if isKeyframe then 0x40 else 0) ||| (if clock.isSome then 0x10 else 0)
    flags :: (clock.map clockField).getD []

/-- NAL units as a byte stream, each behind a long start code. -/
def byteStream (units : List Bytes) : Bytes := units.flatMap (StartCode.long.bytes ++ ·)

def delimiter : Codec → Bytes
  | .h265 => H265.delimiterUnit
  | _ => H264.delimiterUnit

/-- The number by which the program map names the codec. -/
def streamType : Codec → UInt8
  | .h265 => 0x24
  | _ => 0x1B

end Footage.TransportStream
