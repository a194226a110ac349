import Footage.Export.Mp4.Writer
import Footage.Export.TransportStream.Writer

/-!
# Export to a file

A whole buffer as a transport stream or an MP4 file.
-/

namespace Footage

inductive ContainerFormat where
  | transportStream
  | mp4
deriving DecidableEq, Repr

namespace PacketBuffer

variable [H264.SizeReader] {σ : Type}

/-- Exports through a writer that starts out with the state `initial`. -/
def exportFrom {τ : Type} (buffer : PacketBuffer) (writer : ContainerWriter (τ × σ)) (initial : τ) :
    Effect σ PacketError Unit :=
  fun out => let (result, (_, out)) := buffer.exportTo writer (initial, out); (result, out)

def saveTransportStream (buffer : PacketBuffer) (sink : ByteSink σ) : Effect σ PacketError Unit :=
  buffer.exportFrom (TransportStream.Muxer.writer sink) {}

/-- MP4 files hold H.264 only; an H.265 buffer is refused before anything else is looked at. -/
def saveMp4 (buffer : PacketBuffer) (sink : ByteSink σ) : Effect σ PacketError Unit :=
  if buffer.codec = .h265 then throw (.unsupportedCodec .h265)
  else buffer.exportFrom (Mp4.Collector.writer sink) {}

def save (buffer : PacketBuffer) (format : ContainerFormat) (sink : ByteSink σ) :
    Effect σ PacketError Unit :=
  match format with
  | .transportStream => buffer.saveTransportStream sink
  | .mp4 => buffer.saveMp4 sink

end PacketBuffer

end Footage
