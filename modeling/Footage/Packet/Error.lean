import Footage.BitstreamError
import Footage.Report
import Footage.Word

/-!
# Errors of packets and packet buffers
-/

namespace Footage

inductive PacketError where
  | empty
  | missingSps
  /-- A parameter set that must come before the first keyframe is not there. -/
  | missingEssentialMetadata (detail : String)
  | noKeyframe
  | noThumbnail
  | unsupportedCodec (codec : Codec)
  /-- A file of a dump does not follow the naming scheme. -/
  | invalidDumpFile (path : String)
  | bitstream (error : BitstreamError)
  | io (error : IoError)
  /-- A container writer or decoder failed. -/
  | external (report : Report)
  /-- A container writer counted further than it can. -/
  | overflow (cause : Overflow)
deriving DecidableEq, Repr

namespace PacketError

def message : PacketError → String
  | empty => "Packet buffer is empty"
  | missingSps => "No SPS found"
  | missingEssentialMetadata detail => s!"Missing essential metadata: {detail}"
  | noKeyframe => "No keyframe found"
  | noThumbnail => "No thumbnail available"
  | unsupportedCodec codec => s!"Unsupported codec: {codec.label}"
  | invalidDumpFile path => s!"Invalid dump file name: {path}"
  | bitstream error => s!"Bitstream error: {error.message}"
  | io error => s!"IO error: {error.message}"
  | external report => report.message
  | overflow cause => cause.message

/-- What lies underneath, from the nearest cause on. -/
def causes : PacketError → List String
  | bitstream error => [error.message]
  | io error => [error.message]
  | external report => report.causes
  | _ => []

def report (error : PacketError) : Report := ⟨error.message, error.causes⟩

/-- Only a broken guarantee is fatal. -/
def isFatal : PacketError → Bool
  | bitstream error => error.isFatal
  | _ => false

end PacketError

end Footage
