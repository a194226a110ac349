import Footage.Packet.Error
import Footage.Ring.History

/-!
# Errors of recording
-/

namespace Footage

inductive RecorderError where
  /-- No history could be taken. -/
  | history (error : HistoryError)
  /-- The history could not be understood. -/
  | packet (error : PacketError)
  /-- A NAL unit could not be brought into byte stream form. -/
  | bitstream (error : BitstreamError)
  /-- The archive refused a write. -/
  | archive (report : Report)
  /-- Recording could not be started in the background. -/
  | thread (error : IoError)
deriving DecidableEq, Repr

namespace RecorderError

def message : RecorderError → String
  | history error => s!"Ring buffer error: {error.message}"
  | packet error => s!"Packet error: {error.message}"
  | bitstream error => s!"Bitstream error: {error.message}"
  | archive report => s!"Archive error: {report.message}"
  | thread error => s!"Thread error: {error.message}"

/-- Only a broken guarantee is fatal. -/
def isFatal : RecorderError → Bool
  | history error => error.isFatal
  | packet error => error.isFatal
  | bitstream error => error.isFatal
  | archive _ | thread _ => false

end RecorderError

end Footage
