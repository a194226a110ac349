import Footage.JsonText.Typed
import Footage.Recorder.Session

/-!
# Settings

Settings are a JSON text. What it leaves out keeps its default.
-/

namespace Footage

open JsonText (Field Problem Reading Refusal Shape choice double lenientRecord readAll record truth
  whole)

structure PacketSettings where
  /-- Escape raw NAL units when they are written as a byte stream. -/
  escaping : Bool := true
deriving DecidableEq, Repr

structure RingSettings where
  /-- Octets of payload that the ring keeps. -/
  budget : Nat := RingBuffer.defaultBudget
  /-- At most one warning about dropped packets in this time. -/
  dropWarningInterval : Duration := .ofSeconds 3
deriving DecidableEq, Repr

structure Settings where
  packet : PacketSettings := {}
  ring : RingSettings := {}
  recorder : RecorderSettings := {}

namespace Settings

/-! ## The parts of a time span -/

/-- Seconds and nanoseconds, as far as they were given. -/
structure SpanParts where
  seconds : Option Nat := none
  nanos : Option Nat := none

/-- The span of the parts, both of which are needed. Nanoseconds carry over into seconds. -/
def SpanParts.span (missing : (index : Nat) → String → Problem) (parts : SpanParts) :
    Except Problem Duration :=
  match parts.seconds, parts.nanos with
  | none, _ => .error (missing 0 "secs")
  | some _, none => .error (missing 1 "nanos")
  | some seconds, some nanos =>
    if FitsIn 64 (seconds + nanos / nanosPerSecond) then .ok ⟨seconds * nanosPerSecond + nanos⟩
    else .error .spanOverflow

def spanShape : Shape SpanParts Duration where
  expected := "struct Duration"
  fields := [
    .of "secs" (whole 64 "u64") fun n parts => { parts with seconds := some n },
    .of "nanos" (whole 32 "u32") fun n parts => { parts with nanos := some n }]
  isStrict := true
  ofObject := SpanParts.span fun _ name => .missingField name
  ofList := SpanParts.span fun index _ => .invalidLength index "struct Duration"

def span : Reading Duration := record spanShape {}

/-! ## The parts of the settings -/

/-- What a listener with a full channel may be set to. -/
def policyChoices : List (String × FullPolicy) := [("drop", .drop), ("stall", .stall)]

def modeChoices : List (String × ExtractMode) := [("best_effort", .bestEffort), ("strict", .strict)]

def methodChoices : List (String × ExtractMethod) :=
  [("shallow_clone", .shared), ("deep_clone", .copied), ("drain", .drained)]

def codecChoices : List (String × Codec) :=
  [("h264", .h264), ("h265", .h265), ("unknown", .unknown)]

def packetSettings : Reading PacketSettings := lenientRecord "struct PacketConfig" [
  .of "escape_emulation_prevention" truth fun b s => { s with escaping := b }] {}

def ringSettings : Reading RingSettings := lenientRecord "struct RingBufferConfig" [
  .of "max_weight_bytes" (whole 64 "usize") fun n s => { s with budget := n },
  .of "drop_warning_interval" span fun d s => { s with dropWarningInterval := d }] {}

def backoffPolicy : Reading BackoffPolicy := lenientRecord "struct BackoffPolicy" [
  .of "base_delay" span fun d s => { s with base := d },
  .of "multiplier" double fun x s => { s with multiplier := x },
  .of "max_exponent" (whole 32 "u32") fun n s => { s with maxExponent := n }] {}

def recorderSettings : Reading RecorderSettings := lenientRecord "struct RecorderConfig" [
  .of "include_history" span fun d s => { s with history := d },
  .of "channel_capacity" (whole 64 "usize") fun n s => { s with channelCapacity := n },
  .of "listener_policy" (choice policyChoices) fun p s => { s with policy := p },
  .of "extract_mode" (choice modeChoices) fun m s => { s with mode := m },
  .of "backoff" backoffPolicy fun b s => { s with backoff := b },
  .of "write_warning_interval" span fun d s => { s with writeWarningInterval := d },
  .of "not_ready_warning_attempt" (whole 32 "u32") fun n s =>
    { s with notReadyWarningAttempt := n }] {}

def settings : Reading Settings := lenientRecord "struct ToolConfig" [
  .of "packet" packetSettings fun p s => { s with packet := p },
  .of "ring_buffer" ringSettings fun r s => { s with ring := r },
  .of "recorder" recorderSettings fun r s => { s with recorder := r }] {}

def parse (text : Bytes) : Except Refusal Settings := readAll settings text

end Settings

end Footage
