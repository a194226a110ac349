import Footage.Codec

/-!
# Errors of NAL unit framing and parameter sets
-/

namespace Footage

/-- Why framing or parsing of a NAL unit failed. -/
inductive BitstreamError where
  /-- A guarantee of this library does not hold. -/
  | invariantViolated (detail : String)
  | emptyNalUnit
  /-- A parameter set ends before `field` is complete. -/
  | truncated (field : String)
  /-- A parameter set holds a value that is not allowed. -/
  | malformedParameterSet (detail : String)
  | unsupportedCodec (codec : Codec)
  | unknownCodecName (name : String)
deriving DecidableEq, Repr

namespace BitstreamError

def message : BitstreamError → String
  | invariantViolated detail => s!"Invariant violated: {detail}"
  | emptyNalUnit => "Empty NAL unit"
  | truncated field => s!"Parameter set truncated while reading {field}"
  | malformedParameterSet detail => s!"Malformed parameter set: {detail}"
  | unsupportedCodec codec => s!"Unsupported codec: {codec.label}"
  | unknownCodecName name => s!"Unknown codec name: {name}"

/-- Only a broken guarantee is fatal; all else is bad input. -/
def isFatal : BitstreamError → Bool
  | invariantViolated _ => true
  | _ => false

end BitstreamError

def Codec.parse (name : String) : Except BitstreamError Codec :=
  match Codec.ofName? name with
  | some codec => .ok codec
  | none => .error (.unknownCodecName name)

end Footage
