import Footage.ParameterSet.H265

/-!
# Picture size by codec

The sets of H.265 are read by `H265.pictureSize`. Those of H.264 are read by whatever reader the
program has; nothing here depends on which one.
-/

namespace Footage

/-- A reader of H.264 sequence parameter sets. -/
class H264.SizeReader where
  /-- The picture size of a set, given unescaped with its NAL unit header. -/
  pictureSize : Bytes → Except BitstreamError Dimensions

/-- The picture size that an unescaped sequence parameter set tells. -/
def Codec.pictureSize [H264.SizeReader] (codec : Codec) (rbsp : Bytes) :
    Except BitstreamError Dimensions :=
  match codec with
  | .h264 => H264.SizeReader.pictureSize rbsp
  | .h265 => H265.pictureSize rbsp
  | .unknown => .error (.unsupportedCodec .unknown)

end Footage
