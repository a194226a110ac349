import Footage.BitReader
import Footage.BitstreamError
import Footage.ParameterSet.Dimensions
import Footage.Word

/-!
# H.265 sequence parameter sets

The set is read up to its conformance window, which is all that the picture size needs. What
follows does not matter.
-/

namespace Footage.H265

/-- The part of a sequence parameter set that determines the picture size. -/
structure Sps where
  chromaFormat : Nat
  /-- The three colour planes of 4:4:4 video are coded apart. -/
  separatePlanes : Bool
  width : Nat
  height : Nat
  cropLeft : Nat := 0
  cropRight : Nat := 0
  cropTop : Nat := 0
  cropBottom : Nat := 0
deriving DecidableEq, Repr

inductive SpsFault where
  | golombTooLong (field : String)
  | subLayers (value : Nat)
  | chromaFormat (value : Nat)
  /-- The window leaves nothing of the picture in one direction. -/
  | crop (direction : String)

def SpsFault.message : SpsFault → String
  | golombTooLong field => s!"Exp-Golomb code for {field} longer than 32 bits"
  | subLayers value => s!"sps_max_sub_layers_minus1 {value}"
  | chromaFormat value => s!"chroma_format_idc {value}"
  | crop direction => s!"{direction} crop exceeds picture size"

def SpsFault.error (fault : SpsFault) : BitstreamError := .malformedParameterSet fault.message

abbrev Reader := BitReader BitstreamError

def skip (field : String) (count : Nat) : Reader Unit := .skip (.truncated field) count

def flag (field : String) : Reader Bool := .bit (.truncated field)

/-- An Exp-Golomb value. A code with more than 31 leading zeros is refused. -/
def golomb (field : String) : Reader Nat := fun input =>
  let zeros := (input.takeWhile (!·)).length
  if 31 < zeros then .error (SpsFault.golombTooLong field).error
  else
    match input.drop zeros with
    | [] => .error (.truncated field)
    | _ :: rest => (expGolomb zeros <$> BitReader.unsigned (.truncated field) zeros) rest

/-- Passes over the profile and level of the stream and of each of its sub-layers. -/
def skipProfileTierLevel (subLayers : Nat) : Reader Unit := do
  skip "general_profile_tier_level" 96
  let present ← (List.range subLayers).mapM fun _ => do
    let profile ← flag "sub_layer_profile_present_flag"
    let level ← flag "sub_layer_level_present_flag"
    return (profile, level)
  if 0 < subLayers then
    skip "reserved_zero_2bits" (2 * (8 - subLayers))
  present.forM fun (profile, level) => do
    if profile then skip "sub_layer_profile" 88
    if level then skip "sub_layer_level_idc" 8

namespace Sps

/-- Reads a set, NAL unit header included, up to its conformance window. -/
def read : Reader Sps := do
  skip "nal_unit_header" 16
  skip "sps_video_parameter_set_id" 4
  let subLayers ← .unsigned (.truncated "sps_max_sub_layers_minus1") 3
  if 6 < subLayers then .fail (SpsFault.subLayers subLayers).error
  skip "sps_temporal_id_nesting_flag" 1
  skipProfileTierLevel subLayers
  let _ ← golomb "sps_seq_parameter_set_id"
  let chromaFormat ← golomb "chroma_format_idc"
  if 3 < chromaFormat then .fail (SpsFault.chromaFormat chromaFormat).error
  let separate ← .onlyIf (chromaFormat == 3) (flag "separate_colour_plane_flag")
  let width ← golomb "pic_width_in_luma_samples"
  let height ← golomb "pic_height_in_luma_samples"
  let plain : Sps := ⟨chromaFormat, separate.getD false, width, height, 0, 0, 0, 0⟩
  if ← flag "conformance_window_flag" then
    let left ← golomb "conf_win_left_offset"
    let right ← golomb "conf_win_right_offset"
    let top ← golomb "conf_win_top_offset"
    let bottom ← golomb "conf_win_bottom_offset"
    return { plain with cropLeft := left, cropRight := right, cropTop := top, cropBottom := bottom }
  return plain

/-- Planes that are coded apart count as monochrome. -/
def chromaArrayType (sps : Sps) : Nat := if sps.separatePlanes then 0 else sps.chromaFormat

/-- Luma samples per chroma sample, across. -/
def subWidth (sps : Sps) : Nat :=
  if sps.chromaArrayType = 1 ∨ sps.chromaArrayType = 2 then 2 else 1

/-- Luma samples per chroma sample, down. -/
def subHeight (sps : Sps) : Nat := if sps.chromaArrayType = 1 then 2 else 1

/-- `size` less `unit` times the two offsets, in 32-bit arithmetic: the offsets' sum saturates,
and a result that overflows or leaves nothing is a fault. -/
def cropped (size near far unit : Nat) (direction : String) : Except BitstreamError Nat :=
  let offsets := min (near + far) (wordLimit 32 - 1)
  if FitsIn 32 (offsets * unit) ∧ offsets * unit < size then .ok (size - offsets * unit)
  else .error (SpsFault.crop direction).error

/-- The size of the picture inside the conformance window. -/
def dimensions (sps : Sps) : Except BitstreamError Dimensions := do
  let width ← cropped sps.width sps.cropLeft sps.cropRight sps.subWidth "horizontal"
  let height ← cropped sps.height sps.cropTop sps.cropBottom sps.subHeight "vertical"
  return ⟨width, height⟩

end Sps

/-- The picture size of a sequence parameter set, given unescaped with its NAL unit header. -/
def pictureSize (rbsp : Bytes) : Except BitstreamError Dimensions := do
  let (sps, _) ← Sps.read (bitsOf rbsp)
  sps.dimensions

end Footage.H265
