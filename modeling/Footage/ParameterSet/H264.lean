import Footage.BitReader
import Footage.BitstreamError
import Footage.ParameterSet.Dimensions
import Footage.ParameterSet.Size
import Footage.Word

/-!
# H.264 sequence parameter sets

A set is read to its very end, with the usability information and the trailing bits, because a
set that is damaged anywhere is refused. The picture size then follows from the macroblock
counts and the cropping rectangle.
-/

namespace Footage.H264

/-! ## Errors -/

inductive ReadError where
  | endOfData (field : String)
  | golombTooLarge (field : String)
  /-- A one bit stands where only padding may. -/
  | remainingData
deriving DecidableEq, Repr

inductive ScalingError where
  | read (error : ReadError)
  | delta (value : Int)
deriving DecidableEq, Repr

inductive OrderCountError where
  | read (error : ReadError)
  | unknownType (value : Nat)
  | lsbBits (value : Nat)
  | cycleLength (value : Nat)
deriving DecidableEq, Repr

/-- Why a sequence parameter set is refused. -/
inductive SpsError where
  | read (error : ReadError)
  | setId (value : Nat)
  | bitDepth (value : Nat)
  | scaling (error : ScalingError)
  | frameNumberBits (value : Nat)
  | orderCount (error : OrderCountError)
  | bufferCount (value : Nat)
deriving DecidableEq, Repr

inductive SizeError where
  | fieldTooLarge (field : String) (value : Nat)
  | cropping (left right top bottom : Nat)
deriving DecidableEq, Repr

def ReadError.message : ReadError → String
  | endOfData field =>
    s!"ReaderErrorFor(\"{field}\", " ++
      "Error \x7b kind: UnexpectedEof, message: \"failed to fill whole buffer\" \x7d)"
  | golombTooLarge field => s!"ExpGolombTooLarge(\"{field}\")"
  | remainingData => "RemainingData"

def ScalingError.message : ScalingError → String
  | read error => s!"ReaderError({error.message})"
  | delta value => s!"DeltaScaleOutOfRange({value})"

def OrderCountError.message : OrderCountError → String
  | read error => s!"ReaderError({error.message})"
  | unknownType value => s!"InvalidPicOrderCountType({value})"
  | lsbBits value => s!"Log2MaxPicOrderCntLsbMinus4OutOfRange({value})"
  | cycleLength value => s!"NumRefFramesInPicOrderCntCycleOutOfRange({value})"

def SpsError.message : SpsError → String
  | read error => s!"RbspReaderError({error.message})"
  | setId value => s!"BadSeqParamSetId(IdTooLarge({value}))"
  | bitDepth value => s!"BitDepthOutOfRange({value})"
  | scaling error => s!"ScalingMatrix({error.message})"
  | frameNumberBits value => s!"Log2MaxFrameNumMinus4OutOfRange({value})"
  | orderCount error => s!"PicOrderCnt({error.message})"
  | bufferCount value => s!"CpbCountOutOfRange({value})"

def SizeError.message : SizeError → String
  | fieldTooLarge field value =>
    s!"FieldValueTooLarge \x7b name: \"{field}\", value: {value} \x7d"
  | cropping left right top bottom =>
    s!"CroppingError(FrameCropping \x7b left_offset: {left}, right_offset: {right}, " ++
      s!"top_offset: {top}, bottom_offset: {bottom} \x7d)"

/-! ## Fields -/

abbrev Reader := BitReader SpsError

def fixedWidth (count : Nat) (field : String) : BitReader ReadError Nat :=
  .unsigned (.endOfData field) count

def singleBit (field : String) : BitReader ReadError Bool := .bit (.endOfData field)

/-- An Exp-Golomb value. Its zeros are counted to their end before their number is judged. -/
def golombValue (field : String) : BitReader ReadError Nat := fun input =>
  let zeros := (input.takeWhile (!·)).length
  match input.drop zeros with
  | [] => .error (.endOfData field)
  | _ :: rest =>
    if 31 < zeros then .error (.golombTooLarge field)
    else (expGolomb zeros <$> fixedWidth zeros field) rest

def signedValue (field : String) : BitReader ReadError Int := signedGolomb <$> golombValue field

/-- The same reader with its errors renamed. -/
def lift {ε α : Type} (wrap : ReadError → ε) (reader : BitReader ReadError α) : BitReader ε α :=
  fun input => (reader input).mapError wrap

def number (count : Nat) (field : String) : Reader Nat := lift .read (fixedWidth count field)
def flag (field : String) : Reader Bool := lift .read (singleBit field)
def golomb (field : String) : Reader Nat := lift .read (golombValue field)

def golombUpTo (limit : Nat) (field : String) (tooLarge : Nat → SpsError) : Reader Nat := do
  let value ← golomb field
  if limit < value then .fail (tooLarge value)
  return value

/-! ## Scaling lists -/

/-- Reads the deltas of one list. A scale of zero ends the changes, and the list repeats the
last scale before it. -/
def readScalingList : (entries : Nat) → (last next : Int) → BitReader ScalingError Unit
  | 0, _, _ => return
  | entries + 1, last, next =>
    if next = 0 then readScalingList entries last next
    else do
      let delta ← lift .read (signedValue "delta_scale")
      if delta < -128 ∨ 127 < delta then .fail (.delta delta)
      let next := (last + delta + 256).tmod 256
      readScalingList entries (if next = 0 then last else next) next

/-- Reads the lists that are present: six of 16 entries, then those of 64. -/
def readScalingMatrix (lists : Nat) : BitReader ScalingError Unit :=
  (List.range lists).forM fun index => do
    if ← lift .read (singleBit "seq_scaling_list_present_flag") then
      readScalingList (if index < 6 then 16 else 64) 8 8

/-! ## The parts of a set -/

/-- The profiles whose sets describe chroma format and bit depth. -/
def hasChromaInfo (profile : Nat) : Bool :=
  [100, 110, 122, 244, 44, 83, 86].contains profile

/-- Reads the chroma description of a high profile; the answer is the chroma format. -/
def readChromaInfo : Reader Nat := do
  let format ← golomb "chroma_format_idc"
  discard <| .onlyIf (format == 3) (flag "separate_colour_plane_flag")
  discard <| golombUpTo 6 "read_bit_depth_minus8" .bitDepth
  discard <| golombUpTo 6 "read_bit_depth_minus8" .bitDepth
  discard <| flag "qpprime_y_zero_transform_bypass_flag"
  if ← flag "scaling_matrix_present_flag" then
    fun input => (readScalingMatrix (if format = 3 then 12 else 8) input).mapError .scaling
  return format

def readOrderCount : BitReader OrderCountError Unit := do
  let value (field : String) := lift OrderCountError.read (golombValue field)
  let kind ← value "pic_order_cnt_type"
  if kind = 0 then
    let bits ← value "log2_max_pic_order_cnt_lsb_minus4"
    if 12 < bits then .fail (.lsbBits bits)
  else if kind = 1 then
    discard <| lift OrderCountError.read (singleBit "delta_pic_order_always_zero_flag")
    discard <| value "offset_for_non_ref_pic"
    discard <| value "offset_for_top_to_bottom_field"
    let cycle ← value "num_ref_frames_in_pic_order_cnt_cycle"
    if 255 < cycle then .fail (.cycleLength cycle)
    .repeated cycle (value "offset_for_ref_frame")
  else if kind ≠ 2 then .fail (.unknownType kind)

/-- The cropping rectangle, in cropping units from the edges. -/
structure Cropping where
  left : Nat
  right : Nat
  top : Nat
  bottom : Nat
deriving DecidableEq, Repr

def Cropping.read : Reader Cropping := do
  let left ← golomb "left_offset"
  let right ← golomb "right_offset"
  let top ← golomb "top_offset"
  let bottom ← golomb "bottom_offset"
  return ⟨left, right, top, bottom⟩

/-- Reads the parameters of one hypothetical decoder, if there are any; the answer tells. -/
def readDecoderModel : Reader Bool := do
  let present ← flag "hrd_parameters_present_flag"
  if present then
    let count ← golombUpTo 31 "cpb_cnt_minus1" .bufferCount
    discard <| number 4 "bit_rate_scale"
    discard <| number 4 "cpb_size_scale"
    .repeated (count + 1) do
      discard <| golomb "bit_rate_value_minus1"
      discard <| golomb "cpb_size_value_minus1"
      discard <| flag "cbr_flag"
    discard <| number 5 "initial_cpb_removal_delay_length_minus1"
    discard <| number 5 "cpb_removal_delay_length_minus1"
    discard <| number 5 "dpb_output_delay_length_minus1"
    discard <| number 5 "time_offset_length"
  return present

def readUsability : Reader Unit := do
  if ← flag "aspect_ratio_info_present_flag" then
    if (← number 8 "aspect_ratio_idc") = 255 then
      discard <| number 16 "sar_width"
      discard <| number 16 "sar_height"
  if ← flag "overscan_info_present_flag" then
    discard <| flag "overscan_appropriate_flag"
  if ← flag "video_signal_type_present_flag" then
    discard <| number 3 "video_format"
    discard <| flag "video_full_range_flag"
    if ← flag "colour_description_present_flag" then
      discard <| number 8 "colour_primaries"
      discard <| number 8 "transfer_characteristics"
      discard <| number 8 "matrix_coefficients"
  if ← flag "chroma_loc_info_present_flag" then
    discard <| golomb "chroma_sample_loc_type_top_field"
    discard <| golomb "chroma_sample_loc_type_bottom_field"
  if ← flag "timing_info_present_flag" then
    discard <| number 32 "num_units_in_tick"
    discard <| number 32 "time_scale"
    discard <| flag "fixed_frame_rate_flag"
  let nalModel ← readDecoderModel
  let vclModel ← readDecoderModel
  if nalModel || vclModel then
    discard <| flag "low_delay_hrd_flag"
  discard <| flag "pic_struct_present_flag"
  if ← flag "bitstream_restriction_flag" then
    discard <| flag "motion_vectors_over_pic_boundaries_flag"
    discard <| golomb "max_bytes_per_pic_denom"
    discard <| golomb "max_bits_per_mb_denom"
    discard <| golomb "log2_max_mv_length_horizontal"
    discard <| golomb "log2_max_mv_length_vertical"
    discard <| golomb "max_num_reorder_frames"
    discard <| golomb "max_dec_frame_buffering"

/-- The end of a set: a one bit and then nothing but zeros. -/
def readTrailing : Reader Unit
  | [] => .error (.read (.endOfData "finish"))
  | stop :: padding =>
    if padding.any id then .error (.read .remainingData)
    else if stop then .ok ((), [])
    else .error (.read (.endOfData "finish"))

/-! ## The set and its picture size -/

/-- The part of a sequence parameter set that determines the picture size. -/
structure Sps where
  chromaFormat : Nat
  /-- Width in macroblocks, less one. -/
  widthLessOne : Nat
  /-- Height in map units, less one. -/
  heightLessOne : Nat
  /-- Every picture is a whole frame, never a field. -/
  framesOnly : Bool
  cropping : Option Cropping
deriving DecidableEq, Repr

namespace Sps

/-- Reads a whole set that follows its NAL unit header. -/
def read : Reader Sps := do
  let profile ← number 8 "profile_idc"
  discard <| number 8 "constraint_flags"
  discard <| number 8 "level_idc"
  discard <| golombUpTo 31 "seq_parameter_set_id" .setId
  let chromaFormat ← if hasChromaInfo profile then readChromaInfo else pure 1
  discard <| golombUpTo 12 "log2_max_frame_num_minus4" .frameNumberBits
  fun input => (readOrderCount input).mapError .orderCount
  discard <| golomb "max_num_ref_frames"
  discard <| flag "gaps_in_frame_num_value_allowed_flag"
  let widthLessOne ← golomb "pic_width_in_mbs_minus1"
  let heightLessOne ← golomb "pic_height_in_map_units_minus1"
  let framesOnly ← flag "frame_mbs_only_flag"
  if !framesOnly then
    discard <| flag "mb_adaptive_frame_field_flag"
  discard <| flag "direct_8x8_inference_flag"
  let cropping ← BitReader.onlyIf (← flag "frame_cropping_flag") Cropping.read
  if ← flag "vui_parameters_present_flag" then
    readUsability
  readTrailing
  return ⟨chromaFormat, widthLessOne, heightLessOne, framesOnly, cropping⟩

def fieldFactor (sps : Sps) : Nat := if sps.framesOnly then 1 else 2

/-- Pixels per cropping unit, across. -/
def cropStepX (sps : Sps) : Nat :=
  if sps.chromaFormat = 1 ∨ sps.chromaFormat = 2 then 2 else 1

/-- Pixels per cropping unit, down. -/
def cropStepY (sps : Sps) : Nat :=
  if sps.chromaFormat = 1 then 2 * sps.fieldFactor else sps.fieldFactor

/-- `count * unit` as a 32-bit number; `value` is what the set says in `field`. -/
def scaled (count unit : Nat) (field : String) (value : Nat) : Except SizeError Nat :=
  if FitsIn 32 (count * unit) then .ok (count * unit) else .error (.fieldTooLarge field value)

/-- The picture size after cropping. A picture may be cropped to nothing, but not further. -/
def dimensions (sps : Sps) : Except SizeError Dimensions := do
  let width ← scaled (sps.widthLessOne + 1) 16 "pic_width_in_mbs_minus1" sps.widthLessOne
  let height ← scaled (sps.heightLessOne + 1) (16 * sps.fieldFactor)
    "pic_height_in_map_units_minus1" sps.heightLessOne
  match sps.cropping with
  | none => return ⟨width, height⟩
  | some crop =>
    let left ← scaled crop.left sps.cropStepX "left_offset" crop.left
    let right ← scaled crop.right sps.cropStepX "right_offset" crop.right
    let top ← scaled crop.top sps.cropStepY "top_offset" crop.top
    let bottom ← scaled crop.bottom sps.cropStepY "bottom_offset" crop.bottom
    if width < left + right ∨ height < top + bottom then
      throw (.cropping crop.left crop.right crop.top crop.bottom)
    return ⟨width - left - right, height - top - bottom⟩

end Sps

/-- The picture size of a sequence parameter set, given unescaped with its NAL unit header. -/
def pictureSize : Bytes → Except BitstreamError Dimensions
  | [] => .error (.truncated "nal_unit_header")
  | _ :: body =>
    match Sps.read (bitsOf body) with
    | .error error => .error (.malformedParameterSet s!"bad SPS: {error.message}")
    | .ok (sps, _) =>
      sps.dimensions.mapError fun error =>
        .malformedParameterSet s!"SPS has invalid pixel dimensions: {error.message}"

/-- The reader that the program uses. -/
instance sizeReader : SizeReader := ⟨pictureSize⟩

end Footage.H264
