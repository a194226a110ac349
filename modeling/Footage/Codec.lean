import Footage.Bytes

/-!
# Codecs and the types of their NAL units

A NAL unit's header tells its type, and the type tells its part in decoding: parameter set,
keyframe slice, slice that leans on earlier pictures, or anything else.
-/

namespace Footage

inductive Codec where
  /-- No packet seen yet. -/
  | unknown
  | h264
  | h265
deriving DecidableEq, Repr

/-- What a NAL unit is for, whatever the codec. -/
inductive NalRole where
  | other
  /-- Must be known before decoding can start. -/
  | parameterSet
  /-- Belongs to a picture that can be decoded on its own. -/
  | keyframe
  /-- Belongs to a picture that needs earlier ones. -/
  | interFrame
deriving DecidableEq, Repr

namespace NalRole

/-- All roles, in the order in which reports list them. -/
def all : List NalRole := [other, parameterSet, keyframe, interFrame]

/-- Slices of either kind carry picture data. -/
def isPicture : NalRole → Bool
  | keyframe | interFrame => true
  | other | parameterSet => false

end NalRole

namespace H264

def nonIdrSlice : UInt8 := 1
def idrSlice : UInt8 := 5
def supplemental : UInt8 := 6
def sps : UInt8 := 7
def pps : UInt8 := 8
def delimiter : UInt8 := 9

/-- The type is the low five bits of the header. -/
def typeOf (header : UInt8) : UInt8 := header &&& 0x1F

/-- A delimiter that allows every slice type. -/
def delimiterUnit : Bytes := [0x09, 0xF0]

end H264

namespace H265

/-- Types up to this one are slices that need earlier pictures. -/
def lastInterFrame : UInt8 := 9
def idrWithLeading : UInt8 := 19
def idrWithoutLeading : UInt8 := 20
def vps : UInt8 := 32
def sps : UInt8 := 33
def pps : UInt8 := 34
def delimiter : UInt8 := 35

/-- The type is the six bits below the top bit of the first header octet. -/
def typeOf (header : UInt8) : UInt8 := (header >>> 1) &&& 0x3F

/-- A delimiter that allows every slice type. -/
def delimiterUnit : Bytes := [0x46, 0x01, 0x50]

end H265

namespace Codec

/-- The NAL unit type in a header octet. An unknown codec is read like H.264. -/
def typeOf : Codec → UInt8 → UInt8
  | h265, header => H265.typeOf header
  | _, header => H264.typeOf header

def role : Codec → UInt8 → NalRole
  | h264, type =>
    if type = H264.sps ∨ type = H264.pps then .parameterSet
    else if type = H264.idrSlice then .keyframe
    else if type = H264.nonIdrSlice then .interFrame
    else .other
  | h265, type =>
    if type = H265.vps ∨ type = H265.sps ∨ type = H265.pps then .parameterSet
    else if type = H265.idrWithLeading ∨ type = H265.idrWithoutLeading then .keyframe
    else if type ≤ H265.lastInterFrame then .interFrame
    else .other
  | unknown, _ => .other

def spsType? : Codec → Option UInt8
  | h264 => some H264.sps
  | h265 => some H265.sps
  | unknown => none

/-- The types that must all be present before the first keyframe can be decoded. -/
def parameterSetTypes : Codec → List UInt8
  | h264 => [H264.sps, H264.pps]
  | h265 => [H265.vps, H265.sps, H265.pps]
  | unknown => []

def delimiterType? : Codec → Option UInt8
  | h264 => some H264.delimiter
  | h265 => some H265.delimiter
  | unknown => none

/-- The name that muxers and decoders commonly use. -/
def commonName : Codec → String
  | h264 => "h264"
  | h265 => "hevc"
  | unknown => "unknown"

/-- The name in messages to people. -/
def label : Codec → String
  | h264 => "H264"
  | h265 => "H265"
  | unknown => "Unknown"

/-- The name in machine-readable output and settings. -/
def tag : Codec → String
  | h264 => "h264"
  | h265 => "h265"
  | unknown => "unknown"

/-- The codec that a person means by a name; ASCII case does not matter. -/
def ofName? (name : String) : Option Codec :=
  let name := String.ofList (name.toList.map Char.toLower)
  if name = "h264" ∨ name = "avc" then some h264
  else if name = "h265" ∨ name = "hevc" then some h265
  else none

end Codec

end Footage
