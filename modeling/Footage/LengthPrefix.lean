import Footage.BitstreamError

/-!
# Length-prefixed framing

MP4 samples hold escaped NAL units without start codes, each behind a four octet length. The
parameter sets stand apart, in a decoder configuration record.
-/

namespace Footage.LengthPrefix

/-- The NAL units one after another, each behind its length. -/
def join (units : List Bytes) : Bytes :=
  units.flatMap fun unit => Bytes.bigEndian 4 unit.length ++ unit

/-- Why no decoder configuration record can be built. -/
inductive ConfigurationFault where
  /-- Profile, compatibility and level stand in the three octets after the header. -/
  | spsTooShort (length : Nat)
  | spsTooLong
  | ppsTooLong

def ConfigurationFault.message : ConfigurationFault → String
  | spsTooShort length => s!"SPS too short for decoder configuration: {length} bytes"
  | spsTooLong => "SPS longer than 65535 bytes"
  | ppsTooLong => "PPS longer than 65535 bytes"

/-- The AVC decoder configuration record of one SPS and one PPS, both escaped and without start
code: version 1, the profile octets of the SPS, four octet lengths, then each set behind its
two octet length. -/
def configuration (sps pps : Bytes) : Except BitstreamError Bytes :=
  let fail (fault : ConfigurationFault) := .error (.malformedParameterSet fault.message)
  match sps with
  | _ :: profile :: compatibility :: level :: _ =>
    if 0xFFFF < sps.length then fail .spsTooLong
    else if 0xFFFF < pps.length then fail .ppsTooLong
    else .ok <|
      [1, profile, compatibility, level, 0xFF, 0xE1] ++ Bytes.bigEndian 2 sps.length ++ sps ++
        [1] ++ Bytes.bigEndian 2 pps.length ++ pps
  | _ => fail (.spsTooShort sps.length)

end Footage.LengthPrefix
