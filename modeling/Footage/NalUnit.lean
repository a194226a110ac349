import Footage.AnnexB.Escape

/-!
# NAL units and their framing

A NAL unit's payload is either raw, or in byte stream form: escaped, and perhaps behind a start
code. The flags say which, and `toAnnexB` and `toRaw` change the form.
-/

namespace Footage

structure NalUnit where
  payload : Bytes
  /-- The payload is in byte stream form. -/
  isAnnexB : Bool := false
  /-- The payload is in byte stream form but holds no prevention octet. -/
  hasNoEscapes : Bool := false
deriving DecidableEq, Repr

namespace NalUnit

def ofRaw (payload : Bytes) : NalUnit := ⟨payload, false, false⟩

/-- A NAL unit with an escaped payload, with or without start code. -/
def ofAnnexB (payload : Bytes) : NalUnit := ⟨payload, true, false⟩

def startCode (unit : NalUnit) : StartCode := .detect unit.payload

/-- The payload without its start code. -/
def body (unit : NalUnit) : Bytes := unit.payload.drop unit.startCode.length

/-- In byte stream form and behind a start code. -/
def isFramed (unit : NalUnit) : Bool := unit.isAnnexB && unit.startCode != .none

/-- Raw and without start code. -/
def isPlainRaw (unit : NalUnit) : Bool := !unit.isAnnexB && unit.startCode == .none

/-- The byte stream form, always behind a start code. What is escaped already is not escaped
again; it gains at most a short start code. -/
def toAnnexB (unit : NalUnit) : Except BitstreamError NalUnit :=
  if unit.isAnnexB then
    if unit.startCode = .none then
      .ok { unit with payload := StartCode.short.bytes ++ unit.payload }
    else .ok unit
  else do
    let encoded ← AnnexB.encode unit.body .short true
    return ⟨encoded, true, encoded.length = unit.body.length + StartCode.short.length⟩

/-- The raw form, without start code. -/
def toRaw (unit : NalUnit) : NalUnit :=
  .ofRaw (if unit.isAnnexB && !unit.hasNoEscapes then AnnexB.unescape unit.body else unit.body)

/-- The type of an empty H.265 NAL unit, which no header octet can tell. -/
def emptyType : Codec → UInt8
  | .h265 => 255
  | _ => 0

def type (unit : NalUnit) (codec : Codec) : UInt8 :=
  match unit.body with
  | header :: _ => codec.typeOf header
  | [] => emptyType codec

/-- What the NAL unit is for. An empty one is for nothing in particular. -/
def role (unit : NalUnit) (codec : Codec) : NalRole :=
  match unit.body with
  | header :: _ => codec.role (codec.typeOf header)
  | [] => .other

end NalUnit

end Footage
