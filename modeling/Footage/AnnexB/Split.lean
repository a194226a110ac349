import Footage.StartCode

/-!
# Cutting a byte stream into NAL units
-/

namespace Footage.AnnexB

/-- Adds a unit, given newest octet first, to the finished ones. An empty unit is dropped. -/
def close (done : List Bytes) : Option Bytes → List Bytes
  | none | some [] => done
  | some unit => unit.reverse :: done

/-- Scans for start codes. `done` holds the finished units, newest first, and `unit` the octets
of the current one, newest first; before the first start code there is none. The next `skip`
octets belong to a start code. -/
def splitFrom (done : List Bytes) (unit : Option Bytes) : (skip : Nat) → Bytes → List Bytes
  | _, [] => (close done unit).reverse
  | skip + 1, _ :: rest => splitFrom done unit skip rest
  | 0, b :: rest =>
    match StartCode.detect (b :: rest) with
    | .none => splitFrom done (unit.map (b :: ·)) 0 rest
    | code => splitFrom (close done unit) (some []) (code.length - 1) rest

/-- The non-empty NAL units of a byte stream, without their start codes. Octets before the first
start code do not count. -/
def split (stream : Bytes) : List Bytes := splitFrom [] none 0 stream

end Footage.AnnexB
