import Footage.BitstreamError
import Footage.StartCode
import Footage.Word

/-!
# Emulation prevention

Inside a NAL unit two zero octets may not be followed by an octet below 4, or a reader could see
a start code in the payload. `escape` puts a `03` in between, `unescape` takes it out again.

`encode` adds a start code and escapes into a buffer of limited size: first one that nearly
always suffices, then one that always does.
-/

namespace Footage.AnnexB

/-- The octet that breaks up a run of zeros. -/
def preventionByte : UInt8 := 3

/-- The length of the run of zeros that ends with `b`, if the run before `b` was `run` long. -/
def zeroRun (run : Nat) (b : UInt8) : Nat := if b = 0 then run + 1 else 0

/-- A `03` is due before `b` after a run of `run` zeros. -/
abbrev NeedsEscape (run : Nat) (b : UInt8) : Prop := 2 ≤ run ∧ b ≤ preventionByte

/-- Escapes octets that follow a run of `run` zeros. An inserted octet ends the run. -/
def escapeAfter : (run : Nat) → Bytes → Bytes
  | _, [] => []
  | run, b :: rest =>
    if NeedsEscape run b then preventionByte :: b :: escapeAfter (zeroRun 0 b) rest
    else b :: escapeAfter (zeroRun run b) rest

/-- The payload with a `03` wherever it could be mistaken for a start code. -/
def escape (raw : Bytes) : Bytes := escapeAfter 0 raw

/-- Drops the prevention octets of a payload that follows a run of `run` zeros. -/
def unescapeAfter : (run : Nat) → Bytes → Bytes
  | _, [] => []
  | run, b :: rest =>
    if 2 ≤ run ∧ b = preventionByte then unescapeAfter 0 rest
    else b :: unescapeAfter (zeroRun run b) rest

/-- The payload without its prevention octets. It must not carry a start code. -/
def unescape (escaped : Bytes) : Bytes := unescapeAfter 0 escaped

/-- Pushes the octets that `unescapeAfter` keeps onto `pushed`, whose newest octet comes first. -/
def pushUnescaped (pushed : Bytes) (run : Nat) : Bytes → Bytes
  | [] => pushed
  | b :: rest =>
    if 2 ≤ run ∧ b = preventionByte then pushUnescaped pushed 0 rest
    else pushUnescaped (b :: pushed) (zeroRun run b) rest

/-- Appends the payload without its prevention octets to `out`. -/
def appendUnescaped (out escaped : Bytes) : Bytes := (pushUnescaped out.reverse 0 escaped).reverse

/-- Counts the octets that `unescapeAfter` keeps, without building them. -/
def unescapedLengthAfter (run size : Nat) : Bytes → Nat
  | [] => size
  | b :: rest =>
    if 2 ≤ run ∧ b = preventionByte then unescapedLengthAfter 0 size rest
    else unescapedLengthAfter (zeroRun run b) (size + 1) rest

def unescapedLength (escaped : Bytes) : Nat := unescapedLengthAfter 0 0 escaped

/-- Where `00 00 03 0N` with `N ≤ 3` first stands: a strong hint that a payload is escaped. -/
def escapeHint? : Bytes → Option Nat
  | [] => none
  | b :: rest =>
    match b :: rest with
    | 0 :: 0 :: 3 :: n :: _ => if n ≤ preventionByte then some 0 else (escapeHint? rest).map (· + 1)
    | _ => (escapeHint? rest).map (· + 1)

/-! ## Encoding into a buffer -/

/-- No encoded form of `rawLength` octets is longer: of two octets at most one needs a `03`. -/
def worstLength (codeLength rawLength : Nat) : Nat := codeLength + rawLength * 3 / 2

/-- The worst length, if words can hold what it is computed from. -/
def countedWorstLength (codeLength rawLength : Nat) : Except Overflow Nat := do
  discard (inWord .multiplication (rawLength * 3))
  inWord .addition (worstLength codeLength rawLength)

/-- Room for nearly every real NAL unit. -/
def optimisticLength (codeLength rawLength : Nat) : Nat := codeLength + 8 + rawLength * 101 / 100

/-- What a write into a buffer leaves: the octets written, and the buffer after them. -/
structure Written where
  front : Bytes
  back : Bytes
deriving DecidableEq, Repr

namespace Written

def buffer (w : Written) : Bytes := w.front ++ w.back

def after (front : Bytes) (w : Written) : Written := { w with front := front ++ w.front }

end Written

/-- Copies `src` over the front of `buffer`, if it fits. -/
def copyInto (src buffer : Bytes) : Option Written :=
  if src.length ≤ buffer.length then some ⟨src, buffer.drop src.length⟩ else none

/-- Escapes octet by octet into `buffer`, and stops with nothing when it is full. -/
def escapeInto : (run : Nat) → Bytes → (buffer : Bytes) → Option Written
  | _, [], buffer => some ⟨[], buffer⟩
  | run, b :: rest, buffer =>
    if NeedsEscape run b then
      match buffer with
      | _ :: _ :: buffer => (escapeInto (zeroRun 0 b) rest buffer).map (.after [preventionByte, b])
      | _ => none
    else
      match buffer with
      | _ :: buffer => (escapeInto (zeroRun run b) rest buffer).map (.after [b])
      | [] => none

/-- Writes a start code and then `raw`, escaped or as it is, into `buffer`. -/
def encodeInto (raw : Bytes) (code : StartCode) (escaping : Bool) (buffer : Bytes) :
    Option Written := do
  let head ← copyInto code.bytes buffer
  let body ← if escaping then escapeInto 0 raw head.back else copyInto raw head.back
  return body.after head.front

/-- The NAL unit `raw` behind a start code. With `escaping` off the payload is copied as it is,
for sources that are escaped already. -/
def encode (raw : Bytes) (code : StartCode) (escaping : Bool) : Except BitstreamError Bytes :=
  match encodeInto raw code escaping (.zeros (optimisticLength code.length raw.length)) with
  | some written => .ok written.front
  | none =>
    let size := worstLength code.length raw.length
    match encodeInto raw code escaping (.zeros size) with
    | some written => .ok written.front
    | none => .error (.invariantViolated
        s!"worst-case Annex-B buffer of {size} bytes too small for {raw.length} raw bytes")

end Footage.AnnexB
