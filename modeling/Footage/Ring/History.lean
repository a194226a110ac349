import Footage.Packet.Buffer
import Footage.Ring.Weighted

/-!
# Taking history out of a ring

History starts at a keyframe, together with the parameter sets that were sent just before it, so
that it can be decoded. Of the keyframes that reach back far enough the newest is taken.
-/

namespace Footage

inductive HistoryError where
  /-- The ring is empty. -/
  | noVideo
  /-- None of the packets has a keyframe. -/
  | noKeyframe (buffered : Nat)
  /-- No keyframe comes with its parameter sets. -/
  | missingEssentialMetadata (detail : String)
  /-- The longest history is too short. -/
  | insufficient (requested available : Duration)
  | invariantViolated (detail : String)
deriving DecidableEq, Repr

namespace HistoryError

def message : HistoryError → String
  | noVideo => "No video available"
  | noKeyframe buffered => s!"No keyframe available (buffered packets: {buffered})"
  | missingEssentialMetadata detail => s!"Missing essential metadata before keyframe: {detail}"
  | insufficient requested available =>
    s!"Insufficient history: requested {requested.text}, available {available.text}"
  | invariantViolated detail => s!"Invariant violated: {detail}"

/-- Only a broken guarantee is fatal. -/
def isFatal : HistoryError → Bool
  | invariantViolated _ => true
  | _ => false

/-- More video may help. -/
def isNotReady : HistoryError → Bool
  | noVideo | noKeyframe _ | missingEssentialMetadata _ => true
  | insufficient _ _ | invariantViolated _ => false

end HistoryError

/-- What happens to the packets that are taken. -/
inductive ExtractMethod where
  /-- The ring keeps them and shares them. -/
  | shared
  /-- The ring keeps them and gives copies. -/
  | copied
  /-- The ring gives them away and is empty afterwards. -/
  | drained
deriving DecidableEq, Repr

/-- What to do if the history is shorter than asked for. -/
inductive ExtractMode where
  /-- Take the longest there is. -/
  | bestEffort
  | strict
deriving DecidableEq, Repr

/-- A packet of a ring at which history may start. -/
structure Anchor where
  packet : Packet
  /-- The packets before it, newest first. -/
  older : List Packet
deriving DecidableEq, Repr

namespace Anchor

/-- The packets without picture directly before the anchor, newest first. They belong to its
history. -/
def lead (a : Anchor) : List Packet := a.older.takeWhile (!·.hasPicture)

/-- Where the history starts, counted from the oldest packet on. -/
def start (a : Anchor) : Nat := a.older.length - a.lead.length

/-- Every parameter set that the codec needs comes with the anchor. -/
def hasParameterSets (a : Anchor) : Bool :=
  a.packet.codec.parameterSetTypes.all fun type => (a.packet :: a.lead).any (·.hasType type)

/-- History that starts here can be decoded. -/
def isUsable (a : Anchor) : Bool := a.packet.hasKeyframe && a.hasParameterSets

def coverage (a : Anchor) (newest : Packet) : Duration := newest.pts.minus a.packet.pts

/-- Goes back over packets, newest first, to a usable anchor that covers `minimum`. If there is
none the oldest usable anchor is the answer, or `best` if there is none at all. -/
def find (minimum : Duration) (newest : Packet) (best : Option Anchor) :
    List Packet → Option Anchor
  | [] => best
  | packet :: older =>
    let a : Anchor := ⟨packet, older⟩
    if a.isUsable then
      if minimum.nanos ≤ (a.coverage newest).nanos then some a
      else find minimum newest (some a) older
    else find minimum newest best older

def choose (packets : List Packet) (minimum : Duration) (mode : ExtractMode) :
    Except HistoryError Anchor :=
  match packets.getLast? with
  | none => .error .noVideo
  | some newest =>
    match find minimum newest none packets.reverse with
    | some a =>
      let covered := a.coverage newest
      if covered.nanos < minimum.nanos ∧ mode = .strict then
        .error (.insufficient minimum covered)
      else .ok a
    | none =>
      if packets.any (·.hasKeyframe) then .error (.missingEssentialMetadata
        s!"no {newest.codec.label} keyframe is preceded by its parameter sets")
      else .error (.noKeyframe packets.length)

end Anchor

/-- Empties a ring and gives away the packets from index `start` on. -/
def drainFrom (ring : WeightedRing Packet) (start : Nat) :
    Except HistoryError PacketBuffer × WeightedRing Packet :=
  let count := ring.length - start
  let (_, ring) := ring.popMany start
  let (taken, ring) := ring.popMany count
  if ring.length ≠ 0 ∨ taken.length ≠ count then
    (.error (.invariantViolated s!"drain left {ring.length} packets behind"), ring)
  else (.ok ⟨taken⟩, ring)

def takeHistory (ring : WeightedRing Packet) (method : ExtractMethod) (minimum : Duration)
    (mode : ExtractMode) : Except HistoryError PacketBuffer × WeightedRing Packet :=
  let packets := ring.toList
  match Anchor.choose packets minimum mode with
  | .error error => (.error error, ring)
  | .ok a =>
    match method with
    | .shared | .copied => (.ok ⟨packets.drop a.start⟩, ring)
    | .drained => drainFrom ring a.start

end Footage
