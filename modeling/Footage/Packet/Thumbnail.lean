import Footage.Packet.Buffer

/-!
# Thumbnails

A decoder keeps state from packet to packet. It is fed from a keyframe on until it yields a
frame.
-/

namespace Footage

/-- A decoder with state `σ` that turns packets into frames. It yields nothing while it needs
more input, and may refuse a packet. -/
structure FrameDecoder (σ φ : Type) where
  decode : Packet → Effect σ Report (Option φ)

namespace PacketBuffer

variable {σ φ : Type}

/-- Where the last packet with a keyframe among the first `limit + 1` stands, 0 if there is
none. -/
def keyframeAtOrBefore (packets : List Packet) : (limit : Nat) → Nat
  | 0 => 0
  | limit + 1 =>
    if (packets[limit + 1]?.map (·.hasKeyframe)).getD false then limit + 1
    else keyframeAtOrBefore packets limit

/-- The first packet to decode for a thumbnail: the keyframe at or before the middle. -/
def thumbnailStart (buffer : PacketBuffer) : Nat :=
  keyframeAtOrBefore buffer.packets (buffer.length / 2)

/-- The first frame that the decoder yields on the packets. It may refuse some of them. -/
def firstFrame (decoder : FrameDecoder σ φ) : List Packet → StateM σ (Option φ)
  | [] => return none
  | p :: rest => do
    match ← (decoder.decode p).run with
    | .ok (some frame) => return some frame
    | _ => firstFrame decoder rest

/-- A frame from the middle of the buffer. -/
def thumbnail (buffer : PacketBuffer) (decoder : FrameDecoder σ φ) : Effect σ PacketError φ := do
  match ← firstFrame decoder (buffer.packets.drop buffer.thumbnailStart) with
  | some frame => return frame
  | none => throw .noThumbnail

end PacketBuffer

end Footage
