import Footage.Packet.Thumbnail
import Footage.Proofs.Effects

/-!
# The packets of a thumbnail

A decoder keeps state from packet to packet, yields nothing while it needs more, and may refuse what
it is fed. This file says which packets it is fed for a thumbnail, and what comes of them.

* `FrameDecoder.Feeds`: what comes of feeding packets until there is a frame. `feeds_logging`: the
  log of a decoder holds the packets that it was fed.
* `PacketBuffer.StartsAt`: where the packets start. If there is no keyframe up to the middle they
  start at the front, where the decoder has nothing to start with.
* `thumbnail_run`: both together.
-/

namespace Footage

variable {σ φ : Type}

/-! ## Feeding a decoder -/

namespace FrameDecoder

variable {decoder : FrameDecoder σ φ}

/-- The same decoder with a log of the packets that it was fed. The newest one comes first. -/
def logging (decoder : FrameDecoder σ φ) : FrameDecoder (List Packet × σ) φ where
  decode p := do
    modify fun (fed, state) => (p :: fed, state)
    (decoder.decode p).onSecond

/-- The state of the decoder when it was fed the packets, whatever came of each. -/
def after (decoder : FrameDecoder σ φ) (packets : List Packet) (s : σ) : σ :=
  packets.foldl (fun s p => (decoder.decode p s).2) s

/-- Each packet in its turn is refused, or the decoder needs more. -/
def YieldsNothing (decoder : FrameDecoder σ φ) (packets : List Packet) (s : σ) : Prop :=
  ∀ before p rest, packets = before ++ p :: rest →
    ∀ frame, (decoder.decode p (decoder.after before s)).1 ≠ .ok (some frame)

/-- What comes of feeding the packets until one of them yields a frame: the frame, the packets that
were fed, and the state that they leave behind. -/
inductive Feeds (decoder : FrameDecoder σ φ) (packets : List Packet) (s : σ) :
    Option φ → List Packet → σ → Prop
  | all : decoder.YieldsNothing packets s →
      Feeds decoder packets s none packets (decoder.after packets s)
  | upTo {before rest : List Packet} {p : Packet} {frame : φ} {s' : σ} :
      packets = before ++ p :: rest → decoder.YieldsNothing before s →
      decoder.decode p (decoder.after before s) = (.ok (some frame), s') →
      Feeds decoder packets s (some frame) (before ++ [p]) s'

theorem YieldsNothing.nil {s : σ} : decoder.YieldsNothing [] s := by
  intro before p rest parts
  cases before <;> cases parts

theorem YieldsNothing.cons {p : Packet} {packets : List Packet} {s s₁ : σ}
    {result : Except Report (Option φ)} (first : decoder.decode p s = (result, s₁))
    (nothing : ∀ frame, result ≠ .ok (some frame)) (h : decoder.YieldsNothing packets s₁) :
    decoder.YieldsNothing (p :: packets) s := by
  intro before q rest parts frame yields
  rcases List.cons_eq_append_iff.mp parts with ⟨rfl, whole⟩ | ⟨before, rfl, rfl⟩
  · cases whole
    have here : (decoder.decode p s).1 = .ok (some frame) := yields
    rw [first] at here
    exact nothing frame here
  · have later : (decoder.decode q (decoder.after before (decoder.decode p s).2)).1 =
        .ok (some frame) := yields
    rw [first] at later
    exact h before q rest rfl frame later

theorem Feeds.cons {p : Packet} {packets fed : List Packet} {s s₁ s' : σ}
    {result : Except Report (Option φ)} {frame? : Option φ}
    (first : decoder.decode p s = (result, s₁)) (nothing : ∀ frame, result ≠ .ok (some frame))
    (h : decoder.Feeds packets s₁ frame? fed s') :
    decoder.Feeds (p :: packets) s frame? (p :: fed) s' := by
  have behind (later : List Packet) : decoder.after (p :: later) s = decoder.after later s₁ := by
    unfold after
    rw [List.foldl_cons, first]
  cases h with
  | all none =>
    rw [← behind]
    exact .all (none.cons first nothing)
  | upTo parts none yields =>
    refine .upTo (congrArg (p :: ·) parts) (none.cons first nothing) ?_
    rw [behind]
    exact yields

/-- The packets fed are the beginning of those that there are. -/
theorem Feeds.fed_prefix {packets fed : List Packet} {s s' : σ} {frame? : Option φ}
    (h : decoder.Feeds packets s frame? fed s') : fed <+: packets := by
  cases h with
  | all => exact List.prefix_rfl
  | upTo parts => exact ⟨_, by rw [parts, List.append_assoc, List.singleton_append]⟩

/-- If there is a packet at all, the first one is fed. -/
theorem Feeds.head?_fed {packets fed : List Packet} {s s' : σ} {frame? : Option φ}
    (h : decoder.Feeds packets s frame? fed s') : fed.head? = packets.head? := by
  cases h with
  | all => rfl
  | @upTo before _ _ _ _ parts =>
    rw [parts]
    cases before <;> rfl

end FrameDecoder

namespace PacketBuffer

theorem firstFrame_of_frame {decoder : FrameDecoder σ φ} {p : Packet} {s s₁ : σ} {frame : φ}
    (first : decoder.decode p s = (.ok (some frame), s₁)) (rest : List Packet) :
    firstFrame decoder (p :: rest) s = (some frame, s₁) := by
  rw [firstFrame]
  simp only [bind, StateT.bind, ExceptT.run, first]
  rfl

/-- A packet that is refused or yields nothing leaves the frame to those that follow. -/
theorem firstFrame_of_nothing {decoder : FrameDecoder σ φ} {p : Packet} {s s₁ : σ}
    {result : Except Report (Option φ)} (first : decoder.decode p s = (result, s₁))
    (nothing : ∀ frame, result ≠ .ok (some frame)) (rest : List Packet) :
    firstFrame decoder (p :: rest) s = firstFrame decoder rest s₁ := by
  rw [firstFrame]
  simp only [bind, StateT.bind, ExceptT.run, first]

/-- A log does not change what comes of the packets, and holds those that were fed. -/
theorem feeds_logging (decoder : FrameDecoder σ φ) (packets log : List Packet) (s : σ) :
    ∃ frame? fed s', decoder.Feeds packets s frame? fed s' ∧
      firstFrame decoder packets s = (frame?, s') ∧
      firstFrame decoder.logging packets (log, s) = (frame?, (fed.reverse ++ log, s')) := by
  induction packets generalizing log s with
  | nil => exact ⟨none, [], s, .all .nil, rfl, rfl⟩
  | cons p rest ih =>
    rcases first : decoder.decode p s with ⟨result, s₁⟩
    have logged : decoder.logging.decode p (log, s) = (result, (p :: log, s₁)) := by
      show ((decoder.decode p s).1, (p :: log, (decoder.decode p s).2)) = _
      rw [first]
    by_cases yields : ∃ frame, result = .ok (some frame)
    · obtain ⟨frame, rfl⟩ := yields
      have stops : decoder.Feeds (p :: rest) s (some frame) ([] ++ [p]) s₁ := .upTo rfl .nil first
      exact ⟨some frame, [p], s₁, stops, firstFrame_of_frame first rest,
        firstFrame_of_frame logged rest⟩
    · have nothing (frame : φ) : result ≠ .ok (some frame) := fun is => yields ⟨frame, is⟩
      obtain ⟨frame?, fed, s', feeds, plain, withLog⟩ := ih (p :: log) s₁
      refine ⟨frame?, p :: fed, s', feeds.cons first nothing, ?_, ?_⟩
      · rw [firstFrame_of_nothing first nothing, plain]
      · rw [firstFrame_of_nothing logged nothing, withLog, List.reverse_cons, List.append_assoc,
          List.singleton_append]

/-! ## Where the packets start -/

/-- The packets start at the last keyframe up to the middle. If there is none they start at the
front. -/
inductive StartsAt (buffer : PacketBuffer) : Nat → Prop
  | keyframe {start : Nat} {p : Packet} : buffer.packets[start]? = some p → p.hasKeyframe = true →
      start ≤ buffer.length / 2 →
      (∀ later q, start < later → later ≤ buffer.length / 2 → buffer.packets[later]? = some q →
        q.hasKeyframe = false) → StartsAt buffer start
  | front : (∀ index q, index ≤ buffer.length / 2 → buffer.packets[index]? = some q →
      q.hasKeyframe = false) → StartsAt buffer 0

theorem keyframeAt_iff {packets : List Packet} {index : Nat} :
    (packets[index]?.map (·.hasKeyframe)).getD false = true ↔
      ∃ p, packets[index]? = some p ∧ p.hasKeyframe = true := by
  cases packets[index]? <;> simp

/-- Going back from `limit`, the first keyframe counts. -/
theorem keyframeAtOrBefore_cases (packets : List Packet) (limit : Nat) :
    (∃ p, packets[keyframeAtOrBefore packets limit]? = some p ∧ p.hasKeyframe = true ∧
      keyframeAtOrBefore packets limit ≤ limit ∧
      ∀ later q, keyframeAtOrBefore packets limit < later → later ≤ limit →
        packets[later]? = some q → q.hasKeyframe = false) ∨
    keyframeAtOrBefore packets limit = 0 ∧
      ∀ index q, index ≤ limit → packets[index]? = some q → q.hasKeyframe = false := by
  induction limit with
  | zero =>
    by_cases here : ∃ p, packets[0]? = some p ∧ p.hasKeyframe = true
    · obtain ⟨p, first, keyframe⟩ := here
      exact .inl ⟨p, first, keyframe, Nat.le_refl 0, fun later _ behind within =>
        absurd within (Nat.not_le_of_lt behind)⟩
    · refine .inr ⟨rfl, fun index q within at_ => ?_⟩
      obtain rfl := Nat.le_zero.mp within
      exact Bool.eq_false_iff.mpr fun keyframe => here ⟨q, at_, keyframe⟩
  | succ limit ih =>
    unfold keyframeAtOrBefore
    split
    next here =>
      obtain ⟨p, found, keyframe⟩ := keyframeAt_iff.mp here
      exact .inl ⟨p, found, keyframe, Nat.le_refl _, fun later _ behind within =>
        absurd within (Nat.not_le_of_lt behind)⟩
    next other =>
      have last (q : Packet) (at_ : packets[limit + 1]? = some q) : q.hasKeyframe = false :=
        Bool.eq_false_iff.mpr fun keyframe => other (keyframeAt_iff.mpr ⟨q, at_, keyframe⟩)
      rcases ih with ⟨p, found, keyframe, bound, others⟩ | ⟨front, none⟩
      · refine .inl ⟨p, found, keyframe, Nat.le_succ_of_le bound, ?_⟩
        intro later q behind within at_
        rcases Nat.le_succ_iff.mp within with earlier | rfl
        · exact others later q behind earlier at_
        · exact last q at_
      · refine .inr ⟨front, ?_⟩
        intro index q within at_
        rcases Nat.le_succ_iff.mp within with earlier | rfl
        · exact none index q earlier at_
        · exact last q at_

theorem startsAt_thumbnailStart (buffer : PacketBuffer) :
    buffer.StartsAt buffer.thumbnailStart := by
  unfold thumbnailStart
  rcases keyframeAtOrBefore_cases buffer.packets (buffer.length / 2) with
    ⟨p, here, keyframe, bound, others⟩ | ⟨front, none⟩
  · exact .keyframe here keyframe bound others
  · rw [front]
    exact .front none

/-- The packets start with a keyframe just if there is one up to the middle. -/
theorem StartsAt.startsWithKeyframe_iff {buffer : PacketBuffer} {start : Nat}
    (h : buffer.StartsAt start) :
    (∃ p, buffer.packets[start]? = some p ∧ p.hasKeyframe = true) ↔
      ∃ index p, index ≤ buffer.length / 2 ∧ buffer.packets[index]? = some p ∧
        p.hasKeyframe = true := by
  cases h with
  | @keyframe start p here keyframe bound =>
    exact iff_of_true ⟨p, here, keyframe⟩ ⟨start, p, bound, here, keyframe⟩
  | front none =>
    constructor
    · rintro ⟨p, here, keyframe⟩
      exact ⟨0, p, Nat.zero_le _, here, keyframe⟩
    · rintro ⟨index, p, within, here, keyframe⟩
      rw [none index p within here] at keyframe
      cases keyframe

/-! ## A thumbnail -/

def thumbnailOf : Option φ → Except PacketError φ
  | some frame => .ok frame
  | none => .error .noThumbnail

theorem thumbnail_of_firstFrame {buffer : PacketBuffer} {decoder : FrameDecoder σ φ} {s s' : σ}
    {frame? : Option φ}
    (found : firstFrame decoder (buffer.packets.drop buffer.thumbnailStart) s = (frame?, s')) :
    buffer.thumbnail decoder s = (thumbnailOf frame?, s') := by
  have lifted : (liftM (firstFrame decoder (buffer.packets.drop buffer.thumbnailStart)) :
      Effect σ PacketError (Option φ)) s = (.ok frame?, s') := by
    show (fun done : Option φ × σ => (Except.ok done.1, done.2)) (firstFrame _ _ s) = _
    rw [found]
  unfold thumbnail
  rw [Effect.bind_apply, lifted]
  cases frame? <;> rfl

/-- For a thumbnail a decoder, which may refuse packets as it likes, is fed a row of the buffer's
packets, one after another. The row starts at the last keyframe up to the middle, and at the front
if there is none; so its first packet is a keyframe just if there is one up to the middle. It ends
with the first packet that yields a frame, which is the thumbnail, or else with the last packet of
the buffer, and then there is none. -/
theorem thumbnail_run (buffer : PacketBuffer) (decoder : FrameDecoder σ φ) (s : σ) :
    ∃ start frame? fed s', buffer.thumbnail decoder s = (thumbnailOf frame?, s') ∧
      buffer.thumbnail decoder.logging ([], s) = (thumbnailOf frame?, (fed.reverse, s')) ∧
      buffer.StartsAt start ∧ decoder.Feeds (buffer.packets.drop start) s frame? fed s' ∧
      fed <+: buffer.packets.drop start ∧
      ((∃ p, fed.head? = some p ∧ p.hasKeyframe = true) ↔
        ∃ index p, index ≤ buffer.length / 2 ∧ buffer.packets[index]? = some p ∧
          p.hasKeyframe = true) := by
  obtain ⟨frame?, fed, s', feeds, plain, logged⟩ :=
    feeds_logging decoder (buffer.packets.drop buffer.thumbnailStart) [] s
  rw [List.append_nil] at logged
  have starts := buffer.startsAt_thumbnailStart
  refine ⟨buffer.thumbnailStart, frame?, fed, s', thumbnail_of_firstFrame plain,
    thumbnail_of_firstFrame logged, starts, feeds, feeds.fed_prefix, ?_⟩
  rw [feeds.head?_fed, List.head?_drop]
  exact starts.startsWithKeyframe_iff

/-- Three pictures that need earlier ones, and a keyframe. -/
def lateKeyframe : PacketBuffer :=
  let packet (id : Int) (header : UInt8) : Packet :=
    { Packet.ofTransport .h264 [[header]] .zero .epoch false with receiveId := id }
  ⟨[packet 0 0x41, packet 1 0x41, packet 2 0x41, packet 3 0x65]⟩

/-- A decoder that makes a frame of whatever it is fed. -/
def eagerDecoder : FrameDecoder Unit Int where
  decode p := return some p.receiveId

/-- The only keyframe comes after the middle, and the decoder is fed a packet in front of it. -/
theorem thumbnail_without_keyframe :
    lateKeyframe.packets.map (·.hasKeyframe) = [false, false, false, true] ∧
      lateKeyframe.thumbnail eagerDecoder.logging ([], ()) =
        (.ok 0, (lateKeyframe.packets.take 1, ())) :=
  ⟨by decide, rfl⟩

end PacketBuffer

end Footage
