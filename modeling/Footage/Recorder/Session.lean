import Footage.Recorder.Archive
import Footage.Recorder.Backoff
import Footage.Recorder.Error
import Footage.Ring.Buffer

/-!
# Recording

A recorder waits until the ring has history to start with, writes that to the archive as one
batch, and then follows the live feed, packet by packet, until it is stopped. Taking the history
and registering for the live feed happen at once, so the feed goes on exactly where the history
ends.
-/

namespace Footage

structure RecorderSettings where
  /-- History to write before the live feed. -/
  history : Duration := .ofSeconds 5
  /-- Capacity of the live feed's channel. -/
  channelCapacity : Nat := 10
  policy : FullPolicy := .drop
  mode : ExtractMode := .bestEffort
  backoff : BackoffPolicy := {}
  /-- At most one warning about failed writes in this time. -/
  writeWarningInterval : Duration := .ofSeconds 30
  /-- The attempt whose failure is worth a warning. -/
  notReadyWarningAttempt : Nat := 5

/-- The stages of a recorder, which come in this order. -/
inductive RecorderState where
  | waitingForKeyframe
  | recording
  | stopped
deriving DecidableEq, Repr

def RecorderState.label : RecorderState → String
  | waitingForKeyframe => "waiting for keyframe"
  | recording => "recording"
  | stopped => "stopped"

structure Recorder where
  stream : String
  /-- The channel of its live feed. -/
  channel : Nat
  history : Duration
  mode : ExtractMode
  policy : FullPolicy
  state : RecorderState := .waitingForKeyframe
  /-- Attempts to take history. -/
  attempts : Nat := 0
  /-- Packets of history. -/
  historyPackets : Nat := 0
  /-- Packets that the archive accepted, history included. -/
  packetsWritten : Nat := 0
  /-- Batches that the archive refused. -/
  writeFailures : Nat := 0
  /-- The picture size, told by the history. -/
  size : Option Dimensions := none
deriving DecidableEq, Repr

/-- The packets of a history, marked as replayed. -/
def PacketBuffer.backlog (history : PacketBuffer) : List Packet :=
  history.packets.map fun p => { p with isBacklog := true }

namespace Recorder

variable {σ : Type}

/-- A new recorder with its channel. -/
def start (ring : RingBuffer) (stream : String) (settings : RecorderSettings) :
    Recorder × RingBuffer :=
  let (channel, ring) := ring.openChannel settings.channelCapacity
  ({ stream, channel, history := settings.history, mode := settings.mode,
     policy := settings.policy }, ring)

def listenerName (r : Recorder) : String := s!"recorder:{r.stream}"

/-- Takes history and registers for the live feed, both or neither. -/
def handoff [H264.SizeReader] (r : Recorder) (ring : RingBuffer) :
    Except RecorderError (PacketBuffer × Recorder × RingBuffer) := do
  let (result, ring) := ring.extract .shared r.history r.mode
  let history ← result.mapError .history
  let size ← history.pictureSize.mapError .packet
  return (history, { r with size := some size }, ring.register r.channel r.listenerName r.policy)

def track (r : Recorder) (packets : List Packet) : Except RecorderError Track :=
  (Track.ofPackets packets (r.size.getD ⟨0, 0⟩)).mapError .bitstream

/-- Writes a batch to the archive. A batch that fails is lost, and counted. -/
def writeBatch (sink : ArchiveSink σ) (packets : List Packet) : StateM (Recorder × σ) Unit := do
  let (r, archive) ← get
  let attempt : Effect σ RecorderError Unit := do
    let track ← r.track packets
    (sink.write r.stream [(videoTrack, track)]).rename .archive
  let (result, archive) := attempt archive
  match result with
  | .ok _ => set ({ r with packetsWritten := r.packetsWritten + packets.length }, archive)
  | .error _ => set ({ r with writeFailures := r.writeFailures + 1 }, archive)

def writeBacklog (sink : ArchiveSink σ) (history : PacketBuffer) : StateM (Recorder × σ) Unit := do
  let backlog := history.backlog
  modify fun (r, archive) =>
    ({ r with historyPackets := r.historyPackets + backlog.length }, archive)
  writeBatch sink backlog

/-- Writes the history and follows the live feed from then on. -/
def writeHistory (sink : ArchiveSink σ) (history : PacketBuffer) : StateM (Recorder × σ) Unit := do
  writeBacklog sink history
  modify fun (r, archive) => (r, (sink.flush archive).2)
  modify fun (r, archive) => ({ r with state := .recording }, archive)

/-- Ends the recording. What is left of the live feed is thrown away. -/
def stop (r : Recorder) (ring : RingBuffer) : Recorder × RingBuffer :=
  let (_, ring) := ring.unregister r.channel
  let (_, ring) := ring.receiveMany r.channel (ring.queued r.channel)
  ({ r with state := .stopped }, ring)

end Recorder

/-- A ring buffer, an archive, and at most one recorder between them. -/
structure Session (σ : Type) where
  ring : RingBuffer
  archive : σ
  recorder : Option Recorder := none

namespace Session

variable {σ : Type}

def step (s : Session σ) (r : Recorder) (change : StateM (Recorder × σ) Unit) : Session σ :=
  let (_, (r, archive)) := change (r, s.archive)
  { s with recorder := some r, archive }

/-- Writes up to `count` packets of the live feed, and then waits for the next one. -/
def follow (sink : ArchiveSink σ) (s : Session σ) (r : Recorder) : (count : Nat) → Session σ
  | 0 => { s with
      ring := s.ring.changeChannel r.channel ({ · with isAwaited := true }), recorder := some r }
  | count + 1 =>
    match s.ring.receive r.channel with
    | (none, _) => follow sink s r 0
    | (some p, ring) =>
      let s := { s with ring }.step r (Recorder.writeBatch sink [p])
      follow sink s (s.recorder.getD r) count

/-- Lets the recorder do everything that it can do right now. -/
def settle [H264.SizeReader] (sink : ArchiveSink σ) (s : Session σ) : Session σ :=
  match s.recorder with
  | none => s
  | some r =>
    match r.state with
    | .stopped => s
    | .recording => follow sink s r (s.ring.queued r.channel)
    | .waitingForKeyframe =>
      let r := { r with attempts := r.attempts + 1 }
      match r.handoff s.ring with
      | .error _ => { s with recorder := some r }
      | .ok (history, r, ring) =>
        let s := { s with ring }.step r (Recorder.writeHistory sink history)
        follow sink s (s.recorder.getD r) 0

/-- Adds a packet and lets the recorder catch up; a producer that has to wait for the recorder
goes on as soon as it has taken a packet. -/
def add [H264.SizeReader] (sink : ArchiveSink σ) (s : Session σ) (p : Packet) :
    PushOutcome × Session σ :=
  let (outcome, ring, delivery) := s.ring.beginAdd p
  let (ring, delivery) := ring.serveAll delivery
  let s := settle sink { s with ring }
  let (ring, delivery) := s.ring.serveAll delivery
  (outcome, settle sink { s with ring := ring.prune delivery.gone })

def addAll [H264.SizeReader] (sink : ArchiveSink σ) :
    Session σ → List Packet → List PushOutcome × Session σ
  | s, [] => ([], s)
  | s, p :: rest =>
    let (outcome, s) := s.add sink p
    let (outcomes, s) := addAll sink s rest
    (outcome :: outcomes, s)

def start [H264.SizeReader] (sink : ArchiveSink σ) (s : Session σ) (stream : String)
    (settings : RecorderSettings) : Session σ :=
  let (r, ring) := Recorder.start s.ring stream settings
  settle sink { s with ring, recorder := some r }

def stop (s : Session σ) : Session σ :=
  match s.recorder with
  | none => s
  | some r =>
    if r.state = .stopped then s
    else let (r, ring) := r.stop s.ring; { s with ring, recorder := some r }

end Session

end Footage
