import Footage.Recorder.Session
import Footage.Ring.Threads

/-!
# The thread of a recorder

A recorder runs on a thread of its own, among the threads that use the ring buffer. It waits and
tries to take history under the guard; if it gets any, it registers for the live feed under the same
guard, writes the history, and then takes packet after packet from its channel and writes each. It
can be asked to stop at any time, but looks only while it waits for the next attempt or packet.

* `WorkerStage` is where the thread is, and `Recording` all threads of the ring with the recorder
  and its archive.
* `RecordingStep` is what happens at once: a step of the recorder, or a step of others that leaves
  its thread and its channel alone.
* `RecordingRun` is any interleaving of steps.
-/

namespace Footage

/-- Where the thread of a recorder is. -/
inductive WorkerStage where
  /-- It waits for the next attempt, or for the request to stop. -/
  | waiting
  /-- An attempt is counted, and the storage lock is next. -/
  | attempting
  /-- It has the guard. -/
  | guarding
  /-- It has the guard, and got no history. -/
  | refused
  /-- It has the guard and history. -/
  | taken (history : PacketBuffer)
  /-- It has the guard and history, and is registered for the live feed. -/
  | registered (history : PacketBuffer)
  | writing (history : PacketBuffer)
  /-- The history is written. -/
  | flushing
  /-- The archive has the hint that the history should be made safe. -/
  | flushed
  /-- It waits for the next packet, or for the request to stop. -/
  | following
  /-- It took a packet. -/
  | holding (p : Packet)
  /-- It saw the request to stop. -/
  | leaving
  /-- Its listener is off the registry, and the delivery lock is next. -/
  | removing
  /-- Its listener is off the registry, and no delivery is under way. -/
  | settling
  /-- It throws away what is left in its channel. -/
  | draining
  | stopped
deriving DecidableEq

/-- A recorder with its archive, among the threads of a ring. -/
structure Recording (σ : Type) where
  threads : System
  recorder : Recorder
  archive : σ
  stage : WorkerStage := .waiting
  isStopRequested : Bool := false

/-- What is seen of a step. -/
inductive RecordingEvent where
  | requestStop
  /-- A step of any thread or consumer in the ring. -/
  | ring (e : Event)
  | attempt
  /-- The recorder registers for what comes after the history. -/
  | handOff (history : PacketBuffer)
  /-- A batch is written, and accepted or refused. -/
  | write (batch : List Packet)
  | flush
  | record
  | leave
  | stop

namespace Event

/-- The thread that takes a step. -/
def thread? : Event → Option Nat
  | lock t | unlock t | extract t .. | clear t | listen t .. | unlisten t .. | settle t | settled t
  | add t _ | enter t | store t _ | lookUp t | lockDelivery t | unlockStorage t | serve t _
  | timeOut t | unlockDelivery t | prune t | leave t => some t
  | openChannel _ | receive .. | await _ | hangUp _ => none

/-- The channel that one end of is used in a step. Deliveries reach channels through listeners. -/
def channel? : Event → Option Nat
  | listen _ channel _ _ | unlisten _ channel _ | receive channel _ | await channel
  | hangUp channel => some channel
  | _ => none

/-- A step that is neither taken by the thread `t` nor uses an end of `channel`. -/
def isOthers (t channel : Nat) (e : Event) : Bool :=
  e.thread? ≠ some t && e.channel? ≠ some channel

end Event

namespace Recording

variable {σ : Type}

def start (threads : System) (stream : String) (settings : RecorderSettings) (archive : σ) :
    Recording σ :=
  let (recorder, ring) := Recorder.start threads.ring stream settings
  { threads := { threads with ring }, recorder, archive }

/-- The recorder wrote something, and its thread goes on. -/
def wrote (r : Recording σ) (change : StateM (Recorder × σ) Unit) (stage : WorkerStage) :
    Recording σ :=
  let (_, (recorder, archive)) := change (r.recorder, r.archive)
  { r with recorder, archive, stage }

end Recording

/-- Steps of a recorder on the thread `t`, and of all others. -/
inductive RecordingStep [H264.SizeReader] {σ : Type} (sink : ArchiveSink σ) (t : Nat)
    (r : Recording σ) : RecordingEvent → Recording σ → Prop
  | requestStop : RecordingStep sink t r .requestStop { r with isStopRequested := true }
  | others {e : Event} {threads : System} : e.isOthers t r.recorder.channel = true →
      Step r.threads e threads → RecordingStep sink t r (.ring e) { r with threads }
  | attempt : r.stage = .waiting →
      RecordingStep sink t r .attempt
        { r with stage := .attempting,
                 recorder := { r.recorder with attempts := r.recorder.attempts + 1 } }
  | giveUp : r.stage = .waiting → r.isStopRequested = true →
      RecordingStep sink t r .stop
        { r with stage := .stopped, recorder := { r.recorder with state := .stopped } }
  | lock {threads : System} : r.stage = .attempting → Step r.threads (.lock t) threads →
      RecordingStep sink t r (.ring (.lock t)) { r with threads, stage := .guarding }
  | refuse {threads : System} {error : HistoryError} : r.stage = .guarding →
      Step r.threads (.extract t .shared r.recorder.history r.recorder.mode (.error error))
        threads →
      RecordingStep sink t r
        (.ring (.extract t .shared r.recorder.history r.recorder.mode (.error error)))
        { r with threads, stage := .refused }
  | refuseSize {threads : System} {history : PacketBuffer} {error : PacketError} :
      r.stage = .guarding →
      Step r.threads (.extract t .shared r.recorder.history r.recorder.mode (.ok history)) threads →
      history.pictureSize = .error error →
      RecordingStep sink t r
        (.ring (.extract t .shared r.recorder.history r.recorder.mode (.ok history)))
        { r with threads, stage := .refused }
  | take {threads : System} {history : PacketBuffer} {size : Dimensions} : r.stage = .guarding →
      Step r.threads (.extract t .shared r.recorder.history r.recorder.mode (.ok history)) threads →
      history.pictureSize = .ok size →
      RecordingStep sink t r
        (.ring (.extract t .shared r.recorder.history r.recorder.mode (.ok history)))
        { r with threads, stage := .taken history,
                 recorder := { r.recorder with size := some size } }
  | retry {threads : System} : r.stage = .refused → Step r.threads (.unlock t) threads →
      RecordingStep sink t r (.ring (.unlock t)) { r with threads, stage := .waiting }
  | handOff {threads : System} {history : PacketBuffer} : r.stage = .taken history →
      Step r.threads
        (.listen t r.recorder.channel r.recorder.listenerName r.recorder.policy) threads →
      RecordingStep sink t r (.handOff history) { r with threads, stage := .registered history }
  | unlock {threads : System} {history : PacketBuffer} : r.stage = .registered history →
      Step r.threads (.unlock t) threads →
      RecordingStep sink t r (.ring (.unlock t)) { r with threads, stage := .writing history }
  | writeBacklog {history : PacketBuffer} : r.stage = .writing history →
      RecordingStep sink t r (.write history.backlog)
        (r.wrote (Recorder.writeBacklog sink history) .flushing)
  | flush : r.stage = .flushing →
      RecordingStep sink t r .flush
        { r with stage := .flushed, archive := (sink.flush r.archive).2 }
  | record : r.stage = .flushed →
      RecordingStep sink t r .record
        { r with stage := .following, recorder := { r.recorder with state := .recording } }
  | receive {threads : System} {p : Packet} : r.stage = .following →
      Step r.threads (.receive r.recorder.channel p) threads →
      RecordingStep sink t r (.ring (.receive r.recorder.channel p))
        { r with threads, stage := .holding p }
  | await {threads : System} : r.stage = .following →
      Step r.threads (.await r.recorder.channel) threads →
      RecordingStep sink t r (.ring (.await r.recorder.channel)) { r with threads }
  | write {p : Packet} : r.stage = .holding p →
      RecordingStep sink t r (.write [p]) (r.wrote (Recorder.writeBatch sink [p]) .following)
  | leave : r.stage = .following → r.isStopRequested = true →
      RecordingStep sink t r .leave { r with stage := .leaving }
  | unlisten {threads : System} : r.stage = .leaving →
      Step r.threads (.unlisten t r.recorder.channel true) threads →
      RecordingStep sink t r (.ring (.unlisten t r.recorder.channel true))
        { r with threads, stage := .removing }
  | unlistenUnknown {threads : System} : r.stage = .leaving →
      Step r.threads (.unlisten t r.recorder.channel false) threads →
      RecordingStep sink t r (.ring (.unlisten t r.recorder.channel false))
        { r with threads, stage := .draining }
  | settle {threads : System} : r.stage = .removing → Step r.threads (.settle t) threads →
      RecordingStep sink t r (.ring (.settle t)) { r with threads, stage := .settling }
  | settled {threads : System} : r.stage = .settling → Step r.threads (.settled t) threads →
      RecordingStep sink t r (.ring (.settled t)) { r with threads, stage := .draining }
  | discard {threads : System} {p : Packet} : r.stage = .draining →
      Step r.threads (.receive r.recorder.channel p) threads →
      RecordingStep sink t r (.ring (.receive r.recorder.channel p)) { r with threads }
  | stop : r.stage = .draining → r.threads.ring.queued r.recorder.channel = 0 →
      RecordingStep sink t r .stop
        { r with stage := .stopped, recorder := { r.recorder with state := .stopped } }
  /-- The thread ends, and drops its end of the channel. -/
  | drop {threads : System} : r.stage = .stopped →
      Step r.threads (.hangUp r.recorder.channel) threads →
      RecordingStep sink t r (.ring (.hangUp r.recorder.channel)) { r with threads }

/-- Interleavings of steps, with their events in order. -/
inductive RecordingRun [H264.SizeReader] {σ : Type} (sink : ArchiveSink σ) (t : Nat) :
    Recording σ → List RecordingEvent → Recording σ → Prop
  | nil {r : Recording σ} : RecordingRun sink t r [] r
  | cons {r r' r'' : Recording σ} {e : RecordingEvent} {es : List RecordingEvent} :
      RecordingStep sink t r e r' → RecordingRun sink t r' es r'' →
      RecordingRun sink t r (e :: es) r''

theorem RecordingRun.append [H264.SizeReader] {σ : Type} {sink : ArchiveSink σ} {t : Nat}
    {r r' r'' : Recording σ} {es es' : List RecordingEvent} (first : RecordingRun sink t r es r')
    (second : RecordingRun sink t r' es' r'') : RecordingRun sink t r (es ++ es') r'' := by
  induction first with
  | nil => exact second
  | cons step _ ih => exact .cons step (ih second)

namespace RecordingEvent

/-- The packet that a step stores, or would store if it were smaller. -/
def stored : RecordingEvent → List Packet
  | ring e => e.stored
  | _ => []

end RecordingEvent

/-- The packets of a run in the order in which they came to be stored. -/
def recordingStored (es : List RecordingEvent) : List Packet := es.flatMap RecordingEvent.stored

/-- The history with which the recorder registered in a run, and what happened since. -/
def afterHandOff : List RecordingEvent → Option (PacketBuffer × List RecordingEvent)
  | [] => none
  | .handOff history :: es => some (history, es)
  | _ :: es => afterHandOff es

end Footage
