import Footage.Proofs.Effects
import Footage.Proofs.RingFrame
import Footage.Proofs.ThreadInvariant
import Footage.Recorder.Worker

/-!
# A recorder that nobody disturbs

What a session lets its recorder do at once, the thread of the recorder does when nobody else does
anything in between, until it waits again or has stopped. So `Session.settle` and `Session.stop` are
interleavings of steps (`settle_alone`, `stop_alone`), and what holds of all interleavings holds of
them.
-/

namespace Footage

variable {σ : Type} {sink : ArchiveSink σ} {t : Nat}

/-- Where the thread of a recorder waits, or ends. -/
def RecorderState.rest : RecorderState → WorkerStage
  | waitingForKeyframe => .waiting
  | recording => .following
  | stopped => .stopped

namespace Recording

/-- The recorder and what it works on, without the threads. -/
def session (r : Recording σ) : Session σ :=
  { ring := r.threads.ring, archive := r.archive, recorder := some r.recorder }

/-- The recorder's thread is done with what it could do, and nobody holds a lock. -/
structure Resting (r : Recording σ) (t : Nat) : Prop where
  idle : r.threads.stage t = .idle
  storage : r.threads.storage = none
  delivery : r.threads.delivery = none
  stage : r.stage = r.recorder.state.rest

end Recording

/-! ## Following the live feed -/

theorem Recorder.state_writeBatch (sink : ArchiveSink σ) (packets : List Packet) (r : Recorder)
    (archive : σ) : (writeBatch sink packets (r, archive)).2.1.state = r.state := by
  show (StateT.run (writeBatch sink packets) (r, archive)).2.1.state = r.state
  simp only [writeBatch, StateT.run_bind, StateT.run_get, pure_bind]
  split
  next result archive' _ => cases result <;> rfl

/-- Waiting for the next packet. -/
theorem await_alone [H264.SizeReader] {r : Recording σ} (resting : r.Resting t)
    (recording : r.recorder.state = .recording) :
    ∃ es r', RecordingRun sink t r es r' ∧
      r'.session = Session.follow sink r.session r.recorder 0 ∧ r'.Resting t := by
  have following : r.stage = .following := by rw [resting.stage, recording]; rfl
  rw [Session.follow]
  exact ⟨_, _, .cons (.await following .await) .nil, rfl, resting.idle, resting.storage,
    resting.delivery, resting.stage⟩

/-- Taking packets and writing them, and then waiting for the next one. -/
theorem follow_alone [H264.SizeReader] {r : Recording σ} (resting : r.Resting t)
    (recording : r.recorder.state = .recording) (count : Nat) :
    ∃ es r', RecordingRun sink t r es r' ∧
      r'.session = Session.follow sink r.session r.recorder count ∧ r'.Resting t := by
  induction count generalizing r with
  | zero => exact await_alone resting recording
  | succ count ih =>
    have following : r.stage = .following := by rw [resting.stage, recording]; rfl
    rcases took : r.threads.ring.receive r.recorder.channel with ⟨_ | p, ring⟩
    · rw [Session.follow, show r.session.ring.receive r.recorder.channel = _ from took]
      exact await_alone resting recording
    · rw [Session.follow, show r.session.ring.receive r.recorder.channel = _ from took]
      have recording' := (Recorder.state_writeBatch sink [p] r.recorder r.archive).trans recording
      obtain ⟨es, r', run, same, resting'⟩ := @ih
        (Recording.wrote { r with threads := { r.threads with ring }, stage := .holding p }
          (Recorder.writeBatch sink [p]) .following)
        ⟨resting.idle, resting.storage, resting.delivery,
          (congrArg RecorderState.rest recording').symm⟩ recording'
      exact ⟨_, r', .cons (.receive following (.receive took)) (.cons (.write rfl) run), same,
        resting'⟩

/-! ## Taking history -/

/-- History that is shared stays where it is. -/
theorem RingBuffer.extract_shared (ring : RingBuffer) (minimum : Duration) (mode : ExtractMode) :
    (ring.extract .shared minimum mode).2 = ring := by
  have kept : (takeHistory ring.store .shared minimum mode).2 = ring.store := by
    simp only [takeHistory]
    split <;> rfl
  exact congrArg (fun store => { ring with store }) kept

/-- A recorder that has counted an attempt. -/
def Recorder.trying (r : Recorder) : Recorder := { r with attempts := r.attempts + 1 }

theorem Session.settle_of_refused [H264.SizeReader] {s : Session σ} {r : Recorder}
    {error : RecorderError}
    (here : s.recorder = some r) (waiting : r.state = .waitingForKeyframe)
    (refused : r.trying.handoff s.ring = .error error) :
    s.settle sink = { s with recorder := some r.trying } := by
  cases r
  cases waiting
  simp only [Recorder.trying] at refused
  simp only [settle, here, refused, Recorder.trying]

theorem Session.settle_of_taken [H264.SizeReader] {s after : Session σ} {r r' : Recorder}
    {history : PacketBuffer}
    {ring : RingBuffer} (here : s.recorder = some r) (waiting : r.state = .waitingForKeyframe)
    (taken : r.trying.handoff s.ring = .ok (history, r', ring))
    (wrote : after = { s with ring }.step r' (Recorder.writeHistory sink history)) :
    s.settle sink = follow sink after (after.recorder.getD r') 0 := by
  cases r
  cases waiting
  simp only [Recorder.trying] at taken
  simp only [settle, here, taken, wrote]

/-- An attempt to take history. If there is some, it is written, and the recorder waits for the
first packet of the live feed. -/
theorem attempt_alone [H264.SizeReader] {r : Recording σ} (resting : r.Resting t)
    (waiting : r.recorder.state = .waitingForKeyframe) :
    ∃ es r', RecordingRun sink t r es r' ∧ r'.session = r.session.settle sink ∧ r'.Resting t := by
  have here : r.stage = .waiting := by rw [resting.stage, waiting]; rfl
  have unchanged := r.threads.ring.extract_shared r.recorder.history r.recorder.mode
  rcases taken : r.threads.ring.extract .shared r.recorder.history r.recorder.mode with
    ⟨error | history, ring⟩
  · rw [taken] at unchanged
    obtain rfl : ring = r.threads.ring := unchanged
    have refused : r.recorder.trying.handoff r.threads.ring = .error (.history error) := by
      simp only [Recorder.handoff, Recorder.trying, taken]
      rfl
    rw [Session.settle_of_refused rfl waiting refused]
    exact ⟨_, _, .cons (.attempt here) (.cons (.lock rfl (.lock resting.idle resting.storage))
      (.cons (.refuse rfl (.extract resting.idle rfl taken))
      (.cons (.retry rfl (.unlock resting.idle rfl)) .nil))), rfl, resting.idle, rfl,
      resting.delivery, here.symm.trans resting.stage⟩
  · rcases picture : history.pictureSize with error | size
    · rw [taken] at unchanged
      obtain rfl : ring = r.threads.ring := unchanged
      have refused : r.recorder.trying.handoff r.threads.ring = .error (.packet error) := by
        simp only [Recorder.handoff, Recorder.trying, taken, mapError_ok, ok_bind, picture]
        rfl
      rw [Session.settle_of_refused rfl waiting refused]
      exact ⟨_, _, .cons (.attempt here) (.cons (.lock rfl (.lock resting.idle resting.storage))
        (.cons (.refuseSize rfl (.extract resting.idle rfl taken) picture)
        (.cons (.retry rfl (.unlock resting.idle rfl)) .nil))), rfl, resting.idle, rfl,
        resting.delivery, here.symm.trans resting.stage⟩
    · have handedOff : r.recorder.trying.handoff r.threads.ring = .ok (history,
          { r.recorder.trying with size := some size },
          ring.register r.recorder.channel r.recorder.listenerName r.recorder.policy) := by
        simp only [Recorder.handoff, Recorder.trying, taken, mapError_ok, ok_bind, picture]
        rfl
      obtain ⟨es, written, run, wrote, recording, resting'⟩ : ∃ es written,
          RecordingRun sink t r es written ∧
          written.session = Session.step { r.session with
              ring := ring.register r.recorder.channel r.recorder.listenerName r.recorder.policy }
            { r.recorder.trying with size := some size } (Recorder.writeHistory sink history) ∧
          written.recorder.state = .recording ∧ written.Resting t :=
        ⟨_, _, .cons (.attempt here) (.cons (.lock rfl (.lock resting.idle resting.storage))
          (.cons (.take rfl (.extract resting.idle rfl taken) picture)
          (.cons (.handOff rfl (.listen resting.idle))
          (.cons (.unlock rfl (.unlock resting.idle rfl))
          (.cons (.writeBacklog rfl) (.cons (.flush rfl) (.cons (.record rfl) .nil))))))), rfl, rfl,
          resting.idle, rfl, resting.delivery, rfl⟩
      obtain ⟨es', r', run', same, resting''⟩ := await_alone resting' recording
      rw [Session.settle_of_taken rfl waiting handedOff wrote]
      exact ⟨_, r', run.append run', same, resting''⟩

/-- What a session lets its recorder do is done by an interleaving. -/
theorem settle_alone [H264.SizeReader] {r : Recording σ} (resting : r.Resting t) :
    ∃ es r', RecordingRun sink t r es r' ∧ r'.session = r.session.settle sink ∧ r'.Resting t := by
  cases state : r.recorder.state with
  | waitingForKeyframe => exact attempt_alone resting state
  | recording =>
    have settled : r.session.settle sink = Session.follow sink r.session r.recorder
        (r.threads.ring.queued r.recorder.channel) := by
      simp only [Session.settle, Recording.session, state]
    rw [settled]
    exact follow_alone resting state _
  | stopped =>
    have settled : r.session.settle sink = r.session := by
      simp only [Session.settle, Recording.session, state]
    rw [settled]
    exact ⟨[], r, .nil, rfl, resting⟩

/-! ## Stopping -/

/-- Throwing away what is left of the live feed. -/
theorem discard_alone [H264.SizeReader] {r : Recording σ} (here : r.stage = .draining) (count : Nat)
    (left : r.threads.ring.queued r.recorder.channel = count) :
    ∃ es, RecordingRun sink t r es { r with
      threads := { r.threads with
        ring := (r.threads.ring.receiveMany r.recorder.channel count).2 },
      stage := .stopped,
      recorder := { r.recorder with state := .stopped } } := by
  induction count generalizing r with
  | zero => exact ⟨_, .cons (.stop here left) .nil⟩
  | succ count ih =>
    -- a channel that is not empty gives a packet
    rcases took : r.threads.ring.receive r.recorder.channel with ⟨_ | p, ring⟩
    · rw [RingBuffer.queued_of_receive took] at left
      cases left
    · rw [RingBuffer.queued_of_receive took] at left
      obtain ⟨es, run⟩ := @ih { r with threads := { r.threads with ring } } here
        (Nat.succ.inj left)
      rw [RingBuffer.receiveMany, took]
      exact ⟨_, .cons (.discard here (.receive took)) run⟩

/-- What a session does to stop its recorder is done by an interleaving. -/
theorem stop_alone [H264.SizeReader] {r : Recording σ} (resting : r.Resting t)
    (recording : r.recorder.state = .recording) (requested : r.isStopRequested = true) :
    ∃ es r', RecordingRun sink t r es r' ∧ r'.session = r.session.stop ∧ r'.Resting t := by
  have following : r.stage = .following := by rw [resting.stage, recording]; rfl
  rcases gone : r.threads.ring.unregister r.recorder.channel with ⟨found, ring⟩
  have stopped : r.session.stop = { r.session with
      ring := (ring.receiveMany r.recorder.channel (ring.queued r.recorder.channel)).2,
      recorder := some { r.recorder with state := .stopped } } := by
    simp [Session.stop, Recording.session, recording, Recorder.stop, gone]
  rw [stopped]
  cases found with
  | false =>
    obtain ⟨es, run⟩ := @discard_alone _ sink t _
      { r with threads := { r.threads with ring }, stage := .draining } rfl _ rfl
    exact ⟨_, _, .cons (.leave following requested)
      (.cons (.unlistenUnknown rfl (.unlistenUnknown resting.idle gone)) run), rfl, resting.idle,
      resting.storage, resting.delivery, rfl⟩
  | true =>
    obtain ⟨es, run⟩ := @discard_alone _ sink t _
      { r with
        threads := { ({ r.threads with ring }.move t .removing |>.move t .settling |>.move t .idle)
          with delivery := none },
        stage := .draining } rfl _ rfl
    exact ⟨_, _, .cons (.leave following requested)
      (.cons (.unlisten rfl (.unlisten resting.idle gone))
      (.cons (.settle rfl (.settle (placed_self ..) resting.delivery))
      (.cons (.settled rfl (.settled (placed_self ..))) run))), rfl, placed_self ..,
      resting.storage, rfl, rfl⟩

end Footage
