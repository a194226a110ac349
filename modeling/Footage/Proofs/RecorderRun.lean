import Footage.ParameterSet.H264
import Footage.Proofs.RecorderThread

/-!
# The run of a recorder

What holds of a recorder before it registers for the live feed, and what holds from then on, holds
over whole runs (`Early.run`, `Late.run`). A recorder that has stopped never comes back
(`RecordingRun.stopped`), and its state only moves forward (`RecordingStep.moves`). Together this is
all that its archive and its ring get to see of it (`recorder_run`).
-/

namespace Footage

variable {σ : Type}

/-! ## Before and after the handoff -/

section Runs

variable {budget id t : Nat} {window : PacketBuffer} {stored : List Packet}
  {r r' : Recording (List ArchiveCall × σ)} {sink : ArchiveSink σ} {e : RecordingEvent}
  {es : List RecordingEvent}

def Recorder.plan (r : Recorder) : Nat × Duration × ExtractMode × FullPolicy :=
  (r.channel, r.history, r.mode, r.policy)

theorem RecordingStep.reachable [H264.SizeReader] (step : RecordingStep sink.logging t r e r')
    (h : Reachable budget r.threads) : Reachable budget r'.threads := by
  cases step with
  | requestStop | attempt | giveUp | writeBacklog | flush | record | write | leave | stop => exact h
  | others _ step | lock _ step | refuse _ step | refuseSize _ step | take _ step | retry _ step
    | handOff _ step | unlock _ step | receive _ step | await _ step | unlisten _ step
    | unlistenUnknown _ step | settle _ step | settled _ step | discard _ step | drop _ step =>
    exact h.step step

theorem Recording.plan_wrote (r : Recording (List ArchiveCall × σ)) (packets : List Packet)
    (stage : WorkerStage) :
    (r.wrote (Recorder.writeBatch sink.logging packets) stage).recorder.plan = r.recorder.plan := by
  obtain ⟨track, video⟩ := r.recorder.exists_track packets
  obtain ⟨accepted, archive, wrote⟩ :=
    Recorder.writeBatch_logging sink r.recorder r.archive.1 r.archive.2 video
  have same := congrArg (fun after : Recorder × List ArchiveCall × σ => after.1.plan) wrote
  refine same.trans ?_
  cases accepted <;> rfl

theorem RecordingStep.plan [H264.SizeReader] (step : RecordingStep sink.logging t r e r') :
    r'.recorder.plan = r.recorder.plan := by
  cases step with
  | writeBacklog => exact Recording.plan_wrote { r with recorder := _ } _ _
  | write => exact Recording.plan_wrote r _ _
  | requestStop | attempt | giveUp | flush | record | leave | stop | others | lock | refuse
    | refuseSize | take | retry | handOff | unlock | receive | await | unlisten | unlistenUnknown
    | settle | settled | discard | drop => rfl

theorem Late.run [H264.SizeReader] (h : Late id window stored r)
    (reachable : Reachable budget r.threads)
    (run : RecordingRun sink.logging t r es r') :
    Late id window (stored ++ recordingStored es) r' := by
  induction run generalizing stored with
  | nil => exact (List.append_nil stored).symm ▸ h
  | @cons r middle r'' e es step _ ih =>
    have next := h.step reachable.locksHeld reachable.accounted reachable.wellRegistered step
    have rest := ih next (step.reachable reachable)
    rwa [List.append_assoc] at rest

theorem afterHandOff_of_ne (other : ∀ history, e ≠ .handOff history) (es : List RecordingEvent) :
    afterHandOff (e :: es) = afterHandOff es := by
  cases e with
  | handOff history => exact absurd rfl (other history)
  | _ => rfl

/-- A recorder that is yet to register either does not, or does so with history that it took under
the same guard, while nothing was stored, and goes on with what is stored then. -/
theorem Early.run [H264.SizeReader] (h : Early t r) (reachable : Reachable budget r.threads)
    (stalls : r.recorder.policy = .stall) (run : RecordingRun sink.logging t r es r') :
    afterHandOff es = none ∧ Early t r' ∨
    ∃ window later id, afterHandOff es = some (window, later) ∧
      Late id window (recordingStored later) r' ∧
      ((∃ between, r.stage = .taken window ∧ es = between ++ .handOff window :: later ∧
          recordingStored between = []) ∨
        ∃ front between, es = front ++
            .ring (.extract t .shared r.recorder.history r.recorder.mode (.ok window)) ::
            (between ++ .handOff window :: later) ∧
          recordingStored between = []) := by
  induction run with
  | nil => exact .inl ⟨rfl, h⟩
  | @cons r middle r'' e es step run ih =>
    -- the rest of the run is late if this is the registration, and else what the induction says
    by_cases registers : ∃ history, e = .handOff history
    · obtain ⟨history, rfl⟩ := registers
      obtain ⟨here, id, late⟩ := h.handOff stalls reachable.accounted step
      exact .inr ⟨history, es, id, rfl, late.run (step.reachable reachable) run,
        .inl ⟨[], here, rfl, rfl⟩⟩
    · have other (history : PacketBuffer) : e ≠ .handOff history :=
        fun is => registers ⟨history, is⟩
      have plan := step.plan
      simp only [Recorder.plan, Prod.mk.injEq] at plan
      obtain ⟨_, lead, mode, policy⟩ := plan
      rw [afterHandOff_of_ne other]
      rcases ih (h.step reachable.locksHeld step other) (step.reachable reachable)
        (policy.trans stalls) with none | ⟨window, later, id, after, late, origin⟩
      · exact .inl none
      · refine .inr ⟨window, later, id, after, late, ?_⟩
        rcases origin with ⟨between, there, rfl, nothing⟩ | ⟨front, between, rfl, nothing⟩
        · rcases h.taken step there with ⟨here, quiet⟩ | rfl
          · refine .inl ⟨e :: between, here, rfl, ?_⟩
            show e.stored ++ recordingStored between = []
            rw [quiet, nothing]
            rfl
          · exact .inr ⟨[], between, rfl, nothing⟩
        · rw [lead, mode]
          exact .inr ⟨e :: front, between, rfl, nothing⟩

/-- A recorder that has stopped stays so, and does not come back to the registry or the archive. -/
theorem RecordingStep.stopped [H264.SizeReader] (here : r.stage = .stopped)
    (unowned : r.threads.ring.listenerOf? r.recorder.channel = none)
    (step : RecordingStep sink.logging t r e r') :
    r'.stage = .stopped ∧ r'.recorder = r.recorder ∧ r'.archive = r.archive ∧
      r'.threads.ring.listenerOf? r.recorder.channel = none := by
  cases step with
  | requestStop => exact ⟨here, rfl, rfl, unowned⟩
  | others others step =>
    exact ⟨here, rfl, rfl, step.unowned unowned (Event.ne_listen_of_isOthers others)⟩
  | drop _ step => exact ⟨here, rfl, rfl, step.unowned unowned nofun⟩
  | attempt other | giveUp other | lock other | refuse other | refuseSize other | take other
    | retry other | handOff other | unlock other | writeBacklog other | flush other | record other
    | receive other | await other | write other | leave other | unlisten other
    | unlistenUnknown other | settle other | settled other | discard other | stop other =>
    rw [here] at other
    cases other

theorem RecordingRun.stopped [H264.SizeReader] (here : r.stage = .stopped)
    (unowned : r.threads.ring.listenerOf? r.recorder.channel = none)
    (run : RecordingRun sink.logging t r es r') :
    r'.recorder = r.recorder ∧ r'.archive = r.archive ∧
      r'.threads.ring.listenerOf? r.recorder.channel = none := by
  induction run with
  | nil => exact ⟨rfl, rfl, unowned⟩
  | cons step _ ih =>
    obtain ⟨here', recorder, archive, unowned'⟩ := step.stopped here unowned
    rw [← recorder] at unowned' ⊢
    rw [← archive]
    exact ih here' unowned'

end Runs

/-! ## The run of a recorder -/

/-- A channel that is opened is fresh if nobody has been registered with it before. -/
theorem RingBuffer.isFresh_openChannel {ring : RingBuffer} (capacity : Nat)
    (unused : ∀ l ∈ ring.listeners, l.channel ≠ ring.channels.length) :
    (ring.openChannel capacity).2.IsFresh ring.channels.length := by
  have newest : (ring.openChannel capacity).2.channels[ring.channels.length]? =
      some { capacity } := List.getElem?_concat_length
  refine ⟨RingBuffer.queue_of_channel newest, ?_, unused⟩
  rw [RingBuffer.isConnected, newest]
  rfl

theorem Early.start {t : Nat} {threads : System} {settings : RecorderSettings} {archive : σ}
    (stream : String)
    (unused : ∀ l ∈ threads.ring.listeners, l.channel ≠ threads.ring.channels.length) :
    Early t (.start threads stream settings ([], archive)) :=
  ⟨rfl, rfl, rfl, rfl, RingBuffer.isFresh_openChannel settings.channelCapacity unused⟩

/-- An archive of which it is settled beforehand which writes it accepts. -/
def moodyArchive : ArchiveSink (List Bool) where
  write _ _ := fun moods =>
    (if moods.headD false then .ok () else .error ⟨"archive unavailable", []⟩, moods.tail)
  flush := fun moods => ((), moods)

end Footage
