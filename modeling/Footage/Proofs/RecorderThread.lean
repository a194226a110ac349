import Footage.Proofs.Handoff
import Footage.Proofs.RecorderCalls
import Footage.Proofs.Removal

/-!
# The thread of a recorder

Until a recorder registers for the live feed its channel is fresh, and it has the guard when it is
about to register (`Early`). So what comes into the channel afterwards is what is stored from then
on, and at any time the packets that it has written, the one it holds and those on their way to it
are these packets in order (`Late`). Both are kept by every step of the recorder and of others
(`Early.step`, `Early.handOff`, `Late.step`).
-/

namespace Footage

variable {σ : Type}

/-! ## Steps of others -/

namespace Event

variable {t channel : Nat} {e : Event}

theorem apart_of_isOthers (h : e.isOthers t channel = true) :
    e.thread? ≠ some t ∧ e.channel? ≠ some channel := by
  simpa [isOthers] using h

theorem ne_unlock_of_isOthers (h : e.isOthers t channel = true) : e ≠ .unlock t := by
  rintro rfl
  exact (apart_of_isOthers h).1 rfl

theorem ne_listen_of_isOthers (h : e.isOthers t channel = true) (u : Nat) (name : String)
    (policy : FullPolicy) : e ≠ .listen u channel name policy := by
  rintro rfl
  exact (apart_of_isOthers h).2 rfl

theorem ne_hangUp_of_isOthers (h : e.isOthers t channel = true) : e ≠ .hangUp channel := by
  rintro rfl
  exact (apart_of_isOthers h).2 rfl

theorem endsListening_of_isOthers (h : e.isOthers t channel = true) :
    e.endsListening channel = false := by
  have apart := (apart_of_isOthers h).2
  cases e with
  | unlisten u c found => exact decide_eq_false fun same => apart (congrArg some same)
  | hangUp c => exact decide_eq_false fun same => apart (congrArg some same)
  | _ => rfl

theorem received_of_isOthers (h : e.isOthers t channel = true) : e.received channel = [] := by
  have apart := (apart_of_isOthers h).2
  cases e with
  | receive c p => exact if_neg fun same => apart (congrArg some same)
  | _ => rfl

end Event

/-! ## Before the handoff -/

/-- The state that a recorder shows where its thread is. -/
def WorkerStage.state : WorkerStage → RecorderState
  | waiting | attempting | guarding | refused | taken _ | registered _ | writing _ | flushing
  | flushed => .waitingForKeyframe
  | following | holding _ | leaving | removing | settling | draining => .recording
  | stopped => .stopped

/-- What holds of the ring before the recorder has registered. -/
def EarlyAt (t channel : Nat) (threads : System) : WorkerStage → Prop
  | .waiting | .attempting => threads.ring.IsFresh channel
  | .guarding | .refused | .taken _ => threads.ring.IsFresh channel ∧ Guarded threads t
  | .stopped => threads.ring.listenerOf? channel = none
  | _ => False

structure Early (t : Nat) (r : Recording (List ArchiveCall × σ)) : Prop where
  state : r.recorder.state = r.stage.state
  calls : r.archive.1 = []
  written : r.recorder.packetsWritten = 0
  failures : r.recorder.writeFailures = 0
  at_stage : EarlyAt t r.recorder.channel r.threads r.stage

theorem RingBuffer.IsFresh.step {s s' : System} {e : Event} {channel : Nat}
    (h : s.ring.IsFresh channel) (step : Step s e s')
    (listens : ∀ u name policy, e ≠ .listen u channel name policy) (stays : e ≠ .hangUp channel) :
    s'.ring.IsFresh channel := by
  have unowned (id : Nat) : s'.ring.channelOf id ≠ some channel := by
    intro owns
    by_cases old : id < s.ring.listeners.length
    · exact h.unowned id ((step.remembers.channelOf_eq old).symm.trans owns)
    · obtain ⟨u, name, policy, is, _⟩ := step.newest (Nat.not_lt.mp old) owns
      exact listens u name policy is
  refine ⟨?_, step.isConnected h.connected stays, fun l known owns => ?_⟩
  · have nothing : e.filled channel = [] := by
      rcases @Event.exists_fill channel e with ⟨_, nothing⟩ | ⟨u, p, rfl, _⟩
      · exact nothing
      · obtain ⟨id, owns⟩ := step.exists_owner
        exact absurd owns (h.unowned id)
    have queue := step.queue stays
    rw [h.empty, nothing] at queue
    exact (List.append_eq_nil_iff.mp queue).2
  · obtain ⟨id, known⟩ := List.getElem?_of_mem known
    refine unowned id ?_
    rw [RingBuffer.channelOf_of_standing (RingBuffer.standing_of_listener known), owns]

theorem RingBuffer.IsFresh.listenerOf?_eq {ring : RingBuffer} {channel : Nat}
    (h : ring.IsFresh channel) : ring.listenerOf? channel = none :=
  RingBuffer.listenerOf?_eq_none_iff.mpr fun id _ => h.unowned id

theorem EarlyAt.others {t channel : Nat} {threads threads' : System} {e : Event}
    {stage : WorkerStage} (h : EarlyAt t channel threads stage) (step : Step threads e threads')
    (others : e.isOthers t channel = true) : EarlyAt t channel threads' stage := by
  have fresh (h : threads.ring.IsFresh channel) : threads'.ring.IsFresh channel :=
    h.step step (Event.ne_listen_of_isOthers others) (Event.ne_hangUp_of_isOthers others)
  cases stage with
  | waiting | attempting => exact fresh h
  | guarding | refused | taken =>
    exact ⟨fresh h.1, (h.2.step step (Event.ne_unlock_of_isOthers others)).1⟩
  | stopped => exact step.unowned h (Event.ne_listen_of_isOthers others)
  | _ => exact h

namespace Early

variable {t : Nat} {r r' : Recording (List ArchiveCall × σ)} {sink : ArchiveSink σ}
  {e : RecordingEvent}

theorem at_of (h : Early t r) {stage : WorkerStage} (here : r.stage = stage) :
    EarlyAt t r.recorder.channel r.threads stage := here ▸ h.at_stage

/-- A step within the guard. -/
theorem guarded (h : r.threads.ring.IsFresh r.recorder.channel ∧ Guarded r.threads t) {e : Event}
    {threads : System} (step : Step r.threads e threads) (kept : e ≠ .unlock t)
    (listens : ∀ u name policy, e ≠ .listen u r.recorder.channel name policy)
    (stays : e ≠ .hangUp r.recorder.channel) :
    threads.ring.IsFresh r.recorder.channel ∧ Guarded threads t :=
  ⟨h.1.step step listens stays, (h.2.step step kept).1⟩

theorem step [H264.SizeReader] (h : Early t r) (locks : LocksHeld r.threads)
    (step : RecordingStep sink.logging t r e r') (before : ∀ history, e ≠ .handOff history) :
    Early t r' := by
  cases step with
  | requestStop => exact ⟨h.state, h.calls, h.written, h.failures, h.at_stage⟩
  | others others step =>
    exact ⟨h.state, h.calls, h.written, h.failures, h.at_stage.others step others⟩
  | attempt here =>
    have fresh : r.threads.ring.IsFresh r.recorder.channel := h.at_of here
    refine ⟨?_, h.calls, h.written, h.failures, fresh⟩
    rw [h.state, here]
    rfl
  | giveUp here =>
    have fresh : r.threads.ring.IsFresh r.recorder.channel := h.at_of here
    exact ⟨rfl, h.calls, h.written, h.failures, fresh.listenerOf?_eq⟩
  | lock here step =>
    have fresh : r.threads.ring.IsFresh r.recorder.channel := h.at_of here
    refine ⟨?_, h.calls, h.written, h.failures, fresh.step step nofun nofun, ?_⟩
    · rw [h.state, here]
      rfl
    · have locks' := locks.step step
      cases step with
      | lock idle _ => exact .of_idle locks' idle rfl
  | refuse here step | refuseSize here step | take here step =>
    refine ⟨?_, h.calls, h.written, h.failures, guarded (h.at_of here) step nofun nofun nofun⟩
    rw [h.state, here]
    rfl
  | retry here step =>
    have guard : _ ∧ _ := h.at_of here
    refine ⟨?_, h.calls, h.written, h.failures, guard.1.step step nofun nofun⟩
    rw [h.state, here]
    rfl
  | handOff => exact absurd rfl (before _)
  | unlock here | writeBacklog here | flush here | record here | receive here | await here
    | write here | leave here | unlisten here | unlistenUnknown here | settle here | settled here
    | discard here | stop here => exact (h.at_of here).elim
  | drop here step =>
    have unowned : r.threads.ring.listenerOf? r.recorder.channel = none := h.at_of here
    refine ⟨h.state, h.calls, h.written, h.failures, ?_⟩
    show EarlyAt t _ _ r.stage
    rw [here]
    exact step.unowned unowned nofun

/-- History is taken under the guard that the recorder still has. -/
theorem taken [H264.SizeReader] (h : Early t r) (step : RecordingStep sink.logging t r e r')
    {history : PacketBuffer}
    (here : r'.stage = .taken history) :
    r.stage = .taken history ∧ e.stored = [] ∨
      e = .ring (.extract t .shared r.recorder.history r.recorder.mode (.ok history)) := by
  cases step with
  | requestStop => exact .inl ⟨here, rfl⟩
  | others others step =>
    have here : r.stage = .taken history := here
    have guard : _ ∧ _ := h.at_of here
    exact .inl ⟨here, (guard.2.step step (Event.ne_unlock_of_isOthers others)).2⟩
  | take =>
    obtain rfl := WorkerStage.taken.inj here
    exact .inr rfl
  | attempt | giveUp | lock | refuse | refuseSize | retry | handOff | unlock | writeBacklog | flush
    | record | receive | write | leave | unlisten | unlistenUnknown | settle | settled | stop =>
    cases here
  | await at_ | discard at_ | drop at_ =>
    have here : r.stage = .taken history := here
    rw [at_] at here
    cases here

end Early

/-! ## After the handoff -/

/-- What holds after the recorder has registered with `window`, when `stored` is what was stored
since, and `requests` is what it has asked of its archive. -/
def LateAt (id channel : Nat) (window : PacketBuffer) (stored : List Packet) (threads : System)
    (requests : List ArchiveRequest) : WorkerStage → Prop
  | .registered history | .writing history => history = window ∧ requests = [] ∧
      Followed threads id channel ∧ threads.owed id channel = stored
  | .flushing => requests = [.batch window.backlog] ∧
      Followed threads id channel ∧ threads.owed id channel = stored
  | .flushed | .following | .leaving => ∃ live, requests = requestsOf window live ∧
      Followed threads id channel ∧ live ++ threads.owed id channel = stored
  | .holding p => ∃ live, requests = requestsOf window live ∧
      Followed threads id channel ∧ live ++ p :: threads.owed id channel = stored
  | .removing | .settling | .draining | .stopped => ∃ live, requests = requestsOf window live ∧
      live <+: stored ∧ threads.ring.listenerOf? channel = none
  | _ => False

structure Late (id : Nat) (window : PacketBuffer) (stored : List Packet)
    (r : Recording (List ArchiveCall × σ)) : Prop where
  state : r.recorder.state = r.stage.state
  tally : ∃ done, Tallied r.recorder r.archive.1 done ∧
    LateAt id r.recorder.channel window stored r.threads (done.map (·.1)) r.stage

namespace LateAt

variable {id channel : Nat} {window : PacketBuffer} {stored : List Packet}
  {threads threads' : System} {requests : List ArchiveRequest} {stage : WorkerStage} {e : Event}

/-- A step of others stores a packet, which is then owed to the recorder, or moves owed packets
on. -/
theorem others {t : Nat} (h : LateAt id channel window stored threads requests stage)
    (locks : LocksHeld threads) (accounted : Accounted threads) (step : Step threads e threads')
    (others : e.isOthers t channel = true) :
    LateAt id channel window (stored ++ e.stored) threads' requests stage := by
  have stays := Event.endsListening_of_isOthers others
  have goes (followed : Followed threads id channel) :
      threads'.owed id channel = threads.owed id channel ++ e.stored := by
    have balance := followed.conserved locks accounted step stays
    rw [Event.received_of_isOthers others] at balance
    exact balance.symm
  cases stage with
  | registered | writing =>
    obtain ⟨same, none, followed, owed⟩ := h
    exact ⟨same, none, followed.step step stays, by rw [goes followed, owed]⟩
  | flushing =>
    obtain ⟨one, followed, owed⟩ := h
    exact ⟨one, followed.step step stays, by rw [goes followed, owed]⟩
  | flushed | following | leaving =>
    obtain ⟨live, all, followed, owed⟩ := h
    refine ⟨live, all, followed.step step stays, ?_⟩
    rw [goes followed, ← owed, List.append_assoc]
  | holding p =>
    obtain ⟨live, all, followed, owed⟩ := h
    refine ⟨live, all, followed.step step stays, ?_⟩
    rw [goes followed, ← owed, List.append_assoc]
    rfl
  | removing | settling | draining | stopped =>
    obtain ⟨live, all, some, unowned⟩ := h
    exact ⟨live, all, some.trans (List.prefix_append _ _),
      step.unowned unowned (Event.ne_listen_of_isOthers others)⟩
  | waiting | attempting | guarding | refused | taken => exact h

end LateAt

/-- A recorder with the policy to stall that registers is followed from then on, and owed
nothing. -/
theorem Early.handOff [H264.SizeReader] {t : Nat} {r r' : Recording (List ArchiveCall × σ)}
    {sink : ArchiveSink σ}
    {history : PacketBuffer} (h : Early t r) (stalls : r.recorder.policy = .stall)
    (accounted : Accounted r.threads)
    (step : RecordingStep sink.logging t r (.handOff history) r') :
    r.stage = .taken history ∧ ∃ id, Late id history [] r' := by
  cases step with
  | handOff here step =>
    have guard : _ ∧ _ := h.at_of here
    rw [stalls] at step
    obtain ⟨followed, _, empty⟩ := guard.2.listen accounted guard.1 step
    refine ⟨here, r.threads.ring.listeners.length, ?_, [], ?_, rfl, rfl, followed, empty⟩
    · exact h.state.trans (by rw [here]; rfl)
    · exact h.calls ▸ .none h.written h.failures

namespace Late

variable {id t : Nat} {window : PacketBuffer} {stored : List Packet}
  {r r' : Recording (List ArchiveCall × σ)} {sink : ArchiveSink σ} {e : RecordingEvent}

theorem at_of (h : Late id window stored r) {stage : WorkerStage} (here : r.stage = stage) :
    r.recorder.state = stage.state ∧ ∃ done, Tallied r.recorder r.archive.1 done ∧
      LateAt id r.recorder.channel window stored r.threads (done.map (·.1)) stage := by
  subst here
  exact ⟨h.state, h.tally⟩

/-- A step that stores nothing. -/
theorem quiet (nothing : e.stored = []) (h : Late id window stored r') :
    Late id window (stored ++ e.stored) r' := by
  rw [nothing, List.append_nil]
  exact h

/-- A step of the recorder's own that neither stores nor takes a packet. -/
theorem owed_eq {e : Event} {threads : System} {channel : Nat} (locks : LocksHeld r.threads)
    (accounted : Accounted r.threads) (step : Step r.threads e threads)
    (followed : Followed r.threads id channel) (stays : e.endsListening channel = false)
    (stores : e.stored = []) (takes : e.received channel = []) :
    threads.owed id channel = r.threads.owed id channel := by
  have balance := followed.conserved locks accounted step stays
  rw [stores, takes, List.append_nil] at balance
  exact balance.symm

theorem step [H264.SizeReader] (h : Late id window stored r) (locks : LocksHeld r.threads)
    (accounted : Accounted r.threads) (registry : WellRegistered r.threads)
    (step : RecordingStep sink.logging t r e r') : Late id window (stored ++ e.stored) r' := by
  cases step with
  | requestStop => exact .quiet rfl ⟨h.state, h.tally⟩
  | others others step =>
    obtain ⟨done, tallied, here⟩ := h.tally
    exact ⟨h.state, done, tallied, here.others locks accounted step others⟩
  | attempt here | giveUp here | lock here | refuse here | refuseSize here | take here | retry here
    | handOff here =>
    obtain ⟨_, _, _, impossible⟩ := h.at_of here
    exact impossible.elim
  | unlock here step =>
    obtain ⟨state, done, tallied, same, none, followed, owed⟩ := h.at_of here
    refine .quiet rfl ⟨state, done, tallied, same, none, followed.step step rfl, ?_⟩
    exact (owed_eq locks accounted step followed rfl rfl rfl).trans owed
  | @writeBacklog history here =>
    obtain ⟨state, done, tallied, rfl, none, followed, owed⟩ := h.at_of here
    -- the history is counted before it is written, which the tally does not see
    have tallied' : Tallied { r.recorder with
        historyPackets := r.recorder.historyPackets + history.backlog.length } r.archive.1 done :=
      tallied.congr rfl rfl rfl rfl
    obtain ⟨accepted, recorder, archive, wrote, state', channel, after⟩ :=
      Recording.wrote_batch sink { r with recorder := { r.recorder with
        historyPackets := r.recorder.historyPackets + history.backlog.length } }
        history.backlog .flushing tallied'
    refine .quiet rfl ?_
    rw [show r.wrote (Recorder.writeBacklog sink.logging history) .flushing = _ from wrote]
    refine ⟨state'.trans state, _, after, ?_⟩
    show LateAt id recorder.channel _ _ _ _ _
    rw [channel, List.map_append, none]
    exact ⟨rfl, followed, owed⟩
  | flush here =>
    obtain ⟨state, done, tallied, one, followed, owed⟩ := h.at_of here
    refine .quiet rfl ⟨state, _, tallied.flush, [], ?_, followed, owed⟩
    rw [List.map_append, one]
    rfl
  | record here =>
    obtain ⟨state, done, tallied, live, all, followed, owed⟩ := h.at_of here
    exact .quiet rfl ⟨rfl, done, tallied.congr rfl rfl rfl rfl, live, all, followed, owed⟩
  | @receive threads p here step =>
    obtain ⟨state, done, tallied, live, all, followed, owed⟩ := h.at_of here
    have took : (Event.receive r.recorder.channel p).received r.recorder.channel = [p] := if_pos rfl
    have balance := followed.conserved locks accounted step rfl
    rw [took, show (Event.receive r.recorder.channel p).stored = [] from rfl,
      List.append_nil] at balance
    refine .quiet rfl ⟨state, done, tallied, live, all, followed.step step rfl, ?_⟩
    rw [← owed, balance]
    rfl
  | await here step =>
    obtain ⟨state, done, tallied, live, all, followed, owed⟩ := h.at_of here
    refine .quiet rfl ⟨h.state, done, tallied, ?_⟩
    show LateAt _ _ _ _ _ _ r.stage
    rw [here]
    refine ⟨live, all, followed.step step rfl, ?_⟩
    rw [owed_eq locks accounted step followed rfl rfl rfl, owed]
  | @write p here =>
    obtain ⟨state, done, tallied, live, all, followed, owed⟩ := h.at_of here
    obtain ⟨accepted, recorder, archive, wrote, state', channel, after⟩ :=
      Recording.wrote_batch sink r [p] .following tallied
    rw [wrote]
    refine .quiet rfl ⟨state'.trans state, _, after, ?_⟩
    show LateAt id recorder.channel _ _ _ _ _
    rw [channel, List.map_append, all]
    refine ⟨live ++ [p], (requestsOf_concat window live p).symm, followed, ?_⟩
    rw [List.append_assoc]
    exact owed
  | leave here =>
    obtain ⟨state, done, tallied, live, all, followed, owed⟩ := h.at_of here
    exact .quiet rfl ⟨state, done, tallied, live, all, followed, owed⟩
  | unlisten here step =>
    obtain ⟨state, done, tallied, live, all, followed, owed⟩ := h.at_of here
    exact .quiet rfl ⟨state, done, tallied, live, all, ⟨_, owed⟩, registry.unowned_of_unlisten step⟩
  | unlistenUnknown here step =>
    -- nobody else takes the channel off the registry, but this does not need to be known here
    obtain ⟨state, done, tallied, live, all, followed, owed⟩ := h.at_of here
    refine .quiet rfl ⟨state, done, tallied, live, all, ⟨_, owed⟩, ?_⟩
    cases step with
    | unlistenUnknown _ unknown =>
      rw [RingBuffer.unregister_false unknown]
      exact RingBuffer.unowned_of_unregister unknown
  | settle here step | settled here step =>
    obtain ⟨state, done, tallied, live, all, some, unowned⟩ := h.at_of here
    exact .quiet rfl ⟨state, done, tallied, live, all, some, step.unowned unowned nofun⟩
  | discard here step | drop here step =>
    obtain ⟨state, done, tallied, live, all, some, unowned⟩ := h.at_of here
    refine .quiet rfl ⟨h.state, done, tallied, ?_⟩
    show LateAt _ _ _ _ _ _ r.stage
    rw [here]
    exact ⟨live, all, some, step.unowned unowned nofun⟩
  | stop here =>
    obtain ⟨state, done, tallied, live, all, some, unowned⟩ := h.at_of here
    exact .quiet rfl ⟨rfl, done, tallied.congr rfl rfl rfl rfl, live, all, some, unowned⟩

/-- What was asked of the archive is the beginning of what the recorder is to ask, and the history
is written and flushed once the recorder shows that it records. -/
theorem requests (h : Late id window stored r) : ∃ done, Tallied r.recorder r.archive.1 done ∧
    done.map (·.1) <+: requestsOf window stored ∧
    (r.recorder.state ≠ .waitingForKeyframe → 2 ≤ done.length) := by
  obtain ⟨state, done, tallied, at_stage⟩ := h
  have begun {live : List Packet} (all : done.map (·.1) = requestsOf window live)
      (some : live <+: stored) :
      done.map (·.1) <+: requestsOf window stored ∧ 2 ≤ done.length := by
    refine ⟨?_, ?_⟩
    · rw [all]
      obtain ⟨rest, rfl⟩ := some
      exact ⟨rest.map fun p => .batch [p], by simp [requestsOf]⟩
    · rw [← List.length_map (·.1), all]
      exact Nat.le_add_left 2 _
  refine ⟨done, tallied, ?_⟩
  cases here : r.stage with
  | registered | writing =>
    rw [here] at state at_stage
    obtain ⟨_, nothing, _⟩ := at_stage
    rw [nothing]
    exact ⟨List.nil_prefix, fun moved => absurd state moved⟩
  | flushing =>
    rw [here] at state at_stage
    obtain ⟨one, _⟩ := at_stage
    rw [one]
    exact ⟨⟨_, rfl⟩, fun moved => absurd state moved⟩
  | flushed | following | leaving =>
    rw [here] at at_stage
    obtain ⟨live, all, _, owed⟩ := at_stage
    exact (begun all ⟨_, owed⟩).imp_right fun two _ => two
  | holding p =>
    rw [here] at at_stage
    obtain ⟨live, all, _, owed⟩ := at_stage
    exact (begun all ⟨_, owed⟩).imp_right fun two _ => two
  | removing | settling | draining | stopped =>
    rw [here] at at_stage
    obtain ⟨live, all, some, _⟩ := at_stage
    exact (begun all some).imp_right fun two _ => two
  | waiting | attempting | guarding | refused | taken =>
    rw [here] at at_stage
    exact at_stage.elim

end Late

end Footage
