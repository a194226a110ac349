import Footage.Proofs.FillOrder
import Footage.Proofs.Owed

/-!
# What listeners get

A listener with a channel of its own gets or misses each packet whose call of `add` looked it up,
once (`Tended.run`). So when no such call has anything left to do, its two counters make up the
number of these calls. Channels never hold more than they have room for (`Step.room`). With the
order in which channels are filled and the reasons why listeners leave, this is what there is to
say about a run of any number of threads and consumers (`fanOut`).
-/

namespace Footage

/-! ## Runs with their states -/

/-- Interleavings of steps, each with the system in which it is taken. -/
inductive Trace : System → List (System × Event) → System → Prop
  | nil {s : System} : Trace s [] s
  | cons {s s' s'' : System} {e : Event} {steps : List (System × Event)} :
      Step s e s' → Trace s' steps s'' → Trace s ((s, e) :: steps) s''

def eventsOf (steps : List (System × Event)) : List Event := steps.map (·.2)

/-- A call of `add` looks up the listeners and finds this one. -/
def findsListener (id : Nat) : System × Event → Bool
  | (s, .lookUp _) => id ∈ s.ring.registry
  | _ => false

/-- How many calls of `add` found the listener when they looked. -/
def snapshotsOf (id : Nat) (steps : List (System × Event)) : Nat := steps.countP (findsListener id)

theorem Trace.run {s s' : System} {steps : List (System × Event)} (trace : Trace s steps s') :
    Run s (eventsOf steps) s' := by
  induction trace with
  | nil => exact .nil
  | cons step _ ih => exact .cons step ih

theorem Run.exists_trace {s s' : System} {es : List Event} (run : Run s es s') :
    ∃ steps, eventsOf steps = es ∧ Trace s steps s' := by
  induction run with
  | nil => exact ⟨[], rfl, .nil⟩
  | @cons s middle s'' e es step _ ih =>
    obtain ⟨steps, rfl, trace⟩ := ih
    exact ⟨(s, e) :: steps, rfl, .cons step trace⟩

/-- A trace in which a step is picked out. -/
theorem Trace.split {s m s' : System} {e : Event} {front back : List (System × Event)}
    (trace : Trace s (front ++ (m, e) :: back) s') :
    ∃ m', Trace s front m ∧ Step m e m' ∧ Trace m' back s' := by
  induction front generalizing s with
  | nil =>
    cases trace with
    | cons step rest => exact ⟨_, .nil, step, rest⟩
  | cons first front ih =>
    cases trace with
    | cons step rest =>
      obtain ⟨m', before, chosen, after⟩ := ih rest
      exact ⟨m', .cons step before, chosen, after⟩

/-! ## Room -/

theorem Channel.offer_room {c c' : Channel} {p : Packet} (h : c.offer p = .accepted c') :
    c.queue.length < c.room := by
  unfold offer at h
  split at h
  · cases h
  · split at h
    next room => exact room
    next => cases h

/-- A channel that is not overfull does not become so. -/
theorem ChannelChange.room {e : Event} {i : Nat} {c c' : Channel} (h : ChannelChange e i c c')
    (fits : c.queue.length ≤ c.room) : c'.queue.length ≤ c'.room := by
  cases h with
  | same => exact fits
  | filled accepted =>
    have room := Channel.offer_room accepted
    rw [Channel.offer_accepted accepted, List.length_append]
    exact room
  | @received p rest waiting =>
    have one : c.isAwaited.toNat ≤ 1 := Bool.toNat_le _
    rw [waiting, List.length_cons] at fits
    simp only [Channel.room] at fits ⊢
    split at fits
    next none => rw [if_pos none]; omega
    next some => rw [if_neg some]; omega
  | awaited =>
    refine Nat.le_trans fits ?_
    simp only [Channel.room]
    split
    · cases c.isAwaited <;> decide
    · exact Nat.le_refl _
  | hungUp => exact Nat.zero_le _

def RingBuffer.InRoom (ring : RingBuffer) : Prop :=
  ∀ (i : Nat) (c : Channel), ring.channels[i]? = some c → c.queue.length ≤ c.room

theorem Step.room {s s' : System} {e : Event} (step : Step s e s') (h : s.ring.InRoom) :
    s'.ring.InRoom := by
  intro i c' known'
  cases known : s.ring.channels[i]? with
  | none =>
    obtain ⟨_, _, opened⟩ := step.unopened known
    rw [opened c' known']
    exact Nat.zero_le _
  | some c =>
    obtain ⟨own, there, change⟩ := step.channel known
    obtain rfl : own = c' := Option.some.inj (there.symm.trans known')
    exact change.room (h i c known)

theorem Run.room {s s' : System} {es : List Event} (run : Run s es s') (h : s.ring.InRoom) :
    s'.ring.InRoom := by
  induction run with
  | nil => exact h
  | cons step _ ih => exact ih (step.room h)

/-! ## What a channel got -/

theorem filledIn_cons (channel : Nat) (e : Event) (es : List Event) :
    filledIn channel (e :: es) = e.filled channel ++ filledIn channel es := rfl

/-- What was put into a channel was taken out or is still in it. -/
theorem Run.queue {s s' : System} {es : List Event} {channel : Nat} (run : Run s es s')
    (stays : .hangUp channel ∉ es) :
    receivedIn channel es ++ s'.ring.queue channel =
      s.ring.queue channel ++ filledIn channel es := by
  induction run with
  | nil => exact (List.append_nil _).symm
  | @cons s middle s'' e es step _ ih =>
    have first := step.queue fun is => stays (is ▸ List.mem_cons_self)
    have rest := ih fun later => stays (List.mem_cons_of_mem _ later)
    calc receivedIn channel (e :: es) ++ s''.ring.queue channel
        = e.received channel ++ (receivedIn channel es ++ s''.ring.queue channel) :=
          List.append_assoc ..
      _ = (e.received channel ++ middle.ring.queue channel) ++ filledIn channel es := by
          rw [rest, List.append_assoc]
      _ = s.ring.queue channel ++ filledIn channel (e :: es) := by
          rw [first, List.append_assoc, filledIn_cons]

theorem RingBuffer.queue_hangUp (ring : RingBuffer) (channel : Nat) :
    (ring.changeChannel channel (·.hangUp)).queue channel = [] := by
  rw [queue, changeChannel, List.getElem?_modify_eq]
  cases ring.channels[channel]? <;> rfl

/-- No more was taken out of a channel than was in it or put into it. -/
theorem Run.received_le {s s' : System} {es : List Event} {channel : Nat} (run : Run s es s') :
    (receivedIn channel es).length ≤
      (s.ring.queue channel).length + (filledIn channel es).length := by
  induction run with
  | nil => exact Nat.zero_le _
  | @cons s middle s'' e es step _ ih =>
    rw [filledIn_cons, List.length_append]
    show (e.received channel ++ receivedIn channel es).length ≤ _
    rw [List.length_append]
    by_cases stays : e = .hangUp channel
    · subst stays
      cases step with
      | hangUp =>
        have rest : (receivedIn channel es).length ≤ 0 + (filledIn channel es).length := by
          have lost := s.ring.queue_hangUp channel
          rwa [lost] at ih
        show 0 + _ ≤ _ + (0 + _)
        omega
    · have now := congrArg List.length (step.queue stays)
      rw [List.length_append, List.length_append] at now
      omega

/-- A channel that nobody ever owned was never filled. -/
theorem Run.filledIn_unowned {s s' : System} {es : List Event} {channel : Nat} (run : Run s es s')
    (unowned : ∀ id, s'.ring.channelOf id ≠ some channel) : filledIn channel es = [] := by
  induction run with
  | nil => rfl
  | @cons s middle s'' e es step run ih =>
    have nothing : e.filled channel = [] := by
      rcases @Event.exists_fill channel e with ⟨_, nothing⟩ | ⟨t, p, rfl, _⟩
      · exact nothing
      · obtain ⟨id, owns⟩ := step.exists_owner
        exact absurd (run.remembers.channelOf (step.remembers.channelOf owns)) (unowned id)
    rw [filledIn_cons, nothing, ih unowned]
    rfl

/-! ## Counting -/

/-- What a call that is yet to take the delivery lock owes a listener that it found. -/
def Stage.owedOnLookUp (id : Nat) : Stage → List Packet
  | addressed d => d.owedTo id
  | _ => []

namespace System

/-- How many calls of `add` found the listener and are still to serve it. -/
def awaiting (s : System) (id : Nat) : Nat :=
  (owedBy (Stage.owedOnLookUp id) s.stage s.storage).length +
    (owedBy (Stage.owedInDelivery id) s.stage s.delivery).length

/-- A step within a call that owes the same before and after. -/
theorem awaiting_move {s : System} {id t : Nat} {old stage : Stage} {ring : RingBuffer}
    (here : s.stage t = old) (onLookUp : stage.owedOnLookUp id = old.owedOnLookUp id)
    (inDelivery : stage.owedInDelivery id = old.owedInDelivery id) :
    ({ s with ring }.move t stage).awaiting id = s.awaiting id := by
  simp only [awaiting, move_storage, move_delivery, move_stage, owedBy_placed here onLookUp,
    owedBy_placed here inDelivery]

theorem awaiting_of_nobody {s : System} {id : Nat} (nobody : ∀ t, id ∉ (s.stage t).pending) :
    s.awaiting id = 0 := by
  have onLookUp (t : Nat) : (s.stage t).owedOnLookUp id = [] := by
    have nothing := nobody t
    cases here : s.stage t with
    | addressed d => rw [here] at nothing; exact if_neg nothing
    | _ => rfl
  have inDelivery (t : Nat) : (s.stage t).owedInDelivery id = [] := by
    have nothing := nobody t
    cases here : s.stage t with
    | handing d | delivering d => rw [here] at nothing; exact if_neg nothing
    | _ => rfl
  have first : owedBy (Stage.owedOnLookUp id) s.stage s.storage = [] := by
    cases s.storage with
    | none => rfl
    | some t => exact onLookUp t
  have second : owedBy (Stage.owedInDelivery id) s.stage s.delivery = [] := by
    cases s.delivery with
    | none => rfl
    | some t => exact inDelivery t
  rw [awaiting, first, second]
  rfl

end System

/-- Outside of deliveries, a listener waits for one call more when it is looked up. -/
theorem Step.awaiting {s s' : System} {e : Event} {id : Nat} (locks : LocksHeld s)
    (step : Step s e s') (outside : ∀ t filled, e ≠ .serve t filled) :
    s'.awaiting id = s.awaiting id + snapshotsOf id [(s, e)] := by
  cases step with
  | lock here free =>
    simp [System.awaiting, free, here, Stage.owedOnLookUp, snapshotsOf, findsListener]
  | unlock here held =>
    simp [System.awaiting, held, here, Stage.owedOnLookUp, snapshotsOf, findsListener]
  | extract | clear | listen | unlistenUnknown | openChannel | receive | await | hangUp => rfl
  | settle here free =>
    have storage := System.owedBy_placed here
      (show Stage.owedOnLookUp id .settling = _ from rfl) s.storage
    simp [System.awaiting, storage, free, Stage.owedInDelivery, snapshotsOf, findsListener]
  | @settled t here =>
    have held := locks.delivery t (by rw [here]; rfl)
    have storage := System.owedBy_placed here
      (show Stage.owedOnLookUp id .idle = _ from rfl) s.storage
    simp [System.awaiting, storage, held, here, Stage.owedInDelivery, snapshotsOf, findsListener]
  | @enter t p here free =>
    have delivery := System.owedBy_placed here
      (show Stage.owedInDelivery id (.storing p) = _ from rfl) s.delivery
    simp [System.awaiting, delivery, free, Stage.owedOnLookUp, snapshotsOf, findsListener]
  | @lookUp t p here =>
    have held := locks.storage t (by rw [here]; rfl)
    have delivery := System.owedBy_placed here
      (show Stage.owedInDelivery id (.addressed (s.ring.snapshot p)) = _ from rfl) s.delivery
    have found : ((s.ring.snapshot p).owedTo id).length = snapshotsOf id [(s, .lookUp t)] := by
      by_cases registered : id ∈ s.ring.registry <;>
        simp [registered, snapshotsOf, findsListener, Delivery.owedTo, RingBuffer.snapshot]
    simp [System.awaiting, delivery, held, here, found, Stage.owedOnLookUp, Nat.add_comm]
  | @lockDelivery t d here free =>
    have held := locks.storage t (by rw [here]; rfl)
    simp [System.awaiting, held, free, here, Stage.owedOnLookUp, Stage.owedInDelivery, snapshotsOf,
      findsListener]
  | @unlockStorage t d here =>
    have held := locks.storage t (by rw [here]; rfl)
    have delivery := System.owedBy_placed here
      (show Stage.owedInDelivery id (.delivering d) = _ from rfl) s.delivery
    simp [System.awaiting, delivery, held, here, Stage.owedOnLookUp, snapshotsOf, findsListener]
  | serve => exact absurd rfl (outside _ _)
  | timeOut here waited =>
    rw [RingBuffer.timeOut_eq waited]
    exact System.awaiting_move here rfl rfl
  | @unlockDelivery t d here done =>
    have held := locks.delivery t (by rw [here]; rfl)
    have nothing : d.owedTo id = [] := if_neg (by rw [done]; exact List.not_mem_nil)
    have storage := System.owedBy_placed here
      (show Stage.owedOnLookUp id (.leaving d.gone) = _ from rfl) s.storage
    simp [System.awaiting, storage, held, here, nothing, Stage.owedInDelivery, snapshotsOf,
      findsListener]
  | unlisten here | add here | store here | prune here | leave here =>
    exact System.awaiting_move here rfl rfl

/-! ### Counters -/

/-- What happened to a listener's counters: `filled` packets came into its channel, and of the
`before` packets that it was to get or miss, `after` are left. -/
structure Listener.Settles (l l' : Listener) (before after filled : Nat) : Prop where
  channel : l'.channel = l.channel
  policy : l'.policy = l.policy
  delivered : l'.delivered = l.delivered + filled
  stalls : l.policy = .stall → l'.dropped = l.dropped
  balance : l'.delivered + l'.dropped + after = l.delivered + l.dropped + before

namespace Listener.Settles

variable {l l' l'' : Listener} {before between after filled : Nat}

theorem refl (l : Listener) (n : Nat) : l.Settles l n n 0 := ⟨rfl, rfl, rfl, fun _ => rfl, rfl⟩

/-- One after the other; `more` packets are looked up in the second part. -/
theorem trans {more filled' : Nat} (first : l.Settles l' before between filled)
    (second : l'.Settles l'' (between + more) after filled') :
    l.Settles l'' (before + more) after (filled + filled') := by
  refine ⟨second.channel.trans first.channel, second.policy.trans first.policy, ?_,
    fun stalls => ?_, ?_⟩
  · rw [second.delivered, first.delivered, Nat.add_assoc]
  · rw [second.stalls (first.policy.trans stalls), first.stalls stalls]
  · have := first.balance
    have := second.balance
    omega

end Listener.Settles

/-- A listener that has its channel to itself. -/
structure RingBuffer.Owns (ring : RingBuffer) (id channel : Nat) (l : Listener) : Prop where
  known : ring.listeners[id]? = some l
  own : l.channel = channel
  alone : ∀ other, ring.channelOf other = some channel → other = id

namespace RingBuffer.Owns

variable {ring : RingBuffer} {id channel : Nat} {l : Listener}

theorem channelOf (h : ring.Owns id channel l) : ring.channelOf id = some channel := by
  rw [RingBuffer.channelOf, RingBuffer.standing_of_listener h.known, ← h.own]
  rfl

/-- A delivery that serves the listener counts its packet, and any other leaves its counters
alone. -/
theorem serve (h : ring.Owns id channel l) {d : Delivery} {served : Served} (t : Nat)
    (inForce : l.isRemoved = false) (connected : ring.isConnected channel = true)
    (nodup : d.pending.Nodup) (step : ring.serveStep d = some served) :
    ∃ l', served.ring.listeners[id]? = some l' ∧
      l.Settles l' (d.owedTo id).length (served.delivery.owedTo id).length
        ((Event.serve t served.filled).filled channel).length := by
  obtain ⟨first, rest, own, c, pending, known, opened, case⟩ := RingBuffer.serveStep_cases step
  by_cases same : first = id
  · subst same
    obtain rfl : own = l := Option.some.inj (known.symm.trans h.known)
    have before := Delivery.owedTo_first pending
    have after := Delivery.owedTo_served nodup pending
    have counted (change : Listener → Listener) :
        (ring.changeListener first change).listeners[first]? = some (change own) := by
      rw [RingBuffer.changeListener, List.getElem?_modify_eq, known]
      rfl
    cases case with
    | skipped removed => rw [inForce] at removed; cases removed
    | gone disconnected =>
      rw [RingBuffer.isConnected, ← h.own, opened] at connected
      exact absurd (connected.symm.trans disconnected) (by decide)
    | advanced => exact ⟨own, known, .refl _ _⟩
    | stalled => exact ⟨_, counted _, rfl, rfl, rfl, fun _ => rfl, rfl⟩
    | missed drops =>
      refine ⟨_, counted _, rfl, rfl, rfl, fun stalls => ?_, ?_⟩
      · rw [drops] at stalls
        cases stalls
      · rw [before, after]
        rfl
    | filled c' accepted =>
      have here : (Event.serve t (some (own.channel, d.packet))).filled channel = [d.packet] :=
        if_pos h.own
      refine ⟨_, counted _, rfl, rfl, ?_, fun _ => rfl, ?_⟩
      · exact congrArg (own.delivered + List.length ·) here.symm
      · rw [before]
        show own.delivered + 1 + own.dropped + (d.next.owedTo first).length = _
        rw [after]
        exact Nat.add_right_comm own.delivered 1 own.dropped
  · have kept (change : Listener → Listener) :
        (ring.changeListener first change).listeners[id]? = some l := by
      rw [RingBuffer.changeListener, List.getElem?_modify_ne _ _ same]
      exact h.known
    have unaffected (later : Delivery) : later.packet = d.packet → later.pending = d.pending.tail →
        later.owedTo id = d.owedTo id := Delivery.owedTo_of_tail pending same
    have elsewhere : (Event.serve t (some (own.channel, d.packet))).filled channel = [] := by
      refine if_neg fun equal => same (h.alone first ?_)
      rw [RingBuffer.channelOf_of_standing (RingBuffer.standing_of_listener known), equal]
    cases case with
    | advanced => exact ⟨l, h.known, .refl _ _⟩
    | stalled => exact ⟨l, kept _, .refl _ _⟩
    | skipped => exact ⟨l, h.known, unaffected d.next rfl rfl ▸ .refl _ _⟩
    | missed => exact ⟨l, kept _, unaffected d.next rfl rfl ▸ .refl _ _⟩
    | gone => exact ⟨l, h.known, unaffected d.nextGone rfl rfl ▸ .refl _ _⟩
    | filled =>
      refine ⟨l, kept _, ?_⟩
      show l.Settles l (d.owedTo id).length (d.next.owedTo id).length
        ((Event.serve t (some (own.channel, d.packet))).filled channel).length
      rw [elsewhere, unaffected d.next rfl rfl]
      exact .refl _ _

end RingBuffer.Owns

/-- Outside of deliveries, a listener's record stays as it is as long as it is registered. -/
theorem Step.listener {s s' : System} {e : Event} {id : Nat} {l : Listener} (step : Step s e s')
    (outside : ∀ t filled, e ≠ .serve t filled) (known : s.ring.listeners[id]? = some l)
    (registered : id ∈ s'.ring.registry) : s'.ring.listeners[id]? = some l := by
  cases step with
  | lock | unlock | clear | settle | settled | add | enter | store | lookUp | lockDelivery
    | unlockStorage | timeOut | unlockDelivery | prune | leave | openChannel | await | hangUp =>
    exact known
  | extract _ _ taken =>
    obtain rfl := congrArg Prod.snd taken
    exact known
  | receive taken =>
    obtain ⟨_, _, _, _, rfl⟩ := RingBuffer.receive_eq taken
    exact known
  | serve => exact absurd rfl (outside _ _)
  | unlistenUnknown _ unknown =>
    rw [RingBuffer.unregister_false unknown]
    exact known
  | @listen t channel name policy _ =>
    show (s.ring.register channel name policy).listeners[id]? = some l
    rcases s.ring.register_eq channel name policy with same | ⟨_, grown⟩
    · rw [same]
      exact known
    · rw [grown, List.getElem?_append_left (List.getElem?_eq_some_iff.mp known).1]
      exact known
  | unlisten _ found =>
    obtain ⟨victim, _, rfl⟩ := RingBuffer.unregister_true found
    have other : id ≠ victim := by simpa using (List.mem_filter.mp registered).2
    show (s.ring.changeListener victim _).listeners[id]? = some l
    rw [RingBuffer.changeListener, List.getElem?_modify_ne _ _ other.symm]
    exact known

/-- A registered listener keeps its channel to itself. -/
theorem Step.alone {s s' : System} {e : Event} {id channel : Nat} (step : Step s e s')
    (owns : s.ring.channelOf id = some channel) (registered : id ∈ s.ring.registry)
    (alone : ∀ other, s.ring.channelOf other = some channel → other = id) (other : Nat)
    (owns' : s'.ring.channelOf other = some channel) : other = id := by
  by_cases old : other < s.ring.listeners.length
  · exact alone other ((step.remembers.channelOf_eq old).symm.trans owns')
  · -- a new listener would have been refused
    obtain ⟨_, _, _, _, unowned, _⟩ := step.newest (Nat.not_lt.mp old) owns'
    exact absurd owns (RingBuffer.listenerOf?_eq_none_iff.mp unowned id registered)

/-! ### Steps and runs -/

theorem Event.filled_of_ne_serve {channel : Nat} {e : Event}
    (outside : ∀ t filled, e ≠ .serve t filled) : e.filled channel = [] := by
  rcases @Event.exists_fill channel e with ⟨_, nothing⟩ | ⟨t, p, rfl, _⟩
  · exact nothing
  · exact absurd rfl (outside t _)

/-- A registered listener whose consumer is there gets or misses what it is looked up for. -/
theorem Step.settles {s s' : System} {e : Event} {id channel : Nat} {l : Listener}
    (locks : LocksHeld s) (accounted : Accounted s) (registry : WellRegistered s)
    (step : Step s e s') (h : s.ring.Owns id channel l) (registered : id ∈ s.ring.registry)
    (stays : id ∈ s'.ring.registry) (connected : s.ring.isConnected channel = true) :
    ∃ l', s'.ring.Owns id channel l' ∧
      l.Settles l' (s.awaiting id + snapshotsOf id [(s, e)]) (s'.awaiting id)
        (e.filled channel).length := by
  have alone := step.alone h.channelOf registered h.alone
  by_cases outside : ∀ t filled, e ≠ .serve t filled
  · refine ⟨l, ⟨step.listener outside h.known stays, h.own, alone⟩, ?_⟩
    rw [step.awaiting locks outside, Event.filled_of_ne_serve outside]
    exact .refl _ _
  · obtain ⟨t, filled, rfl⟩ : ∃ t filled, e = .serve t filled := by simpa using outside
    obtain ⟨own, policy, standing⟩ := registry.ring.inForce id registered
    have inForce : l.isRemoved = false := by
      have same := (RingBuffer.standing_of_listener h.known).symm.trans standing
      exact (Prod.mk.inj (Prod.mk.inj (Option.some.inj same)).2).2
    cases step with
    | @serve _ d later ring _ here step =>
      have nodup := (accounted.stages t).nodup
      rw [here] at nodup
      obtain ⟨l', known, settles⟩ := h.serve t inForce connected nodup step
      refine ⟨l', ⟨known, settles.channel.trans h.own, alone⟩, settles.channel, settles.policy,
        settles.delivered, settles.stalls, ?_⟩
      have held := locks.delivery t (by rw [here]; rfl)
      have storage := System.owedBy_placed here
        (show Stage.owedOnLookUp id (.delivering later) = _ from rfl) s.storage
      have balance : l'.delivered + l'.dropped + (later.owedTo id).length = _ := settles.balance
      simp only [System.awaiting, System.move_storage, System.move_delivery, System.move_stage,
        storage, held, System.owedBy_some, placed_self, here, Stage.owedInDelivery, snapshotsOf,
        List.countP_cons, List.countP_nil, findsListener]
      simp only [Bool.false_eq_true, if_false]
      omega

theorem snapshotsOf_cons (id : Nat) (step : System × Event) (steps : List (System × Event)) :
    snapshotsOf id (step :: steps) = snapshotsOf id [step] + snapshotsOf id steps := by
  rw [snapshotsOf, List.countP_cons, Nat.add_comm]
  simp [snapshotsOf, List.countP_cons]

/-- The same for a run at whose end the listener is still registered and its consumer there. -/
theorem Trace.settles {s s' : System} {steps : List (System × Event)} {id channel : Nat}
    {l : Listener} (locks : LocksHeld s) (accounted : Accounted s) (registry : WellRegistered s)
    (trace : Trace s steps s') (h : s.ring.Owns id channel l)
    (connected : s.ring.isConnected channel = true) (stays : id ∈ s'.ring.registry)
    (listens : s'.ring.isConnected channel = true) :
    ∃ l', s'.ring.Owns id channel l' ∧
      l.Settles l' (s.awaiting id + snapshotsOf id steps) (s'.awaiting id)
        (filledIn channel (eventsOf steps)).length ∧ .hangUp channel ∉ eventsOf steps := by
  induction trace generalizing l with
  | nil => exact ⟨l, h, .refl _ _, List.not_mem_nil⟩
  | @cons s middle s'' e steps step rest ih =>
    have known := RingBuffer.lt_of_channelOf h.channelOf
    have registered := (Run.cons step rest.run).registered known stays
    have registered' :=
      rest.run.registered (Nat.lt_of_lt_of_le known step.remembers.length) stays
    have there := step.ne_hangUp rest.run connected listens
    obtain ⟨l', own, now⟩ :=
      step.settles locks accounted registry h registered registered' connected
    obtain ⟨l'', own', later, others⟩ := ih (locks.step step) (accounted.step step)
      (registry.step accounted step) own (step.isConnected connected there) stays listens
    refine ⟨l'', own', ?_, fun is => ?_⟩
    · rw [snapshotsOf_cons, ← Nat.add_assoc, eventsOf, List.map_cons, filledIn_cons,
        List.length_append]
      exact now.trans later
    · rcases List.mem_cons.mp is with now | later
      · exact there now.symm
      · exact others later

/-- Nobody found a listener before there was one. -/
theorem Trace.snapshotsOf_unknown {s s' : System} {steps : List (System × Event)} {id : Nat}
    (accounted : Accounted s) (trace : Trace s steps s')
    (unknown : s'.ring.listeners.length ≤ id) : snapshotsOf id steps = 0 := by
  induction trace with
  | nil => rfl
  | @cons s middle s'' e steps step rest ih =>
    have notYet : id ∉ s.ring.registry := fun registered => by
      have := accounted.ring.known id registered
      have := step.remembers.length
      have := rest.run.remembers.length
      omega
    have nothing : findsListener id (s, e) = false := by
      cases e with
      | lookUp => exact decide_eq_false notYet
      | _ => rfl
    rw [snapshotsOf_cons, ih (accounted.step step) unknown, snapshotsOf, List.countP_cons, nothing]
    rfl

/-- A listener that is registered with a fresh channel has it to itself. -/
theorem Step.owns_of_fresh {s s' : System} {t channel : Nat} {name : String} {policy : FullPolicy}
    (step : Step s (.listen t channel name policy) s') (fresh : s.ring.IsFresh channel) :
    s'.ring.Owns s.ring.listeners.length channel { channel, name, policy } := by
  cases step with
  | listen =>
    show (s.ring.register channel name policy).Owns _ _ _
    have unowned : s.ring.listenerOf? channel = none :=
      RingBuffer.listenerOf?_eq_none_iff.mpr fun id _ => fresh.unowned id
    have grown : s.ring.register channel name policy = { s.ring with
        listeners := s.ring.listeners ++ [{ channel, name, policy }]
        registry := s.ring.registry ++ [s.ring.listeners.length] } := by
      rw [RingBuffer.register, unowned]
      rfl
    rw [grown]
    refine ⟨List.getElem?_concat_length, rfl, fun other owns => ?_⟩
    by_cases newest : other = s.ring.listeners.length
    · exact newest
    · rw [RingBuffer.channelOf, RingBuffer.standing_concat, if_neg newest] at owns
      exact absurd owns (fresh.unowned other)

/-- The counters of a listener that got a fresh channel and still has it. -/
theorem counters_of_fresh {budget t channel : Nat} {name : String} {policy : FullPolicy}
    {m s : System} {front back : List (System × Event)}
    (trace : Trace (.start budget) (front ++ (m, .listen t channel name policy) :: back) s)
    (fresh : m.ring.IsFresh channel) (registered : m.ring.listeners.length ∈ s.ring.registry)
    (connected : s.ring.isConnected channel = true)
    (served : ∀ u, m.ring.listeners.length ∉ (s.stage u).pending) :
    ∃ l, s.ring.listeners[m.ring.listeners.length]? = some l ∧ l.channel = channel ∧
      l.policy = policy ∧
      l.delivered + l.dropped = snapshotsOf m.ring.listeners.length
        (front ++ (m, .listen t channel name policy) :: back) ∧
      l.delivered = (receivedIn channel
        (eventsOf (front ++ (m, .listen t channel name policy) :: back))).length +
        (s.ring.queue channel).length ∧
      (policy = .stall → l.dropped = 0) := by
  obtain ⟨m', before, step, after⟩ := trace.split
  have locks := (locksHeld_start budget).run before.run
  have accounted := (accounted_start budget).run before.run
  have registry := (WellRegistered.start budget).run (accounted_start budget) before.run
  have connected' := step.isConnected fresh.connected nofun
  obtain ⟨l, own, settles, others⟩ := after.settles (locks.step step) (accounted.step step)
    (registry.step accounted step) (step.owns_of_fresh fresh) connected' registered connected
  have nobody (u : Nat) : m.ring.listeners.length ∉ (m'.stage u).pending := by
    have stages : m'.stage = m.stage := by cases step; rfl
    rw [stages]
    exact fun mentioned => Nat.lt_irrefl _ ((accounted.stages u).pending _ mentioned)
  have found : snapshotsOf m.ring.listeners.length
      (front ++ (m, .listen t channel name policy) :: back) =
      snapshotsOf m.ring.listeners.length back := by
    have early := before.snapshotsOf_unknown (accounted_start budget) (Nat.le_refl _)
    calc snapshotsOf m.ring.listeners.length
          (front ++ (m, .listen t channel name policy) :: back)
        = snapshotsOf m.ring.listeners.length front + snapshotsOf m.ring.listeners.length
            ((m, .listen t channel name policy) :: back) := List.countP_append ..
      _ = snapshotsOf m.ring.listeners.length back := by
          rw [early, snapshotsOf_cons]
          simp [snapshotsOf, findsListener]
  have unused : filledIn channel (eventsOf front) = [] := before.run.filledIn_unowned fresh.unowned
  have untaken : receivedIn channel (eventsOf front) = [] := by
    have taken : (receivedIn channel (eventsOf front)).length ≤ 0 + _ := before.run.received_le
    rw [unused] at taken
    exact List.length_eq_zero_iff.mp (Nat.le_zero.mp taken)
  have received : receivedIn channel
      (eventsOf (front ++ (m, .listen t channel name policy) :: back)) =
      receivedIn channel (eventsOf back) := by
    rw [eventsOf, List.map_append, receivedIn, List.flatMap_append]
    exact congrArg (· ++ _) untaken
  have queue := after.run.queue others
  have counts := settles.balance
  rw [System.awaiting_of_nobody nobody, System.awaiting_of_nobody served] at counts
  refine ⟨l, own.known, own.own, settles.policy, ?_, ?_, settles.stalls⟩
  · rw [found]
    simpa using counts
  · have empty : m'.ring.queue channel = [] := by
      have same : [] ++ m'.ring.queue channel = m.ring.queue channel ++ [] := step.queue nofun
      rw [fresh.empty] at same
      exact same
    rw [received, settles.delivered, ← List.length_append, queue, empty, List.nil_append]
    exact Nat.zero_add _

/-! ## The fan-out -/

/-- In a run of any number of threads and consumers,

* no two listeners in force own the same channel;
* a listener leaves the registry only when its channel is asked off it, or in a pruning after its
  consumer went away;
* a channel gets its packets from calls of `add` in the order in which these store them, and from
  each call at most one;
* a channel that can hold packets never holds more than its capacity;
* a listener that was registered with a fresh channel, is still registered and has its consumer
  there has counted each `add` that found it once, as soon as all of these have served it. The
  packets that it counts as delivered are those its consumer took and those in the channel, and it
  missed none if it lets producers stall. -/
theorem fanOut {budget : Nat} {s : System} {steps : List (System × Event)}
    (trace : Trace (.start budget) steps s) :
    s.ring.registered.Pairwise (·.channel ≠ ·.channel) ∧
    (∀ e s' id channel, Step s e s' → s.ring.channelOf id = some channel →
      id ∈ s.ring.registry → id ∉ s'.ring.registry →
      (∃ t, e = .unlisten t channel true) ∨ (∃ t, e = .prune t) ∧ s.ring.IsHungUp channel) ∧
    (∀ channel,
      (fillsIn channel (eventsOf steps)).map (·.2) = filledIn channel (eventsOf steps) ∧
      (fillsIn channel (eventsOf steps)).Pairwise (·.1 < ·.1) ∧
      ∀ fill ∈ fillsIn channel (eventsOf steps),
        (storedIn (eventsOf steps))[fill.1]? = some fill.2) ∧
    (∀ (channel : Nat) (c : Channel), s.ring.channels[channel]? = some c → 0 < c.capacity →
      c.queue.length ≤ c.capacity) ∧
    (∀ front back m t channel name policy,
      steps = front ++ (m, .listen t channel name policy) :: back → m.ring.IsFresh channel →
      m.ring.listeners.length ∈ s.ring.registry → s.ring.isConnected channel = true →
      (∀ u, m.ring.listeners.length ∉ (s.stage u).pending) →
      ∃ l, s.ring.listeners[m.ring.listeners.length]? = some l ∧ l.channel = channel ∧
        l.policy = policy ∧
        l.delivered + l.dropped = snapshotsOf m.ring.listeners.length steps ∧
        l.delivered =
          (receivedIn channel (eventsOf steps)).length + (s.ring.queue channel).length ∧
        (policy = .stall → l.dropped = 0)) := by
  have registry := (WellRegistered.start budget).run (accounted_start budget) trace.run
  refine ⟨?_, fun e s' id channel step owns => registry.leaves step owns, fun channel => ?_,
    fun channel c known holds => ?_, ?_⟩
  · refine List.Pairwise.filterMap _ (fun a b differ l known l' known' same => differ ?_)
      registry.ring.distinct
    rw [RingBuffer.channelOf_of_standing (RingBuffer.standing_of_listener known), same,
      RingBuffer.channelOf_of_standing (RingBuffer.standing_of_listener known')]
  · exact ⟨map_fillsFrom channel {} _, fills_increase channel trace.run⟩
  · have fits := trace.run.room (fun _ _ => nofun) channel c known
    rwa [Channel.room, if_neg (Nat.ne_of_gt holds)] at fits
  · rintro front back m t channel name policy rfl fresh registered connected served
    exact counters_of_fresh trace fresh registered connected served

/-- A camera adds a packet twice, and the viewer's channel has room for one. -/
def viewerEvents : List Event :=
  [.add 1 smallPacket, .enter 1, .store 1 smallPacket, .lookUp 1, .lockDelivery 1,
    .unlockStorage 1, .serve 1 none, .serve 1 (some (0, smallPacket)), .unlockDelivery 1, .leave 1,
    .add 1 smallPacket, .enter 1, .store 1 smallPacket, .lookUp 1, .lockDelivery 1,
    .unlockStorage 1, .serve 1 none, .serve 1 none, .unlockDelivery 1, .leave 1]

theorem fanOut_fullChannel :
    ∃ m back s,
      Trace (.start 64) ([(.start 64, .openChannel 1)] ++ (m, .listen 0 0 "viewer" .drop) :: back)
        s ∧
      eventsOf back = viewerEvents ∧
      snapshotsOf 0
        ([(.start 64, .openChannel 1)] ++ (m, .listen 0 0 "viewer" .drop) :: back) = 2 ∧
      ∃ l, s.ring.listeners[0]? = some l ∧ l.delivered = 1 ∧ l.dropped = 1 := by
  obtain ⟨m, m', opened, first, fresh, registered, s, run, still, connected, served, l, known,
      counters⟩ :
      ∃ m m', Step (.start 64) (.openChannel 1) m ∧ m.ring.listeners.length = 0 ∧
        m.ring.IsFresh 0 ∧
        Step m (.listen 0 0 "viewer" .drop) m' ∧
        ∃ s, Run m' viewerEvents s ∧ 0 ∈ s.ring.registry ∧ s.ring.isConnected 0 = true ∧
          (∀ u, 0 ∉ (s.stage u).pending) ∧
          ∃ l, s.ring.listeners[0]? = some l ∧ l.delivered = 1 ∧ l.dropped = 1 := by
    refine ⟨_, _, .openChannel, rfl, ⟨rfl, rfl, nofun⟩, .listen rfl, ?_⟩
    refine ⟨_, .cons (.add rfl) (.cons (.enter rfl rfl) (.cons (.store rfl) (.cons (.lookUp rfl)
      (.cons (.lockDelivery rfl rfl) (.cons (.unlockStorage rfl) (.cons (.serve rfl rfl)
      (.cons (.serve rfl rfl) (.cons (.unlockDelivery rfl rfl) (.cons (.leave rfl)
      (.cons (.add rfl) (.cons (.enter rfl rfl) (.cons (.store rfl) (.cons (.lookUp rfl)
      (.cons (.lockDelivery rfl rfl) (.cons (.unlockStorage rfl) (.cons (.serve rfl rfl)
      (.cons (.serve rfl rfl) (.cons (.unlockDelivery rfl rfl) (.cons (.leave rfl)
      .nil))))))))))))))))))), List.mem_singleton_self _, rfl, ?_, _, rfl, rfl, rfl⟩
    intro u
    by_cases camera : u = 1
    · subst camera
      exact List.not_mem_nil
    · simp only [System.move_stage, placed_of_ne camera]
      exact List.not_mem_nil
  obtain ⟨back, events, after⟩ := run.exists_trace
  have trace := Trace.cons opened (.cons registered after)
  obtain ⟨_, _, _, _, account⟩ := fanOut trace
  have counts := account [_] back m 0 0 "viewer" .drop rfl fresh
  rw [first] at counts
  obtain ⟨own, there, _, _, all, _⟩ := counts still connected served
  obtain rfl : own = l := Option.some.inj (there.symm.trans known)
  refine ⟨m, back, s, trace, events, ?_, own, known, counters⟩
  exact all.symm.trans (by rw [counters.1, counters.2])

end Footage
