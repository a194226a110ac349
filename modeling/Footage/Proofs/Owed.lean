import Footage.Proofs.Followed

/-!
# Packets on their way to a listener

Packets that are owed to a listener (`System.owed`) wait in its channel, in the call that holds the
delivery lock, and in the call that holds the storage lock, in this order. A step takes packets
out at the front and adds packets at the end (`Followed.conserved`), because a call takes the
delivery lock before it gives the storage lock back. So over a whole run what was stored is what
was received and what is still owed (`Followed.conserved_run`).

A call that still owes a packet has not returned since it stored one (`Run.owes`).
-/

namespace Footage

/-! ## Packets on their way -/

/-- The packet, if it is still to be served to the listener. -/
def Delivery.owedTo (d : Delivery) (id : Nat) : List Packet :=
  if id ∈ d.pending then [d.packet] else []

namespace Delivery

variable {d later : Delivery} {first id : Nat} {rest : List Nat}

theorem owedTo_first (pending : d.pending = id :: rest) : d.owedTo id = [d.packet] :=
  if_pos (by rw [pending]; exact List.mem_cons_self)

theorem owedTo_served (nodup : d.pending.Nodup) (pending : d.pending = id :: rest) :
    d.next.owedTo id = [] := by
  refine if_neg ?_
  show id ∉ d.pending.tail
  rw [pending] at nodup ⊢
  exact (List.nodup_cons.mp nodup).1

/-- The others are still owed the packet once the first listener is done with. -/
theorem owedTo_of_tail (pending : d.pending = first :: rest) (other : first ≠ id)
    (packet : later.packet = d.packet) (tail : later.pending = d.pending.tail) :
    later.owedTo id = d.owedTo id := by
  have same : id ∈ later.pending ↔ id ∈ d.pending := by
    rw [tail, pending, List.tail_cons, List.mem_cons]
    exact ⟨.inr, fun either => either.resolve_left (Ne.symm other)⟩
  simp only [owedTo, same, packet]

end Delivery

namespace Stage

/-- What a call owes the listener under the storage lock. -/
def owedInStorage (id : Nat) : Stage → List Packet
  | stored p => [p]
  | addressed d => d.owedTo id
  | _ => []

/-- What a call owes the listener under the delivery lock. -/
def owedInDelivery (id : Nat) : Stage → List Packet
  | handing d | delivering d => d.owedTo id
  | _ => []

end Stage

namespace System

def owedBy (what : Stage → List Packet) (stages : Nat → Stage) : Option Nat → List Packet
  | none => []
  | some t => what (stages t)

/-- Everything on its way to the listener `id` of `channel`, the next packet first. -/
def owed (s : System) (id channel : Nat) : List Packet :=
  s.ring.queue channel ++ owedBy (Stage.owedInDelivery id) s.stage s.delivery ++
    owedBy (Stage.owedInStorage id) s.stage s.storage

@[simp] theorem owedBy_none (what : Stage → List Packet) (stages : Nat → Stage) :
    owedBy what stages none = [] := rfl

@[simp] theorem owedBy_some (what : Stage → List Packet) (stages : Nat → Stage) (t : Nat) :
    owedBy what stages (some t) = what (stages t) := rfl

/-- A call that owes the same before and after. -/
theorem owedBy_placed {what : Stage → List Packet} {stages : Nat → Stage} {t : Nat}
    {old stage : Stage} (here : stages t = old) (same : what stage = what old)
    (holder : Option Nat) :
    owedBy what (placed stages t stage) holder = owedBy what stages holder := by
  cases holder with
  | none => rfl
  | some u =>
    by_cases mover : u = t
    · subst mover
      rw [owedBy_some, owedBy_some, placed_self, here, same]
    · rw [owedBy_some, placed_of_ne mover]
      rfl

/-- A change of the ring that leaves the queue alone. -/
theorem owed_elsewhere {s : System} {id channel : Nat} {ring : RingBuffer}
    (queue : ring.queue channel = s.ring.queue channel) :
    System.owed { s with ring } id channel = s.owed id channel := by
  simp only [owed, queue]

/-- A step within a call that owes the same before and after. -/
theorem owed_move {s : System} {id channel t : Nat} {old stage : Stage} {ring : RingBuffer}
    (queue : ring.queue channel = s.ring.queue channel) (here : s.stage t = old)
    (inDelivery : stage.owedInDelivery id = old.owedInDelivery id)
    (inStorage : stage.owedInStorage id = old.owedInStorage id) :
    ({ s with ring }.move t stage).owed id channel = s.owed id channel := by
  simp only [owed, move_ring, move_delivery, move_storage, move_stage, queue,
    owedBy_placed here inDelivery, owedBy_placed here inStorage]

end System

namespace RingBuffer

variable {ring : RingBuffer} {id channel : Nat} {d : Delivery} {served : Served}

/-- A step of a delivery moves the packet from what is owed to the end of the channel, or leaves
both alone. -/
theorem queue_owedTo_serveStep (h : InForce ring id channel) (nodup : d.pending.Nodup)
    (step : ring.serveStep d = some served) :
    served.ring.queue channel ++ served.delivery.owedTo id =
      ring.queue channel ++ d.owedTo id := by
  obtain ⟨first, rest, l, c, pending, known, opened, case⟩ := serveStep_cases step
  by_cases same : first = id
  · subst same
    obtain ⟨owns, stalls, inForce, connected⟩ := h.served known opened
    cases case with
    | skipped removed => rw [inForce] at removed; cases removed
    | advanced => rfl
    | stalled => rfl
    | missed drops => rw [stalls] at drops; cases drops
    | gone disconnected => exact absurd (connected.symm.trans disconnected) (by decide)
    | filled c' accepted =>
      rw [owns] at opened
      show (changeChannel ring l.channel _).queue channel ++ _ = _
      rw [owns, queue_changeChannel_self opened, Channel.offer_accepted accepted,
        queue_of_channel opened, Delivery.owedTo_first pending]
      show c.queue ++ [d.packet] ++ d.next.owedTo first = _
      rw [Delivery.owedTo_served nodup pending, List.append_nil]
  · have unaffected (later : Delivery) : later.packet = d.packet → later.pending = d.pending.tail →
        later.owedTo id = d.owedTo id := Delivery.owedTo_of_tail pending same
    have otherChannel : l.channel ≠ channel := by
      intro equal
      refine same (h.alone first l.policy l.isRemoved ?_)
      rw [standing, known, ← equal]
      rfl
    cases case with
    | advanced => rfl
    | stalled => rfl
    | skipped => exact congrArg _ (unaffected d.next rfl rfl)
    | missed => exact congrArg _ (unaffected d.next rfl rfl)
    | gone => exact congrArg _ (unaffected d.nextGone rfl rfl)
    | filled c' accepted =>
      show (changeChannel ring l.channel _).queue channel ++ d.next.owedTo id = _
      rw [queue_changeChannel_of_ne otherChannel, unaffected d.next rfl rfl]

end RingBuffer

namespace Followed

variable {s s' : System} {e : Event} {id channel : Nat}

/-- A step that neither stores nor takes a packet. -/
theorem conserved_of_same (same : s'.owed id channel = s.owed id channel) :
    s.owed id channel ++ [] = [] ++ s'.owed id channel := by
  rw [same, List.append_nil, List.nil_append]

/-- What a step stores comes to what is owed at the end, and what the consumer takes goes at the
front. -/
theorem conserved (h : Followed s id channel) (locks : LocksHeld s) (accounted : Accounted s)
    (step : Step s e s') (stays : e.endsListening channel = false) :
    s.owed id channel ++ e.stored = e.received channel ++ s'.owed id channel := by
  cases step with
  | lock here free =>
    refine conserved_of_same ?_
    simp [System.owed, free, here, Stage.owedInStorage]
  | unlock here held =>
    refine conserved_of_same ?_
    simp [System.owed, held, here, Stage.owedInStorage]
  | clear => exact conserved_of_same rfl
  | extract _ _ taken =>
    obtain rfl := congrArg Prod.snd taken
    exact conserved_of_same rfl
  | @listen t other name policy _ =>
    have queue := s.ring.queue_register other name policy channel
    exact conserved_of_same (System.owed_elsewhere queue)
  | unlistenUnknown _ unknown =>
    rw [RingBuffer.unregister_false unknown]
    exact conserved_of_same rfl
  | unlisten here found =>
    obtain ⟨_, _, rfl⟩ := RingBuffer.unregister_true found
    exact conserved_of_same (System.owed_move rfl here rfl rfl)
  | settle here free =>
    have storage := System.owedBy_placed here
      (show Stage.owedInStorage id .settling = _ from rfl) s.storage
    refine conserved_of_same ?_
    simp [System.owed, storage, free, Stage.owedInDelivery]
  | @settled t here =>
    have held := locks.delivery t (by rw [here]; rfl)
    have storage := System.owedBy_placed here
      (show Stage.owedInStorage id .idle = _ from rfl) s.storage
    refine conserved_of_same ?_
    simp [System.owed, storage, held, here, Stage.owedInDelivery]
  | add here => exact conserved_of_same (System.owed_move rfl here rfl rfl)
  | @enter t p here free =>
    have delivery := System.owedBy_placed here
      (show Stage.owedInDelivery id (.storing p) = _ from rfl) s.delivery
    refine conserved_of_same ?_
    simp [System.owed, delivery, free, Stage.owedInStorage]
  | @store t p here =>
    -- the packet comes last because the storage lock comes last in `owed`
    have held := locks.storage t (by rw [here]; rfl)
    have queue : (s.ring.keep p).2.queue channel = s.ring.queue channel := rfl
    have delivery := System.owedBy_placed here
      (show Stage.owedInDelivery id (.stored p) = _ from rfl) s.delivery
    simp [System.owed, delivery, held, here, queue, Stage.owedInStorage, Event.stored,
      Event.received]
  | @lookUp t p here =>
    -- the only place where it matters that the listener is still registered
    have owed : (s.ring.snapshot p).owedTo id = [p] := if_pos h.inForce.registered
    exact conserved_of_same (System.owed_move rfl here rfl owed)
  | @lockDelivery t d here free =>
    -- what was owed under the storage lock is now owed under the delivery lock, and nothing was
    -- owed there before
    have held := locks.storage t (by rw [here]; rfl)
    refine conserved_of_same ?_
    simp [System.owed, held, free, here, Stage.owedInStorage, Stage.owedInDelivery]
  | @unlockStorage t d here =>
    have held := locks.storage t (by rw [here]; rfl)
    have delivery := System.owedBy_placed here
      (show Stage.owedInDelivery id (.delivering d) = _ from rfl) s.delivery
    refine conserved_of_same ?_
    simp [System.owed, delivery, held, here, Stage.owedInStorage]
  | @serve t d later ring filled here step =>
    have held := locks.delivery t (by rw [here]; rfl)
    have nodup := (accounted.stages t).nodup
    rw [here] at nodup
    have moved := RingBuffer.queue_owedTo_serveStep h.inForce nodup step
    have storage := System.owedBy_placed here
      (show Stage.owedInStorage id (.delivering later) = _ from rfl) s.storage
    refine conserved_of_same ?_
    simp [System.owed, storage, held, here, moved, Stage.owedInDelivery]
  | timeOut here waited =>
    rw [RingBuffer.timeOut_eq waited]
    exact conserved_of_same (System.owed_move rfl here rfl rfl)
  | @unlockDelivery t d here done =>
    have held := locks.delivery t (by rw [here]; rfl)
    have nothing : d.owedTo id = [] := if_neg (by rw [done]; exact List.not_mem_nil)
    have storage := System.owedBy_placed here
      (show Stage.owedInStorage id (.leaving d.gone) = _ from rfl) s.storage
    refine conserved_of_same ?_
    simp [System.owed, storage, held, here, nothing, Stage.owedInDelivery]
  | prune here _ => exact conserved_of_same (System.owed_move rfl here rfl rfl)
  | leave here => exact conserved_of_same (System.owed_move rfl here rfl rfl)
  | @openChannel capacity =>
    exact conserved_of_same (System.owed_elsewhere (s.ring.queue_openChannel capacity channel))
  | @receive other p ring taken =>
    by_cases same : other = channel
    · subst same
      simp [System.owed, RingBuffer.queue_receive taken, Event.stored, Event.received]
    · obtain ⟨c, rest, _, _, rfl⟩ := RingBuffer.receive_eq taken
      have nothing : (Event.receive other p).received channel = [] := if_neg same
      rw [nothing]
      exact conserved_of_same (System.owed_elsewhere (RingBuffer.queue_changeChannel_of_ne same))
  | await =>
    refine conserved_of_same (System.owed_elsewhere ?_)
    exact RingBuffer.queue_changeChannel_of_same fun _ => rfl
  | @hangUp other =>
    have ne : other ≠ channel := by simpa [Event.endsListening] using stays
    exact conserved_of_same (System.owed_elsewhere (RingBuffer.queue_changeChannel_of_ne ne))

/-- What was stored in a run is what the consumer took and what it is still owed. -/
theorem conserved_run {es : List Event} (h : Followed s id channel) (locks : LocksHeld s)
    (accounted : Accounted s) (run : Run s es s')
    (stays : ∀ e, e ∈ es → e.endsListening channel = false) :
    s.owed id channel ++ storedIn es = receivedIn channel es ++ s'.owed id channel := by
  induction run with
  | nil => exact List.append_nil _
  | @cons s middle s'' e es step _ ih =>
    have now := stays e List.mem_cons_self
    have first := h.conserved locks accounted step now
    have rest := ih (h.step step now) (locks.step step) (accounted.step step)
      fun e later => stays e (List.mem_cons_of_mem _ later)
    calc s.owed id channel ++ (e.stored ++ storedIn es)
        = e.received channel ++ (middle.owed id channel ++ storedIn es) := by
          rw [← List.append_assoc, first, List.append_assoc]
      _ = e.received channel ++ (receivedIn channel es ++ s''.owed id channel) := by rw [rest]
      _ = receivedIn channel (e :: es) ++ s''.owed id channel := (List.append_assoc ..).symm

end Followed

def AllReturned : List Event → Prop
  | [] => True
  | .store t _ :: es => .leave t ∈ es ∧ AllReturned es
  | _ :: es => AllReturned es

theorem AllReturned.leave_mem {front back : List Event} {t : Nat} {p : Packet}
    (h : AllReturned (front ++ .store t p :: back)) : .leave t ∈ back := by
  induction front with
  | nil => exact h.1
  | cons e front ih =>
    cases e with
    | store u q => exact ih h.2
    | _ => exact ih h

theorem AllReturned.of_nothing {es : List Event} (nothing : storedIn es = []) :
    AllReturned es := by
  induction es with
  | nil => trivial
  | cons e es ih =>
    have rest := ih (List.append_eq_nil_iff.mp nothing).2
    cases e with
    | store t p => cases nothing
    | _ => exact rest

/-! ## Calls that have not returned -/

namespace Stage

/-- A call that is here is still to serve the listener. -/
def owes (id : Nat) : Stage → Bool
  | stored _ => true
  | addressed d | handing d | delivering d => id ∈ d.pending
  | _ => false

theorem owedTo_of_not_owes {d : Delivery} {id : Nat} (nothing : decide (id ∈ d.pending) = false) :
    d.owedTo id = [] := if_neg (of_decide_eq_false nothing)

theorem owedInStorage_of_not_owes {stage : Stage} {id : Nat} (nothing : stage.owes id = false) :
    stage.owedInStorage id = [] := by
  cases stage with
  | stored p => cases nothing
  | addressed d => exact owedTo_of_not_owes nothing
  | _ => rfl

theorem owedInDelivery_of_not_owes {stage : Stage} {id : Nat} (nothing : stage.owes id = false) :
    stage.owedInDelivery id = [] := by
  cases stage with
  | handing d => exact owedTo_of_not_owes nothing
  | delivering d => exact owedTo_of_not_owes nothing
  | _ => rfl

end Stage

/-- If no call owes the listener a packet, everything on its way is in the channel. -/
theorem System.owed_of_nobody {s : System} {id : Nat} (nobody : ∀ t, (s.stage t).owes id = false)
    (channel : Nat) : s.owed id channel = s.ring.queue channel := by
  have delivery : owedBy (Stage.owedInDelivery id) s.stage s.delivery = [] := by
    cases s.delivery with
    | none => rfl
    | some t => exact Stage.owedInDelivery_of_not_owes (nobody t)
  have storage : owedBy (Stage.owedInStorage id) s.stage s.storage = [] := by
    cases s.storage with
    | none => rfl
    | some t => exact Stage.owedInStorage_of_not_owes (nobody t)
  rw [owed, delivery, storage, List.append_nil, List.append_nil]

theorem owes_placed {stages : Nat → Stage} {id t u : Nat} {stage : Stage}
    (still : stage.owes id = true → (stages t).owes id = true)
    (owes : (placed stages t stage u).owes id = true) : (stages u).owes id = true := by
  by_cases same : u = t
  · subst same
    rw [placed_self] at owes
    exact still owes
  · rwa [placed_of_ne same] at owes

/-- Only storing a packet makes a call owe it, and a call that returns owes nothing. -/
theorem Step.owes {s s' : System} {e : Event} {id u : Nat} (step : Step s e s')
    (owes : (s'.stage u).owes id = true) :
    (s.stage u).owes id = true ∧ e ≠ .leave u ∨ ∃ p, e = .store u p := by
  cases step with
  | @store t p here =>
    by_cases same : u = t
    · exact .inr ⟨p, by rw [same]⟩
    · rw [System.move_stage, placed_of_ne same] at owes
      exact .inl ⟨owes, nofun⟩
  | @leave t here =>
    by_cases same : u = t
    · rw [same, System.move_stage, placed_self] at owes
      cases owes
    · rw [System.move_stage, placed_of_ne same] at owes
      exact .inl ⟨owes, fun equal => same (Event.leave.inj equal).symm⟩
  | lookUp here => exact .inl ⟨owes_placed (fun _ => by rw [here]; rfl) owes, nofun⟩
  | lockDelivery here | unlockStorage here =>
    exact .inl ⟨owes_placed (fun still => by rw [here]; exact still) owes, nofun⟩
  | timeOut here waited =>
    rw [RingBuffer.timeOut_eq waited] at owes
    exact .inl ⟨owes_placed (fun still => by rw [here]; exact still) owes, nofun⟩
  | serve here step =>
    refine .inl ⟨owes_placed (fun still => ?_) owes, nofun⟩
    obtain ⟨_, _, _, _, _, _, _, case⟩ := RingBuffer.serveStep_cases step
    rw [here]
    exact decide_eq_true (case.pending_sublist.subset (of_decide_eq_true still))
  | unlisten | settle | settled | add | enter | unlockDelivery | prune =>
    exact .inl ⟨owes_placed Bool.noConfusion owes, nofun⟩
  | lock | unlock | extract | clear | listen | unlistenUnknown | openChannel | receive | await
    | hangUp => exact .inl ⟨owes, nofun⟩

/-- A call that owes a packet stored one and has not returned since. -/
theorem Run.owes {s s' : System} {es : List Event} {id u : Nat} (run : Run s es s')
    (owes : (s'.stage u).owes id = true) :
    (s.stage u).owes id = true ∧ .leave u ∉ es ∨
      ∃ front p back, es = front ++ .store u p :: back ∧ .leave u ∉ back := by
  induction run with
  | nil => exact .inl ⟨owes, List.not_mem_nil⟩
  | @cons s middle s'' e es step _ ih =>
    rcases ih owes with ⟨before, stays⟩ | ⟨front, p, back, rfl, stays⟩
    · rcases step.owes before with ⟨earlier, other⟩ | ⟨p, rfl⟩
      · refine .inl ⟨earlier, fun returned => ?_⟩
        rcases List.mem_cons.mp returned with now | later
        · exact other now.symm
        · exact stays later
      · exact .inr ⟨[], p, es, rfl, stays⟩
    · exact .inr ⟨e :: front, p, back, rfl, stays⟩

/-- When all calls that stored a packet have returned, nobody owes one. -/
theorem Run.nobody_owes {s s' : System} {es : List Event} {id : Nat} (run : Run s es s')
    (nobody : ∀ t, (s.stage t).owes id = false) (returned : AllReturned es) (t : Nat) :
    (s'.stage t).owes id = false := by
  cases owes : (s'.stage t).owes id with
  | false => rfl
  | true =>
    rcases run.owes owes with ⟨before, _⟩ | ⟨front, p, back, split, stays⟩
    · rw [nobody t] at before
      cases before
    · rw [split] at returned
      exact absurd returned.leave_mem stays

namespace Followed

variable {s s' : System} {es : List Event} {id channel : Nat}

/-- If nothing was on its way at first, what was received and what waits in the channel is the
beginning of what was stored since. -/
theorem received (h : Followed s id channel) (locks : LocksHeld s) (accounted : Accounted s)
    (run : Run s es s') (stays : ∀ e, e ∈ es → e.endsListening channel = false)
    (empty : s.owed id channel = []) :
    receivedIn channel es ++ s'.ring.queue channel <+: storedIn es := by
  have balance := h.conserved_run locks accounted run stays
  rw [empty, List.nil_append] at balance
  rw [balance, System.owed, List.append_assoc _ _ (System.owedBy _ _ s'.storage)]
  exact (List.prefix_append_right_inj _).mpr (List.prefix_append _ _)

/-- It is all of it if no call owes a packet any more. -/
theorem received_all (h : Followed s id channel) (locks : LocksHeld s) (accounted : Accounted s)
    (run : Run s es s') (stays : ∀ e, e ∈ es → e.endsListening channel = false)
    (empty : s.owed id channel = []) (nobody : ∀ t, (s'.stage t).owes id = false) :
    receivedIn channel es ++ s'.ring.queue channel = storedIn es := by
  have balance := h.conserved_run locks accounted run stays
  rw [empty, List.nil_append, System.owed_of_nobody nobody] at balance
  exact balance.symm

end Followed

end Footage
