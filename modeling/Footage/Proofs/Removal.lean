import Footage.Proofs.FillOrder

/-!
# Removal is final

Taking a channel off the registry marks its listener as removed, and returns only after it has had
the delivery lock. At that moment no delivery is under way, so from then on every delivery that
comes to the listener has not touched it yet, and passes it over (`Spares`). What still fills the
channel is therefore a listener that was registered since (`Run.origin`), and a call of `add` that
looked it up (`Run.lookedUp`).
-/

namespace Footage

/-! ## Deliveries that pass removed listeners over -/

/-- A delivery that has not begun has not touched anybody, and one that is under way has not touched
the listener that is its turn, if that is one of those meant. -/
def Stage.Spares (meant : Nat → Prop) : Stage → Prop
  | addressed d | handing d => d.progress = .untouched
  | delivering d => ∀ id rest, d.pending = id :: rest → meant id → d.progress = .untouched
  | _ => True

namespace RingBuffer

variable {ring : RingBuffer} {d : Delivery} {served : Served} {id : Nat} {rest : List Nat}

/-- A removed listener that is untouched is passed over. -/
theorem serveStep_removed {channel : Nat} {policy : FullPolicy}
    (removed : ring.standing id = some (channel, policy, true)) (pending : d.pending = id :: rest)
    (untouched : d.progress = .untouched) (step : ring.serveStep d = some served) :
    served = { ring, delivery := d.next } := by
  obtain ⟨first, others, l, c, pending', known, opened, _⟩ := serveStep_cases step
  obtain rfl : first = id := (List.cons.inj (pending'.symm.trans pending)).1
  have isRemoved : l.isRemoved = true := by
    have same := (standing_of_listener known).symm.trans removed
    exact (Prod.mk.inj (Prod.mk.inj (Option.some.inj same)).2).2
  simp only [serveStep, pending, List.head?_cons, Option.bind_eq_bind, Option.bind_some, known,
    opened, untouched, isRemoved, if_true, Option.some.injEq] at step
  exact step.symm

/-- Producers are only said to have waited when they do wait. -/
theorem timeOut_progress {later : Delivery} (h : ring.timeOut d = some later) :
    d.progress = .waiting := by
  unfold timeOut at h
  obtain ⟨id, _, h⟩ := Option.bind_eq_some_iff.mp h
  obtain ⟨l, _, h⟩ := Option.bind_eq_some_iff.mp h
  obtain ⟨c, _, h⟩ := Option.bind_eq_some_iff.mp h
  split at h
  next waiting _ => exact waiting
  next => cases h

/-- A step goes on to the next listener, of whom nothing is touched, or stays with one who is not
passed over. -/
theorem spares_serveStep {meant : Nat → Prop}
    (removed : ∀ id, meant id → ∃ channel policy, ring.standing id = some (channel, policy, true))
    (spares : (Stage.delivering d).Spares meant) (step : ring.serveStep d = some served) :
    (Stage.delivering served.delivery).Spares meant := by
  obtain ⟨first, others, l, c, pending, known, opened, case⟩ := serveStep_cases step
  have stays (progress : Progress) (same : served.delivery = { d with progress }) :
      (Stage.delivering served.delivery).Spares meant := by
    intro id rest pending' isMeant
    have pending' : d.pending = id :: rest := by rw [same] at pending'; exact pending'
    obtain ⟨channel, policy, standing⟩ := removed id isMeant
    have passed := serveStep_removed standing pending' (spares id rest pending' isMeant) step
    rw [passed]
    rfl
  cases case with
  | skipped | filled | missed | gone => exact fun _ _ _ _ => rfl
  | advanced progress => exact stays progress rfl
  | stalled => exact stays .waiting rfl

end RingBuffer

/-- Removed listeners are passed over by deliveries that pass them over now. -/
theorem Step.spares {s s' : System} {e : Event} {meant : Nat → Prop} (step : Step s e s')
    (removed : ∀ id, meant id → ∃ channel policy,
      s.ring.standing id = some (channel, policy, true))
    (h : ∀ u, (s.stage u).Spares meant) (u : Nat) : (s'.stage u).Spares meant := by
  cases step with
  | lock | unlock | extract | clear | listen | unlistenUnknown | openChannel | receive | await
    | hangUp => exact h u
  | unlisten | settle | settled | add | enter | store | unlockDelivery | prune | leave =>
    refine forall_placed (·.Spares meant) ?_ h _ u
    trivial
  | lookUp =>
    refine forall_placed (·.Spares meant) ?_ h _ u
    rfl
  | @lockDelivery t d here _ =>
    have before := h t
    rw [here] at before
    refine forall_placed (·.Spares meant) ?_ h _ u
    exact before
  | @unlockStorage t d here =>
    have before := h t
    rw [here] at before
    refine forall_placed (·.Spares meant) ?_ h _ u
    exact fun _ _ _ _ => before
  | @serve t d later ring filled here step =>
    have before := h t
    rw [here] at before
    refine forall_placed (·.Spares meant) ?_ h _ u
    exact RingBuffer.spares_serveStep removed before step
  | @timeOut t d later here waited =>
    have before := h t
    rw [here] at before
    refine forall_placed (·.Spares meant) ?_ h _ u
    intro id rest pending isMeant
    rw [RingBuffer.timeOut_eq waited] at pending
    have untouched := before id rest pending isMeant
    rw [RingBuffer.timeOut_progress waited] at untouched
    cases untouched

theorem Run.spares {s s' : System} {es : List Event} {meant : Nat → Prop} (run : Run s es s')
    (removed : ∀ id, meant id → ∃ channel policy,
      s.ring.standing id = some (channel, policy, true))
    (h : ∀ u, (s.stage u).Spares meant) (u : Nat) : (s'.stage u).Spares meant := by
  induction run generalizing u with
  | nil => exact h u
  | cons step _ ih =>
    refine ih (fun id isMeant => ?_) (step.spares removed h) u
    obtain ⟨channel, policy, standing⟩ := removed id isMeant
    exact ⟨channel, policy, step.remembers.removed standing⟩

/-- As long as nobody delivers, whoever is meant is passed over. -/
theorem spares_of_settling {s : System} {t : Nat} {meant : Nat → Prop} (locks : LocksHeld s)
    (here : s.stage t = .settling) (h : ∀ u, (s.stage u).Spares fun _ => False) (u : Nat) :
    (s.stage u).Spares meant := by
  have other := h u
  cases there : s.stage u with
  | delivering d =>
    have same := locks.delivery_exclusive (show (s.stage u).holdsDelivery = true by rw [there]; rfl)
      (show (s.stage t).holdsDelivery = true by rw [here]; rfl)
    rw [same, here] at there
    cases there
  | addressed | handing =>
    rw [there] at other
    exact other
  | _ => trivial

theorem spares_nobody {budget : Nat} {s : System} (h : Reachable budget s) (u : Nat) :
    (s.stage u).Spares fun _ => False :=
  let ⟨_, run⟩ := h
  run.spares (fun _ => False.elim) (fun _ => trivial) u

/-- Who is passed over does not get the packet. -/
theorem Step.fill_not_meant {s s' : System} {u channel : Nat} {p : Packet} {meant : Nat → Prop}
    (step : Step s (.serve u (some (channel, p))) s')
    (removed : ∀ id, meant id → ∃ channel policy,
      s.ring.standing id = some (channel, policy, true))
    (h : (s.stage u).Spares meant) :
    ∃ id, ¬ meant id ∧ id ∈ (s.stage u).pending ∧ s.ring.channelOf id = some channel := by
  cases step with
  | serve here step =>
    rw [here] at h ⊢
    obtain ⟨id, rest, pending, owns, _, _⟩ := RingBuffer.fill_of_serveStep step rfl
    refine ⟨id, fun isMeant => ?_, ?_, owns⟩
    · obtain ⟨_, _, standing⟩ := removed id isMeant
      cases RingBuffer.serveStep_removed standing pending (h id rest pending isMeant) step
    · show id ∈ Delivery.pending _
      rw [pending]
      exact List.mem_cons_self

/-- A channel whose consumer is gone is not filled. -/
theorem Step.not_isHungUp {s s' : System} {u channel : Nat} {p : Packet}
    (step : Step s (.serve u (some (channel, p))) s') : ¬ s.ring.IsHungUp channel := by
  rintro ⟨c, opened, gone⟩
  obtain ⟨c', _, change⟩ := step.channel opened
  have filled : (Event.serve u (some (channel, p))).filled channel = [p] := if_pos rfl
  cases change with
  | same _ nothing | received _ _ nothing | awaited _ nothing => cases filled.symm.trans nothing
  | filled accepted => simp [Channel.offer, gone] at accepted
  | hungUp is => cases is

/-! ## Where listeners and deliveries come from -/

/-- Looking up the listeners is what makes them pending. -/
theorem Step.pending {s s' : System} {e : Event} {id u : Nat} (step : Step s e s')
    (mentioned : id ∈ (s'.stage u).pending) :
    id ∈ (s.stage u).pending ∧ e ≠ .lookUp u ∨ e = .lookUp u ∧ id ∈ s.ring.registry := by
  have within {t : Nat} {stage : Stage} (mentioned : id ∈ (placed s.stage t stage u).pending)
      (fewer : stage.pending.Sublist (s.stage t).pending) : id ∈ (s.stage u).pending := by
    by_cases same : u = t
    · subst same
      rw [placed_self] at mentioned
      exact fewer.subset mentioned
    · rwa [placed_of_ne same] at mentioned
  cases step with
  | lock | unlock | extract | clear | listen | unlistenUnknown | openChannel | receive | await
    | hangUp => exact .inl ⟨mentioned, nofun⟩
  | unlisten | settle | settled | add | enter | store | unlockDelivery | prune | leave =>
    exact .inl ⟨within mentioned (List.nil_sublist _), nofun⟩
  | @lookUp t p here =>
    by_cases same : u = t
    · subst same
      rw [System.move_stage, placed_self] at mentioned
      exact .inr ⟨rfl, mentioned⟩
    · rw [System.move_stage, placed_of_ne same] at mentioned
      exact .inl ⟨mentioned, fun is => same (Event.lookUp.inj is).symm⟩
  | lockDelivery here | unlockStorage here =>
    exact .inl ⟨within mentioned (by rw [here]; exact .refl _), nofun⟩
  | serve here step =>
    obtain ⟨_, _, _, _, _, _, _, case⟩ := RingBuffer.serveStep_cases step
    exact .inl ⟨within mentioned (by rw [here]; exact case.pending_sublist), nofun⟩
  | timeOut here waited =>
    rw [RingBuffer.timeOut_eq waited] at mentioned
    exact .inl ⟨within mentioned (by rw [here]; exact .refl _), nofun⟩

/-- Whoever is pending was so at first, or was registered when the call looked. -/
theorem Run.lookedUp {s s' : System} {es : List Event} {id u : Nat} (run : Run s es s')
    (mentioned : id ∈ (s'.stage u).pending) :
    id ∈ (s.stage u).pending ∧ .lookUp u ∉ es ∨
      ∃ front back m, es = front ++ .lookUp u :: back ∧ .lookUp u ∉ back ∧ Run s front m ∧
        id ∈ m.ring.registry ∧ Run m (.lookUp u :: back) s' := by
  induction run with
  | nil => exact .inl ⟨mentioned, List.not_mem_nil⟩
  | @cons s middle s'' e es step run ih =>
    rcases ih mentioned with ⟨before, none⟩ | ⟨front, back, m, rfl, last, early, registered, rest⟩
    · rcases step.pending before with ⟨earlier, other⟩ | ⟨rfl, registered⟩
      · refine .inl ⟨earlier, fun looks => ?_⟩
        rcases List.mem_cons.mp looks with now | later
        · exact other now.symm
        · exact none later
      · exact .inr ⟨[], es, s, rfl, none, .nil, registered, .cons step run⟩
    · exact .inr ⟨e :: front, back, m, rfl, last, .cons step early, registered, rest⟩

/-- A listener that was not there at first was registered since, when its channel had no other. -/
theorem Run.origin {s s' : System} {es : List Event} {id channel : Nat} (run : Run s es s')
    (unknown : s.ring.listeners.length ≤ id) (owns : s'.ring.channelOf id = some channel) :
    ∃ front back t name policy m, es = front ++ .listen t channel name policy :: back ∧
      Run s front m ∧ m.ring.listenerOf? channel = none := by
  induction run with
  | nil => exact absurd (RingBuffer.lt_of_channelOf owns) (Nat.not_lt.mpr unknown)
  | @cons s middle s'' e es step run ih =>
    by_cases still : middle.ring.listeners.length ≤ id
    · obtain ⟨front, back, t, name, policy, m, rfl, early, unowned⟩ := ih still owns
      exact ⟨e :: front, back, t, name, policy, m, rfl, .cons step early, unowned⟩
    · have owns := (run.remembers.channelOf_eq (Nat.not_le.mp still)).symm.trans owns
      obtain ⟨t, name, policy, rfl, unowned, _⟩ := step.newest unknown owns
      exact ⟨[], es, t, name, policy, s, rfl, .nil, unowned⟩

/-! ## After a removal -/

/-- A channel without a listener gets none unless it is registered. -/
theorem Step.unowned {s s' : System} {e : Event} {channel : Nat} (step : Step s e s')
    (unowned : s.ring.listenerOf? channel = none)
    (other : ∀ t name policy, e ≠ .listen t channel name policy) :
    s'.ring.listenerOf? channel = none := by
  refine RingBuffer.listenerOf?_eq_none_iff.mpr fun id registered owns => ?_
  by_cases old : id < s.ring.listeners.length
  · have before := (Run.cons step .nil).registered old registered
    exact RingBuffer.listenerOf?_eq_none_iff.mp unowned id before
      ((step.remembers.channelOf_eq old).symm.trans owns)
  · obtain ⟨t, name, policy, is, _⟩ := step.newest (Nat.not_lt.mp old) owns
    exact other t name policy is

theorem Run.unowned {s s' : System} {es : List Event} {channel : Nat} (run : Run s es s')
    (unowned : s.ring.listenerOf? channel = none)
    (other : ∀ t name policy, .listen t channel name policy ∉ es) :
    s'.ring.listenerOf? channel = none := by
  induction run with
  | nil => exact unowned
  | cons step _ ih =>
    refine ih (step.unowned unowned fun t name policy is => ?_) fun t name policy is => ?_
    · exact other t name policy (is ▸ List.mem_cons_self)
    · exact other t name policy (List.mem_cons_of_mem _ is)

/-- A listener of a channel that has none in force is marked as removed, unless the consumer is
gone. -/
theorem WellRegistered.removed_of_unowned {s : System} {channel id : Nat} (h : WellRegistered s)
    (unowned : s.ring.listenerOf? channel = none) (present : ¬ s.ring.IsHungUp channel)
    (owns : s.ring.channelOf id = some channel) :
    ∃ policy, s.ring.standing id = some (channel, policy, true) := by
  obtain ⟨⟨own, policy, removed⟩, standing, rfl⟩ := Option.map_eq_some_iff.mp owns
  cases removed with
  | true => exact ⟨policy, standing⟩
  | false =>
    have out := fun registered => RingBuffer.listenerOf?_eq_none_iff.mp unowned id registered owns
    exact absurd (h.ring.left standing out) present

/-- A step of a removal that has had the delivery lock. -/
theorem Step.settling {s s' : System} {t : Nat} (step : Step s (.settled t) s') :
    s.stage t = .settling := by
  cases step with
  | settled here => exact here

/-- What fills the channel after the call has returned was looked up after a new registration. -/
theorem registered_since {budget t channel u : Nat} {p : Packet} {s₀ s₁ s s' : System}
    {waiting mid : List Event} (reachable : Reachable budget s₀)
    (removed : Step s₀ (.unlisten t channel true) s₁)
    (run : Run s₁ (waiting ++ .settled t :: mid) s)
    (fill : Step s (.serve u (some (channel, p))) s') :
    ∃ a t' name policy b c m, waiting ++ .settled t :: mid =
        a ++ .listen t' channel name policy :: (b ++ .lookUp u :: c) ∧
      .lookUp u ∉ c ∧ Run s₁ a m ∧ m.ring.listenerOf? channel = none := by
  have reachable₁ := reachable.step removed
  have accounted := reachable₁.accounted
  have unowned := reachable.wellRegistered.unowned_of_unlisten removed
  have present : ¬ s₁.ring.IsHungUp channel := fun gone =>
    fill.not_isHungUp (run.remembers.hungUp gone)
  -- those listeners that the channel has had so far are passed over once the call has returned
  have marked {es : List Event} {later : System} (since : Run s₁ es later) (id : Nat)
      (owns : s₁.ring.channelOf id = some channel) :
      ∃ channel policy, later.ring.standing id = some (channel, policy, true) := by
    obtain ⟨policy, standing⟩ :=
      reachable₁.wellRegistered.removed_of_unowned unowned present owns
    exact ⟨channel, policy, since.remembers.removed standing⟩
  obtain ⟨m₁, m₂, waited, settled, after⟩ := run.split_at
  have settling (v : Nat) : (m₁.stage v).Spares (s₁.ring.channelOf · = some channel) :=
    spares_of_settling (reachable₁.run waited).locksHeld settled.settling
      (spares_nobody (reachable₁.run waited)) v
  have spared := after.spares (marked (waited.append (.cons settled .nil)))
    (settled.spares (marked waited) settling)
  -- so the one that gets the packet is new
  obtain ⟨id, isNew, mentioned, owns⟩ := fill.fill_not_meant (marked run) (spared u)
  have unknown : s₁.ring.listeners.length ≤ id :=
    Nat.le_of_not_lt fun known => isNew ((run.remembers.channelOf_eq known).symm.trans owns)
  rcases run.lookedUp mentioned with
    ⟨before, _⟩ | ⟨front, c, m, split, last, early, registered, rest⟩
  · exact absurd (accounted.stages u |>.pending id before) (Nat.not_lt.mpr unknown)
  · have known := (reachable₁.run early).accounted.ring.known id registered
    have owns' := (rest.remembers.channelOf_eq known).symm.trans owns
    obtain ⟨a, b, t', name, policy, m', rfl, first, free⟩ := early.origin unknown owns'
    refine ⟨a, t', name, policy, b, c, m', ?_, last, first, free⟩
    rw [split, List.append_assoc]
    rfl

theorem exists_fill_of_filledIn {channel : Nat} {es : List Event}
    (filled : filledIn channel es ≠ []) :
    ∃ front u p back, es = front ++ .serve u (some (channel, p)) :: back := by
  induction es with
  | nil => exact absurd rfl filled
  | cons e es ih =>
    rcases @Event.exists_fill channel e with ⟨_, nothing⟩ | ⟨u, p, rfl, _⟩
    · have rest : filledIn channel (e :: es) = [] ++ filledIn channel es :=
        congrArg (· ++ _) nothing
      obtain ⟨front, u, p, back, rfl⟩ := ih fun none => filled (rest.trans none)
      exact ⟨e :: front, u, p, back, rfl⟩
    · exact ⟨[], u, p, es, rfl⟩

/-- Taking a channel off the registry is final. Once the call has returned, a packet comes into the
channel only if the channel was registered again, and then only if the call of `add` looked up the
listeners after that. If it was not, no packet comes into it any more, and taking it off the
registry once more answers that it was not on it, and changes nothing. -/
theorem removal_final {budget t channel : Nat} {s₀ s₁ s : System} {es : List Event}
    (reachable : Reachable budget s₀) (removed : Step s₀ (.unlisten t channel true) s₁)
    (run : Run s₁ es s) :
    (∀ waiting mid u p rest,
      es = waiting ++ .settled t :: mid ++ .serve u (some (channel, p)) :: rest →
      ∃ a t' name policy b c m, waiting ++ .settled t :: mid =
          a ++ .listen t' channel name policy :: (b ++ .lookUp u :: c) ∧
        .lookUp u ∉ c ∧ Run s₁ a m ∧ m.ring.listenerOf? channel = none) ∧
    ((∀ u name policy, .listen u channel name policy ∉ es) →
      (∀ waiting back, es = waiting ++ .settled t :: back → filledIn channel back = []) ∧
      (∀ u found s', Step s (.unlisten u channel found) s' → found = false ∧ s' = s) ∧
      ∀ u, s.stage u = .idle → Step s (.unlisten u channel false) s) := by
  have first (waiting mid : List Event) (u : Nat) (p : Packet) (rest : List Event)
      (split : es = waiting ++ .settled t :: mid ++ .serve u (some (channel, p)) :: rest) :
      ∃ a t' name policy b c m, waiting ++ .settled t :: mid =
          a ++ .listen t' channel name policy :: (b ++ .lookUp u :: c) ∧
        .lookUp u ∉ c ∧ Run s₁ a m ∧ m.ring.listenerOf? channel = none := by
    rw [split] at run
    obtain ⟨m, m', before, fill, _⟩ := run.split_at
    exact registered_since reachable removed before fill
  refine ⟨first, fun unregistered => ?_⟩
  have unowned := run.unowned (reachable.wellRegistered.unowned_of_unlisten removed) unregistered
  refine ⟨fun waiting back split => ?_, fun u found s' again => ?_, fun u idle => ?_⟩
  · cases filled : filledIn channel back with
    | nil => rfl
    | cons p _ =>
      obtain ⟨mid, u, p, rest, rfl⟩ := exists_fill_of_filledIn (filled ▸ List.cons_ne_nil _ _)
      have regrouped : es = waiting ++ .settled t :: mid ++ .serve u (some (channel, p)) :: rest :=
        split.trans (List.append_assoc waiting (.settled t :: mid) _).symm
      obtain ⟨a, t', name, policy, b, c, _, again, _⟩ := first waiting mid u p rest regrouped
      refine absurd ?_ (unregistered t' name policy)
      rw [regrouped, again]
      exact List.mem_append_left _ (List.mem_append_right _ List.mem_cons_self)
  · cases again with
    | unlisten _ found =>
      obtain ⟨id, owner, _⟩ := RingBuffer.unregister_true found
      rw [unowned] at owner
      cases owner
    | unlistenUnknown _ unknown => exact ⟨rfl, by rw [RingBuffer.unregister_false unknown]⟩
  · refine .unlistenUnknown idle ?_
    rw [RingBuffer.unregister, unowned]

/-- A channel that has room for one packet is registered and filled, and the next call of `add`
waits for room. -/
def stallingEvents : List Event :=
  [.openChannel 1, .listen 0 0 "viewer" .stall,
    .add 1 smallPacket, .enter 1, .store 1 smallPacket, .lookUp 1, .lockDelivery 1,
    .unlockStorage 1, .serve 1 none, .serve 1 none, .serve 1 (some (0, smallPacket)),
    .unlockDelivery 1, .leave 1,
    .add 1 smallPacket, .enter 1, .store 1 smallPacket, .lookUp 1, .lockDelivery 1,
    .unlockStorage 1, .serve 1 none, .serve 1 none]

/-- The call that waits gives up, the removal returns, and the consumer registers its channel
again, takes what was in it, and gets the next packet. -/
def returningEvents : List Event :=
  [.serve 1 none, .serve 1 none, .unlockDelivery 1, .leave 1, .settle 0] ++ .settled 0 ::
  [.listen 0 0 "viewer" .stall, .receive 0 smallPacket,
    .add 1 smallPacket, .enter 1, .store 1 smallPacket, .lookUp 1, .lockDelivery 1,
    .unlockStorage 1, .serve 1 none, .serve 1 none] ++ .serve 1 (some (0, smallPacket)) :: []

theorem removal_final_stalled :
    ∃ s₀ s₁ s, Run (.start 64) stallingEvents s₀ ∧ Step s₀ (.unlisten 0 0 true) s₁ ∧
      Run s₁ returningEvents s ∧ ∃ a t' name policy b c,
        a ++ .listen t' 0 name policy :: (b ++ .lookUp 1 :: c) = returningEvents.dropLast ∧
        .lookUp 1 ∉ c := by
  obtain ⟨s₀, s₁, stalled, removed, s, run⟩ :
      ∃ s₀ s₁, Run (.start 64) stallingEvents s₀ ∧ Step s₀ (.unlisten 0 0 true) s₁ ∧
        ∃ s, Run s₁ returningEvents s := by
    refine ⟨_, _, .cons .openChannel (.cons (.listen rfl) (.cons (.add rfl) (.cons (.enter rfl rfl)
      (.cons (.store rfl) (.cons (.lookUp rfl) (.cons (.lockDelivery rfl rfl)
      (.cons (.unlockStorage rfl) (.cons (.serve rfl rfl) (.cons (.serve rfl rfl)
      (.cons (.serve rfl rfl) (.cons (.unlockDelivery rfl rfl) (.cons (.leave rfl)
      (.cons (.add rfl) (.cons (.enter rfl rfl) (.cons (.store rfl) (.cons (.lookUp rfl)
      (.cons (.lockDelivery rfl rfl) (.cons (.unlockStorage rfl) (.cons (.serve rfl rfl)
      (.cons (.serve rfl rfl) .nil)))))))))))))))))))), .unlisten rfl rfl, ?_⟩
    exact ⟨_, .cons (.serve rfl rfl) (.cons (.serve rfl rfl) (.cons (.unlockDelivery rfl rfl)
      (.cons (.leave rfl) (.cons (.settle rfl rfl) (.cons (.settled rfl) (.cons (.listen rfl)
      (.cons (.receive rfl) (.cons (.add rfl) (.cons (.enter rfl rfl) (.cons (.store rfl)
      (.cons (.lookUp rfl) (.cons (.lockDelivery rfl rfl) (.cons (.unlockStorage rfl)
      (.cons (.serve rfl rfl) (.cons (.serve rfl rfl) (.cons (.serve rfl rfl) .nil))))))))))))))))⟩
  obtain ⟨again, _⟩ := removal_final ⟨stallingEvents, stalled⟩ removed run
  obtain ⟨a, t', name, policy, b, c, _, split, last, _⟩ := again _ _ 1 smallPacket [] rfl
  exact ⟨s₀, s₁, s, stalled, removed, run, a, t', name, policy, b, c, split.symm, last⟩

end Footage
