import Footage.Proofs.Followed

/-!
# What one step does to a channel and to the registry

Whatever threads and consumers do, they do little to one channel (`Step.channel`): it gets a packet
at the end, or its consumer takes the oldest one, waits for one, or goes away. The registry grows by
one listener, loses one that is asked off it, or loses those whose consumers are gone
(`Step.registry`). Listeners are never forgotten, and neither is a consumer that went away
(`Step.remembers`).
-/

namespace Footage

namespace Event

def filled (channel : Nat) : Event → List Packet
  | .serve _ (some (c, p)) => if c = channel then [p] else []
  | _ => []

end Event

def filledIn (channel : Nat) (es : List Event) : List Packet := es.flatMap (Event.filled channel)

namespace RingBuffer

def channelOf (ring : RingBuffer) (id : Nat) : Option Nat := (ring.standing id).map (·.1)

/-- The consumer of a channel was there, and is gone. -/
def IsHungUp (ring : RingBuffer) (channel : Nat) : Prop :=
  ∃ c, ring.channels[channel]? = some c ∧ c.isConnected = false

variable {ring later : RingBuffer}

theorem channelOf_of_standing {id channel : Nat} {policy : FullPolicy} {removed : Bool}
    (standing : ring.standing id = some (channel, policy, removed)) :
    ring.channelOf id = some channel := by
  rw [channelOf, standing]
  rfl

theorem standing_of_listener {id : Nat} {l : Listener} (known : ring.listeners[id]? = some l) :
    ring.standing id = some (l.channel, l.policy, l.isRemoved) := by
  rw [standing, known]
  rfl

theorem exists_standing {id : Nat} (known : id < ring.listeners.length) :
    ∃ channel policy removed, ring.standing id = some (channel, policy, removed) :=
  ⟨_, _, _, standing_of_listener (List.getElem?_eq_getElem known)⟩

theorem lt_of_standing {id channel : Nat} {policy : FullPolicy} {removed : Bool}
    (standing : ring.standing id = some (channel, policy, removed)) :
    id < ring.listeners.length := by
  obtain ⟨l, known, _⟩ := Option.map_eq_some_iff.mp standing
  exact (List.getElem?_eq_some_iff.mp known).1

theorem lt_of_channelOf {id channel : Nat} (owns : ring.channelOf id = some channel) :
    id < ring.listeners.length := by
  obtain ⟨⟨_, _, _⟩, standing, _⟩ := Option.map_eq_some_iff.mp owns
  exact lt_of_standing standing

/-- The registry finds the listener of a channel by who owns it. -/
theorem listenerOf?_eq (ring : RingBuffer) (channel : Nat) :
    ring.listenerOf? channel = ring.registry.find? (ring.channelOf · = some channel) := by
  unfold listenerOf?
  congr 1
  funext id
  simp only [channelOf, standing, Option.map_map]
  rfl

theorem listenerOf?_eq_none_iff {channel : Nat} :
    ring.listenerOf? channel = none ↔ ∀ id ∈ ring.registry, ring.channelOf id ≠ some channel := by
  simp [listenerOf?_eq]

theorem not_isHungUp {channel : Nat} (connected : ring.isConnected channel = true) :
    ¬ ring.IsHungUp channel := by
  rintro ⟨c, opened, gone⟩
  rw [isConnected, opened] at connected
  exact absurd (connected.symm.trans gone) (by decide)

theorem IsFresh.unowned {channel : Nat} (fresh : ring.IsFresh channel) (id : Nat) :
    ring.channelOf id ≠ some channel := by
  intro owns
  obtain ⟨⟨_, policy, removed⟩, standing, rfl⟩ := Option.map_eq_some_iff.mp owns
  obtain ⟨l, known, same⟩ := Option.map_eq_some_iff.mp standing
  exact fresh.unused l (List.mem_of_getElem? known) (Prod.mk.inj same).1

theorem channels_register (ring : RingBuffer) (channel : Nat) (name : String)
    (policy : FullPolicy) : (ring.register channel name policy).channels = ring.channels := by
  rcases ring.register_eq channel name policy with same | ⟨_, grown⟩
  · rw [same]
  · rw [grown]

end RingBuffer

/-! ## Channels -/

/-- What a step can do to the channel `i`. -/
inductive ChannelChange (e : Event) (i : Nat) (c : Channel) : Channel → Prop
  | same : e.received i = [] → e.filled i = [] → ChannelChange e i c c
  | filled {p : Packet} {c' : Channel} : c.offer p = .accepted c' → e.received i = [] →
      e.filled i = [p] → ChannelChange e i c c'
  | received {p : Packet} {rest : List Packet} : c.queue = p :: rest → e.received i = [p] →
      e.filled i = [] → ChannelChange e i c { c with queue := rest, isAwaited := false }
  | awaited : e.received i = [] → e.filled i = [] →
      ChannelChange e i c { c with isAwaited := true }
  | hungUp : e = .hangUp i → ChannelChange e i c c.hangUp

namespace ChannelChange

variable {e : Event} {i : Nat} {c c' : Channel}

theorem capacity (h : ChannelChange e i c c') : c'.capacity = c.capacity := by
  cases h with
  | filled accepted => rw [Channel.offer_accepted accepted]
  | same | received | awaited | hungUp => rfl

/-- A consumer that is gone does not come back. -/
theorem disconnected (h : ChannelChange e i c c') (gone : c.isConnected = false) :
    c'.isConnected = false := by
  cases h with
  | filled accepted => rw [Channel.offer_accepted accepted]; exact gone
  | same | received | awaited => exact gone
  | hungUp => rfl

/-- A consumer is there until it goes away. -/
theorem connected (h : ChannelChange e i c c') (stays : e ≠ .hangUp i) :
    c'.isConnected = c.isConnected := by
  cases h with
  | filled accepted => rw [Channel.offer_accepted accepted]
  | same | received | awaited => rfl
  | hungUp leaves => exact absurd leaves stays

/-- Packets leave at the front and come in at the end. -/
theorem queue (h : ChannelChange e i c c') (stays : e ≠ .hangUp i) :
    e.received i ++ c'.queue = c.queue ++ e.filled i := by
  cases h with
  | same received filled => rw [received, filled, List.append_nil]; rfl
  | filled accepted received filled =>
    rw [received, filled, Channel.offer_accepted accepted]
    rfl
  | received waiting received filled => rw [received, filled, waiting, List.append_nil]; rfl
  | awaited received filled => rw [received, filled, List.append_nil]; rfl
  | hungUp leaves => exact absurd leaves stays

end ChannelChange

namespace RingBuffer

variable {ring : RingBuffer} {i other : Nat} {c : Channel}

theorem changeChannel_known {change : Channel → Channel} (known : ring.channels[i]? = some c) :
    (ring.changeChannel other change).channels[i]? = some (if other = i then change c else c) := by
  rw [changeChannel]
  split
  next same => rw [same, List.getElem?_modify_eq, known]; rfl
  next ne => rw [List.getElem?_modify_ne _ _ ne, known]

theorem channel_serveStep {d : Delivery} {served : Served} (t : Nat)
    (step : ring.serveStep d = some served) (known : ring.channels[i]? = some c) :
    ∃ c', served.ring.channels[i]? = some c' ∧ ChannelChange (.serve t served.filled) i c c' := by
  obtain ⟨id, rest, l, own, _, _, opened, case⟩ := serveStep_cases step
  cases case with
  | skipped | advanced | gone | stalled | missed => exact ⟨c, known, .same rfl rfl⟩
  | filled c' accepted =>
    refine ⟨_, changeChannel_known known, ?_⟩
    by_cases same : l.channel = i
    · subst same
      obtain rfl : own = c := Option.some.inj (opened.symm.trans known)
      rw [if_pos rfl]
      exact .filled accepted rfl (if_pos rfl)
    · rw [if_neg same]
      exact .same rfl (if_neg same)

end RingBuffer

/-- A channel that is there stays there, and changes little. -/
theorem Step.channel {s s' : System} {e : Event} {i : Nat} {c : Channel} (step : Step s e s')
    (known : s.ring.channels[i]? = some c) :
    ∃ c', s'.ring.channels[i]? = some c' ∧ ChannelChange e i c c' := by
  cases step with
  | lock | unlock | clear | settle | settled | add | enter | store | lookUp | lockDelivery
    | unlockStorage | timeOut | unlockDelivery | prune | leave => exact ⟨c, known, .same rfl rfl⟩
  | extract _ _ taken =>
    obtain rfl := congrArg Prod.snd taken
    exact ⟨c, known, .same rfl rfl⟩
  | @listen t channel name policy _ =>
    exact ⟨c, (s.ring.channels_register channel name policy).symm ▸ known, .same rfl rfl⟩
  | unlisten _ found =>
    obtain ⟨_, _, rfl⟩ := RingBuffer.unregister_true found
    exact ⟨c, known, .same rfl rfl⟩
  | unlistenUnknown _ unknown =>
    rw [RingBuffer.unregister_false unknown]
    exact ⟨c, known, .same rfl rfl⟩
  | @serve t d later ring filled _ step => exact RingBuffer.channel_serveStep t step known
  | openChannel =>
    have there := (List.getElem?_eq_some_iff.mp known).1
    exact ⟨c, (List.getElem?_append_left there).trans known, .same rfl rfl⟩
  | @receive channel p ring taken =>
    obtain ⟨own, rest, opened, waiting, rfl⟩ := RingBuffer.receive_eq taken
    refine ⟨_, RingBuffer.changeChannel_known known, ?_⟩
    by_cases same : channel = i
    · subst same
      obtain rfl : own = c := Option.some.inj (opened.symm.trans known)
      rw [if_pos rfl]
      exact .received waiting (if_pos rfl) rfl
    · rw [if_neg same]
      exact .same (if_neg same) rfl
  | @await channel =>
    refine ⟨_, RingBuffer.changeChannel_known known, ?_⟩
    split
    · exact .awaited rfl rfl
    · exact .same rfl rfl
  | @hangUp channel =>
    refine ⟨_, RingBuffer.changeChannel_known known, ?_⟩
    split
    next same => exact .hungUp (same ▸ rfl)
    next => exact .same rfl rfl

/-- A channel that is not there yet is not used, and empty once it is there. -/
theorem Step.unopened {s s' : System} {e : Event} {i : Nat} (step : Step s e s')
    (unknown : s.ring.channels[i]? = none) :
    e.received i = [] ∧ e.filled i = [] ∧ ∀ c, s'.ring.channels[i]? = some c → c.queue = [] := by
  have same {ring : RingBuffer} {c : Channel}
      (length : ring.channels.length = s.ring.channels.length)
      (known : ring.channels[i]? = some c) : c.queue = [] := by
    have there := (List.getElem?_eq_some_iff.mp known).1
    have beyond := List.getElem?_eq_none_iff.mp unknown
    omega
  cases step with
  | lock | unlock | clear | settle | settled | add | enter | store | lookUp | lockDelivery
    | unlockStorage | timeOut | unlockDelivery | prune | leave =>
    exact ⟨rfl, rfl, fun _ => same rfl⟩
  | await | hangUp => exact ⟨rfl, rfl, fun _ => same (List.length_modify ..)⟩
  | extract _ _ taken =>
    obtain rfl := congrArg Prod.snd taken
    exact ⟨rfl, rfl, fun _ => same rfl⟩
  | @listen t channel name policy _ =>
    exact ⟨rfl, rfl, fun _ => same (by rw [s.ring.channels_register channel name policy])⟩
  | unlisten _ found =>
    obtain ⟨_, _, rfl⟩ := RingBuffer.unregister_true found
    exact ⟨rfl, rfl, fun _ => same rfl⟩
  | unlistenUnknown _ unknown =>
    rw [RingBuffer.unregister_false unknown]
    exact ⟨rfl, rfl, fun _ => same rfl⟩
  | @receive channel p ring taken =>
    obtain ⟨c, rest, opened, _, rfl⟩ := RingBuffer.receive_eq taken
    have ne : channel ≠ i := by
      rintro rfl
      rw [unknown] at opened
      cases opened
    exact ⟨if_neg ne, rfl, fun _ => same (List.length_modify ..)⟩
  | @serve t d later ring filled _ step =>
    obtain ⟨_, _, l, c, _, _, opened, case⟩ := RingBuffer.serveStep_cases step
    cases case with
    | skipped | advanced | gone | stalled | missed => exact ⟨rfl, rfl, fun _ => same rfl⟩
    | filled =>
      have ne : l.channel ≠ i := by
        rintro rfl
        rw [unknown] at opened
        cases opened
      exact ⟨rfl, if_neg ne, fun _ => same (List.length_modify ..)⟩
  | openChannel =>
    refine ⟨rfl, rfl, fun c known => ?_⟩
    have known : (s.ring.channels ++ [_])[i]? = some c := known
    rw [List.getElem?_append_right (List.getElem?_eq_none_iff.mp unknown)] at known
    obtain rfl := List.mem_singleton.mp (List.mem_of_getElem? known)
    rfl

/-- Packets leave a channel at the front and come in at the end, until its consumer goes away. -/
theorem Step.queue {s s' : System} {e : Event} {channel : Nat} (step : Step s e s')
    (stays : e ≠ .hangUp channel) :
    e.received channel ++ s'.ring.queue channel = s.ring.queue channel ++ e.filled channel := by
  cases known : s.ring.channels[channel]? with
  | some c =>
    obtain ⟨c', known', change⟩ := step.channel known
    rw [RingBuffer.queue_of_channel known, RingBuffer.queue_of_channel known']
    exact change.queue stays
  | none =>
    obtain ⟨received, filled, opened⟩ := step.unopened known
    have before : s.ring.queue channel = [] := by rw [RingBuffer.queue, known]; rfl
    have after : s'.ring.queue channel = [] := by
      cases known' : s'.ring.channels[channel]? with
      | none => rw [RingBuffer.queue, known']; rfl
      | some c => exact (RingBuffer.queue_of_channel known').trans (opened c known')
    rw [received, filled, before, after]

theorem Step.isConnected {s s' : System} {e : Event} {channel : Nat} (step : Step s e s')
    (connected : s.ring.isConnected channel = true) (stays : e ≠ .hangUp channel) :
    s'.ring.isConnected channel = true := by
  cases known : s.ring.channels[channel]? with
  | none => rw [RingBuffer.isConnected, known] at connected; cases connected
  | some c =>
    obtain ⟨c', known', change⟩ := step.channel known
    rw [RingBuffer.isConnected, known] at connected
    rw [RingBuffer.isConnected, known']
    exact (change.connected stays).trans connected

/-! ## The registry -/

/-- What a step can do to the registry and to what listeners are registered for. -/
inductive RegistryChange (s : System) : Event → RingBuffer → Prop
  | same {e : Event} {ring : RingBuffer} : ring.registry = s.ring.registry →
      ring.listeners.length = s.ring.listeners.length → ring.standing = s.ring.standing →
      RegistryChange s e ring
  | added {t channel : Nat} {name : String} {policy : FullPolicy} :
      s.ring.listenerOf? channel = none →
      RegistryChange s (.listen t channel name policy) { s.ring with
        listeners := s.ring.listeners ++ [{ channel, name, policy }]
        registry := s.ring.registry ++ [s.ring.listeners.length] }
  | removed {t channel id : Nat} : s.ring.listenerOf? channel = some id →
      RegistryChange s (.unlisten t channel true)
        { s.ring.changeListener id ({ · with isRemoved := true }) with
          registry := s.ring.registry.filter (· ≠ id) }
  | pruned {t : Nat} {gone : List Nat} : s.stage t = .leaving gone →
      RegistryChange s (.prune t) (s.ring.prune gone)

theorem Step.registry {s s' : System} {e : Event} (step : Step s e s') :
    RegistryChange s e s'.ring := by
  cases step with
  | lock | unlock | clear | settle | settled | add | enter | store | lookUp | lockDelivery
    | unlockStorage | timeOut | unlockDelivery | leave | openChannel | await | hangUp =>
    exact .same rfl rfl rfl
  | extract _ _ taken =>
    obtain rfl := congrArg Prod.snd taken
    exact .same rfl rfl rfl
  | receive taken =>
    obtain ⟨_, _, _, _, rfl⟩ := RingBuffer.receive_eq taken
    exact .same rfl rfl rfl
  | serve _ step =>
    obtain ⟨_, _, _, _, _, _, _, case⟩ := RingBuffer.serveStep_cases step
    exact .same case.registry case.length_listeners case.standing
  | unlistenUnknown _ unknown =>
    rw [RingBuffer.unregister_false unknown]
    exact .same rfl rfl rfl
  | @listen t channel name policy _ =>
    show RegistryChange s _ (s.ring.register channel name policy)
    rcases s.ring.register_eq channel name policy with same | ⟨unowned, grown⟩
    · rw [same]
      exact .same rfl rfl rfl
    · rw [grown]
      exact .added unowned
  | unlisten _ found =>
    obtain ⟨id, owner, rfl⟩ := RingBuffer.unregister_true found
    exact .removed owner
  | prune here _ => exact .pruned here

/-! ## What is never forgotten -/

theorem RingBuffer.standing_remove (ring : RingBuffer) (victim : Nat) (registry : List Nat)
    (id : Nat) :
    { ring.changeListener victim ({ · with isRemoved := true }) with registry }.standing id =
      if id = victim then (ring.standing id).map fun (channel, policy, _) => (channel, policy, true)
      else ring.standing id := by
  simp only [standing, changeListener]
  split
  next same =>
    subst same
    rw [List.getElem?_modify_eq]
    cases ring.listeners[id]? <;> rfl
  next ne => rw [List.getElem?_modify_ne _ _ (Ne.symm ne)]

/-- What still holds of a listener and a channel at any later time. -/
structure RingBuffer.Remembers (ring later : RingBuffer) : Prop where
  listener : ∀ {id channel : Nat} {policy : FullPolicy} {removed : Bool},
    ring.standing id = some (channel, policy, removed) →
    ∃ removed', later.standing id = some (channel, policy, removed') ∧
      (removed = true → removed' = true)
  hungUp : ∀ {channel : Nat}, ring.IsHungUp channel → later.IsHungUp channel

namespace RingBuffer.Remembers

variable {ring later : RingBuffer}

theorem refl (ring : RingBuffer) : ring.Remembers ring := ⟨fun known => ⟨_, known, id⟩, id⟩

theorem trans {last : RingBuffer} (first : ring.Remembers later) (second : later.Remembers last) :
    ring.Remembers last := by
  refine ⟨fun known => ?_, fun gone => second.hungUp (first.hungUp gone)⟩
  obtain ⟨_, known', stays⟩ := first.listener known
  obtain ⟨_, known'', stays'⟩ := second.listener known'
  exact ⟨_, known'', fun removed => stays' (stays removed)⟩

theorem channelOf (h : ring.Remembers later) {id channel : Nat}
    (owns : ring.channelOf id = some channel) : later.channelOf id = some channel := by
  obtain ⟨⟨_, policy, removed⟩, standing, rfl⟩ := Option.map_eq_some_iff.mp owns
  obtain ⟨_, standing', _⟩ := h.listener standing
  exact channelOf_of_standing standing'

theorem channelOf_eq (h : ring.Remembers later) {id : Nat} (known : id < ring.listeners.length) :
    later.channelOf id = ring.channelOf id := by
  obtain ⟨channel, policy, removed, standing⟩ := exists_standing known
  have owns := channelOf_of_standing standing
  exact (h.channelOf owns).trans owns.symm

theorem removed (h : ring.Remembers later) {id channel : Nat} {policy : FullPolicy}
    (standing : ring.standing id = some (channel, policy, true)) :
    later.standing id = some (channel, policy, true) := by
  obtain ⟨removed, standing', stays⟩ := h.listener standing
  rw [standing', stays rfl]

theorem length (h : ring.Remembers later) : ring.listeners.length ≤ later.listeners.length := by
  rcases Nat.eq_zero_or_pos ring.listeners.length with none | some
  · rw [none]
    exact Nat.zero_le _
  · obtain ⟨_, _, _, standing⟩ := exists_standing (Nat.sub_one_lt_of_lt some)
    obtain ⟨_, standing', _⟩ := h.listener standing
    exact Nat.le_of_pred_lt (lt_of_standing standing')

end RingBuffer.Remembers

theorem Step.remembers {s s' : System} {e : Event} (step : Step s e s') :
    s.ring.Remembers s'.ring := by
  refine ⟨fun {id channel policy removed} known => ?_, fun {channel} ⟨c, opened, gone⟩ => ?_⟩
  · generalize later : s'.ring = ring
    have change := step.registry
    rw [later] at change
    cases change with
    | same _ _ standing => exact ⟨removed, standing ▸ known, fun stays => stays⟩
    | added =>
      refine ⟨removed, ?_, fun stays => stays⟩
      rw [s.ring.standing_concat, if_neg (Nat.ne_of_lt (RingBuffer.lt_of_standing known))]
      exact known
    | removed =>
      rw [s.ring.standing_remove]
      split
      · exact ⟨true, by rw [known]; rfl, fun _ => rfl⟩
      · exact ⟨removed, known, fun stays => stays⟩
    | pruned => exact ⟨removed, known, fun stays => stays⟩
  · obtain ⟨c', opened', change⟩ := step.channel opened
    exact ⟨c', opened', change.disconnected gone⟩

theorem Run.remembers {s s' : System} {es : List Event} (run : Run s es s') :
    s.ring.Remembers s'.ring := by
  induction run with
  | nil => exact .refl _
  | cons step _ ih => exact step.remembers.trans ih

/-- A listener is new because its channel was registered, and had no other listener. -/
theorem Step.newest {s s' : System} {e : Event} {id channel : Nat} (step : Step s e s')
    (unknown : s.ring.listeners.length ≤ id) (owns : s'.ring.channelOf id = some channel) :
    ∃ t name policy, e = .listen t channel name policy ∧ s.ring.listenerOf? channel = none ∧
      id = s.ring.listeners.length := by
  have change := step.registry
  generalize s'.ring = ring at change owns
  have there := RingBuffer.lt_of_channelOf owns
  cases change with
  | same _ length => exact absurd (length ▸ there) (Nat.not_lt.mpr unknown)
  | pruned => exact absurd there (Nat.not_lt.mpr unknown)
  | removed =>
    exact absurd (Nat.lt_of_lt_of_eq there (List.length_modify ..)) (Nat.not_lt.mpr unknown)
  | @added t own name policy unowned =>
    rw [List.length_append] at there
    have newest : id = s.ring.listeners.length :=
      Nat.le_antisymm (Nat.le_of_lt_succ there) unknown
    have standing := (s.ring.standing_concat { channel := own, name, policy }
      (s.ring.registry ++ [s.ring.listeners.length]) id).trans (if_pos newest)
    obtain rfl : own = channel :=
      Option.some.inj ((RingBuffer.channelOf_of_standing standing).symm.trans owns)
    exact ⟨t, name, policy, rfl, unowned, newest⟩

/-! ## What cannot come back -/

/-- A consumer that is there later has not gone away in between. -/
theorem Step.ne_hangUp {s middle later : System} {e : Event} {es : List Event} {channel : Nat}
    (step : Step s e middle) (run : Run middle es later)
    (connected : s.ring.isConnected channel = true)
    (stays : later.ring.isConnected channel = true) : e ≠ .hangUp channel := by
  rintro rfl
  cases opened : s.ring.channels[channel]? with
  | none =>
    rw [RingBuffer.isConnected, opened] at connected
    cases connected
  | some c =>
    cases step with
    | hangUp =>
      have gone : (s.ring.changeChannel channel (·.hangUp)).channels[channel]? = some c.hangUp := by
        rw [RingBuffer.changeChannel_known opened, if_pos rfl]
      exact RingBuffer.not_isHungUp stays (run.remembers.hungUp ⟨c.hangUp, gone, rfl⟩)

/-- A listener that is registered later was so before, if it was there. -/
theorem Run.registered {s s' : System} {es : List Event} {id : Nat} (run : Run s es s')
    (known : id < s.ring.listeners.length) (registered : id ∈ s'.ring.registry) :
    id ∈ s.ring.registry := by
  induction run with
  | nil => exact registered
  | @cons s middle s'' e es step _ ih =>
    have still := ih (Nat.lt_of_lt_of_le known step.remembers.length) registered
    have change := step.registry
    generalize middle.ring = ring at change still
    cases change with
    | same registry => exact registry ▸ still
    | added =>
      rcases List.mem_append.mp still with old | new
      · exact old
      · exact absurd (List.mem_singleton.mp new) (Nat.ne_of_lt known)
    | removed | pruned => exact (List.mem_filter.mp still).1

end Footage
