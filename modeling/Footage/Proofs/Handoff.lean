import Footage.Proofs.HistoryAnchor
import Footage.Proofs.Owed

/-!
# The handoff from history to live packets

A consumer that holds the storage lock takes history, registers a channel, and only then gives the
lock back. While it holds the lock nothing is stored (`Guarded.run`), and nothing is on its way to
a listener that is new (`Guarded.listen`). So the channel goes on exactly where the history ends,
whatever other threads and consumers do (`gapFree_handoff`).
-/

namespace Footage

/-- What happens after a thread gave its guard back. -/
def afterUnlock (t : Nat) : List Event → List Event
  | [] => []
  | .unlock u :: es => if u = t then es else afterUnlock t es
  | _ :: es => afterUnlock t es

theorem storedIn_append (front back : List Event) :
    storedIn (front ++ back) = storedIn front ++ storedIn back := List.flatMap_append

/-! ## Under the guard -/

/-- A thread holds the storage lock outside of `add`, so no call of `add` does. -/
structure Guarded (s : System) (t : Nat) : Prop where
  held : s.storage = some t
  nobody : ∀ u, (s.stage u).holdsStorage = false

namespace Guarded

variable {s s' : System} {t : Nat}

theorem of_idle (locks : LocksHeld s) (here : s.stage t = .idle) (held : s.storage = some t) :
    Guarded s t := by
  refine ⟨held, fun u => ?_⟩
  cases holds : (s.stage u).holdsStorage with
  | false => rfl
  | true =>
    have same : t = u := Option.some.inj (held.symm.trans (locks.storage u holds))
    rw [← same, here] at holds
    cases holds

theorem moved (h : Guarded s t) {u : Nat} {stage : Stage} (ring : RingBuffer)
    (delivery : Option Nat) (outside : stage.holdsStorage = false) :
    Guarded ({ s with ring, delivery }.move u stage) t :=
  ⟨h.held, forall_placed (·.holdsStorage = false) outside h.nobody u⟩

/-- Nothing is stored as long as the guard is held. -/
theorem step {e : Event} (h : Guarded s t) (step : Step s e s') (kept : e ≠ .unlock t) :
    Guarded s' t ∧ e.stored = [] := by
  have inside {u : Nat} {stage : Stage} (here : s.stage u = stage)
      (holds : stage.holdsStorage = true) : False := by
    have nobody := h.nobody u
    rw [here, holds] at nobody
    cases nobody
  cases step with
  | lock _ free =>
    rw [h.held] at free
    cases free
  | enter _ free =>
    rw [h.held] at free
    cases free
  | unlock _ held =>
    rw [h.held] at held
    cases held
    exact absurd rfl kept
  | store here => exact (inside here rfl).elim
  | lookUp here => exact (inside here rfl).elim
  | lockDelivery here => exact (inside here rfl).elim
  | unlockStorage here => exact (inside here rfl).elim
  | unlisten | settle | settled | add | serve | timeOut | unlockDelivery | prune | leave =>
    exact ⟨h.moved _ _ rfl, rfl⟩
  | extract | clear | listen | unlistenUnknown | openChannel | receive | await | hangUp =>
    exact ⟨⟨h.held, h.nobody⟩, rfl⟩

theorem run {es : List Event} (h : Guarded s t) (run : Run s es s') (kept : .unlock t ∉ es) :
    Guarded s' t ∧ storedIn es = [] := by
  induction run with
  | nil => exact ⟨h, rfl⟩
  | @cons s middle s'' e es step _ ih =>
    obtain ⟨guarded, nothing⟩ := h.step step fun same => kept (same ▸ List.mem_cons_self)
    obtain ⟨last, rest⟩ := ih guarded fun later => kept (List.mem_cons_of_mem _ later)
    refine ⟨last, ?_⟩
    show e.stored ++ storedIn es = []
    rw [nothing, rest]
    rfl

end Guarded

/-! ## The handoff -/

theorem afterUnlock_of_ne {t : Nat} {e : Event} (ne : e ≠ .unlock t) (es : List Event) :
    afterUnlock t (e :: es) = afterUnlock t es := by
  cases e with
  | unlock u => exact if_neg fun same => ne (congrArg Event.unlock same)
  | _ => rfl

/-- A run from a guarded system is nothing stored until the guard is given back, and the rest. -/
theorem Guarded.split {s s' : System} {t : Nat} {es : List Event} (h : Guarded s t)
    (run : Run s es s') :
    ∃ front middle, es = front ++ afterUnlock t es ∧ storedIn front = [] ∧
      Run s front middle ∧ Run middle (afterUnlock t es) s' := by
  induction run with
  | @nil s => exact ⟨[], s, rfl, rfl, .nil, .nil⟩
  | @cons s middle s'' e es step run ih =>
    by_cases released : e = .unlock t
    · subst released
      have rest : afterUnlock t (.unlock t :: es) = es := if_pos rfl
      rw [rest]
      exact ⟨[.unlock t], middle, rfl, rfl, .cons step .nil, run⟩
    · obtain ⟨guarded, nothing⟩ := h.step step released
      obtain ⟨front, last, split, rest, first, second⟩ := ih guarded
      rw [afterUnlock_of_ne released]
      refine ⟨e :: front, last, congrArg (e :: ·) split, ?_, .cons step first, second⟩
      show e.stored ++ storedIn front = []
      rw [nothing, rest]
      rfl

/-- Outside of the storage section nobody owes anything to a listener that is yet to be made. -/
theorem Stage.not_owes_new {ring : RingBuffer} {stage : Stage} (h : stage.Accounted ring)
    (outside : stage.holdsStorage = false) : stage.owes ring.listeners.length = false := by
  have unknown : ring.listeners.length ∉ stage.pending :=
    fun mentioned => Nat.lt_irrefl _ (h.pending _ mentioned)
  cases stage with
  | stored p => cases outside
  | addressed d => cases outside
  | handing d => cases outside
  | delivering d => exact decide_eq_false unknown
  | _ => rfl

/-- A listener that is registered under the guard is followed from then on, and nothing is on its
way to it yet. -/
theorem Guarded.listen {s s' : System} {t channel : Nat} {name : String} (h : Guarded s t)
    (accounted : Accounted s) (fresh : s.ring.IsFresh channel)
    (step : Step s (.listen t channel name .stall) s') :
    Followed s' s.ring.listeners.length channel ∧
    (∀ u, (s'.stage u).owes s.ring.listeners.length = false) ∧
    s'.owed s.ring.listeners.length channel = [] := by
  cases step with
  | listen here =>
    have nobody (u : Nat) : (s.stage u).owes s.ring.listeners.length = false :=
      Stage.not_owes_new (accounted.stages u) (h.nobody u)
    refine ⟨⟨.of_fresh fresh name, fun u mentioned => ?_⟩, nobody, ?_⟩
    · exact Nat.lt_irrefl _ ((accounted.stages u).gone _ mentioned)
    · rw [System.owed_elsewhere (s.ring.queue_register channel name .stall channel),
        System.owed_of_nobody nobody, fresh.empty]

/-- A thread takes history under the guard and registers a fresh channel before it gives the
guard back. Then, as long as the consumer listens, the history, the packets received, and those
in the channel are together the beginning of this sequence: what was stored from the anchor on,
and what calls of `add` store after the guard is back, in the order in which they do. They are
all of it once these calls have returned. -/
theorem gapFree_handoff {budget t channel : Nat} {method : ExtractMethod} {minimum : Duration}
    {mode : ExtractMode} {window : PacketBuffer} {name : String}
    {s₀ s₁ s₂ s₃ s₄ : System} {between later : List Event}
    (reachable : Reachable budget s₀)
    (extracted : Step s₀ (.extract t method minimum mode (.ok window)) s₁)
    (waited : Run s₁ between s₂) (guarded : .unlock t ∉ between)
    (fresh : s₂.ring.IsFresh channel)
    (registered : Step s₂ (.listen t channel name .stall) s₃)
    (went : Run s₃ later s₄) (listens : ∀ e, e ∈ later → e.endsListening channel = false) :
    ∃ a, Anchor.choose s₀.ring.packets minimum mode = .ok a ∧
      window.packets = s₀.ring.packets.drop a.start ∧
      storedIn between = [] ∧ storedIn later = storedIn (afterUnlock t later) ∧
      window.packets ++ receivedIn channel later ++ s₄.ring.queue channel <+:
        s₀.ring.packets.drop a.start ++ storedIn (afterUnlock t later) ∧
      (AllReturned (afterUnlock t later) →
        window.packets ++ receivedIn channel later ++ s₄.ring.queue channel =
          s₀.ring.packets.drop a.start ++ storedIn (afterUnlock t later)) := by
  have locks := ((reachable.locksHeld.step extracted).run waited).step registered
  have accounted₂ := (reachable.accounted.step extracted).run waited
  have accounted := accounted₂.step registered
  obtain ⟨a, chosen, start, guard₁⟩ : ∃ a, Anchor.choose s₀.ring.packets minimum mode = .ok a ∧
      window.packets = s₀.ring.packets.drop a.start ∧ Guarded s₁ t := by
    cases extracted with
    | extract here held taken =>
      obtain ⟨a, chosen, start⟩ := RingBuffer.extract_eq_ok taken
      have guard : Guarded s₀ t := .of_idle reachable.locksHeld here held
      exact ⟨a, chosen, start, guard.held, guard.nobody⟩
  obtain ⟨guard₂, nothing⟩ := guard₁.run waited guarded
  have guard₃ := (guard₂.step registered nofun).1
  obtain ⟨followed, nobody, empty⟩ := guard₂.listen accounted₂ fresh registered
  -- the calls that count are those of the second part of the run
  obtain ⟨front, middle, split, none, before, after⟩ := guard₃.split went
  have all : storedIn later = storedIn (afterUnlock t later) := by
    calc storedIn later = storedIn front ++ storedIn (afterUnlock t later) := by
          rw [← storedIn_append, ← split]
      _ = storedIn (afterUnlock t later) := by rw [none, List.nil_append]
  refine ⟨a, chosen, start, nothing, all, ?_, fun returned => ?_⟩
  · have received := followed.received locks accounted went listens empty
    rw [← all, start, List.append_assoc]
    exact (List.prefix_append_right_inj _).mpr received
  · have early := before.nobody_owes nobody (.of_nothing none)
    have late := after.nobody_owes early returned
    have received := followed.received_all locks accounted went listens empty late
    rw [← all, start, List.append_assoc, received]

def keyPacket : Packet := .ofTransport .h264 [[0x67], [0x68], [0x65]] .zero ⟨0⟩ false

def nextPacket : Packet := .ofTransport .h264 [[0x41]] .zero ⟨0⟩ false

/-- How a ring of one channel comes to hold a keyframe, and a consumer its guard. -/
def earlyEvents : List Event :=
  [.openChannel 1, .add 1 keyPacket, .enter 1, .store 1 keyPacket, .lookUp 1, .lockDelivery 1,
    .unlockStorage 1, .unlockDelivery 1, .leave 1, .lock 0]

/-- How a camera adds a packet while the consumer gives its guard back, and how the consumer takes
it. -/
def liveEvents : List Event :=
  [.add 1 nextPacket, .unlock 0, .enter 1, .store 1 nextPacket, .lookUp 1, .lockDelivery 1,
    .unlockStorage 1, .serve 1 none, .serve 1 none, .serve 1 (some (0, nextPacket)),
    .receive 0 nextPacket, .unlockDelivery 1, .leave 1]

theorem gapFree_handoff_live :
    ∃ s₀ s₁ s₃ s₄, Run (.start 64) earlyEvents s₀ ∧
      Step s₀ (.extract 0 .shared .zero .strict (.ok ⟨[keyPacket]⟩)) s₁ ∧
      s₁.ring.IsFresh 0 ∧ Step s₁ (.listen 0 0 "recorder" .stall) s₃ ∧ Run s₃ liveEvents s₄ ∧
      AllReturned (afterUnlock 0 liveEvents) ∧
      ∃ a : Anchor, [keyPacket] ++ receivedIn 0 liveEvents ++ s₄.ring.queue 0 =
        s₀.ring.packets.drop a.start ++ [nextPacket] := by
  obtain ⟨s₀, s₁, s₃, early, extracted, fresh, registered, s₄, live⟩ :
      ∃ s₀ s₁ s₃, Run (.start 64) earlyEvents s₀ ∧
        Step s₀ (.extract 0 .shared .zero .strict (.ok ⟨[keyPacket]⟩)) s₁ ∧
        s₁.ring.IsFresh 0 ∧ Step s₁ (.listen 0 0 "recorder" .stall) s₃ ∧
        ∃ s₄, Run s₃ liveEvents s₄ := by
    refine ⟨_, _, _, .cons .openChannel (.cons (.add rfl) (.cons (.enter rfl rfl)
      (.cons (.store rfl) (.cons (.lookUp rfl) (.cons (.lockDelivery rfl rfl)
      (.cons (.unlockStorage rfl) (.cons (.unlockDelivery rfl rfl) (.cons (.leave rfl)
      (.cons (.lock rfl rfl) .nil))))))))), .extract rfl rfl rfl, ⟨rfl, rfl, nofun⟩,
      .listen rfl, ?_⟩
    exact ⟨_, .cons (.add rfl) (.cons (.unlock rfl rfl) (.cons (.enter rfl rfl)
      (.cons (.store rfl) (.cons (.lookUp rfl) (.cons (.lockDelivery rfl rfl)
      (.cons (.unlockStorage rfl) (.cons (.serve rfl rfl) (.cons (.serve rfl rfl)
      (.cons (.serve rfl rfl) (.cons (.receive rfl) (.cons (.unlockDelivery rfl rfl)
      (.cons (.leave rfl) .nil))))))))))))⟩
  have returned : AllReturned (afterUnlock 0 liveEvents) := by
    simp [liveEvents, afterUnlock, AllReturned]
  obtain ⟨a, _, _, _, _, _, whole⟩ := gapFree_handoff ⟨earlyEvents, early⟩ extracted .nil
    List.not_mem_nil fresh registered live (by simp [liveEvents, Event.endsListening])
  exact ⟨s₀, s₁, s₃, s₄, early, extracted, fresh, registered, live, returned, a, whole returned⟩

end Footage
