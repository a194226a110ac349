import Footage.Proofs.Registry

/-!
# The order in which a channel is filled

Calls of `add` are numbered in the order in which they store their packets. Each packet that a
channel gets comes from a call, and these calls come in the order of their numbers, each at most
once (`fills_increase`). Two facts carry this. A call that serves listeners stored its packet
before a call that is still under the storage lock (`Numbered.order`), and nobody pending owns the
same channel twice (`Stage.WellAddressed.distinct`).
-/

namespace Footage

/-! ## Numbers of calls -/

/-- How many calls of `add` have stored their packets, and which was the last one of each thread. -/
structure Numbering where
  count : Nat := 0
  latest : Nat → Nat := fun _ => 0

/-- A call that stores its packet gets the next number. -/
def Numbering.after (n : Numbering) : Event → Numbering
  | .store t _ => ⟨n.count + 1, fun u => if u = t then n.count else n.latest u⟩
  | _ => n

def Event.filledBy (channel : Nat) : Event → List (Nat × Packet)
  | .serve t (some (c, p)) => if c = channel then [(t, p)] else []
  | _ => []

/-- What a channel gets from here on, each packet with the number of the call that it is from. -/
def fillsFrom (channel : Nat) (n : Numbering) : List Event → List (Nat × Packet)
  | [] => []
  | e :: es =>
    (e.filledBy channel).map (fun (t, p) => (n.latest t, p)) ++ fillsFrom channel (n.after e) es

/-- What a channel gets in a run, each packet with the number of the call that it is from. -/
def fillsIn (channel : Nat) (es : List Event) : List (Nat × Packet) := fillsFrom channel {} es

theorem Event.map_filledBy (channel : Nat) (number : Nat → Nat) (e : Event) :
    ((e.filledBy channel).map fun (t, p) => (number t, p)).map (·.2) = e.filled channel := by
  cases e with
  | serve t filled =>
    cases filled with
    | none => rfl
    | some fill =>
      simp only [filledBy, filled]
      split <;> rfl
  | _ => rfl

theorem map_fillsFrom (channel : Nat) (n : Numbering) (es : List Event) :
    (fillsFrom channel n es).map (·.2) = filledIn channel es := by
  induction es generalizing n with
  | nil => rfl
  | cons e es ih =>
    rw [fillsFrom, List.map_append, Event.map_filledBy, ih]
    rfl

/-- Who fills a channel, and with what. -/
theorem Event.exists_fill {channel : Nat} {e : Event} :
    e.filledBy channel = [] ∧ e.filled channel = [] ∨
      ∃ t p, e = .serve t (some (channel, p)) ∧ e.filledBy channel = [(t, p)] := by
  cases e with
  | serve t filled =>
    rcases filled with _ | ⟨c, p⟩
    · exact .inl ⟨rfl, rfl⟩
    · by_cases same : c = channel
      · subst same
        exact .inr ⟨t, p, rfl, if_pos rfl⟩
      · exact .inl ⟨if_neg same, if_neg same⟩
  | _ => exact .inl ⟨rfl, rfl⟩

/-! ## Who has which number -/

namespace Stage

/-- The packet of a call that stored one and may still have to serve listeners. -/
def packet? : Stage → Option Packet
  | stored p => some p
  | addressed d | handing d | delivering d => some d.packet
  | _ => none

def isQueued : Stage → Bool
  | stored _ | addressed _ => true
  | _ => false

def isServing : Stage → Bool
  | handing _ | delivering _ => true
  | _ => false

theorem holdsStorage_of_isQueued {stage : Stage} (h : stage.isQueued = true) :
    stage.holdsStorage = true := by
  cases stage with
  | stored | addressed => rfl
  | _ => cases h

theorem holdsDelivery_of_isServing {stage : Stage} (h : stage.isServing = true) :
    stage.holdsDelivery = true := by
  cases stage with
  | handing | delivering => rfl
  | _ => cases h

theorem exists_packet_of_isServing {stage : Stage} (h : stage.isServing = true) :
    ∃ p, stage.packet? = some p := by
  cases stage with
  | handing d | delivering d => exact ⟨d.packet, rfl⟩
  | _ => cases h

end Stage

/-- The packets in `before` were stored, and the calls that hand them out have their numbers. -/
structure Numbered (before : List Packet) (n : Numbering) (s : System) : Prop where
  count : n.count = before.length
  packet : ∀ t p, (s.stage t).packet? = some p → before[n.latest t]? = some p
  order : ∀ t u, (s.stage t).isServing = true → (s.stage u).isQueued = true →
    n.latest t < n.latest u

/-- A step that fills a channel does so for the first pending listener. -/
theorem RingBuffer.fill_of_serveStep {ring : RingBuffer} {d : Delivery} {served : Served} {c : Nat}
    {p : Packet} (step : ring.serveStep d = some served) (filled : served.filled = some (c, p)) :
    ∃ id rest, d.pending = id :: rest ∧ ring.channelOf id = some c ∧ p = d.packet ∧
      served.delivery = d.next := by
  obtain ⟨id, rest, l, _, pending, known, _, case⟩ := serveStep_cases step
  cases case with
  | skipped | advanced | stalled | missed | gone => cases filled
  | filled =>
    obtain ⟨rfl, rfl⟩ := Prod.mk.inj (Option.some.inj filled)
    exact ⟨id, rest, pending, channelOf_of_standing (standing_of_listener known), rfl, rfl⟩

/-- Only a listener's channel is filled. -/
theorem Step.exists_owner {s s' : System} {t channel : Nat} {p : Packet}
    (step : Step s (.serve t (some (channel, p))) s') :
    ∃ id, s.ring.channelOf id = some channel := by
  cases step with
  | serve _ step =>
    obtain ⟨id, _, _, owns, _⟩ := RingBuffer.fill_of_serveStep step rfl
    exact ⟨id, owns⟩

theorem packet_serveStep {ring : RingBuffer} {d : Delivery} {served : Served}
    (step : ring.serveStep d = some served) : served.delivery.packet = d.packet := by
  obtain ⟨_, _, _, _, _, _, _, case⟩ := RingBuffer.serveStep_cases step
  cases case <;> rfl

namespace Numbered

variable {before : List Packet} {n : Numbering} {s s' : System} {e : Event}

theorem latest_lt (h : Numbered before n s) {t : Nat} (serving : (s.stage t).isServing = true) :
    n.latest t < n.count := by
  obtain ⟨p, own⟩ := Stage.exists_packet_of_isServing serving
  rw [h.count]
  exact (List.getElem?_eq_some_iff.mp (h.packet t p own)).1

/-- A step of a call that keeps its packet, if it still has one, and its place in the order. -/
theorem moved (h : Numbered before n s) {t : Nat} {stage : Stage} {ring : RingBuffer}
    {storage delivery : Option Nat}
    (packet : ∀ p, stage.packet? = some p → (s.stage t).packet? = some p)
    (serving : stage.isServing = true → (s.stage t).isServing = true)
    (queued : stage.isQueued = true → (s.stage t).isQueued = true) :
    Numbered before n ({ ring, storage, delivery, stage := s.stage : System }.move t stage) := by
  refine ⟨h.count, fun u p => ?_, fun u v => ?_⟩
  · rw [System.move_stage]
    by_cases same : u = t
    · subst same
      rw [placed_self]
      exact fun own => h.packet u p (packet p own)
    · rw [placed_of_ne same]
      exact h.packet u p
  · rw [System.move_stage]
    intro first second
    refine h.order u v ?_ ?_
    · by_cases same : u = t
      · subst same
        rw [placed_self] at first
        exact serving first
      · rwa [placed_of_ne same] at first
    · by_cases same : v = t
      · subst same
        rw [placed_self] at second
        exact queued second
      · rwa [placed_of_ne same] at second

/-- A call that stores its packet comes after all that have stored theirs. -/
theorem store (h : Numbered before n s) (locks : LocksHeld s) {t : Nat} {p : Packet}
    {ring : RingBuffer} (here : s.stage t = .storing p) :
    Numbered (before ++ [p]) (n.after (.store t p)) ({ s with ring }.move t (.stored p)) := by
  have holds : (s.stage t).holdsStorage = true := by rw [here]; rfl
  refine ⟨?_, fun u q own => ?_, fun u v serving queued => ?_⟩
  · rw [List.length_append, ← h.count]
    rfl
  · simp only [Numbering.after, System.move_stage] at own ⊢
    by_cases same : u = t
    · subst same
      rw [placed_self] at own
      rw [if_pos rfl, h.count, List.getElem?_concat_length]
      exact own
    · rw [placed_of_ne same] at own
      rw [if_neg same]
      have old := h.packet u q own
      rw [List.getElem?_append_left (List.getElem?_eq_some_iff.mp old).1]
      exact old
  · simp only [Numbering.after, System.move_stage] at serving queued ⊢
    have other : u ≠ t := by
      rintro rfl
      rw [placed_self] at serving
      cases serving
    rw [placed_of_ne other] at serving
    have newest : v = t := by
      by_cases same : v = t
      · exact same
      · rw [placed_of_ne same] at queued
        exact locks.storage_exclusive (Stage.holdsStorage_of_isQueued queued) holds
    rw [if_neg other, if_pos newest]
    exact h.latest_lt serving

/-- A call that takes the delivery lock was the only one under the storage lock. -/
theorem lockDelivery (h : Numbered before n s) (locks : LocksHeld s) {t : Nat} {d : Delivery}
    {delivery : Option Nat} (here : s.stage t = .addressed d) :
    Numbered before n ({ s with delivery }.move t (.handing d)) := by
  have holds : (s.stage t).holdsStorage = true := by rw [here]; rfl
  refine ⟨h.count, fun u p own => ?_, fun u v _ queued => ?_⟩
  · rw [System.move_stage] at own
    by_cases same : u = t
    · subst same
      rw [placed_self] at own
      exact h.packet u p (by rw [here]; exact own)
    · rw [placed_of_ne same] at own
      exact h.packet u p own
  · rw [System.move_stage] at queued
    by_cases same : v = t
    · rw [same, placed_self] at queued
      cases queued
    · rw [placed_of_ne same] at queued
      exact absurd (locks.storage_exclusive (Stage.holdsStorage_of_isQueued queued) holds) same

/-- Only storing a packet makes a call count. -/
theorem uncounted (h : Numbered before n s') (nothing : e.stored = []) (same : n.after e = n) :
    Numbered (before ++ e.stored) (n.after e) s' := by
  rw [nothing, same, List.append_nil]
  exact h

theorem step (h : Numbered before n s) (locks : LocksHeld s) (step : Step s e s') :
    Numbered (before ++ e.stored) (n.after e) s' := by
  cases step with
  | lock | unlock | extract | clear | listen | unlistenUnknown | openChannel | receive | await
    | hangUp => exact .uncounted ⟨h.count, h.packet, h.order⟩ rfl rfl
  | unlisten | settle | settled | add | enter | unlockDelivery | prune | leave =>
    exact .uncounted (h.moved (fun _ => nofun) Bool.noConfusion Bool.noConfusion) rfl rfl
  | store here => exact h.store locks here
  | lookUp here =>
    refine .uncounted (h.moved ?_ Bool.noConfusion ?_) rfl rfl <;> rw [here]
    · exact fun _ own => own
    · exact id
  | lockDelivery here => exact .uncounted (h.lockDelivery locks here) rfl rfl
  | unlockStorage here =>
    refine .uncounted (h.moved ?_ ?_ Bool.noConfusion) rfl rfl <;> rw [here]
    · exact fun _ own => own
    · exact id
  | serve here step =>
    refine .uncounted (h.moved (fun p own => ?_) ?_ Bool.noConfusion) rfl rfl <;> rw [here]
    · rw [← own]
      exact congrArg some (packet_serveStep step).symm
    · exact id
  | timeOut here waited =>
    rw [RingBuffer.timeOut_eq waited]
    refine .uncounted (h.moved ?_ ?_ Bool.noConfusion) rfl rfl <;> rw [here]
    · exact fun _ own => own
    · exact id

theorem start (budget : Nat) : Numbered [] {} (.start budget) :=
  ⟨rfl, fun _ _ => nofun, fun _ _ => nofun⟩

end Numbered

/-! ## Who may still fill a channel -/

/-- A call that is here may still put a packet into a channel. -/
def Stage.MayFill (ring : RingBuffer) (channel : Nat) (stage : Stage) : Prop :=
  (∃ p, stage = .stored p) ∨ ∃ id ∈ stage.pending, ring.channelOf id = some channel

namespace Stage.MayFill

variable {ring later : RingBuffer} {channel : Nat} {stage : Stage}

theorem phase (h : stage.MayFill ring channel) :
    stage.isQueued = true ∨ stage.isServing = true := by
  rcases h with ⟨p, rfl⟩ | ⟨id, mentioned, _⟩
  · exact .inl rfl
  · cases stage with
    | addressed => exact .inl rfl
    | handing | delivering => exact .inr rfl
    | _ => cases mentioned

/-- What was to come before a listener's call was registered differently is still the same. -/
theorem earlier (h : stage.MayFill later channel) (accounted : stage.Accounted ring)
    (remembers : ring.Remembers later) : stage.MayFill ring channel := by
  refine h.imp_right fun ⟨id, mentioned, owns⟩ => ⟨id, mentioned, ?_⟩
  exact (remembers.channelOf_eq (accounted.pending id mentioned)).symm.trans owns

/-- A call within which nobody new is pending. -/
theorem of_pending {old : Stage} (h : stage.MayFill ring channel)
    (stored : ∀ p, stage ≠ .stored p) (fewer : stage.pending.Sublist old.pending) :
    old.MayFill ring channel := by
  rcases h with ⟨p, is⟩ | ⟨id, mentioned, owns⟩
  · exact absurd is (stored p)
  · exact .inr ⟨id, fewer.subset mentioned, owns⟩

end Stage.MayFill

/-- Only storing a packet brings a call to where it may fill a channel. -/
theorem Step.mayFill {s s' : System} {e : Event} {channel u : Nat} (accounted : Accounted s)
    (step : Step s e s') (may : (s'.stage u).MayFill s'.ring channel) :
    (s.stage u).MayFill s.ring channel ∨ ∃ p, e = .store u p := by
  have remembers := step.remembers
  -- so much for every other thread, and for a thread that stays where it is
  have old : (s.stage u).MayFill s'.ring channel → (s.stage u).MayFill s.ring channel :=
    fun may => may.earlier (accounted.stages u) remembers
  have within {ring : RingBuffer} {t : Nat} {stage : Stage}
      (may : (placed s.stage t stage u).MayFill ring channel) (stored : ∀ p, stage ≠ .stored p)
      (fewer : stage.pending.Sublist (s.stage t).pending) :
      (s.stage u).MayFill ring channel := by
    by_cases same : u = t
    · subst same
      rw [placed_self] at may
      exact may.of_pending stored fewer
    · rwa [placed_of_ne same] at may
  cases step with
  | lock | unlock | extract | clear | listen | unlistenUnknown | openChannel | receive | await
    | hangUp => exact .inl (old may)
  | unlisten | settle | settled | add | enter | unlockDelivery | prune | leave =>
    exact .inl (old (within may (fun _ => nofun) (List.nil_sublist _)))
  | @store t p here =>
    by_cases same : u = t
    · exact .inr ⟨p, same ▸ rfl⟩
    · rw [System.move_stage, placed_of_ne same] at may
      exact .inl (old may)
  | @lookUp t p here =>
    by_cases same : u = t
    · exact .inl (.inl ⟨p, same ▸ here⟩)
    · rw [System.move_stage, placed_of_ne same] at may
      exact .inl (old may)
  | lockDelivery here | unlockStorage here =>
    exact .inl (old (within may (fun _ => nofun) (by rw [here]; exact .refl _)))
  | serve here step =>
    obtain ⟨_, _, _, _, _, _, _, case⟩ := RingBuffer.serveStep_cases step
    exact .inl (old (within may (fun _ => nofun) (by rw [here]; exact case.pending_sublist)))
  | timeOut here waited =>
    rw [RingBuffer.timeOut_eq waited] at may
    exact .inl (old (within may (fun _ => nofun) (by rw [here]; exact .refl _)))

/-! ## The order -/

/-- Whoever may still fill the channel has a number that is at least `low`. -/
structure FillsAbove (low : Nat) (n : Numbering) (s : System) (channel : Nat) : Prop where
  count : low ≤ n.count
  latest : ∀ t, (s.stage t).MayFill s.ring channel → low ≤ n.latest t

namespace FillsAbove

variable {low channel : Nat} {before : List Packet} {n : Numbering} {s s' : System} {e : Event}

theorem step (h : FillsAbove low n s channel) (accounted : Accounted s) (step : Step s e s') :
    FillsAbove low (n.after e) s' channel := by
  have latest (u : Nat) (stays : ∀ p, e ≠ .store u p) : (n.after e).latest u = n.latest u := by
    cases e with
    | store t p => exact if_neg fun same => stays p (by rw [same])
    | _ => rfl
  refine ⟨?_, fun u may => ?_⟩
  · cases e with
    | store => exact Nat.le_succ_of_le h.count
    | _ => exact h.count
  · by_cases stores : ∃ p, e = .store u p
    · obtain ⟨p, rfl⟩ := stores
      have newest : (n.after (.store u p)).latest u = n.count := if_pos rfl
      rw [newest]
      exact h.count
    · rw [latest u fun p is => stores ⟨p, is⟩]
      exact h.latest u ((step.mayFill accounted may).resolve_right stores)

end FillsAbove

/-- Who fills the channel could do so before, and cannot do so again. -/
theorem Step.fills {s s' : System} {channel t : Nat} {p : Packet} (accounted : Accounted s)
    (registered : WellRegistered s) (step : Step s (.serve t (some (channel, p))) s') :
    (s.stage t).isServing = true ∧ (s.stage t).packet? = some p ∧
      (s.stage t).MayFill s.ring channel ∧ ¬ (s'.stage t).MayFill s'.ring channel := by
  have remembers := step.remembers
  cases step with
  | @serve _ d later ring _ here step =>
    have distinct := (registered.stages t).distinct
    have known := (accounted.stages t).pending
    rw [here] at distinct known ⊢
    obtain ⟨id, rest, pending, owns, rfl, rfl⟩ := RingBuffer.fill_of_serveStep step rfl
    have all : (Stage.delivering d).pending = id :: rest := pending
    have first : id ∈ (Stage.delivering d).pending := by rw [all]; exact List.mem_cons_self
    rw [all] at distinct known
    refine ⟨rfl, rfl, .inr ⟨id, first, owns⟩, ?_⟩
    rw [System.move_stage, placed_self]
    rintro (⟨_, is⟩ | ⟨other, mentioned, owns'⟩)
    · cases is
    · -- nobody else who is pending owns the channel
      have mentioned : other ∈ d.pending.tail := mentioned
      rw [pending, List.tail_cons] at mentioned
      have same := remembers.channelOf_eq (known other (List.mem_cons_of_mem _ mentioned))
      exact (List.pairwise_cons.mp distinct).1 other mentioned
        (owns.trans (same.symm.trans owns').symm)

/-- After a fill only calls with higher numbers may fill the channel. -/
theorem FillsAbove.fill {low channel t : Nat} {before : List Packet} {n : Numbering}
    {s s' : System} {p : Packet} (h : FillsAbove low n s channel) (numbered : Numbered before n s)
    (locks : LocksHeld s) (accounted : Accounted s) (registered : WellRegistered s)
    (step : Step s (.serve t (some (channel, p))) s') :
    low ≤ n.latest t ∧ before[n.latest t]? = some p ∧ FillsAbove (n.latest t + 1) n s' channel := by
  obtain ⟨serving, own, may, done⟩ := step.fills accounted registered
  refine ⟨h.latest t may, numbered.packet t p own, numbered.latest_lt serving, fun u mayU => ?_⟩
  have other : u ≠ t := fun same => done (same ▸ mayU)
  have mayBefore := (step.mayFill accounted mayU).resolve_right (fun ⟨_, is⟩ => nomatch is)
  rcases mayBefore.phase with queued | servingU
  · exact numbered.order t u serving queued
  · exact absurd (locks.delivery_exclusive (Stage.holdsDelivery_of_isServing servingU)
      (Stage.holdsDelivery_of_isServing serving)) other

/-- The channel gets its packets from calls in the order of their numbers, and from each call at
most one. -/
theorem fillsFrom_increase {low channel : Nat} {before : List Packet} {n : Numbering}
    {s s' : System} {es : List Event} (h : FillsAbove low n s channel)
    (numbered : Numbered before n s) (locks : LocksHeld s) (accounted : Accounted s)
    (registered : WellRegistered s) (run : Run s es s') :
    (fillsFrom channel n es).Pairwise (·.1 < ·.1) ∧
      ∀ fill ∈ fillsFrom channel n es,
        low ≤ fill.1 ∧ (before ++ storedIn es)[fill.1]? = some fill.2 := by
  induction run generalizing low before n with
  | nil => exact ⟨.nil, fun _ => nofun⟩
  | @cons s middle s'' e es step _ ih =>
    have numbered' := numbered.step locks step
    have stored : before ++ storedIn (e :: es) = before ++ e.stored ++ storedIn es :=
      (List.append_assoc ..).symm
    have rest {low' : Nat} (above : FillsAbove low' (n.after e) middle channel) :=
      ih above numbered' (locks.step step) (accounted.step step) (registered.step accounted step)
    rw [fillsFrom, stored]
    rcases @Event.exists_fill channel e with ⟨none, _⟩ | ⟨t, p, rfl, one⟩
    · rw [none]
      exact rest (h.step accounted step)
    · obtain ⟨atLeast, own, above⟩ := h.fill numbered locks accounted registered step
      obtain ⟨increasing, later⟩ := rest above
      rw [one]
      refine ⟨List.pairwise_cons.mpr ⟨fun fill is => (later fill is).1, increasing⟩, ?_⟩
      intro fill is
      rcases List.mem_cons.mp is with rfl | is
      · have there := (List.getElem?_eq_some_iff.mp own).1
        refine ⟨atLeast, ?_⟩
        rw [List.append_assoc, List.getElem?_append_left there]
        exact own
      · exact ⟨Nat.le_trans atLeast (Nat.le_of_lt (later fill is).1), (later fill is).2⟩

/-- The same for a run from the start. -/
theorem fills_increase {budget : Nat} {s : System} {es : List Event} (channel : Nat)
    (run : Run (.start budget) es s) :
    (fillsIn channel es).Pairwise (·.1 < ·.1) ∧
      ∀ fill ∈ fillsIn channel es, (storedIn es)[fill.1]? = some fill.2 := by
  have nobody : FillsAbove 0 {} (.start budget) channel := ⟨Nat.le_refl _, fun _ _ => Nat.zero_le _⟩
  obtain ⟨increasing, origins⟩ := fillsFrom_increase nobody (.start budget) (locksHeld_start budget)
    (accounted_start budget) (.start budget) run
  exact ⟨increasing, fun fill is => (origins fill is).2⟩

/-- A packet of a few octets, for runs on fixed inputs. -/
def smallPacket : Packet := .ofTransport .h264 [[0x41]] .zero ⟨0⟩ false

end Footage
