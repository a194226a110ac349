import Footage.Proofs.ThreadInvariant

/-!
# A call that nobody disturbs

`beginAdd`, `serveAll` and `prune` in a row are what a call of `add` does when nobody else does
anything in between. So they are one of the interleavings (`add_alone`), and what holds of all
interleavings holds of them.
-/

namespace Footage

/-- The thread `t` went to `stage` within a call and changed the ring, and nothing else did. -/
structure WentTo (s s' : System) (t : Nat) (ring : RingBuffer) (stage : Stage) : Prop where
  ring : s'.ring = ring
  storage : s'.storage = s.storage
  delivery : s'.delivery = s.delivery
  here : s'.stage t = stage
  others : ∀ u, u ≠ t → s'.stage u = s.stage u

/-- Serving listeners for some steps. -/
theorem run_serveWithin {s : System} {t : Nat} {d : Delivery} (steps : Nat)
    (here : s.stage t = .delivering d) :
    ∃ es s', Run s es s' ∧ WentTo s s' t (RingBuffer.serveWithin steps s.ring d).1
      (.delivering (RingBuffer.serveWithin steps s.ring d).2) := by
  induction steps generalizing s d with
  | zero => exact ⟨[], s, .nil, rfl, rfl, rfl, here, fun _ _ => rfl⟩
  | succ steps ih =>
    cases served : s.ring.serveStep d with
    | none =>
      have blocked : s.ring.serve d = none := by rw [RingBuffer.serve, served]; rfl
      rw [RingBuffer.serveWithin, blocked]
      exact ⟨[], s, .nil, rfl, rfl, rfl, here, fun _ _ => rfl⟩
    | some after =>
      obtain ⟨ring, later, filled⟩ := after
      have next : s.ring.serve d = some (ring, later) := by rw [RingBuffer.serve, served]; rfl
      obtain ⟨es, s', run, went⟩ :=
        @ih ({ s with ring }.move t (.delivering later)) later (placed_self s.stage t _)
      rw [RingBuffer.serveWithin, next]
      refine ⟨.serve t filled :: es, s', .cons (.serve here served) run, went.ring, went.storage,
        went.delivery, went.here, fun u other => ?_⟩
      exact (went.others u other).trans (placed_of_ne other)

/-- Listeners that are gone leave the registry, if there are any, and the call returns. -/
theorem run_leaving {s : System} {t : Nat} {gone : List Nat} (here : s.stage t = .leaving gone) :
    ∃ es s', Run s es s' ∧ WentTo s s' t (s.ring.prune gone) .idle := by
  by_cases nobody : gone = []
  · have same : s.ring.prune gone = s.ring := by
      have all : s.ring.registry.filter (fun id => !List.contains [] id) = s.ring.registry :=
        List.filter_eq_self.mpr fun _ _ => rfl
      rw [nobody, RingBuffer.prune, all]
    rw [same]
    rw [nobody] at here
    exact ⟨_, _, .cons (.leave here) .nil, rfl, rfl, rfl, placed_self .., fun u => placed_of_ne⟩
  · refine ⟨_, _, .cons (.prune here nobody) (.cons (.leave (placed_self ..)) .nil), rfl, rfl, rfl,
      placed_self .., fun u other => (placed_of_ne other).trans (placed_of_ne other)⟩

/-- What `beginAdd`, `serveAll` and `prune` do is done by an interleaving, unless a listener has to
be waited for. -/
theorem add_alone {s : System} {t : Nat} {p : Packet} {outcome : PushOutcome}
    {first ring : RingBuffer} {d₀ d : Delivery} (idle : s.stage t = .idle)
    (storage : s.storage = none) (delivery : s.delivery = none)
    (begun : s.ring.beginAdd p = (outcome, first, d₀)) (served : first.serveAll d₀ = (ring, d))
    (done : d.pending = []) :
    ∃ es s', Run s es s' ∧ s'.ring = ring.prune d.gone ∧ s'.storage = none ∧ s'.delivery = none ∧
      s'.stage = s.stage := by
  cases begun
  obtain ⟨es₁, s₁, run₁, ring₁, storage₁, delivery₁, here₁, others₁⟩ :
      ∃ es s₁, Run s es s₁ ∧ s₁.ring = (s.ring.keep p).2 ∧ s₁.storage = none ∧
        s₁.delivery = some t ∧ s₁.stage t = .delivering ((s.ring.keep p).2.snapshot p) ∧
        ∀ u, u ≠ t → s₁.stage u = s.stage u := by
    refine ⟨_, _, .cons (.add idle) (.cons (.enter (placed_self ..) storage)
      (.cons (.store (placed_self ..)) (.cons (.lookUp (placed_self ..))
      (.cons (.lockDelivery (placed_self ..) delivery)
      (.cons (.unlockStorage (placed_self ..)) .nil))))), rfl, rfl, rfl, placed_self ..,
      fun u other => ?_⟩
    simp only [System.move_stage, placed_of_ne other]
  obtain ⟨es₂, s₂, run₂, went₂⟩ :=
    run_serveWithin ((s.ring.keep p).2.snapshot p).stepBound here₁
  rw [ring₁] at went₂
  have served : RingBuffer.serveWithin ((s.ring.keep p).2.snapshot p).stepBound (s.ring.keep p).2
      ((s.ring.keep p).2.snapshot p) = (ring, d) := served
  rw [served] at went₂
  have unlock : Step s₂ (.unlockDelivery t)
      ({ s₂ with delivery := none }.move t (.leaving d.gone)) := .unlockDelivery went₂.here done
  obtain ⟨es₃, s₃, run₃, went₃⟩ := @run_leaving
    ({ s₂ with delivery := none }.move t (.leaving d.gone)) t d.gone (placed_self ..)
  refine ⟨_, s₃, run₁.append (run₂.append (.cons unlock run₃)), ?_, ?_, went₃.delivery, ?_⟩
  · exact went₃.ring.trans (congrArg (·.prune d.gone) went₂.ring)
  · exact went₃.storage.trans (went₂.storage.trans storage₁)
  · funext u
    by_cases same : u = t
    · rw [same, went₃.here, idle]
    · exact (went₃.others u same).trans ((placed_of_ne same).trans
        ((went₂.others u same).trans (others₁ u same)))

end Footage
