import Footage.Report

/-!
# What effects do to their state

An effect is a function from a state to a result and the state it leaves behind. These equations
open effects step by step when they are applied to a state, so that no other proof has to know how
effects are put together.
-/

namespace Footage

/-! ## Results -/

@[simp] theorem mapError_ok {ε δ α : Type} (f : ε → δ) (a : α) :
    (Except.ok a).mapError f = .ok a := rfl

@[simp] theorem mapError_error {ε δ α : Type} (f : ε → δ) (e : ε) :
    (Except.error e : Except ε α).mapError f = .error (f e) := rfl

theorem mapError_eq_ok_iff {ε δ α : Type} {f : ε → δ} {result : Except ε α} {a : α} :
    result.mapError f = .ok a ↔ result = .ok a := by
  cases result with
  | ok b => simp only [mapError_ok, Except.ok.injEq]
  | error e => exact ⟨nofun, nofun⟩

theorem ok_bind {ε α β : Type} (a : α) (next : α → Except ε β) :
    (Except.ok a >>= next) = next a := rfl

/-- A result that took two steps took the first one. -/
theorem exists_of_bind_ok {ε α β : Type} {first : Except ε α} {next : α → Except ε β} {b : β}
    (done : (first >>= next) = .ok b) : ∃ a, first = .ok a ∧ next a = .ok b := by
  cases first with
  | error => cases done
  | ok a => exact ⟨a, rfl, done⟩

/-- Results that are all there are there together. -/
theorem exists_mapM_ok {ε α β : Type} {f : α → Except ε β} {list : List α}
    (each : ∀ a ∈ list, ∃ b, f a = .ok b) : ∃ results, list.mapM f = .ok results := by
  induction list with
  | nil => exact ⟨[], rfl⟩
  | cons a list ih =>
    obtain ⟨b, first⟩ := each a List.mem_cons_self
    obtain ⟨rest, others⟩ := ih fun c later => each c (List.mem_cons_of_mem _ later)
    refine ⟨b :: rest, ?_⟩
    rw [List.mapM_cons, first, others]
    rfl

theorem mapM_ok {ε α β : Type} {f : α → Except ε β} {g : α → β} {list : List α}
    (each : ∀ a ∈ list, f a = .ok (g a)) : list.mapM f = .ok (list.map g) := by
  induction list with
  | nil => rfl
  | cons a list ih =>
    rw [List.mapM_cons, each a List.mem_cons_self,
      ih fun b later => each b (List.mem_cons_of_mem _ later)]
    rfl

/-- What is read back one by one is read back together. -/
theorem mapM_map_ok {ε α β : Type} {write : α → β} {read : β → Except ε α} {list : List α}
    (each : ∀ a ∈ list, read (write a) = .ok a) : (list.map write).mapM read = .ok list := by
  rw [List.mapM_map]
  exact (mapM_ok each).trans (congrArg _ (List.map_id' list))

/-! ## Effects -/

namespace Effect

variable {σ τ ε δ α β : Type}

@[simp] theorem bind_apply (step : Effect σ ε α) (next : α → Effect σ ε β) (s : σ) :
    (step >>= next) s = match step s with
      | (.ok a, s') => next a s'
      | (.error e, s') => (.error e, s') := by
  show (fun done : Except ε α × σ => ExceptT.bindCont next done.1 done.2) (step s) = _
  rcases step s with ⟨_ | a, s'⟩ <;> rfl

@[simp] theorem pure_apply (a : α) (s : σ) : (pure a : Effect σ ε α) s = (.ok a, s) := rfl

@[simp] theorem throw_apply (e : ε) (s : σ) : (throw e : Effect σ ε α) s = (.error e, s) := rfl

@[simp] theorem get_apply (s : σ) : (get : Effect σ ε σ) s = (.ok s, s) := rfl

@[simp] theorem modify_apply (f : σ → σ) (s : σ) :
    (modify f : Effect σ ε Unit) s = (.ok (), f s) := rfl

@[simp] theorem lift_apply (result : Except ε α) (s : σ) :
    (liftM result : Effect σ ε α) s = (result, s) := by
  cases result <;> rfl

@[simp] theorem rename_apply (f : ε → δ) (step : Effect σ ε α) (s : σ) :
    step.rename f s = ((step s).1.mapError f, (step s).2) := rfl

@[simp] theorem onSecond_apply (step : Effect τ ε α) (s : σ) (t : τ) :
    (step.onSecond : Effect (σ × τ) ε α) (s, t) = ((step t).1, (s, (step t).2)) := rfl

/-- If two steps succeed one after the other, both of them do. -/
theorem of_bind_ok {step : Effect σ ε α} {next : α → Effect σ ε β} {s s'' : σ} {b : β}
    (done : (step >>= next) s = (.ok b, s'')) :
    ∃ a s', step s = (.ok a, s') ∧ next a s' = (.ok b, s'') := by
  rw [bind_apply] at done
  split at done
  next a s' first => exact ⟨a, s', first, done⟩
  next => cases done

theorem of_rename_ok {f : ε → δ} {step : Effect σ ε α} {s s' : σ} {a : α}
    (done : step.rename f s = (.ok a, s')) : step s = (.ok a, s') := by
  rw [rename_apply] at done
  rcases same : step s with ⟨_ | b, t⟩
  · rw [same] at done
    cases done
  · rw [same] at done
    cases done
    rfl

/-- A step on the second part leaves the first one alone. -/
theorem of_onSecond_ok {step : Effect τ ε α} {s s' : σ × τ} {a : α}
    (done : (step.onSecond : Effect (σ × τ) ε α) s = (.ok a, s')) :
    s'.1 = s.1 ∧ step s.2 = (.ok a, s'.2) := by
  obtain ⟨s, t⟩ := s
  rw [onSecond_apply] at done
  obtain ⟨same, rfl⟩ := Prod.ext_iff.mp done
  exact ⟨rfl, Prod.ext same rfl⟩

/-- Steps that always succeed do so one after another. -/
theorem exists_forM_ok {step : α → Effect σ ε Unit} (each : ∀ a s, ∃ s', step a s = (.ok (), s'))
    (list : List α) (s : σ) : ∃ s', forM list step s = (.ok (), s') := by
  induction list generalizing s with
  | nil => exact ⟨s, rfl⟩
  | cons a rest ih =>
    obtain ⟨s', first⟩ := each a s
    obtain ⟨s'', later⟩ := ih s'
    exact ⟨s'', by simp [first, later]⟩

/-- Steps that are renamed one by one are renamed together. -/
theorem rename_bind (f : ε → δ) (step : Effect σ ε α) (next : α → Effect σ ε β) :
    (step >>= next).rename f = step.rename f >>= fun a => (next a).rename f := by
  funext s
  rcases h : step s with ⟨_ | a, s'⟩ <;> simp [h]

end Effect

end Footage
