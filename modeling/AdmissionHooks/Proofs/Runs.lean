import AdmissionHooks.Builder

/-!
# Runs of composed actions

A composed action fails where its first part fails, with everything that this part left behind.
Otherwise the second part goes on from the state of the first, and their traces are joined. The
lemmas here are the only ones that look into `andThen`.
-/

namespace AdmissionHooks

theorem exists_of_bind_eq_ok {ε α β : Type} {x : Except ε α} {f : α → Except ε β} {b : β}
    (h : (x >>= f) = .ok b) : ∃ a, x = .ok a ∧ f a = .ok b := by
  cases x with
  | error e => cases h
  | ok a => exact ⟨a, rfl, h⟩

namespace Action

variable {σ α β : Type}

@[simp] theorem outcome_join (first : Run σ α) (second : Run σ β) :
    (join first second).outcome = second.outcome := rfl

@[simp] theorem state_join (first : Run σ α) (second : Run σ β) :
    (join first second).state = second.state := rfl

@[simp] theorem calls_join (first : Run σ α) (second : Run σ β) :
    (join first second).calls = first.calls ++ second.calls := rfl

@[simp] theorem records_join (first : Run σ α) (second : Run σ β) :
    (join first second).records = first.records ++ second.records := rfl

@[simp] theorem run_atSite (x : Action Cluster α) (s : Site) :
    x.atSite.run s =
      ⟨(x.run s.cluster).outcome, { s with cluster := (x.run s.cluster).state },
        (x.run s.cluster).calls, (x.run s.cluster).records⟩ := rfl

theorem run_log_bind (r : Log.Record) (f : Unit → Action σ α) (s : σ) :
    (log r >>= f).run s =
      { (f ()).run s with records := r :: ((f ()).run s).records } := rfl

theorem run_call_bind (c : Call) (f : Unit → Action σ α) (s : σ) :
    (call c >>= f).run s =
      { (f ()).run s with calls := c :: ((f ()).run s).calls } := rfl

/-- An attempt never fails, so what follows it always runs. -/
theorem run_attempt_bind (x : Action σ α) (f : Except Failure α → Action σ β) (s : σ) :
    (x.attempt >>= f).run s = join (x.run s) ((f (x.run s).outcome).run (x.run s).state) := rfl

/-- A composed action stops at its first part or goes on from there. -/
theorem run_bind_cases (x : Action σ α) (f : α → Action σ β) (s : σ) :
    (∃ e, (x.run s).outcome = .error e ∧
      (x >>= f).run s = ⟨.error e, (x.run s).state, (x.run s).calls, (x.run s).records⟩) ∨
    (∃ a, (x.run s).outcome = .ok a ∧
      (x >>= f).run s = join (x.run s) ((f a).run (x.run s).state)) := by
  cases h : (x.run s).outcome with
  | error e => exact .inl ⟨e, rfl, run_bind_of_error h⟩
  | ok a => exact .inr ⟨a, rfl, run_bind_of_ok h⟩

end Action

end AdmissionHooks
