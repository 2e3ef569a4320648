/-! Actions on a state that may fail. A failure keeps the state that was reached. -/
namespace ModelForge.Action

variable {ε σ α β : Type}

theorem run_bind (first : ExceptT ε (StateM σ) α) (next : α → ExceptT ε (StateM σ) β)
    (state : σ) :
    (first >>= next).run.run state =
      match first.run.run state with
      | (.ok value, state) => (next value).run.run state
      | (.error error, state) => (.error error, state) := by
  rw [ExceptT.run_bind, StateT.run_bind]
  rcases ran : first.run.run state with ⟨_ | _, _⟩ <;> rfl

theorem run_pure (value : α) (state : σ) :
    (pure value : ExceptT ε (StateM σ) α).run.run state = (.ok value, state) := rfl

theorem run_throw (error : ε) (state : σ) :
    (throw error : ExceptT ε (StateM σ) α).run.run state = (.error error, state) := rfl

/-- An outcome with a value is known by it. Errors need not be told apart. -/
theorem eq_ok_of_toOption {outcome : Except ε α} {value : α}
    (done : outcome.toOption = some value) : outcome = .ok value := by
  cases outcome with
  | error error => cases done
  | ok other => exact congrArg Except.ok (Option.some.inj done)

theorem ran_of_toOption {ran : Except ε α × σ} {value : α}
    (done : ran.1.toOption = some value) : ran = (.ok value, ran.2) :=
  Prod.ext (eq_ok_of_toOption done) rfl

end ModelForge.Action
