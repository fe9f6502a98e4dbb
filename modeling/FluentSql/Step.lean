import FluentSql.Failure
/-
# FluentSql.Step — computations that change a state and may fail.

A step that fails keeps what it changed before it failed: the failure is reported beside the state
that it left, not instead of it.
-/

namespace FluentSql

/-- A computation over a state that may fail. -/
abbrev Step (σ α : Type) := ExceptT Failure (StateM σ) α

namespace Step

variable {σ τ α : Type}

/-- The result and the state that a step leaves. -/
def perform (step : Step σ α) (s : σ) : Except Failure α × σ := step.run.run s

/-- The step that a transition describes. -/
def ofTransition (transition : σ → Except Failure α × σ) : Step σ α := transition

/-- A step on a part of the state. -/
def onPart (get : σ → τ) (set : τ → σ → σ) (step : Step τ α) : Step σ α :=
  ofTransition fun s =>
    let done := step.perform (get s)
    (done.1, set done.2 s)

/-- Runs a step and changes the state afterwards, whether the step failed or not. -/
def andThenAlways (step : Step σ α) (change : σ → σ) : Step σ α :=
  ofTransition fun s =>
    let done := step.perform s
    (done.1, change done.2)

/-- The result of a step, or its failure as a value. -/
def attempt (step : Step σ α) : Step σ (Except Failure α) :=
  ofTransition fun s =>
    let done := step.perform s
    (.ok done.1, done.2)

@[simp] theorem perform_ofTransition (transition : σ → Except Failure α × σ) (s : σ) :
    (ofTransition transition).perform s = transition s := rfl

@[simp] theorem perform_pure (a : α) (s : σ) : (pure a : Step σ α).perform s = (.ok a, s) := rfl

@[simp] theorem perform_throw (failure : Failure) (s : σ) :
    (throw failure : Step σ α).perform s = (.error failure, s) := rfl

@[simp] theorem perform_modify (f : σ → σ) (s : σ) :
    (modify f : Step σ Unit).perform s = (.ok (), f s) := rfl

@[simp] theorem perform_onPart (get : σ → τ) (set : τ → σ → σ) (step : Step τ α) (s : σ) :
    (onPart get set step).perform s =
      ((step.perform (get s)).1, set (step.perform (get s)).2 s) := rfl

/-- The change at the end happens on every path. -/
@[simp] theorem perform_andThenAlways (step : Step σ α) (change : σ → σ) (s : σ) :
    (step.andThenAlways change).perform s = ((step.perform s).1, change (step.perform s).2) := rfl

@[simp] theorem perform_attempt (step : Step σ α) (s : σ) :
    step.attempt.perform s = (.ok (step.perform s).1, (step.perform s).2) := rfl

theorem perform_bind {β : Type} (step : Step σ α) (next : α → Step σ β) (s : σ) :
    (step >>= next).perform s =
      match step.perform s with
      | (.ok a, s') => (next a).perform s'
      | (.error failure, s') => (.error failure, s') := by
  simp only [perform, ExceptT.run, bind, ExceptT.bind, ExceptT.mk, StateT.bind, StateT.run,
    ExceptT.bindCont]
  rcases step s with ⟨result, s'⟩
  cases result <;> rfl

end Step

end FluentSql
