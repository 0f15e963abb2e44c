import VectorStore.Executor
import VectorStore.Proofs.Database.Queries

/-!
Computations that can fail and those over an executor's state, taken apart step by step, and queries
on a database in memory whose statements all succeed.
-/
namespace VectorStore

theorem bind_eq_ok_iff {ε α β : Type} {outcome : Except ε α} {f : α → Except ε β} {b : β} :
    (outcome >>= f) = .ok b ↔ ∃ a, outcome = .ok a ∧ f a = .ok b := by
  cases outcome <;> simp [bind, Except.bind]

theorem mapError_eq_ok_iff {ε ε' α : Type} {f : ε → ε'} {outcome : Except ε α} {a : α} :
    outcome.mapError f = .ok a ↔ outcome = .ok a := by
  cases outcome with
  | error e =>
    change .error (f e) = Except.ok a ↔ _
    simp
  | ok b =>
    change .ok b = Except.ok a ↔ _
    simp

namespace Run

variable {σ α β : Type}

@[simp] theorem runFrom_pure (a : α) (s : σ) : (pure a : Run σ α).runFrom s = (.ok a, s) := rfl

@[simp] theorem runFrom_throw (e : Error) (s : σ) :
    (throw e : Run σ α).runFrom s = (.error e, s) := rfl

@[simp] theorem runFrom_ofExcept (outcome : Except Error α) (s : σ) :
    (ofExcept outcome).runFrom s = (outcome, s) := by
  cases outcome <;> rfl

theorem runFrom_bind (r : Run σ α) (f : α → Run σ β) (s : σ) :
    (r >>= f).runFrom s =
      match r.runFrom s with
      | (.ok a, s') => (f a).runFrom s'
      | (.error e, s') => (.error e, s') := by
  rcases ran : r.runFrom s with ⟨outcome, s'⟩
  rw [runFrom, ExceptT.run_bind, StateT.run_bind, Id.run_bind]
  replace ran : StateT.run (ExceptT.run r) s = pure (outcome, s') := ran
  rw [ran]
  cases outcome <;> rfl

theorem runFrom_bind_of_ok {r : Run σ α} {f : α → Run σ β} {s s' : σ} {a : α}
    (first : r.runFrom s = (.ok a, s')) : (r >>= f).runFrom s = (f a).runFrom s' := by
  rw [runFrom_bind, first]

theorem runFrom_bind_of_error {r : Run σ α} {f : α → Run σ β} {s s' : σ} {e : Error}
    (first : r.runFrom s = (.error e, s')) : (r >>= f).runFrom s = (.error e, s') := by
  rw [runFrom_bind, first]

theorem runFrom_tryCatch (r : Run σ α) (f : Error → Run σ α) (s : σ) :
    (tryCatch r f).runFrom s =
      match r.runFrom s with
      | (.ok a, s') => (.ok a, s')
      | (.error e, s') => (f e).runFrom s' := by
  rcases ran : r.runFrom s with ⟨outcome, s'⟩
  replace ran : StateT.run (ExceptT.run r) s = pure (outcome, s') := ran
  change Id.run (StateT.run (ExceptT.run (ExceptT.tryCatch r f)) s) = _
  rw [ExceptT.tryCatch, ExceptT.run_mk, StateT.run_bind]
  change Id.run (StateT.run (ExceptT.run r) s >>= _) = _
  rw [ran]
  cases outcome <;> rfl

end Run

namespace Response

theorem firstFailure?_map_ok (values : List Json) (index : Nat) :
    firstFailure? index (values.map StatementResult.ok) = none := by
  induction values generalizing index with
  | nil => rfl
  | cons value rest ih => exact ih (index + 1)

theorem check_map_ok (values : List Json) : check ⟨values.map .ok⟩ = .ok () := by
  rw [check, firstFailure?_map_ok]

end Response

namespace Memory

@[simp] theorem runFrom_executor (q : Query) (m : Memory) :
    (executor q).runFrom m =
      (.ok (m.database.run q).1, ⟨(m.database.run q).2, m.log ++ [q.text]⟩) := rfl

theorem runFrom_runChecked (q : Query) (m : Memory) :
    (executor.runChecked q).runFrom m =
      ((m.database.run q).1.check, ⟨(m.database.run q).2, m.log ++ [q.text]⟩) := by
  rw [Executor.runChecked, Run.runFrom_bind, runFrom_executor]
  simp

theorem runChecked_of_run {q : Query} {m : Memory} {values : List Json} {after : Database}
    (ran : m.database.run q = (⟨values.map .ok⟩, after)) :
    (executor.runChecked q).runFrom m = (.ok (), ⟨after, m.log ++ [q.text]⟩) := by
  rw [runFrom_runChecked, ran, Response.check_map_ok]

end Memory
end VectorStore
