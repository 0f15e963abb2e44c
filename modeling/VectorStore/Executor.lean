import VectorStore.Database.Transaction

/-!
Executors: whatever answers queries. An executor may keep a state between queries, and may fail
to answer at all; the failure of a statement is part of its answer. Operations on a store are
written against any executor.
-/
namespace VectorStore

/-- A computation over the state of an executor that may fail. What it did to the state before it
failed stays done. -/
abbrev Run (σ α : Type) := ExceptT Error (StateM σ) α

/-- Answers a query. -/
abbrev Executor (σ : Type) := Query → Run σ Response

namespace Run

variable {σ α : Type}

/-- What does not touch the state. -/
def ofExcept : Except Error α → Run σ α
  | .ok a => pure a
  | .error e => throw e

/-- The outcome and the state after it. -/
def runFrom (r : Run σ α) (s : σ) : Except Error α × σ := Id.run (StateT.run (ExceptT.run r) s)
/-- A computation by its outcome and the state after it. -/
def ofFunction (f : σ → Except Error α × σ) : Run σ α := ExceptT.mk fun s => pure (f s)

end Run

namespace Executor

variable {σ : Type}

/-- Runs a query all of whose statements have to succeed. -/
def runChecked (x : Executor σ) (q : Query) : Run σ Unit := do
  let response ← x q
  Run.ofExcept response.check

/-- Writes one record. -/
def upsert (x : Executor σ) (target : RecordId) (mode : UpsertMode) (data : Fields) :
    Run σ Unit :=
  x.runChecked [.upsert target mode data]

/-- Removes records by one statement; no records need no statement. -/
def delete (x : Executor σ) (targets : List RecordId) : Run σ Unit :=
  if targets.isEmpty then pure () else x.runChecked [.delete targets]

end Executor

/-- A database in memory with the text of every query it answered, oldest first. -/
structure Memory where
  database : Database
  log : List String

namespace Memory

def empty : Memory := ⟨.empty, []⟩

/-- Answers queries from the database. -/
def executor : Executor Memory := fun q => Run.ofFunction fun m =>
  let (response, database) := m.database.run q
  (.ok response, ⟨database, m.log ++ [q.text]⟩)

end Memory
end VectorStore
