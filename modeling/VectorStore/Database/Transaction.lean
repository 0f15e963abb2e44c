import VectorStore.Database.Basic
import VectorStore.Response

/-!
Queries on a database in memory. A transaction runs from `BEGIN` to the next `COMMIT`; if one of
its statements fails, or no `COMMIT` follows, the database is set back to the latest `BEGIN` and
every result from there on is an error. A statement that fails outside a transaction does not
stop the statements after it.
-/
namespace VectorStore

/-- Where a transaction began: the database then, and the number of results before it. -/
structure Snapshot where
  database : Database
  start : Nat

/-- A query part way through. -/
structure Session where
  database : Database
  bindings : Bindings
  results : List StatementResult
  snapshot : Option Snapshot
  failed : Bool

namespace Session

/-- Before the first statement. -/
def start (db : Database) : Session := ⟨db, .empty, [], none, false⟩

def push (s : Session) (r : StatementResult) : Session := { s with results := s.results ++ [r] }
def refuse (s : Session) (fault : StatementFault) : Session := s.push (.err fault.message)

/-- A result of a transaction that is given up: what succeeded did not happen. -/
def discard (r : StatementResult) : StatementResult :=
  match r.status with
  | .ok => .err StatementFault.transactionFailed.message
  | .err => r

/-- Sets the database back to a snapshot and discards the results since. -/
def rollBack (s : Session) (snapshot : Snapshot) : Session :=
  { s with
    database := snapshot.database
    results := s.results.take snapshot.start ++ (s.results.drop snapshot.start).map discard
    snapshot := none
    failed := false }

/-- Runs one statement. -/
def step (s : Session) : Statement → Session
  | .beginTransaction =>
    { s with snapshot := some ⟨s.database, s.results.length⟩, failed := false }.push (.ok .null)
  | .commitTransaction =>
    match s.snapshot with
    | none => { s with failed := false }.refuse .noTransaction
    | some snapshot =>
      if s.failed then (s.rollBack snapshot).refuse .transactionFailed
      else { s with snapshot := none }.push (.ok .null)
  | statement =>
    if s.failed then s.refuse .transactionFailed
    else
      match s.database.apply s.bindings statement with
      | .ok (value, database, bindings) =>
        { s with database := database, bindings := bindings }.push (.ok value)
      | .error fault => { s with failed := s.snapshot.isSome }.refuse fault

/-- Gives up a transaction that is still open. -/
def finish (s : Session) : Session :=
  match s.snapshot with
  | some snapshot => s.rollBack snapshot
  | none => s

end Session

/-- Runs a query: its response and the database after it. -/
def Database.run (db : Database) (q : Query) : Response × Database :=
  let s := (q.foldl Session.step (.start db)).finish
  (⟨s.results⟩, s.database)

end VectorStore
