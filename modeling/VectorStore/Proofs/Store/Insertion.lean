import VectorStore.Proofs.Database.Transactions
import VectorStore.Proofs.Store.History

/-!
Writing documents one after another against writing them in one transaction. From any database both
succeed or both fail. Where they succeed they leave the same database; where they fail the
transaction leaves nothing, and the other the documents before the first whose write failed
(`Store.add_agrees_addBatched`).
-/
namespace VectorStore

namespace Database

/-- Statements succeed one after another, or those before one that fails do. -/
theorem applyEach_or_stops (db : Database) (bindings : Bindings) (body : List Statement) :
    (∃ values after, db.applyEach bindings body = .ok (values, after)) ∨
      ∃ before statement rest values left bound fault, body = before ++ statement :: rest ∧
        db.applyEach bindings before = .ok (values, left, bound) ∧
          left.apply bound statement = .error fault := by
  induction body generalizing db bindings with
  | nil => exact .inl ⟨[], _, rfl⟩
  | cons statement rest ih =>
    cases applied : db.apply bindings statement with
    | error fault => exact .inr ⟨[], statement, rest, [], db, bindings, fault, rfl, rfl, applied⟩
    | ok outcome =>
      obtain ⟨value, next, nextBindings⟩ := outcome
      rcases ih next nextBindings with ⟨values, after, later⟩ |
        ⟨before, failing, skipped, values, left, bound, fault, rfl, earlier, failed⟩
      · exact .inl ⟨value :: values, after, by simp [applyEach, applied, later]⟩
      · refine .inr ⟨statement :: before, failing, skipped, value :: values, left, bound, fault,
          rfl, ?_, failed⟩
        simp [applyEach, applied, earlier]

/-- Statements of which one fails after those before it. -/
theorem fails_of_stops {db left : Database} {bindings bound : Bindings}
    {before : List Statement} {statement : Statement} {values : List Json} {fault : StatementFault}
    (earlier : db.applyEach bindings before = .ok (values, left, bound))
    (failed : left.apply bound statement = .error fault) (rest : List Statement) :
    ∃ inside, Fails db bindings (before ++ statement :: rest) inside bound := by
  induction before generalizing db bindings values with
  | nil =>
    obtain ⟨-, rfl, rfl⟩ : [] = values ∧ db = left ∧ bindings = bound := by
      simpa [applyEach] using earlier
    exact ⟨_, .here failed rest⟩
  | cons first later ih =>
    rw [applyEach] at earlier
    split at earlier
    · contradiction
    next value next nextBindings applied =>
      split at earlier
      · contradiction
      next others after remaining =>
        obtain ⟨-, rfl⟩ : value :: others = values ∧ after = (left, bound) := by
          simpa using earlier
        obtain ⟨inside, fails⟩ := ih remaining
        exact ⟨_, .later applied fails⟩

end Database

namespace Store

/-- The statement that writes a document. -/
def write (s : Store) (e : StoredDocument) : Statement :=
  .upsert (s.entry e).1 s.upsertMode (s.entry e).2

/-- Where writing documents one after another stops, and what it leaves of a database. -/
inductive Stops (s : Store) (documents : List Document) (db : Database) : Database → Prop
  /-- The documents cannot be prepared, and nothing is written. -/
  | unprepared {fault : Error} (refused : s.prepare documents = .error fault) :
    Stops s documents db db
  /-- The database refuses a document, and those before it are written. -/
  | refused {entries : List (RecordId × Fields)} {before rest : List StoredDocument}
      {failing : StoredDocument} {values : List Json} {left : Database} {bindings : Bindings}
      {fault : StatementFault} (prepared : s.prepare documents = .ok entries)
      (order : documents = (before ++ failing :: rest).map (·.document))
      (vectors : s.stored documents = before ++ failing :: rest)
      (written : db.applyEach .empty (before.map s.write) = .ok (values, left, bindings))
      (failed : left.apply bindings (s.write failing) = .error fault) :
    Stops s documents db left

theorem writes_map_entry (s : Store) (documents : List StoredDocument) :
    s.writes (documents.map s.entry) = documents.map s.write := by
  rw [writes, List.map_map]
  rfl

/-! ## One after another -/

variable {s : Store} {m : Memory} {documents : List Document} {stored : List StoredDocument}

theorem runFrom_add_of_applyEach {values : List Json} {after : Database} {bindings : Bindings}
    (prepared : s.prepare documents = .ok (stored.map s.entry))
    (applied : m.database.applyEach .empty (stored.map s.write) = .ok (values, after, bindings)) :
    ∃ log, (s.add Memory.executor documents).runFrom m = (.ok (), ⟨after, log⟩) := by
  rw [← writes_map_entry] at applied
  obtain ⟨log, ran⟩ := runFrom_writeEach_append applied []
  rw [List.append_nil] at ran
  exact ⟨log, (runFrom_add_of_ok prepared ..).trans ran⟩

theorem apply_write_eq_error {e : StoredDocument} {db : Database} {bindings : Bindings}
    {fault : StatementFault} (failed : db.apply bindings (s.write e) = .error fault)
    (other : Bindings) : db.apply other (s.write e) = .error fault := by
  rw [write, Database.apply] at failed ⊢
  cases upserted : db.upsert (s.entry e).1 s.upsertMode (s.entry e).2 with
  | error fault' =>
    rw [upserted] at failed
    exact failed
  | ok outcome => simp [upserted, Except.map] at failed

/-- The writes before one that fails stay. -/
theorem runFrom_add_of_stops {before rest : List StoredDocument} {failing : StoredDocument}
    {values : List Json} {left : Database} {bindings : Bindings} {fault : StatementFault}
    (prepared : s.prepare documents = .ok ((before ++ failing :: rest).map s.entry))
    (written : m.database.applyEach .empty (before.map s.write) = .ok (values, left, bindings))
    (failed : left.apply bindings (s.write failing) = .error fault) :
    ∃ log, (s.add Memory.executor documents).runFrom m =
      (.error (Response.failure 0 (.err fault.message)), ⟨left, log⟩) := by
  rw [← writes_map_entry] at written
  obtain ⟨log, ran⟩ := runFrom_writeEach_append written ((failing :: rest).map s.entry)
  have alone : left.run [s.write failing] = (⟨[.err fault.message]⟩, left) :=
    Database.run_of_apply_error rfl (apply_write_eq_error failed .empty)
  have refused : (Memory.executor.runChecked [s.write failing]).runFrom ⟨left, log⟩ =
      (.error (Response.failure 0 (.err fault.message)),
        ⟨left, log ++ [Query.text [s.write failing]]⟩) := by
    rw [Memory.runFrom_runChecked, alone]
    rfl
  refine ⟨log ++ [Query.text [s.write failing]], ?_⟩
  rw [runFrom_add_of_ok prepared, List.map_append, ran]
  exact Run.runFrom_bind_of_error refused

/-! ## In one transaction -/

theorem eq_nil_of_prepare_nil (prepared : s.prepare [] = .ok (stored.map s.entry)) :
    stored = [] := by
  rw [prepare_nil] at prepared
  exact List.map_eq_nil_iff.mp (Except.ok.inj prepared).symm

theorem plain_write : Statement.Plain (stored.map s.write) := by
  rw [← writes_map_entry]
  exact isBracket_of_mem_writes

theorem runFrom_addBatched_of_applyEach {values : List Json} {after : Database}
    {bindings : Bindings} (prepared : s.prepare documents = .ok (stored.map s.entry))
    (applied : m.database.applyEach .empty (stored.map s.write) = .ok (values, after, bindings)) :
    ∃ log, (s.addBatched Memory.executor documents).runFrom m = (.ok (), ⟨after, log⟩) := by
  by_cases none : documents = []
  · -- nothing is submitted for no documents, and nothing would change
    subst none
    obtain rfl := eq_nil_of_prepare_nil prepared
    obtain ⟨-, rfl, -⟩ : [] = values ∧ m.database = after ∧ .empty = bindings := by
      simpa [Database.applyEach] using applied
    exact ⟨m.log, rfl⟩
  · rw [runFrom_addBatched_of_ok none prepared, writes_map_entry]
    exact ⟨_, Memory.runChecked_of_run
      (Database.run_transaction_of_applyEach plain_write applied)⟩

/-- One write that fails takes all back. -/
theorem runFrom_addBatched_of_fails {inside : List StatementResult} {bindings : Bindings}
    (prepared : s.prepare documents = .ok (stored.map s.entry))
    (fails : Fails m.database .empty (stored.map s.write) inside bindings) :
    ∃ fault log, (s.addBatched Memory.executor documents).runFrom m =
      (.error fault, ⟨m.database, log⟩) := by
  have some : documents ≠ [] := by
    rintro rfl
    obtain rfl := eq_nil_of_prepare_nil prepared
    cases fails
  rw [runFrom_addBatched_of_ok some prepared, writes_map_entry, Memory.runFrom_runChecked,
    Database.run_transaction_of_fails plain_write fails]
  exact ⟨_, _, rfl⟩

/-! ## Both -/

/-- Prepared documents are all written one after another, or those before one that is refused. -/
theorem applyEach_write_or_stops {entries : List (RecordId × Fields)}
    (prepared : s.prepare documents = .ok entries) (db : Database) :
    (∃ values after, db.applyEach .empty ((s.stored documents).map s.write) = .ok (values, after)) ∨
      ∃ before failing rest values left bindings fault,
        documents = (before ++ failing :: rest).map (·.document) ∧
          s.stored documents = before ++ failing :: rest ∧
            db.applyEach .empty (before.map s.write) = .ok (values, left, bindings) ∧
              left.apply bindings (s.write failing) = .error fault := by
  rcases db.applyEach_or_stops .empty ((s.stored documents).map s.write) with
    all | ⟨written, refused, skipped, values, left, bindings, fault, order, applied, failed⟩
  · exact .inl all
  · -- the statements are those of the documents, in order
    obtain ⟨before, others, vectors, rfl, tail⟩ := List.map_eq_append_iff.mp order
    obtain ⟨failing, rest, rfl, rfl, rfl⟩ := List.map_eq_cons_iff.mp tail
    have documentsOf := documents_stored_of_prepare prepared
    rw [vectors] at documentsOf
    exact .inr ⟨before, failing, rest, values, left, bindings, fault, documentsOf.symm, vectors,
      applied, failed⟩

/-- Writing documents one after another succeeds exactly if writing them in one transaction does,
and then both leave the same database. If not, the transaction leaves the database as it was, and
the other the documents before the first whose write failed. -/
theorem add_agrees_addBatched (s : Store) (m : Memory) (documents : List Document) :
    let single := (s.add Memory.executor documents).runFrom m
    let batch := (s.addBatched Memory.executor documents).runFrom m
    (single.1 = .ok () ↔ batch.1 = .ok ()) ∧
      (single.1 = .ok () → single.2.database = batch.2.database) ∧
      (single.1 ≠ .ok () → batch.2.database = m.database ∧
        s.Stops documents m.database single.2.database) := by
  intro single batch
  cases prepared : s.prepare documents with
  | error fault =>
    have one : single = (.error fault, m) := runFrom_add_of_error prepared _ m
    have all : batch = (.error fault, m) := runFrom_addBatched_of_error prepared _ m
    rw [one, all]
    exact ⟨.rfl, nofun, fun _ => ⟨rfl, .unprepared prepared⟩⟩
  | ok entries =>
    obtain ⟨rfl, -⟩ := prepare_eq_ok prepared
    rcases applyEach_write_or_stops prepared m.database with ⟨values, ⟨after, bindings⟩, applied⟩ |
      ⟨before, failing, rest, values, left, bindings, fault, order, vectors, applied, failed⟩
    · obtain ⟨log, one⟩ := runFrom_add_of_applyEach prepared applied
      obtain ⟨log', all⟩ := runFrom_addBatched_of_applyEach prepared applied
      replace one : single = (.ok (), ⟨after, log⟩) := one
      replace all : batch = (.ok (), ⟨after, log'⟩) := all
      rw [one, all]
      exact ⟨.rfl, fun _ => rfl, fun failed => absurd rfl failed⟩
    · obtain ⟨inside, fails⟩ := Database.fails_of_stops applied failed (rest.map s.write)
      rw [← List.map_cons, ← List.map_append] at fails
      rw [vectors] at prepared
      obtain ⟨log, one⟩ := runFrom_add_of_stops prepared applied failed
      obtain ⟨fault', log', all⟩ := runFrom_addBatched_of_fails prepared fails
      replace one : single = (.error (Response.failure 0 (.err fault.message)), ⟨left, log⟩) := one
      replace all : batch = (.error fault', ⟨m.database, log'⟩) := all
      rw [one, all]
      refine ⟨⟨nofun, nofun⟩, nofun, fun _ => ⟨rfl, ?_⟩⟩
      exact .refused prepared order vectors applied failed

end Store
end VectorStore
