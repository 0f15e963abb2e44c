import VectorStore.Database.Transaction
import VectorStore.Proofs.SortedMap

/-!
What queries answer and leave. Statements that succeed one after another (`Database.applyEach`) give
the database that a query of them leaves, with and without a transaction around them; writes and
removals are followed into the records of their table.
-/
namespace VectorStore

/-- Whether a statement begins or commits a transaction. -/
def Statement.isBracket : Statement → Bool
  | .beginTransaction | .commitTransaction => true
  | _ => false

namespace Database

/-- The values that statements answer with one after another, and the database and bindings after
the last, unless one fails. -/
def applyEach (db : Database) (bindings : Bindings) :
    List Statement → Except StatementFault (List Json × Database × Bindings)
  | [] => .ok ([], db, bindings)
  | statement :: rest =>
    match db.apply bindings statement with
    | .error fault => .error fault
    | .ok (value, db, bindings) =>
      match db.applyEach bindings rest with
      | .error fault => .error fault
      | .ok (values, after) => .ok (value :: values, after)

end Database

namespace Session

theorem step_of_apply {s : Session} {statement : Statement} {value : Json} {db : Database}
    {bindings : Bindings} (plain : statement.isBracket = false) (going : s.failed = false)
    (applied : s.database.apply s.bindings statement = .ok (value, db, bindings)) :
    s.step statement = { s with database := db, bindings := bindings }.push (.ok value) := by
  cases statement with
  | beginTransaction => simp [Statement.isBracket] at plain
  | commitTransaction => simp [Statement.isBracket] at plain
  | bind param vector => simp [step, going, applied]
  | select selection => simp [step, going, applied]
  | upsert target mode data => simp [step, going, applied]
  | delete targets => simp [step, going, applied]
  | defineIndex index => simp [step, going, applied]

theorem foldl_step_of_applyEach {db : Database} {bindings : Bindings} :
    {statements : List Statement} → {values : List Json} → {s : Session} →
      (∀ statement ∈ statements, statement.isBracket = false) → s.failed = false →
      s.database.applyEach s.bindings statements = .ok (values, db, bindings) →
      statements.foldl step s =
        { s with
          database := db
          bindings := bindings
          results := s.results ++ values.map .ok }
  | [], values, s, _, _, applied => by
    simp only [Database.applyEach, Except.ok.injEq, Prod.mk.injEq] at applied
    obtain ⟨rfl, rfl, rfl⟩ := applied
    simp
  | statement :: rest, values, s, plain, going, applied => by
    rw [Database.applyEach] at applied
    split at applied
    · contradiction
    next value db' bindings' first =>
      split at applied
      · contradiction
      next values' after later =>
        obtain ⟨rfl, rfl⟩ : value :: values' = values ∧ after = (db, bindings) := by
          simpa using applied
        rw [List.foldl_cons, step_of_apply (plain _ List.mem_cons_self) going first]
        have remaining := foldl_step_of_applyEach
          (s := { s with database := db', bindings := bindings' }.push (.ok value))
          (fun st member => plain st (List.mem_cons_of_mem _ member)) going later
        rw [remaining]
        simp [push]

end Session

namespace Database

theorem run_of_applyEach {db after : Database} {bindings : Bindings} {statements : List Statement}
    {values : List Json} (plain : ∀ statement ∈ statements, statement.isBracket = false)
    (applied : db.applyEach .empty statements = .ok (values, after, bindings)) :
    db.run statements = (⟨values.map .ok⟩, after) := by
  have steps := Session.foldl_step_of_applyEach (s := .start db) plain rfl applied
  simp only [run, steps]
  simp [Session.finish, Session.start]

/-- A transaction whose statements succeed leaves what they leave. -/
theorem run_transaction_of_applyEach {db after : Database} {bindings : Bindings}
    {statements : List Statement} {values : List Json}
    (plain : ∀ statement ∈ statements, statement.isBracket = false)
    (applied : db.applyEach .empty statements = .ok (values, after, bindings)) :
    db.run (Query.transaction statements) =
      (⟨(Json.null :: values ++ [Json.null]).map .ok⟩, after) := by
  let opened : Session := (Session.start db).step .beginTransaction
  have steps := Session.foldl_step_of_applyEach (s := opened) plain rfl applied
  have first : opened.results = [.ok .null] := rfl
  have closing : (statements.foldl Session.step opened).step .commitTransaction =
      { statements.foldl Session.step opened with snapshot := none }.push (.ok .null) := by
    rw [steps]
    rfl
  rw [run, Query.transaction, List.foldl_append, List.foldl_cons, List.foldl_cons, List.foldl_nil,
    closing, steps]
  simp [Session.finish, Session.push, first]

/-- A selection after a binding leaves the database as it is, whatever it answers. -/
theorem run_bind_select (db : Database) (param : Ident) (v : List Float32) (s : Selection) :
    db.run [.bind param v, .select s] =
      (⟨[.ok .null, match db.selectRows (.insert .empty param.text (v.map widen)) s with
        | .ok rows => .ok (.array (rows.map Json.ofFields))
        | .error fault => .err fault.message]⟩, db) := by
  cases selected : db.selectRows (.insert .empty param.text (v.map widen)) s <;>
    simp [run, Session.start, Session.step, apply, Session.push, Session.refuse, selected,
      Except.map, Session.finish]

theorem run_bind_select_of_ok {db : Database} (param : Ident) (v : List Float32) {s : Selection}
    {rows : List Fields}
    (selected : db.selectRows (.insert .empty param.text (v.map widen)) s = .ok rows) :
    db.run [.bind param v, .select s] =
      (⟨[.ok .null, .ok (.array (rows.map Json.ofFields))]⟩, db) := by
  rw [run_bind_select, selected]

/-! ## Records of a table -/

@[simp] theorem table_put_self (db : Database) (table key : String) (record : Fields) :
    (db.put table key record).table table = (db.table table).insert key record := by
  simp [Database.table, put]

@[simp] theorem indexes_put (db : Database) (table key : String) (record : Fields) :
    (db.put table key record).indexes = db.indexes := rfl

@[simp] theorem indexes_remove (db : Database) (target : RecordId) :
    (db.remove target).indexes = db.indexes := by
  rw [remove]
  split <;> rfl

theorem table_remove_self (db : Database) (target : RecordId) :
    (db.remove target).table target.table.text = (db.table target.table.text).erase target.key := by
  rw [remove]
  split
  next records found => simp [Database.table, found]
  next missing =>
    rw [Database.table, missing]
    rfl

/-- A write that does not merge leaves nothing of the record before. -/
theorem written_of_ne_merge {mode : UpsertMode} (replaces : mode ≠ .merge) (target : RecordId)
    (before : Option Fields) (data : Fields) :
    written target mode before data = data.insert "id" (.string target.text) := by
  cases mode with
  | merge => contradiction
  | content => rfl
  | replace => rfl

/-- The database after a record is written. -/
def write (mode : UpsertMode) (db : Database) (entry : RecordId × Fields) : Database :=
  let before := db.record? entry.1.table.text entry.1.key
  db.put entry.1.table.text entry.1.key (written entry.1 mode before entry.2)

@[simp] theorem indexes_write (mode : UpsertMode) (db : Database) (entry : RecordId × Fields) :
    (write mode db entry).indexes = db.indexes := rfl

/-- Only the indexes object to a record. -/
theorem dimensionFault?_congr {db db' : Database} (same : db.indexes = db'.indexes)
    (table : String) (data : Fields) :
    db.dimensionFault? table data = db'.dimensionFault? table data := by
  rw [dimensionFault?, same]
  rfl

theorem upsert_eq_write {db : Database} {entry : RecordId × Fields} (mode : UpsertMode)
    (fits : db.dimensionFault? entry.1.table.text entry.2 = none) :
    ∃ value, db.upsert entry.1 mode entry.2 = .ok (value, write mode db entry) := by
  simp [upsert, fits, write]

theorem applyEach_upserts (mode : UpsertMode) (bindings : Bindings) :
    {entries : List (RecordId × Fields)} → {db : Database} →
      (∀ entry ∈ entries, db.dimensionFault? entry.1.table.text entry.2 = none) →
      ∃ values, db.applyEach bindings (entries.map fun entry => .upsert entry.1 mode entry.2) =
        .ok (values, entries.foldl (write mode) db, bindings)
  | [], _, _ => ⟨[], rfl⟩
  | entry :: rest, db, fit => by
    obtain ⟨value, first⟩ := upsert_eq_write mode (fit entry List.mem_cons_self)
    have fitLater : ∀ e ∈ rest, (write mode db entry).dimensionFault? e.1.table.text e.2 = none :=
      fun e member => (dimensionFault?_congr (indexes_write mode db entry) ..).trans
        (fit e (List.mem_cons_of_mem _ member))
    obtain ⟨values, later⟩ := applyEach_upserts mode bindings fitLater
    refine ⟨value :: values, ?_⟩
    rw [List.map_cons, applyEach, apply, first]
    simp only [Except.map, later, List.foldl_cons]

theorem indexes_foldl_write (mode : UpsertMode) (entries : List (RecordId × Fields))
    (db : Database) : (entries.foldl (write mode) db).indexes = db.indexes := by
  induction entries generalizing db with
  | nil => rfl
  | cons entry rest ih => rw [List.foldl_cons, ih, indexes_write]

/-- Writes to one table, on its records. -/
theorem table_foldl_write {table : Ident} (mode : UpsertMode) :
    {entries : List (RecordId × Fields)} → (∀ entry ∈ entries, entry.1.table = table) →
      (db : Database) →
      (entries.foldl (write mode) db).table table.text =
        entries.foldl (fun records entry =>
          records.insert entry.1.key (written entry.1 mode (records.find? entry.1.key) entry.2))
          (db.table table.text)
  | [], _, _ => rfl
  | entry :: rest, within, db => by
    have here : entry.1.table = table := within entry List.mem_cons_self
    rw [List.foldl_cons, List.foldl_cons,
      table_foldl_write mode (fun e member => within e (List.mem_cons_of_mem _ member)),
      write, here, table_put_self]
    rfl

theorem indexes_foldl_remove (targets : List RecordId) (db : Database) :
    (targets.foldl remove db).indexes = db.indexes := by
  induction targets generalizing db with
  | nil => rfl
  | cons target rest ih => rw [List.foldl_cons, ih, indexes_remove]

/-- Removals from one table, on its records. -/
theorem table_foldl_remove {table : Ident} :
    {targets : List RecordId} → (∀ target ∈ targets, target.table = table) → (db : Database) →
      (targets.foldl remove db).table table.text =
        targets.foldl (fun records target => records.erase target.key) (db.table table.text)
  | [], _, _ => rfl
  | target :: rest, within, db => by
    have here : target.table = table := within target List.mem_cons_self
    rw [List.foldl_cons, List.foldl_cons,
      table_foldl_remove fun t member => within t (List.mem_cons_of_mem _ member),
      ← here, table_remove_self]

end Database
end VectorStore
