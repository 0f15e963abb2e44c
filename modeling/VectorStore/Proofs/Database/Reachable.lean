import VectorStore.Proofs.Database.Transactions

/-!
The states of a database while queries run on it one after another. A statement that succeeds
writes one record, removes records, adds an index under a new name or changes nothing
(`Database.leaves_of_apply`), and a transaction that is given up goes back to a state passed before.
So what these changes keep holds before and after every statement of every query
(`Session.holds_after`).
-/
namespace VectorStore

/-- The index that a definition adds. -/
def IndexDefinition.entry (d : IndexDefinition) : IndexEntry :=
  ⟨d.table.text, d.field.text, d.dimension, d.distance⟩

/-- Whether a statement leaves every database as it is. -/
def Statement.isPassive : Statement → Bool
  | .bind _ _ | .select _ | .beginTransaction | .commitTransaction => true
  | .upsert _ _ _ | .delete _ | .defineIndex _ => false

namespace Database

/-! ## One statement -/

/-- What a statement that succeeds leaves of a database. -/
inductive Leaves (db : Database) : Statement → Database → Prop
  | same {statement : Statement} (passive : statement.isPassive = true) : Leaves db statement db
  | wrote (target : RecordId) (mode : UpsertMode) (data : Fields)
      (fits : db.dimensionFault? target.table.text data = none) :
      Leaves db (.upsert target mode data) (write mode db (target, data))
  | removed (targets : List RecordId) : Leaves db (.delete targets) (targets.foldl remove db)
  | defined (d : IndexDefinition) (fresh : db.indexes.find? d.name.text = none) :
      Leaves db (.defineIndex d) { db with indexes := db.indexes.insert d.name.text d.entry }
  /-- A definition of a name in use, where that is allowed. -/
  | passedOver (d : IndexDefinition) : Leaves db (.defineIndex d) db

theorem leaves_of_apply {db db' : Database} {bindings bindings' : Bindings}
    {statement : Statement} {value : Json}
    (applied : db.apply bindings statement = .ok (value, db', bindings')) :
    db.Leaves statement db' := by
  cases statement with
  | bind param vector =>
    obtain ⟨-, rfl, -⟩ := by simpa [apply] using applied
    exact .same rfl
  | select s =>
    rw [apply] at applied
    cases selected : db.selectRows bindings s with
    | error fault => simp [selected, Except.map] at applied
    | ok rows =>
      obtain ⟨-, rfl, -⟩ := by simpa [selected, Except.map] using applied
      exact .same rfl
  | upsert target mode data =>
    rw [apply] at applied
    cases fits : db.dimensionFault? target.table.text data with
    | some fault => simp [upsert, fits, Except.map] at applied
    | none =>
      obtain ⟨answer, wrote⟩ := @upsert_eq_write db (target, data) mode fits
      obtain ⟨-, rfl, -⟩ := by simpa [wrote, Except.map] using applied
      exact .wrote target mode data fits
  | delete targets =>
    obtain ⟨-, rfl, -⟩ := by simpa [apply] using applied
    exact .removed targets
  | defineIndex d =>
    rw [apply, defineIndex, hasIndex, SortedMap.contains] at applied
    cases used : db.indexes.find? d.name.text with
    | none =>
      obtain ⟨-, rfl, -⟩ := by simpa [used, Except.map] using applied
      exact .defined d used
    | some index =>
      cases optional : d.ifNotExists with
      | false => simp [used, optional, Except.map] at applied
      | true =>
        obtain ⟨-, rfl, -⟩ := by simpa [used, optional, Except.map] using applied
        exact .passedOver d
  | beginTransaction | commitTransaction =>
    obtain ⟨-, rfl, -⟩ := by simpa [apply] using applied
    exact .same rfl

/-! ## Records by table and key -/

variable {db : Database} {table key : String} {record : Fields}

theorem record?_put (db : Database) (table key : String) (record : Fields) (t k : String) :
    (db.put table key record).record? t k =
      if t = table ∧ k = key then some record else db.record? t k := by
  rw [record?, Database.table, put, SortedMap.find?_insert]
  by_cases here : t = table
  · subst here
    simp [SortedMap.find?_insert, record?]
  · simp [here, record?, Database.table]

theorem record?_write (mode : UpsertMode) (db : Database) (entry : RecordId × Fields)
    (t k : String) :
    (write mode db entry).record? t k =
      if t = entry.1.table.text ∧ k = entry.1.key then
        some (written entry.1 mode (db.record? t k) entry.2)
      else db.record? t k := by
  rw [write, record?_put]
  split
  next here => rw [here.1, here.2]
  · rfl

theorem record?_remove (db : Database) (target : RecordId) (t k : String) :
    (db.remove target).record? t k =
      if t = target.table.text ∧ k = target.key then none else db.record? t k := by
  by_cases here : t = target.table.text
  · subst here
    rw [record?, table_remove_self, SortedMap.find?_erase]
    simp [record?]
  · rw [remove]
    split
    · simp [record?, Database.table, SortedMap.find?_insert, here]
    · simp [here]

theorem put_put_self (db : Database) (table key key' : String) (record record' : Fields) :
    (db.put table key record).put table key' record' =
      ⟨db.tables.insert table (((db.table table).insert key record).insert key' record'),
        db.indexes⟩ := by
  rw [put, table_put_self]
  simp [put, SortedMap.insert_insert_self]

theorem put_put_of_ne (db : Database) {table table' : String} (ne : table ≠ table')
    (key key' : String) (record record' : Fields) :
    (db.put table key record).put table' key' record' =
      ⟨(db.tables.insert table ((db.table table).insert key record)).insert table'
        ((db.table table').insert key' record'), db.indexes⟩ := by
  have other : (db.put table key record).table table' = db.table table' := by
    simp [put, Database.table, SortedMap.find?_insert, Ne.symm ne]
  rw [put, other]
  rfl

theorem put_comm (db : Database) {table key table' key' : String}
    (apart : ¬ (table = table' ∧ key = key')) (record record' : Fields) :
    (db.put table key record).put table' key' record' =
      (db.put table' key' record').put table key record := by
  by_cases same : table = table'
  · subst same
    have ne : key ≠ key' := fun equal => apart ⟨rfl, equal⟩
    rw [put_put_self, put_put_self, SortedMap.insert_comm _ ne]
  · rw [put_put_of_ne db same, put_put_of_ne db (Ne.symm same), SortedMap.insert_comm _ same]

/-- Writes of different records do not see each other, in any mode. -/
theorem write_comm (mode : UpsertMode) (db : Database) {first second : RecordId × Fields}
    (apart : first.1 ≠ second.1) :
    write mode (write mode db first) second = write mode (write mode db second) first := by
  obtain ⟨⟨⟨table, valid⟩, key⟩, data⟩ := first
  obtain ⟨⟨⟨table', valid'⟩, key'⟩, data'⟩ := second
  have keys : ¬ (table = table' ∧ key = key') := by
    rintro ⟨rfl, rfl⟩
    exact apart rfl
  have keys' : ¬ (table' = table ∧ key' = key) := fun same => keys ⟨same.1.symm, same.2.symm⟩
  simp only [write, record?_put, if_neg keys, if_neg keys']
  exact db.put_comm keys ..

/-- Removing records leaves no record that was not there. -/
theorem record?_of_foldl_remove {targets : List RecordId}
    (found : (targets.foldl remove db).record? table key = some record) :
    db.record? table key = some record := by
  induction targets generalizing db with
  | nil => exact found
  | cons target rest ih =>
    have left := ih found
    rw [record?_remove] at left
    split at left
    · contradiction
    · exact left

end Database

/-! ## Queries one after another -/

namespace Session

/-- What holds of the database and of the one to go back to. -/
def Holds (P : Database → Prop) (s : Session) : Prop :=
  P s.database ∧ ∀ snapshot ∈ s.snapshot, P snapshot.database

variable {P : Database → Prop} {s : Session}

theorem holds_start {db : Database} (first : P db) : (start db).Holds P := ⟨first, nofun⟩

/-- A step keeps what the statement keeps if it succeeds: all else is skipped, refused or goes back
to the database before the transaction. -/
theorem Holds.step {statement : Statement} (holds : s.Holds P)
    (kept : s.failed = false → ∀ db, s.database.Leaves statement db → P db) :
    (s.step statement).Holds P := by
  cases bracket : statement.isBracket with
  | false =>
    rw [step_of_plain bracket]
    split
    · exact holds
    next going =>
      split
      next value database bindings applied =>
        exact ⟨kept (by simpa using going) _ (Database.leaves_of_apply applied), holds.2⟩
      · exact holds
  | true =>
    cases statement with
    | beginTransaction =>
      refine ⟨holds.1, ?_⟩
      rintro _ ⟨⟩
      exact holds.1
    | commitTransaction =>
      rw [Session.step]
      split
      · exact holds
      next snapshot taken =>
        split
        · exact ⟨holds.2 snapshot taken, by rintro _ ⟨⟩⟩
        · exact ⟨holds.1, by rintro _ ⟨⟩⟩
    | bind _ _ | select _ | upsert _ _ _ | delete _ | defineIndex _ => contradiction

theorem Holds.finish (holds : s.Holds P) : P s.finish.database := by
  rw [Session.finish]
  split
  next snapshot taken => exact holds.2 snapshot taken
  · exact holds.1

/-- Every statement of a query may run where the query meets it. -/
def Permits (may : Session → Statement → Prop) : Session → Query → Prop
  | _, [] => True
  | s, statement :: rest => may s statement ∧ Permits may (s.step statement) rest

theorem permits_of_mem {may : Session → Statement → Prop} {q : Query}
    (always : ∀ statement ∈ q, ∀ s, may s statement) (s : Session) : Permits may s q := by
  induction q generalizing s with
  | nil => trivial
  | cons statement rest ih =>
    obtain ⟨first, later⟩ := List.forall_mem_cons.mp always
    exact ⟨first s, ih later _⟩

/-- What the statements keep that may run. -/
def Keeps (may : Session → Statement → Prop) (P : Database → Prop) : Prop :=
  ∀ s statement db, may s statement → s.failed = false → P s.database →
    s.database.Leaves statement db → P db

theorem Holds.foldl {may : Session → Statement → Prop} (keeps : Keeps may P) {q : Query}
    (permits : Permits may s q) (holds : s.Holds P) : (q.foldl Session.step s).Holds P := by
  induction q generalizing s with
  | nil => exact holds
  | cons statement rest ih =>
    obtain ⟨first, later⟩ := permits
    refine ih later (holds.step fun going db leaves => ?_)
    exact keeps s statement db first going holds.1 leaves

end Session

namespace Database

/-- The database after queries. -/
def runAll (db : Database) (queries : List Query) : Database :=
  queries.foldl (fun db q => (db.run q).2) db

/-- Every statement of queries may run where they meet it. -/
def Permits (may : Session → Statement → Prop) : Database → List Query → Prop
  | _, [] => True
  | db, q :: rest => Session.Permits may (.start db) q ∧ Permits may (db.run q).2 rest

theorem permits_of_forall {may : Session → Statement → Prop}
    (always : ∀ s statement, may s statement) (queries : List Query) (db : Database) :
    Permits may db queries := by
  induction queries generalizing db with
  | nil => trivial
  | cons q rest ih =>
    exact ⟨Session.permits_of_mem (fun statement _ s => always s statement) _, ih _⟩

end Database

namespace Session

/-- Where queries have come to after some of them and a part of the next. -/
def after (db : Database) (earlier : List Query) (part : Query) : Session :=
  part.foldl step (.start (db.runAll earlier))

/-- What the statements keep that may run holds wherever queries come to, and in the database that a
transaction would go back to from there. -/
theorem holds_after {may : Session → Statement → Prop} {P : Database → Prop} (keeps : Keeps may P)
    {db : Database} (first : P db) {earlier : List Query} {part : Query}
    (permits : Database.Permits may db (earlier ++ [part])) : (after db earlier part).Holds P := by
  induction earlier generalizing db with
  | nil => exact (holds_start first).foldl keeps permits.1
  | cons q rest ih =>
    obtain ⟨here, later⟩ := permits
    have next : P (db.run q).2 := ((holds_start first).foldl keeps here).finish
    exact ih next later

end Session

end VectorStore
