import VectorStore.Database.Ranking
import VectorStore.Filter.Matching

/-!
A database in memory: tables of records by key, and index definitions by name. `Database.apply`
is the effect of one statement outside any transaction; a statement that fails has none.
-/
namespace VectorStore

/-- A vector index as later statements see it. -/
structure IndexEntry where
  table : String
  field : String
  dimension : Nat
  distance : Distance
  deriving DecidableEq

/-- The records of every table by key, and the indexes by name. -/
structure Database where
  tables : SortedMap (SortedMap Fields)
  indexes : SortedMap IndexEntry

/-- The vectors bound to the parameters of a query. -/
abbrev Bindings := SortedMap (List Float)

/-- Why a statement fails. -/
inductive StatementFault
  | vectorDimension (actual expected : Nat)
  | indexExists (name : String)
  | undefinedParameter (name : String)
  | filter (fault : MatchFault)
  | transactionFailed
  | noTransaction

def StatementFault.message : StatementFault → String
  | vectorDimension actual expected =>
    "Incorrect vector dimension (" ++ naturalText actual ++ "). Expected a vector of " ++
      naturalText expected ++ " dimension."
  | indexExists name => "The index '" ++ name ++ "' already exists"
  | undefinedParameter name => "Parameter '$" ++ name ++ "' is not defined"
  | filter fault => fault.message
  | transactionFailed => "The query was not executed due to a failed transaction"
  | noTransaction => "Cannot COMMIT without starting a transaction"

namespace Database

/-- The database without tables. -/
def empty : Database := ⟨.empty, .empty⟩

/-- The records of a table; a table never written to has none. -/
def table (db : Database) (name : String) : SortedMap Fields := (db.tables.find? name).getD .empty
/-- The record under a key of a table. -/
def record? (db : Database) (table key : String) : Option Fields := (db.table table).find? key
def hasIndex (db : Database) (name : String) : Bool := db.indexes.contains name

/-! ## Writes -/

/-- The first index over the table whose dimension an array of the record does not have. -/
def dimensionFault? (db : Database) (table : String) (data : Fields) : Option StatementFault :=
  (db.indexes.values.filter (·.table == table)).findSome? fun index =>
    match (data.find? index.field).bind Json.array? with
    | some items =>
      if items.length = index.dimension then none
      else some (.vectorDimension items.length index.dimension)
    | none => none

/-- The record that a write leaves. -/
def written (target : RecordId) (mode : UpsertMode) (before : Option Fields) (data : Fields) :
    Fields :=
  let body := match mode, before with
    | .merge, some existing => existing.overlay data
    | _, _ => data
  body.insert "id" (.string target.text)

/-- Writes a record of a table. -/
def put (db : Database) (table key : String) (record : Fields) : Database :=
  { db with tables := db.tables.insert table ((db.table table).insert key record) }
/-- Removes a record of a table; a table never written to stays so. -/
def remove (db : Database) (target : RecordId) : Database :=
  match db.tables.find? target.table.text with
  | some records =>
    { db with tables := db.tables.insert target.table.text (records.erase target.key) }
  | none => db

/-- Writes a record and answers with it. -/
def upsert (db : Database) (target : RecordId) (mode : UpsertMode) (data : Fields) :
    Except StatementFault (Json × Database) :=
  match db.dimensionFault? target.table.text data with
  | some fault => .error fault
  | none =>
    let record := written target mode (db.record? target.table.text target.key) data
    .ok (.array [Json.ofFields record], db.put target.table.text target.key record)

/-- Defines an index under a new name; a name in use is an error unless the definition allows it,
and then nothing happens. -/
def defineIndex (db : Database) (d : IndexDefinition) : Except StatementFault (Json × Database) :=
  if db.hasIndex d.name.text then
    if d.ifNotExists then .ok (.null, db) else .error (.indexExists d.name.text)
  else
    let entry : IndexEntry := ⟨d.table.text, d.field.text, d.dimension, d.distance⟩
    .ok (.null, { db with indexes := db.indexes.insert d.name.text entry })

/-! ## Selections -/

/-- A record on its way through a selection, with its distance to the query once ranked. -/
structure Candidate where
  record : Fields
  distance : Option Float

/-- The records that match a filter, in order, unless the filter fails on one. -/
def matching (f : Filter) : List Fields → Except MatchFault (List Fields)
  | [] => .ok []
  | record :: rest =>
    match f.matches record with
    | .error fault => .error fault
    | .ok keep =>
      match matching f rest with
      | .error fault => .error fault
      | .ok kept => .ok (if keep then record :: kept else kept)

/-- The records that an optional filter lets through. -/
def filtered (records : List Fields) : Option WrittenFilter → Except StatementFault (List Fields)
  | none => .ok records
  | some f => (matching f.filter records).mapError StatementFault.filter

/-- The vector bound to a parameter. -/
def boundVector (bindings : Bindings) (param : Ident) : Except StatementFault (List Float) :=
  match bindings.find? param.text with
  | some vector => .ok vector
  | none => .error (.undefinedParameter param.text)

/-- The vector in a field of a record, if it is as long as the query. -/
def comparableVector? (record : Fields) (field : Ident) (query : List Float) :
    Option (List Float) :=
  ((record.find? field.text).bind Json.doubles?).filter (·.length == query.length)

/-- The metric of the first index over a field of a table, Euclidean without one. -/
def metric (db : Database) (table field : String) : Distance :=
  match db.indexes.values.find? fun index => index.table == table && index.field == field with
  | some index => index.distance
  | none => .euclidean

/-- The records nearest to the query, nearest first, equal distances in their order before;
records without a comparable vector are left out. -/
def nearest (db : Database) (table : Ident) (n : Nearest) (query : List Float)
    (records : List Fields) : List Candidate :=
  let metric := db.metric table.text n.field.text
  let measured := records.filterMap fun record =>
    (comparableVector? record n.field query).map fun v => (record, metric.between v query)
  let ranked := measured.mergeSort fun a b => distanceKey query a.2 ≤ distanceKey query b.2
  (ranked.take n.count).map fun (record, d) => ⟨record, some d⟩

/-- The value of a score for a row; null where it has none. -/
def scoreValue (bindings : Bindings) (row : Candidate) : Score → Except StatementFault Json
  | .cosine field param =>
    match boundVector bindings param with
    | .error fault => .error fault
    | .ok query =>
      match comparableVector? row.record field query with
      | some v => .ok (.ofDouble (cosineSimilarity v query))
      | none => .ok .null
  | .distance => .ok (.ofOption (row.distance.map Json.ofDouble))
  | .inverseDistance => .ok (.ofOption (row.distance.map fun d => .ofDouble (1.0 / (1.0 + d))))

/-- Adds the columns of a row in order; a later column replaces an earlier one of its name. -/
def project (bindings : Bindings) (row : Candidate) (columns : Fields) :
    List Projection → Except StatementFault Fields
  | [] => .ok columns
  | .all :: rest => project bindings row (columns.overlay row.record) rest
  | .field name :: rest =>
    project bindings row (columns.insert name.text (.ofOption (row.record.find? name.text))) rest
  | .score s column :: rest =>
    match scoreValue bindings row s with
    | .error fault => .error fault
    | .ok value => project bindings row (columns.insert column.text value) rest

/-- The output row of a candidate: its columns without the omitted ones. -/
def outputRow (bindings : Bindings) (s : Selection) (row : Candidate) :
    Except StatementFault Fields :=
  match project bindings row .empty s.projections with
  | .error fault => .error fault
  | .ok columns => .ok (s.omitted.foldl (fun columns name => columns.erase name.text) columns)

/-- The output rows of candidates, unless one fails. -/
def outputRows (bindings : Bindings) (s : Selection) :
    List Candidate → Except StatementFault (List Fields)
  | [] => .ok []
  | row :: rest =>
    match outputRow bindings s row with
    | .error fault => .error fault
    | .ok output =>
      match outputRows bindings s rest with
      | .error fault => .error fault
      | .ok outputs => .ok (output :: outputs)

/-- Rows in the order of a column, equal ones in their order before. -/
def ordered (o : OrderBy) (rows : List Fields) : List Fields :=
  let key (row : Fields) := SortKey.ofValue (row.find? o.field.text)
  rows.mergeSort fun a b => if o.descending then (key b).le (key a) else (key a).le (key b)

/-- The rows of a table that pass a clause: the filter first, then the nearest of what is left. -/
def candidates (db : Database) (bindings : Bindings) (s : Selection) :
    Except StatementFault (List Candidate) :=
  match filtered (db.table s.table.text).values (s.condition.bind (·.filter)) with
  | .error fault => .error fault
  | .ok records =>
    match s.condition.bind (·.nearest) with
    | none => .ok (records.map (⟨·, none⟩))
    | some n =>
      match boundVector bindings n.param with
      | .error fault => .error fault
      | .ok query => .ok (db.nearest s.table n query records)

/-- The rows of a selection. -/
def selectRows (db : Database) (bindings : Bindings) (s : Selection) :
    Except StatementFault (List Fields) :=
  match db.candidates bindings s with
  | .error fault => .error fault
  | .ok rows =>
    match outputRows bindings s rows with
    | .error fault => .error fault
    | .ok outputs =>
      let sorted := match s.orderBy with
        | some o => ordered o outputs
        | none => outputs
      .ok (match s.limit with
        | some limit => sorted.take limit
        | none => sorted)

/-! ## Statements -/

/-- The value that a statement answers with, and the database and bindings after it. -/
def apply (db : Database) (bindings : Bindings) :
    Statement → Except StatementFault (Json × Database × Bindings)
  | .bind param vector => .ok (.null, db, bindings.insert param.text (vector.map widen))
  | .select s => (db.selectRows bindings s).map fun rows =>
    (.array (rows.map Json.ofFields), db, bindings)
  | .upsert target mode data => (db.upsert target mode data).map fun (value, db) =>
    (value, db, bindings)
  | .delete targets => .ok (.array [], targets.foldl remove db, bindings)
  | .defineIndex d => (db.defineIndex d).map fun (value, db) => (value, db, bindings)
  | .beginTransaction | .commitTransaction => .ok (.null, db, bindings)

end Database
end VectorStore
