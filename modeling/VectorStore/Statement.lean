import VectorStore.Filter.Condition
import VectorStore.Keyword
import VectorStore.RecordId

/-!
The statements a store sends, and their text. Names are identifiers by type, so the text of a
statement can be cut short only by what it quotes.
-/
namespace VectorStore
open Text

/-- A number computed for each selected row. -/
inductive Score
  /-- The cosine similarity of a field to a parameter. -/
  | cosine (field param : Ident)
  /-- A score that falls from one as the distance to the query grows. -/
  | inverseDistance
  /-- The distance to the query. -/
  | distance
  deriving DecidableEq

/-- A column of a selection. -/
inductive Projection
  | all
  | field (name : Ident)
  | score (score : Score) (column : Ident)
  deriving DecidableEq

/-- The rows whose field is nearest to a parameter. -/
structure Nearest where
  field : Ident
  count : Nat
  breadth : Option Nat
  param : Ident
  deriving DecidableEq

/-- A filter beside the text of its condition. -/
structure WrittenFilter where
  filter : Filter
  text : String

/-- The rows that a selection keeps. -/
structure WhereClause where
  nearest : Option Nearest
  filter : Option WrittenFilter

/-- The column that sorts a selection. -/
structure OrderBy where
  field : Ident
  descending : Bool
  deriving DecidableEq

/-- A selection of rows of one table. -/
structure Selection where
  projections : List Projection
  omitted : List Ident
  table : Ident
  condition : Option WhereClause
  orderBy : Option OrderBy
  limit : Option Nat

/-- The definition of a vector index over a field of a table. -/
structure IndexDefinition where
  ifNotExists : Bool
  name : Ident
  table : Ident
  field : Ident
  algorithm : Algorithm
  dimension : Nat
  distance : Distance
  vectorType : VectorType
  /-- The breadth of construction of a graph index. -/
  efc : Option Nat
  /-- The links per node of a graph index. -/
  m : Option Nat
  deriving DecidableEq

/-- A statement of a query. -/
inductive Statement
  | bind (param : Ident) (vector : List Float32)
  | select (selection : Selection)
  | upsert (target : RecordId) (mode : UpsertMode) (data : Fields)
  | delete (targets : List RecordId)
  | defineIndex (index : IndexDefinition)
  | beginTransaction
  | commitTransaction

/-- The statements of one request, in order. -/
abbrev Query := List Statement

def Score.text : Score → String
  | cosine field param =>
    "vector::similarity::cosine(" ++ field.text ++ ", " ++ param.parameter ++ ")"
  | inverseDistance => "1 / (1 + vector::distance::knn())"
  | distance => "vector::distance::knn()"

def Projection.text : Projection → String
  | all => "*"
  | field name => name.text
  | score s column => s.text ++ " AS " ++ column.text

def Nearest.text (n : Nearest) : String :=
  let breadth := match n.breadth with
    | some breadth => "," ++ naturalText breadth
    | none => ""
  n.field.text ++ " <|" ++ naturalText n.count ++ breadth ++ "|> " ++ n.param.parameter

def WhereClause.text (w : WhereClause) : String :=
  match w.nearest, w.filter with
  | some n, some f => n.text ++ " AND (" ++ f.text ++ ")"
  | some n, none => n.text
  | none, some f => "(" ++ f.text ++ ")"
  | none, none => "true"

def OrderBy.text (o : OrderBy) : String :=
  o.field.text ++ if o.descending then " DESC" else " ASC"

/-- A clause that is left out when absent. -/
def optionalClause {α : Type} (lead : String) (text : α → String) : Option α → String
  | some a => lead ++ text a
  | none => ""

def Selection.text (s : Selection) : String :=
  "SELECT " ++ joinWith ", " (s.projections.map Projection.text) ++
    (if s.omitted.isEmpty then "" else " OMIT " ++ joinWith ", " (s.omitted.map Ident.text)) ++
    " FROM " ++ s.table.text ++
    optionalClause " WHERE " WhereClause.text s.condition ++
    optionalClause " ORDER BY " OrderBy.text s.orderBy ++
    optionalClause " LIMIT " naturalText s.limit

def IndexDefinition.text (d : IndexDefinition) : String :=
  "DEFINE INDEX " ++ (if d.ifNotExists then "IF NOT EXISTS " else "") ++ d.name.text ++
    " ON " ++ d.table.text ++ " FIELDS " ++ d.field.text ++ " " ++ Keyword.text d.algorithm ++
    " DIMENSION " ++ naturalText d.dimension ++ " DIST " ++ Keyword.text d.distance ++
    " TYPE " ++ Keyword.text d.vectorType ++
    if d.algorithm = .hnsw then
      optionalClause " EFC " naturalText d.efc ++ optionalClause " M " naturalText d.m
    else ""

namespace Statement

/-- The label of a statement in messages. -/
def label : Statement → String
  | bind .. => "LET"
  | select _ => "SELECT"
  | upsert .. => "UPSERT"
  | delete _ => "DELETE"
  | defineIndex _ => "DEFINE INDEX"
  | beginTransaction => "BEGIN TRANSACTION"
  | commitTransaction => "COMMIT TRANSACTION"

/-- A statement without the semicolon that ends it. -/
def text : Statement → String
  | bind param vector => "LET " ++ param.parameter ++ " = " ++ vectorLiteral vector
  | select s => s.text
  | upsert target mode data =>
    "UPSERT " ++ target.text ++ " " ++ Keyword.text mode ++ " " ++ (Json.ofFields data).literal
  | delete targets => "DELETE " ++ joinWith ", " (targets.map RecordId.text)
  | defineIndex d => d.text
  | beginTransaction => "BEGIN TRANSACTION"
  | commitTransaction => "COMMIT TRANSACTION"

end Statement

namespace Query

/-- The statements, each on lines of its own and ended by a semicolon. -/
def text (q : Query) : String := joinWith "\n" (q.map fun s => s.text ++ ";")
/-- Statements that take effect together or not at all. -/
def transaction (statements : List Statement) : Query :=
  .beginTransaction :: statements ++ [.commitTransaction]

end Query
end VectorStore
