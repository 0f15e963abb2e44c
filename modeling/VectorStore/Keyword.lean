import VectorStore.Error

/-!
The keywords that configure an index or a write. Each family is read without regard to the case
of ASCII letters and written in capitals.
-/
namespace VectorStore
open Text

/-- The algorithm of a vector index. -/
inductive Algorithm
  | hnsw
  | mtree
  deriving DecidableEq

/-- The metric of a vector index. -/
inductive Distance
  | cosine
  | euclidean
  | manhattan
  deriving DecidableEq

/-- The element type of stored vectors. -/
inductive VectorType
  | f64
  | f32
  | i64
  | i32
  | i16
  deriving DecidableEq

/-- How a write treats the record before it. -/
inductive UpsertMode
  | content
  | merge
  | replace
  deriving DecidableEq

/-- A family of keywords. -/
class Keyword (α : Type) where
  /-- What the family chooses, in messages. -/
  family : String
  /-- The members in the order that messages list them. -/
  members : List α
  text : α → String
  standard : α

instance : Keyword Algorithm where
  family := "index algorithm"
  members := [.hnsw, .mtree]
  text
    | .hnsw => "HNSW"
    | .mtree => "MTREE"
  standard := .hnsw
instance : Keyword Distance where
  family := "distance metric"
  members := [.cosine, .euclidean, .manhattan]
  text
    | .cosine => "COSINE"
    | .euclidean => "EUCLIDEAN"
    | .manhattan => "MANHATTAN"
  standard := .cosine
instance : Keyword VectorType where
  family := "vector type"
  members := [.f64, .f32, .i64, .i32, .i16]
  text
    | .f64 => "F64"
    | .f32 => "F32"
    | .i64 => "I64"
    | .i32 => "I32"
    | .i16 => "I16"
  standard := .f32
instance : Keyword UpsertMode where
  family := "upsert mode"
  members := [.content, .merge, .replace]
  text
    | .content => "CONTENT"
    | .merge => "MERGE"
    | .replace => "REPLACE"
  standard := .content

namespace Keyword

variable {α : Type} [Keyword α]

/-- The member that a text spells. -/
def read (written : String) : Except Error α :=
  match (members : List α).find? fun k => equalsIgnoringCase (text k) written with
  | some k => .ok k
  | none =>
    let options := joinWith ", " ((members : List α).map text)
    .error (.invalidInput (.keyword (family α) written options))

/-- The member that a text spells, if it spells one. -/
def read? (written : String) : Option α := (read written).toOption

end Keyword
end VectorStore
