import VectorStore.Keyword
import VectorStore.Text.Basic

/-!
The settings of a store. Setters pass over values that cannot be meant: blank names and a search
breadth of zero keep what was there.
-/
namespace VectorStore

/-- The settings of a store, not yet checked. -/
structure StoreConfig where
  indexName : String
  tableName : String
  contentField : String
  embeddingField : String
  vectorType : VectorType
  distance : Distance
  algorithm : Algorithm
  /-- The breadth of a search in a graph index. -/
  searchBreadth : Nat
  upsertMode : UpsertMode
  /-- Whether a store defines its index when it is built. -/
  initializeSchema : Bool
  /-- The breadth of construction of a graph index. -/
  efc : Option Nat
  /-- The links per node of a graph index. -/
  m : Option Nat

namespace StoreConfig

def standard : StoreConfig where
  indexName := "surrealvec_index"
  tableName := "surrealvec_embedding"
  contentField := "content"
  embeddingField := "embedding"
  vectorType := Keyword.standard
  distance := Keyword.standard
  algorithm := Keyword.standard
  searchBreadth := 100
  upsertMode := Keyword.standard
  initializeSchema := false
  efc := none
  m := none

/-- A new name unless it is blank. -/
def nameOr (old new : String) : String := if Text.isBlankText new then old else new

def withIndexName (c : StoreConfig) (name : String) : StoreConfig :=
  { c with indexName := nameOr c.indexName name }
def withTableName (c : StoreConfig) (name : String) : StoreConfig :=
  { c with tableName := nameOr c.tableName name }
def withContentField (c : StoreConfig) (name : String) : StoreConfig :=
  { c with contentField := nameOr c.contentField name }
def withEmbeddingField (c : StoreConfig) (name : String) : StoreConfig :=
  { c with embeddingField := nameOr c.embeddingField name }
def withSearchBreadth (c : StoreConfig) (breadth : Nat) : StoreConfig :=
  { c with searchBreadth := if breadth = 0 then c.searchBreadth else breadth }

end StoreConfig
end VectorStore
