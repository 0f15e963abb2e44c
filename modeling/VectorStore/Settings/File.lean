import VectorStore.Settings.Basic
import VectorStore.Toml.Reader

/-!
Settings read from a TOML file with the sections `store`, `connection` and `logging`. Every
section and every key may be missing, and further keys do not matter.
-/
namespace VectorStore.Settings

/-! ## Values -/

def text? : Toml → Option String
  | .text s => some s
  | _ => none
def bool? : Toml → Option Bool
  | .bool b => some b
  | _ => none
def size? : Toml → Option Nat
  | .integer n => if 0 ≤ n ∧ n ≤ sizeBound then some n.toNat else none
  | _ => none
def keyword? {α : Type} [Keyword α] (v : Toml) : Option α := (text? v).bind Keyword.read?

/-- The value of a key, if it is there; fails if it is not of its type. -/
def optional? {α : Type} (read? : Toml → Option α) (key : String) (entries : Toml.Entries) :
    Option (Option α) :=
  match SortedMap.lookup key entries with
  | none => some none
  | some v => (read? v).map some
/-- The value of a key, or the standard one if it is missing. -/
def valueOr? {α : Type} (read? : Toml → Option α) (key : String) (standard : α)
    (entries : Toml.Entries) : Option α :=
  (optional? read? key entries).map (·.getD standard)

/-! ## Sections -/

/-- The entries of a section: a table, or an array that holds a value for every key in order. -/
def section? (keys : List String) : Toml → Option Toml.Entries
  | .table _ entries => some entries
  | .array _ items => if items.length < keys.length then none else some (keys.zip items)
  | _ => none

/-- The keys of the sections. -/
def storeKeys : List String :=
  ["index_name", "table_name", "content_field_name", "embedding_field_name", "vector_type",
    "distance", "algorithm", "ef", "upsert_mode", "initialize_schema", "efc", "m"]
def connectionKeys : List String :=
  ["endpoint", "namespace", "database", "username", "password", "timeout_ms",
    "connect_timeout_ms"]
def logKeys : List String := ["format", "level", "file"]

def store? (v : Toml) : Option StoreConfig := do
  let entries ← section? storeKeys v
  let standard := StoreConfig.standard
  return {
    indexName := ← valueOr? text? "index_name" standard.indexName entries
    tableName := ← valueOr? text? "table_name" standard.tableName entries
    contentField := ← valueOr? text? "content_field_name" standard.contentField entries
    embeddingField := ← valueOr? text? "embedding_field_name" standard.embeddingField entries
    vectorType := ← valueOr? keyword? "vector_type" standard.vectorType entries
    distance := ← valueOr? keyword? "distance" standard.distance entries
    algorithm := ← valueOr? keyword? "algorithm" standard.algorithm entries
    searchBreadth := ← valueOr? size? "ef" standard.searchBreadth entries
    upsertMode := ← valueOr? keyword? "upsert_mode" standard.upsertMode entries
    initializeSchema := ← valueOr? bool? "initialize_schema" standard.initializeSchema entries
    efc := ← optional? size? "efc" entries
    m := ← optional? size? "m" entries }

def connection? (v : Toml) : Option Connection := do
  let entries ← section? connectionKeys v
  let standard := Connection.standard
  return {
    endpoint := ← valueOr? text? "endpoint" standard.endpoint entries
    space := ← valueOr? text? "namespace" standard.space entries
    database := ← valueOr? text? "database" standard.database entries
    username := ← optional? text? "username" entries
    password := ← optional? text? "password" entries
    timeout := ← valueOr? size? "timeout_ms" standard.timeout entries
    connectTimeout := ← valueOr? size? "connect_timeout_ms" standard.connectTimeout entries }

def log? (v : Toml) : Option LogSettings := do
  let entries ← section? logKeys v
  return ⟨← optional? text? "format" entries, ← optional? text? "level" entries,
    ← optional? text? "file" entries⟩

/-! ## Files -/

/-- The settings in the text of a file. -/
def ofText? (text : String) : Option Settings := do
  let entries ← Toml.read? text
  return ⟨← valueOr? store? "store" standard.store entries,
    ← valueOr? connection? "connection" standard.connection entries,
    ← valueOr? log? "logging" standard.log entries⟩

/-- The settings in a text, or the complaint that they cannot be read. -/
def ofText (text : String) : Except Error Settings :=
  match ofText? text with
  | some s => .ok s
  | none => .error (.invalidInput .settings)

/-- The settings in the file at a path, given its text or why it cannot be read. -/
def load (path : String) (file : Except String String) : Except Error Settings :=
  match file with
  | .error cause => .error (.executionFailure "read_config_file" (path ++ ": " ++ cause))
  | .ok text => ofText text

end VectorStore.Settings
