import VectorStore.Document.Reader
import VectorStore.Embedding.Hashed
import VectorStore.Json.Printer
import VectorStore.Settings.Basic
import VectorStore.Store.Basic

/-!
The commands on a store. Each answers with a value and with the text that it prints; a command
that fails prints nothing.
-/
namespace VectorStore

/-- The options of a search as they are written. -/
structure SearchOptions where
  query : String
  topK : Nat
  threshold : Float
  filter : Option String

/-- The request that options stand for. The filter is read before the rest is checked. -/
def SearchOptions.request (o : SearchOptions) : Except Error SearchRequest := do
  let filter ← match o.filter with
    | some text => (Filter.ofText text).map some
    | none => .ok none
  let request : SearchRequest := ⟨o.query, o.topK, o.threshold, filter⟩
  request.validate
  return request

/-- What answers the queries of a command. -/
inductive Backend
  /-- A server. -/
  | remote
  /-- A database of its own, which is empty at first. -/
  | memory
  deriving DecidableEq

namespace RankedResult

/-- A result as a JSON object, its fields in reading order. -/
def json (r : RankedResult) : Json :=
  .object [("id", .string r.id), ("content", .string r.content), ("score", .ofDouble r.score),
    ("distance", .ofDouble r.distance), ("metadata", .ofFields r.metadata)]

/-- The longest preview of a text, in characters. -/
def previewLength : Nat := 80
/-- The words of a text on one line, cut short at the longest preview. -/
def preview (content : String) : String :=
  let line := Text.unwords (Text.words content.toList)
  if line.length ≤ previewLength then String.ofList line
  else String.ofList (line.take previewLength ++ ['.', '.', '.'])

/-- A result on two lines, by rank. -/
def lines (rank : Nat) (r : RankedResult) : String :=
  naturalText rank ++ ". " ++ r.id ++ " (score " ++ fixedPlaces 4 r.score ++ ", distance " ++
    fixedPlaces 4 r.distance ++ ")\n   " ++ preview r.content ++ "\n"

/-- Results as text. -/
def listText (rs : List RankedResult) : String :=
  if rs.isEmpty then "No results\n"
  else String.join (rs.zipIdx.map fun (r, i) => lines (i + 1) r)
/-- Results as a JSON array over several lines. -/
def listJson (rs : List RankedResult) : String := (Json.array (rs.map json)).pretty 0 ++ "\n"

end RankedResult

namespace Command

variable {σ : Type}

/-- The store that commands work on. A database of its own starts without the index, so the index
is defined at once. -/
def openStore (s : Settings) (backend : Backend) (define : Bool) (x : Executor σ) :
    Run σ Store :=
  Store.build
    { s.store with
      initializeSchema := define || s.store.initializeSchema || backend = .memory }
    (HashedEmbedder.ofDimension HashedEmbedder.standardDimension) Batching.standard
    Filter.condition x

/-- Defines the index and prints its definition. -/
def initSchema (s : Settings) (backend : Backend) (x : Executor σ) : Run σ String := do
  let store ← openStore s backend true x
  let definition ← Run.ofExcept store.indexDefinition
  return definition.text ++ ";\nIndex '" ++ store.index.text ++ "' ready on " ++
    store.table.text ++ "." ++ store.embeddingField.text ++ "\n"

/-- Adds documents, one by one or all at once, and prints their ids. -/
def add (s : Store) (x : Executor σ) (documents : List Document) (batched : Bool) :
    Run σ (Nat × String) := do
  if batched then s.addBatched x documents else s.add x documents
  return (documents.length,
    String.join (documents.map fun d => d.id ++ "\n") ++ "Added " ++
      naturalText documents.length ++ " document(s) to " ++ s.table.text ++ "\n")

/-- Searches and prints the results. -/
def search (s : Store) (x : Executor σ) (o : SearchOptions) (json : Bool) :
    Run σ (List RankedResult × String) := do
  let results ← s.search x (← Run.ofExcept o.request)
  return (results, if json then RankedResult.listJson results else RankedResult.listText results)

/-- Prints the query of a search. -/
def explain (s : Store) (o : SearchOptions) : Except Error String := do
  return Query.text (← s.textQuery (← o.request)) ++ "\n"

/-- Removes documents and prints how many ids were given, whether they were there or not. -/
def delete (s : Store) (x : Executor σ) (ids : List String) : Run σ String :=
  if ids.isEmpty then return "No document ids provided\n"
  else do
    s.delete x ids
    return "Deleted " ++ naturalText ids.length ++ " id(s) from " ++ s.table.text ++ "\n"

/-- The condition of a filter text, and the line that prints it. -/
def renderFilter (text : String) : Except Error (String × String) := do
  let condition ← (← Filter.ofText text).condition
  return (condition, condition ++ "\n")

end Command
end VectorStore
