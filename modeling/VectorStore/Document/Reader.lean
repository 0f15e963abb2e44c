import VectorStore.Document
import VectorStore.Json.Reader

/-!
Documents read from a JSON text. The text holds an array; each item is an object of the fields
`id`, `content`, `metadata` and `embedding`, or an array of their values in this order. Only the
content is required, and an object may hold other fields, whose values do not matter.
-/
namespace VectorStore

/-- A document whose id may still be missing. -/
structure Draft where
  id : Option String
  content : String
  metadata : Fields
  embedding : Option Embedding

namespace Draft

/-- The document, under a fresh id if it brings none. -/
def document (d : Draft) (freshId : String) : Document :=
  ⟨d.id.getD freshId, d.content, d.metadata, d.embedding⟩

/-- How deep the metadata of a document may be nested. -/
def metadataDepth : Nat := 125

def text? : RawJson → Option String
  | .string text => text
  | _ => none

def metadata? : RawJson → Option Fields
  | .object fields => (RawJson.value? metadataDepth (.object fields)).bind fun j =>
      j.object?.map SortedMap.ofList
  | _ => none

/-- A component of a vector: an integer is rounded once, another number first to a double. -/
def component? : RawJson → Option Float32
  | .number negative whole d =>
    match JsonNumber.ofDecimal? negative whole d with
    | some (.int n) => some (single (n < 0) (binary32.nearest n.natAbs 1))
    | some (.double x) => some (narrow x)
    | none => none
  | _ => none

def embedding? : RawJson → Option (Option Embedding)
  | .null => some none
  | .array items => (items.mapM component?).map some
  | _ => none

/-- The values of the known fields that an object holds. -/
structure Parts where
  id : Option String
  content : Option String
  metadata : Option Fields
  embedding : Option (Option Embedding)

/-- The field in question set to what was read, unless it is set already. -/
def once {α : Type} (before read : Option α) : Option (Option α) :=
  match before, read with
  | none, some a => some (some a)
  | _, _ => none

namespace Parts

def none : Parts := ⟨.none, .none, .none, .none⟩

/-- Takes in the next field of an object; a known field may not repeat. -/
def add (p : Parts) (name : String) (value : RawJson) : Option Parts :=
  match name with
  | "id" => (once p.id (text? value)).map fun id => { p with id := id }
  | "content" => (once p.content (text? value)).map fun content => { p with content := content }
  | "metadata" =>
    (once p.metadata (metadata? value)).map fun metadata => { p with metadata := metadata }
  | "embedding" =>
    (once p.embedding (embedding? value)).map fun embedding => { p with embedding := embedding }
  | _ => some p

/-- Takes in the fields of an object in order. -/
def addAll (p : Parts) : List (Option String × RawJson) → Option Parts
  | [] => some p
  | (name, value) :: rest => (name.bind fun name => p.add name value).bind fun p => p.addAll rest

def draft? (p : Parts) : Option Draft :=
  p.content.map fun content => ⟨p.id, content, p.metadata.getD .empty, p.embedding.join⟩

end Parts

/-- One item of the array. -/
def ofRaw? : RawJson → Option Draft
  | .object fields => (Parts.none.addAll fields).bind Parts.draft?
  | .array values =>
    let names := ["id", "content", "metadata", "embedding"]
    if names.length < values.length then none
    else ((Parts.none.addAll ((names.map some).zip values)).bind Parts.draft?)
  | _ => none

/-- The documents in a JSON text. -/
def listOfText? (text : String) : Option (List Draft) :=
  match RawJson.read? text with
  | some (.array items) => items.mapM ofRaw?
  | _ => none

/-- The documents in the file at a path, given its text or why it cannot be read. -/
def load (path : String) (file : Except String String) : Except Error (List Draft) :=
  match file with
  | .error cause => .error (.executionFailure "read_documents" (path ++ ": " ++ cause))
  | .ok text =>
    match listOfText? text with
    | some drafts => .ok drafts
    | none => .error (.invalidInput (.documents path))

end Draft
end VectorStore
