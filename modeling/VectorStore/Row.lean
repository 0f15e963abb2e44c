import VectorStore.Document
import VectorStore.RecordId

/-!
Rows of a ranked selection read as results. A row is taken apart column by column; what is left
at the end is metadata.
-/
namespace VectorStore

/-- The columns that a ranked selection computes. -/
def scoreColumn : String := "__score"
def distanceColumn : String := "__distance"
/-- The metadata key that holds the distance of a result. -/
def distanceKeyName : String := "distance"

/-- The names of the fields that hold a document's text and vector. -/
structure RowLayout where
  content : String
  embedding : String

namespace RowLayout

/-- The number in a column. -/
def number (fields : Fields) (column : String) : Except ResultFault Float :=
  match fields.find? column with
  | none => .error (.noColumn column)
  | some j =>
    match j.double? with
    | some x => .ok x
    | none => .error (.columnKind column j.kindName)

/-- The text in a field. -/
def text (fields : Fields) (field : String) : Except ResultFault String :=
  match fields.find? field with
  | some (.string s) => .ok s
  | some j => .error (.fieldKind field j.kindName)
  | none => .error (.noField field)

/-- The result in the fields of a row. -/
def resultOfFields (l : RowLayout) (fields : Fields) : Except ResultFault RankedResult :=
  match (fields.find? "id").bind RecordId.keyOf? with
  | none => .error .noRecordId
  | some id => do
    let fields := fields.erase "id"
    let score ← number fields scoreColumn
    let fields := fields.erase scoreColumn
    let distance ← number fields distanceColumn
    let fields := fields.erase distanceColumn
    let content ← text fields l.content
    let fields := (fields.erase l.content).erase l.embedding
    return ⟨id, content, score, distance, fields.insert distanceKeyName (.ofDouble distance)⟩

/-- The result in a row. -/
def result (l : RowLayout) : Json → Except ResultFault RankedResult
  | .object fields => l.resultOfFields (.ofList fields)
  | other => .error (.notRow other.kindName)

/-- The results in rows from an index on, unless a row holds none. -/
def resultsFrom (l : RowLayout) (index : Nat) : List Json → Except ResultFault (List RankedResult)
  | [] => .ok []
  | row :: rest =>
    match l.result row with
    | .error fault => .error (.row index fault)
    | .ok r =>
      match l.resultsFrom (index + 1) rest with
      | .error fault => .error fault
      | .ok rs => .ok (r :: rs)

/-- The results in a result set, in row order. -/
def results (l : RowLayout) : Json → Except ResultFault (List RankedResult)
  | .array rows => l.resultsFrom 0 rows
  | other => .error (.notRows other.kindName)

end RowLayout
end VectorStore
