import VectorStore.Error

/-!
The answer to a query: one result for each statement. A result is taken at most once; what is
left of it is null.
-/
namespace VectorStore

/-- Whether a statement succeeded. -/
inductive Status
  | ok
  | err
  deriving DecidableEq

/-- What became of one statement. A failed one carries its message as the result, or as detail. -/
structure StatementResult where
  status : Status
  time : Option String
  result : Json
  detail : Option String

namespace StatementResult

def ok (value : Json) : StatementResult := ⟨.ok, none, value, none⟩
def err (message : String) : StatementResult := ⟨.err, none, .string message, none⟩

/-- The message of a failed statement. -/
def message (r : StatementResult) : String :=
  match r.detail with
  | some detail => detail
  | none =>
    match r.result with
    | .string s => s
    | other => other.compact

end StatementResult

/-- The results of a query's statements, in order. -/
structure Response where
  results : List StatementResult

namespace Response

/-- The failure of the statement at an index. -/
def failure (index : Nat) (r : StatementResult) : Error :=
  .executionFailure ("statement " ++ naturalText index) r.message

/-- Takes the value of the result at an index, leaving null in its place. -/
def take (r : Response) (index : Nat) : Except Error Json × Response :=
  match r.results[index]? with
  | none => (.error (.malformedResult (.missing index r.results.length)), r)
  | some entry =>
    match entry.status with
    | .err => (.error (failure index entry), r)
    | .ok => (.ok entry.result, ⟨r.results.set index { entry with result := .null }⟩)

/-- The failure of the first failed statement from an index on. -/
def firstFailure? (index : Nat) : List StatementResult → Option Error
  | [] => none
  | r :: rest =>
    match r.status with
    | .err => some (failure index r)
    | .ok => firstFailure? (index + 1) rest

/-- Fails with the first failed statement. -/
def check (r : Response) : Except Error Unit :=
  match firstFailure? 0 r.results with
  | some e => .error e
  | none => .ok ()

end Response
end VectorStore
