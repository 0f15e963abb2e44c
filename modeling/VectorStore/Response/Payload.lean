import VectorStore.Response

/-!
Responses read from a server's JSON. The payload is an array with one item a statement: an object
of the fields `status`, `time`, `result` and `detail`, or an array of their values in this order.
Only the status is required.
-/
namespace VectorStore

namespace Status

def ofWord? : String → Option Status
  | "OK" => some .ok
  | "ERR" => some .err
  | _ => none

/-- A status, written as its word or as an object that holds the word with nothing in it. -/
def ofJson? : Json → Option Status
  | .string word => ofWord? word
  | .object [(word, .null)] => ofWord? word
  | _ => none

end Status

namespace StatementResult

/-- A text that may be null. -/
def optionalText? : Json → Option (Option String)
  | .null => some none
  | .string s => some (some s)
  | _ => none

/-- The result with the given parts, those after the status perhaps absent. -/
def ofParts? (status : Json) (time result detail : Option Json) : Option StatementResult := do
  let status ← Status.ofJson? status
  let time ← optionalText? (Json.ofOption time)
  let detail ← optionalText? (Json.ofOption detail)
  return ⟨status, time, Json.ofOption result, detail⟩

def ofJson? : Json → Option StatementResult
  | .object fields => do
    let find (name : String) := SortedMap.lookup name fields
    ofParts? (← find "status") (find "time") (find "result") (find "detail")
  | .array (status :: rest) =>
    if 3 < rest.length then none else ofParts? status rest[0]? rest[1]? rest[2]?
  | _ => none

end StatementResult

/-- The response in a payload. -/
def Response.ofPayload? (payload : Json) : Option Response :=
  (payload.array?.bind fun items => items.mapM StatementResult.ofJson?).map Response.mk

end VectorStore
