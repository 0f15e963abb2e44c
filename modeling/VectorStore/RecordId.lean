import VectorStore.Ident

/-!
Record ids, `table:⟨key⟩`. The key may be any text: inside the angle brackets a backslash stands
before a closing bracket or another backslash. Databases also answer with bare keys, with keys
between backticks, and with ids as objects; `RecordId.keyOf?` reads them all.
-/
namespace VectorStore

/-- A record of a table. -/
structure RecordId where
  table : Ident
  key : String
  deriving DecidableEq

namespace RecordId

/-- The characters of a key between the brackets. -/
def escape : List Char → List Char
  | [] => []
  | c :: rest => if c = '⟩' ∨ c = '\\' then '\\' :: c :: escape rest else c :: escape rest
/-- Takes every escaped character as itself; a backslash at the very end is dropped. -/
def unescape : List Char → List Char
  | [] => []
  | '\\' :: [] => []
  | '\\' :: c :: rest => c :: unescape rest
  | c :: rest => c :: unescape rest

/-- A record id in a query. -/
def text (r : RecordId) : String :=
  r.table.text ++ ":⟨" ++ String.ofList (escape r.key.toList) ++ "⟩"

/-- What stands between an opening and a closing character. -/
def between? (opening closing : Char) : List Char → Option (List Char)
  | [] => none
  | c :: rest =>
    if c = opening ∧ rest.getLast? = some closing then some rest.dropLast else none

/-- The key written after the colon of a record id. -/
def readKey (written : List Char) : List Char :=
  match between? '⟨' '⟩' written with
  | some inner => unescape inner
  | none =>
    match between? '\x60' '\x60' written with
    | some inner => unescape inner
    | none => written

/-- The key of a record reference in an answer: what follows the first colon of a text, or the
`id` of an object, itself a text, a number or a wrapped text. -/
def keyOf? : Json → Option String
  | .string s =>
    match s.toList.dropWhile (· ≠ ':') with
    | _ :: written => some (String.ofList (readKey written))
    | [] => none
  | .object fields =>
    match SortedMap.lookup "id" fields with
    | some (.string s) => some s
    | some (.number n) => some n.text
    | some (.object inner) => (SortedMap.lookup "String" inner).bind Json.string?
    | _ => none
  | _ => none

end RecordId
end VectorStore
