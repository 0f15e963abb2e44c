import VectorStore.Ident

/-!
Literals of the query language: quoted texts, vectors and JSON values. A quoted text stands
between single quotes, with a backslash before a single quote or another backslash.
-/
namespace VectorStore
open Text

/-- The characters of a text between its quotes. -/
def escapeQuoted : List Char → List Char
  | [] => []
  | c :: rest =>
    if c = '\\' ∨ c = '\x27' then '\\' :: c :: escapeQuoted rest else c :: escapeQuoted rest
/-- A text as a literal. -/
def quoteText (s : String) : String := "'" ++ String.ofList (escapeQuoted s.toList) ++ "'"

/-- A vector as a literal, each component in its shortest digits. -/
def vectorLiteral (vector : List Float32) : String :=
  "[" ++ joinWith "," (vector.map Layout.bare.single) ++ "]"

/-- The key of an object: bare where it is an identifier, quoted otherwise. -/
def keyLiteral (key : String) : String := if isIdentifier key then key else quoteText key

namespace Json

mutual
/-- A JSON value as a literal. -/
def literal : Json → String
  | .null => "NULL"
  | .bool b => if b then "true" else "false"
  | .number n => n.text
  | .string s => quoteText s
  | .array items => "[" ++ joinWith "," (literals items) ++ "]"
  | .object fields => "\x7b " ++ joinWith ", " (fieldLiterals fields) ++ " \x7d"
def literals : List Json → List String
  | [] => []
  | j :: rest => literal j :: literals rest
def fieldLiterals : List (String × Json) → List String
  | [] => []
  | (key, j) :: rest => (keyLiteral key ++ ": " ++ literal j) :: fieldLiterals rest
end

end Json
end VectorStore
