import VectorStore.Error

/-!
Names that stand in a query as they are: identifiers, dotted field paths and parameters. An
`Ident` carries the proof that it is one, so that no query text has to check again.
-/
namespace VectorStore

def isIdentStart (c : Char) : Bool := c.isAlpha || c == '_'
def isIdentPart (c : Char) : Bool := c.isAlphanum || c == '_'
/-- An ASCII letter or underscore, then letters, digits and underscores. -/
def isIdentChars : List Char → Bool
  | [] => false
  | c :: rest => isIdentStart c && rest.all isIdentPart
def isIdentifier (name : String) : Bool := isIdentChars name.toList
/-- Identifiers with dots between them. -/
def isFieldPath (path : String) : Bool := (Text.split (· == '.') path.toList).all isIdentChars

/-- A name that stands unquoted in a query. -/
structure Ident where
  text : String
  valid : isIdentifier text = true
  deriving DecidableEq

namespace Ident

def ofString? (name : String) : Option Ident :=
  if h : isIdentifier name then some ⟨name, h⟩ else none
/-- The identifier of a text, or the complaint that it is none. -/
def ofString (name : String) : Except Error Ident :=
  if h : isIdentifier name then .ok ⟨name, h⟩ else .error (.invalidInput (.identifier name))

/-- A parameter in a query. -/
def parameter (name : Ident) : String := "$" ++ name.text

end Ident
end VectorStore
