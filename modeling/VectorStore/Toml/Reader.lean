import VectorStore.Toml.Quoted
import VectorStore.Toml.Scalar

/-!
TOML 1.1 documents read from text: key and value pairs, headers of tables and of arrays of
tables. Arrays and tables in braces may run over lines, hold comments and end in a comma.
-/
namespace VectorStore.Toml

def isSpace (c : Char) : Bool := c == ' ' || c == '\t'
def skipSpace (cs : List Char) : List Char := cs.dropWhile isSpace

/-- The line end at the front, and a comment before it, taken off; the text may end instead. -/
def endLine? (cs : List Char) : Option (List Char) :=
  let rest := match skipSpace cs with
    | '#' :: rest => rest.dropWhile isPrintable
    | rest => rest
  match rest with
  | [] => some []
  | '\n' :: rest => some rest
  | '\r' :: '\n' :: rest => some rest
  | _ => none

/-- What follows blanks, line ends and comments. -/
def skipFiller (inComment : Bool) : List Char → List Char
  | [] => []
  | '\r' :: '\n' :: rest => skipFiller false rest
  | c :: rest =>
    if c = '\n' then skipFiller false rest
    else if inComment then if isPrintable c then skipFiller true rest else c :: rest
    else if c = '#' then skipFiller true rest
    else if isSpace c then skipFiller false rest
    else c :: rest

/-! ## Keys -/

def isKeyChar (c : Char) : Bool := c.isAlphanum || c == '-' || c == '_'

/-- One key, bare or quoted. -/
def key? (cs : List Char) : Option (String × List Char) :=
  let named (read : Option (List Char × List Char)) :=
    read.map fun (name, rest) => (String.ofList name, rest)
  match cs with
  | '"' :: rest => named (lineText '"' 0 rest)
  | '\x27' :: rest => named (lineText '\x27' 0 rest)
  | cs =>
    let name := cs.takeWhile isKeyChar
    if name = [] then none else some (String.ofList name, cs.dropWhile isKeyChar)

/-- Keys with dots between them: the path and the last key. -/
def keys? (fuel : Nat) (cs : List Char) : Option ((List String × String) × List Char) :=
  match fuel with
  | 0 => none
  | fuel + 1 =>
    match key? (skipSpace cs) with
    | none => none
    | some (key, rest) =>
      match skipSpace rest with
      | '.' :: rest =>
        (keys? fuel rest).map fun ((path, last), rest) => ((key :: path, last), rest)
      | rest => some (([], key), rest)

/-! ## Values -/

/-- The characters of an unquoted value. -/
def isWordChar (c : Char) : Bool :=
  c.isAlphanum || c == '+' || c == '-' || c == '_' || c == '.' || c == ':'

/-- The word of an unquoted value. A blank between a date and a time belongs to it. -/
def word (cs : List Char) : List Char × List Char :=
  let first := cs.takeWhile isWordChar
  let rest := cs.dropWhile isWordChar
  match rest with
  | ' ' :: d :: more =>
    if takeDate? first = some [] ∧ d.isDigit then
      (first ++ ' ' :: (d :: more).takeWhile isWordChar, (d :: more).dropWhile isWordChar)
    else (first, rest)
  | _ => (first, rest)

/-- How deep arrays and tables in braces may be nested. -/
def nestingLimit : Nat := 80

mutual
/-- Reads a value that may nest `depth` arrays and tables. -/
def value (fuel depth : Nat) (cs : List Char) : Option (Toml × List Char) :=
  let quoted (read : Option (List Char × List Char)) :=
    read.map fun (written, rest) => (Toml.text (String.ofList written), rest)
  match fuel, depth, cs with
  | 0, _, _ => none
  | _, _, '"' :: '"' :: '"' :: rest => quoted (block? '"' rest)
  | _, _, '"' :: rest => quoted (lineText '"' 0 rest)
  | _, _, '\x27' :: '\x27' :: '\x27' :: rest => quoted (block? '\x27' rest)
  | _, _, '\x27' :: rest => quoted (lineText '\x27' 0 rest)
  | _, 0, '[' :: _ => none
  | fuel + 1, depth + 1, '[' :: rest => items fuel depth [] rest
  | _, 0, '\x7b' :: _ => none
  | fuel + 1, depth + 1, '\x7b' :: rest => pairs fuel depth [] rest
  | _, _, cs =>
    let (first, rest) := word cs
    (scalar? first).map fun v => (v, rest)
/-- Reads the items of an array after its opening bracket or a comma. -/
def items (fuel depth : Nat) (before : List Toml) (cs : List Char) : Option (Toml × List Char) :=
  match fuel, skipFiller false cs with
  | 0, _ => none
  | _, ']' :: rest => some (.array false before.reverse, rest)
  | fuel + 1, cs =>
    match value fuel depth cs with
    | none => none
    | some (item, rest) =>
      match skipFiller false rest with
      | ',' :: rest => items fuel depth (item :: before) rest
      | ']' :: rest => some (.array false (item :: before).reverse, rest)
      | _ => none
/-- Reads the pairs of a table in braces after its opening brace or a comma. -/
def pairs (fuel depth : Nat) (before : Entries) (cs : List Char) : Option (Toml × List Char) :=
  match fuel, skipFiller false cs with
  | 0, _ => none
  | _, '\x7d' :: rest => some (.table .inline before, rest)
  | fuel + 1, cs =>
    match keys? (cs.length + 1) cs with
    | some ((path, key), '=' :: rest) =>
      match value fuel depth (skipFiller false rest) with
      | none => none
      | some (v, rest) =>
        match assign path key v .header before with
        | none => none
        | some entries =>
          match skipFiller false rest with
          | ',' :: rest => pairs fuel depth entries rest
          | '\x7d' :: rest => some (.table .inline entries, rest)
          | _ => none
    | _ => none
end

/-! ## Documents -/

/-- The entries of a document, and the path of the table that the next pairs belong to. -/
structure Builder where
  entries : Entries
  current : List String

namespace Builder

/-- Adds a pair to the current table. -/
def addPair (b : Builder) (path : List String) (key : String) (v : Toml) : Option Builder :=
  (within false (assign path key v) b.current .header b.entries).map fun entries =>
    { b with entries := entries }

/-- Reads one line, or the lines of one pair. -/
def readLine (b : Builder) (cs : List Char) : Option (Builder × List Char) :=
  match skipSpace cs with
  | '[' :: '[' :: rest =>
    match keys? (rest.length + 1) rest with
    | some ((path, key), ']' :: ']' :: rest) => do
      let entries ← openElement path key b.entries
      return (⟨entries, path ++ [key]⟩, ← endLine? rest)
    | _ => none
  | '[' :: rest =>
    match keys? (rest.length + 1) rest with
    | some ((path, key), ']' :: rest) => do
      let entries ← openTable path key b.entries
      return (⟨entries, path ++ [key]⟩, ← endLine? rest)
    | _ => none
  | cs =>
    match endLine? cs with
    | some rest => some (b, rest)
    | none =>
      match keys? (cs.length + 1) cs with
      | some ((path, key), '=' :: rest) => do
        let (v, rest) ← value (2 * rest.length + 2) nestingLimit (skipSpace rest)
        let b ← b.addPair path key v
        return (b, ← endLine? rest)
      | _ => none

/-- Reads lines to the end of the text. -/
def readLines (fuel : Nat) (b : Builder) (cs : List Char) : Option Builder :=
  match fuel, cs with
  | _, [] => some b
  | 0, _ => none
  | fuel + 1, cs => (b.readLine cs).bind fun (b, rest) => b.readLines fuel rest

end Builder

/-- The entries of the document in a text, which may begin with a byte order mark. -/
def read? (text : String) : Option Entries :=
  let cs := match text.toList with
    | '\ufeff' :: rest => rest
    | rest => rest
  ((Builder.mk [] []).readLines (cs.length + 1) cs).map Builder.entries

end VectorStore.Toml
