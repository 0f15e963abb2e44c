import VectorStore.Json.Basic
import VectorStore.Text.Basic

/-!
The two written forms of JSON: on one line without spaces, and over several lines with an indent
of two spaces a level.
-/
namespace VectorStore
open Text

namespace Json

/-- A control character as four hexadecimal digits. -/
def hexEscape (c : Char) : List Char :=
  let digits := Nat.toDigits 16 c.toNat
  ['\\', 'u'] ++ List.replicate (4 - digits.length) '0' ++ digits

/-- A character of a JSON string. -/
def escapeChar (c : Char) : List Char :=
  if c = '"' then ['\\', '"']
  else if c = '\\' then ['\\', '\\']
  else if c = '\n' then ['\\', 'n']
  else if c = '\r' then ['\\', 'r']
  else if c = '\t' then ['\\', 't']
  else if c.toNat = 8 then ['\\', 'b']
  else if c.toNat = 12 then ['\\', 'f']
  else if c.toNat < 0x20 then hexEscape c
  else [c]

/-- A text as a JSON string. -/
def quote (s : String) : String := "\"" ++ String.ofList (s.toList.flatMap escapeChar) ++ "\""

end Json

/-- An integer in decimal digits. -/
def integerText (n : Int) : String :=
  String.ofList ((if n < 0 then ['-'] else []) ++ Nat.toDigits 10 n.natAbs)
/-- A natural number in decimal digits. -/
def naturalText (n : Nat) : String := String.ofList (Nat.toDigits 10 n)

/-- A number as JSON writes it. -/
def JsonNumber.text : JsonNumber → String
  | .int n => integerText n
  | .double x => Layout.json.double x

namespace Json

mutual
/-- A value on one line. -/
def compact : Json → String
  | .null => "null"
  | .bool b => if b then "true" else "false"
  | .number n => n.text
  | .string s => quote s
  | .array items => "[" ++ joinWith "," (compactItems items) ++ "]"
  | .object fields => "\x7b" ++ joinWith "," (compactFields fields) ++ "\x7d"
def compactItems : List Json → List String
  | [] => []
  | j :: rest => compact j :: compactItems rest
def compactFields : List (String × Json) → List String
  | [] => []
  | (name, j) :: rest => (quote name ++ ":" ++ compact j) :: compactFields rest
end

/-- Lines between brackets, one item a line; nothing between the brackets of no items. -/
def block (opening closing : String) (depth : Nat) (items : List String) : String :=
  if items.isEmpty then opening ++ closing
  else
    let indent (n : Nat) := "\n" ++ String.ofList (List.replicate (2 * n) ' ')
    opening ++ indent (depth + 1) ++ joinWith ("," ++ indent (depth + 1)) items ++
      indent depth ++ closing

mutual
/-- A value over several lines, its inner lines indented for `depth` levels. -/
def pretty (depth : Nat) : Json → String
  | .null => "null"
  | .bool b => if b then "true" else "false"
  | .number n => n.text
  | .string s => quote s
  | .array items => block "[" "]" depth (prettyItems (depth + 1) items)
  | .object fields => block "\x7b" "\x7d" depth (prettyFields (depth + 1) fields)
def prettyItems (depth : Nat) : List Json → List String
  | [] => []
  | j :: rest => pretty depth j :: prettyItems depth rest
def prettyFields (depth : Nat) : List (String × Json) → List String
  | [] => []
  | (name, j) :: rest => (quote name ++ ": " ++ pretty depth j) :: prettyFields depth rest
end

end Json
end VectorStore
