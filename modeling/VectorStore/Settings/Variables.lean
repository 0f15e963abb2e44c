import VectorStore.Settings.Basic
import VectorStore.Text.Letters

/-!
Variables read from a file of `NAME=value` lines. Values may be quoted, the quotes may span lines,
and `$NAME` stands for another variable. A variable that is set already keeps its value, and
nothing is read beyond the first line that is faulty.
-/
namespace VectorStore

/-- Sets a variable that is not set yet. -/
def Environment.setNew (env : Environment) (name value : String) : Environment :=
  fun other => if other = name then some ((env name).getD value) else env other

namespace VariableFile

/-! ## Lines -/

/-- The lines of a text with their line ends. -/
def lines : List Char → List (List Char)
  | [] => []
  | '\n' :: rest => ['\n'] :: lines rest
  | c :: rest =>
    match lines rest with
    | [] => [[c]]
    | line :: others => (c :: line) :: others

/-- What quotes leave open. -/
inductive Quote
  | plain
  | weak
  | strong
  deriving DecidableEq

/-- How far a line is settled at a character: what is quoted there, whether a backslash stands
before it, and whether a blank does. -/
structure LineState where
  quote : Quote
  escaped : Bool
  blank : Bool
  deriving DecidableEq

namespace LineState

def settled : LineState := ⟨.plain, false, false⟩

/-- The state after a character. -/
def step (s : LineState) (c : Char) : LineState :=
  if s.escaped then { s with escaped := false }
  else if c = '\\' then ⟨s.quote, true, false⟩
  else
    match s.quote with
    | .weak => if c = '"' then settled else s
    | .strong => if c = '\x27' then settled else s
    | .plain =>
      if c = '"' then ⟨.weak, false, false⟩
      else if c = '\x27' then ⟨.strong, false, false⟩
      else ⟨.plain, false, Text.isBlank c && !s.blank && c != '\n' && c != '\r'⟩

end LineState

/-- The part of a line before a comment, if there is one, or else the state at its end. A comment
begins with a number sign after a blank. -/
def beforeComment (s : LineState) : List Char → List Char ⊕ LineState
  | [] => .inr s
  | c :: rest =>
    if s.blank ∧ c = '#' then .inl []
    else
      match beforeComment (s.step c) rest with
      | .inl before => .inl (c :: before)
      | .inr s => .inr s

/-- A line without its line end. -/
def chomp (line : List Char) : List Char :=
  match line.reverse with
  | '\n' :: '\r' :: rest => rest.reverse
  | '\n' :: rest => rest.reverse
  | _ => line

/-- Joins lines that leave something open, after an open beginning; the last is missing if it
stays open. -/
def joinLines (s : LineState) (beginning : List Char) : List (List Char) → List (Option (List Char))
  | [] => if s = .settled then [] else [none]
  | line :: rest =>
    let whole := beginning ++ line
    if (whole.dropWhile Text.isBlank).head? = some '#' then joinLines .settled [] rest
    else
      match beforeComment s line with
      | .inl before => some (beginning ++ before) :: joinLines .settled [] rest
      | .inr after =>
        if after = .settled then some (chomp whole) :: joinLines .settled [] rest
        else joinLines after whole rest

/-! ## Values -/

/-- Where the reading of a value is. -/
inductive Mode
  | content
  | escaped
  /-- In a name after a dollar sign. -/
  | name (written : List Char)
  /-- In a name between braces. -/
  | braced (written : List Char)
  /-- After the blank that ends a value. -/
  | ended

/-- The characters that a backslash may stand before, and what they become. -/
def escape? (c : Char) : Option Char :=
  if ['\\', '\x27', '"', '$', ' '].contains c then some c
  else if c = 'n' then some '\n'
  else none

def isNamePart (c : Char) : Bool := Text.isLetter c || Text.isNumber c

/-- Reads a value, appending it to what was read before. -/
def value? (resolve : List Char → List Char) (mode : Mode) (quote : Quote) (before : List Char) :
    List Char → Option (List Char)
  | [] =>
    match mode, quote with
    | .braced _, _ => none
    | .name written, .plain => some (before ++ resolve written)
    | _, .plain => some before
    | _, _ => none
  | c :: rest =>
    match mode with
    | .ended =>
      if c = ' ' ∨ c = '\t' then value? resolve .ended quote before rest
      else if c = '#' then some before
      else none
    | .escaped =>
      match escape? c with
      | some c => value? resolve .content quote (before ++ [c]) rest
      | none => none
    | .name written =>
      if isNamePart c then value? resolve (.name (written ++ [c])) quote before rest
      else if c = '\x7b' ∧ written = [] then value? resolve (.braced []) quote before rest
      else
        let before := before ++ resolve written
        if c = '$' then value? resolve (.name []) quote before rest
        else value? resolve .content quote (before ++ [c]) rest
    | .braced written =>
      if c = '\x7d' then value? resolve .content quote (before ++ resolve written) rest
      else value? resolve (.braced (written ++ [c])) quote before rest
    | .content =>
      match quote with
      | .strong =>
        if c = '\x27' then value? resolve .content .plain before rest
        else value? resolve .content .strong (before ++ [c]) rest
      | .weak =>
        if c = '$' then value? resolve (.name []) .weak before rest
        else if c = '"' then value? resolve .content .plain before rest
        else if c = '\\' then value? resolve .escaped .weak before rest
        else value? resolve .content .weak (before ++ [c]) rest
      | .plain =>
        if c = '$' then value? resolve (.name []) .plain before rest
        else if c = '\x27' then value? resolve .content .strong before rest
        else if c = '"' then value? resolve .content .weak before rest
        else if c = '\\' then value? resolve .escaped .plain before rest
        else if c = ' ' ∨ c = '\t' then value? resolve .ended .plain before rest
        else value? resolve .content .plain (before ++ [c]) rest

/-! ## Assignments -/

def skipBlanks (cs : List Char) : List Char := cs.dropWhile Text.isBlank

/-- A name off the front: a letter or underscore, then letters, digits, underscores and dots. -/
def takeName? (cs : List Char) : Option (List Char × List Char) :=
  let isPart (c : Char) := c.isAlphanum || c == '_' || c == '.'
  match cs with
  | c :: _ =>
    if c.isAlpha || c == '_' then some (cs.takeWhile isPart, cs.dropWhile isPart) else none
  | [] => none

/-- A name and the equals sign after it off the front; `export` may stand before the name. -/
def takeTarget? (cs : List Char) : Option (List Char × List Char) := do
  let (name, rest) ← takeName? cs
  match skipBlanks rest with
  | '=' :: rest => some (name, rest)
  | rest =>
    if name = "export".toList then
      let (name, rest) ← takeName? rest
      match skipBlanks rest with
      | '=' :: rest => some (name, rest)
      | _ => none
    else none

/-- The environment after a line; nothing if the line is faulty. -/
def assign? (env : Environment) (line : List Char) : Option Environment :=
  let written := skipBlanks (line.reverse.dropWhile Text.isBlank).reverse
  if written = [] ∨ written.head? = some '#' then some env
  else
    match takeTarget? written with
    | none => none
    | some (name, rest) =>
      let resolve (other : List Char) : List Char :=
        ((env (String.ofList other)).getD "").toList
      let rest := skipBlanks rest
      let value :=
        if rest.head? = some '#' then some [] else value? resolve .content .plain [] rest
      value.map fun value => env.setNew (String.ofList name) (String.ofList value)

/-- The environment after lines, up to the first that is faulty. -/
def assignAll (env : Environment) : List (Option (List Char)) → Environment
  | some line :: rest =>
    match assign? env line with
    | some env => assignAll env rest
    | none => env
  | _ => env

/-- The environment with the variables of a text, which may begin with a byte order mark. -/
def load (env : Environment) (text : String) : Environment :=
  let cs := match text.toList with
    | '\ufeff' :: rest => rest
    | rest => rest
  assignAll env (joinLines .settled [] (lines cs))

end VariableFile
end VectorStore
