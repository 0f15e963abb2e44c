import VectorStore.Number.Reading

/-!
Quoted texts of TOML: on one line or over several, with escapes between double quotes and as they
stand between single ones. The readers begin after the opening quotes and give the text and what
follows the closing ones.
-/
namespace VectorStore.Toml

/-- A character that may stand in a text or a comment: a tab, or none of the control characters
of ASCII. -/
def isPrintable (c : Char) : Bool := c == '\t' || (0x20 ≤ c.toNat && c.toNat != 0x7F)

/-- The character with a code of some hexadecimal digits, unless it is half of a surrogate pair. -/
def coded? (count : Nat) (cs : List Char) : Option (Char × Nat) :=
  if count ≤ cs.length then
    (hexDigitsValue? (cs.take count)).bind fun code =>
      if code.isValidChar then some (Char.ofNat code, count + 1) else none
  else none

/-- The character that an escape stands for and the length of the escape, after its backslash. -/
def escape? : List Char → Option (Char × Nat)
  | 'b' :: _ => some (Char.ofNat 8, 1)
  | 't' :: _ => some ('\t', 1)
  | 'n' :: _ => some ('\n', 1)
  | 'f' :: _ => some (Char.ofNat 12, 1)
  | 'r' :: _ => some ('\r', 1)
  | 'e' :: _ => some (Char.ofNat 27, 1)
  | '"' :: _ => some ('"', 1)
  | '\\' :: _ => some ('\\', 1)
  | 'x' :: rest => coded? 2 rest
  | 'u' :: rest => coded? 4 rest
  | 'U' :: rest => coded? 8 rest
  | _ => none

/-- The length of blanks and line ends from the end of a line to the next character that is
neither, if there is nothing but blanks on the rest of the line. -/
def lineJoin? (cs : List Char) : Option Nat :=
  let blank (c : Char) := c == ' ' || c == '\t'
  let joined (rest : List Char) :=
    cs.length - (rest.dropWhile fun c => blank c || c == '\n' || c == '\r').length
  match cs.dropWhile blank with
  | '\n' :: rest => some (joined rest)
  | '\r' :: '\n' :: rest => some (joined rest)
  | _ => none

/-- Puts a character before a text that was read. -/
def prepend (c : Char) (read : Option (List Char × List Char)) : Option (List Char × List Char) :=
  read.map fun (cs, rest) => (c :: cs, rest)

/-- Reads a text on one line, after as many characters as an escape took. -/
def lineText (quote : Char) : Nat → List Char → Option (List Char × List Char)
  | _, [] => none
  | n + 1, _ :: rest => lineText quote n rest
  | 0, c :: rest =>
    if c = quote then some ([], rest)
    else if c = '\\' ∧ quote = '"' then
      match escape? rest with
      | some (written, used) => prepend written (lineText quote used rest)
      | none => none
    else if isPrintable c then prepend c (lineText quote 0 rest)
    else none

/-- Reads a text over several lines, after as many characters as an escape took. It ends at three
quotes, and one or two more belong to it. -/
def blockText (quote : Char) : Nat → List Char → Option (List Char × List Char)
  | _, [] => none
  | n + 1, _ :: rest => blockText quote n rest
  | 0, c :: rest =>
    if c = quote then
      let more := (rest.takeWhile (· = quote)).length
      if 2 ≤ more then
        let extra := min more 4 - 2
        some (List.replicate extra quote, rest.drop (2 + extra))
      else prepend c (blockText quote 0 rest)
    else if c = '\\' ∧ quote = '"' then
      match lineJoin? rest with
      | some length => blockText quote length rest
      | none =>
        match escape? rest with
        | some (written, used) => prepend written (blockText quote used rest)
        | none => none
    else if c = '\r' then if rest.head? = some '\n' then blockText quote 0 rest else none
    else if c = '\n' ∨ isPrintable c then prepend c (blockText quote 0 rest)
    else none

/-- Reads a text over several lines; a line end right after the opening quotes is no part of it. -/
def block? (quote : Char) : List Char → Option (List Char × List Char)
  | '\n' :: rest => blockText quote 0 rest
  | '\r' :: '\n' :: rest => blockText quote 0 rest
  | rest => blockText quote 0 rest

end VectorStore.Toml
