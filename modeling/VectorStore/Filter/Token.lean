import VectorStore.Error
import VectorStore.Text.Letters

/-!
The tokens of a filter text. Blanks separate tokens and are dropped; every other character
belongs to exactly one token, which is the longest its first character begins. Offsets count the
bytes of UTF-8 before a token.
-/
namespace VectorStore
open Text

/-- The meaning of a token. -/
inductive Lexeme
  | openParen
  | closeParen
  | openBracket
  | closeBracket
  | comma
  | comparison (op : Operator)
  | and
  | or
  | not
  | word (text : String)
  | quoted (text : String)
  | number (text : String)
  deriving DecidableEq

/-- A token and the offset of its first byte. -/
structure Token where
  lexeme : Lexeme
  offset : Nat
  deriving DecidableEq

/-- A refused filter text. -/
structure SyntaxError where
  offset : Nat
  fault : SyntaxFault
  deriving DecidableEq

def SyntaxError.toError (e : SyntaxError) : Error := .invalidInput (.filterText e.offset e.fault)

namespace Lexeme

/-- The characters after the first of a number: letters are taken too, so that a malformed number
is one token. -/
def isNumberPart (c : Char) : Bool := c.isAlphanum || c == '.' || c == '-' || c == '+' || c == '_'
def isNumberStart (c : Char) : Bool := c.isDigit || c == '-' || c == '+' || c == '.'
def isWordStart (c : Char) : Bool := isLetter c || c == '_'
def isWordPart (c : Char) : Bool := isLetter c || isNumber c || c == '_' || c == '.'

/-- The text after an opening quote up to the closing one, and how many characters it takes with
the closing quote. A backslash gives the character after it. -/
def quotedText? (quote : Char) : List Char → Option (List Char × Nat)
  | [] => none
  | '\\' :: [] => none
  | '\\' :: c :: rest => (quotedText? quote rest).map fun (text, n) => (c :: text, n + 2)
  | c :: rest =>
    if c = quote then some ([], 1)
    else (quotedText? quote rest).map fun (text, n) => (c :: text, n + 1)

/-- A word, or the operator it spells in any case. -/
def ofWord (text : String) : Lexeme :=
  if equalsIgnoringCase text "and" then .and
  else if equalsIgnoringCase text "or" then .or
  else if equalsIgnoringCase text "not" then .not
  else .word text

/-- The lexeme that begins with a character that is not blank, given what follows, and how many
of the following characters belong to it. -/
def ofChars (c : Char) (rest : List Char) : Except SyntaxFault (Lexeme × Nat) :=
  let doubled := rest.head? == some '='
  if c = '(' then .ok (.openParen, 0)
  else if c = ')' then .ok (.closeParen, 0)
  else if c = '[' then .ok (.openBracket, 0)
  else if c = ']' then .ok (.closeBracket, 0)
  else if c = ',' then .ok (.comma, 0)
  else if c = '=' then if doubled then .ok (.comparison .eq, 1) else .error .expectedEquals
  else if c = '!' then .ok (if doubled then (.comparison .ne, 1) else (.not, 0))
  else if c = '<' then .ok (if doubled then (.comparison .lte, 1) else (.comparison .lt, 0))
  else if c = '>' then .ok (if doubled then (.comparison .gte, 1) else (.comparison .gt, 0))
  else if c = '&' ∨ c = '|' then
    if rest.head? = some c then .ok (if c = '&' then .and else .or, 1) else .error .expectedDoubled
  else if c = '\x27' ∨ c = '"' then
    match quotedText? c rest with
    | some (text, n) => .ok (.quoted (String.ofList text), n)
    | none => .error .unterminatedString
  else if isNumberStart c then
    let more := rest.takeWhile isNumberPart
    .ok (.number (String.ofList (c :: more)), more.length)
  else if isWordStart c then
    let more := rest.takeWhile isWordPart
    .ok (ofWord (String.ofList (c :: more)), more.length)
  else .error (.unexpectedCharacter c)

end Lexeme

namespace Token

/-- The tokens of a text from an offset on, its first `skip` characters being part of the token
before. -/
def scan (skip offset : Nat) : List Char → Except SyntaxError (List Token)
  | [] => .ok []
  | c :: rest =>
    match skip with
    | skip + 1 => scan skip (offset + c.utf8Size) rest
    | 0 =>
      if isBlank c then scan 0 (offset + c.utf8Size) rest
      else
        match Lexeme.ofChars c rest with
        | .error fault => .error ⟨offset, fault⟩
        | .ok (lexeme, taken) =>
          match scan taken (offset + c.utf8Size) rest with
          | .error e => .error e
          | .ok tokens => .ok (⟨lexeme, offset⟩ :: tokens)

/-- The tokens of a text. -/
def ofText (text : String) : Except SyntaxError (List Token) := scan 0 0 text.toList

end Token
end VectorStore
