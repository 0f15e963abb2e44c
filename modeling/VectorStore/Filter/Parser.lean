import VectorStore.Filter.Basic
import VectorStore.Filter.Token

/-!
Filters read from tokens, one token at a time. What is open around the current place stands on a
stack, innermost first: negations, parentheses, and joiners whose left side is read. `AND` binds
tighter than `OR`, both group to the left, and a negation takes the next operand alone.
Parentheses become a group, except around the whole text, directly inside other parentheses, and
directly under a negation, where they change nothing.
-/
namespace VectorStore

/-- A finished part of a filter, and whether parentheses stand around it. -/
structure Clause where
  grouped : Bool
  filter : Filter

def Clause.operand (c : Clause) : Operand := if c.grouped then .group c.filter else .filter c.filter

/-- A construct that waits for the operand being read. -/
inductive Frame
  | negation
  | paren
  | conjunction (left : Clause)
  | disjunction (left : Clause)

/-- Whether a construct counts against the nesting limit. -/
def Frame.nests : Frame → Bool
  | negation | paren => true
  | _ => false

/-- What the next token has to be. Open lists stand innermost first, each with its items latest
first. -/
inductive Expectation
  /-- A negation, an opening parenthesis or a key. -/
  | operand
  /-- An operator after a key. -/
  | operator (key : String)
  /-- The `IN` of `NOT IN`. -/
  | membership (key : String)
  /-- The value of a comparison. -/
  | value (key : String) (op : Operator)
  /-- An item of the innermost list. -/
  | item (key : String) (op : Operator) (innermost : List FilterValue)
      (outer : List (List FilterValue))
  /-- A comma or the end of the innermost list. -/
  | separator (key : String) (op : Operator) (innermost : List FilterValue)
      (outer : List (List FilterValue))
  /-- A joiner, a closing parenthesis or the end, after an operand. -/
  | joiner (operand : Clause)

/-- The place of a reader between two tokens. -/
structure ParseState where
  stack : List Frame
  expects : Expectation

/-- How deep negations, parentheses and lists may be nested together. -/
def nestingLimit : Nat := 64

namespace ParseState

/-- The place before the first token. -/
def start : ParseState := ⟨[], .operand⟩

/-- The negations and parentheses that are open. -/
def depth (stack : List Frame) : Nat := stack.countP Frame.nests

/-- Gives a finished operand to the negations that wait for it. -/
def settle : List Frame → Clause → ParseState
  | .negation :: rest, c => settle rest ⟨false, .negation c.filter⟩
  | stack, c => ⟨stack, .joiner c⟩
/-- Joins a finished operand to the conjunction that waits for it. -/
def closeConjunction : List Frame → Clause → List Frame × Clause
  | .conjunction left :: rest, c => (rest, ⟨false, .binary .and left.operand c.operand⟩)
  | stack, c => (stack, c)
/-- Joins a finished operand to the joiners that wait for it. -/
def closeJoiners (stack : List Frame) (c : Clause) : List Frame × Clause :=
  match closeConjunction stack c with
  | (.disjunction left :: rest, c) => (rest, ⟨false, .binary .or left.operand c.operand⟩)
  | closed => closed

/-- The finished comparison of a key with a value. -/
def compared (stack : List Frame) (key : String) (op : Operator) (value : FilterValue) :
    ParseState :=
  settle stack ⟨false, .comparison op key value⟩
/-- Puts a finished value into the list around it, or into the comparison. -/
def deliver (stack : List Frame) (key : String) (op : Operator) (value : FilterValue) :
    List (List FilterValue) → ParseState
  | [] => compared stack key op value
  | innermost :: outer => ⟨stack, .separator key op (value :: innermost) outer⟩

/-- The operator that a word spells after a key. -/
def wordOperator? (text : String) : Option Operator :=
  if Text.equalsIgnoringCase text "in" then some .isIn
  else if Text.equalsIgnoringCase text "nin" then some .notIn
  else none

/-- The value of a number token: an integer if it is a signed 64-bit one, else a finite double. -/
def number? (text : String) : Option FilterValue :=
  match readInteger? text.toList with
  | some n => some (.int n)
  | none => ((readDouble? text.toList).filter doubleFinite).map .float

/-- The value that a token is by itself. -/
def simpleValue (lexeme : Lexeme) : Except SyntaxFault FilterValue :=
  match lexeme with
  | .quoted text => .ok (.text text)
  | .number text => match number? text with
    | some value => .ok value
    | none => .error (.invalidNumber text)
  | .word text =>
    if Text.equalsIgnoringCase text "true" then .ok (.bool true)
    else if Text.equalsIgnoringCase text "false" then .ok (.bool false)
    else .error .expectedValue
  | _ => .error .expectedValue

/-- Reads a value inside `lists` open lists: an opening bracket opens one more. The nesting limit
is noticed after the bracket, at the offset `next`. -/
def readValue (stack : List Frame) (key : String) (op : Operator) (lists : List (List FilterValue))
    (t : Token) (next : Nat) : Except SyntaxError ParseState :=
  match t.lexeme with
  | .openBracket =>
    if nestingLimit ≤ depth stack + lists.length then .error ⟨next, .nestedTooDeeply⟩
    else .ok ⟨stack, .item key op [] lists⟩
  | lexeme =>
    match simpleValue lexeme with
    | .ok value => .ok (deliver stack key op value lists)
    | .error fault => .error ⟨t.offset, fault⟩

/-- Opens a negation or a parenthesis. The nesting limit is noticed after its token. -/
def openFrame (stack : List Frame) (frame : Frame) (next : Nat) : Except SyntaxError ParseState :=
  if nestingLimit ≤ depth stack then .error ⟨next, .nestedTooDeeply⟩
  else .ok ⟨frame :: stack, .operand⟩

/-- Reads one token; `next` is the offset of the token after it, or the end of the text. -/
def step (s : ParseState) (t : Token) (next : Nat) : Except SyntaxError ParseState :=
  match s.expects with
  | .operand =>
    match t.lexeme with
    | .not => openFrame s.stack .negation next
    | .openParen => openFrame s.stack .paren next
    | .word key | .quoted key => .ok ⟨s.stack, .operator key⟩
    | _ => .error ⟨t.offset, .expectedField⟩
  | .operator key =>
    match t.lexeme with
    | .comparison op => .ok ⟨s.stack, .value key op⟩
    | .not => .ok ⟨s.stack, .membership key⟩
    | .word text =>
      match wordOperator? text with
      | some op => .ok ⟨s.stack, .value key op⟩
      | none => .error ⟨t.offset, .expectedOperator⟩
    | _ => .error ⟨t.offset, .expectedOperator⟩
  | .membership key =>
    match t.lexeme with
    | .word text =>
      if Text.equalsIgnoringCase text "in" then .ok ⟨s.stack, .value key .notIn⟩
      else .error ⟨t.offset, .expectedIn⟩
    | _ => .error ⟨t.offset, .expectedIn⟩
  | .value key op =>
    if op.listed && t.lexeme != .openBracket then .error ⟨t.offset, .expectedList⟩
    else readValue s.stack key op [] t next
  | .item key op innermost outer =>
    if innermost.isEmpty && t.lexeme == .closeBracket then .error ⟨t.offset, .emptyList⟩
    else readValue s.stack key op (innermost :: outer) t next
  | .separator key op innermost outer =>
    match t.lexeme with
    | .comma => .ok ⟨s.stack, .item key op innermost outer⟩
    | .closeBracket => .ok (deliver s.stack key op (.list innermost.reverse) outer)
    | _ => .error ⟨next, .expectedSeparator⟩
  | .joiner c =>
    match t.lexeme with
    | .and =>
      let (stack, c) := closeConjunction s.stack c
      .ok ⟨.conjunction c :: stack, .operand⟩
    | .or =>
      let (stack, c) := closeJoiners s.stack c
      .ok ⟨.disjunction c :: stack, .operand⟩
    | .closeParen =>
      match closeJoiners s.stack c with
      | (.paren :: stack, c) => .ok (settle stack ⟨true, c.filter⟩)
      | _ => .error ⟨t.offset, .trailingInput⟩
    | _ =>
      match (closeJoiners s.stack c).1 with
      | [] => .error ⟨t.offset, .trailingInput⟩
      | _ => .error ⟨t.offset, .expectedClosing⟩

/-- The filter read when the text ends, or what is missing at its end. -/
def finish (s : ParseState) : Except SyntaxFault Filter :=
  match s.expects with
  | .operand => .error .expectedField
  | .operator _ => .error .expectedOperator
  | .membership _ => .error .expectedIn
  | .value _ op => .error (if op.listed then .expectedList else .expectedValue)
  | .item .. => .error .expectedValue
  | .separator .. => .error .expectedSeparator
  | .joiner c =>
    match closeJoiners s.stack c with
    | ([], c) => .ok c.filter
    | _ => .error .expectedClosing

/-- The offset of the first token, or the end of the text. -/
def nextOffset (final : Nat) : List Token → Nat
  | [] => final
  | t :: _ => t.offset

/-- Reads the tokens of a text that ends at the offset `final`. -/
def run (final : Nat) (s : ParseState) : List Token → Except SyntaxError Filter
  | [] =>
    match s.finish with
    | .ok f => .ok f
    | .error fault => .error ⟨final, fault⟩
  | t :: rest =>
    match s.step t (nextOffset final rest) with
    | .ok s => run final s rest
    | .error e => .error e

end ParseState

namespace Filter

/-- Reads a filter, or says where and why the text is none. -/
def read (text : String) : Except SyntaxError Filter :=
  match Token.ofText text with
  | .ok tokens => ParseState.run text.utf8ByteSize .start tokens
  | .error e => .error e

/-- Reads a filter as part of a larger operation. -/
def ofText (text : String) : Except Error Filter := (read text).mapError SyntaxError.toError

end Filter
end VectorStore
