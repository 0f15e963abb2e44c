import VectorStore.Filter.Condition
import VectorStore.Filter.Parser

/-!
The grammar of filter texts over lexemes, each phrase with the part of a filter that it stands for
and the comparisons in it, in order:

    disjunction := conjunction (OR conjunction)*
    conjunction := unary (AND unary)*
    unary       := NOT unary | primary
    primary     := '(' disjunction ')' | key comparator value | key (IN | NIN | NOT IN) listing
    value       := text | number | true | false | listing
    listing     := '[' value (',' value)* ']'

The first index of a phrase is its room: the number of negations, groups and lists that may be
open inside it at one point.
-/
namespace VectorStore

/-- The operators that a comparison lexeme may carry. -/
def Operator.comparator (op : Operator) : Bool := op.compares && !op.listed

mutual
/-- The comparisons of a filter, from the left; nodes of no meaning have none. -/
def Filter.comparisons : Filter → List Comparison
  | .unary _ left => left.comparisons
  | .binary op (.key key) (.value value) => [⟨key, op, value⟩]
  | .binary _ left right => left.comparisons ++ right.comparisons
def Operand.comparisons : Operand → List Comparison
  | .filter f => f.comparisons
  | .group f => f.comparisons
  | _ => []
end

namespace Grammar
open Text

/-- A key is any word or quoted text. -/
inductive Key : Lexeme → String → Prop
  | word (text : String) : Key (.word text) text
  | quoted (text : String) : Key (.quoted text) text

/-- The spellings of the operators that take a listing. -/
inductive Membership : List Lexeme → Operator → Prop
  | isIn {word : String} (spelled : equalsIgnoringCase word "in" = true) :
    Membership [.word word] .isIn
  | nin {word : String} (spelled : equalsIgnoringCase word "nin" = true) :
    Membership [.word word] .notIn
  | notIn {word : String} (spelled : equalsIgnoringCase word "in" = true) :
    Membership [.not, .word word] .notIn

/-- A value of one lexeme. A number is an integer if it reads as a signed 64-bit one, and else a
finite double. -/
inductive Simple : Lexeme → FilterValue → Prop
  | text (text : String) : Simple (.quoted text) (.text text)
  | int {text : String} {n : Int} (reads : readInteger? text.toList = some n) :
    Simple (.number text) (.int n)
  | float {text : String} {x : Float} (noInteger : readInteger? text.toList = none)
      (reads : readDouble? text.toList = some x) (finite : doubleFinite x = true) :
    Simple (.number text) (.float x)
  | true {word : String} (spelled : equalsIgnoringCase word "true" = true) :
    Simple (.word word) (.bool true)
  | false {word : String} (spelled : equalsIgnoringCase word "false" = true) :
    Simple (.word word) (.bool false)

mutual
inductive Value : Nat → List Lexeme → FilterValue → Prop
  | simple {room : Nat} {lexeme : Lexeme} {v : FilterValue} (simple : Simple lexeme v) :
    Value room [lexeme] v
  | listing {room : Nat} {ls : List Lexeme} {items : List FilterValue}
      (listing : Listing room ls items) :
    Value room ls (.list items)
inductive Listing : Nat → List Lexeme → List FilterValue → Prop
  | brackets {room : Nat} {ls : List Lexeme} {items : List FilterValue}
      (inner : Items room ls items) :
    Listing (room + 1) (.openBracket :: (ls ++ [.closeBracket])) items
/-- One value or more, with commas between them. -/
inductive Items : Nat → List Lexeme → List FilterValue → Prop
  | one {room : Nat} {ls : List Lexeme} {v : FilterValue} (value : Value room ls v) :
    Items room ls [v]
  | more {room : Nat} {ls ms : List Lexeme} {items : List FilterValue} {v : FilterValue}
      (earlier : Items room ls items) (value : Value room ms v) :
    Items room (ls ++ .comma :: ms) (items ++ [v])
end

mutual
inductive Disjunction : Nat → List Lexeme → Clause → List Comparison → Prop
  | one {room : Nat} {ls : List Lexeme} {c : Clause} {cs : List Comparison}
      (conjunction : Conjunction room ls c cs) :
    Disjunction room ls c cs
  /-- Disjunctions group to the left. -/
  | or {room : Nat} {ls ms : List Lexeme} {l r : Clause} {cs ds : List Comparison}
      (left : Disjunction room ls l cs) (right : Conjunction room ms r ds) :
    Disjunction room (ls ++ .or :: ms) ⟨false, .binary .or l.operand r.operand⟩ (cs ++ ds)
inductive Conjunction : Nat → List Lexeme → Clause → List Comparison → Prop
  | one {room : Nat} {ls : List Lexeme} {c : Clause} {cs : List Comparison}
      (unary : Unary room ls c cs) :
    Conjunction room ls c cs
  /-- Conjunctions group to the left. -/
  | and {room : Nat} {ls ms : List Lexeme} {l r : Clause} {cs ds : List Comparison}
      (left : Conjunction room ls l cs) (right : Unary room ms r ds) :
    Conjunction room (ls ++ .and :: ms) ⟨false, .binary .and l.operand r.operand⟩ (cs ++ ds)
inductive Unary : Nat → List Lexeme → Clause → List Comparison → Prop
  | primary {room : Nat} {ls : List Lexeme} {c : Clause} {cs : List Comparison}
      (primary : Primary room ls c cs) :
    Unary room ls c cs
  /-- Parentheses directly under a negation are dropped. -/
  | not {room : Nat} {ls : List Lexeme} {c : Clause} {cs : List Comparison}
      (inner : Unary room ls c cs) :
    Unary (room + 1) (.not :: ls) ⟨false, .negation c.filter⟩ cs
inductive Primary : Nat → List Lexeme → Clause → List Comparison → Prop
  /-- Parentheses directly inside others are dropped. -/
  | group {room : Nat} {ls : List Lexeme} {c : Clause} {cs : List Comparison}
      (inner : Disjunction room ls c cs) :
    Primary (room + 1) (.openParen :: (ls ++ [.closeParen])) ⟨true, c.filter⟩ cs
  | comparison {room : Nat} {k : Lexeme} {key : String} {op : Operator} {ls : List Lexeme}
      {v : FilterValue} (isKey : Key k key) (comparator : op.comparator = true)
      (value : Value room ls v) :
    Primary room (k :: .comparison op :: ls) ⟨false, .comparison op key v⟩ [⟨key, op, v⟩]
  | membership {room : Nat} {k : Lexeme} {key : String} {op : Operator} {spelled ls : List Lexeme}
      {items : List FilterValue} (isKey : Key k key) (membership : Membership spelled op)
      (listing : Listing room ls items) :
    Primary room (k :: (spelled ++ ls)) ⟨false, .comparison op key (.list items)⟩
      [⟨key, op, .list items⟩]
end

/-! ## The comparisons of a tree are those of its text -/

theorem comparisons_binary (op : Operator) (l r : Clause) :
    (Filter.binary op l.operand r.operand).comparisons =
      l.filter.comparisons ++ r.filter.comparisons := by
  obtain ⟨leftGrouped, f⟩ := l
  obtain ⟨rightGrouped, g⟩ := r
  cases leftGrouped <;> cases rightGrouped <;>
    simp [Clause.operand, Filter.comparisons, Operand.comparisons]

mutual
theorem Disjunction.comparisons {room : Nat} {ls : List Lexeme} {c : Clause}
    {cs : List Comparison} : Disjunction room ls c cs → c.filter.comparisons = cs
  | .one conjunction => conjunction.comparisons
  | .or left right => by rw [comparisons_binary, left.comparisons, right.comparisons]
theorem Conjunction.comparisons {room : Nat} {ls : List Lexeme} {c : Clause}
    {cs : List Comparison} : Conjunction room ls c cs → c.filter.comparisons = cs
  | .one unary => unary.comparisons
  | .and left right => by rw [comparisons_binary, left.comparisons, right.comparisons]
theorem Unary.comparisons {room : Nat} {ls : List Lexeme} {c : Clause}
    {cs : List Comparison} : Unary room ls c cs → c.filter.comparisons = cs
  | .primary primary => primary.comparisons
  | .not inner => by
    rw [← inner.comparisons]
    simp [Filter.negation, Filter.comparisons, Operand.comparisons]
theorem Primary.comparisons {room : Nat} {ls : List Lexeme} {c : Clause}
    {cs : List Comparison} : Primary room ls c cs → c.filter.comparisons = cs
  | .group inner => inner.comparisons
  | .comparison _ _ _ => rfl
  | .membership _ _ _ => rfl
end

end Grammar
end VectorStore
