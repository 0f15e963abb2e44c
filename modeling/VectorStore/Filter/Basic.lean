import VectorStore.Filter.Operator
import VectorStore.Instant

/-!
Metadata filters as trees. A comparison has a key on its left and a value on its right, a joiner
has two filters, a negation has one on its left. The type admits every other combination too:
filters may be put together by hand, and it is the reading of a tree that refuses it.
-/
namespace VectorStore

/-- A value that a field is compared with. -/
inductive FilterValue
  | bool (b : Bool)
  | int (n : Int)
  | float (x : Float)
  | text (s : String)
  | instant (t : Instant)
  | list (items : List FilterValue)
  deriving Inhabited

mutual
/-- A node of a filter. -/
inductive Filter
  | unary (op : Operator) (left : Operand)
  | binary (op : Operator) (left right : Operand)
/-- What an operator works on. A group is a filter in parentheses. -/
inductive Operand
  | key (path : String)
  | value (v : FilterValue)
  | filter (f : Filter)
  | group (f : Filter)
end

namespace Filter

def op : Filter → Operator
  | .unary op _ => op
  | .binary op _ _ => op
def left : Filter → Operand
  | .unary _ left => left
  | .binary _ left _ => left
def right? : Filter → Option Operand
  | .unary _ _ => none
  | .binary _ _ right => some right
/-- The node with an operator and its operands. -/
def node (op : Operator) (left : Operand) : Option Operand → Filter
  | none => .unary op left
  | some right => .binary op left right

/-- A comparison of a key with a value. -/
def comparison (op : Operator) (key : String) (value : FilterValue) : Filter :=
  .binary op (.key key) (.value value)
def negation (f : Filter) : Filter := .unary .not (.filter f)
def conjunction (f g : Filter) : Filter := .binary .and (.filter f) (.filter g)
def disjunction (f g : Filter) : Filter := .binary .or (.filter f) (.filter g)
/-- A conjunction whose right side keeps its parentheses. -/
def conjunctionGroup (f g : Filter) : Filter := .binary .and (.filter f) (.group g)
/-- A disjunction whose right side keeps its parentheses. -/
def disjunctionGroup (f g : Filter) : Filter := .binary .or (.filter f) (.group g)

end Filter
end VectorStore
