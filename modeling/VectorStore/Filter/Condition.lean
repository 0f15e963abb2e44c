import VectorStore.Filter.Basic
import VectorStore.Literal

/-!
Conditions of the query language, written from filters. Joiners are written without adding
parentheses, and a negation is written as the opposite comparison, so only comparisons that have
an opposite can be negated.
-/
namespace VectorStore

mutual
/-- A value as a literal; what is no finite number has none, at any depth of a list. -/
def FilterValue.literal : FilterValue → Except Error String
  | .bool b => .ok (if b then "true" else "false")
  | .int n => .ok (integerText n)
  | .float x =>
    if doubleFinite x then .ok (Layout.literal.double x) else .error (.invalidInput (.notFinite x))
  | .text s => .ok (quoteText s)
  | .instant t => .ok ("d'" ++ t.text ++ "'")
  | .list items =>
    match FilterValue.literals items with
    | .ok written => .ok ("[" ++ Text.joinWith "," written ++ "]")
    | .error e => .error e
def FilterValue.literals : List FilterValue → Except Error (List String)
  | [] => .ok []
  | v :: rest =>
    match FilterValue.literal v with
    | .error e => .error e
    | .ok first =>
      match FilterValue.literals rest with
      | .error e => .error e
      | .ok others => .ok (first :: others)
end

/-- A comparison whose key is a field path. -/
structure Comparison where
  key : String
  op : Operator
  value : FilterValue

namespace Comparison

/-- The comparison of an operator and its operands. -/
def ofOperands (op : Operator) (left : Operand) (right? : Option Operand) :
    Except Error Comparison :=
  match left with
  | .key key =>
    if isFieldPath key then
      match right? with
      | some (.value value) => .ok ⟨key, op, value⟩
      | some _ => .error (.invalidInput (.valueRequired op))
      | none => .error (.invalidInput (.secondOperandRequired op))
    else .error (.invalidInput (.fieldPath key))
  | _ => .error (.invalidInput (.keyRequired op))

/-- The comparison that a negation of its operands stands for. -/
def ofNegated (left : Operand) (right? : Option Operand) : Except Error Comparison :=
  match right? with
  | some _ => .error (.invalidInput .negationTakesOne)
  | none =>
    match left with
    | .filter child =>
      match child.op.negation? with
      | some op => ofOperands op child.left child.right?
      | none => .error (.unsupportedOperator (.comparison child.op))
    | .group _ => .error (.unsupportedOperator .group)
    | _ => .error (.invalidInput .negatesCondition)

/-- The comparison of a node that does not join. -/
def ofNode (op : Operator) (left : Operand) (right? : Option Operand) : Except Error Comparison :=
  if op = .not then ofNegated left right? else ofOperands op left right?

/-- A comparison as a condition. -/
def condition (c : Comparison) : Except Error String :=
  match c.value.literal with
  | .ok literal => .ok (c.key ++ " " ++ c.op.symbol ++ " " ++ literal)
  | .error e => .error e

end Comparison

/-- The condition of a node that does not join. -/
def leafCondition (op : Operator) (left : Operand) (right? : Option Operand) :
    Except Error String :=
  match Comparison.ofNode op left right? with
  | .ok c => c.condition
  | .error e => .error e

mutual
/-- A filter as a condition. -/
def Filter.condition : Filter → Except Error String
  | .unary op left =>
    if op.joins then .error (.invalidInput (.secondOperandRequired op))
    else leafCondition op left none
  | .binary op left right =>
    if op.joins then
      match Operand.condition op left with
      | .error e => .error e
      | .ok l =>
        match Operand.condition op right with
        | .error e => .error e
        | .ok r => .ok (l ++ " " ++ op.symbol ++ " " ++ r)
    else leafCondition op left (some right)
/-- An operand of a joiner as a condition. -/
def Operand.condition (joiner : Operator) : Operand → Except Error String
  | .filter f => f.condition
  | .group f =>
    match f.condition with
    | .ok text => .ok ("(" ++ text ++ ")")
    | .error e => .error e
  | _ => .error (.invalidInput (.conditionsRequired joiner))
end

end VectorStore
