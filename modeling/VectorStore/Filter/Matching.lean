import VectorStore.Filter.Condition

/-!
The records that a filter matches, decided as the condition language reads the written filter:
joiners without parentheses form one chain, in which `AND` binds tighter than `OR`, and only a
group keeps its own order. A chain is decided from the left, and the rest of an `AND` run is
skipped once a term of the run fails.
-/
namespace VectorStore

/-- Why a filter cannot be decided on a record. -/
inductive MatchFault
  | refused (e : Error)
  | secondOperandRequired (op : Operator)
  | conditionsRequired

def MatchFault.message : MatchFault → String
  | refused e => e.message
  | secondOperandRequired op => op.name ++ " requires two operands"
  | conditionsRequired => "boolean operands must be expressions"

/-- The order of two doubles; none where one is not a number. -/
def compareDoubles (x y : Float) : Option Ordering :=
  if x < y then some .lt else if y < x then some .gt else if x == y then some .eq else none
/-- The order of two integers. -/
def compareInts (m n : Int) : Ordering := if m < n then .lt else if n < m then .gt else .eq
/-- The order of two texts by code points. -/
def compareTexts (s t : String) : Ordering := if s < t then .lt else if t < s then .gt else .eq
/-- The order of two truth values, false first. -/
def compareBools (a b : Bool) : Ordering :=
  if a == b then .eq else if b then .lt else .gt

mutual
/-- The order of a field and a value of a kind that compares with it. Integers beyond the signed
range and doubles are compared as doubles, texts with instants as timestamps, and arrays with
lists for equality alone. -/
def compareField : Json → FilterValue → Option Ordering
  | .bool a, .bool b => some (compareBools a b)
  | .number a, .int b =>
    match a with
    | .int n =>
      if fitsSigned n then some (compareInts n b)
      else compareDoubles (doubleOfInt n) (doubleOfInt b)
    | .double x => compareDoubles x (doubleOfInt b)
  | .number a, .float y => compareDoubles a.toDouble y
  | .string s, .text t => some (compareTexts s t)
  | .string s, .instant t => (Instant.read? s).map fun i => i.compare t
  | .array items, .list values => if equalItems items values then some .eq else none
  | _, _ => none
/-- Whether an array and a list are equal item by item. -/
def equalItems : List Json → List FilterValue → Bool
  | [], [] => true
  | j :: js, v :: vs => compareField j v == some .eq && equalItems js vs
  | _, _ => false
end

/-- The field at a dotted path of a record. -/
def lookupPath (record : Fields) (path : String) : Option Json :=
  match (Text.split (· == '.') path.toList).map String.ofList with
  | [] => none
  | first :: rest =>
    rest.foldl (fun found name => found.bind fun j => j.field? name) (record.find? first)

/-- Whether a field is equal to an item of a list, or to a single value. -/
def isMember (field : Option Json) (value : FilterValue) : Bool :=
  match field with
  | none => false
  | some j =>
    match value with
    | .list items => items.any fun item => compareField j item == some .eq
    | single => compareField j single == some .eq

/-- Whether a comparison holds of a field, which may be missing. -/
def comparisonHolds (op : Operator) (field : Option Json) (value : FilterValue) : Bool :=
  let order := field.bind fun j => compareField j value
  match op with
  | .eq => order == some .eq
  | .ne => order != some .eq
  | .lt => order == some .lt
  | .lte => order == some .lt || order == some .eq
  | .gt => order == some .gt
  | .gte => order == some .gt || order == some .eq
  | .isIn => isMember field value
  | .notIn => !isMember field value
  | _ => false

/-- Whether a comparison holds of a record. -/
def Comparison.holds (c : Comparison) (record : Fields) : Bool :=
  comparisonHolds c.op (lookupPath record c.key) c.value

/-- Whether a node that does not join holds of a record. -/
def leafMatches (record : Fields) (op : Operator) (left : Operand) (right? : Option Operand) :
    Except MatchFault Bool :=
  match Comparison.ofNode op left right? with
  | .ok c => .ok (c.holds record)
  | .error e => .error (.refused e)

mutual
/-- The first joiner of a chain that lacks its right operand, from the left. -/
def Filter.gap? : Filter → Option Operator
  | .unary op _ => if op.joins then some op else none
  | .binary op left right => if op.joins then left.gap?.or right.gap? else none
def Operand.gap? : Operand → Option Operator
  | .filter f => f.gap?
  | _ => none
end

/-- A chain decided so far: whether an earlier `AND` run holds, and whether the run at hand does. -/
structure ChainState where
  earlier : Bool
  current : Bool

namespace ChainState

/-- Before the first term, which begins a run. -/
def start : ChainState := ⟨false, false⟩
/-- Whether any run holds. -/
def holds (s : ChainState) : Bool := s.earlier || s.current
/-- Adds a term behind a joiner: `AND` extends the run unless it has failed, `OR` begins another. -/
def add (s : ChainState) (joiner : Operator) (term : Unit → Except MatchFault Bool) :
    Except MatchFault ChainState :=
  if joiner = .and then
    if s.current then (term ()).map fun b => ⟨s.earlier, b⟩ else .ok s
  else (term ()).map fun b => ⟨s.holds, b⟩

end ChainState

mutual
/-- Whether a filter matches a record. -/
def Filter.matches (record : Fields) : Filter → Except MatchFault Bool
  | .unary op left =>
    if op.joins then .error (.secondOperandRequired op) else leafMatches record op left none
  | .binary op left right =>
    if op.joins then
      match left.gap?.or right.gap? with
      | some op => .error (.secondOperandRequired op)
      | none =>
        match left.scan record .or .start with
        | .error e => .error e
        | .ok s => (right.scan record op s).map ChainState.holds
    else leafMatches record op left (some right)
/-- Adds the terms of an operand to a chain. -/
def Operand.scan (record : Fields) (joiner : Operator) (s : ChainState) :
    Operand → Except MatchFault ChainState
  | .filter f => f.scan record joiner s
  | .group f => s.add joiner fun _ => f.matches record
  | _ => s.add joiner fun _ => .error .conditionsRequired
/-- Adds the terms of a filter to a chain: its own terms where it joins, else itself. -/
def Filter.scan (record : Fields) (joiner : Operator) (s : ChainState) :
    Filter → Except MatchFault ChainState
  | .unary op left =>
    if op.joins then .error (.secondOperandRequired op)
    else s.add joiner fun _ => leafMatches record op left none
  | .binary op left right =>
    if op.joins then
      match left.scan record joiner s with
      | .error e => .error e
      | .ok s => right.scan record op s
    else s.add joiner fun _ => leafMatches record op left (some right)
end

end VectorStore
