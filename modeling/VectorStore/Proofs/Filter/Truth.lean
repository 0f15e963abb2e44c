import VectorStore.Proofs.Filter.Chain
import VectorStore.Proofs.Filter.Reading

/-!
The value of a filter as a tree: conjunctions, disjunctions and complements of comparisons.
Deciding a filter reads its joiners as one chain instead, which on a tree put together by hand may
give another value. On a tree read from a text it gives the value of the tree
(`matches_eq_truth_of_read`), because no disjunction stands without parentheses under an `AND`.
-/
namespace VectorStore

/-! ## Values of trees -/

mutual
/-- The value of a filter at a record as a tree, if every node has its operands. -/
def Filter.truth? (record : Fields) : Filter → Option Bool
  | .unary .not inner => (inner.truth? record).map not
  | .binary .and left right =>
    match left.truth? record, right.truth? record with
    | some a, some b => some (a && b)
    | _, _ => none
  | .binary .or left right =>
    match left.truth? record, right.truth? record with
    | some a, some b => some (a || b)
    | _, _ => none
  | .binary op (.key key) (.value value) =>
    if op.compares then some (comparisonHolds op (lookupPath record key) value) else none
  | _ => none
/-- Parentheses do not matter. -/
def Operand.truth? (record : Fields) : Operand → Option Bool
  | .filter f => f.truth? record
  | .group f => f.truth? record
  | _ => none
end

@[simp] theorem Clause.operand_ungrouped (f : Filter) : Clause.operand ⟨false, f⟩ = .filter f := rfl
@[simp] theorem Clause.operand_grouped (f : Filter) : Clause.operand ⟨true, f⟩ = .group f := rfl

theorem Clause.truth?_operand (record : Fields) (c : Clause) :
    c.operand.truth? record = c.filter.truth? record := by
  obtain ⟨grouped, f⟩ := c
  cases grouped <;> rfl

theorem Filter.truth?_comparison (record : Fields) {op : Operator} (compares : op.compares = true)
    (key : String) (value : FilterValue) :
    (comparison op key value).truth? record =
      some (comparisonHolds op (lookupPath record key) value) := by
  cases op <;> cases compares <;> rfl

/-- The operator that writes a negation holds where the negated one fails. -/
theorem comparisonHolds_negation {op opposite : Operator} (negated : op.negation? = some opposite)
    (field : Option Json) (value : FilterValue) :
    comparisonHolds opposite field value = !comparisonHolds op field value := by
  cases op <;> cases negated <;> simp [comparisonHolds, bne]

/-! ## Filters with conditions -/

/-- Whether a filter can be written as a condition. -/
def Filter.Written (f : Filter) : Prop := ∃ text, f.condition = .ok text

theorem Clause.written_of_operand {c : Clause} {joiner : Operator} {text : String}
    (written : c.operand.condition joiner = .ok text) : c.filter.Written := by
  obtain ⟨grouped, f⟩ := c
  cases grouped with
  | false => exact ⟨text, written⟩
  | true =>
    simp only [operand, if_true, Operand.condition] at written
    split at written
    next inner innerWritten => exact ⟨inner, innerWritten⟩
    next => cases written

/-- Both sides of a written joiner are written. -/
theorem Filter.written_of_binary {op : Operator} {l r : Clause} (joins : op.joins = true)
    (written : (Filter.binary op l.operand r.operand).Written) :
    l.filter.Written ∧ r.filter.Written := by
  obtain ⟨text, written⟩ := written
  simp only [Filter.condition, joins, if_true] at written
  split at written
  next => cases written
  next left leftWritten =>
    split at written
    next => cases written
    next right rightWritten =>
      exact ⟨Clause.written_of_operand leftWritten, Clause.written_of_operand rightWritten⟩

theorem Comparison.ofOperands_written {op : Operator} {left : Operand} {right? : Option Operand}
    {c : Comparison} (read : ofOperands op left right? = .ok c) :
    left = .key c.key ∧ c.op = op ∧ right? = some (.value c.value) := by
  unfold ofOperands at read
  split at read
  next key =>
    split at read
    next =>
      split at read
      next => cases read; exact ⟨rfl, rfl, rfl⟩
      next => cases read
      next => cases read
    next => cases read
  next => cases read

theorem Comparison.ofNode_of_leafCondition {op : Operator} {left : Operand}
    {right? : Option Operand} {text : String} (written : leafCondition op left right? = .ok text) :
    ∃ c, ofNode op left right? = .ok c := by
  unfold leafCondition at written
  split at written
  next c read => exact ⟨c, read⟩
  next => cases written

/-! ## Deciding and values -/

/-- A filter that is decided to be what it is as a tree. -/
structure Filter.Decided (record : Fields) (f : Filter) (b : Bool) : Prop where
  truth : f.truth? record = some b
  decided : f.matches record = .ok b

/-- A part of a filter that adds its value to a chain as one term. -/
structure Clause.Term (record : Fields) (c : Clause) (b : Bool) : Prop where
  filter : c.filter.Decided record b
  complete : c.operand.gap? = none
  scan : ∀ joiner s, c.operand.scan record joiner s = .ok (s.put joiner b)

/-- A part of a filter that adds its value to a chain as alternatives of their own. -/
structure Clause.Alternatives (record : Fields) (c : Clause) (b : Bool) : Prop where
  filter : c.filter.Decided record b
  complete : c.operand.gap? = none
  scan : ∀ s, ∃ s', c.operand.scan record .or s = .ok s' ∧ s'.holds = (s.holds || b)

theorem ChainState.put_put_and (s : ChainState) (joiner : Operator) (a b : Bool) :
    (s.put joiner a).put .and b = s.put joiner (a && b) := by
  by_cases conjunctive : joiner = .and <;> simp [put, conjunctive, Bool.and_assoc]

theorem ChainState.holds_put_or (s : ChainState) (b : Bool) :
    (s.put .or b).holds = (s.holds || b) := rfl

@[simp] theorem ChainState.holds_start : start.holds = false := rfl

section
variable {record : Fields}

theorem Clause.Term.alternatives {c : Clause} {b : Bool} (term : c.Term record b) :
    c.Alternatives record b where
  filter := term.filter
  complete := term.complete
  scan s := ⟨_, term.scan .or s, s.holds_put_or b⟩

/-- A comparison without parentheses, negated or not. -/
theorem Clause.term_of_leaf {f : Filter} {op : Operator} {left : Operand}
    {right? : Option Operand} {b : Bool} (complete : f.gap? = none)
    (scan : ∀ joiner s, f.scan record joiner s =
      s.add joiner fun _ => leafMatches record op left right?)
    (decided : f.matches record = leafMatches record op left right?)
    (truth : f.truth? record = some b) (agrees : leafMatches record op left right? = .ok b) :
    Clause.Term record ⟨false, f⟩ b where
  filter := ⟨truth, decided.trans agrees⟩
  complete := complete
  scan joiner s := by
    rw [← s.add_ok, ← agrees]
    exact scan joiner s

theorem Clause.term_of_comparison {op : Operator} (compares : op.compares = true) {key : String}
    {value : FilterValue} (written : (Filter.comparison op key value).Written) :
    ∃ b, Clause.Term record ⟨false, .comparison op key value⟩ b := by
  have leaf : op.joins = false := by cases op <;> cases compares <;> rfl
  have positive : op ≠ .not := by rintro rfl; cases compares
  obtain ⟨text, written⟩ := written
  simp only [Filter.comparison, Filter.condition, leaf, Bool.false_eq_true, if_false] at written
  obtain ⟨c, read⟩ := Comparison.ofNode_of_leafCondition written
  have operands := read
  simp only [Comparison.ofNode, positive, if_false] at operands
  obtain ⟨isKey, sameOp, isValue⟩ := Comparison.ofOperands_written operands
  cases isKey
  cases isValue
  cases sameOp
  have truth := Filter.truth?_comparison record compares c.key c.value
  have agrees : leafMatches record c.op (.key c.key) (some (.value c.value)) =
      .ok (c.holds record) := by
    simp only [leafMatches, read]
  refine ⟨c.holds record, term_of_leaf ?_ ?_ ?_ truth agrees⟩
  · simp [Filter.comparison, Filter.gap?, leaf]
  · simp [Filter.comparison, Filter.scan, leaf]
  · simp [Filter.comparison, Filter.matches, leaf]

/-- Only a comparison with an opposite can be negated, and the opposite is its complement. -/
theorem Clause.term_of_negation {f : Filter} (written : f.negation.Written) :
    ∃ b, Clause.Term record ⟨false, f.negation⟩ b := by
  obtain ⟨text, written⟩ := written
  obtain ⟨c, read⟩ := Comparison.ofNode_of_leafCondition written
  have opposite := read
  simp only [Comparison.ofNode, if_true, Comparison.ofNegated] at opposite
  split at opposite
  next op negated =>
    obtain ⟨isKey, sameOp, isValue⟩ := Comparison.ofOperands_written opposite
    have truth : f.negation.truth? record = some (c.holds record) := by
      have compares : f.op.compares = true := by
        revert negated
        cases f.op <;> simp [Operator.negation?, Operator.compares]
      have comparison : f = .comparison f.op c.key c.value := by
        cases f with
        | unary => cases isValue
        | binary =>
          cases isKey
          cases isValue
          rfl
      have child := Filter.truth?_comparison record compares c.key c.value
      rw [← comparison] at child
      simp only [Filter.negation, Filter.truth?, Operand.truth?, child, Option.map_some,
        Comparison.holds, sameOp, comparisonHolds_negation negated]
    exact ⟨_, term_of_leaf rfl (fun _ _ => rfl) rfl truth (by simp only [leafMatches, read])⟩
  next => cases opposite

/-- A term after a conjunction goes on with its run. -/
theorem Clause.Term.and {l r : Clause} {a b : Bool} (left : l.Term record a)
    (right : r.Term record b) :
    Clause.Term record ⟨false, .binary .and l.operand r.operand⟩ (a && b) where
  filter := {
    truth := by
      simp only [Filter.truth?, Clause.truth?_operand, left.filter.truth, right.filter.truth]
    decided := by
      simp [Filter.matches, Operator.joins, left.complete, right.complete, left.scan, right.scan,
        Except.map, ChainState.put_put_and, ChainState.holds_put_or] }
  complete := by
    simp [Operand.gap?, Filter.gap?, Operator.joins, left.complete, right.complete]
  scan joiner s := by
    simp [Operand.scan, Filter.scan, Operator.joins, left.scan, right.scan,
      ChainState.put_put_and]

/-- A term after a disjunction begins another run. -/
theorem Clause.Alternatives.or {l r : Clause} {a b : Bool} (left : l.Alternatives record a)
    (right : r.Term record b) :
    Clause.Alternatives record ⟨false, .binary .or l.operand r.operand⟩ (a || b) where
  filter := {
    truth := by
      simp only [Filter.truth?, Clause.truth?_operand, left.filter.truth, right.filter.truth]
    decided := by
      obtain ⟨s, scan, holds⟩ := left.scan .start
      simp [Filter.matches, Operator.joins, left.complete, right.complete, scan, right.scan,
        Except.map, ChainState.holds_put_or, holds] }
  complete := by
    simp [Operand.gap?, Filter.gap?, Operator.joins, left.complete, right.complete]
  scan s := by
    obtain ⟨s', scan, holds⟩ := left.scan s
    refine ⟨s'.put .or b, ?_, ?_⟩
    · simp [Operand.scan, Filter.scan, Operator.joins, scan, right.scan]
    · rw [ChainState.holds_put_or, holds, Bool.or_assoc]

/-- Parentheses make one term of anything. -/
theorem Clause.term_of_group {f : Filter} {b : Bool} (filter : f.Decided record b) :
    Clause.Term record ⟨true, f⟩ b where
  filter := filter
  complete := rfl
  scan joiner s := by
    simp only [operand_grouped, Operand.scan, filter.decided, ChainState.add_ok]

/-! ## Filters of texts -/

namespace Grammar

mutual
theorem Disjunction.alternatives {room : Nat} {ls : List Lexeme} {c : Clause}
    {cs : List Comparison} : Disjunction room ls c cs → c.filter.Written →
      ∃ b, c.Alternatives record b
  | .one conjunction, written => by
    obtain ⟨b, term⟩ := conjunction.term written
    exact ⟨b, term.alternatives⟩
  | .or left right, written => by
    obtain ⟨leftWritten, rightWritten⟩ := Filter.written_of_binary rfl written
    obtain ⟨a, alternatives⟩ := left.alternatives leftWritten
    obtain ⟨b, term⟩ := right.term rightWritten
    exact ⟨a || b, alternatives.or term⟩
theorem Conjunction.term {room : Nat} {ls : List Lexeme} {c : Clause}
    {cs : List Comparison} : Conjunction room ls c cs → c.filter.Written → ∃ b, c.Term record b
  | .one unary, written => unary.term written
  | .and left right, written => by
    obtain ⟨leftWritten, rightWritten⟩ := Filter.written_of_binary rfl written
    obtain ⟨a, earlier⟩ := left.term leftWritten
    obtain ⟨b, term⟩ := right.term rightWritten
    exact ⟨a && b, earlier.and term⟩
theorem Unary.term {room : Nat} {ls : List Lexeme} {c : Clause}
    {cs : List Comparison} : Unary room ls c cs → c.filter.Written → ∃ b, c.Term record b
  | .primary primary, written => primary.term written
  | .not _, written => Clause.term_of_negation written
theorem Primary.term {room : Nat} {ls : List Lexeme} {c : Clause}
    {cs : List Comparison} : Primary room ls c cs → c.filter.Written → ∃ b, c.Term record b
  | .group inner, written => by
    obtain ⟨b, alternatives⟩ := inner.alternatives written
    exact ⟨b, Clause.term_of_group alternatives.filter⟩
  | .comparison _ comparator _, written =>
    Clause.term_of_comparison (by simp_all [Operator.comparator]) written
  | .membership _ membership _, written =>
    Clause.term_of_comparison (by cases membership <;> rfl) written
end

end Grammar
end

/-- A filter that is read from a text and has a condition is decided on every record, and to what
it is as a tree. -/
theorem matches_eq_truth_of_read {text condition : String} {f : Filter}
    (read : Filter.read text = .ok f) (written : f.condition = .ok condition) (record : Fields) :
    ∃ b, f.truth? record = some b ∧ f.matches record = .ok b := by
  obtain ⟨tokens, tokenized⟩ := Filter.tokenized_of_read read
  obtain ⟨c, disjunction, same⟩ := (Filter.read_iff tokenized f).mp read
  cases same
  obtain ⟨b, alternatives⟩ : ∃ b, c.Alternatives record b :=
    disjunction.alternatives ⟨condition, written⟩
  exact ⟨b, alternatives.filter.truth, alternatives.filter.decided⟩

/-- The negation is decided as the opposite comparison, and the group before the run around it. -/
theorem truth_of_negation_before_group :
    ∃ f condition, Filter.read "not a == 1 and (b in [2] or c < 3)" = .ok f ∧
      f.condition = .ok condition ∧
      ∀ record, ∃ b, f.truth? record = some b ∧ f.matches record = .ok b := by
  have tokenized : Token.ofText "not a == 1 and (b in [2] or c < 3)" = .ok
      [⟨.not, 0⟩, ⟨.word "a", 4⟩, ⟨.comparison .eq, 6⟩, ⟨.number "1", 9⟩, ⟨.and, 11⟩,
        ⟨.openParen, 15⟩, ⟨.word "b", 16⟩, ⟨.word "in", 18⟩, ⟨.openBracket, 21⟩,
        ⟨.number "2", 22⟩, ⟨.closeBracket, 23⟩, ⟨.or, 25⟩, ⟨.word "c", 28⟩,
        ⟨.comparison .lt, 30⟩, ⟨.number "3", 32⟩, ⟨.closeParen, 33⟩] := by
    cbv
  have read : Filter.read "not a == 1 and (b in [2] or c < 3)" = .ok (.binary .and
      (.filter (.negation (.comparison .eq "a" (.int 1))))
      (.group (.binary .or (.filter (.comparison .isIn "b" (.list [.int 2])))
        (.filter (.comparison .lt "c" (.int 3)))))) := by
    unfold Filter.read
    rw [tokenized]
    rfl
  exact ⟨_, "a != 1 AND (b IN [2] OR c < 3)", read, rfl, matches_eq_truth_of_read read rfl⟩

end VectorStore
