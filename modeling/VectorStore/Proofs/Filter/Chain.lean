import VectorStore.Filter.Matching

/-!
Conditions as the condition language reads them, beside the filters that they are written from. A
condition is a chain of terms with `AND` or `OR` between them, a term is a comparison or a
condition in parentheses, and `AND` binds tighter than `OR`: the chain falls into its longest
`AND`-joined runs, and holds where all terms of some run hold. Deciding a filter on a record gives
the value of its condition (`matches_eq_holds_of_condition`); what carries it is that the scan of
a filter adds the terms of one chain to the chain decided so far (`Filter.describes`).
-/
namespace VectorStore
namespace Condition

/-- A comparison of a field path with a value that has a literal. -/
structure WrittenComparison where
  comparison : Comparison
  literal : String
  path : isFieldPath comparison.key = true
  compares : comparison.op.compares = true
  written : comparison.value.literal = .ok literal

mutual
/-- A term of a condition. -/
inductive Term
  | comparison (c : WrittenComparison)
  | group (inner : Chain)
/-- The terms of a condition in order, each but the last with the joiner that follows it. -/
inductive Chain
  | last (t : Term)
  | and (t : Term) (rest : Chain)
  | or (t : Term) (rest : Chain)
end

mutual
def Term.text : Term → String
  | .comparison c =>
    c.comparison.key ++ " " ++ c.comparison.op.symbol ++ " " ++ c.literal
  | .group inner => "(" ++ inner.text ++ ")"
def Chain.text : Chain → String
  | .last t => t.text
  | .and t rest => t.text ++ " AND " ++ rest.text
  | .or t rest => t.text ++ " OR " ++ rest.text
end

mutual
/-- The values that fields are compared with, in order. -/
def Term.values : Term → List FilterValue
  | .comparison c => [c.comparison.value]
  | .group inner => inner.values
def Chain.values : Chain → List FilterValue
  | .last t => t.values
  | .and t rest | .or t rest => t.values ++ rest.values
end

/-- Puts a term's value in front of the first run. -/
def extendFirst (b : Bool) : List (List Bool) → List (List Bool)
  | [] => [[b]]
  | run :: others => (b :: run) :: others
/-- A disjunction of conjunctions. -/
def anyRun (runs : List (List Bool)) : Bool := runs.any fun run => run.all id

mutual
/-- The value of a term at a record. -/
def Term.holds (record : Fields) : Term → Bool
  | .comparison c => c.comparison.holds record
  | .group inner => anyRun (inner.runs record)
/-- The values of a chain's terms at a record, one list for each longest `AND`-joined run. -/
def Chain.runs (record : Fields) : Chain → List (List Bool)
  | .last t => [[t.holds record]]
  | .and t rest => extendFirst (t.holds record) (rest.runs record)
  | .or t rest => [t.holds record] :: rest.runs record
end

/-- The value of a condition at a record. -/
def Chain.holds (c : Chain) (record : Fields) : Bool := anyRun (c.runs record)

/-- Two chains with a joiner between them and no parentheses around either. -/
def Chain.join (joiner : Operator) : Chain → Chain → Chain
  | .last t, right => if joiner = .and then .and t right else .or t right
  | .and t rest, right => .and t (rest.join joiner right)
  | .or t rest, right => .or t (rest.join joiner right)

theorem anyRun_extendFirst_extendFirst (a b : Bool) (runs : List (List Bool)) :
    anyRun (extendFirst a (extendFirst b runs)) = anyRun (extendFirst (a && b) runs) := by
  cases runs <;> simp [extendFirst, anyRun, Bool.and_assoc]

theorem anyRun_extendFirst_cons (a b : Bool) (runs : List (List Bool)) :
    anyRun (extendFirst a ([b] :: runs)) = ((a && b) || anyRun runs) := by
  simp [extendFirst, anyRun]

theorem Chain.text_join {joiner : Operator} (joins : joiner.joins = true) (right : Chain) :
    (left : Chain) →
      (left.join joiner right).text = left.text ++ " " ++ joiner.symbol ++ " " ++ right.text
  | .last t => by
    cases joiner <;>
      simp_all [Chain.join, Chain.text, Operator.joins, Operator.symbol, String.append_assoc]
  | .and t rest => by
    rw [Chain.join, Chain.text, Chain.text_join joins right rest, Chain.text]
    simp only [String.append_assoc]
  | .or t rest => by
    rw [Chain.join, Chain.text, Chain.text_join joins right rest, Chain.text]
    simp only [String.append_assoc]

theorem Chain.values_join (joiner : Operator) (right : Chain) :
    (left : Chain) → (left.join joiner right).values = left.values ++ right.values
  | .last t => by
    rw [Chain.join]
    split <;> rfl
  | .and t rest | .or t rest => by
    rw [Chain.join, Chain.values, Chain.values_join joiner right rest, Chain.values,
      List.append_assoc]

end Condition

open Condition

namespace ChainState

/-- The state after a term with a value, behind a joiner. -/
def put (s : ChainState) (joiner : Operator) (b : Bool) : ChainState :=
  if joiner = .and then ⟨s.earlier, s.current && b⟩ else ⟨s.holds, b⟩
/-- The state after the terms of a chain, the first of them behind a joiner. -/
def after (record : Fields) (s : ChainState) (joiner : Operator) : Chain → ChainState
  | .last t => s.put joiner (t.holds record)
  | .and t rest => (s.put joiner (t.holds record)).after record .and rest
  | .or t rest => (s.put joiner (t.holds record)).after record .or rest

/-- Skipping a term of a failed run leaves the state that deciding it would. -/
theorem add_ok (s : ChainState) (joiner : Operator) (b : Bool) :
    (s.add joiner fun _ => .ok b) = .ok (s.put joiner b) := by
  obtain ⟨earlier, current⟩ := s
  cases current <;> by_cases conjunctive : joiner = .and <;>
    simp [add, put, conjunctive, Except.map]

theorem after_join (record : Fields) {op : Operator} (joins : op.joins = true) (right : Chain) :
    (s : ChainState) → (joiner : Operator) → (left : Chain) →
      s.after record joiner (left.join op right) =
        (s.after record joiner left).after record op right
  | s, joiner, .last t => by
    cases op <;> simp_all [Chain.join, after, Operator.joins]
  | s, joiner, .and t rest => by
    simp only [Chain.join, after]
    exact after_join record joins right _ _ rest
  | s, joiner, .or t rest => by
    simp only [Chain.join, after]
    exact after_join record joins right _ _ rest

/-- Behind `AND` the first run of a chain goes on with the run at hand, behind `OR` it begins
another; the later runs stand on their own. -/
theorem holds_after (record : Fields) : (c : Chain) → (s : ChainState) →
    (s.after record .and c).holds =
        (s.earlier || anyRun (extendFirst s.current (c.runs record))) ∧
      (s.after record .or c).holds = (s.holds || c.holds record)
  | .last t, s => by
    simp [after, put, holds, Chain.holds, Chain.runs, anyRun, extendFirst]
  | .and t rest, s => by
    have conjunctive := (holds_after record rest (s.put .and (t.holds record))).1
    have disjunctive := (holds_after record rest (s.put .or (t.holds record))).1
    simp only [after, Chain.holds, Chain.runs, conjunctive, disjunctive]
    simp [put, anyRun_extendFirst_extendFirst]
  | .or t rest, s => by
    have conjunctive := (holds_after record rest (s.put .and (t.holds record))).2
    have disjunctive := (holds_after record rest (s.put .or (t.holds record))).2
    simp only [after, Chain.holds, Chain.runs, conjunctive, disjunctive, anyRun_extendFirst_cons]
    simp [put, holds, anyRun, Bool.or_assoc]

/-- A chain on its own. -/
theorem holds_after_start (record : Fields) (c : Chain) :
    (start.after record .or c).holds = c.holds record := by
  rw [(holds_after record c start).2]
  rfl

end ChainState

/-! ## Filters and their conditions -/

mutual
/-- The values in a filter, in order. -/
def Filter.values : Filter → List FilterValue
  | .unary _ left => left.values
  | .binary _ left right => left.values ++ right.values
def Operand.values : Operand → List FilterValue
  | .key _ => []
  | .value v => [v]
  | .filter f | .group f => f.values
end

/-- The values of a node that does not join. -/
def leafValues (left : Operand) (right? : Option Operand) : List FilterValue :=
  left.values ++ right?.elim [] Operand.values

namespace Comparison

theorem ofOperands_eq_ok {op : Operator} {left : Operand} {right? : Option Operand}
    {c : Comparison} (read : ofOperands op left right? = .ok c) :
    c.op = op ∧ isFieldPath c.key = true ∧ leafValues left right? = [c.value] := by
  unfold ofOperands at read
  split at read
  next key =>
    split at read
    next path =>
      split at read
      · cases read
        exact ⟨rfl, path, rfl⟩
      · cases read
      · cases read
    · cases read
  · cases read

/-- A node that does not join stands for a comparison of a field path. -/
theorem ofNode_eq_ok {op : Operator} {left : Operand} {right? : Option Operand} {c : Comparison}
    (leaf : op.joins = false) (read : ofNode op left right? = .ok c) :
    c.op.compares = true ∧ isFieldPath c.key = true ∧ leafValues left right? = [c.value] := by
  unfold ofNode at read
  split at read
  next =>
    unfold ofNegated at read
    split at read
    · cases read
    · split at read
      next child =>
        split at read
        next opposite negated =>
          obtain ⟨same, path, values⟩ := ofOperands_eq_ok read
          refine ⟨?_, path, ?_⟩
          · rw [same]
            revert negated
            cases child.op <;> simp [Operator.negation?] <;> rintro rfl <;> rfl
          · rw [← values]
            cases child <;>
              simp [leafValues, Operand.values, Filter.values, Filter.left, Filter.right?]
        · cases read
      · cases read
      · cases read
  next comparing =>
    obtain ⟨same, path, values⟩ := ofOperands_eq_ok read
    refine ⟨?_, path, values⟩
    rw [same]
    cases op <;> simp_all [Operator.joins, Operator.compares]

end Comparison

/-- What the condition of a leaf says is what deciding the leaf answers. -/
theorem exists_written_of_leafCondition {op : Operator} {left : Operand} {right? : Option Operand}
    {text : String} (leaf : op.joins = false) (written : leafCondition op left right? = .ok text) :
    ∃ w : WrittenComparison, (Term.comparison w).text = text ∧
      leafValues left right? = [w.comparison.value] ∧
      ∀ record, leafMatches record op left right? = .ok (w.comparison.holds record) := by
  unfold leafCondition at written
  split at written
  next c read =>
    unfold Comparison.condition at written
    split at written
    next literal valueWritten =>
      obtain ⟨compares, path, values⟩ := Comparison.ofNode_eq_ok leaf read
      refine ⟨⟨c, literal, path, compares, valueWritten⟩, ?_, values, fun record => ?_⟩
      · cases written
        rfl
      · simp only [leafMatches, read]
    · cases written
  · cases written

/-- A filter and a chain that says the same: it has the values of the chain and no joiner without a
right side, it adds the terms of the chain to a chain decided so far, and it matches where the
chain holds. -/
structure Filter.Describes (f : Filter) (c : Chain) : Prop where
  values : f.values = c.values
  complete : f.gap? = none
  scan : ∀ record joiner s, f.scan record joiner s = .ok (s.after record joiner c)
  holds : ∀ record, f.matches record = .ok (c.holds record)

/-- An operand of a joiner and a chain that says the same. -/
structure Operand.Describes (operand : Operand) (c : Chain) : Prop where
  values : operand.values = c.values
  complete : operand.gap? = none
  scan : ∀ record joiner s, operand.scan record joiner s = .ok (s.after record joiner c)

/-- A leaf and the chain of its comparison alone. -/
theorem describes_leaf {f : Filter} {op : Operator} {left : Operand} {right? : Option Operand}
    {w : WrittenComparison} (values : f.values = [w.comparison.value]) (complete : f.gap? = none)
    (scan : ∀ record joiner s, f.scan record joiner s =
      s.add joiner fun _ => leafMatches record op left right?)
    (decided : ∀ record, f.matches record = leafMatches record op left right?)
    (agrees : ∀ record, leafMatches record op left right? = .ok (w.comparison.holds record)) :
    f.Describes (.last (.comparison w)) where
  values := values
  complete := complete
  scan record joiner s := by
    rw [scan, agrees, ChainState.add_ok]
    rfl
  holds record := by
    rw [decided, agrees]
    simp [Chain.holds, Chain.runs, anyRun, Term.holds]

/-- A joiner and the joined chains of its operands. -/
theorem describes_join {op : Operator} {left right : Operand} {l r : Chain}
    (joins : op.joins = true) (leftDescribes : left.Describes l)
    (rightDescribes : right.Describes r) :
    (Filter.binary op left right).Describes (l.join op r) where
  values := by
    rw [Filter.values, leftDescribes.values, rightDescribes.values, Chain.values_join]
  complete := by
    simp [Filter.gap?, joins, leftDescribes.complete, rightDescribes.complete]
  scan record joiner s := by
    simp only [Filter.scan, joins, if_true, leftDescribes.scan, rightDescribes.scan,
      ChainState.after_join record joins]
  holds record := by
    simp only [Filter.matches, joins, if_true, leftDescribes.complete, rightDescribes.complete,
      Option.or_none, leftDescribes.scan, rightDescribes.scan, Except.map]
    rw [← ChainState.after_join record joins, ChainState.holds_after_start]

/-- A group and the single term that it is. -/
theorem describes_group {f : Filter} {c : Chain} (describes : f.Describes c) :
    (Operand.group f).Describes (.last (.group c)) where
  values := describes.values
  complete := rfl
  scan record joiner s := by
    simp only [Operand.scan, describes.holds, ChainState.add_ok, ChainState.after, Term.holds,
      Chain.holds]

mutual
/-- Every filter with a condition says what a chain with that text says. -/
theorem Filter.describes : (f : Filter) → {text : String} → f.condition = .ok text →
    ∃ c : Chain, c.text = text ∧ f.Describes c
  | .unary op left, text, written => by
    cases joins : op.joins with
    | true => simp [Filter.condition, joins] at written
    | false =>
      simp only [Filter.condition, joins, Bool.false_eq_true, if_false] at written
      obtain ⟨w, spelled, values, agrees⟩ := exists_written_of_leafCondition joins written
      rw [leafValues, Option.elim_none, List.append_nil] at values
      exact ⟨.last (.comparison w), spelled, describes_leaf values (by simp [Filter.gap?, joins])
        (by simp [Filter.scan, joins]) (by simp [Filter.matches, joins]) agrees⟩
  | .binary op left right, text, written => by
    cases joins : op.joins with
    | true =>
      simp only [Filter.condition, joins, if_true] at written
      split at written
      · cases written
      next l leftWritten =>
        split at written
        · cases written
        next r rightWritten =>
          obtain ⟨lc, leftSpelled, leftDescribes⟩ := Operand.describes left leftWritten
          obtain ⟨rc, rightSpelled, rightDescribes⟩ := Operand.describes right rightWritten
          refine ⟨lc.join op rc, ?_, describes_join joins leftDescribes rightDescribes⟩
          cases written
          rw [Chain.text_join joins, leftSpelled, rightSpelled]
    | false =>
      simp only [Filter.condition, joins, Bool.false_eq_true, if_false] at written
      obtain ⟨w, spelled, values, agrees⟩ := exists_written_of_leafCondition joins written
      exact ⟨.last (.comparison w), spelled, describes_leaf values (by simp [Filter.gap?, joins])
        (by simp [Filter.scan, joins]) (by simp [Filter.matches, joins]) agrees⟩
/-- The operands of joiners likewise; a group becomes a term in parentheses. -/
theorem Operand.describes : (operand : Operand) → {joiner : Operator} → {text : String} →
    operand.condition joiner = .ok text → ∃ c : Chain, c.text = text ∧ operand.Describes c
  | .filter f, joiner, text, written => by
    obtain ⟨c, spelled, describes⟩ := Filter.describes f written
    exact ⟨c, spelled, describes.values, describes.complete, describes.scan⟩
  | .group f, joiner, text, written => by
    simp only [Operand.condition] at written
    split at written
    next inner innerWritten =>
      obtain ⟨c, spelled, describes⟩ := Filter.describes f innerWritten
      refine ⟨.last (.group c), ?_, describes_group describes⟩
      cases written
      rw [Chain.text, Term.text, spelled]
    · cases written
  | .key _, joiner, text, written => by cases written
  | .value _, joiner, text, written => by cases written
end

/-- A filter that has a condition can be decided on every record, and its answer is the value of
the condition there: the text is that of a chain, and the filter matches where the chain holds. -/
theorem matches_eq_holds_of_condition {f : Filter} {text : String}
    (written : f.condition = .ok text) :
    ∃ c : Chain, c.text = text ∧ ∀ record, f.matches record = .ok (c.holds record) := by
  obtain ⟨c, spelled, describes⟩ := f.describes written
  exact ⟨c, spelled, describes.holds⟩
/-- A tree that joins `AND` over an ungrouped `OR` reads as its text, with the `AND` first. -/
theorem ungrouped_or_under_and_reads_condition :
    let f := Filter.conjunction
      (.disjunction (.comparison .eq "a" (.int 1)) (.comparison .lt "b.c" (.int 2)))
      (.negation (.comparison .isIn "d" (.list [.text "it's", .bool true])))
    let text := "a = 1 OR b.c < 2 AND d NOT IN ['it\\'s',true]"
    f.condition = .ok text ∧
      ∃ c : Chain, c.text = text ∧ ∀ record, f.matches record = .ok (c.holds record) :=
  ⟨rfl, matches_eq_holds_of_condition rfl⟩

end VectorStore
