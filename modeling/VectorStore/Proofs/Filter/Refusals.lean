import VectorStore.Proofs.Filter.Reading

/-!
Filters that are read from a text and have no condition. Only two things stand in the way: a key
that is no field path, and a negation of something without an opposite. The fault is that of the
first such node in the text, where a negation stands before what it negates
(`condition_eq_error_iff_first_offence`); all other faults are those of trees put together by hand.
-/
namespace VectorStore

/-! ## Nodes in the order of the text -/

mutual
/-- The comparisons and negations in a filter, from the left; a negation comes before what it
negates. -/
def Filter.nodes : Filter → List Filter
  | .unary op operand => .unary op operand :: operand.nodes
  | .binary op left right =>
    if op.joins then left.nodes ++ right.nodes else [.binary op left right]
def Operand.nodes : Operand → List Filter
  | .filter f => f.nodes
  | .group f => f.nodes
  | _ => []
end

/-- A node of a filter that begins with a lexeme. -/
inductive Filter.BeginsWith : Filter → Lexeme → Prop
  | negation (child : Filter) : BeginsWith child.negation .not
  | comparison {lexeme : Lexeme} {key : String} (isKey : Grammar.Key lexeme key) (op : Operator)
      (value : FilterValue) : BeginsWith (.comparison op key value) lexeme

/-- The tokens at which an operand stands, except parentheses. An operand is expected at first, and
after a joiner, an opening parenthesis or a negation. -/
def Token.operands (expected : Bool) : List Token → List Token
  | [] => []
  | t :: rest =>
    if expected then
      match t.lexeme with
      | .not => t :: operands true rest
      | .openParen => operands true rest
      | _ => t :: operands false rest
    else
      match t.lexeme with
      | .and | .or => operands true rest
      | _ => operands false rest

theorem Clause.nodes_operand (c : Clause) : c.operand.nodes = c.filter.nodes := by
  obtain ⟨grouped, f⟩ := c
  cases grouped <;> rfl

theorem Filter.nodes_binary {op : Operator} (joins : op.joins = true) (l r : Clause) :
    (Filter.binary op l.operand r.operand).nodes = l.filter.nodes ++ r.filter.nodes := by
  simp only [Filter.nodes, joins, if_true, Clause.nodes_operand]

theorem Filter.nodes_comparison {op : Operator} (compares : op.compares = true) (key : String)
    (value : FilterValue) : (comparison op key value).nodes = [comparison op key value] := by
  cases op <;> cases compares <;> rfl

theorem Filter.nodes_negation (f : Filter) : f.negation.nodes = f.negation :: f.nodes := rfl

/-- Tokens of an operand whose operands, in their order, begin the nodes of a filter. -/
def Filter.BeginAt (tokens : List Token) (nodes : List Filter) : Prop :=
  ∃ heads, List.Forall₂ (fun t f => f.BeginsWith t.lexeme) heads nodes ∧
    ∀ rest, Token.operands true (tokens ++ rest) = heads ++ Token.operands false rest

namespace Token

theorem operands_joiner {t : Token} (joiner : t.lexeme = .and ∨ t.lexeme = .or)
    (rest : List Token) : operands false (t :: rest) = operands true rest := by
  rcases joiner with same | same <;> simp [operands, same]

theorem operands_of_not_joiner {t : Token} (ne_and : t.lexeme ≠ .and) (ne_or : t.lexeme ≠ .or)
    (rest : List Token) : operands false (t :: rest) = operands false rest := by
  rw [operands, if_neg Bool.false_ne_true]
  split
  next same => exact absurd same ne_and
  next same => exact absurd same ne_or
  next => rfl

/-- Between joiners no operand is expected after the first. -/
theorem operands_append_of_no_joiner {tokens : List Token}
    (none : ∀ t ∈ tokens, t.lexeme ≠ .and ∧ t.lexeme ≠ .or) (rest : List Token) :
    operands false (tokens ++ rest) = operands false rest := by
  induction tokens with
  | nil => rfl
  | cons t tokens ih =>
    obtain ⟨⟨ne_and, ne_or⟩, later⟩ := List.forall_mem_cons.mp none
    rw [List.cons_append, operands_of_not_joiner ne_and ne_or, ih later]

end Token

namespace Filter.BeginAt

theorem join {ts us : List Token} {t : Token} {fs gs : List Filter} (left : BeginAt ts fs)
    (joiner : t.lexeme = .and ∨ t.lexeme = .or) (right : BeginAt us gs) :
    BeginAt (ts ++ t :: us) (fs ++ gs) := by
  obtain ⟨heads, begins, read⟩ := left
  obtain ⟨heads', begins', read'⟩ := right
  refine ⟨heads ++ heads', List.rel_append begins begins', fun rest => ?_⟩
  rw [List.append_assoc, read, List.cons_append, Token.operands_joiner joiner, read',
    List.append_assoc]

theorem negation {ts : List Token} {t : Token} {f : Filter} (isNot : t.lexeme = .not)
    (inner : BeginAt ts f.nodes) : BeginAt (t :: ts) f.negation.nodes := by
  obtain ⟨heads, begins, read⟩ := inner
  refine ⟨t :: heads, .cons (isNot ▸ .negation f) begins, fun rest => ?_⟩
  rw [List.cons_append, Token.operands, if_pos rfl, isNot]
  exact congrArg (t :: ·) (read rest)

theorem group {ts : List Token} {t u : Token} {fs : List Filter} (opens : t.lexeme = .openParen)
    (closes : u.lexeme = .closeParen) (inner : BeginAt ts fs) :
    BeginAt (t :: (ts ++ [u])) fs := by
  obtain ⟨heads, begins, read⟩ := inner
  refine ⟨heads, begins, fun rest => ?_⟩
  have closing : Token.operands false (u :: rest) = Token.operands false rest :=
    Token.operands_of_not_joiner (by simp [closes]) (by simp [closes]) rest
  rw [List.cons_append, Token.operands, if_pos rfl, opens, List.append_assoc]
  exact (read _).trans (congrArg (heads ++ ·) closing)

theorem comparison {ts : List Token} {t : Token} {op : Operator} {key : String} {v : FilterValue}
    (isKey : Grammar.Key t.lexeme key) (compares : op.compares = true)
    (none : ∀ t ∈ ts, t.lexeme ≠ .and ∧ t.lexeme ≠ .or) :
    BeginAt (t :: ts) (Filter.comparison op key v).nodes := by
  refine ⟨[t], ?_, fun rest => ?_⟩
  · rw [nodes_comparison compares]
    exact .cons (.comparison isKey op v) .nil
  · have begins : Token.operands true (t :: (ts ++ rest)) =
        t :: Token.operands false (ts ++ rest) := by
      obtain ⟨lexeme, offset⟩ := t
      cases isKey <;> rfl
    rw [List.cons_append, begins, Token.operands_append_of_no_joiner none]
    rfl

end Filter.BeginAt

namespace Grammar

mutual
theorem Value.no_joiner {room : Nat} {ls : List Lexeme} {v : FilterValue} :
    Value room ls v → ∀ lexeme ∈ ls, lexeme ≠ .and ∧ lexeme ≠ .or
  | .simple simple => by
    rw [List.forall_mem_singleton]
    cases simple <;> simp
  | .listing listing => listing.no_joiner
theorem Listing.no_joiner {room : Nat} {ls : List Lexeme} {items : List FilterValue} :
    Listing room ls items → ∀ lexeme ∈ ls, lexeme ≠ .and ∧ lexeme ≠ .or
  | .brackets inner => by
    refine List.forall_mem_cons.mpr ⟨by simp, List.forall_mem_append.mpr ⟨inner.no_joiner, ?_⟩⟩
    simp
theorem Items.no_joiner {room : Nat} {ls : List Lexeme} {items : List FilterValue} :
    Items room ls items → ∀ lexeme ∈ ls, lexeme ≠ .and ∧ lexeme ≠ .or
  | .one value => value.no_joiner
  | .more earlier value => List.forall_mem_append.mpr
    ⟨earlier.no_joiner, List.forall_mem_cons.mpr ⟨by simp, value.no_joiner⟩⟩
end

theorem Membership.no_joiner {ls : List Lexeme} {op : Operator} (membership : Membership ls op) :
    ∀ lexeme ∈ ls, lexeme ≠ .and ∧ lexeme ≠ .or := by
  cases membership <;> simp

theorem Membership.compares {ls : List Lexeme} {op : Operator} (membership : Membership ls op) :
    op.compares = true := by
  cases membership <;> rfl

mutual
/-- The nodes of a phrase begin at its tokens. -/
theorem Disjunction.beginAt {room : Nat} {ls : List Lexeme} {c : Clause} {cs : List Comparison}
    {tokens : List Token} (written : tokens.map (·.lexeme) = ls) :
    Disjunction room ls c cs → Filter.BeginAt tokens c.filter.nodes
  | .one conjunction => conjunction.beginAt written
  | .or left right => by
    obtain ⟨ts, later, rfl, before, after⟩ := List.map_eq_append_iff.mp written
    obtain ⟨t, us, rfl, joiner, behind⟩ := List.map_eq_cons_iff.mp after
    rw [Filter.nodes_binary rfl]
    exact (left.beginAt before).join (.inr joiner) (right.beginAt behind)
theorem Conjunction.beginAt {room : Nat} {ls : List Lexeme} {c : Clause} {cs : List Comparison}
    {tokens : List Token} (written : tokens.map (·.lexeme) = ls) :
    Conjunction room ls c cs → Filter.BeginAt tokens c.filter.nodes
  | .one unary => unary.beginAt written
  | .and left right => by
    obtain ⟨ts, later, rfl, before, after⟩ := List.map_eq_append_iff.mp written
    obtain ⟨t, us, rfl, joiner, behind⟩ := List.map_eq_cons_iff.mp after
    rw [Filter.nodes_binary rfl]
    exact (left.beginAt before).join (.inl joiner) (right.beginAt behind)
theorem Unary.beginAt {room : Nat} {ls : List Lexeme} {c : Clause} {cs : List Comparison}
    {tokens : List Token} (written : tokens.map (·.lexeme) = ls) :
    Unary room ls c cs → Filter.BeginAt tokens c.filter.nodes
  | .primary primary => primary.beginAt written
  | .not inner => by
    obtain ⟨t, ts, rfl, isNot, behind⟩ := List.map_eq_cons_iff.mp written
    exact (inner.beginAt behind).negation isNot
theorem Primary.beginAt {room : Nat} {ls : List Lexeme} {c : Clause} {cs : List Comparison}
    {tokens : List Token} (written : tokens.map (·.lexeme) = ls) :
    Primary room ls c cs → Filter.BeginAt tokens c.filter.nodes
  | .group inner => by
    obtain ⟨t, later, rfl, opens, behind⟩ := List.map_eq_cons_iff.mp written
    obtain ⟨ts, last, rfl, between, ending⟩ := List.map_eq_append_iff.mp behind
    obtain ⟨u, none, rfl, closes, empty⟩ := List.map_eq_cons_iff.mp ending
    obtain rfl := List.map_eq_nil_iff.mp empty
    exact (inner.beginAt between).group opens closes
  | .comparison isKey comparator value => by
    obtain ⟨t, later, rfl, rfl, behind⟩ := List.map_eq_cons_iff.mp written
    refine .comparison isKey (by simp_all [Operator.comparator]) fun u member => ?_
    have lexeme := List.mem_map_of_mem (f := (·.lexeme)) member
    rw [behind] at lexeme
    exact List.forall_mem_cons.mpr ⟨by simp, value.no_joiner⟩ _ lexeme
  | .membership isKey membership listing => by
    obtain ⟨t, later, rfl, rfl, behind⟩ := List.map_eq_cons_iff.mp written
    refine .comparison isKey membership.compares fun u member => ?_
    have lexeme := List.mem_map_of_mem (f := (·.lexeme)) member
    rw [behind] at lexeme
    exact List.forall_mem_append.mpr ⟨membership.no_joiner, listing.no_joiner⟩ _ lexeme
end

end Grammar

/-! ## What stands in the way of a condition -/

/-- The failure of an outcome, if it is one. -/
def Error.ofOutcome? {α : Type} : Except Error α → Option Error
  | .ok _ => none
  | .error e => some e

theorem Error.ofOutcome?_eq_some_iff {α : Type} {outcome : Except Error α} {e : Error} :
    ofOutcome? outcome = some e ↔ outcome = .error e := by
  cases outcome <;> simp [ofOutcome?]

namespace Filter

/-- Why a node has no condition: the key of a comparison is no field path, or a negation stands
before what has no opposite. -/
def offence? : Filter → Option Error
  | .unary _ (.filter child) =>
    if child.op ∈ [.eq, .ne, .isIn, .notIn] then none
    else some (.unsupportedOperator (.comparison child.op))
  | .binary _ (.key key) _ =>
    if isFieldPath key then none else some (.invalidInput (.fieldPath key))
  | _ => none

/-- Why a filter has no condition, if it has none. -/
def refusal? (f : Filter) : Option Error := Error.ofOutcome? f.condition

theorem negation?_eq_none_iff {op : Operator} :
    op.negation? = none ↔ op ∉ [.eq, .ne, .isIn, .notIn] := by
  cases op <;> decide

theorem refusal?_operand (joiner : Operator) (c : Clause) :
    Error.ofOutcome? (c.operand.condition joiner) = c.filter.refusal? := by
  obtain ⟨grouped, f⟩ := c
  cases grouped with
  | false => rfl
  | true =>
    simp only [Clause.operand, if_true, Operand.condition, refusal?]
    cases f.condition <;> rfl

/-- Of a joiner the left side is refused first. -/
theorem refusal?_binary {op : Operator} (joins : op.joins = true) (l r : Clause) :
    (binary op l.operand r.operand).refusal? = l.filter.refusal?.or r.filter.refusal? := by
  rw [← refusal?_operand op l, ← refusal?_operand op r, refusal?, condition, if_pos joins]
  cases l.operand.condition op with
  | error e => rfl
  | ok left => cases r.operand.condition op <;> rfl

/-- A node that reads as a comparison whose value has a literal is refused for the key alone. -/
theorem refusal?_leaf {op written : Operator} {left : Operand} {right? : Option Operand}
    {key literal : String} {v : FilterValue}
    (read : Comparison.ofNode op left right? =
      Comparison.ofOperands written (.key key) (some (.value v)))
    (hasLiteral : v.literal = .ok literal) :
    Error.ofOutcome? (leafCondition op left right?) =
      if isFieldPath key then none else some (.invalidInput (.fieldPath key)) := by
  rw [leafCondition, read, Comparison.ofOperands]
  by_cases valid : isFieldPath key = true
  · simp [valid, Comparison.condition, hasLiteral, Error.ofOutcome?]
  · simp [valid, Error.ofOutcome?]

theorem refusal?_comparison {op : Operator} (compares : op.compares = true) {key literal : String}
    {v : FilterValue} (hasLiteral : v.literal = .ok literal) :
    (comparison op key v).refusal? = (comparison op key v).offence? := by
  have leaf : (comparison op key v).condition =
      leafCondition op (.key key) (some (.value v)) := by
    cases op <;> cases compares <;> rfl
  have positive : op ≠ .not := by rintro rfl; cases compares
  rw [refusal?, leaf, refusal?_leaf (if_neg positive) hasLiteral]
  rfl

/-- A comparison with an opposite is refused under a negation as it is alone. -/
theorem refusal?_negation_of_comparison {op opposite : Operator}
    (negated : op.negation? = some opposite) {key literal : String} {v : FilterValue}
    (hasLiteral : v.literal = .ok literal) :
    (comparison op key v).negation.refusal? = (comparison op key v).offence? := by
  have read : Comparison.ofNode .not (.filter (comparison op key v)) none =
      Comparison.ofOperands opposite (.key key) (some (.value v)) := by
    simp only [Comparison.ofNode, if_true, Comparison.ofNegated]
    simp only [comparison, Filter.op, negated]
    rfl
  exact refusal?_leaf read hasLiteral

theorem refusal?_negation_of_unopposed {f : Filter} (unopposed : f.op.negation? = none) :
    f.negation.refusal? = some (.unsupportedOperator (.comparison f.op)) := by
  have read : Comparison.ofNode .not (.filter f) none =
      .error (.unsupportedOperator (.comparison f.op)) := by
    simp only [Comparison.ofNode, if_true, Comparison.ofNegated, unopposed]
  have leaf : f.negation.condition = leafCondition .not (.filter f) none := rfl
  rw [refusal?, leaf, leafCondition, read]
  rfl

end Filter

/-! ## Literals of texts -/

theorem FilterValue.exists_literals {items : List FilterValue}
    (each : ∀ v ∈ items, ∃ literal, v.literal = .ok literal) :
    ∃ written, literals items = .ok written := by
  induction items with
  | nil => exact ⟨[], rfl⟩
  | cons v rest ih =>
    obtain ⟨⟨literal, first⟩, later⟩ := List.forall_mem_cons.mp each
    obtain ⟨written, others⟩ := ih later
    exact ⟨literal :: written, by rw [literals, first, others]⟩

namespace Grammar

mutual
/-- Every number of a text is finite. -/
theorem Value.exists_literal {room : Nat} {ls : List Lexeme} {v : FilterValue} :
    Value room ls v → ∃ literal, v.literal = .ok literal
  | .simple simple => by
    cases simple with
    | float _ _ finite => exact ⟨_, if_pos finite⟩
    | _ => exact ⟨_, rfl⟩
  | .listing listing => listing.exists_literal
theorem Listing.exists_literal {room : Nat} {ls : List Lexeme} {items : List FilterValue} :
    Listing room ls items → ∃ literal, (FilterValue.list items).literal = .ok literal
  | .brackets inner => by
    obtain ⟨written, literals⟩ := FilterValue.exists_literals inner.exists_literal
    exact ⟨_, by rw [FilterValue.literal, literals]⟩
theorem Items.exists_literal {room : Nat} {ls : List Lexeme} {items : List FilterValue} :
    Items room ls items → ∀ v ∈ items, ∃ literal, v.literal = .ok literal
  | .one value => List.forall_mem_singleton.mpr value.exists_literal
  | .more earlier value => List.forall_mem_append.mpr
    ⟨earlier.exists_literal, List.forall_mem_singleton.mpr value.exists_literal⟩
end

/-! ## Filters of texts -/

mutual
/-- What has the operator of a comparison is one. -/
theorem Disjunction.exists_comparison {room : Nat} {ls : List Lexeme} {c : Clause}
    {cs : List Comparison} : Disjunction room ls c cs → c.filter.op.compares = true →
      ∃ key v literal, c.filter = .comparison c.filter.op key v ∧ v.literal = .ok literal
  | .one conjunction, compares => conjunction.exists_comparison compares
  | .or _ _, compares => by cases compares
theorem Conjunction.exists_comparison {room : Nat} {ls : List Lexeme} {c : Clause}
    {cs : List Comparison} : Conjunction room ls c cs → c.filter.op.compares = true →
      ∃ key v literal, c.filter = .comparison c.filter.op key v ∧ v.literal = .ok literal
  | .one unary, compares => unary.exists_comparison compares
  | .and _ _, compares => by cases compares
theorem Unary.exists_comparison {room : Nat} {ls : List Lexeme} {c : Clause}
    {cs : List Comparison} : Unary room ls c cs → c.filter.op.compares = true →
      ∃ key v literal, c.filter = .comparison c.filter.op key v ∧ v.literal = .ok literal
  | .primary primary, compares => primary.exists_comparison compares
  | .not _, compares => by cases compares
theorem Primary.exists_comparison {room : Nat} {ls : List Lexeme} {c : Clause}
    {cs : List Comparison} : Primary room ls c cs → c.filter.op.compares = true →
      ∃ key v literal, c.filter = .comparison c.filter.op key v ∧ v.literal = .ok literal
  | .group inner, compares => inner.exists_comparison compares
  | @Grammar.Primary.comparison _ _ key _ _ v _ _ value, _ => by
    obtain ⟨literal, hasLiteral⟩ := value.exists_literal
    exact ⟨key, v, literal, rfl, hasLiteral⟩
  | @Grammar.Primary.membership _ _ key _ _ _ items _ _ listing, _ => by
    obtain ⟨literal, hasLiteral⟩ := listing.exists_literal
    exact ⟨key, .list items, literal, rfl, hasLiteral⟩
end

/-- A negation is refused for itself, else for what it negates. -/
theorem Unary.refusal?_negation {room : Nat} {ls : List Lexeme} {c : Clause}
    {cs : List Comparison} (inner : Unary room ls c cs) :
    c.filter.negation.refusal? = c.filter.negation.nodes.findSome? Filter.offence? := by
  rw [Filter.nodes_negation]
  cases negated : c.filter.op.negation? with
  | none =>
    have offends : c.filter.negation.offence? =
        some (.unsupportedOperator (.comparison c.filter.op)) :=
      if_neg (Filter.negation?_eq_none_iff.mp negated)
    rw [Filter.refusal?_negation_of_unopposed negated,
      List.findSome?_cons_of_isSome (by rw [offends]; rfl), offends]
  | some opposite =>
    have compares : c.filter.op.compares = true := by
      revert negated
      cases c.filter.op <;> simp [Operator.negation?, Operator.compares]
    have allowed : c.filter.negation.offence? = none := by
      refine if_pos ?_
      by_contra unopposed
      rw [Filter.negation?_eq_none_iff.mpr unopposed] at negated
      contradiction
    obtain ⟨key, v, literal, isComparison, hasLiteral⟩ := inner.exists_comparison compares
    rw [List.findSome?_cons_of_isNone (by rw [allowed]; rfl), isComparison,
      Filter.refusal?_negation_of_comparison negated hasLiteral,
      Filter.nodes_comparison compares, List.findSome?_singleton]

mutual
/-- A phrase is refused for the first of its nodes that offends. -/
theorem Disjunction.refusal? {room : Nat} {ls : List Lexeme} {c : Clause} {cs : List Comparison} :
    Disjunction room ls c cs → c.filter.refusal? = c.filter.nodes.findSome? Filter.offence?
  | .one conjunction => conjunction.refusal?
  | .or left right => by
    rw [Filter.refusal?_binary rfl, Filter.nodes_binary rfl, List.findSome?_append,
      left.refusal?, right.refusal?]
theorem Conjunction.refusal? {room : Nat} {ls : List Lexeme} {c : Clause} {cs : List Comparison} :
    Conjunction room ls c cs → c.filter.refusal? = c.filter.nodes.findSome? Filter.offence?
  | .one unary => unary.refusal?
  | .and left right => by
    rw [Filter.refusal?_binary rfl, Filter.nodes_binary rfl, List.findSome?_append,
      left.refusal?, right.refusal?]
theorem Unary.refusal? {room : Nat} {ls : List Lexeme} {c : Clause} {cs : List Comparison} :
    Unary room ls c cs → c.filter.refusal? = c.filter.nodes.findSome? Filter.offence?
  | .primary primary => primary.refusal?
  | .not inner => inner.refusal?_negation
theorem Primary.refusal? {room : Nat} {ls : List Lexeme} {c : Clause} {cs : List Comparison} :
    Primary room ls c cs → c.filter.refusal? = c.filter.nodes.findSome? Filter.offence?
  | .group inner => inner.refusal?
  | .comparison _ comparator value => by
    have compares : _ = true := (Bool.and_eq_true_iff.mp comparator).1
    obtain ⟨literal, hasLiteral⟩ := value.exists_literal
    rw [Filter.refusal?_comparison compares hasLiteral, Filter.nodes_comparison compares,
      List.findSome?_singleton]
  | .membership _ membership listing => by
    obtain ⟨literal, hasLiteral⟩ := listing.exists_literal
    rw [Filter.refusal?_comparison membership.compares hasLiteral,
      Filter.nodes_comparison membership.compares, List.findSome?_singleton]
end

end Grammar

theorem Filter.offence?_eq_some {node : Filter} {e : Error} (offends : node.offence? = some e) :
    (∃ key, e = .invalidInput (.fieldPath key)) ∨
      ∃ op, e = .unsupportedOperator (.comparison op) := by
  unfold offence? at offends
  split at offends
  next child =>
    split at offends
    · contradiction
    · exact .inr ⟨child.op, (Option.some.inj offends).symm⟩
  next key right =>
    split at offends
    · contradiction
    · exact .inl ⟨key, (Option.some.inj offends).symm⟩
  next => contradiction

/-- The nodes of a filter that is read from a text begin, in their order, at the tokens at which its
operands stand. The filter has no condition exactly if one of them offends, and then for the first
that does. So it is refused for nothing but a key or a negation. -/
theorem condition_eq_error_iff_first_offence {text : String} {f : Filter}
    (read : Filter.read text = .ok f) :
    ∃ tokens, Token.ofText text = .ok tokens ∧
      List.Forall₂ (fun t node => node.BeginsWith t.lexeme) (Token.operands true tokens) f.nodes ∧
      ((∃ e, f.condition = .error e) ↔ ∃ node ∈ f.nodes, node.offence? ≠ none) ∧
      (∀ e, f.condition = .error e ↔ ∃ before node after, f.nodes = before ++ node :: after ∧
        node.offence? = some e ∧ ∀ earlier ∈ before, earlier.offence? = none) ∧
      ∀ e, f.condition = .error e → (∃ key, e = .invalidInput (.fieldPath key)) ∨
        ∃ op, e = .unsupportedOperator (.comparison op) := by
  obtain ⟨tokens, tokenized⟩ := Filter.tokenized_of_read read
  obtain ⟨c, disjunction, rfl⟩ := (Filter.read_iff tokenized f).mp read
  have refused_iff (e : Error) : c.filter.condition = .error e ↔
      c.filter.nodes.findSome? Filter.offence? = some e := by
    rw [← disjunction.refusal?, Filter.refusal?, Error.ofOutcome?_eq_some_iff]
  obtain ⟨heads, begins, operands⟩ := disjunction.beginAt rfl
  have all := operands []
  rw [List.append_nil, show Token.operands false [] = [] from rfl, List.append_nil] at all
  refine ⟨tokens, tokenized, all ▸ begins, ?_, fun e => ?_, fun e refused => ?_⟩
  · simp only [refused_iff, ← Option.isSome_iff_exists, ← Option.isSome_iff_ne_none]
    exact List.findSome?_isSome_iff
  · rw [refused_iff, List.findSome?_eq_some_iff]
  · obtain ⟨-, node, -, -, offends, -⟩ := List.findSome?_eq_some_iff.mp ((refused_iff e).mp refused)
    exact Filter.offence?_eq_some offends

/-- The first negation is of a comparison with an opposite, whose key is refused before the second
negation. -/
theorem key_refused_before_negation :
    ∃ f tokens, Filter.read "not 'x y' == 1 or not a < 2" = .ok f ∧
      Token.ofText "not 'x y' == 1 or not a < 2" = .ok tokens ∧
      (Token.operands true tokens).map (·.offset) = [0, 4, 18, 22] ∧
      List.Forall₂ (fun t node => node.BeginsWith t.lexeme) (Token.operands true tokens) f.nodes ∧
      f.condition = .error (.invalidInput (.fieldPath "x y")) := by
  have tokenized : Token.ofText "not 'x y' == 1 or not a < 2" = .ok
      [⟨.not, 0⟩, ⟨.quoted "x y", 4⟩, ⟨.comparison .eq, 10⟩, ⟨.number "1", 13⟩, ⟨.or, 15⟩,
        ⟨.not, 18⟩, ⟨.word "a", 22⟩, ⟨.comparison .lt, 24⟩, ⟨.number "2", 26⟩] := by
    cbv
  have read : Filter.read "not 'x y' == 1 or not a < 2" = .ok (.binary .or
      (.filter (.negation (.comparison .eq "x y" (.int 1))))
      (.filter (.negation (.comparison .lt "a" (.int 2))))) := by
    unfold Filter.read
    rw [tokenized]
    rfl
  obtain ⟨tokens, tokenized', begins, -, first, -⟩ := condition_eq_error_iff_first_offence read
  obtain rfl := Except.ok.inj (tokenized.symm.trans tokenized')
  refine ⟨_, _, read, tokenized, rfl, begins, (first _).mpr ⟨[_], _, [_, _], rfl, rfl, ?_⟩⟩
  exact List.forall_mem_singleton.mpr rfl

end VectorStore
