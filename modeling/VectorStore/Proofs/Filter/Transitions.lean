import VectorStore.Proofs.Filter.Grammar

/-!
The reader of filters as a system of transitions. Each step takes one of a few of them
(`step_eq_ok_iff`), and a run succeeds where they lead to a place at which nothing is missing
(`run_eq_ok_iff`). The transitions follow every derivation of the grammar
(`disjunction_advances`): a phrase of a level is read, and one closing of that level away from the
stack below stands what the grammar gives it.
-/
namespace VectorStore
namespace ParseState
open Grammar Text

/-! ## Transitions -/

/-- What reading a lexeme does at most places, where at most `limit` negations, groups and lists
may be open. -/
inductive Advance (limit : Nat) : ParseState → Lexeme → ParseState → Prop
  | negation {stack : List Frame} (room : depth stack < limit) :
    Advance limit ⟨stack, .operand⟩ .not ⟨.negation :: stack, .operand⟩
  | paren {stack : List Frame} (room : depth stack < limit) :
    Advance limit ⟨stack, .operand⟩ .openParen ⟨.paren :: stack, .operand⟩
  | key {stack : List Frame} {lexeme : Lexeme} {key : String} (isKey : Key lexeme key) :
    Advance limit ⟨stack, .operand⟩ lexeme ⟨stack, .operator key⟩
  | comparison {stack : List Frame} {key : String} (op : Operator) :
    Advance limit ⟨stack, .operator key⟩ (.comparison op) ⟨stack, .value key op⟩
  | not {stack : List Frame} {key : String} :
    Advance limit ⟨stack, .operator key⟩ .not ⟨stack, .membership key⟩
  | word {stack : List Frame} {key word : String} {op : Operator}
      (spelled : wordOperator? word = some op) :
    Advance limit ⟨stack, .operator key⟩ (.word word) ⟨stack, .value key op⟩
  | notIn {stack : List Frame} {key word : String} (spelled : equalsIgnoringCase word "in" = true) :
    Advance limit ⟨stack, .membership key⟩ (.word word) ⟨stack, .value key .notIn⟩
  | value {stack : List Frame} {key : String} {op : Operator} {lexeme : Lexeme} {v : FilterValue}
      (single : op.listed = false) (simple : Simple lexeme v) :
    Advance limit ⟨stack, .value key op⟩ lexeme (deliver stack key op v [])
  | valueList {stack : List Frame} {key : String} {op : Operator} (room : depth stack < limit) :
    Advance limit ⟨stack, .value key op⟩ .openBracket ⟨stack, .item key op [] []⟩
  | item {stack : List Frame} {key : String} {op : Operator} {innermost : List FilterValue}
      {outer : List (List FilterValue)} {lexeme : Lexeme} {v : FilterValue}
      (simple : Simple lexeme v) :
    Advance limit ⟨stack, .item key op innermost outer⟩ lexeme
      (deliver stack key op v (innermost :: outer))
  | itemList {stack : List Frame} {key : String} {op : Operator} {innermost : List FilterValue}
      {outer : List (List FilterValue)} (room : depth stack + (outer.length + 1) < limit) :
    Advance limit ⟨stack, .item key op innermost outer⟩ .openBracket
      ⟨stack, .item key op [] (innermost :: outer)⟩
  | comma {stack : List Frame} {key : String} {op : Operator} {innermost : List FilterValue}
      {outer : List (List FilterValue)} :
    Advance limit ⟨stack, .separator key op innermost outer⟩ .comma
      ⟨stack, .item key op innermost outer⟩
  | closeBracket {stack : List Frame} {key : String} {op : Operator}
      {innermost : List FilterValue} {outer : List (List FilterValue)} :
    Advance limit ⟨stack, .separator key op innermost outer⟩ .closeBracket
      (deliver stack key op (.list innermost.reverse) outer)
  | and {stack : List Frame} {c : Clause} :
    Advance limit ⟨stack, .joiner c⟩ .and
      ⟨.conjunction (closeConjunction stack c).2 :: (closeConjunction stack c).1, .operand⟩
  | or {stack : List Frame} {c : Clause} :
    Advance limit ⟨stack, .joiner c⟩ .or
      ⟨.disjunction (closeJoiners stack c).2 :: (closeJoiners stack c).1, .operand⟩
  | closeParen {stack rest : List Frame} {c inner : Clause}
      (closes : closeJoiners stack c = (.paren :: rest, inner)) :
    Advance limit ⟨stack, .joiner c⟩ .closeParen (settle rest ⟨true, inner.filter⟩)

theorem simpleValue_eq_ok_iff {lexeme : Lexeme} {v : FilterValue} :
    simpleValue lexeme = .ok v ↔ Simple lexeme v := by
  constructor
  · intro read
    unfold simpleValue at read
    split at read
    next text => cases read; exact .text text
    next text =>
      unfold number? at read
      cases integer : readInteger? text.toList with
      | some n =>
        rw [integer] at read
        cases read
        exact .int integer
      | none =>
        rw [integer] at read
        cases double : readDouble? text.toList with
        | none => simp [double] at read
        | some x =>
          by_cases finite : doubleFinite x = true
          · simp only [double, Option.filter, finite, if_true, Option.map_some] at read
            cases read
            exact .float integer double finite
          · simp [double, Option.filter, finite] at read
    next word =>
      split at read
      next spelled => cases read; exact .true spelled
      next =>
        split at read
        next spelled => cases read; exact .false spelled
        next => cases read
    next => cases read
  · intro simple
    cases simple with
    | text text => rfl
    | int reads => simp [simpleValue, number?, reads]
    | float noInteger reads finite =>
      simp [simpleValue, number?, noInteger, reads, Option.filter, finite]
    | true spelled => simp [simpleValue, spelled]
    | @false word spelled =>
      have other : equalsIgnoringCase word "true" = false := by
        have lowered := eq_of_beq spelled
        rw [equalsIgnoringCase, lowered]
        decide
      simp [simpleValue, spelled, other]

theorem openFrame_eq_ok_iff {stack : List Frame} {frame : Frame} {next : Nat} {s' : ParseState} :
    openFrame stack frame next = .ok s' ↔
      depth stack < nestingLimit ∧ s' = ⟨frame :: stack, .operand⟩ := by
  unfold openFrame
  split
  next full => simp [Nat.not_lt.mpr full]
  next room => simp [Nat.lt_of_not_le room, eq_comm]

theorem readValue_eq_ok_iff {stack : List Frame} {key : String} {op : Operator}
    {lists : List (List FilterValue)} {t : Token} {next : Nat} {s' : ParseState} :
    readValue stack key op lists t next = .ok s' ↔
      (t.lexeme = .openBracket ∧ depth stack + lists.length < nestingLimit ∧
        s' = ⟨stack, .item key op [] lists⟩) ∨
      ∃ v, Simple t.lexeme v ∧ s' = deliver stack key op v lists := by
  unfold readValue
  split
  next bracket =>
    have notSimple : ∀ v, ¬ Simple .openBracket v := fun v simple => by cases simple
    split
    next full => simp [bracket, notSimple, Nat.not_lt.mpr full]
    next room => simp [bracket, notSimple, Nat.lt_of_not_le room, eq_comm]
  next noBracket =>
    split
    next v read =>
      have simple := simpleValue_eq_ok_iff.mp read
      constructor
      · intro same
        cases same
        exact .inr ⟨v, simple, rfl⟩
      · rintro (⟨bracket, -, -⟩ | ⟨w, simple', rfl⟩)
        · exact absurd bracket noBracket
        · have reads := simpleValue_eq_ok_iff.mpr simple'
          rw [read] at reads
          cases reads
          rfl
    next fault refused =>
      constructor
      · intro impossible
        cases impossible
      · rintro (⟨bracket, -, -⟩ | ⟨w, simple, -⟩)
        · exact absurd bracket noBracket
        · rw [simpleValue_eq_ok_iff.mpr simple] at refused
          cases refused

/-- A step succeeds exactly along the transitions. -/
theorem step_eq_ok_iff {s s' : ParseState} {t : Token} {next : Nat} :
    s.step t next = .ok s' ↔ Advance nestingLimit s t.lexeme s' := by
  obtain ⟨lexeme, offset⟩ := t
  obtain ⟨stack, expects⟩ := s
  constructor
  · intro stepped
    cases expects with
    | operand =>
      cases lexeme <;> simp only [step, openFrame_eq_ok_iff, reduceCtorEq] at stepped
      case not => obtain ⟨room, rfl⟩ := stepped; exact .negation room
      case openParen => obtain ⟨room, rfl⟩ := stepped; exact .paren room
      case word text => cases stepped; exact .key (.word text)
      case quoted text => cases stepped; exact .key (.quoted text)
    | operator key =>
      cases lexeme <;> simp only [step, reduceCtorEq] at stepped
      case comparison op => cases stepped; exact .comparison op
      case not => cases stepped; exact .not
      case word text =>
        split at stepped
        next op spelled => cases stepped; exact .word spelled
        next => cases stepped
    | membership key =>
      cases lexeme <;> simp only [step, reduceCtorEq] at stepped
      case word text =>
        split at stepped
        next spelled => cases stepped; exact .notIn spelled
        next => cases stepped
    | value key op =>
      simp only [step] at stepped
      split at stepped
      · cases stepped
      next allowed =>
        rcases readValue_eq_ok_iff.mp stepped with ⟨rfl, room, rfl⟩ | ⟨v, simple, rfl⟩
        · exact .valueList room
        · have single : op.listed = false := by
            cases listed : op.listed with
            | false => rfl
            | true => cases simple <;> simp [listed] at allowed
          exact .value single simple
    | item key op innermost outer =>
      simp only [step] at stepped
      split at stepped
      · cases stepped
      next =>
        rcases readValue_eq_ok_iff.mp stepped with ⟨rfl, room, rfl⟩ | ⟨v, simple, rfl⟩
        · exact .itemList room
        · exact .item simple
    | separator key op innermost outer =>
      cases lexeme <;> simp only [step, reduceCtorEq] at stepped
      case comma => cases stepped; exact .comma
      case closeBracket => cases stepped; exact .closeBracket
    | joiner c =>
      cases lexeme <;> simp only [step] at stepped
      case and => cases stepped; exact .and
      case or => cases stepped; exact .or
      case closeParen =>
        split at stepped
        next rest inner closes => cases stepped; exact .closeParen closes
        next => cases stepped
      all_goals split at stepped <;> cases stepped
  · intro advance
    cases advance with
    | negation room => exact openFrame_eq_ok_iff.mpr ⟨room, rfl⟩
    | paren room => exact openFrame_eq_ok_iff.mpr ⟨room, rfl⟩
    | key isKey => cases isKey <;> rfl
    | comparison op => rfl
    | not => rfl
    | word spelled => simp [step, spelled]
    | notIn spelled => simp [step, spelled]
    | value single simple =>
      simp only [step, single, Bool.false_and, Bool.false_eq_true, if_false]
      exact readValue_eq_ok_iff.mpr (.inr ⟨_, simple, rfl⟩)
    | valueList room =>
      simp only [step, bne_self_eq_false, Bool.and_false, Bool.false_eq_true, if_false]
      exact readValue_eq_ok_iff.mpr (.inl ⟨rfl, room, rfl⟩)
    | item simple =>
      have closes : (lexeme == .closeBracket) = false := by cases simple <;> rfl
      simp only [step, closes, Bool.and_false, Bool.false_eq_true, if_false]
      exact readValue_eq_ok_iff.mpr (.inr ⟨_, simple, rfl⟩)
    | itemList room =>
      simp only [step]
      rw [if_neg (by simp)]
      exact readValue_eq_ok_iff.mpr (.inl ⟨rfl, room, rfl⟩)
    | comma => rfl
    | closeBracket => rfl
    | and => rfl
    | or => rfl
    | closeParen closes => simp [step, closes]

/-- The places that a reader passes through over some lexemes. -/
inductive Advances (limit : Nat) : ParseState → List Lexeme → ParseState → Prop
  | nil {s : ParseState} : Advances limit s [] s
  | cons {s s' s'' : ParseState} {lexeme : Lexeme} {ls : List Lexeme}
      (first : Advance limit s lexeme s') (later : Advances limit s' ls s'') :
    Advances limit s (lexeme :: ls) s''

theorem Advances.append {limit : Nat} {s s' s'' : ParseState} {ls ms : List Lexeme}
    (first : Advances limit s ls s') (later : Advances limit s' ms s'') :
    Advances limit s (ls ++ ms) s'' := by
  induction first with
  | nil => exact later
  | cons step _ ih => exact .cons step (ih later)

/-- One more lexeme. -/
theorem Advances.snoc {limit : Nat} {s s' s'' : ParseState} {ls : List Lexeme} {lexeme : Lexeme}
    (first : Advances limit s ls s') (last : Advance limit s' lexeme s'') :
    Advances limit s (ls ++ [lexeme]) s'' :=
  first.append (.cons last .nil)

/-- Reading succeeds along the transitions, at the end of which nothing may be missing. -/
theorem run_eq_ok_iff {final : Nat} {tokens : List Token} {f : Filter} :
    {s : ParseState} → run final s tokens = .ok f ↔
      ∃ s', Advances nestingLimit s (tokens.map (·.lexeme)) s' ∧ s'.finish = .ok f := by
  induction tokens with
  | nil =>
    intro s
    have finished : run final s [] = .ok f ↔ s.finish = .ok f := by
      rw [run]
      cases s.finish <;> simp
    rw [finished]
    constructor
    · exact fun done => ⟨s, .nil, done⟩
    · rintro ⟨s', ⟨⟩, done⟩
      exact done
  | cons t rest ih =>
    intro s
    constructor
    · intro read
      rw [run] at read
      split at read
      next s' stepped =>
        obtain ⟨last, later, done⟩ := ih.mp read
        exact ⟨last, .cons (step_eq_ok_iff.mp stepped) later, done⟩
      next => cases read
    · rintro ⟨last, advances, done⟩
      cases advances with
      | cons first later =>
        rw [run, step_eq_ok_iff.mpr first]
        exact ih.mpr ⟨last, later, done⟩

/-! ## From derivations to transitions -/

/-- A stack that no negation waits on. -/
def Settled : List Frame → Prop
  | .negation :: _ => False
  | _ => True
/-- A stack on which a conjunction may begin. -/
def OpensConjunction : List Frame → Prop
  | .negation :: _ => False
  | .conjunction _ :: _ => False
  | _ => True
/-- A stack on which a disjunction may begin. -/
def OpensDisjunction : List Frame → Prop
  | [] => True
  | .paren :: _ => True
  | _ => False

theorem OpensConjunction.settled {stack : List Frame} (opens : OpensConjunction stack) :
    Settled stack := by
  cases stack with
  | nil => trivial
  | cons frame rest => cases frame <;> trivial

theorem OpensDisjunction.opensConjunction {stack : List Frame} (opens : OpensDisjunction stack) :
    OpensConjunction stack := by
  cases stack with
  | nil => trivial
  | cons frame rest => cases frame <;> trivial

theorem settle_of_settled {stack : List Frame} (settled : Settled stack) (c : Clause) :
    settle stack c = ⟨stack, .joiner c⟩ := by
  cases stack with
  | nil => rfl
  | cons frame rest => cases frame <;> first | rfl | exact settled.elim

theorem closeConjunction_of_opens {stack : List Frame} (opens : OpensConjunction stack)
    (c : Clause) : closeConjunction stack c = (stack, c) := by
  cases stack with
  | nil => rfl
  | cons frame rest => cases frame <;> first | rfl | exact opens.elim

theorem closeJoiners_of_closeConjunction {stack rest : List Frame} {c d : Clause}
    (opens : OpensDisjunction rest) (closed : closeConjunction stack c = (rest, d)) :
    closeJoiners stack c = (rest, d) := by
  rw [closeJoiners, closed]
  cases rest with
  | nil => rfl
  | cons frame rest => cases frame <;> first | rfl | exact opens.elim

/-- The place before a value inside open lists. -/
def valuePlace (stack : List Frame) (key : String) (op : Operator) :
    List (List FilterValue) → ParseState
  | [] => ⟨stack, .value key op⟩
  | innermost :: outer => ⟨stack, .item key op innermost outer⟩

section
variable {limit : Nat} {stack : List Frame} {key : String} {op : Operator}

theorem Advance.openList {lists : List (List FilterValue)}
    (room : depth stack + lists.length < limit) :
    Advance limit (valuePlace stack key op lists) .openBracket ⟨stack, .item key op [] lists⟩ := by
  cases lists with
  | nil => exact .valueList room
  | cons innermost outer => exact .itemList room

mutual
theorem value_advances {room : Nat} {ls : List Lexeme} {v : FilterValue}
    {lists : List (List FilterValue)} (fits : depth stack + lists.length + room = limit)
    (single : lists = [] → op.listed = false) :
    Value room ls v →
      Advances limit (valuePlace stack key op lists) ls (deliver stack key op v lists)
  | .simple simple => by
    cases lists with
    | nil => exact .cons (.value (single rfl) simple) .nil
    | cons innermost outer => exact .cons (.item simple) .nil
  | .listing listing => listing_advances fits listing
/-- A listing is read wherever a value is, after any operator. -/
theorem listing_advances {room : Nat} {ls : List Lexeme} {items : List FilterValue}
    {lists : List (List FilterValue)} (fits : depth stack + lists.length + room = limit) :
    Listing room ls items →
      Advances limit (valuePlace stack key op lists) ls (deliver stack key op (.list items) lists)
  | @Listing.brackets room ls items inner => by
    have opened : Advance limit (valuePlace stack key op lists) .openBracket
        ⟨stack, .item key op [] lists⟩ := .openList (by omega)
    have read : Advances limit ⟨stack, .item key op [] lists⟩ ls
        ⟨stack, .separator key op items.reverse lists⟩ := items_advances (by omega) inner
    have closed : Advance limit ⟨stack, .separator key op items.reverse lists⟩ .closeBracket
        (deliver stack key op (.list items.reverse.reverse) lists) := .closeBracket
    rw [List.reverse_reverse] at closed
    exact .cons opened (read.snoc closed)
theorem items_advances {room : Nat} {ls : List Lexeme} {items : List FilterValue}
    {outer : List (List FilterValue)} (fits : depth stack + (outer.length + 1) + room = limit) :
    Items room ls items →
      Advances limit ⟨stack, .item key op [] outer⟩ ls
        ⟨stack, .separator key op items.reverse outer⟩
  | @Items.one _ ls v value => by
    have read : Advances limit (valuePlace stack key op ([] :: outer)) ls
        (deliver stack key op v ([] :: outer)) :=
      value_advances (by simpa using fits) (by simp) value
    exact read
  | @Items.more _ ls ms items v earlier value => by
    have before : Advances limit ⟨stack, .item key op [] outer⟩ ls
        ⟨stack, .separator key op items.reverse outer⟩ := items_advances fits earlier
    have next : Advances limit (valuePlace stack key op (items.reverse :: outer)) ms
        (deliver stack key op v (items.reverse :: outer)) :=
      value_advances (by simpa using fits) (by simp) value
    rw [List.reverse_append]
    exact before.append (.cons .comma next)
end

theorem membership_advances {spelled : List Lexeme} (membership : Membership spelled op) :
    Advances limit ⟨stack, .operator key⟩ spelled ⟨stack, .value key op⟩ := by
  cases membership with
  | isIn spelled => exact .cons (.word (by simp [wordOperator?, spelled])) .nil
  | @nin word spelled =>
    have other : equalsIgnoringCase word "in" = false := by
      have lowered := eq_of_beq spelled
      rw [equalsIgnoringCase, lowered]
      decide
    exact .cons (.word (by simp [wordOperator?, spelled, other])) .nil
  | notIn spelled => exact .cons .not (.cons (.notIn spelled) .nil)

theorem depth_cons_nests {frame : Frame} (nests : frame.nests = true) :
    depth (frame :: stack) = depth stack + 1 := by
  simp [depth, nests]
theorem depth_cons_joins {frame : Frame} (joins : frame.nests = false) :
    depth (frame :: stack) = depth stack := by
  simp [depth, joins]

end

section
variable {limit : Nat}

mutual
/-- The transitions read a disjunction and leave it one closing away. -/
theorem disjunction_advances {stack : List Frame} {room : Nat} {ls : List Lexeme} {c : Clause}
    {cs : List Comparison} (fits : depth stack + room = limit) (opens : OpensDisjunction stack) :
    Disjunction room ls c cs → ∃ σ d, Advances limit ⟨stack, .operand⟩ ls ⟨σ, .joiner d⟩ ∧
      closeJoiners σ d = (stack, c)
  | .one conjunction => by
    obtain ⟨σ, d, read, closed⟩ :=
      conjunction_advances fits opens.opensConjunction conjunction
    exact ⟨σ, d, read, closeJoiners_of_closeConjunction opens closed⟩
  | @Disjunction.or room ls ms l r cs ds left right => by
    obtain ⟨σ, d, leftRead, leftClosed⟩ := disjunction_advances fits opens left
    have joined : Advance limit ⟨σ, .joiner d⟩ .or ⟨.disjunction l :: stack, .operand⟩ := by
      have step : Advance limit ⟨σ, .joiner d⟩ .or _ := .or
      rwa [leftClosed] at step
    have rightFits : depth (.disjunction l :: stack) + room = limit := by
      rw [depth_cons_joins rfl]
      exact fits
    obtain ⟨τ, e, rightRead, rightClosed⟩ := conjunction_advances rightFits trivial right
    refine ⟨τ, e, leftRead.append (.cons joined rightRead), ?_⟩
    rw [closeJoiners, rightClosed]
theorem conjunction_advances {stack : List Frame} {room : Nat} {ls : List Lexeme} {c : Clause}
    {cs : List Comparison} (fits : depth stack + room = limit) (opens : OpensConjunction stack) :
    Conjunction room ls c cs → ∃ σ d, Advances limit ⟨stack, .operand⟩ ls ⟨σ, .joiner d⟩ ∧
      closeConjunction σ d = (stack, c)
  | .one unary => by
    have read := unary_advances fits unary
    rw [settle_of_settled opens.settled] at read
    exact ⟨stack, c, read, closeConjunction_of_opens opens c⟩
  | @Conjunction.and room ls ms l r cs ds left right => by
    obtain ⟨σ, d, leftRead, leftClosed⟩ := conjunction_advances fits opens left
    have joined : Advance limit ⟨σ, .joiner d⟩ .and ⟨.conjunction l :: stack, .operand⟩ := by
      have step : Advance limit ⟨σ, .joiner d⟩ .and _ := .and
      rwa [leftClosed] at step
    have rightFits : depth (.conjunction l :: stack) + room = limit := by
      rw [depth_cons_joins rfl]
      exact fits
    have rightRead := unary_advances rightFits right
    exact ⟨.conjunction l :: stack, r, leftRead.append (.cons joined rightRead), rfl⟩
theorem unary_advances {stack : List Frame} {room : Nat} {ls : List Lexeme} {c : Clause}
    {cs : List Comparison} (fits : depth stack + room = limit) :
    Unary room ls c cs → Advances limit ⟨stack, .operand⟩ ls (settle stack c)
  | .primary primary => primary_advances fits primary
  | @Unary.not room ls c cs inner => by
    have opened : Advance limit ⟨stack, .operand⟩ .not ⟨.negation :: stack, .operand⟩ :=
      .negation (by omega)
    have innerFits : depth (.negation :: stack) + room = limit := by
      rw [depth_cons_nests rfl]
      omega
    exact .cons opened (unary_advances innerFits inner)
theorem primary_advances {stack : List Frame} {room : Nat} {ls : List Lexeme} {c : Clause}
    {cs : List Comparison} (fits : depth stack + room = limit) :
    Primary room ls c cs → Advances limit ⟨stack, .operand⟩ ls (settle stack c)
  | @Primary.group room ls c cs inner => by
    have opened : Advance limit ⟨stack, .operand⟩ .openParen ⟨.paren :: stack, .operand⟩ :=
      .paren (by omega)
    have innerFits : depth (.paren :: stack) + room = limit := by
      rw [depth_cons_nests rfl]
      omega
    obtain ⟨σ, d, read, closed⟩ := disjunction_advances innerFits trivial inner
    exact .cons opened (read.snoc (.closeParen closed))
  | @Primary.comparison room k key op ls v isKey comparator value => by
    have single : op.listed = false := by
      cases op <;> simp_all [Operator.comparator, Operator.compares, Operator.listed]
    have read : Advances limit (valuePlace stack key op []) ls (deliver stack key op v []) :=
      value_advances (by simpa using fits) (fun _ => single) value
    exact .cons (.key isKey) (.cons (.comparison op) read)
  | @Primary.membership room k key op spelled ls items isKey membership listing => by
    have read : Advances limit (valuePlace stack key op []) ls
        (deliver stack key op (.list items) []) := listing_advances (by simpa using fits) listing
    exact .cons (.key isKey) ((membership_advances membership).append read)
end

end

end ParseState
end VectorStore
