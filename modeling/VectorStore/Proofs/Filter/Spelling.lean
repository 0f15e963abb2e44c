import VectorStore.Proofs.Filter.Chain
import VectorStore.Proofs.Filter.Literal

/-!
The texts of conditions. A reader of the query language leaves each of them as he entered it
(`Filter.sealed_of_condition`), and there is one way only to read it. Many filters have one text:
joiners are written without parentheses, so that the association of a chain is lost, and a negation
is written as the opposite comparison. But the text tells the chain that it spells
(`Condition.Chain.append_inj`), and the chain decides on every record, so that filters with one
condition match the same records (`matches_eq_of_condition_eq`).
-/
namespace VectorStore
open Text

/-! ## Keys and operators -/

/-- A character of a text separates its pieces or stands in one of them. -/
theorem Text.exists_piece_of_mem {separator : Char → Bool} {c : Char} {cs : List Char}
    (member : c ∈ cs) (ordinary : separator c = false) :
    ∃ piece ∈ split separator cs, c ∈ piece := by
  induction cs with
  | nil => contradiction
  | cons d rest ih =>
    rw [split]
    split
    next separates =>
      have later : c ∈ rest := by
        rcases List.mem_cons.mp member with rfl | later
        · rw [ordinary] at separates
          contradiction
        · exact later
      obtain ⟨piece, among, inside⟩ := ih later
      exact ⟨piece, List.mem_cons_of_mem _ among, inside⟩
    · rcases List.mem_cons.mp member with rfl | later
      · split <;> exact ⟨_, List.mem_cons_self, List.mem_cons_self⟩
      · obtain ⟨piece, among, inside⟩ := ih later
        split
        next empty => simp [empty] at among
        next first others pieces =>
          rw [pieces] at among
          rcases List.mem_cons.mp among with rfl | further
          · exact ⟨_, List.mem_cons_self, List.mem_cons_of_mem _ inside⟩
          · exact ⟨piece, List.mem_cons_of_mem _ further, inside⟩

/-- The characters of field paths. -/
def isPathPart (c : Char) : Bool := isIdentPart c || c == '.'

theorem isPathPart_of_mem {path : String} (valid : isFieldPath path = true) :
    ∀ c ∈ path.toList, isPathPart c = true := by
  intro c member
  rw [isPathPart, Bool.or_eq_true]
  cases dot : c == '.' with
  | true => exact .inr rfl
  | false =>
    obtain ⟨piece, among, inside⟩ : ∃ piece ∈ split (· == '.') path.toList, c ∈ piece :=
      Text.exists_piece_of_mem member dot
    have name : isIdentChars piece = true := List.all_eq_true.mp valid piece among
    refine .inl (RecordId.isIdentPart_of_mem ⟨String.ofList piece, ?_⟩ c ?_)
    · rwa [isIdentifier, String.toList_ofList]
    · simpa using inside

theorem isPlain_of_isPathPart {c : Char} (part : isPathPart c = true) : isPlain c = true := by
  refine decide_eq_true fun special => ?_
  simp only [List.mem_cons, List.not_mem_nil, or_false] at special
  rcases special with rfl | rfl | rfl | rfl | rfl | rfl <;>
    simp [isPathPart, isIdentPart] at part

theorem Operator.sealed_symbol (op : Operator) : Sealed op.symbol :=
  sealed_of_plain (by cases op <;> simp [symbol, isPlain])

/-- No comparing operator goes on as another one, up to the blank behind it. -/
theorem Operator.symbol_append_inj {op op' : Operator} (compares : op.compares = true)
    (compares' : op'.compares = true) {rest rest' : List Char}
    (same : op.symbol.toList ++ ' ' :: rest = op'.symbol.toList ++ ' ' :: rest') :
    op = op' ∧ rest = rest' := by
  cases op <;> cases op' <;> simp_all [symbol, Operator.compares]

namespace Condition

/-! ## Conditions and readers -/

theorem WrittenComparison.sealed_text (w : WrittenComparison) :
    Sealed (Term.comparison w).text := by
  have key : Sealed w.comparison.key :=
    sealed_of_plain fun c member => isPlain_of_isPathPart (isPathPart_of_mem w.path c member)
  have blank : Sealed " " := sealed_of_plain (by simp [isPlain])
  have literal : Sealed w.literal :=
    FilterValue.literal_eq_ok _ w.written ▸ FilterValue.sealed_spelling _
  exact (((key.append blank).append (Operator.sealed_symbol _)).append blank).append literal

mutual
theorem Term.sealed_text : (t : Term) → Sealed t.text
  | .comparison w => w.sealed_text
  | .group inner => inner.sealed_text.enclosed rfl rfl (by decide)
theorem Chain.sealed_text : (c : Chain) → Sealed c.text
  | .last t => t.sealed_text
  | .and t rest =>
    (t.sealed_text.append (sealed_of_plain (by simp [isPlain]))).append rest.sealed_text
  | .or t rest =>
    (t.sealed_text.append (sealed_of_plain (by simp [isPlain]))).append rest.sealed_text
end

/-! ## Conditions told apart -/

/-- A comparison that has a literal has one only. -/
theorem WrittenComparison.eq_of_comparison_eq {w w' : WrittenComparison}
    (same : w.comparison = w'.comparison) : w = w' := by
  obtain ⟨comparison, literal, path, compares, written⟩ := w
  obtain ⟨comparison', literal', path', compares', written'⟩ := w'
  obtain rfl : comparison = comparison' := same
  obtain rfl : literal = literal' := Except.ok.inj (written.symm.trans written')
  rfl

/-- A comparison from its parts, each followed by what breaks it off. -/
theorem WrittenComparison.text_append_inj {w w' : WrittenComparison}
    (apart : FilterValue.TellApart w.comparison.value.instants w'.comparison.value.instants)
    {rest rest' : List Char} (breaks : Breaks isScalarPart rest)
    (breaks' : Breaks isScalarPart rest')
    (same : (Term.comparison w).text.toList ++ rest = (Term.comparison w').text.toList ++ rest') :
    w = w' ∧ rest = rest' := by
  have blank (rest : List Char) : Breaks isPathPart (" ".toList ++ rest) := by
    rintro c ⟨⟩
    rfl
  simp only [Term.text, String.toList_append, List.append_assoc] at same
  obtain ⟨keys, behindKey⟩ := append_inj_of_breaks (isPathPart_of_mem w.path)
    (isPathPart_of_mem w'.path) (blank _) (blank _) same
  obtain ⟨ops, behindOp⟩ := Operator.symbol_append_inj w.compares w'.compares
    (List.append_cancel_left behindKey)
  rw [← FilterValue.literal_eq_ok _ w.written, ← FilterValue.literal_eq_ok _ w'.written] at behindOp
  obtain ⟨values, rests⟩ := FilterValue.spelling_append_inj _ _ apart _ _ breaks breaks' behindOp
  refine ⟨eq_of_comparison_eq ?_, rests⟩
  obtain ⟨⟨key, op, value⟩, literal, path, compares, written⟩ := w
  obtain ⟨⟨key', op', value'⟩, literal', path', compares', written'⟩ := w'
  obtain rfl : key = key' := String.toList_inj.mp keys
  obtain rfl : op = op' := ops
  obtain rfl : value = value' := values
  rfl

/-- No field path begins as a group. -/
theorem comparison_append_ne_group (w : WrittenComparison) (inner : Chain)
    (rest rest' : List Char) :
    (Term.comparison w).text.toList ++ rest ≠ (Term.group inner).text.toList ++ rest' := by
  intro same
  have blank (rest : List Char) : Breaks isPathPart (" ".toList ++ rest) := by
    rintro c ⟨⟩
    rfl
  have opening (rest : List Char) : Breaks isPathPart ("(".toList ++ rest) := by
    rintro c ⟨⟩
    rfl
  have empty : ∀ c ∈ ([] : List Char), isPathPart c = true := nofun
  simp only [Term.text, String.toList_append, List.append_assoc] at same
  obtain ⟨-, behind⟩ :=
    append_inj_of_breaks (isPathPart_of_mem w.path) empty (blank _) (opening _) same
  exact absurd (List.cons.inj behind).1 (by decide)

namespace Chain

/-- The first term of a chain, and what follows it. -/
def first : Chain → Term
  | .last t | .and t _ | .or t _ => t
def behind (rest : List Char) : Chain → List Char
  | .last _ => rest
  | .and _ others => " AND ".toList ++ (others.text.toList ++ rest)
  | .or _ others => " OR ".toList ++ (others.text.toList ++ rest)

theorem toList_text (c : Chain) (rest : List Char) :
    c.text.toList ++ rest = c.first.text.toList ++ c.behind rest := by
  cases c <;> simp [text, first, behind]

theorem breaks_behind (c : Chain) {rest : List Char} (ends : Breaks (· != ')') rest) :
    Breaks isScalarPart (c.behind rest) := by
  cases c with
  | last t => exact ends.mono fun c part => bne_of_outside part (by decide)
  | and t others => exact Stops.breaks ⟨' ', rfl, by decide⟩ _
  | or t others => exact Stops.breaks ⟨' ', rfl, by decide⟩ _

/-- Neither the end of a chain nor the closing parenthesis behind it is a joiner. -/
theorem ne_joiner {rest : List Char} (ends : Breaks (· != ')') rest) {joiner : String}
    (blank : Starts (· != ')') joiner) (others : List Char) : rest ≠ joiner.toList ++ others := by
  rintro rfl
  exact blank.not_breaks others ends

def instants (c : Chain) : List Instant := FilterValue.instantsIn c.values

theorem instants_eq (c : Chain) : c.instants = FilterValue.instantsIn c.first.values ++
    match c with
    | .last _ => []
    | .and _ others | .or _ others => others.instants := by
  cases c <;> simp [instants, values, first, FilterValue.instantsIn_append]

end Chain

mutual
/-- A term, followed by what breaks it off, is not another term followed by what breaks that off,
where timestamps tell the instants in them apart. -/
theorem Term.append_inj : (t : Term) → ∀ t',
    FilterValue.TellApart (FilterValue.instantsIn t.values) (FilterValue.instantsIn t'.values) →
    ∀ rest rest', Breaks isScalarPart rest → Breaks isScalarPart rest' →
      t.text.toList ++ rest = t'.text.toList ++ rest' → t = t' ∧ rest = rest'
  | .comparison w => by
    intro t' apart rest rest' breaks breaks' same
    cases t' with
    | comparison w' =>
      simp only [Term.values, FilterValue.instantsIn, List.append_nil] at apart
      obtain ⟨rfl, rests⟩ := WrittenComparison.text_append_inj apart breaks breaks' same
      exact ⟨rfl, rests⟩
    | group inner' => exact absurd same (comparison_append_ne_group w inner' rest rest')
  | .group inner => by
    intro t' apart rest rest' breaks breaks' same
    cases t' with
    | comparison w' => exact absurd same.symm (comparison_append_ne_group w' inner rest' rest)
    | group inner' =>
      have closing (rest : List Char) : Breaks (· != ')') (")".toList ++ rest) := by
        rintro c ⟨⟩
        rfl
      simp only [Term.text, String.toList_append, List.append_assoc] at same
      obtain ⟨rfl, behind⟩ := Chain.append_inj inner inner' apart _ _ (closing rest) (closing rest')
        (List.append_cancel_left same)
      exact ⟨rfl, List.append_cancel_left behind⟩
/-- A chain, up to its end or to the closing parenthesis behind it. -/
theorem Chain.append_inj : (c : Chain) → ∀ c', FilterValue.TellApart c.instants c'.instants →
    ∀ rest rest', Breaks (· != ')') rest → Breaks (· != ')') rest' →
      c.text.toList ++ rest = c'.text.toList ++ rest' → c = c' ∧ rest = rest'
  -- the first terms are the same, and then a blank tells a joiner from the end of a chain, and the
  -- letter behind it one joiner from the other
  | .last t => by
    intro c' apart rest rest' ends ends' same
    rw [Chain.instants_eq, Chain.instants_eq] at apart
    rw [Chain.toList_text, Chain.toList_text] at same
    obtain ⟨rfl, behind⟩ := Term.append_inj t c'.first apart.of_append.1 _ _
      (Chain.breaks_behind (.last t) ends) (c'.breaks_behind ends') same
    cases c' with
    | last t' => exact ⟨rfl, behind⟩
    | and t' others' => exact absurd behind (Chain.ne_joiner ends ⟨' ', rfl, rfl⟩ _)
    | or t' others' => exact absurd behind (Chain.ne_joiner ends ⟨' ', rfl, rfl⟩ _)
  | .and t others => by
    intro c' apart rest rest' ends ends' same
    rw [Chain.instants_eq, Chain.instants_eq] at apart
    rw [Chain.toList_text, Chain.toList_text] at same
    obtain ⟨rfl, behind⟩ := Term.append_inj t c'.first apart.of_append.1 _ _
      (Chain.breaks_behind (.and t others) ends) (c'.breaks_behind ends') same
    cases c' with
    | last t' => exact absurd behind.symm (Chain.ne_joiner ends' ⟨' ', rfl, rfl⟩ _)
    | and t' others' =>
      obtain ⟨rfl, rests⟩ := Chain.append_inj others others' apart.of_append.2 rest rest' ends ends'
        (List.append_cancel_left behind)
      exact ⟨rfl, rests⟩
    | or t' others' => exact absurd (List.cons.inj (List.cons.inj behind).2).1 (by decide)
  | .or t others => by
    intro c' apart rest rest' ends ends' same
    rw [Chain.instants_eq, Chain.instants_eq] at apart
    rw [Chain.toList_text, Chain.toList_text] at same
    obtain ⟨rfl, behind⟩ := Term.append_inj t c'.first apart.of_append.1 _ _
      (Chain.breaks_behind (.or t others) ends) (c'.breaks_behind ends') same
    cases c' with
    | last t' => exact absurd behind.symm (Chain.ne_joiner ends' ⟨' ', rfl, rfl⟩ _)
    | and t' others' => exact absurd (List.cons.inj (List.cons.inj behind).2).1 (by decide)
    | or t' others' =>
      obtain ⟨rfl, rests⟩ := Chain.append_inj others others' apart.of_append.2 rest rest' ends ends'
        (List.append_cancel_left behind)
      exact ⟨rfl, rests⟩
end

end Condition

/-! ## Filters and their conditions -/

/-- The text of a condition leaves a reader as he entered it. -/
theorem Filter.sealed_of_condition {f : Filter} {text : String} (written : f.condition = .ok text) :
    Sealed text := by
  obtain ⟨c, rfl, -⟩ := f.describes written
  exact c.sealed_text

/-- The instants in a filter. -/
def Filter.instants (f : Filter) : List Instant := FilterValue.instantsIn f.values

/-- Filters with one condition match the same records, where distinct instants in them have distinct
timestamps. -/
theorem matches_eq_of_condition_eq {f g : Filter} {text : String} (left : f.condition = .ok text)
    (right : g.condition = .ok text)
    (apart : ∀ t ∈ f.instants, ∀ t' ∈ g.instants, t.text = t'.text → t = t') (record : Fields) :
    f.matches record = g.matches record := by
  obtain ⟨c, spelled, describes⟩ := f.describes left
  obtain ⟨c', spelled', describes'⟩ := g.describes right
  have instants : FilterValue.TellApart c.instants c'.instants := by
    rw [Condition.Chain.instants, Condition.Chain.instants, ← describes.values, ← describes'.values]
    exact apart
  obtain ⟨rfl, -⟩ := c.append_inj c' instants [] [] (breaks_nil _) (breaks_nil _)
    (by rw [spelled, spelled'])
  rw [describes.holds, describes'.holds]

/-- Another association, and a negation in the place of the opposite comparison. -/
theorem reassociated_matches_eq :
    let named := FilterValue.text "it's ) OR 1 = 1"
    let seen := Filter.comparison .gte "IN" (.instant ⟨0, 0⟩)
    let kind := Filter.comparison .isIn "AND.kind" (.list [.text "]", .int 1, .bool true])
    let f := Filter.disjunction (.conjunction (.negation (.comparison .eq "NOT" named)) seen) kind
    let g := Filter.conjunction (.comparison .ne "NOT" named) (.disjunction seen kind)
    let text := "NOT != 'it\\'s ) OR 1 = 1' AND IN >= d'1970-01-01T00:00:00Z' OR " ++
      "AND.kind IN [']',1,true]"
    f.condition = .ok text ∧ g.condition = .ok text ∧
      (∀ t ∈ f.instants, ∀ t' ∈ g.instants, t.text = t'.text → t = t') ∧
      ∀ record, f.matches record = g.matches record := by
  intro named seen kind f g text
  have left : f.condition = .ok text := rfl
  have right : g.condition = .ok text := rfl
  have apart : ∀ t ∈ f.instants, ∀ t' ∈ g.instants, t.text = t'.text → t = t' := by
    intro t member t' member' _
    rw [List.mem_singleton.mp member, List.mem_singleton.mp member']
  exact ⟨left, right, apart, matches_eq_of_condition_eq left right apart⟩

end VectorStore
