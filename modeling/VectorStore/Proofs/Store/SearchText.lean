import VectorStore.Proofs.Filter.Spelling
import VectorStore.Proofs.Store.Search

/-!
The text of a search. No key and no value of its filter gets out of the place where the condition
stands: a reader of the query meets the semicolons behind the two statements and no other, finds
every bracket closed, and closes the parentheses around the condition behind it
(`Store.scansAsWritten_of_vectorQuery`).
-/
namespace VectorStore
open Text

/-! ## Statements and readers -/

theorem Ident.sealed_text (name : Ident) : Sealed name.text := by
  refine sealed_of_plain fun c member => isPlain_of_isPathPart ?_
  rw [isPathPart, RecordId.isIdentPart_of_mem name c member, Bool.true_or]

theorem Ident.sealed_parameter (name : Ident) : Sealed name.parameter :=
  (sealed_of_plain (by simp [isPlain])).append name.sealed_text

theorem sealed_naturalText (n : Nat) : Sealed (naturalText n) := by
  refine sealed_of_plain fun c member => FilterValue.isPlain_of_isScalarPart ?_
  rw [naturalText, String.toList_ofList] at member
  exact isScalarPart_of_isDigit (isDigit_of_mem_toDigits member)

theorem sealed_vectorLiteral (v : Embedding) : Sealed (vectorLiteral v) := by
  refine (Sealed.joined (sealed_of_plain (by simp [isPlain])) fun text member => ?_).enclosed
    rfl rfl (by decide)
  obtain ⟨x, -, rfl⟩ := List.mem_map.mp member
  exact sealed_of_plain fun c inside =>
    FilterValue.isPlain_of_isScalarPart (isScalarPart_of_mem_single .bare x c inside)

theorem Statement.sealed_bind (param : Ident) (v : Embedding) : Sealed (bind param v).text :=
  (((sealed_of_plain (by simp [isPlain])).append param.sealed_parameter).append
    (sealed_of_plain (by simp [isPlain]))).append (sealed_vectorLiteral v)

/-- A name, if any, before a text in parentheses. -/
theorem sealed_call {name inner : String} (plain : ∀ c ∈ name.toList, isPlain c = true)
    (sealed : Sealed inner) : Sealed (name ++ ("(" ++ inner ++ ")")) :=
  (sealed_of_plain plain).append (sealed.enclosed rfl rfl (by decide))

theorem Score.sealed_text (s : Score) : Sealed s.text := by
  have separator : Sealed ", " := sealed_of_plain (by simp [isPlain])
  have empty : Sealed "" := sealed_of_plain (by simp)
  have knn : Sealed ("vector::distance::knn" ++ ("(" ++ "" ++ ")")) :=
    sealed_call (by simp [isPlain]) empty
  cases s with
  | cosine field param =>
    have arguments : Sealed (field.text ++ ", " ++ param.parameter) :=
      (field.sealed_text.append separator).append param.sealed_parameter
    have cosine : Sealed ("vector::similarity::cosine" ++
        ("(" ++ (field.text ++ ", " ++ param.parameter) ++ ")")) :=
      sealed_call (by simp [isPlain]) arguments
    have opening : "vector::similarity::cosine(" = "vector::similarity::cosine" ++ "(" := rfl
    change Sealed ("vector::similarity::cosine(" ++ field.text ++ ", " ++ param.parameter ++ ")")
    rw [opening]
    simp only [String.append_assoc] at cosine ⊢
    exact cosine
  | inverseDistance =>
    have sum : Sealed ("1 + " ++ ("vector::distance::knn" ++ ("(" ++ "" ++ ")"))) :=
      (sealed_of_plain (by simp [isPlain])).append knn
    have inverse : Sealed ("1 / " ++
        ("(" ++ ("1 + " ++ ("vector::distance::knn" ++ ("(" ++ "" ++ ")"))) ++ ")")) :=
      sealed_call (by simp [isPlain]) sum
    exact inverse
  | distance => exact knn

theorem Projection.sealed_text (p : Projection) : Sealed p.text := by
  cases p with
  | all => exact sealed_of_plain (by simp [Projection.text, isPlain])
  | field name => exact name.sealed_text
  | score s column =>
    exact (s.sealed_text.append (sealed_of_plain (by simp [isPlain]))).append column.sealed_text

theorem sealed_optionalClause {α : Type} {lead : String} {text : α → String} {clause : Option α}
    (plain : ∀ c ∈ lead.toList, isPlain c = true) (sealed : ∀ a ∈ clause, Sealed (text a)) :
    Sealed (optionalClause lead text clause) := by
  cases clause with
  | none => exact sealed_of_plain (by simp [optionalClause])
  | some a => exact (sealed_of_plain plain).append (sealed a rfl)

theorem Nearest.sealed_text (n : Nearest) : Sealed n.text := by
  obtain ⟨field, count, breadth, param⟩ := n
  have opening : Sealed " <|" := sealed_of_plain (by simp [isPlain])
  have closing : Sealed "|> " := sealed_of_plain (by simp [isPlain])
  have front := (field.sealed_text.append opening).append (sealed_naturalText count)
  cases breadth with
  | none =>
    have empty : Sealed "" := sealed_of_plain (by simp)
    exact ((front.append empty).append closing).append param.sealed_parameter
  | some width =>
    have comma : Sealed "," := sealed_of_plain (by simp [isPlain])
    have listed := comma.append (sealed_naturalText width)
    exact ((front.append listed).append closing).append param.sealed_parameter

theorem WhereClause.sealed_text {w : WhereClause} (filter : ∀ f ∈ w.filter, Sealed f.text) :
    Sealed w.text := by
  have joiner : Sealed " AND " := sealed_of_plain (by simp [isPlain])
  obtain ⟨nearest, written⟩ := w
  cases nearest with
  | none =>
    cases written with
    | none => exact sealed_of_plain (by simp [WhereClause.text, isPlain])
    | some f => exact (filter f rfl).enclosed rfl rfl (by decide)
  | some n =>
    cases written with
    | none => exact n.sealed_text
    | some f =>
      have group : Sealed ("(" ++ f.text ++ ")") := (filter f rfl).enclosed rfl rfl (by decide)
      have spelled : n.text ++ " AND (" ++ f.text ++ ")" =
          n.text ++ " AND " ++ ("(" ++ f.text ++ ")") := by
        rw [show " AND (" = " AND " ++ "(" from rfl]
        simp only [String.append_assoc]
      change Sealed (n.text ++ " AND (" ++ f.text ++ ")")
      rw [spelled]
      exact (n.sealed_text.append joiner).append group

theorem OrderBy.sealed_text (o : OrderBy) : Sealed o.text := by
  refine o.field.sealed_text.append ?_
  split <;> exact sealed_of_plain (by simp [isPlain])

/-- A selection up to its conditions. -/
def Selection.head (s : Selection) : String :=
  "SELECT " ++ joinWith ", " (s.projections.map Projection.text) ++
    (if s.omitted.isEmpty then "" else " OMIT " ++ joinWith ", " (s.omitted.map Ident.text)) ++
    " FROM " ++ s.table.text

theorem Selection.sealed_head (s : Selection) : Sealed s.head := by
  have comma : Sealed ", " := sealed_of_plain (by simp [isPlain])
  have select : Sealed "SELECT " := sealed_of_plain (by simp [isPlain])
  have source : Sealed " FROM " := sealed_of_plain (by simp [isPlain])
  have columns : Sealed (joinWith ", " (s.projections.map Projection.text)) :=
    comma.joined fun text member => by
      obtain ⟨p, -, rfl⟩ := List.mem_map.mp member
      exact p.sealed_text
  have omitted : Sealed
      (if s.omitted.isEmpty then "" else " OMIT " ++ joinWith ", " (s.omitted.map Ident.text)) := by
    split
    · exact sealed_of_plain (by simp)
    · refine (sealed_of_plain (by simp [isPlain])).append (comma.joined fun text member => ?_)
      obtain ⟨name, -, rfl⟩ := List.mem_map.mp member
      exact name.sealed_text
  exact (((select.append columns).append omitted).append source).append s.table.sealed_text

theorem Selection.sealed_text {s : Selection}
    (filter : ∀ w ∈ s.condition, ∀ f ∈ w.filter, Sealed f.text) : Sealed s.text := by
  have condition : Sealed (optionalClause " WHERE " WhereClause.text s.condition) :=
    sealed_optionalClause (by simp [isPlain]) fun w member =>
      WhereClause.sealed_text (filter w member)
  have order : Sealed (optionalClause " ORDER BY " OrderBy.text s.orderBy) :=
    sealed_optionalClause (by simp [isPlain]) fun o _ => o.sealed_text
  have limit : Sealed (optionalClause " LIMIT " naturalText s.limit) :=
    sealed_optionalClause (by simp [isPlain]) fun n _ => sealed_naturalText n
  exact ((s.sealed_head.append condition).append order).append limit

/-- A selection with its filter set off. -/
theorem Selection.exists_text_of_filter {s : Selection} {n : Nearest} {f : WrittenFilter}
    (condition : s.condition = some ⟨some n, some f⟩) : ∃ front, Sealed front ∧
      s.text = front ++ " AND (" ++ f.text ++ ")" ++ (optionalClause " ORDER BY " OrderBy.text
        s.orderBy ++ optionalClause " LIMIT " naturalText s.limit) := by
  have keyword : Sealed " WHERE " := sealed_of_plain (by simp [isPlain])
  refine ⟨s.head ++ " WHERE " ++ n.text, (s.sealed_head.append keyword).append n.sealed_text, ?_⟩
  rw [Selection.text, condition]
  simp only [Selection.head, optionalClause, WhereClause.text, String.append_assoc]

namespace Store

theorem exists_condition_of_writtenFilter {s : Store} (default : s.writeFilter = Filter.condition)
    {f : Filter} {written : Option WrittenFilter}
    (writes : s.writtenFilter (some f) = .ok written) :
    ∃ condition, f.condition = .ok condition ∧ written = some ⟨f, condition⟩ := by
  rw [writtenFilter, default] at writes
  cases condition : f.condition with
  | error e => simp [condition, Except.map] at writes
  | ok text =>
    rw [condition] at writes
    exact ⟨text, rfl, (Except.ok.inj writes).symm⟩

theorem sealed_writtenFilter {s : Store} (default : s.writeFilter = Filter.condition)
    {filter : Option Filter} {written : Option WrittenFilter}
    (writes : s.writtenFilter filter = .ok written) : ∀ f ∈ written, Sealed f.text := by
  cases filter with
  | none =>
    obtain rfl := Except.ok.inj writes
    exact nofun
  | some f =>
    obtain ⟨text, condition, rfl⟩ := exists_condition_of_writtenFilter default writes
    rintro _ ⟨⟩
    exact Filter.sealed_of_condition condition

/-- A reader of two statements meets the semicolons that end them. -/
theorem scan_text_pair {s t : Statement} (first : Sealed s.text) (second : Sealed t.text) :
    Place.outside.behind (Query.text [s, t]).toList = .outside ∧
      brackets [] (Place.outside.bare (Query.text [s, t]).toList) = some [] ∧
        ∀ i, MeetsAt (Query.text [s, t]).toList ';' i ↔
          i = s.text.length ∨ i = (s.text ++ ";\n" ++ t.text).length := by
  have second' : Sealed ("\n" ++ t.text) := (sealed_of_plain (by simp [isPlain])).append second
  have lines : (Query.text [s, t]).toList =
      s.text.toList ++ [';'] ++ (("\n" ++ t.text).toList ++ [';'] ++ []) := by
    simp [Query.text, joinWith]
  obtain ⟨place, due⟩ := first.behind_line (("\n" ++ t.text).toList ++ [';'] ++ [])
  obtain ⟨place', due'⟩ := second'.behind_line []
  rw [lines]
  refine ⟨place.trans place', due.trans due', fun i => ?_⟩
  have nothing (j : Nat) : ¬ MeetsAt [] ';' j := by
    rintro ⟨found, -⟩
    simp at found
  simp only [first.meetsAt_iff, second'.meetsAt_iff, nothing, and_false, exists_false, or_false,
    exists_eq_right, String.length_toList, String.length_append]
  have length : ";\n".length = 2 ∧ "\n".length = 1 := ⟨rfl, rfl⟩
  omega

/-- A reader closes the parentheses around the condition of a filter right behind it. -/
theorem closedAt_condition {s t : Statement} {front condition back : String}
    (first : Sealed s.text) (head : Sealed front) (sealed : Sealed condition)
    (split : t.text = front ++ " AND (" ++ condition ++ ")" ++ back) (j : Nat) :
    ClosedAt (Query.text [s, t]).toList (s.text ++ ";\n" ++ front ++ " AND ").length j ↔
      j = (s.text ++ ";\n" ++ front ++ " AND (" ++ condition).length := by
  have before : Sealed ("\n" ++ front ++ " AND ") :=
    ((sealed_of_plain (by simp [isPlain])).append head).append (sealed_of_plain (by simp [isPlain]))
  have opening : (s.text ++ ";\n" ++ front ++ " AND ").toList =
      s.text.toList ++ [';'] ++ ("\n" ++ front ++ " AND ").toList := by simp
  have whole : (Query.text [s, t]).toList = (s.text ++ ";\n" ++ front ++ " AND ").toList ++
      '(' :: (condition.toList ++ ')' :: (back ++ ";").toList) := by
    simp [Query.text, joinWith, split]
  obtain ⟨place, due⟩ := first.behind_line ("\n" ++ front ++ " AND ").toList
  rw [whole, ← String.length_toList (s := s.text ++ ";\n" ++ front ++ " AND "),
    Sealed.closedAt_iff sealed (by rw [opening, place, before.place])
      (by rw [opening, due, before.brackets])]
  simp only [String.length_toList, String.length_append]
  have length : " AND ".length = 5 ∧ " AND (".length = 6 := ⟨rfl, rfl⟩
  omega

/-- What a reader finds in the text of a search for a vector. -/
structure ScansAsWritten (v : Embedding) (r : SearchRequest) (text : String) : Prop where
  /-- The reader ends outside strings. -/
  place : Place.outside.behind text.toList = .outside
  /-- Every bracket that opens is closed, and no other one closes. -/
  brackets : brackets [] (Place.outside.bare text.toList) = some []
  /-- Of semicolons there are the one behind the `LET` and the one at the end. -/
  semicolons : ∃ select, text = (Statement.bind queryParam v).text ++ ";\n" ++ select ++ ";" ∧
    ∀ i, MeetsAt text.toList ';' i ↔ i = (Statement.bind queryParam v).text.length ∨
      i = ((Statement.bind queryParam v).text ++ ";\n" ++ select).length
  /-- The parentheses around the condition of the filter are closed right behind it. -/
  condition : ∀ f, r.filter = some f → ∃ front condition, f.condition = .ok condition ∧
    text = front ++ " AND (" ++ condition ++ ") ORDER BY __score DESC LIMIT " ++
      naturalText r.topK ++ ";" ∧
    ∀ j, ClosedAt text.toList (front ++ " AND ").length j ↔
      j = (front ++ " AND (" ++ condition).length

/-- The query of a search scans as it was put together, whatever its filter holds. -/
theorem scansAsWritten_of_vectorQuery {s : Store} (default : s.writeFilter = Filter.condition)
    {v : Embedding} {r : SearchRequest} {q : Query} (accepted : s.vectorQuery v r = .ok q) :
    ScansAsWritten v r q.text := by
  obtain ⟨-, -, written, writes, rfl⟩ := vectorQuery_eq_ok accepted
  have bound := Statement.sealed_bind queryParam v
  have selected : Sealed (Statement.select (s.selection r.topK written)).text := by
    refine Selection.sealed_text ?_
    rintro _ ⟨⟩
    exact sealed_writtenFilter default writes
  obtain ⟨place, due, semicolons⟩ := scan_text_pair bound selected
  refine ⟨place, due, ⟨_, ?_, semicolons⟩, ?_⟩
  · simp [Query.text, joinWith, String.append_assoc]
  · intro f filtered
    rw [filtered] at writes
    obtain ⟨condition, converted, rfl⟩ := exists_condition_of_writtenFilter default writes
    obtain ⟨front, head, split⟩ :=
      (s.selection r.topK (some ⟨f, condition⟩)).exists_text_of_filter rfl
    refine ⟨(Statement.bind queryParam v).text ++ ";\n" ++ front, condition, converted, ?_,
      closedAt_condition bound head (Filter.sealed_of_condition converted) split⟩
    have order : optionalClause " ORDER BY " OrderBy.text
        (s.selection r.topK (some ⟨f, condition⟩)).orderBy = " ORDER BY __score DESC" := rfl
    have limit : optionalClause " LIMIT " naturalText
        (s.selection r.topK (some ⟨f, condition⟩)).limit = " LIMIT " ++ naturalText r.topK := rfl
    have behind : ") ORDER BY __score DESC LIMIT " =
      ")" ++ (" ORDER BY __score DESC" ++ " LIMIT ") := rfl
    have line : ";\n" = ";" ++ "\n" := rfl
    rw [order, limit] at split
    simp only [Query.text, List.map_cons, List.map_nil, joinWith, Statement.text]
    rw [split, behind, line]
    simp only [String.append_assoc]

/-- A request whose filter holds the ends of a string, of a list, of a condition and of a query. -/
def hostileRequest : SearchRequest :=
  ⟨"", 3, SearchRequest.acceptAll, some (.disjunctionGroup
    (.negation (.comparison .eq "title" (.text "') OR true); DELETE docs; --")))
    (.comparison .isIn "AND.tags" (.list [.text "\\", .text "])';", .instant ⟨0, 0⟩])))⟩

theorem scansAsWritten_hostileRequest :
    planeStore.writeFilter = Filter.condition ∧
      ∃ q, planeStore.vectorQuery [0.0, 1.0] hostileRequest = .ok q ∧
        ScansAsWritten [0.0, 1.0] hostileRequest q.text :=
  ⟨rfl, _, rfl, scansAsWritten_of_vectorQuery (s := planeStore) rfl rfl⟩

end Store

end VectorStore
