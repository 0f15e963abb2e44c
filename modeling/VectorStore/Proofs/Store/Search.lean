import VectorStore.Proofs.Filter.Chain
import VectorStore.Proofs.Store.Rows

/-!
Searches of a store over a database in memory. The answer to a search is the list of the live
documents that satisfy the filter, the nearest of them only, best score first
(`Store.searchVector_eq_nearest_live`).
-/
namespace VectorStore

/-- Whether a record satisfies the filter of a request, if there is one. -/
def satisfies (record : Fields) : Option Filter → Bool
  | none => true
  | some f =>
    match f.matches record with
    | .ok holds => holds
    | .error _ => false

namespace Hit

/-- Whether a document is nearer to the query than another; of two at the same distance the one
with the lesser id is. -/
def nearer (a b : Hit) : Bool :=
  a.distance < b.distance || !decide (b.distance < a.distance) && a.document.id < b.document.id

/-- Whether a document has the greater score; a score of `0.0` is above one of `-0.0`. -/
def scoresAbove (a b : Hit) : Bool :=
  b.score < a.score || b.score == a.score && doubleNegative b.score && !doubleNegative a.score

/-- Whether a document comes before another in the answer to a search. -/
def before (a b : Hit) : Bool := a.scoresAbove b || !b.scoresAbove a && a.nearer b

/-- Whether a document reaches the threshold of a request, if there is one. -/
def reaches (threshold : Float) (h : Hit) : Bool :=
  !decide (threshold > SearchRequest.acceptAll) || threshold ≤ h.score

end Hit

/-- The live documents that satisfy a filter, measured against a query, by id. -/
def Store.candidates (s : Store) (live : SortedMap StoredDocument) (query : Embedding)
    (filter : Option Filter) : List Hit :=
  (live.values.filter fun e => satisfies (s.record e) filter).map (s.hit query)

/-! ## The order of hits -/

section
variable {a b : Hit}

theorem Hit.nearer_iff (left : Store.Measured a) (right : Store.Measured b) :
    a.nearer b = true ↔ totalKey a.distance < totalKey b.distance ∨
      (totalKey a.distance ≤ totalKey b.distance ∧ a.document.id < b.document.id) := by
  have less := totalKey_lt_iff_lt left.distance right.distance left.plain
  have greater := totalKey_lt_iff_lt right.distance left.distance right.plain
  simp only [nearer, Bool.or_eq_true, Bool.and_eq_true, decide_eq_true_eq, Bool.not_eq_true',
    decide_eq_false_iff_not, ← less, ← greater, Int.not_lt]

theorem Hit.scoresAbove_iff (left : Store.Measured a) (right : Store.Measured b) :
    a.scoresAbove b = true ↔ totalKey b.score < totalKey a.score := by
  rw [totalKey_lt_iff right.score left.score]
  simp [scoresAbove, and_assoc]

theorem Hit.nearer_irreflexive (measured : Store.Measured a) : a.nearer a = false := by
  rw [Bool.eq_false_iff, ne_eq, nearer_iff measured measured]
  rintro (less | ⟨-, less⟩)
  · omega
  · exact String.lt_irrefl _ less

/-- What stands earlier by distance, ties by id, is nearer. -/
theorem Hit.nearer_of_sorted (left : Store.Measured a) (right : Store.Measured b)
    (ordered : totalKey a.distance ≤ totalKey b.distance)
    (ties : totalKey b.distance ≤ totalKey a.distance → a.document.id < b.document.id) :
    a.nearer b = true ∧ b.nearer a = false := by
  rw [Bool.eq_false_iff, ne_eq, nearer_iff left right, nearer_iff right left]
  by_cases tie : totalKey b.distance ≤ totalKey a.distance
  · refine ⟨.inr ⟨ordered, ties tie⟩, ?_⟩
    rintro (less | ⟨-, less⟩)
    · omega
    · exact String.lt_irrefl _ (String.lt_trans less (ties tie))
  · exact ⟨.inl (by omega), by omega⟩

end

namespace Database

theorem length_nearest_le {db : Database} {table : Ident} {n : Nearest} {query : List Float}
    {records : List Fields} : (db.nearest table n query records).length ≤ n.count := by
  rw [nearest]
  dsimp only
  rw [List.length_map]
  exact List.length_take_le ..

theorem outputRows_of_forall {bindings : Bindings} {sel : Selection} {f : Candidate → Fields} :
    {rows : List Candidate} → (∀ row ∈ rows, outputRow bindings sel row = .ok (f row)) →
      outputRows bindings sel rows = .ok (rows.map f)
  | [], _ => rfl
  | row :: rest, each => by
    obtain ⟨first, later⟩ := List.forall_mem_cons.mp each
    rw [outputRows, first, outputRows_of_forall later]
    rfl

end Database

namespace Store

variable {s : Store} {query : Embedding} {kept : List StoredDocument}

/-- The first documents by distance. -/
def nearest (s : Store) (query : Embedding) (count : Nat) (kept : List StoredDocument) :
    List StoredDocument :=
  (kept.mergeSort fun a b =>
    totalKey (s.hit query a).distance ≤ totalKey (s.hit query b).distance).take count

/-- The first documents by distance, sorted by score. -/
def ranking (s : Store) (query : Embedding) (count : Nat) (kept : List StoredDocument) :
    List StoredDocument :=
  (s.nearest query count kept).mergeSort fun a b =>
    totalKey (s.hit query b).score ≤ totalKey (s.hit query a).score

theorem mem_of_mem_nearest {count : Nat} {e : StoredDocument}
    (member : e ∈ s.nearest query count kept) : e ∈ kept :=
  (List.mergeSort_perm ..).mem_iff.mp (List.mem_of_mem_take member)

theorem mem_of_mem_ranking {count : Nat} {e : StoredDocument}
    (member : e ∈ s.ranking query count kept) : e ∈ kept :=
  mem_of_mem_nearest ((List.mergeSort_perm ..).mem_iff.mp member)

theorem length_ranking_le (count : Nat) : (s.ranking query count kept).length ≤ count := by
  rw [ranking, List.length_mergeSort, nearest, List.length_take]
  omega

/-- A sort by distance puts the nearer documents first. -/
theorem pairwise_nearer (measured : ∀ e ∈ kept, Measured (s.hit query e))
    (byId : kept.Pairwise fun a b => a.document.id < b.document.id) :
    (kept.mergeSort fun a b =>
      totalKey (s.hit query a).distance ≤ totalKey (s.hit query b).distance).Pairwise fun a b =>
        (s.hit query a).nearer (s.hit query b) = true ∧
          (s.hit query b).nearer (s.hit query a) = false := by
  have stable := pairwise_mergeSort_of_pairwise
    (r := fun a b => totalKey (s.hit query a).distance ≤ totalKey (s.hit query b).distance)
    (by intros; simp_all; omega) (by intros; simp; omega) byId
  refine stable.imp_of_mem fun {a b} inside inside' ⟨ordered, ties⟩ => ?_
  exact Hit.nearer_of_sorted (measured a ((List.mergeSort_perm ..).mem_iff.mp inside))
    (measured b ((List.mergeSort_perm ..).mem_iff.mp inside')) (by simpa using ordered)
    fun tie => ties (decide_eq_true tie)

/-- The ranking stands in the order of a search's answer. -/
theorem pairwise_before (measured : ∀ e ∈ kept, Measured (s.hit query e))
    (byId : kept.Pairwise fun a b => a.document.id < b.document.id) (count : Nat) :
    ((s.ranking query count kept).map (s.hit query)).Pairwise fun a b => a.before b = true := by
  have stable := pairwise_mergeSort_of_pairwise
    (r := fun a b => totalKey (s.hit query b).score ≤ totalKey (s.hit query a).score)
    (by intros; simp_all; omega) (by intros; simp; omega)
    ((pairwise_nearer measured byId).sublist (List.take_sublist count _))
  rw [List.pairwise_map]
  refine stable.imp_of_mem fun {a b} inside inside' ⟨ordered, ties⟩ => ?_
  have left := measured a (mem_of_mem_ranking inside)
  have right := measured b (mem_of_mem_ranking inside')
  simp only [decide_eq_true_eq] at ordered ties
  rw [Hit.before, Bool.or_eq_true, Bool.and_eq_true, Bool.not_eq_true', Bool.eq_false_iff, ne_eq,
    Hit.scoresAbove_iff left right, Hit.scoresAbove_iff right left]
  by_cases tie : totalKey (s.hit query a).score ≤ totalKey (s.hit query b).score
  · exact .inr ⟨by omega, (ties tie).1⟩
  · exact .inl (by omega)

/-- Ranked are the documents with few enough nearer ones. -/
theorem mem_ranking_iff (measured : ∀ e ∈ kept, Measured (s.hit query e))
    (byId : kept.Pairwise fun a b => a.document.id < b.document.id) (count : Nat) (h : Hit) :
    h ∈ (s.ranking query count kept).map (s.hit query) ↔
      h ∈ kept.map (s.hit query) ∧ (kept.map (s.hit query)).countP (·.nearer h) < count := by
  have sorted := pairwise_nearer measured byId
  have same := (List.mergeSort_perm kept fun a b =>
    totalKey (s.hit query a).distance ≤ totalKey (s.hit query b).distance).map (s.hit query)
  rw [← same.mem_iff, ← same.countP_eq,
    ← mem_take_iff ?irreflexive (List.pairwise_map.mpr sorted) count h, ← List.map_take]
  case irreflexive =>
    intro h' member
    obtain ⟨e, inside, rfl⟩ := List.mem_map.mp member
    exact Hit.nearer_irreflexive (measured e ((List.mergeSort_perm ..).mem_iff.mp inside))
  exact ((List.mergeSort_perm ..).map _).mem_iff

/-! ## The answer of the database -/

theorem matching_of_total {f : Filter} (total : ∀ record, ∃ holds, f.matches record = .ok holds) :
    (records : List Fields) →
      Database.matching f records = .ok (records.filter fun record => satisfies record (some f))
  | [] => rfl
  | record :: rest => by
    obtain ⟨holds, decided⟩ := total record
    have verdict : satisfies record (some f) = holds := by simp [satisfies, decided]
    rw [Database.matching, decided, matching_of_total total rest, List.filter_cons, verdict]

/-- A filter that can be written lets through the records that satisfy it. -/
theorem filtered_of_written {filter : Option Filter} {written : Option WrittenFilter}
    (converter : s.writeFilter = Filter.condition)
    (writes : s.writtenFilter filter = .ok written) (records : List Fields) :
    Database.filtered records written =
      .ok (records.filter fun record => satisfies record filter) := by
  cases filter with
  | none =>
    obtain rfl := Except.ok.inj writes
    simp [Database.filtered, satisfies]
  | some f =>
    rw [writtenFilter, converter] at writes
    cases condition : f.condition with
    | error e => simp [condition, Except.map] at writes
    | ok text =>
      simp only [condition, Except.map, Except.ok.injEq] at writes
      obtain rfl := writes
      obtain ⟨c, -, describes⟩ := Filter.describes f condition
      rw [Database.filtered, matching_of_total fun record => ⟨_, describes.holds record⟩]
      rfl

/-- The part of a search's clause that asks for the nearest records. -/
def nearestClause (s : Store) (count : Nat) : Nearest :=
  ⟨s.embeddingField, count, if s.algorithm = .hnsw then some s.searchBreadth else none, queryParam⟩

/-- What the documents of a selection have to be: taken by the store, as long as the query. -/
structure Selectable (s : Store) (query : Embedding) (e : StoredDocument) : Prop where
  accepted : s.Accepts e
  length : e.vector.length = query.length

theorem metric_builtIndexes {db : Database} (schema : s.initializeSchema = true)
    (indexes : db.indexes = s.builtIndexes) :
    db.metric s.table.text s.embeddingField.text = s.distance := by
  have only : s.builtIndexes.values = [s.indexEntry] := by
    rw [builtIndexes, if_pos schema]
    rfl
  rw [Database.metric, indexes, only]
  simp [indexEntry]

theorem nearest_eq {db : Database} (readable : s.Readable) (accepts : s.AcceptsVector query)
    (metric : db.metric s.table.text s.embeddingField.text = s.distance)
    (selectable : ∀ e ∈ kept, s.Selectable query e) (count : Nat) (breadth : Option Nat) :
    db.nearest s.table ⟨s.embeddingField, count, breadth, queryParam⟩ (query.map widen)
        (kept.map s.record) =
      (s.nearest query count kept).map fun e => ⟨s.record e, some (s.hit query e).distance⟩ := by
  have measured : (kept.map s.record).filterMap (fun record =>
      (Database.comparableVector? record s.embeddingField (query.map widen)).map fun v =>
        (record, s.distance.between v (query.map widen))) =
      kept.map fun e => (s.record e, (s.hit query e).distance) := by
    rw [List.filterMap_map, List.filterMap_congr
      (g := some ∘ fun e => (s.record e, (s.hit query e).distance)) ?each, List.filterMap_eq_map]
    case each =>
      intro e member
      have comparable := comparableVector?_record readable (selectable e member).accepted
        (selectable e member).length
      simp only [Function.comp_apply, comparable, Option.map_some]
      rfl
  have sorted : ((kept.map fun e => (s.record e, (s.hit query e).distance)).mergeSort fun a b =>
      distanceKey (query.map widen) a.2 ≤ distanceKey (query.map widen) b.2) =
      (kept.mergeSort fun a b =>
        totalKey (s.hit query a).distance ≤ totalKey (s.hit query b).distance).map fun e =>
          (s.record e, (s.hit query e).distance) := by
    refine (List.map_mergeSort fun a inside b inside' => ?_).symm
    have left := (measured_hit (selectable a inside).accepted accepts).distance
    have right := (measured_hit (selectable b inside').accepted accepts).distance
    rw [distanceKey_of_finite _ left, distanceKey_of_finite _ right]
  rw [Database.nearest, metric]
  dsimp only
  rw [measured, sorted, nearest, ← List.map_take, List.map_map]
  rfl

/-- A search whose candidates can all be shown is answered with their rows, best score first. -/
theorem selectRows_of_shown {db : Database} {filter : Option Filter}
    {written : Option WrittenFilter} {count : Nat} {f : Database.Candidate → Fields}
    (converter : s.writeFilter = Filter.condition)
    (writes : s.writtenFilter filter = .ok written)
    (each : ∀ row ∈ db.nearest s.table (s.nearestClause count) (query.map widen)
      ((db.table s.table.text).values.filter fun record => satisfies record filter),
      Database.outputRow (queryBindings query) (s.selection count written) row = .ok (f row)) :
    db.selectRows (queryBindings query) (s.selection count written) =
      .ok (Database.ordered ⟨scoreAlias, true⟩
        ((db.nearest s.table (s.nearestClause count) (query.map widen)
          ((db.table s.table.text).values.filter fun record => satisfies record filter)).map f)) := by
  have candidates : db.candidates (queryBindings query) (s.selection count written) =
      .ok (db.nearest s.table (s.nearestClause count) (query.map widen)
        ((db.table s.table.text).values.filter fun record => satisfies record filter)) := by
    rw [Database.candidates]
    simp only [selection, Option.bind_some, filtered_of_written converter writes,
      boundVector_query]
    rfl
  rw [Database.selectRows, candidates]
  simp only [Database.outputRows_of_forall each]
  simp only [selection]
  refine congrArg Except.ok (List.take_of_length_le ?_)
  rw [Database.ordered, List.length_mergeSort, List.length_map]
  exact Database.length_nearest_le

theorem ordered_eq (readable : s.Readable) (rows : List StoredDocument) :
    Database.ordered ⟨scoreAlias, true⟩ (rows.map (s.row query)) =
      (rows.mergeSort fun a b =>
        totalKey (s.hit query b).score ≤ totalKey (s.hit query a).score).map (s.row query) := by
  have key (e : StoredDocument) : SortKey.ofValue ((s.row query e).find? scoreAlias.text) =
      .number (totalKey (s.hit query e).score) := by
    have ne : scoreColumn ≠ s.embeddingField.text := fun same =>
      readable.embedding (by simp [← same, ownColumns])
    rw [show scoreAlias.text = scoreColumn from rfl, find?_row, if_neg ne,
      if_neg score_ne_distance, if_pos rfl]
    rfl
  refine (List.map_mergeSort fun a _ b _ => ?_).symm
  simp only [if_true, key]
  rfl

/-- The rows that a search selects from the records of documents. -/
theorem selectRows_eq {db : Database} {filter : Option Filter} {written : Option WrittenFilter}
    {documents : List StoredDocument} (readable : s.Readable) (accepts : s.AcceptsVector query)
    (converter : s.writeFilter = Filter.condition)
    (writes : s.writtenFilter filter = .ok written)
    (metric : db.metric s.table.text s.embeddingField.text = s.distance)
    (table : (db.table s.table.text).values = documents.map s.record)
    (selectable : ∀ e ∈ documents, s.Selectable query e) (count : Nat) :
    db.selectRows (queryBindings query) (s.selection count written) =
      .ok ((s.ranking query count
        (documents.filter fun e => satisfies (s.record e) filter)).map (s.row query)) := by
  let kept := documents.filter fun e => satisfies (s.record e) filter
  have selectableKept : ∀ e ∈ kept, s.Selectable query e := fun e member =>
    selectable e (List.mem_filter.mp member).1
  have records : (documents.map s.record).filter (fun record => satisfies record filter) =
      kept.map s.record := List.filter_map ..
  have nearest : db.nearest s.table (s.nearestClause count) (query.map widen)
      ((db.table s.table.text).values.filter fun record => satisfies record filter) =
      (s.nearest query count kept).map fun e => ⟨s.record e, some (s.hit query e).distance⟩ := by
    rw [table, records, nearestClause, nearest_eq readable accepts metric selectableKept]
  have pictured (e : StoredDocument) (member : e ∈ s.nearest query count kept) :
      s.pictured query ⟨s.record e, some (s.hit query e).distance⟩ = s.row query e := by
    have selectable := selectableKept e (mem_of_mem_nearest member)
    rw [Store.pictured, comparableVector?_record readable selectable.accepted selectable.length]
    rfl
  have each : ∀ row ∈ db.nearest s.table (s.nearestClause count) (query.map widen)
      ((db.table s.table.text).values.filter fun record => satisfies record filter),
      Database.outputRow (queryBindings query) (s.selection count written) row =
        .ok (s.pictured query row) := by
    rw [nearest, List.forall_mem_map]
    intro e member
    have selectable := selectableKept e (mem_of_mem_nearest member)
    rw [pictured e member]
    exact outputRow_eq readable selectable.accepted accepts selectable.length count written
  have shown : ((s.nearest query count kept).map fun e =>
      ⟨s.record e, some (s.hit query e).distance⟩).map (s.pictured query) =
      (s.nearest query count kept).map (s.row query) := by
    rw [List.map_map]
    exact List.map_congr_left pictured
  rw [selectRows_of_shown converter writes each, nearest, shown, ordered_eq readable]
  rfl

/-! ## The answer of the store -/

theorem reads_rows (readable : s.Readable) (accepts : s.AcceptsVector query)
    {rows : List StoredDocument} (selectable : ∀ e ∈ rows, s.Selectable query e) :
    s.rowLayout.Reads ((rows.map (s.row query)).map Json.ofFields)
      ((rows.map (s.hit query)).map Hit.result) := by
  simp only [RowLayout.Reads, List.forall₂_map_left_iff, List.forall₂_map_right_iff,
    List.forall₂_same]
  exact fun e member => result_row readable (selectable e member).accepted accepts

/-- The results in the response to a search are read from its rows. -/
theorem readResults_eq (s : Store) (r : SearchRequest) (rows : List Json) :
    s.readResults r ⟨[.ok .null, .ok (.array rows)]⟩ =
      ((s.rowLayout.resultsFrom 0 rows).mapError Error.malformedResult).map fun results =>
        (if r.threshold > SearchRequest.acceptAll then
          results.filter fun result => decide (r.threshold ≤ result.score)
        else results).take r.topK := by
  rw [readResults, show (Response.take ⟨[.ok .null, .ok (.array rows)]⟩ 1).1 =
    .ok (.array rows) from rfl]
  cases read : s.rowLayout.resultsFrom 0 rows <;>
    simp [bind, Except.bind, RowLayout.results, read, Except.mapError, Except.map, pure,
      Except.pure]

/-- The results in the response to a search: those of the selected documents that reach the
threshold. -/
theorem readResults_rows (readable : s.Readable) (accepts : s.AcceptsVector query)
    {rows : List StoredDocument} (selectable : ∀ e ∈ rows, s.Selectable query e)
    {r : SearchRequest} (length : rows.length ≤ r.topK) :
    s.readResults r ⟨[.ok .null, .ok (.array ((rows.map (s.row query)).map Json.ofFields))]⟩ =
      .ok (((rows.map (s.hit query)).filter (·.reaches r.threshold)).map Hit.result) := by
  have kept : ((rows.map (s.hit query)).map Hit.result).filter
      (fun result => decide (r.threshold ≤ result.score)) =
      ((rows.map (s.hit query)).filter fun h => decide (r.threshold ≤ h.score)).map Hit.result :=
    List.filter_map ..
  have short (p : Hit → Bool) :
      (((rows.map (s.hit query)).filter p).map Hit.result).length ≤ r.topK := by
    rw [List.length_map]
    exact (List.length_filter_le ..).trans (by rwa [List.length_map])
  rw [readResults_eq,
    RowLayout.resultsFrom_eq_ok_iff.mpr (reads_rows readable accepts selectable)]
  simp only [Except.mapError, Except.map, kept]
  by_cases limited : r.threshold > SearchRequest.acceptAll
  · have same : (fun h : Hit => h.reaches r.threshold) =
        fun h => decide (r.threshold ≤ h.score) := by
      funext h
      simp [Hit.reaches, limited]
    rw [if_pos limited, same, List.take_of_length_le (short _)]
  · have all : (rows.map (s.hit query)).filter (·.reaches r.threshold) =
        rows.map (s.hit query) := List.filter_eq_self.mpr fun h _ => by
      simp [Hit.reaches, limited]
    rw [if_neg limited, all, List.take_of_length_le (by simpa using length)]

theorem readable_of_configured {c : StoreConfig} {embedder : Embedder} {batching : Grouping}
    {writeFilter : Filter → Except Error String}
    (configured : Configured c embedder batching writeFilter s)
    (content : c.contentField ∉ [scoreColumn, distanceColumn])
    (embedding : c.embeddingField ∉ [scoreColumn, distanceColumn]) : s.Readable := by
  refine ⟨fun same => configured.fields_ne ?_, ?_, ?_⟩
  · exact (Ident.mk.injEq ..).mpr same
  · rw [ownColumns, List.mem_cons, not_or, configured.contentField]
    exact ⟨configured.contentField ▸ configured.content_ne_id, content⟩
  · rw [ownColumns, List.mem_cons, not_or, configured.embeddingField]
    exact ⟨configured.embeddingField ▸ configured.embedding_ne_id, embedding⟩

/-- The live documents stand by id. -/
theorem pairwise_id_of_holds {indexes : SortedMap IndexEntry} {p : Progress}
    (holds : s.Holds indexes p) :
    p.live.values.Pairwise fun a b => a.document.id < b.document.id := by
  rw [SortedMap.values, List.pairwise_map]
  refine p.live.sorted.imp_of_mem fun {a b} inside inside' below => ?_
  rwa [holds.id a.1 a.2 (SortedMap.find?_eq_some_iff.mpr inside),
    holds.id b.1 b.2 (SortedMap.find?_eq_some_iff.mpr inside')]

/-- A search reads its results from the rows that the database selects. -/
theorem runFrom_searchVector {m : Memory} {r : SearchRequest} {sel : Selection} {rows : List Fields}
    (accepted : s.vectorQuery query r = .ok [.bind queryParam query, .select sel])
    (selected : m.database.selectRows (queryBindings query) sel = .ok rows) :
    ((s.searchVector Memory.executor query r).runFrom m).1 =
      s.readResults r ⟨[.ok .null, .ok (.array (rows.map Json.ofFields))]⟩ := by
  rw [searchVector, runSearch, accepted, Run.runFrom_bind_of_ok (Run.runFrom_ofExcept ..),
    Run.runFrom_bind_of_ok (Memory.runFrom_executor ..), Run.runFrom_ofExcept,
    Database.run_bind_select_of_ok _ _ selected]

section
variable {c : StoreConfig} {embedder : Embedder} {batching : Grouping} {m : Memory}

/-- After any calls on a store that was built over an empty database, a search answers with the
ranking of the live documents that satisfy its filter. -/
theorem searchVector_eq_ranking
    (built : (build c embedder batching Filter.condition Memory.executor).runFrom .empty =
      (.ok s, m))
    (schema : c.initializeSchema = true) (mode : c.upsertMode ≠ .merge)
    (content : c.contentField ∉ [scoreColumn, distanceColumn])
    (embedding : c.embeddingField ∉ [scoreColumn, distanceColumn])
    (calls : List Call) {r : SearchRequest} {q : Query}
    (accepted : s.vectorQuery query r = .ok q) :
    let p := calls.foldl s.advance ⟨m, .empty⟩
    let kept := p.live.values.filter fun e => satisfies (s.record e) r.filter
    ((s.searchVector Memory.executor query r).runFrom p.memory).1 =
        .ok ((((s.ranking query r.topK kept).map (s.hit query)).filter
          (·.reaches r.threshold)).map Hit.result) ∧
      (∀ e ∈ kept, Measured (s.hit query e)) ∧
        kept.Pairwise fun a b => a.document.id < b.document.id := by
  intro p kept
  obtain ⟨configured, fresh, positive⟩ := built_of_build built
  rw [← configured.initializeSchema] at schema
  rw [← configured.upsertMode] at mode
  have readable := readable_of_configured configured content embedding
  have holds : s.Holds s.builtIndexes p :=
    (holds_of_empty fresh).run mode (fits_builtIndexes positive) calls
  obtain ⟨-, checked, written, writes, rfl⟩ := vectorQuery_eq_ok accepted
  have accepts := acceptsVector_of_check checked
  have selectable : ∀ e ∈ p.live.values, s.Selectable query e := by
    intro e member
    obtain ⟨key, live⟩ := SortedMap.mem_values_iff.mp member
    have taken := holds.accepts key e live
    exact ⟨taken, (taken.vector.length (positive schema)).trans
      (accepts.length (positive schema)).symm⟩
  have selectableKept : ∀ e ∈ kept, s.Selectable query e := fun e member =>
    selectable e (List.mem_filter.mp member).1
  refine ⟨?_, fun e member => measured_hit (selectableKept e member).accepted accepts,
    (pairwise_id_of_holds holds).sublist List.filter_sublist⟩
  have selected := selectRows_eq readable accepts configured.writeFilter writes
    (metric_builtIndexes schema holds.indexes)
    (by rw [holds.table, SortedMap.values_mapValues]) selectable r.topK
  rw [runFrom_searchVector accepted selected]
  exact readResults_rows readable accepts (fun e member =>
    selectableKept e (mem_of_mem_ranking member)) (length_ranking_le r.topK)

end

/-! ## A store of the plane -/

theorem mergeSort_pair {α : Type} (r : α → α → Bool) (a b : α) :
    [a, b].mergeSort r = if r a b then [a, b] else [b, a] := by
  simp [List.mergeSort, List.MergeSort.Internal.splitInTwo, List.merge]

/-- A configuration that ranks by cosine. -/
def cosineConfig : StoreConfig :=
  { StoreConfig.standard with
    distance := .cosine
    upsertMode := .content
    initializeSchema := true }

/-- A model that gives every text the same vector of the plane. -/
def planeEmbedder : Embedder := .ofSingle 2 fun _ => .ok [0.0, 1.0]

/-- A store of vectors of the plane. -/
def planeStore : Store where
  index := ⟨"surrealvec_index", by decide⟩
  table := ⟨"surrealvec_embedding", by decide⟩
  contentField := ⟨"content", by decide⟩
  embeddingField := ⟨"embedding", by decide⟩
  vectorType := cosineConfig.vectorType
  distance := .cosine
  algorithm := cosineConfig.algorithm
  searchBreadth := 100
  upsertMode := .content
  initializeSchema := true
  efc := none
  m := none
  embedder := planeEmbedder
  batching := Batching.standard
  writeFilter := Filter.condition

/-- A document whose vector points to the left. -/
def leftward : StoredDocument :=
  ⟨⟨"a", "left", .empty, some [-1.0, -0.0]⟩, [-1.0, -0.0]⟩
/-- A document whose vector points to the right. -/
def rightward : StoredDocument :=
  ⟨⟨"b", "right", .empty, some [1.0, 0.0]⟩, [1.0, 0.0]⟩

/-- A call that writes both. -/
def addBoth : Call := .add [leftward.document, rightward.document]

/-- A request for two documents. -/
def anyTwo : SearchRequest := ⟨"", 2, SearchRequest.acceptAll, none⟩

/-- The memory after the store is built. -/
def planeMemory : Memory :=
  ((build cosineConfig planeEmbedder Batching.standard Filter.condition Memory.executor).runFrom
    .empty).2

theorem built_planeStore : (build cosineConfig planeEmbedder Batching.standard Filter.condition
    Memory.executor).runFrom .empty = (.ok planeStore, planeMemory) := rfl

theorem accepted_planeStore : planeStore.vectorQuery [0.0, 1.0] anyTwo =
    .ok [.bind queryParam [0.0, 1.0], .select (planeStore.selection 2 none)] := rfl

theorem live_addBoth : ([addBoth].foldl planeStore.advance ⟨planeMemory, .empty⟩).live.values =
    [leftward, rightward] := rfl

/-- The score of one document is `-0.0`, that of the other is `0.0`. -/
theorem ranking_addBoth :
    planeStore.ranking [0.0, 1.0] 2 [leftward, rightward] = [rightward, leftward] := by
  have byDistance : planeStore.nearest [0.0, 1.0] 2 [leftward, rightward] =
      [leftward, rightward] := by
    rw [nearest, mergeSort_pair, if_pos (by decide +kernel)]
    rfl
  rw [ranking, byDistance, mergeSort_pair, if_neg (by decide +kernel)]

/-! ## The theorem on searches -/

/-- After any calls on a store that was built over an empty database, a search answers with the
live documents that satisfy its filter and have fewer than `topK` nearer ones among these, in
order, but for those that do not reach its threshold. -/
theorem searchVector_eq_nearest_live {c : StoreConfig} {embedder : Embedder}
    {batching : Grouping} {m : Memory}
    (built : (build c embedder batching Filter.condition Memory.executor).runFrom .empty =
      (.ok s, m))
    (schema : c.initializeSchema = true) (mode : c.upsertMode ≠ .merge)
    (content : c.contentField ∉ [scoreColumn, distanceColumn])
    (embedding : c.embeddingField ∉ [scoreColumn, distanceColumn])
    (calls : List Call) {r : SearchRequest} {q : Query}
    (accepted : s.vectorQuery query r = .ok q) :
    let p := calls.foldl s.advance ⟨m, .empty⟩
    let found := s.candidates p.live query r.filter
    ∃ ranked : List Hit,
      ((s.searchVector Memory.executor query r).runFrom p.memory).1 =
          .ok ((ranked.filter (·.reaches r.threshold)).map Hit.result) ∧
        ranked.Pairwise (fun a b => a.before b = true) ∧
          ∀ h, h ∈ ranked ↔ h ∈ found ∧ found.countP (·.nearer h) < r.topK := by
  obtain ⟨answer, measured, byId⟩ :=
    searchVector_eq_ranking built schema mode content embedding calls accepted
  exact ⟨_, answer, pairwise_before measured byId r.topK, mem_ranking_iff measured byId r.topK⟩

/-- Both documents are ranked where two are asked for. -/
theorem nearest_live_of_addBoth :
    (build cosineConfig planeEmbedder Batching.standard Filter.condition Memory.executor).runFrom
        .empty = (.ok planeStore, planeMemory) ∧
      ∃ ranked : List Hit,
        ((planeStore.searchVector Memory.executor [0.0, 1.0] anyTwo).runFrom
          ([addBoth].foldl planeStore.advance ⟨planeMemory, .empty⟩).memory).1 =
            .ok ((ranked.filter (·.reaches 0.0)).map Hit.result) ∧
          ranked.Pairwise (fun a b => a.before b = true) ∧
            ∀ h, h ∈ ranked ↔ h ∈ [leftward, rightward].map (planeStore.hit [0.0, 1.0]) ∧
              ([leftward, rightward].map (planeStore.hit [0.0, 1.0])).countP (·.nearer h) < 2 :=
  ⟨built_planeStore, searchVector_eq_nearest_live built_planeStore rfl (by decide) (by decide)
    (by decide) [addBoth] accepted_planeStore⟩

/-- Equal scores do not keep the order by distance and id where they are zeros of both signs. -/
theorem lesser_id_after_equal_score :
    (build cosineConfig planeEmbedder Batching.standard Filter.condition Memory.executor).runFrom
        .empty = (.ok planeStore, planeMemory) ∧
      ∃ x y : RankedResult,
        ((planeStore.searchVector Memory.executor [0.0, 1.0] anyTwo).runFrom
          ([addBoth].foldl planeStore.advance ⟨planeMemory, .empty⟩).memory).1 = .ok [y, x] ∧
          (x.score == y.score) = true ∧ (x.distance == y.distance) = true ∧ x.id < y.id := by
  refine ⟨built_planeStore, (planeStore.hit [0.0, 1.0] leftward).result,
    (planeStore.hit [0.0, 1.0] rightward).result, ?_, by decide +kernel, by decide +kernel,
    by decide⟩
  have answer := (searchVector_eq_ranking built_planeStore rfl (by decide) (by decide) (by decide)
    [addBoth] accepted_planeStore).1
  rw [live_addBoth] at answer
  have unlimited : decide (anyTwo.threshold > SearchRequest.acceptAll) = false := by
    decide +kernel
  have reach (hits : List Hit) : hits.filter (·.reaches anyTwo.threshold) = hits :=
    List.filter_eq_self.mpr fun h _ => by simp [Hit.reaches, unlimited]
  have kept : ([leftward, rightward].filter fun e =>
    satisfies (planeStore.record e) anyTwo.filter) = [leftward, rightward] := rfl
  refine answer.trans ?_
  rw [kept, show anyTwo.topK = 2 from rfl, ranking_addBoth, reach]
  rfl

end Store

end VectorStore
