import VectorStore.Proofs.Store.History
import VectorStore.Proofs.Store.Search

/-!
Whether searches of a store are answered. After any calls, in every upsert mode and with an index or
without one, a valid search gets its results, unless a field of the store has the name of a column
that searches compute. No row of such a store can be read (`Store.answered_of_valid`).
-/
namespace VectorStore

/-- The columns that a search computes. -/
def computedColumns : List String := [scoreColumn, distanceColumn]

/-- Settings that name a field like a computed column. -/
def StoreConfig.Shadows (c : StoreConfig) : Prop :=
  c.contentField ∈ computedColumns ∨ c.embeddingField ∈ computedColumns

instance (c : StoreConfig) : Decidable c.Shadows := inferInstanceAs (Decidable (_ ∨ _))

/-! ## Selections that cannot fail -/

namespace Database

variable {db : Database}

/-- The nearest rows show records with a vector, each at its distance from the query. -/
theorem of_mem_nearest {table : Ident} {n : Nearest} {query : List Float} {records : List Fields}
    {row : Candidate} (member : row ∈ db.nearest table n query records) :
    row.record ∈ records ∧ ∃ stored, comparableVector? row.record n.field query = some stored ∧
      row.distance = some ((db.metric table.text n.field.text).between stored query) := by
  rw [nearest] at member
  obtain ⟨⟨record, distance⟩, first, rfl⟩ := List.mem_map.mp member
  have measured := (List.mergeSort_perm ..).mem_iff.mp (List.mem_of_mem_take first)
  obtain ⟨record', among, found⟩ := List.mem_filterMap.mp measured
  obtain ⟨stored, comparable, same⟩ := Option.map_eq_some_iff.mp found
  obtain ⟨rfl, rfl⟩ := Prod.mk.inj same
  exact ⟨among, stored, comparable, rfl⟩

/-- With room for all records, each that has a vector to compare is among the nearest. -/
theorem mem_nearest (db : Database) (table : Ident) {n : Nearest} {query stored : List Float}
    {records : List Fields} {record : Fields} (member : record ∈ records)
    (comparable : comparableVector? record n.field query = some stored)
    (room : records.length ≤ n.count) :
    ⟨record, some ((db.metric table.text n.field.text).between stored query)⟩ ∈
      db.nearest table n query records := by
  rw [nearest]
  dsimp only
  rw [List.take_of_length_le ?all]
  case all =>
    rw [List.length_mergeSort]
    exact (List.length_filterMap_le ..).trans room
  refine List.mem_map.mpr ⟨(record, _), (List.mergeSort_perm ..).mem_iff.mpr ?_, rfl⟩
  refine List.mem_filterMap.mpr ⟨record, member, ?_⟩
  rw [comparable]
  rfl

/-- Nothing is nearest only where no record has a vector to compare. -/
theorem nearest_eq_nil_iff {table : Ident} {n : Nearest} {query : List Float}
    {records : List Fields} (positive : 0 < n.count) :
    db.nearest table n query records = [] ↔
      ∀ record ∈ records, comparableVector? record n.field query = none := by
  rw [nearest]
  simp only [List.map_eq_nil_iff, List.take_eq_nil_iff, Nat.ne_of_gt positive, false_or]
  rw [← List.length_eq_zero_iff, List.length_mergeSort, List.length_eq_zero_iff,
    List.filterMap_eq_nil_iff]
  simp only [Option.map_eq_none_iff]

end Database

/-! ## Rows that cannot be read -/

namespace RowLayout

variable {l : RowLayout}

/-- A row without one of the computed columns cannot be read. -/
theorem exists_fault_of_absent {fields : Fields} {column : String}
    (computed : column ∈ computedColumns) (absent : fields.find? column = none) :
    ∃ fault, l.result (Json.ofFields fields) = .error fault := by
  rw [exists_fault_iff]
  rintro ⟨r, read⟩
  rw [result_eq_ok_iff, Json.hasFields_ofFields] at read
  obtain ⟨-, tells⟩ := read
  simp only [computedColumns, List.mem_cons, List.not_mem_nil, or_false] at computed
  rcases computed with rfl | rfl
  · have score := tells.score
    rw [absent] at score
    contradiction
  · have distance := tells.distance
    rw [absent] at distance
    contradiction

/-- What stands in a computed column is taken out as the score or the distance, and no text is left
to read. -/
theorem exists_fault_of_content (shadowed : l.content ∈ computedColumns) (row : Json) :
    ∃ fault, l.result row = .error fault := by
  rw [exists_fault_iff]
  rintro ⟨r, read⟩
  exact (result_eq_ok_iff.mp read).1 (List.mem_cons_of_mem _ shadowed)

end RowLayout

namespace Store

variable {s : Store} {query : Embedding} {e : StoredDocument} {record : Fields}

/-! ## The records of a table -/

/-- A record that has at least the fields that a document is written as. -/
structure Legible (s : Store) (e : StoredDocument) (record : Fields) : Prop where
  accepted : s.Accepts e
  fields : ∀ {key value}, s.field e key = some value → record.find? key = some value

/-- The record of an id has the fields of the document that was written to it last. -/
theorem Follows.exists_last {indexes : SortedMap IndexEntry} {h : History} {id : String}
    (follows : s.Follows indexes h)
    (found : h.memory.database.record? s.table.text id = some record) :
    ∃ e, (writesSince id h.changes).getLast? = some e ∧ s.Legible e record := by
  have left : s.recordOf (writesSince id h.changes) = some record :=
    (follows.record? id).symm.trans found
  have accepted : ∀ e ∈ writesSince id h.changes, s.Accepts e := fun e inside =>
    follows.accepts e ((mem_of_mem_since inside).resolve_left List.not_mem_nil)
  rcases List.eq_nil_or_concat' (writesSince id h.changes) with none | ⟨earlier, e, writes⟩
  · rw [none] at left
    cases left
  · -- the last write under the id decides; where writes merge, the earlier ones only add to it
    rw [writes] at left accepted ⊢
    refine ⟨e, List.getLast?_concat, accepted e (by simp), fun {key value} has => ?_⟩
    have after := find?_recordOf (earlier ++ [e]) accepted key
    rwa [left, Option.bind_some, fieldAfter_concat, has, Option.some_or] at after

/-- Every record of the table has the fields of the document that was written to it last. -/
theorem Follows.exists_legible {indexes : SortedMap IndexEntry} {h : History}
    (follows : s.Follows indexes h)
    (member : record ∈ (h.memory.database.table s.table.text).values) :
    ∃ e, s.Legible e record := by
  obtain ⟨id, found⟩ := SortedMap.mem_values_iff.mp member
  obtain ⟨e, -, legible⟩ := follows.exists_last found
  exact ⟨e, legible⟩

/-- Stores whose fields are apart from each other and from the reference of a record. -/
structure Separate (s : Store) : Prop where
  fields : s.contentField.text ≠ s.embeddingField.text
  content : s.contentField.text ≠ "id"
  embedding : s.embeddingField.text ≠ "id"

theorem separate_of_configured {c : StoreConfig} {embedder : Embedder} {batching : Grouping}
    {writeFilter : Filter → Except Error String}
    (configured : Configured c embedder batching writeFilter s) : s.Separate where
  fields same := configured.fields_ne ((Ident.mk.injEq ..).mpr same)
  content := configured.content_ne_id
  embedding := configured.embedding_ne_id

theorem separate_of_readable (readable : s.Readable) : s.Separate where
  fields := readable.fields
  content same := readable.content (by simp [same, ownColumns])
  embedding same := readable.embedding (by simp [same, ownColumns])

section
variable (separate : s.Separate) (legible : s.Legible e record)
include separate legible

theorem Legible.vector : record.find? s.embeddingField.text =
    some (.array (e.vector.map Json.ofSingle)) :=
  legible.fields (by rw [field, if_neg separate.embedding, if_pos rfl])

theorem Legible.text : record.find? s.contentField.text = some (.string e.document.content) :=
  legible.fields (by
    rw [field, if_neg separate.content, if_neg separate.fields, if_pos rfl])

theorem Legible.comparable (same : e.vector.length = query.length) :
    Database.comparableVector? record s.embeddingField (query.map widen) =
      some (storedDoubles e.vector) := by
  rw [comparableVector?_of_find? legible.accepted.vector.finite (legible.vector separate),
    if_pos (by simpa using same)]

theorem Legible.components {asked stored : List Float}
    (comparable : Database.comparableVector? record s.embeddingField asked = some stored) :
    Components stored := by
  rw [comparableVector?_of_find? legible.accepted.vector.finite (legible.vector separate)]
    at comparable
  split at comparable
  · rw [← Option.some.inj comparable]
    exact (storedDoubles_spec legible.accepted.vector.finite).2.2
  · contradiction

end

/-! ## The rows of a search -/

/-- An output row that shows a record with the fields of a document. -/
def Shows (s : Store) (output : Fields) : Prop :=
  ∃ e record score distance, s.Legible e record ∧ output = s.shown record score distance

theorem outputRow_eq_pictured {row : Database.Candidate} {stored : List Float} {metric : Distance}
    (separate : s.Separate) (accepts : s.AcceptsVector query) (legible : s.Legible e row.record)
    (comparable : Database.comparableVector? row.record s.embeddingField (query.map widen) =
      some stored)
    (measured : row.distance = some (metric.between stored (query.map widen)))
    (other : s.distance ≠ .cosine → metric ≠ .cosine) (count : Nat)
    (filter : Option WrittenFilter) :
    Database.outputRow (queryBindings query) (s.selection count filter) row =
      .ok (s.pictured query row) := by
  have components := legible.components separate comparable
  have asked := components_query accepts
  rw [outputRow_of_comparable comparable measured (finite_between metric components asked)
    (finite_scoreOf other components asked), pictured, comparable, measured]
  rfl

/-- The index of a store has its metric, and without an index the metric is Euclidean. -/
theorem metric_ne_cosine {db : Database} (indexes : db.indexes = s.builtIndexes)
    (other : s.distance ≠ .cosine) : db.metric s.table.text s.embeddingField.text ≠ .cosine := by
  by_cases schema : s.initializeSchema = true
  · rwa [metric_builtIndexes schema indexes]
  · rw [Database.metric, indexes, builtIndexes, if_neg schema]
    simp [SortedMap.values, SortedMap.empty]

/-- The database answers a search with a row for each of the nearest records that pass the filter,
and the rows show records of the table. -/
theorem exists_rows {db : Database} {filter : Option Filter} {written : Option WrittenFilter}
    (separate : s.Separate) (accepts : s.AcceptsVector query)
    (converter : s.writeFilter = Filter.condition)
    (writes : s.writtenFilter filter = .ok written) (indexes : db.indexes = s.builtIndexes)
    (legible : ∀ record ∈ (db.table s.table.text).values, ∃ e, s.Legible e record)
    (count : Nat) :
    ∃ rows, db.selectRows (queryBindings query) (s.selection count written) = .ok rows ∧
      rows.Perm ((db.nearest s.table (s.nearestClause count) (query.map widen)
        ((db.table s.table.text).values.filter fun record => satisfies record filter)).map
          (s.pictured query)) ∧
      ∀ row ∈ rows, s.Shows row := by
  have each : ∀ row ∈ db.nearest s.table (s.nearestClause count) (query.map widen)
      ((db.table s.table.text).values.filter fun record => satisfies record filter),
      Database.outputRow (queryBindings query) (s.selection count written) row =
        .ok (s.pictured query row) := by
    intro row member
    obtain ⟨inside, stored, comparable, measured⟩ := Database.of_mem_nearest member
    obtain ⟨e, legible⟩ := legible row.record (List.mem_filter.mp inside).1
    exact outputRow_eq_pictured separate accepts legible comparable measured
      (metric_ne_cosine indexes) count written
  have perm := List.mergeSort_perm ((db.nearest s.table (s.nearestClause count) (query.map widen)
    ((db.table s.table.text).values.filter fun record => satisfies record filter)).map
      (s.pictured query))
  refine ⟨_, selectRows_of_shown converter writes each, perm _, fun row member => ?shows⟩
  case shows =>
    obtain ⟨candidate, inside, rfl⟩ := List.mem_map.mp ((perm _).mem_iff.mp member)
    obtain ⟨among, -⟩ := Database.of_mem_nearest inside
    obtain ⟨e, legible⟩ := legible candidate.record (List.mem_filter.mp among).1
    exact ⟨e, candidate.record, _, _, legible, rfl⟩

/-! ## Reading the rows -/

theorem result_of_shows {row : Fields} (readable : s.Readable) (shows : s.Shows row) :
    ∃ result, s.rowLayout.result (Json.ofFields row) = .ok result := by
  obtain ⟨e, record, score, distance, legible, rfl⟩ := shows
  have text := legible.text (separate_of_readable readable)
  exact ⟨_, result_shown readable (legible.fields (if_pos rfl)) text score distance⟩

/-- Where a field has the name of a computed column, no row of a search can be read: the number
stands in the place of the text, or it is left out in the place of the vector. -/
theorem fault_of_shows {row : Fields} (shadowed : s.contentField.text ∈ computedColumns ∨
    s.embeddingField.text ∈ computedColumns) (shows : s.Shows row) :
    ∃ fault, s.rowLayout.result (Json.ofFields row) = .error fault := by
  rcases shadowed with content | embedding
  · exact RowLayout.exists_fault_of_content content _
  · obtain ⟨e, record, score, distance, -, rfl⟩ := shows
    refine RowLayout.exists_fault_of_absent embedding ?_
    rw [find?_shown, if_pos rfl]

theorem readResults_of_shows {rows : List Fields} (readable : s.Readable)
    (shows : ∀ row ∈ rows, s.Shows row) (r : SearchRequest) :
    ∃ results, s.readResults r ⟨[.ok .null, .ok (.array (rows.map Json.ofFields))]⟩ =
      .ok results := by
  obtain ⟨results, read⟩ := RowLayout.exists_reads_iff.mpr
    (List.forall_mem_map.mpr fun row member => result_of_shows readable (shows row member))
  rw [readResults_eq, RowLayout.resultsFrom_eq_ok_iff.mpr read]
  exact ⟨_, rfl⟩

theorem readResults_of_shadowed {rows : List Fields} (some : rows ≠ [])
    (shadowed : s.contentField.text ∈ computedColumns ∨ s.embeddingField.text ∈ computedColumns)
    (shows : ∀ row ∈ rows, s.Shows row) (r : SearchRequest) :
    ∃ fault, s.readResults r ⟨[.ok .null, .ok (.array (rows.map Json.ofFields))]⟩ =
      .error (.malformedResult fault) := by
  obtain ⟨row, rest, rfl⟩ := List.exists_cons_of_ne_nil some
  obtain ⟨fault, unread⟩ := fault_of_shows shadowed (shows row List.mem_cons_self)
  have stopped := RowLayout.resultsFrom_of_fault [] (rest.map Json.ofFields) nofun unread 0
  rw [List.nil_append] at stopped
  rw [readResults_eq, List.map_cons, stopped]
  exact ⟨_, rfl⟩

/-! ## Valid searches -/

/-- A vector and a request that pass their checks, with a filter that can be written. -/
structure Valid (s : Store) (v : Embedding) (r : SearchRequest) : Prop where
  request : r.validate = .ok ()
  vector : s.checkVector .query v = .ok ()
  filter : ∀ f, r.filter = some f → ∃ text, f.condition = .ok text

section
variable {v : Embedding} {r : SearchRequest} (valid : s.Valid v r)
include valid

theorem Valid.exists_query (converter : s.writeFilter = Filter.condition) :
    ∃ written, s.writtenFilter r.filter = .ok written ∧
      s.vectorQuery v r = .ok [.bind queryParam v, .select (s.selection r.topK written)] := by
  have writes : ∃ written, s.writtenFilter r.filter = .ok written := by
    cases filter : r.filter with
    | none => exact ⟨none, rfl⟩
    | some f =>
      obtain ⟨text, condition⟩ := valid.filter f filter
      exact ⟨some ⟨f, text⟩, by rw [writtenFilter, converter, condition]; rfl⟩
  obtain ⟨written, writes⟩ := writes
  refine ⟨written, writes, ?_⟩
  rw [vectorQuery, valid.request, valid.vector, writes]
  rfl

theorem Valid.positive : 0 < r.topK := by
  have request := valid.request
  rw [SearchRequest.validate] at request
  split at request
  · contradiction
  · omega

/-- A search for a text that the model embeds is the search for its vector. -/
theorem Valid.search_eq (embeds : s.embedder.embed r.query = .ok v) :
    s.search Memory.executor r = s.searchVector Memory.executor v r := by
  rw [search, searchVector, textQuery, valid.request, embeds]
  rfl

/-- What a valid search reads. -/
theorem Valid.exists_rows {c : StoreConfig} {embedder : Embedder} {batching : Grouping}
    (configured : Configured c embedder batching Filter.condition s)
    (positive : 0 < s.embedder.dimension) {h : History} (follows : s.Follows s.builtIndexes h) :
    ∃ rows : List Fields, ((s.searchVector Memory.executor v r).runFrom h.memory).1 =
        s.readResults r ⟨[.ok .null, .ok (.array (rows.map Json.ofFields))]⟩ ∧
      (∀ row ∈ rows, s.Shows row) ∧
        (rows = [] ↔ (h.memory.database.table s.table.text).values.filter
          (fun record => satisfies record r.filter) = []) := by
  obtain ⟨written, writes, accepted⟩ := valid.exists_query configured.writeFilter
  have separate := separate_of_configured configured
  have accepts := acceptsVector_of_check valid.vector
  obtain ⟨rows, selected, perm, shows⟩ := Store.exists_rows separate accepts
    configured.writeFilter writes follows.indexes
    (fun record member => follows.exists_legible member) r.topK
  refine ⟨rows, runFrom_searchVector accepted selected, shows, ?_⟩
  rw [← List.length_eq_zero_iff, perm.length_eq, List.length_eq_zero_iff, List.map_eq_nil_iff,
    Database.nearest_eq_nil_iff valid.positive, List.eq_nil_iff_forall_not_mem]
  refine forall₂_congr fun record member => iff_false_intro fun none => ?_
  obtain ⟨e, legible⟩ := follows.exists_legible (List.mem_filter.mp member).1
  have same : e.vector.length = v.length :=
    (legible.accepted.vector.length positive).trans (accepts.length positive).symm
  have comparable := legible.comparable separate same
  exact Option.some_ne_none _ (comparable.symm.trans none)

end
/-! ## A store with a shadowed column -/

/-- A configuration that keeps texts in a field with the name of the score. -/
def shadowConfig : StoreConfig := { StoreConfig.standard with contentField := "__score" }

/-- The store with these settings. -/
def shadowStore : Store :=
  { planeStore with contentField := ⟨"__score", by decide⟩, initializeSchema := false }

/-- A call that writes a document. -/
def addRight : Call := .add [rightward.document]

theorem built_shadowStore : (build shadowConfig planeEmbedder Batching.standard Filter.condition
    Memory.executor).runFrom .empty = (.ok shadowStore, .empty) := rfl

theorem valid_shadowStore : shadowStore.Valid [1.0, 0.0] anyTwo := ⟨rfl, rfl, nofun⟩
theorem valid_planeStore : planeStore.Valid [0.0, 1.0] anyTwo := ⟨rfl, rfl, nofun⟩

/-! ## The theorem on answers -/

/-- After any calls on a store that was built over an empty database, a valid search is answered if
no field of the store has the name of a computed column, and also if no record passes its filter.
If there are both such a field and such a record, it fails for a row without a result. The search
for a text that the model embeds does the same. -/
theorem answered_of_valid {c : StoreConfig} {embedder : Embedder} {batching : Grouping}
    {m : Memory}
    (built : (build c embedder batching Filter.condition Memory.executor).runFrom .empty =
      (.ok s, m))
    (positive : 0 < embedder.dimension) (calls : List Call) {v : Embedding} {r : SearchRequest}
    (valid : s.Valid v r) :
    let after := (calls.foldl s.proceed ⟨m, []⟩).memory
    let found := ((s.searchVector Memory.executor v r).runFrom after).1
    let passing := (after.database.table s.table.text).values.filter
      fun record => satisfies record r.filter
    (¬c.Shadows ∨ passing = [] → ∃ results, found = .ok results) ∧
      (c.Shadows ∧ passing ≠ [] → ∃ fault, found = .error (.malformedResult fault)) ∧
        (s.embedder.embed r.query = .ok v →
          ((s.search Memory.executor r).runFrom after).1 = found) := by
  intro after found passing
  obtain ⟨configured, fresh, dimension⟩ := built_of_build built
  have follows := (follows_of_empty fresh).run (fits_builtIndexes dimension) calls
  obtain ⟨rows, answer, shows, none⟩ :=
    valid.exists_rows configured (configured.embedder ▸ positive) follows
  refine ⟨?answers, ?fails, ?text⟩
  case answers =>
    rintro (clear | nothing)
    · obtain ⟨content, embedding⟩ := not_or.mp clear
      have readable := readable_of_configured configured content embedding
      obtain ⟨results, read⟩ := readResults_of_shows readable shows r
      exact ⟨results, answer.trans read⟩
    · obtain rfl := none.mpr nothing
      exact ⟨_, answer.trans (readResults_eq ..)⟩
  case fails =>
    rintro ⟨shadows, something⟩
    rw [StoreConfig.Shadows, ← configured.contentField, ← configured.embeddingField] at shadows
    obtain ⟨fault, unread⟩ := readResults_of_shadowed (none.not.mpr something) shadows shows r
    exact ⟨fault, answer.trans unread⟩
  case text =>
    intro embeds
    rw [valid.search_eq embeds]

/-- The store of the plane answers, the one with the shadowed column does not. -/
theorem answered_plane_and_malformed_shadow :
    (∃ results, ((planeStore.searchVector Memory.executor [0.0, 1.0] anyTwo).runFrom
      ([addBoth].foldl planeStore.proceed ⟨planeMemory, []⟩).memory).1 = .ok results) ∧
    ∃ fault, ((shadowStore.searchVector Memory.executor [1.0, 0.0] anyTwo).runFrom
      ([addRight].foldl shadowStore.proceed ⟨.empty, []⟩).memory).1 =
        .error (.malformedResult fault) :=
  ⟨(answered_of_valid built_planeStore Nat.two_pos [addBoth] valid_planeStore).1
      (.inl (by decide)),
    (answered_of_valid built_shadowStore Nat.two_pos [addRight] valid_shadowStore).2.1
      ⟨by decide, List.cons_ne_nil _ _⟩⟩

/-- The store is built and takes a document, and the search for it is not answered. -/
theorem unanswered_shadowStore :
    (build shadowConfig planeEmbedder Batching.standard Filter.condition Memory.executor).runFrom
        .empty = (.ok shadowStore, .empty) ∧
      0 < planeEmbedder.dimension ∧
        ((addRight.run shadowStore Memory.executor).runFrom .empty).1 = .ok () ∧
          shadowStore.Valid [1.0, 0.0] anyTwo ∧
            ∀ results, ((shadowStore.searchVector Memory.executor [1.0, 0.0] anyTwo).runFrom
              ([addRight].foldl shadowStore.proceed ⟨.empty, []⟩).memory).1 ≠ .ok results := by
  refine ⟨built_shadowStore, Nat.two_pos, rfl, valid_shadowStore, fun results answered => ?_⟩
  obtain ⟨configured, fresh, dimension⟩ := built_of_build built_shadowStore
  have follows := (follows_of_empty fresh).run (fits_builtIndexes dimension) [addRight]
  obtain ⟨rows, answer, shows, none⟩ :=
    valid_shadowStore.exists_rows configured Nat.two_pos follows
  have some : rows ≠ [] := none.not.mpr (List.cons_ne_nil _ _)
  obtain ⟨fault, unread⟩ := readResults_of_shadowed some (.inl (by decide)) shows anyTwo
  rw [answer, unread] at answered
  contradiction

end Store

end VectorStore
