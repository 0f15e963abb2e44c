import VectorStore.Proofs.Database.Reachable
import VectorStore.Proofs.Store.Search

/-!
The indexes of stores that share a database. An index is known by its name alone, and a definition
of a name in use is passed over: of the stores that have one index name, the first that is built
gets the index, and the searches and writes of the others go on without one
(`Store.indexed_or_unindexed_of_reached`).
-/
namespace VectorStore

/-! ## Queries that define no index -/

def Statement.isDefinition : Statement → Bool
  | .defineIndex _ => true
  | _ => false

namespace Database

theorem Leaves.indexes_eq {db db' : Database} {statement : Statement}
    (leaves : db.Leaves statement db') (plain : statement.isDefinition = false) :
    db'.indexes = db.indexes := by
  cases leaves with
  | same passive => rfl
  | wrote target mode data fits => exact indexes_write ..
  | removed targets => exact indexes_foldl_remove targets db
  | defined d fresh => contradiction
  | passedOver d => contradiction

/-- A query that defines no index leaves the indexes as they are, whatever fails in it. -/
theorem indexes_run {q : Query} (plain : ∀ statement ∈ q, statement.isDefinition = false)
    (db : Database) : (db.run q).2.indexes = db.indexes := by
  have keeps : Session.Keeps (fun _ statement => statement.isDefinition = false)
      fun after => after.indexes = db.indexes :=
    fun _ _ _ plain _ same leaves => (leaves.indexes_eq plain).trans same
  have permits := Session.permits_of_mem (fun statement member _ => plain statement member)
    (.start db)
  have first : (Session.start db).Holds fun after => after.indexes = db.indexes :=
    Session.holds_start rfl
  exact (first.foldl keeps permits).finish

end Database

/-! ## Calls -/

/-- A computation that leaves the indexes as they are. -/
def KeepsIndexes {α : Type} (r : Run Memory α) : Prop :=
  ∀ m, (r.runFrom m).2.database.indexes = m.database.indexes

namespace KeepsIndexes

variable {α β : Type}

theorem pure (a : α) : KeepsIndexes (Pure.pure a : Run Memory α) := fun _ => rfl

theorem ofExcept (outcome : Except Error α) : KeepsIndexes (Run.ofExcept outcome) := by
  intro m
  rw [Run.runFrom_ofExcept]

theorem bind {r : Run Memory α} {f : α → Run Memory β} (first : KeepsIndexes r)
    (later : ∀ a, KeepsIndexes (f a)) : KeepsIndexes (r >>= f) := by
  intro m
  rw [Run.runFrom_bind]
  have kept := first m
  split
  next a m' ran =>
    rw [ran] at kept
    exact (later a m').trans kept
  next e m' ran =>
    rw [ran] at kept
    exact kept

theorem executor {q : Query} (plain : ∀ statement ∈ q, statement.isDefinition = false) :
    KeepsIndexes (Memory.executor q) :=
  fun m => Database.indexes_run plain m.database

theorem runChecked {q : Query} (plain : ∀ statement ∈ q, statement.isDefinition = false) :
    KeepsIndexes (Memory.executor.runChecked q) :=
  (executor plain).bind fun _ => ofExcept _

end KeepsIndexes

namespace Store

variable {s : Store}

theorem keepsIndexes_writeEach (s : Store) (entries : List (RecordId × Fields)) :
    KeepsIndexes (s.writeEach Memory.executor entries) := by
  induction entries with
  | nil => exact .pure ()
  | cons entry rest ih =>
    exact (KeepsIndexes.runChecked (by simp [Statement.isDefinition])).bind fun _ => ih

theorem keepsIndexes_runSearch (r : SearchRequest) {q : Except Error Query}
    (ofVector : ∀ query, q = .ok query → ∃ v, s.vectorQuery v r = .ok query) :
    KeepsIndexes (s.runSearch Memory.executor r q) :=
  fun _ => congrArg Database.indexes (database_runSearch ofVector)

/-- No call on a store defines an index, whatever other stores there are. -/
theorem keepsIndexes_call (s : Store) (c : Call) : KeepsIndexes (c.run s Memory.executor) := by
  cases c with
  | add documents =>
    exact (KeepsIndexes.ofExcept _).bind fun entries => s.keepsIndexes_writeEach entries
  | addBatched documents =>
    rw [Call.run, addBatched]
    split
    · exact .pure ()
    · refine (KeepsIndexes.ofExcept _).bind fun entries => KeepsIndexes.runChecked ?_
      intro statement member
      simp only [Query.transaction, List.cons_append, List.mem_cons, List.mem_append, List.mem_map,
        List.not_mem_nil, or_false] at member
      obtain rfl | ⟨entry, -, rfl⟩ | rfl := member <;> rfl
  | delete ids =>
    rw [Call.run, delete, Executor.delete]
    split
    · exact .pure ()
    · exact .runChecked (by simp [Statement.isDefinition])
  | search r =>
    refine (keepsIndexes_runSearch r fun query accepted => ?_).bind fun _ => .pure ()
    obtain ⟨v, -, accepted⟩ := exists_vectorQuery_of_textQuery accepted
    exact ⟨v, accepted⟩
  | searchVector v r =>
    exact (keepsIndexes_runSearch r fun query accepted => ⟨v, accepted⟩).bind fun _ => .pure ()

/-! ## Stores that share a database -/

/-- The stores on a database in memory, in the order in which they were built, and what the memory
has come to. Every store defines its index, and calls on the stores go on in between. -/
inductive Reached : List Store → Memory → Prop
  | start : Reached [] .empty
  | build {stores : List Store} {m m' : Memory} {c : StoreConfig} {embedder : Embedder}
      {batching : Grouping} {writeFilter : Filter → Except Error String} {s : Store}
      (before : Reached stores m) (schema : c.initializeSchema = true)
      (built : (build c embedder batching writeFilter Memory.executor).runFrom m = (.ok s, m')) :
      Reached (stores ++ [s]) m'
  | call {stores : List Store} {m : Memory} {s : Store} (before : Reached stores m)
      (member : s ∈ stores) (c : Call) :
      Reached stores ((c.run s Memory.executor).runFrom m).2

/-- The store that an index name belongs to. -/
def owner? (stores : List Store) (name : String) : Option Store :=
  stores.find? (·.index.text == name)

/-- An index name stands for the index of the first store that has it. -/
theorem find?_indexes_of_reached {stores : List Store} {m : Memory} (reached : Reached stores m)
    (name : String) : m.database.indexes.find? name = (owner? stores name).map indexEntry := by
  induction reached with
  | start => rfl
  | @build stores m m' c _ _ _ s before schema built ih =>
    obtain ⟨configured, after, -⟩ := database_of_build built
    rw [after, indexesAfter, configured.initializeSchema, owner?, List.find?_append, ← owner?]
    by_cases own : s.index.text = name
    · subst own
      rw [ih]
      cases found : owner? stores s.index.text <;> simp [schema, found, ih]
    · have foreign : (s.index.text == name) = false := by simpa using own
      rw [List.find?_cons_of_neg (by simpa using own), List.find?_nil, Option.or_none, ← ih]
      split
      · exact SortedMap.find?_insert_ne (Ne.symm own) _
      · rfl
  | call before member c ih => rw [keepsIndexes_call, ih]

theorem schema_of_reached {stores : List Store} {m : Memory} (reached : Reached stores m) :
    ∀ s ∈ stores, s.initializeSchema = true := by
  induction reached with
  | start => exact List.forall_mem_nil _
  | build before schema built ih =>
    obtain ⟨configured, -, -⟩ := database_of_build built
    intro t member
    rcases List.mem_append.mp member with earlier | last
    · exact ih t earlier
    · rw [List.mem_singleton.mp last, configured.initializeSchema, schema]
  | call before member c ih => exact ih

theorem exists_owner_of_mem_values {stores : List Store} {m : Memory} (reached : Reached stores m)
    {entry : IndexEntry} (member : entry ∈ m.database.indexes.values) :
    ∃ t ∈ stores, owner? stores t.index.text = some t ∧ t.indexEntry = entry := by
  obtain ⟨name, found⟩ := SortedMap.mem_values_iff.mp member
  rw [find?_indexes_of_reached reached, Option.map_eq_some_iff] at found
  obtain ⟨t, owns, same⟩ := found
  have named : t.index.text = name := by simpa using List.find?_some owns
  exact ⟨t, List.mem_of_find?_eq_some owns, by rw [named, owns], same⟩

theorem eq_of_table_eq {stores : List Store} (tables : (stores.map table).Nodup) {s t : Store}
    (left : s ∈ stores) (right : t ∈ stores) (same : s.table.text = t.table.text) : s = t :=
  List.inj_on_of_nodup_map tables left right ((Ident.mk.injEq ..).mpr same)

end Store

/-! ## What an index does -/

namespace Database

variable {db : Database} {s : Store}

/-- The metric of a field whose table has one index only. -/
theorem metric_of_only {entry : IndexEntry} (defined : entry ∈ db.indexes.values)
    (only : ∀ e ∈ db.indexes.values, e.table = entry.table → e = entry) :
    db.metric entry.table entry.field = entry.distance := by
  rw [metric]
  split
  next index found =>
    have here : index.table = entry.table := by
      have := List.find?_some found
      simp_all
    rw [only index (List.mem_of_find?_eq_some found) here]
  next missing =>
    have unmatched := List.find?_eq_none.mp missing entry defined
    simp at unmatched

theorem metric_of_none {table : String} (without : ∀ e ∈ db.indexes.values, e.table ≠ table)
    (field : String) : db.metric table field = .euclidean := by
  rw [metric]
  split
  next index found =>
    have here := List.find?_some found
    simp only [Bool.and_eq_true, beq_iff_eq] at here
    exact absurd here.1 (without index (List.mem_of_find?_eq_some found))
  · rfl

theorem dimensionFault?_of_only {entry : IndexEntry} (defined : entry ∈ db.indexes.values)
    (only : ∀ e ∈ db.indexes.values, e.table = entry.table → e = entry) {data : Fields}
    {items : List Json} (found : data.find? entry.field = some (.array items))
    (other : items.length ≠ entry.dimension) :
    db.dimensionFault? entry.table data = some (.vectorDimension items.length entry.dimension) := by
  have here : entry ∈ db.indexes.values.filter (·.table == entry.table) :=
    List.mem_filter.mpr ⟨defined, by simp⟩
  obtain ⟨first, rest, split⟩ := List.exists_cons_of_ne_nil (List.ne_nil_of_mem here)
  have among : first ∈ db.indexes.values.filter (·.table == entry.table) :=
    split ▸ List.mem_cons_self
  obtain ⟨member, table⟩ := List.mem_filter.mp among
  obtain rfl : first = entry := only first member (by simpa using table)
  rw [dimensionFault?, split, List.findSome?_cons, found]
  simp [Json.array?, other]

theorem dimensionFault?_of_none {table : String}
    (without : ∀ e ∈ db.indexes.values, e.table ≠ table) (data : Fields) :
    db.dimensionFault? table data = none := by
  rw [dimensionFault?, List.findSome?_eq_none_iff]
  intro index member
  obtain ⟨indexed, here⟩ := List.mem_filter.mp member
  exact absurd (by simpa using here) (without index indexed)

/-- A selection reads no index but for the metric of its nearest rows. -/
theorem selectRows_congr {indexes : SortedMap IndexEntry} {sel : Selection}
    (metric : ∀ w ∈ sel.condition, ∀ n ∈ w.nearest, db.metric sel.table.text n.field.text =
      Database.metric ⟨db.tables, indexes⟩ sel.table.text n.field.text) (bindings : Bindings) :
    db.selectRows bindings sel = Database.selectRows ⟨db.tables, indexes⟩ bindings sel := by
  have candidates : db.candidates bindings sel =
      Database.candidates ⟨db.tables, indexes⟩ bindings sel := by
    rw [Database.candidates, Database.candidates, table, table]
    cases condition : sel.condition with
    | none => rfl
    | some w =>
      cases near : w.nearest with
      | none => simp [near]
      | some n => simp only [Option.bind_some, near, nearest, metric w condition n near]
  rw [selectRows, candidates]
  rfl

end Database

namespace Store

/-- What a store whose index is defined can rely on. -/
structure Indexed (s : Store) (db : Database) : Prop where
  defined : db.indexes.find? s.index.text = some s.indexEntry
  /-- Records are ranked by the configured metric. -/
  metric : db.metric s.table.text s.embeddingField.text = s.distance
  /-- Searches answer as if the store's index were the only one. -/
  answers : ∀ v r q, s.vectorQuery v r = .ok q →
    (db.run q).1 = (Database.run ⟨db.tables, s.builtIndexes⟩ q).1
  /-- A vector of another length is refused. -/
  refuses : ∀ (target : RecordId) mode (data : Fields) items, target.table = s.table →
    data.find? s.embeddingField.text = some (.array items) →
    items.length ≠ s.embedder.dimension → db.run [.upsert target mode data] =
      (⟨[.err (StatementFault.vectorDimension items.length s.embedder.dimension).message]⟩, db)

/-- What becomes of a store whose index name was in use. -/
structure Unindexed (s : Store) (db : Database) : Prop where
  undefined : ∀ entry ∈ db.indexes.values, entry.table ≠ s.table.text
  /-- Records are ranked by the Euclidean metric, whatever was configured. -/
  metric : db.metric s.table.text s.embeddingField.text = .euclidean
  /-- Searches answer as if there were no index. -/
  answers : ∀ v r q, s.vectorQuery v r = .ok q →
    (db.run q).1 = (Database.run ⟨db.tables, .empty⟩ q).1
  /-- No vector is refused. -/
  takes : ∀ (target : RecordId) mode data, target.table = s.table →
    ∃ value after, db.run [.upsert target mode data] = (⟨[.ok value]⟩, after)

section
variable {s : Store} {db : Database}

/-- The response to a search depends on the records and on the metric. -/
theorem answer_congr (indexes : SortedMap IndexEntry)
    (metric : db.metric s.table.text s.embeddingField.text =
      Database.metric ⟨db.tables, indexes⟩ s.table.text s.embeddingField.text)
    {v : Embedding} {r : SearchRequest} {q : Query} (accepted : s.vectorQuery v r = .ok q) :
    (db.run q).1 = (Database.run ⟨db.tables, indexes⟩ q).1 := by
  obtain ⟨-, -, written, -, rfl⟩ := vectorQuery_eq_ok accepted
  have selected : db.selectRows (.insert .empty queryParam.text (v.map widen))
      (s.selection r.topK written) = Database.selectRows ⟨db.tables, indexes⟩
        (.insert .empty queryParam.text (v.map widen)) (s.selection r.topK written) := by
    refine Database.selectRows_congr ?_ _
    rintro _ ⟨⟩ _ ⟨⟩
    exact metric
  rw [Database.run_bind_select, Database.run_bind_select, selected]

theorem indexed_of_only (schema : s.initializeSchema = true)
    (defined : db.indexes.find? s.index.text = some s.indexEntry)
    (only : ∀ e ∈ db.indexes.values, e.table = s.table.text → e = s.indexEntry) :
    Indexed s db := by
  have member : s.indexEntry ∈ db.indexes.values := SortedMap.mem_values_iff.mpr ⟨_, defined⟩
  have metric : db.metric s.table.text s.embeddingField.text = s.distance :=
    Database.metric_of_only member only
  have alone : Database.metric ⟨db.tables, s.builtIndexes⟩ s.table.text s.embeddingField.text =
      s.distance := metric_builtIndexes schema rfl
  refine ⟨defined, metric, fun v r q accepted => ?_, ?_⟩
  · exact answer_congr _ (metric.trans alone.symm) accepted
  · intro target mode data items here found other
    have fault : db.dimensionFault? s.table.text data =
        some (.vectorDimension items.length s.embedder.dimension) :=
      Database.dimensionFault?_of_only member only found other
    refine Database.run_of_apply_error rfl ?_
    rw [Database.apply, Database.upsert, here, fault]
    rfl

theorem unindexed_of_none (without : ∀ e ∈ db.indexes.values, e.table ≠ s.table.text) :
    Unindexed s db := by
  have metric := Database.metric_of_none without s.embeddingField.text
  refine ⟨without, metric, fun v r q accepted => ?_, fun target mode data here => ?_⟩
  · exact answer_congr _ metric accepted
  · have fits : db.dimensionFault? target.table.text data = none := by
      rw [here]
      exact Database.dimensionFault?_of_none without data
    obtain ⟨value, taken⟩ := @Database.upsert_eq_write db (target, data) mode fits
    have applied : db.applyEach .empty [.upsert target mode data] =
        .ok ([value], Database.write mode db (target, data), .empty) := by
      rw [Database.applyEach, Database.apply, taken]
      rfl
    exact ⟨value, _, Database.run_of_applyEach (by simp [Statement.isBracket]) applied⟩

end

/-- Of the stores over different tables that define their indexes on one database, the first with
an index name has its index, and the later ones with that name have none. -/
theorem indexed_or_unindexed_of_reached {stores : List Store} {m : Memory}
    (reached : Reached stores m) (tables : (stores.map table).Nodup) {before after : List Store}
    {s : Store} (order : stores = before ++ s :: after) :
    ((∀ t ∈ before, t.index ≠ s.index) → Indexed s m.database) ∧
      ((∃ t ∈ before, t.index = s.index) → Unindexed s m.database) := by
  have member : s ∈ stores := by simp [order]
  -- an index over the table of the store is its own
  have own : ∀ e ∈ m.database.indexes.values, e.table = s.table.text →
      owner? stores s.index.text = some s ∧ e = s.indexEntry := by
    intro e inside here
    obtain ⟨t, among, owns, rfl⟩ := exists_owner_of_mem_values reached inside
    obtain rfl := eq_of_table_eq tables among member here
    exact ⟨owns, rfl⟩
  constructor
  · intro fresh
    have owns : owner? stores s.index.text = some s := by
      have earlier : before.find? (·.index.text == s.index.text) = none := by
        refine List.find?_eq_none.mpr fun t among same => fresh t among ?_
        exact (Ident.mk.injEq ..).mpr (by simpa using same)
      rw [owner?, order, List.find?_append, earlier, Option.none_or]
      exact List.find?_cons_of_pos (by simp)
    refine indexed_of_only (schema_of_reached reached s member) ?_ fun e inside here =>
      (own e inside here).2
    rw [find?_indexes_of_reached reached, owns, Option.map_some]
  · rintro ⟨t, earlier, same⟩
    refine unindexed_of_none fun e inside here => ?_
    obtain ⟨owns, -⟩ := own e inside here
    -- the name belongs to a store before this one, and this one is not among those
    have first : (before.find? (·.index.text == s.index.text)).isSome = true :=
      List.find?_isSome.mpr ⟨t, earlier, by simp [same]⟩
    rw [owner?, order, List.find?_append, Option.or_of_isSome first] at owns
    have again : s ∈ before := List.mem_of_find?_eq_some owns
    rw [order, List.map_append, List.nodup_append] at tables
    exact tables.2.2 _ (List.mem_map_of_mem again) _ List.mem_cons_self rfl

/-! ## Three stores on one database -/

/-- Configurations of stores of the plane; the first two have one index name. -/
def leftConfig : StoreConfig := { cosineConfig with tableName := "left", distance := .euclidean }
def rightConfig : StoreConfig := { cosineConfig with tableName := "right" }
def apartConfig : StoreConfig :=
  { cosineConfig with tableName := "apart", indexName := "apart_index", distance := .manhattan }

def leftStore : Store :=
  { planeStore with table := ⟨"left", by decide⟩, distance := .euclidean }
def rightStore : Store := { planeStore with table := ⟨"right", by decide⟩ }
def apartStore : Store :=
  { planeStore with
    table := ⟨"apart", by decide⟩
    index := ⟨"apart_index", by decide⟩
    distance := .manhattan }

/-- The indexes after the three are built in order. -/
def sharedIndexes : SortedMap IndexEntry :=
  apartStore.indexesAfter (rightStore.indexesAfter (leftStore.indexesAfter .empty))

theorem exists_reached_shared :
    ∃ m, Reached [leftStore, rightStore, apartStore] m ∧ m.database.indexes = sharedIndexes := by
  have left : configure leftConfig planeEmbedder Batching.standard Filter.condition =
    .ok leftStore := rfl
  have right : configure rightConfig planeEmbedder Batching.standard Filter.condition =
    .ok rightStore := rfl
  have apart : configure apartConfig planeEmbedder Batching.standard Filter.condition =
    .ok apartStore := rfl
  obtain ⟨m, builtLeft, first⟩ := exists_build left Nat.two_pos .empty
  obtain ⟨m', builtRight, second⟩ := exists_build right Nat.two_pos m
  obtain ⟨m'', builtApart, third⟩ := exists_build apart Nat.two_pos m'
  refine ⟨m'', .build (.build (.build .start rfl builtLeft) rfl builtRight) rfl builtApart, ?_⟩
  rw [third, second, first]
  rfl

theorem nodup_tables : ([leftStore, rightStore, apartStore].map table).Nodup := by decide

/-- The first store and the one with its own index name are indexed, the second is not. -/
theorem indexed_left_and_apart :
    ∃ m, Reached [leftStore, rightStore, apartStore] m ∧
      ([leftStore, rightStore, apartStore].map table).Nodup ∧
        Indexed leftStore m.database ∧ Unindexed rightStore m.database ∧
          Indexed apartStore m.database := by
  have first : [leftStore, rightStore, apartStore] = [] ++ leftStore :: [rightStore, apartStore] :=
    rfl
  have second : [leftStore, rightStore, apartStore] =
    [leftStore] ++ rightStore :: [apartStore] := rfl
  have third : [leftStore, rightStore, apartStore] =
    [leftStore, rightStore] ++ apartStore :: [] := rfl
  have shared : ∃ t ∈ [leftStore], t.index = rightStore.index := ⟨leftStore, .head _, rfl⟩
  have own : ∀ t ∈ [leftStore, rightStore], t.index ≠ apartStore.index :=
    List.forall_mem_cons.mpr ⟨by decide, List.forall_mem_cons.mpr
      ⟨by decide, List.forall_mem_nil _⟩⟩
  obtain ⟨m, reached, -⟩ := exists_reached_shared
  exact ⟨m, reached, nodup_tables,
    (indexed_or_unindexed_of_reached reached nodup_tables first).1 (List.forall_mem_nil _),
    (indexed_or_unindexed_of_reached reached nodup_tables second).2 shared,
    (indexed_or_unindexed_of_reached reached nodup_tables third).1 own⟩

/-- The store over `right` is built over a table of its own, yet it has no index, and records are
ranked by another metric than the one that it is set to. -/
theorem not_indexed_right :
    ∃ m, Reached [leftStore, rightStore, apartStore] m ∧
      ([leftStore, rightStore, apartStore].map table).Nodup ∧
        (∀ e ∈ m.database.indexes.values, e.table ≠ rightStore.table.text) ∧
          m.database.metric rightStore.table.text rightStore.embeddingField.text ≠
            rightStore.distance := by
  obtain ⟨m, reached, indexes⟩ := exists_reached_shared
  refine ⟨m, reached, nodup_tables, ?_, ?_⟩
  · rw [indexes]
    decide
  · rw [Database.metric, indexes]
    decide

end Store

end VectorStore
