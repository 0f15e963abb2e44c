import VectorStore.Store.Basic
import VectorStore.Proofs.Executor

/-!
What building a store over a database in memory makes sure of: the names of the store are the
configured ones and kept apart, and a store set to define its index has the one index of the
database, with the model's dimension.
-/
namespace VectorStore.Store

/-- The settings of a store after their checks. -/
structure Configured (c : StoreConfig) (embedder : Embedder) (batching : Grouping)
    (writeFilter : Filter → Except Error String) (s : Store) : Prop where
  contentField : s.contentField.text = c.contentField
  embeddingField : s.embeddingField.text = c.embeddingField
  distance : s.distance = c.distance
  upsertMode : s.upsertMode = c.upsertMode
  initializeSchema : s.initializeSchema = c.initializeSchema
  embedder : s.embedder = embedder
  writeFilter : s.writeFilter = writeFilter
  fields_ne : s.contentField ≠ s.embeddingField
  content_ne_id : s.contentField.text ≠ "id"
  embedding_ne_id : s.embeddingField.text ≠ "id"

theorem text_of_ofString {name : String} {i : Ident} (read : Ident.ofString name = .ok i) :
    i.text = name := by
  rw [Ident.ofString] at read
  split at read
  · exact (congrArg Ident.text (Except.ok.inj read)).symm
  · contradiction

/-- What follows a check that throws runs only where the check passes. -/
theorem passed_of_guard {α : Type} {p : Prop} [Decidable p] {e : Error} {f : Unit → Except Error α}
    {a : α} (done : (if p then throw e >>= f else f ()) = .ok a) : ¬p ∧ f () = .ok a := by
  split at done
  · contradiction
  next passed => exact ⟨passed, done⟩

theorem configured_of_configure {c : StoreConfig} {embedder : Embedder} {batching : Grouping}
    {writeFilter : Filter → Except Error String} {s : Store}
    (done : configure c embedder batching writeFilter = .ok s) :
    Configured c embedder batching writeFilter s := by
  rw [configure] at done
  obtain ⟨-, done⟩ := passed_of_guard done
  obtain ⟨content, contentRead, done⟩ := bind_eq_ok_iff.mp done
  obtain ⟨embedding, embeddingRead, done⟩ := bind_eq_ok_iff.mp done
  obtain ⟨fields_ne, done⟩ := passed_of_guard done
  obtain ⟨notReserved, done⟩ := passed_of_guard done
  obtain ⟨index, -, done⟩ := bind_eq_ok_iff.mp done
  obtain ⟨table, -, done⟩ := bind_eq_ok_iff.mp done
  obtain rfl := Except.ok.inj done
  rw [not_or] at notReserved
  exact {
    contentField := text_of_ofString contentRead
    embeddingField := text_of_ofString embeddingRead
    distance := rfl
    upsertMode := rfl
    initializeSchema := rfl
    embedder := rfl
    writeFilter := rfl
    fields_ne := fields_ne
    content_ne_id := notReserved.1
    embedding_ne_id := notReserved.2 }

/-- The index of a store as later statements see it. -/
def indexEntry (s : Store) : IndexEntry :=
  ⟨s.table.text, s.embeddingField.text, s.embedder.dimension, s.distance⟩

/-- The indexes after a store is built over a database without any. -/
def builtIndexes (s : Store) : SortedMap IndexEntry :=
  if s.initializeSchema then .insert .empty s.index.text s.indexEntry else .empty

/-- The indexes after a store is built over a database with some; a name in use stays what it is. -/
def indexesAfter (s : Store) (indexes : SortedMap IndexEntry) : SortedMap IndexEntry :=
  if s.initializeSchema = true ∧ indexes.find? s.index.text = none then
    indexes.insert s.index.text s.indexEntry
  else indexes

theorem indexesAfter_empty (s : Store) : s.indexesAfter .empty = s.builtIndexes := by
  simp [indexesAfter, builtIndexes]

theorem run_defineIndex (db : Database) {d : IndexDefinition} (optional : d.ifNotExists = true) :
    db.run [.defineIndex d] = (⟨[Json.null].map .ok⟩, if db.indexes.find? d.name.text = none then
      ⟨db.tables, db.indexes.insert d.name.text
        ⟨d.table.text, d.field.text, d.dimension, d.distance⟩⟩
      else db) := by
  have applied : db.applyEach .empty [.defineIndex d] = .ok ([.null],
      if db.indexes.find? d.name.text = none then
        ⟨db.tables, db.indexes.insert d.name.text
          ⟨d.table.text, d.field.text, d.dimension, d.distance⟩⟩
      else db, .empty) := by
    cases used : db.indexes.find? d.name.text <;>
      simp [Database.applyEach, Database.apply, Database.defineIndex, Database.hasIndex,
        SortedMap.contains, used, optional, Except.map]
  exact Database.run_of_applyEach (by simp [Statement.isBracket]) applied

theorem indexDefinition_eq_ok {s : Store} {d : IndexDefinition}
    (defined : s.indexDefinition = .ok d) :
    0 < s.embedder.dimension ∧ d.ifNotExists = true ∧ d.name = s.index ∧
      (⟨d.table.text, d.field.text, d.dimension, d.distance⟩ : IndexEntry) = s.indexEntry := by
  rw [indexDefinition] at defined
  split at defined
  · contradiction
  next nonzero =>
    obtain rfl := Except.ok.inj defined
    exact ⟨Nat.pos_of_ne_zero nonzero, rfl, rfl, rfl⟩

theorem ensureSchema_eq_ok {s : Store} {m m' : Memory}
    (ensured : (s.ensureSchema Memory.executor).runFrom m = (.ok (), m')) :
    m'.database = ⟨m.database.tables, s.indexesAfter m.database.indexes⟩ ∧
      (s.initializeSchema = true → 0 < s.embedder.dimension) := by
  rw [ensureSchema] at ensured
  split at ensured
  next schema =>
    cases defined : s.indexDefinition with
    | error e => simp [Run.runFrom_bind, defined] at ensured
    | ok d =>
      obtain ⟨positive, optional, name, entry⟩ := indexDefinition_eq_ok defined
      have ran := Memory.runChecked_of_run (run_defineIndex m.database optional)
      rw [Run.runFrom_bind, Run.runFrom_ofExcept, defined] at ensured
      simp only [Run.runFrom_tryCatch, ran] at ensured
      obtain rfl := (Prod.mk.inj ensured).2
      refine ⟨?_, fun _ => positive⟩
      rw [indexesAfter, name, entry]
      by_cases fresh : m.database.indexes.find? s.index.text = none <;> simp [schema, fresh]
  next unset =>
    obtain rfl := (Prod.mk.inj ensured).2
    exact ⟨by simp [indexesAfter, unset], fun set => absurd set unset⟩

/-- What building a store over a memory leaves. -/
theorem database_of_build {c : StoreConfig} {embedder : Embedder} {batching : Grouping}
    {writeFilter : Filter → Except Error String} {s : Store} {m m' : Memory}
    (built : (build c embedder batching writeFilter Memory.executor).runFrom m = (.ok s, m')) :
    Configured c embedder batching writeFilter s ∧
      m'.database = ⟨m.database.tables, s.indexesAfter m.database.indexes⟩ ∧
        (s.initializeSchema = true → 0 < s.embedder.dimension) := by
  cases configured : configure c embedder batching writeFilter with
  | error e => simp [build, Run.runFrom_bind, configured] at built
  | ok s' =>
    rw [build, configured, Run.runFrom_bind_of_ok (Run.runFrom_ofExcept ..)] at built
    rcases ensured : (s'.ensureSchema Memory.executor).runFrom m with ⟨outcome, m''⟩
    cases outcome with
    | error e =>
      rw [Run.runFrom_bind_of_error ensured] at built
      simp at built
    | ok done =>
      rw [Run.runFrom_bind_of_ok ensured, Run.runFrom_pure] at built
      obtain ⟨rfl, rfl⟩ : s' = s ∧ m'' = m' := by simpa using built
      exact ⟨configured_of_configure configured, ensureSchema_eq_ok ensured⟩

/-- Building succeeds over any memory if the settings pass their checks and the model reports its
dimension. -/
theorem exists_build {c : StoreConfig} {embedder : Embedder} {batching : Grouping}
    {writeFilter : Filter → Except Error String} {s : Store}
    (configured : configure c embedder batching writeFilter = .ok s)
    (positive : 0 < s.embedder.dimension) (m : Memory) : ∃ m',
      (build c embedder batching writeFilter Memory.executor).runFrom m = (.ok s, m') ∧
        m'.database = ⟨m.database.tables, s.indexesAfter m.database.indexes⟩ := by
  have ensured : ∃ m', (s.ensureSchema Memory.executor).runFrom m = (.ok (), m') := by
    rw [ensureSchema]
    split
    · obtain ⟨d, defined⟩ : ∃ d, s.indexDefinition = .ok d :=
        ⟨_, if_neg (Nat.ne_of_gt positive)⟩
      obtain ⟨-, optional, -⟩ := indexDefinition_eq_ok defined
      have ran := Memory.runChecked_of_run (run_defineIndex m.database optional)
      rw [defined, Run.runFrom_bind_of_ok (Run.runFrom_ofExcept ..), Run.runFrom_tryCatch, ran]
      exact ⟨_, rfl⟩
    · exact ⟨m, rfl⟩
  obtain ⟨m', ran⟩ := ensured
  refine ⟨m', ?_, (ensureSchema_eq_ok ran).1⟩
  rw [build, configured, Run.runFrom_bind_of_ok (Run.runFrom_ofExcept ..),
    Run.runFrom_bind_of_ok ran, Run.runFrom_pure]

theorem built_of_build {c : StoreConfig} {embedder : Embedder} {batching : Grouping}
    {writeFilter : Filter → Except Error String} {s : Store} {m : Memory}
    (built : (build c embedder batching writeFilter Memory.executor).runFrom .empty = (.ok s, m)) :
    Configured c embedder batching writeFilter s ∧ m.database = ⟨.empty, s.builtIndexes⟩ ∧
      (s.initializeSchema = true → 0 < s.embedder.dimension) := by
  rw [← indexesAfter_empty]
  exact database_of_build built

end VectorStore.Store
