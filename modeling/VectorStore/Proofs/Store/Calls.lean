import VectorStore.Proofs.Store.Records

/-!
Calls on a store over a database in memory, one after another. A call that succeeds changes the
records of the store's table as `Store.recordsAfter` says, a call that fails changes nothing, and
no call changes the indexes (`Store.run_call`). Unless writes merge, the table holds the records of
the documents that are live (`Store.Holds.run`).
-/
namespace VectorStore

/-- A call on a store. -/
inductive Call
  | add (documents : List Document)
  | addBatched (documents : List Document)
  | delete (ids : List String)
  | search (request : SearchRequest)
  | searchVector (v : Embedding) (request : SearchRequest)

/-- The documents that a call asks to write. -/
def Call.documents : Call → List Document
  | add documents | addBatched documents => documents
  | _ => []

/-- What a call does, without the results of a search. -/
def Call.run {σ : Type} (s : Store) (x : Executor σ) : Call → Run σ Unit
  | add documents => s.add x documents
  | addBatched documents => s.addBatched x documents
  | delete ids => s.delete x ids
  | search request => do
    let _ ← s.search x request
  | searchVector v request => do
    let _ ← s.searchVector x v request

namespace Store

/-- The records of a table after a document is written. -/
def recordsWith (s : Store) (records : SortedMap Fields) (e : StoredDocument) : SortedMap Fields :=
  let target : RecordId := ⟨s.table, e.document.id⟩
  records.insert target.key
    (Database.written target s.upsertMode (records.find? target.key)
      (s.recordBody e.document e.vector))

/-- The records of the store's table after a call with an outcome. -/
def recordsAfter (s : Store) (records : SortedMap Fields) : Call → Except Error Unit →
    SortedMap Fields
  | .add documents, .ok () | .addBatched documents, .ok () =>
    (s.stored documents).foldl s.recordsWith records
  | .delete ids, .ok () => ids.foldl SortedMap.erase records
  | _, _ => records

/-- What a call with an outcome did to the database. -/
structure Effect (s : Store) (c : Call) (outcome : Except Error Unit)
    (before after : Database) : Prop where
  indexes : after.indexes = before.indexes
  table : after.table s.table.text = s.recordsAfter (before.table s.table.text) c outcome
  accepts : outcome = .ok () → ∀ e ∈ s.stored c.documents, s.Accepts e

/-- A call that fails has no effect. -/
theorem Effect.failed (s : Store) (c : Call) (e : Error) (db : Database) :
    s.Effect c (.error e) db db where
  indexes := rfl
  table := by cases c <;> rfl
  accepts := nofun

theorem stored_nil (s : Store) : s.stored [] = [] := by
  rw [stored]
  split <;> rfl

/-! ## One call -/

/-- The statements that write entries. -/
def writes (s : Store) (entries : List (RecordId × Fields)) : List Statement :=
  entries.map fun entry => .upsert entry.1 s.upsertMode entry.2

theorem isBracket_of_mem_writes {s : Store} {entries : List (RecordId × Fields)} :
    ∀ statement ∈ s.writes entries, statement.isBracket = false := by
  intro statement member
  obtain ⟨entry, -, rfl⟩ := List.mem_map.mp member
  rfl

section
variable {σ : Type} {s : Store} {documents : List Document}

/-- Documents that cannot be prepared are not submitted. -/
theorem runFrom_add_of_error {fault : Error} (refused : s.prepare documents = .error fault)
    (x : Executor σ) (state : σ) : (s.add x documents).runFrom state = (.error fault, state) := by
  rw [add, refused, Run.runFrom_bind_of_error (Run.runFrom_ofExcept ..)]

theorem runFrom_add_of_ok {entries : List (RecordId × Fields)}
    (prepared : s.prepare documents = .ok entries) (x : Executor σ) (state : σ) :
    (s.add x documents).runFrom state = (s.writeEach x entries).runFrom state := by
  rw [add, prepared, Run.runFrom_bind_of_ok (Run.runFrom_ofExcept ..)]

theorem prepare_nil (s : Store) : s.prepare [] = .ok [] := rfl

theorem runFrom_addBatched_of_error {fault : Error} (refused : s.prepare documents = .error fault)
    (x : Executor σ) (state : σ) :
    (s.addBatched x documents).runFrom state = (.error fault, state) := by
  have some : documents ≠ [] := by
    rintro rfl
    rw [prepare_nil] at refused
    contradiction
  rw [addBatched, if_neg (by simpa using some), refused,
    Run.runFrom_bind_of_error (Run.runFrom_ofExcept ..)]

/-- A call whose documents cannot be prepared submits nothing; a call without documents has
nothing to prepare. -/
theorem runFrom_call_of_error {c : Call} {fault : Error}
    (refused : s.prepare c.documents = .error fault) (x : Executor σ) (state : σ) :
    (c.run s x).runFrom state = (.error fault, state) := by
  cases c with
  | add documents => exact runFrom_add_of_error refused x state
  | addBatched documents => exact runFrom_addBatched_of_error refused x state
  | delete _ | search _ | searchVector _ _ =>
    replace refused : s.prepare [] = .error fault := refused
    rw [prepare_nil] at refused
    contradiction

theorem runFrom_addBatched_of_ok {entries : List (RecordId × Fields)} (some : documents ≠ [])
    (prepared : s.prepare documents = .ok entries) (x : Executor σ) (state : σ) :
    (s.addBatched x documents).runFrom state =
      (x.runChecked (Query.transaction (s.writes entries))).runFrom state := by
  rw [addBatched, if_neg (by simpa using some), prepared,
    Run.runFrom_bind_of_ok (Run.runFrom_ofExcept ..), writes]

end

/-- Entries that can be written one after another are written, and the rest is written to what they
leave. -/
theorem runFrom_writeEach_append {s : Store} {db : Database} {bindings : Bindings}
    {entries : List (RecordId × Fields)} {m : Memory} {values : List Json}
    (applied : m.database.applyEach .empty (s.writes entries) = .ok (values, db, bindings))
    (rest : List (RecordId × Fields)) :
    ∃ log, (s.writeEach Memory.executor (entries ++ rest)).runFrom m =
      (s.writeEach Memory.executor rest).runFrom ⟨db, log⟩ := by
  induction entries generalizing m values with
  | nil =>
    obtain ⟨-, rfl, -⟩ : [] = values ∧ m.database = db ∧ .empty = bindings := by
      simpa [writes, Database.applyEach] using applied
    exact ⟨m.log, rfl⟩
  | cons entry later ih =>
    rw [writes, List.map_cons, Database.applyEach, Database.apply] at applied
    cases upserted : m.database.upsert entry.1 s.upsertMode entry.2 with
    | error fault => simp [upserted, Except.map] at applied
    | ok outcome =>
      obtain ⟨value, next⟩ := outcome
      simp only [upserted, Except.map] at applied
      split at applied
      · contradiction
      next others left written =>
        obtain ⟨-, rfl⟩ : value :: others = values ∧ left = (db, bindings) := by
          simpa using applied
        have alone : m.database.applyEach .empty [.upsert entry.1 s.upsertMode entry.2] =
            .ok ([value], next, .empty) := by
          simp [Database.applyEach, Database.apply, upserted, Except.map]
        have ran := Memory.runChecked_of_run
          (Database.run_of_applyEach (by simp [Statement.isBracket]) alone)
        obtain ⟨log, remaining⟩ := ih (m := ⟨next, m.log ++ [_]⟩) written
        exact ⟨log, (Run.runFrom_bind_of_ok ran).trans remaining⟩

theorem writeEach_of_fits {s : Store} {entries : List (RecordId × Fields)} {m : Memory}
    (fit : ∀ entry ∈ entries, m.database.dimensionFault? entry.1.table.text entry.2 = none) :
    ∃ log, (s.writeEach Memory.executor entries).runFrom m =
      (.ok (), ⟨entries.foldl (Database.write s.upsertMode) m.database, log⟩) := by
  obtain ⟨values, applied⟩ := Database.applyEach_upserts s.upsertMode .empty fit
  obtain ⟨log, ran⟩ := runFrom_writeEach_append applied []
  rw [List.append_nil] at ran
  exact ⟨log, ran⟩

/-- The entries of documents, written one after another. -/
theorem database_foldl_write (s : Store) (documents : List StoredDocument) (db : Database) :
    let after := (documents.map s.entry).foldl (Database.write s.upsertMode) db
    after.indexes = db.indexes ∧
      after.table s.table.text = documents.foldl s.recordsWith (db.table s.table.text) := by
  refine ⟨Database.indexes_foldl_write .., ?_⟩
  have within : ∀ entry ∈ documents.map s.entry, entry.1.table = s.table := by simp [entry]
  rw [Database.table_foldl_write s.upsertMode within, List.foldl_map]
  rfl

theorem fit_of_prepare {s : Store} {db : Database} (fits : s.Fits db.indexes)
    {documents : List Document} {entries : List (RecordId × Fields)}
    (prepared : s.prepare documents = .ok entries) :
    ∀ entry ∈ entries, db.dimensionFault? entry.1.table.text entry.2 = none := by
  obtain ⟨rfl, accepted⟩ := prepare_eq_ok prepared
  intro entry member
  obtain ⟨e, stored, rfl⟩ := List.mem_map.mp member
  exact dimensionFault?_of_accepts fits (accepted e stored)

/-- Writing prepared entries has the effect of the call, one by one or at once. -/
theorem effect_of_prepare {s : Store} {c : Call} {documents : List Document}
    {entries : List (RecordId × Fields)} (call : c = .add documents ∨ c = .addBatched documents)
    (prepared : s.prepare documents = .ok entries) (db : Database) :
    s.Effect c (.ok ()) db (entries.foldl (Database.write s.upsertMode) db) := by
  obtain ⟨rfl, accepted⟩ := prepare_eq_ok prepared
  obtain ⟨indexes, table⟩ := database_foldl_write s (s.stored documents) db
  rcases call with rfl | rfl <;> exact ⟨indexes, table, fun _ => accepted⟩

theorem effect_add {s : Store} {m : Memory} (fits : s.Fits m.database.indexes)
    (documents : List Document) :
    ∃ outcome after, (s.add Memory.executor documents).runFrom m = (outcome, after) ∧
      s.Effect (.add documents) outcome m.database after.database := by
  cases prepared : s.prepare documents with
  | error e => exact ⟨.error e, m, runFrom_add_of_error prepared _ m, .failed ..⟩
  | ok entries =>
    obtain ⟨log, wrote⟩ := writeEach_of_fits (fit_of_prepare fits prepared)
    refine ⟨.ok (), ⟨_, log⟩, ?_, effect_of_prepare (.inl rfl) prepared m.database⟩
    rw [runFrom_add_of_ok prepared, wrote]

theorem effect_addBatched {s : Store} {m : Memory} (fits : s.Fits m.database.indexes)
    (documents : List Document) :
    ∃ outcome after, (s.addBatched Memory.executor documents).runFrom m = (outcome, after) ∧
      s.Effect (.addBatched documents) outcome m.database after.database := by
  by_cases none : documents = []
  · subst none
    have accepts : ∀ e ∈ s.stored (Call.addBatched []).documents, s.Accepts e := by
      simp [Call.documents, stored_nil]
    exact ⟨.ok (), m, rfl, rfl, by simp [recordsAfter, stored_nil], fun _ => accepts⟩
  · cases prepared : s.prepare documents with
    | error e => exact ⟨.error e, m, runFrom_addBatched_of_error prepared _ m, .failed ..⟩
    | ok entries =>
      obtain ⟨values, applied⟩ :=
        Database.applyEach_upserts s.upsertMode .empty (fit_of_prepare fits prepared)
      have ran := Memory.runChecked_of_run
        (Database.run_transaction_of_applyEach isBracket_of_mem_writes applied)
      exact ⟨.ok (), _, (runFrom_addBatched_of_ok none prepared _ m).trans ran,
        effect_of_prepare (.inr rfl) prepared m.database⟩

theorem effect_delete (s : Store) (m : Memory) (ids : List String) :
    ∃ outcome after, (s.delete Memory.executor ids).runFrom m = (outcome, after) ∧
      s.Effect (.delete ids) outcome m.database after.database := by
  have accepts : ∀ e ∈ s.stored (Call.delete ids).documents, s.Accepts e := by
    simp [Call.documents, stored_nil]
  by_cases none : ids = []
  · subst none
    exact ⟨.ok (), m, rfl, rfl, rfl, fun _ => accepts⟩
  · rw [delete, Executor.delete, if_neg (by simpa using none)]
    let targets : List RecordId := ids.map fun id => ⟨s.table, id⟩
    have applied : m.database.applyEach .empty [.delete targets] =
      .ok ([.array []], targets.foldl Database.remove m.database, .empty) := rfl
    have within : ∀ target ∈ targets, target.table = s.table := by simp [targets]
    refine ⟨.ok (), _, Memory.runChecked_of_run
      (Database.run_of_applyEach (by simp [Statement.isBracket]) applied),
      Database.indexes_foldl_remove .., ?_, fun _ => accepts⟩
    exact (Database.table_foldl_remove within m.database).trans (by rw [List.foldl_map]; rfl)

theorem vectorQuery_eq_ok {s : Store} {v : Embedding} {r : SearchRequest} {q : Query}
    (accepted : s.vectorQuery v r = .ok q) :
    r.validate = .ok () ∧ s.checkVector .query v = .ok () ∧
      ∃ filter, s.writtenFilter r.filter = .ok filter ∧
        q = [.bind queryParam v, .select (s.selection r.topK filter)] := by
  rw [vectorQuery] at accepted
  obtain ⟨_, validated, accepted⟩ := bind_eq_ok_iff.mp accepted
  obtain ⟨_, checked, accepted⟩ := bind_eq_ok_iff.mp accepted
  obtain ⟨filter, written, accepted⟩ := bind_eq_ok_iff.mp accepted
  exact ⟨validated, checked, filter, written, (Except.ok.inj accepted).symm⟩

/-- A search leaves the database as it is, whatever it answers. -/
theorem database_runSearch {s : Store} {m : Memory} {r : SearchRequest}
    {q : Except Error Query} (ofVector : ∀ query, q = .ok query →
      ∃ v, s.vectorQuery v r = .ok query) :
    ((s.runSearch Memory.executor r q).runFrom m).2.database = m.database := by
  cases q with
  | error e => rfl
  | ok query =>
    obtain ⟨v, accepted⟩ := ofVector query rfl
    obtain ⟨-, -, filter, -, rfl⟩ := vectorQuery_eq_ok accepted
    rw [runSearch, Run.runFrom_bind_of_ok (Run.runFrom_ofExcept ..),
      Run.runFrom_bind_of_ok (Memory.runFrom_executor ..), Run.runFrom_ofExcept,
      Database.run_bind_select]

theorem effect_search {s : Store} {m : Memory} {r : SearchRequest} {q : Except Error Query}
    {c : Call} (searches : c = .search r ∨ ∃ v, c = .searchVector v r)
    (ofVector : ∀ query, q = .ok query → ∃ v, s.vectorQuery v r = .ok query) :
    ∃ outcome after, (s.runSearch Memory.executor r q >>= fun _ => pure ()).runFrom m =
      (outcome, after) ∧ s.Effect c outcome m.database after.database := by
  have same := database_runSearch (m := m) ofVector
  rcases ran : (s.runSearch Memory.executor r q).runFrom m with ⟨outcome, after⟩
  replace same : after.database = m.database := by rw [ran] at same; exact same
  cases outcome with
  | error e =>
    refine ⟨.error e, after, Run.runFrom_bind_of_error ran, ?_⟩
    rw [same]
    exact .failed ..
  | ok results =>
    refine ⟨.ok (), after, Run.runFrom_bind_of_ok ran, ?_⟩
    rw [same]
    rcases searches with rfl | ⟨v, rfl⟩ <;>
      exact ⟨rfl, rfl, by simp [Call.documents, stored_nil]⟩

theorem exists_vectorQuery_of_textQuery {s : Store} {r : SearchRequest} {q : Query}
    (accepted : s.textQuery r = .ok q) :
    ∃ v, s.embedder.embed r.query = .ok v ∧ s.vectorQuery v r = .ok q := by
  rw [textQuery] at accepted
  obtain ⟨_, -, accepted⟩ := bind_eq_ok_iff.mp accepted
  obtain ⟨v, embedded, accepted⟩ := bind_eq_ok_iff.mp accepted
  exact ⟨v, embedded, accepted⟩

/-- The effect of any call; that writes fit the indexes is the only thing it takes. -/
theorem run_call {s : Store} {m : Memory} (fits : s.Fits m.database.indexes) (c : Call) :
    ∃ outcome after, (c.run s Memory.executor).runFrom m = (outcome, after) ∧
      s.Effect c outcome m.database after.database := by
  cases c with
  | add documents => exact effect_add fits documents
  | addBatched documents => exact effect_addBatched fits documents
  | delete ids => exact effect_delete s m ids
  | search r =>
    refine effect_search (.inl rfl) fun query accepted => ?_
    obtain ⟨v, -, accepted⟩ := exists_vectorQuery_of_textQuery accepted
    exact ⟨v, accepted⟩
  | searchVector v r => exact effect_search (.inr ⟨v, rfl⟩) fun query accepted => ⟨v, accepted⟩

/-! ## Runs of calls -/

/-- The live documents after a call with an outcome: what it stored under an id takes the place of
what was live there, and what it deleted is gone. -/
def liveAfter (s : Store) (live : SortedMap StoredDocument) : Call → Except Error Unit →
    SortedMap StoredDocument
  | .add documents, .ok () | .addBatched documents, .ok () =>
    (s.stored documents).foldl (fun live e => live.insert e.document.id e) live
  | .delete ids, .ok () => ids.foldl SortedMap.erase live
  | _, _ => live

/-- A memory beside the documents that are live in it. -/
structure Progress where
  memory : Memory
  live : SortedMap StoredDocument

/-- Runs a call and keeps account of the live documents by its outcome. -/
def advance (s : Store) (p : Progress) (c : Call) : Progress :=
  let (outcome, memory) := (c.run s Memory.executor).runFrom p.memory
  ⟨memory, s.liveAfter p.live c outcome⟩

/-- The record of a stored document where writes do not merge. -/
def record (s : Store) (e : StoredDocument) : Fields :=
  (s.recordBody e.document e.vector).insert "id" (.string (RecordId.text ⟨s.table, e.document.id⟩))

/-- What holds between calls: the table has the records of the live documents, each under its
document's id, and the store took every one of them. -/
structure Holds (s : Store) (indexes : SortedMap IndexEntry) (p : Progress) : Prop where
  indexes : p.memory.database.indexes = indexes
  table : p.memory.database.table s.table.text = p.live.mapValues s.record
  id : ∀ key e, p.live.find? key = some e → e.document.id = key
  accepts : ∀ key e, p.live.find? key = some e → s.Accepts e

theorem recordsWith_of_ne_merge {s : Store} (mode : s.upsertMode ≠ .merge)
    (live : SortedMap StoredDocument) (e : StoredDocument) :
    s.recordsWith (live.mapValues s.record) e =
      (live.insert e.document.id e).mapValues s.record := by
  rw [SortedMap.mapValues_insert, recordsWith, Database.written_of_ne_merge mode]
  rfl

theorem recordsAfter_eq_mapValues_liveAfter {s : Store} (mode : s.upsertMode ≠ .merge)
    (live : SortedMap StoredDocument) (c : Call) (outcome : Except Error Unit) :
    s.recordsAfter (live.mapValues s.record) c outcome =
      (s.liveAfter live c outcome).mapValues s.record := by
  have writes (documents : List StoredDocument) (live : SortedMap StoredDocument) :
      documents.foldl s.recordsWith (live.mapValues s.record) =
        (documents.foldl (fun live e => live.insert e.document.id e) live).mapValues s.record := by
    induction documents generalizing live with
    | nil => rfl
    | cons e rest ih => rw [List.foldl_cons, recordsWith_of_ne_merge mode, ih, List.foldl_cons]
  have removals (ids : List String) (live : SortedMap StoredDocument) :
      ids.foldl SortedMap.erase (live.mapValues s.record) =
        (ids.foldl SortedMap.erase live).mapValues s.record := by
    induction ids generalizing live with
    | nil => rfl
    | cons id rest ih => rw [List.foldl_cons, ← SortedMap.mapValues_erase, ih, List.foldl_cons]
  cases outcome with
  | error e => cases c <;> rfl
  | ok done =>
    cases c with
    | add documents => exact writes ..
    | addBatched documents => exact writes ..
    | delete ids => exact removals ..
    | search r => rfl
    | searchVector v r => rfl

/-- What is live after a call was live before or is stored by it. -/
theorem live_of_liveAfter {s : Store} {live : SortedMap StoredDocument} {c : Call}
    {outcome : Except Error Unit} {key : String} {e : StoredDocument}
    (found : (s.liveAfter live c outcome).find? key = some e) :
    live.find? key = some e ∨
      (outcome = .ok () ∧ e.document.id = key ∧ e ∈ s.stored c.documents) := by
  have writes (documents : List StoredDocument) (live : SortedMap StoredDocument)
      (found : (documents.foldl (fun live e => live.insert e.document.id e) live).find? key =
        some e) : live.find? key = some e ∨ (e.document.id = key ∧ e ∈ documents) := by
    induction documents generalizing live with
    | nil => exact .inl found
    | cons d rest ih =>
      rcases ih _ found with earlier | ⟨id, member⟩
      · rw [SortedMap.find?_insert] at earlier
        split at earlier
        next same =>
          obtain rfl := Option.some.inj earlier
          exact .inr ⟨same.symm, List.mem_cons_self⟩
        · exact .inl earlier
      · exact .inr ⟨id, List.mem_cons_of_mem _ member⟩
  have removals (ids : List String) (live : SortedMap StoredDocument)
      (found : (ids.foldl SortedMap.erase live).find? key = some e) : live.find? key = some e := by
    induction ids generalizing live with
    | nil => exact found
    | cons id rest ih =>
      have earlier := ih _ found
      rw [SortedMap.find?_erase] at earlier
      split at earlier
      · contradiction
      · exact earlier
  cases outcome with
  | error fault => cases c <;> exact .inl found
  | ok done =>
    cases c with
    | add documents => exact (writes _ _ found).imp_right fun stored => ⟨rfl, stored⟩
    | addBatched documents => exact (writes _ _ found).imp_right fun stored => ⟨rfl, stored⟩
    | delete ids => exact .inl (removals _ _ found)
    | search r => exact .inl found
    | searchVector v r => exact .inl found

variable {s : Store} {indexes : SortedMap IndexEntry}

theorem Holds.advance {p : Progress} (mode : s.upsertMode ≠ .merge) (fits : s.Fits indexes)
    (holds : s.Holds indexes p) (c : Call) : s.Holds indexes (s.advance p c) := by
  obtain ⟨outcome, after, ran, effect⟩ := run_call (holds.indexes ▸ fits) c
  have advanced : s.advance p c = ⟨after, s.liveAfter p.live c outcome⟩ := by
    rw [Store.advance, ran]
  rw [advanced]
  refine ⟨effect.indexes.trans holds.indexes, ?_, fun key e found => ?_, fun key e found => ?_⟩
  · rw [effect.table, holds.table, recordsAfter_eq_mapValues_liveAfter mode]
  · rcases live_of_liveAfter found with before | ⟨-, id, -⟩
    · exact holds.id key e before
    · exact id
  · rcases live_of_liveAfter found with before | ⟨succeeded, -, stored⟩
    · exact holds.accepts key e before
    · exact effect.accepts succeeded e stored

/-- After any calls on a store, the table has the records of the live documents. -/
theorem Holds.run {p : Progress} (mode : s.upsertMode ≠ .merge) (fits : s.Fits indexes)
    (holds : s.Holds indexes p) (calls : List Call) :
    s.Holds indexes (calls.foldl s.advance p) := by
  induction calls generalizing p with
  | nil => exact holds
  | cons c rest ih => exact ih (holds.advance mode fits c)

theorem holds_of_empty {m : Memory} (fresh : m.database = ⟨.empty, indexes⟩) :
    s.Holds indexes ⟨m, .empty⟩ where
  indexes := by rw [fresh]
  table := by rw [fresh]; rfl
  id := nofun
  accepts := nofun

end Store
end VectorStore
