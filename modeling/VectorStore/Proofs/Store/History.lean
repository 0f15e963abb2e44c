import Mathlib.Data.List.Induction
import VectorStore.Proofs.Store.Calls

/-!
The table of a store as a map from ids to documents, over any calls and in every upsert mode. A
history lists what the successful calls of a run wrote and removed. The table has a record under
each id that was written since it was last removed and no other record, and the fields of that
record are read off the documents written since (`Store.table_eq_fieldAfter`).
-/
namespace VectorStore

/-- A change to the documents of a store. -/
inductive Change
  | wrote (e : StoredDocument)
  | removed (id : String)

/-- The documents written under an id since it was last removed, after a change. -/
def Change.since (id : String) (writes : List StoredDocument) : Change → List StoredDocument
  | wrote e => if e.document.id = id then writes ++ [e] else writes
  | removed id' => if id' = id then [] else writes

/-- The documents written under an id since it was last removed, oldest first. The id is live while
there is one. -/
def writesSince (id : String) (changes : List Change) : List StoredDocument :=
  changes.foldl (Change.since id) []

/-- Whether a call only searches. -/
def Call.isSearch : Call → Bool
  | search _ | searchVector _ _ => true
  | _ => false

namespace Store

/-- What a call with an outcome wrote and removed, in order; a call that failed did neither. -/
def changes (s : Store) : Call → Except Error Unit → List Change
  | .add documents, .ok () | .addBatched documents, .ok () => (s.stored documents).map .wrote
  | .delete ids, .ok () => ids.map .removed
  | _, _ => []

/-- A memory beside the changes that calls made in it. -/
structure History where
  memory : Memory
  changes : List Change

/-- Runs a call and keeps account of its changes by its outcome. -/
def proceed (s : Store) (h : History) (c : Call) : History :=
  let (outcome, memory) := (c.run s Memory.executor).runFrom h.memory
  ⟨memory, h.changes ++ s.changes c outcome⟩

/-- A field of the record that a document is written as: the reference to the record, the vector,
the text, or what the metadata has there. -/
def field (s : Store) (e : StoredDocument) (key : String) : Option Json :=
  if key = "id" then some (.string (RecordId.text ⟨s.table, e.document.id⟩))
  else if key = s.embeddingField.text then some (.array (e.vector.map Json.ofSingle))
  else if key = s.contentField.text then some (.string e.document.content)
  else e.document.metadata.find? key

/-- A field of the record that writes under one id leave: that of the last document, and where
writes merge, that of the last one that has it. -/
def fieldAfter (s : Store) (writes : List StoredDocument) (key : String) : Option Json :=
  match s.upsertMode with
  | .merge => writes.reverse.findSome? fun e => s.field e key
  | .content | .replace => writes.getLast?.bind fun e => s.field e key

/-! ## The record of an id -/

/-- The record that writes under one id leave. -/
def recordOf (s : Store) (writes : List StoredDocument) : Option Fields :=
  writes.foldl (fun before e => some (Database.written ⟨s.table, e.document.id⟩ s.upsertMode before
    (s.recordBody e.document e.vector))) none

/-- The records of the store's table after a change. -/
def recordsChanged (s : Store) (records : SortedMap Fields) : Change → SortedMap Fields
  | .wrote e => s.recordsWith records e
  | .removed id => records.erase id

theorem recordsAfter_eq_foldl (s : Store) (records : SortedMap Fields) (c : Call)
    (outcome : Except Error Unit) :
    s.recordsAfter records c outcome =
      (s.changes c outcome).foldl s.recordsChanged records := by
  cases outcome with
  | error e => cases c <;> rfl
  | ok done =>
    cases c with
    | add documents => exact (List.foldl_map (f := .wrote) (g := s.recordsChanged)).symm
    | addBatched documents => exact (List.foldl_map (f := .wrote) (g := s.recordsChanged)).symm
    | delete ids => exact (List.foldl_map (f := .removed) (g := s.recordsChanged)).symm
    | search r => rfl
    | searchVector v r => rfl

/-- The record under an id depends on the writes under it since it was last removed only. -/
theorem find?_foldl_recordsChanged (s : Store) (id : String) (changes : List Change)
    {records : SortedMap Fields} {writes : List StoredDocument}
    (found : records.find? id = s.recordOf writes) :
    (changes.foldl s.recordsChanged records).find? id =
      s.recordOf (changes.foldl (Change.since id) writes) := by
  -- one change to the records makes the same change to the writes that `found` speaks of
  induction changes generalizing records writes with
  | nil => exact found
  | cons change rest ih =>
    refine ih ?_
    cases change with
    | wrote e =>
      rw [recordsChanged, recordsWith, SortedMap.find?_insert, Change.since]
      by_cases same : e.document.id = id
      · subst same
        simp [recordOf, found]
      · simp [same, Ne.symm same, found]
    | removed id' =>
      rw [recordsChanged, SortedMap.find?_erase, Change.since]
      by_cases same : id' = id
      · simp [same, recordOf]
      · simp [same, Ne.symm same, found]

theorem find?_recordBody_of_ne_id {s : Store} {e : StoredDocument} (accepted : s.Accepts e)
    {key : String} (ne : key ≠ "id") :
    (s.recordBody e.document e.vector).find? key = s.field e key := by
  have unused (reserved : key ∈ s.reservedKeys) : e.document.metadata.find? key = none :=
    SortedMap.find?_eq_none_of_not_mem (accepted.unreserved key reserved)
  rw [recordBody, SortedMap.find?_overlay, SortedMap.find?_insert, SortedMap.find?_insert,
    SortedMap.find?_empty, field, if_neg ne]
  by_cases embedding : key = s.embeddingField.text
  · rw [unused (by simp [embedding, reservedKeys]), Option.none_or, if_pos embedding]
  · rw [if_neg embedding, if_neg embedding]
    by_cases content : key = s.contentField.text
    · rw [unused (by simp [content, reservedKeys]), Option.none_or, if_pos content]
    · rw [if_neg content, if_neg content, Option.or_none]

/-- The fields of a record that a document was just written to. -/
theorem find?_written {s : Store} {e : StoredDocument} (accepted : s.Accepts e)
    (before : Option Fields) (key : String) :
    (Database.written ⟨s.table, e.document.id⟩ s.upsertMode before
        (s.recordBody e.document e.vector)).find? key =
      (s.field e key).or
        (if s.upsertMode = .merge then before.bind (SortedMap.find? · key) else none) := by
  by_cases id : key = "id"
  · simp [Database.written, id, field]
  · have body := find?_recordBody_of_ne_id accepted id
    cases mode : s.upsertMode with
    | content => simp [Database.written, SortedMap.find?_insert, id, body]
    | replace => simp [Database.written, SortedMap.find?_insert, id, body]
    | merge =>
      cases before with
      | none => simp [Database.written, SortedMap.find?_insert, id, body]
      | some existing =>
        simp [Database.written, SortedMap.find?_insert, SortedMap.find?_overlay, id, body]

theorem fieldAfter_concat (s : Store) (writes : List StoredDocument) (e : StoredDocument)
    (key : String) :
    s.fieldAfter (writes ++ [e]) key =
      (s.field e key).or (if s.upsertMode = .merge then s.fieldAfter writes key else none) := by
  rw [fieldAfter, fieldAfter]
  cases s.upsertMode with
  | content => simp
  | replace => simp
  | merge => cases field : s.field e key <;> simp [field]

/-- Accepted documents written under one id leave a record with the fields they leave. -/
theorem find?_recordOf {s : Store} (writes : List StoredDocument)
    (accepted : ∀ e ∈ writes, s.Accepts e) (key : String) :
    (s.recordOf writes).bind (SortedMap.find? · key) = s.fieldAfter writes key := by
  induction writes using List.reverseRecOn with
  | nil => cases mode : s.upsertMode <;> simp [recordOf, fieldAfter, mode]
  | append_singleton writes e ih =>
    obtain ⟨earlier, last⟩ := List.forall_mem_append.mp accepted
    have after : s.recordOf (writes ++ [e]) = some (Database.written ⟨s.table, e.document.id⟩
        s.upsertMode (s.recordOf writes) (s.recordBody e.document e.vector)) := by
      simp [recordOf]
    rw [after, Option.bind_some, find?_written (last e List.mem_cons_self), ih earlier,
      fieldAfter_concat]

theorem exists_recordOf {s : Store} {writes : List StoredDocument} (live : writes ≠ []) :
    ∃ record, s.recordOf writes = some record := by
  induction writes using List.reverseRecOn with
  | nil => exact absurd rfl live
  | append_singleton writes e _ => exact ⟨_, by simp only [recordOf, List.foldl_append]; rfl⟩

/-! ## Runs of calls -/

theorem mem_of_mem_since {id : String} {e : StoredDocument} {changes : List Change} :
    {writes : List StoredDocument} → e ∈ changes.foldl (Change.since id) writes →
      e ∈ writes ∨ Change.wrote e ∈ changes := by
  induction changes with
  | nil => exact fun member => .inl member
  | cons change rest ih =>
    intro writes member
    rcases ih member with earlier | later
    · cases change with
      | wrote d =>
        rw [Change.since] at earlier
        split at earlier
        · rcases List.mem_append.mp earlier with before | now
          · exact .inl before
          · obtain rfl := List.mem_singleton.mp now
            exact .inr List.mem_cons_self
        · exact .inl earlier
      | removed id' =>
        rw [Change.since] at earlier
        split at earlier
        · cases earlier
        · exact .inl earlier
    · exact .inr (List.mem_cons_of_mem _ later)

/-- What holds between calls: the table is what the changes make of an empty one, and the store took
every document written. -/
structure Follows (s : Store) (indexes : SortedMap IndexEntry) (h : History) : Prop where
  indexes : h.memory.database.indexes = indexes
  table : h.memory.database.table s.table.text = h.changes.foldl s.recordsChanged .empty
  accepts : ∀ e, .wrote e ∈ h.changes → s.Accepts e

/-- What a call writes is stored by it. -/
theorem mem_stored_of_wrote {s : Store} {c : Call} {outcome : Except Error Unit}
    {e : StoredDocument} (wrote : .wrote e ∈ s.changes c outcome) :
    outcome = .ok () ∧ e ∈ s.stored c.documents := by
  cases outcome with
  | error fault => cases c <;> cases wrote
  | ok done =>
    refine ⟨rfl, ?_⟩
    cases c with
    | add documents => simpa [changes, Call.documents] using wrote
    | addBatched documents => simpa [changes, Call.documents] using wrote
    | delete ids => simp [changes] at wrote
    | search r => cases wrote
    | searchVector v r => cases wrote

variable {s : Store} {indexes : SortedMap IndexEntry}

theorem Follows.proceed {h : History} (fits : s.Fits indexes) (follows : s.Follows indexes h)
    (c : Call) : s.Follows indexes (s.proceed h c) := by
  obtain ⟨outcome, after, ran, effect⟩ := run_call (follows.indexes ▸ fits) c
  have proceeded : s.proceed h c = ⟨after, h.changes ++ s.changes c outcome⟩ := by
    rw [Store.proceed, ran]
  rw [proceeded]
  refine ⟨effect.indexes.trans follows.indexes, ?_, fun e wrote => ?_⟩
  · rw [effect.table, follows.table, recordsAfter_eq_foldl, List.foldl_append]
  · rcases List.mem_append.mp wrote with before | now
    · exact follows.accepts e before
    · obtain ⟨succeeded, stored⟩ := mem_stored_of_wrote now
      exact effect.accepts succeeded e stored

/-- After any calls on a store, the table is what their changes make of it. -/
theorem Follows.run {h : History} (fits : s.Fits indexes) (follows : s.Follows indexes h)
    (calls : List Call) : s.Follows indexes (calls.foldl s.proceed h) := by
  induction calls generalizing h with
  | nil => exact follows
  | cons c rest ih => exact ih (follows.proceed fits c)

theorem follows_of_empty {m : Memory} (fresh : m.database = ⟨.empty, indexes⟩) :
    s.Follows indexes ⟨m, []⟩ where
  indexes := by rw [fresh]
  table := by rw [fresh]; rfl
  accepts := nofun

/-- The record that the table has under an id. -/
theorem Follows.record? {h : History} (follows : s.Follows indexes h) (id : String) :
    h.memory.database.record? s.table.text id = s.recordOf (writesSince id h.changes) := by
  rw [Database.record?, follows.table]
  exact find?_foldl_recordsChanged s id h.changes rfl

/-- A call that fails and one that searches change nothing. -/
theorem changes_of_idle {c : Call} {outcome : Except Error Unit}
    (idle : outcome ≠ .ok () ∨ c.isSearch = true) : s.changes c outcome = [] := by
  cases outcome with
  | error e => cases c <;> rfl
  | ok done =>
    have searches : c.isSearch = true := idle.resolve_left (absurd rfl ·)
    cases c with
    | search r => rfl
    | searchVector v r => rfl
    | add _ | addBatched _ | delete _ => contradiction

/-! ## Successful writes -/

theorem documents_withVectors {documents : List Document} :
    {computed : List Embedding} → {entries : List (RecordId × Fields)} →
      s.records computed documents = .ok entries →
      (withVectors documents computed).map (·.document) = documents := by
  induction documents with
  | nil => intro _ _ _; rfl
  | cons d rest ih =>
    intro computed entries written
    rw [records_cons] at written
    rw [withVectors]
    split at written
    · contradiction
    next v left next =>
      rw [next]
      split at written
      · contradiction
      · split at written
        · contradiction
        next others later => rw [List.map_cons, ih later]

theorem documents_stored_of_prepare {documents : List Document}
    {entries : List (RecordId × Fields)} (prepared : s.prepare documents = .ok entries) :
    (s.stored documents).map (·.document) = documents := by
  rw [prepare] at prepared
  split at prepared
  · contradiction
  · split at prepared
    · contradiction
    next computed embedded =>
      rw [stored, embedded]
      exact documents_withVectors prepared

/-- A call that succeeds stores every document it names. -/
theorem documents_stored {m : Memory} {c : Call}
    (succeeded : ((c.run s Memory.executor).runFrom m).1 = .ok ()) :
    (s.stored c.documents).map (·.document) = c.documents := by
  cases prepared : s.prepare c.documents with
  | error e =>
    rw [runFrom_call_of_error prepared] at succeeded
    contradiction
  | ok entries => exact documents_stored_of_prepare prepared

/-! ## A store that merges -/

/-- A configuration whose writes merge. -/
def mergingConfig : StoreConfig :=
  { StoreConfig.standard with
    indexName := "notes_index"
    tableName := "notes"
    contentField := "body"
    embeddingField := "place"
    upsertMode := .merge }

/-- A model that gives every text the same number and does not report a dimension. -/
def lineEmbedder : Embedder := .ofSingle 0 fun _ => .ok [1.0]

/-- A store whose writes merge. -/
def mergingStore : Store where
  index := ⟨"notes_index", by decide⟩
  table := ⟨"notes", by decide⟩
  contentField := ⟨"body", by decide⟩
  embeddingField := ⟨"place", by decide⟩
  vectorType := mergingConfig.vectorType
  distance := mergingConfig.distance
  algorithm := mergingConfig.algorithm
  searchBreadth := 100
  upsertMode := .merge
  initializeSchema := false
  efc := none
  m := none
  embedder := lineEmbedder
  batching := Batching.standard
  writeFilter := Filter.condition

/-- A document that is written twice under one id, with other metadata and another text each
time. -/
def draft : StoredDocument :=
  ⟨⟨"a", "draft", SortedMap.empty.insert "open" (.bool true), some [1.0]⟩, [1.0]⟩
def revision : StoredDocument :=
  ⟨⟨"a", "revision", SortedMap.empty.insert "final" (.bool true), some [1.0]⟩, [1.0]⟩

/-- Calls that write both, the second one beside a document that is removed again. -/
def draftThenRevision : List Call :=
  [.add [draft.document], .addBatched [⟨"b", "", .empty, some [1.0]⟩, revision.document],
    .delete ["b"]]

theorem writesSince_draftThenRevision :
    writesSince "a" (draftThenRevision.foldl mergingStore.proceed ⟨.empty, []⟩).changes =
      [draft, revision] := rfl

/-! ## The theorem on the table -/

/-- After any calls on a store that was built over an empty database, the table has a record under
each id written since it was last removed and under no other, with the fields that these writes
leave. A call that succeeds has stored all its documents; one that fails and one that searches leave
the table as it was. -/
theorem table_eq_fieldAfter {c : StoreConfig} {embedder : Embedder} {batching : Grouping}
    {writeFilter : Filter → Except Error String} {m : Memory}
    (built : (build c embedder batching writeFilter Memory.executor).runFrom .empty = (.ok s, m))
    (calls : List Call) :
    let h := calls.foldl s.proceed ⟨m, []⟩
    (∀ id, let writes := writesSince id h.changes
      let record := h.memory.database.record? s.table.text id
      (writes = [] → record = none) ∧ (writes ≠ [] →
        ∃ fields, record = some fields ∧ ∀ key, fields.find? key = s.fieldAfter writes key)) ∧
    ∀ call : Call, let ran := (call.run s Memory.executor).runFrom h.memory
      (ran.1 = .ok () → (s.stored call.documents).map (·.document) = call.documents) ∧
      (ran.1 ≠ .ok () ∨ call.isSearch = true →
        ran.2.database.table s.table.text = h.memory.database.table s.table.text) := by
  intro h
  obtain ⟨-, fresh, positive⟩ := built_of_build built
  have fits := fits_builtIndexes positive
  have follows : s.Follows s.builtIndexes h := (follows_of_empty fresh).run fits calls
  refine ⟨fun id => ?_, fun call => ?_⟩
  · intro writes record
    have found : record = s.recordOf writes := follows.record? id
    refine ⟨fun gone => by rw [found, gone]; rfl, fun live => ?_⟩
    have accepted : ∀ e ∈ writes, s.Accepts e := fun e member =>
      follows.accepts e ((mem_of_mem_since member).resolve_left List.not_mem_nil)
    obtain ⟨fields, left⟩ := exists_recordOf (s := s) live
    refine ⟨fields, found.trans left, fun key => ?_⟩
    rw [← find?_recordOf writes accepted key, left, Option.bind_some]
  · intro ran
    obtain ⟨outcome, after, result, effect⟩ := run_call (follows.indexes ▸ fits) call
    refine ⟨documents_stored, fun idle => ?_⟩
    rw [show ran = (outcome, after) from result] at idle ⊢
    rw [effect.table, recordsAfter_eq_foldl, changes_of_idle idle, List.foldl_nil]

/-- The text is that of the second write, and the metadata of the first is still there. -/
theorem fieldAfter_draftThenRevision :
    (build mergingConfig lineEmbedder Batching.standard Filter.condition Memory.executor).runFrom
        .empty = (.ok mergingStore, .empty) ∧
      ∃ fields, (draftThenRevision.foldl mergingStore.proceed
          ⟨.empty, []⟩).memory.database.record? "notes" "a" = some fields ∧
        fields.find? "body" = some (.string "revision") ∧
        fields.find? "open" = some (.bool true) := by
  have built : (build mergingConfig lineEmbedder Batching.standard Filter.condition
    Memory.executor).runFrom .empty = (.ok mergingStore, .empty) := rfl
  have writes := writesSince_draftThenRevision
  obtain ⟨fields, found, has⟩ :=
    ((table_eq_fieldAfter built draftThenRevision).1 "a").2 (by simp [writes])
  rw [writes] at has
  exact ⟨built, fields, found, has "body", has "open"⟩

end Store

end VectorStore
