import Mathlib.Data.List.Nodup
import Mathlib.Data.List.Perm.Basic
import VectorStore.Proofs.Database.Reachable
import VectorStore.Proofs.Store.Insertion
import VectorStore.Proofs.Store.Preparation

/-!
Documents in another order. With a model that takes a group text by text, and a grouping that keeps
its contract, a store writes the same record for a document wherever it stands in the list, and
writes of different records do not see each other; so documents with different ids can be written in
any order, and leave the same database (`Store.add_perm`).
-/
namespace VectorStore

namespace Database

/-- Upserts that succeed one after another fit the indexes that were there before the first. -/
theorem fits_of_applyEach {mode : UpsertMode} {bindings : Bindings} {after : Database × Bindings}
    {entries : List (RecordId × Fields)} {db : Database} {values : List Json}
    (applied : db.applyEach bindings (entries.map fun entry => .upsert entry.1 mode entry.2) =
      .ok (values, after)) :
    ∀ entry ∈ entries, db.dimensionFault? entry.1.table.text entry.2 = none := by
  induction entries generalizing db values with
  | nil => simp
  | cons entry rest ih =>
    rw [List.map_cons, applyEach, apply] at applied
    cases fits : db.dimensionFault? entry.1.table.text entry.2 with
    | some fault => simp [upsert, fits, Except.map] at applied
    | none =>
      obtain ⟨value, upserted⟩ := upsert_eq_write mode fits
      simp only [upserted, Except.map] at applied
      split at applied
      · contradiction
      next others left later =>
        obtain ⟨-, rfl⟩ : value :: others = values ∧ left = after := by simpa using applied
        refine List.forall_mem_cons.mpr ⟨fits, ?_⟩
        intro other member
        rw [← ih later other member]
        exact dimensionFault?_congr (indexes_write mode db entry).symm ..

/-- Writes of pairwise different records in any order. -/
theorem foldl_write_perm (mode : UpsertMode) {entries permuted : List (RecordId × Fields)}
    (perm : entries.Perm permuted)
    (distinct : ∀ first ∈ entries, ∀ second ∈ entries, first ≠ second → first.1 ≠ second.1)
    (db : Database) : entries.foldl (write mode) db = permuted.foldl (write mode) db := by
  refine perm.foldl_eq' ?_ db
  intro first member second member' db
  by_cases same : first = second
  · rw [same]
  · exact write_comm mode db (distinct first member second member' same)

end Database

namespace Store

variable {s : Store} {m : Memory} {documents permuted : List Document}
  {entries : List (RecordId × Fields)}

/-! ## One list -/

theorem runFrom_add_of_fits (prepared : s.prepare documents = .ok entries)
    (fits : ∀ e ∈ s.stored documents,
      m.database.dimensionFault? s.table.text (s.entry e).2 = none) :
    ∃ log, (s.add Memory.executor documents).runFrom m =
      (.ok (), ⟨((s.stored documents).map s.entry).foldl (Database.write s.upsertMode) m.database,
        log⟩) := by
  obtain ⟨rfl, -⟩ := prepare_eq_ok prepared
  rw [runFrom_add_of_ok prepared]
  refine writeEach_of_fits ?_
  intro entry member
  obtain ⟨e, stored, rfl⟩ := List.mem_map.mp member
  exact fits e stored

/-- Documents are all written exactly if they can be prepared and fit the indexes. -/
theorem add_eq_ok_iff : ((s.add Memory.executor documents).runFrom m).1 = .ok () ↔
    (∃ entries, s.prepare documents = .ok entries) ∧ ∀ e ∈ s.stored documents,
      m.database.dimensionFault? s.table.text (s.entry e).2 = none := by
  constructor
  · intro succeeded
    cases prepared : s.prepare documents with
    | error fault =>
      rw [runFrom_add_of_error prepared] at succeeded
      contradiction
    | ok entries =>
      refine ⟨⟨entries, rfl⟩, ?_⟩
      rcases applyEach_write_or_stops prepared m.database with ⟨values, after, applied⟩ |
        ⟨before, failing, rest, values, left, bindings, fault, -, vectors, applied, failed⟩
      · rw [← writes_map_entry] at applied
        intro e member
        exact Database.fits_of_applyEach applied (s.entry e) (List.mem_map_of_mem member)
      · obtain ⟨rfl, -⟩ := prepare_eq_ok prepared
        rw [vectors] at prepared
        obtain ⟨log, ran⟩ := runFrom_add_of_stops prepared applied failed
        rw [ran] at succeeded
        contradiction
  · rintro ⟨⟨entries, prepared⟩, fits⟩
    obtain ⟨log, ran⟩ := runFrom_add_of_fits prepared fits
    rw [ran]

/-! ## The same documents in another order -/

/-- A document beside the vector it has by itself. -/
def ownStored (s : Store) (d : Document) : StoredDocument :=
  ⟨d, (s.embedder.vectorOf d).toOption.getD []⟩

theorem stored_eq_map (textwise : s.embedder.Textwise) (covers : s.batching.Covers)
    (prepared : s.prepare documents = .ok entries) :
    s.stored documents = documents.map s.ownStored := by
  have order := documents_stored_of_prepare prepared
  have own := @vectorOf_of_mem_stored s documents textwise covers
  generalize s.stored documents = stored at order own
  subst order
  rw [List.map_map]
  refine (List.map_id stored).symm.trans (List.map_congr_left ?_)
  intro e member
  simp [ownStored, own e member, Except.toOption]

theorem stored_perm (textwise : s.embedder.Textwise) (covers : s.batching.Covers)
    (perm : documents.Perm permuted) {entries' : List (RecordId × Fields)}
    (prepared : s.prepare documents = .ok entries)
    (prepared' : s.prepare permuted = .ok entries') :
    (s.stored documents).Perm (s.stored permuted) := by
  rw [stored_eq_map textwise covers prepared, stored_eq_map textwise covers prepared']
  exact perm.map s.ownStored

theorem exists_prepare_perm (textwise : s.embedder.Textwise) (covers : s.batching.Covers)
    (decides : s.batching.Textwise) (perm : documents.Perm permuted) :
    (∃ entries, s.prepare documents = .ok entries) ↔
      ∃ entries, s.prepare permuted = .ok entries := by
  rw [exists_prepare_iff_ready textwise covers decides,
    exists_prepare_iff_ready textwise covers decides]
  simp only [perm.mem_iff]

/-- Different documents of a list have different records. -/
theorem target_ne_of_ne (prepared : s.prepare documents = .ok entries)
    (distinct : (documents.map (·.id)).Nodup) :
    ∀ first ∈ (s.stored documents).map s.entry, ∀ second ∈ (s.stored documents).map s.entry,
      first ≠ second → first.1 ≠ second.1 := by
  have order := documents_stored_of_prepare prepared
  rw [← order, List.map_map] at distinct
  intro first member second member' ne same
  obtain ⟨e, stored, rfl⟩ := List.mem_map.mp member
  obtain ⟨e', stored', rfl⟩ := List.mem_map.mp member'
  have id : e.document.id = e'.document.id := congrArg RecordId.key same
  exact ne (congrArg s.entry (List.inj_on_of_nodup_map distinct stored stored' id))

/-- Documents with different ids are written in any order or in none, and leave the same records and
indexes, under a grouping that keeps its contract, as every batching does. -/
theorem add_perm (textwise : s.embedder.Textwise) (covers : s.batching.Covers)
    (decides : s.batching.Textwise) (m : Memory) (perm : documents.Perm permuted)
    (distinct : (documents.map (·.id)).Nodup) :
    let first := (s.add Memory.executor documents).runFrom m
    let second := (s.add Memory.executor permuted).runFrom m
    (first.1 = .ok () ↔ second.1 = .ok ()) ∧
      (first.1 = .ok () → first.2.database = second.2.database) := by
  intro first second
  have prepares := exists_prepare_perm textwise covers decides perm
  constructor
  · rw [add_eq_ok_iff, add_eq_ok_iff, ← prepares]
    refine and_congr_right ?_
    rintro ⟨entries, prepared⟩
    obtain ⟨entries', prepared'⟩ := prepares.mp ⟨entries, prepared⟩
    simp only [(stored_perm textwise covers perm prepared prepared').mem_iff]
  · intro succeeded
    obtain ⟨⟨entries, prepared⟩, fits⟩ := add_eq_ok_iff.mp succeeded
    obtain ⟨entries', prepared'⟩ := prepares.mp ⟨entries, prepared⟩
    have stored := stored_perm textwise covers perm prepared prepared'
    obtain ⟨log, ran⟩ := runFrom_add_of_fits prepared fits
    obtain ⟨log', ran'⟩ := runFrom_add_of_fits prepared' fun e member =>
      fits e (stored.mem_iff.mpr member)
    have left : first.2.database = _ := congrArg (·.2.database) ran
    have right : second.2.database = _ := congrArg (·.2.database) ran'
    rw [left, right]
    exact Database.foldl_write_perm s.upsertMode (stored.map s.entry)
      (target_ne_of_ne prepared distinct) m.database

/-- A database with an index over the vectors of a store and a record that writes of one document
merge into. -/
def begunMemory : Memory :=
  ⟨⟨.insert .empty "notes" (.insert .empty "b" (.insert .empty "open" (.bool true))),
    .insert .empty "notes_index" betaStore.indexEntry⟩, []⟩

theorem fits_begunMemory : betaStore.Fits begunMemory.database.indexes := by
  intro index member _
  obtain rfl : index = betaStore.indexEntry := by
    simpa [begunMemory, SortedMap.values, SortedMap.insert, SortedMap.empty, SortedMap.place]
      using member
  exact ⟨rfl, rfl, Nat.one_pos⟩

/-- Documents are written from the first to the last and from the last to the first. -/
theorem add_perm_reversed :
    let first := (betaStore.add Memory.executor mixedDocuments).runFrom begunMemory
    let second := (betaStore.add Memory.executor mixedDocuments.reverse).runFrom begunMemory
    betaStore.embedder.Textwise ∧ betaStore.batching.Covers ∧ betaStore.batching.Textwise ∧
      mixedDocuments.Perm mixedDocuments.reverse ∧ (mixedDocuments.map (·.id)).Nodup ∧
        first.1 = .ok () ∧ second.1 = .ok () ∧ first.2.database = second.2.database := by
  -- the runs stay closed terms: under local names they would be evaluated
  have textwise : betaStore.embedder.Textwise := fun _ => rfl
  have perm := mixedDocuments.reverse_perm.symm
  have distinct : (mixedDocuments.map (·.id)).Nodup := by simp [mixedDocuments]
  obtain ⟨entries, prepared⟩ := exists_prepare_mixed
  have succeeded : ((betaStore.add Memory.executor mixedDocuments).runFrom begunMemory).1 =
      .ok () := by
    refine add_eq_ok_iff.mpr ⟨⟨entries, prepared⟩, ?_⟩
    intro e member
    exact dimensionFault?_of_accepts fits_begunMemory ((prepare_eq_ok prepared).2 e member)
  obtain ⟨both, same⟩ :=
    add_perm textwise oneToken.covers oneToken.textwise begunMemory perm distinct
  exact ⟨textwise, oneToken.covers, oneToken.textwise, perm, distinct, succeeded,
    both.mp succeeded, same succeeded⟩

end Store
end VectorStore
