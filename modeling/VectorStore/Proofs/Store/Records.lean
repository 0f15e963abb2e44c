import VectorStore.Proofs.Store.Build

/-!
The records that a store writes: which documents and vectors it accepts, what stands in their
records, and that no index over its own field refuses them.
-/
namespace VectorStore

/-- A document beside the vector it is stored with. -/
structure StoredDocument where
  document : Document
  vector : Embedding

/-- The vector that a document is stored with, its own or the next computed one, and the computed
ones left after it. -/
def nextVector? (d : Document) (computed : List Embedding) : Option (Embedding × List Embedding) :=
  match d.embedding, computed with
  | some v, computed => some (v, computed)
  | none, v :: computed => some (v, computed)
  | none, [] => none

/-- Documents beside the vectors they are stored with. -/
def withVectors : List Document → List Embedding → List StoredDocument
  | [], _ => []
  | d :: rest, computed =>
    match nextVector? d computed with
    | some (v, computed) => ⟨d, v⟩ :: withVectors rest computed
    | none => []

theorem document_mem_of_mem_withVectors {e : StoredDocument} {documents : List Document} :
    {computed : List Embedding} → e ∈ withVectors documents computed → e.document ∈ documents := by
  induction documents with
  | nil => simp [withVectors]
  | cons d rest ih =>
    intro computed member
    rw [withVectors] at member
    split at member
    · rcases List.mem_cons.mp member with rfl | member
      · exact List.mem_cons_self
      · exact List.mem_cons_of_mem _ (ih member)
    · contradiction

namespace Store

/-- The documents that a write stores if it succeeds. -/
def stored (s : Store) (documents : List Document) : List StoredDocument :=
  match s.embedder.embedAll s.grouping (missingTexts documents) with
  | .ok computed => withVectors documents computed
  | .error _ => []

/-- The target and the data of the write of a document. -/
def entry (s : Store) (e : StoredDocument) : RecordId × Fields :=
  (⟨s.table, e.document.id⟩, s.recordBody e.document e.vector)

/-- Vectors that a store takes. -/
structure AcceptsVector (s : Store) (v : Embedding) : Prop where
  nonempty : v ≠ []
  finite : ∀ x ∈ v, singleFinite x = true
  length : 0 < s.embedder.dimension → v.length = s.embedder.dimension

/-- Documents that a store takes. -/
structure Accepts (s : Store) (e : StoredDocument) : Prop where
  vector : s.AcceptsVector e.vector
  unreserved : ∀ key ∈ s.reservedKeys, key ∉ e.document.metadata.keys

theorem acceptsVector_of_check {s : Store} {owner : VectorOwner} {v : Embedding}
    (checked : s.checkVector owner v = .ok ()) : s.AcceptsVector v := by
  rw [checkVector] at checked
  split at checked
  · contradiction
  next nonempty =>
    split at checked
    · contradiction
    next finite =>
      split at checked
      · contradiction
      next length =>
        refine ⟨by simpa using nonempty, fun x member => ?_, fun positive => ?_⟩
        · simpa using List.findIdx?_eq_none_iff.mp finite x member
        · exact Decidable.byContradiction fun ne => length ⟨positive, ne⟩

theorem unreserved_of_check {s : Store} {d : Document} (checked : s.checkMetadata d = .ok ()) :
    ∀ key ∈ s.reservedKeys, key ∉ d.metadata.keys := by
  rw [checkMetadata] at checked
  split at checked
  · contradiction
  next none =>
    intro key reserved member
    have := List.find?_eq_none.mp none key member
    simp [reserved] at this

theorem check_of_checkAllMetadata {s : Store} {documents : List Document}
    (checked : s.checkAllMetadata documents = .ok ()) :
    ∀ d ∈ documents, s.checkMetadata d = .ok () := by
  induction documents with
  | nil => simp
  | cons d rest ih =>
    rw [checkAllMetadata] at checked
    split at checked
    · contradiction
    next first => exact List.forall_mem_cons.mpr ⟨first, ih checked⟩

theorem records_cons (s : Store) (computed : List Embedding) (d : Document)
    (rest : List Document) :
    s.records computed (d :: rest) =
      match nextVector? d computed with
      | none => .error (.embedding .tooFew)
      | some (v, computed) =>
        match s.checkVector (.document d.id) v with
        | .error e => .error e
        | .ok () =>
          match s.records computed rest with
          | .error e => .error e
          | .ok entries => .ok ((⟨s.table, d.id⟩, s.recordBody d v) :: entries) := rfl

theorem records_eq_ok {s : Store} {documents : List Document} :
    {computed : List Embedding} → {entries : List (RecordId × Fields)} →
      s.records computed documents = .ok entries →
      entries = (withVectors documents computed).map s.entry ∧
        ∀ e ∈ withVectors documents computed, s.AcceptsVector e.vector := by
  induction documents with
  | nil =>
    intro computed entries written
    obtain rfl := Except.ok.inj written
    simp [withVectors]
  | cons d rest ih =>
    intro computed entries written
    rw [records_cons] at written
    rw [withVectors]
    split at written
    · contradiction
    next v left next =>
      rw [next]
      split at written
      · contradiction
      next checked =>
        split at written
        · contradiction
        next others later =>
          obtain ⟨rfl, accepted⟩ := ih later
          obtain rfl := Except.ok.inj written
          exact ⟨rfl, List.forall_mem_cons.mpr ⟨acceptsVector_of_check checked, accepted⟩⟩

theorem prepare_eq_ok {s : Store} {documents : List Document} {entries : List (RecordId × Fields)}
    (prepared : s.prepare documents = .ok entries) :
    entries = (s.stored documents).map s.entry ∧ ∀ e ∈ s.stored documents, s.Accepts e := by
  rw [prepare] at prepared
  split at prepared
  · contradiction
  next metadata =>
    split at prepared
    · contradiction
    next computed embedded =>
      have storedEq : s.stored documents = withVectors documents computed := by
        rw [stored, embedded]
      obtain ⟨same, vectors⟩ := records_eq_ok prepared
      rw [storedEq]
      refine ⟨same, fun e member => ⟨vectors e member, unreserved_of_check ?_⟩⟩
      exact check_of_checkAllMetadata metadata _ (document_mem_of_mem_withVectors member)

/-! ## Records -/

/-- The field of a record that metadata leaves alone. -/
theorem find?_recordBody {s : Store} {e : StoredDocument} (accepted : s.Accepts e) {key : String}
    (reserved : key ∈ s.reservedKeys) :
    (s.recordBody e.document e.vector).find? key =
      if key = s.embeddingField.text then some (.array (e.vector.map Json.ofSingle))
      else if key = s.contentField.text then some (.string e.document.content) else none := by
  rw [recordBody, SortedMap.find?_overlay_of_not_mem (accepted.unreserved key reserved),
    SortedMap.find?_insert, SortedMap.find?_insert, SortedMap.find?_empty]

theorem find?_recordBody_embeddingField {s : Store} {e : StoredDocument}
    (accepted : s.Accepts e) :
    (s.recordBody e.document e.vector).find? s.embeddingField.text =
      some (.array (e.vector.map Json.ofSingle)) := by
  rw [find?_recordBody accepted (by simp [reservedKeys]), if_pos rfl]

/-- Indexes that refuse no record of a store: those over its table are over its own field, with the
dimension of its model. -/
def Fits (s : Store) (indexes : SortedMap IndexEntry) : Prop :=
  ∀ index ∈ indexes.values, index.table = s.table.text →
    index.field = s.embeddingField.text ∧ index.dimension = s.embedder.dimension ∧
      0 < s.embedder.dimension

theorem fits_builtIndexes {s : Store}
    (positive : s.initializeSchema = true → 0 < s.embedder.dimension) :
    s.Fits s.builtIndexes := by
  intro index member _
  rw [builtIndexes] at member
  split at member
  next schema =>
    obtain rfl : index = s.indexEntry := by
      simpa [SortedMap.values, SortedMap.insert, SortedMap.empty, SortedMap.place] using member
    exact ⟨rfl, rfl, positive schema⟩
  · simp [SortedMap.values, SortedMap.empty] at member

theorem dimensionFault?_of_accepts {s : Store} {db : Database} (fits : s.Fits db.indexes)
    {e : StoredDocument} (accepted : s.Accepts e) :
    db.dimensionFault? s.table.text (s.recordBody e.document e.vector) = none := by
  rw [Database.dimensionFault?, List.findSome?_eq_none_iff]
  intro index member
  obtain ⟨indexed, here⟩ := List.mem_filter.mp member
  obtain ⟨field, dimension, positive⟩ := fits index indexed (by simpa using here)
  have length := accepted.vector.length positive
  simp [field, find?_recordBody_embeddingField accepted, Json.array?, dimension, length]

end Store
end VectorStore
