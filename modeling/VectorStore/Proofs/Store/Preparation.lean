import VectorStore.Proofs.Embedding.Groups
import VectorStore.Proofs.Store.History

/-!
When documents can be prepared for a write, and which vectors they are stored with. That is decided
by their metadata, the vectors the model computes, and the vectors the documents end up with
(`Store.exists_prepare_iff`). With a model that takes a group text by text every document is decided
by itself (`Store.exists_prepare_iff_ready`): its vector is its own or that of its text, whatever
the other documents are and however the texts are grouped (`Store.prepare_keeps_vectors`).
-/
namespace VectorStore

/-! ## Dealing vectors -/

/-- Documents beside their vectors: those that bring one have it, and the others have the computed
ones in order. -/
structure Dealt (documents : List Document) (computed : List Embedding)
    (stored : List StoredDocument) : Prop where
  documents_eq : stored.map (·.document) = documents
  own : ∀ e ∈ stored, ∀ v, e.document.embedding = some v → e.vector = v
  computed_eq : (stored.filter (·.document.embedding.isNone)).map (·.vector) = computed

section
variable {d : Document} {v : Embedding} {documents rest : List Document}
  {computed : List Embedding} {stored : List StoredDocument}

theorem withVectors_of_some (brought : d.embedding = some v) (rest : List Document)
    (computed : List Embedding) :
    withVectors (d :: rest) computed = ⟨d, v⟩ :: withVectors rest computed := by
  simp [withVectors, nextVector?, brought]

theorem withVectors_of_none (missing : d.embedding = none) (rest : List Document) (v : Embedding)
    (computed : List Embedding) :
    withVectors (d :: rest) (v :: computed) = ⟨d, v⟩ :: withVectors rest computed := by
  simp [withVectors, nextVector?, missing]

namespace Store

theorem missingTexts_of_some (brought : d.embedding = some v) (rest : List Document) :
    missingTexts (d :: rest) = missingTexts rest := by
  simp [missingTexts, brought]

theorem missingTexts_of_none (missing : d.embedding = none) (rest : List Document) :
    missingTexts (d :: rest) = d.content :: missingTexts rest := by
  simp [missingTexts, missing]

end Store

open Store

theorem dealt_withVectors (enough : computed.length = (missingTexts documents).length) :
    Dealt documents computed (withVectors documents computed) := by
  induction documents generalizing computed with
  | nil =>
    obtain rfl : computed = [] := by simpa [missingTexts] using enough
    constructor <;> simp [withVectors]
  | cons d rest ih =>
    cases brought : d.embedding with
    | some v =>
      rw [missingTexts_of_some brought] at enough
      obtain ⟨documents_eq, own, computed_eq⟩ := ih enough
      rw [withVectors_of_some brought]
      constructor
      · rw [List.map_cons, documents_eq]
      · refine List.forall_mem_cons.mpr ⟨?_, own⟩
        intro v' brought'
        exact Option.some.inj (brought.symm.trans brought')
      · simpa [brought] using computed_eq
    | none =>
      rw [missingTexts_of_none brought, List.length_cons] at enough
      cases computed with
      | nil => simp at enough
      | cons v computed =>
        obtain ⟨documents_eq, own, computed_eq⟩ := ih (Nat.succ.inj enough)
        rw [withVectors_of_none brought]
        constructor
        · rw [List.map_cons, documents_eq]
        · refine List.forall_mem_cons.mpr ⟨?_, own⟩
          simp [brought]
        · simpa [brought] using computed_eq

/-- While there is a vector for every document that brings none, the next document has one. -/
theorem exists_nextVector (enough : computed.length = (missingTexts (d :: rest)).length) :
    ∃ v left, nextVector? d computed = some (v, left) ∧
      left.length = (missingTexts rest).length := by
  cases brought : d.embedding with
  | some v =>
    rw [missingTexts_of_some brought] at enough
    exact ⟨v, computed, by simp [nextVector?, brought], enough⟩
  | none =>
    rw [missingTexts_of_none brought, List.length_cons] at enough
    cases computed with
    | nil => simp at enough
    | cons v left => exact ⟨v, left, by simp [nextVector?, brought], Nat.succ.inj enough⟩

/-- There is one way to deal vectors. -/
theorem Dealt.eq_withVectors (dealt : Dealt documents computed stored) :
    stored = withVectors documents computed := by
  induction stored generalizing documents computed with
  | nil =>
    obtain ⟨rfl, -, rfl⟩ := dealt
    rfl
  | cons e others ih =>
    obtain ⟨rfl, own, rfl⟩ := dealt
    obtain ⟨first, own⟩ := List.forall_mem_cons.mp own
    have later := ih ⟨rfl, own, rfl⟩
    obtain ⟨d, v⟩ := e
    rw [List.map_cons]
    cases brought : d.embedding with
    | some v' =>
      obtain rfl : v = v' := first v' brought
      rw [withVectors_of_some brought, List.filter_cons_of_neg (by simp [brought]), ← later]
    | none =>
      rw [List.filter_cons_of_pos (by simp [brought]), List.map_cons,
        withVectors_of_none brought, ← later]

end

namespace Store

variable {s : Store} {documents : List Document}

/-! ## The groups of a store -/

theorem covers_grouping (covers : s.batching.Covers) : s.grouping.Covers := by
  intro texts ranges done
  cases texts with
  | nil =>
    obtain rfl : [] = ranges := Except.ok.inj done
    exact .done 0
  | cons text rest => exact covers (text :: rest) ranges done

theorem accepts_grouping {texts : List String} (accepted : s.batching.Accepts texts) :
    s.grouping.Accepts texts := by
  cases texts with
  | nil => exact ⟨[], rfl⟩
  | cons text rest => exact accepted

theorem textwise_grouping (decides : s.batching.Textwise) : s.grouping.Textwise := by
  intro texts
  cases texts with
  | nil => exact iff_of_true ⟨[], rfl⟩ (List.forall_mem_nil _)
  | cons text rest => exact decides (text :: rest)

/-! ## Checks -/

theorem checkVector_eq_ok_iff {owner : VectorOwner} {v : Embedding} :
    s.checkVector owner v = .ok () ↔ s.AcceptsVector v := by
  constructor
  · exact acceptsVector_of_check
  · rintro ⟨nonempty, finite, length⟩
    have allFinite : v.findIdx? (fun x => !singleFinite x) = none := by
      rw [List.findIdx?_eq_none_iff]
      intro x member
      simp [finite x member]
    have fits : ¬ (0 < s.embedder.dimension ∧ v.length ≠ s.embedder.dimension) := by
      rintro ⟨positive, ne⟩
      exact ne (length positive)
    simp [checkVector, nonempty, allFinite, fits]

theorem checkMetadata_eq_ok_iff {d : Document} :
    s.checkMetadata d = .ok () ↔ ∀ key ∈ s.reservedKeys, key ∉ d.metadata.keys := by
  constructor
  · exact unreserved_of_check
  · intro unreserved
    have none : d.metadata.keys.find? (fun key => s.reservedKeys.contains key) = none := by
      rw [List.find?_eq_none]
      intro key member reserved
      exact unreserved key (by simpa using reserved) member
    rw [checkMetadata, none]

theorem checkAllMetadata_eq_ok_iff : s.checkAllMetadata documents = .ok () ↔
    ∀ d ∈ documents, ∀ key ∈ s.reservedKeys, key ∉ d.metadata.keys := by
  simp only [← checkMetadata_eq_ok_iff]
  induction documents with
  | nil => simp [checkAllMetadata]
  | cons d rest ih =>
    rw [checkAllMetadata, List.forall_mem_cons, ← ih]
    cases s.checkMetadata d with
    | error fault => simp
    | ok done => simp

theorem exists_records_iff {computed : List Embedding}
    (enough : computed.length = (missingTexts documents).length) :
    (∃ entries, s.records computed documents = .ok entries) ↔
      ∀ e ∈ withVectors documents computed, s.AcceptsVector e.vector := by
  constructor
  · rintro ⟨entries, written⟩
    exact (records_eq_ok written).2
  · intro accepted
    induction documents generalizing computed with
    | nil => exact ⟨[], rfl⟩
    | cons d rest ih =>
      obtain ⟨v, left, next, remaining⟩ := exists_nextVector enough
      rw [withVectors, next, List.forall_mem_cons] at accepted
      obtain ⟨entries, written⟩ := ih remaining accepted.2
      rw [records_cons, next]
      simp [checkVector_eq_ok_iff.mpr accepted.1, written]

/-- Documents can be prepared exactly if their metadata uses no reserved name, the model computes
the vectors that are missing, and the store takes the vector of each. -/
theorem exists_prepare_iff (covers : s.batching.Covers) :
    (∃ entries, s.prepare documents = .ok entries) ↔
      (∀ d ∈ documents, ∀ key ∈ s.reservedKeys, key ∉ d.metadata.keys) ∧
        ∃ computed, s.embedder.embedAll s.grouping (missingTexts documents) = .ok computed ∧
          ∀ e ∈ withVectors documents computed, s.AcceptsVector e.vector := by
  rw [prepare, ← checkAllMetadata_eq_ok_iff]
  cases s.checkAllMetadata documents with
  | error fault => simp
  | ok done =>
    cases embedded : s.embedder.embedAll s.grouping (missingTexts documents) with
    | error fault => simp
    | ok computed =>
      simp [exists_records_iff (Embedder.length_embedAll (covers_grouping covers) embedded)]

end Store

/-! ## Documents by themselves -/

/-- The vector of a document: its own if it brings one, else that of its text. -/
def Embedder.vectorOf (m : Embedder) (d : Document) : Except Error Embedding :=
  match d.embedding with
  | some v => .ok v
  | none => m.embed d.content

theorem vectorOf_of_mem_withVectors {m : Embedder} {documents : List Document}
    {computed : List Embedding}
    (embedded : Embedder.embedEach m.embed (Store.missingTexts documents) = .ok computed) :
    ∀ e ∈ withVectors documents computed, m.vectorOf e.document = .ok e.vector := by
  rw [Embedder.embedEach_eq_ok_iff] at embedded
  induction documents generalizing computed with
  | nil => simp [withVectors]
  | cons d rest ih =>
    cases brought : d.embedding with
    | some v =>
      rw [Store.missingTexts_of_some brought] at embedded
      rw [withVectors_of_some brought, List.forall_mem_cons]
      exact ⟨by simp [Embedder.vectorOf, brought], ih embedded⟩
    | none =>
      rw [Store.missingTexts_of_none brought, List.map_cons] at embedded
      cases computed with
      | nil => simp at embedded
      | cons v computed =>
        obtain ⟨first, later⟩ := List.cons.inj embedded
        rw [withVectors_of_none brought, List.forall_mem_cons]
        exact ⟨by simpa [Embedder.vectorOf, brought] using first, ih later⟩

namespace Store

variable {s : Store} {documents : List Document} {entries : List (RecordId × Fields)}

/-- A document that a store can write, looked at by itself. -/
structure Ready (s : Store) (d : Document) : Prop where
  unreserved : ∀ key ∈ s.reservedKeys, key ∉ d.metadata.keys
  accepted : d.embedding = none → s.batching.Accepts [d.content]
  vector : ∃ v, s.embedder.vectorOf d = .ok v ∧ s.AcceptsVector v

/-- The record that a document is prepared as: it stands under the document's id, and its vector is
the document's own or that of its text. -/
structure Keeps (s : Store) (d : Document) (entry : RecordId × Fields) : Prop where
  target : entry.1 = ⟨s.table, d.id⟩
  vector : ∃ v, s.embedder.vectorOf d = .ok v ∧
    entry.2.find? s.embeddingField.text = some (.array (v.map Json.ofSingle))

theorem mem_missingTexts {text : String} : text ∈ missingTexts documents ↔
    ∃ d ∈ documents, d.embedding = none ∧ d.content = text := by
  simp [missingTexts, and_assoc]

/-- The texts that need a vector have groups exactly if each has one by itself. -/
theorem accepts_missingTexts_iff {g : Grouping} (decides : g.Textwise) :
    g.Accepts (missingTexts documents) ↔
      ∀ d ∈ documents, d.embedding = none → g.Accepts [d.content] := by
  rw [decides]
  simp only [mem_missingTexts]
  grind

/-- Vectors are computed text by text, once there are groups. -/
theorem embedAll_eq_ok_iff (textwise : s.embedder.Textwise) (covers : s.batching.Covers)
    {computed : List Embedding} :
    s.embedder.embedAll s.grouping (missingTexts documents) = .ok computed ↔
      s.grouping.Accepts (missingTexts documents) ∧
        Embedder.embedEach s.embedder.embed (missingTexts documents) = .ok computed := by
  have whole := covers_grouping covers
  constructor
  · intro embedded
    obtain ⟨gs, grouped, -⟩ := Embedder.exists_groups_of_embedAll embedded
    have accepted := Embedder.exists_groups_iff.mp ⟨gs, grouped⟩
    rw [Embedder.embedAll_of_textwise textwise whole accepted] at embedded
    exact ⟨accepted, embedded⟩
  · rintro ⟨accepted, embedded⟩
    rw [Embedder.embedAll_of_textwise textwise whole accepted]
    exact embedded

theorem vectorOf_of_mem_stored (textwise : s.embedder.Textwise) (covers : s.batching.Covers) :
    ∀ e ∈ s.stored documents, s.embedder.vectorOf e.document = .ok e.vector := by
  rw [stored]
  cases embedded : s.embedder.embedAll s.grouping (missingTexts documents) with
  | error fault => simp
  | ok computed =>
    exact vectorOf_of_mem_withVectors ((embedAll_eq_ok_iff textwise covers).mp embedded).2

/-- Whether documents can be prepared is decided for each by itself. -/
theorem exists_prepare_iff_ready (textwise : s.embedder.Textwise) (covers : s.batching.Covers)
    (decides : s.batching.Textwise) :
    (∃ entries, s.prepare documents = .ok entries) ↔ ∀ d ∈ documents, s.Ready d := by
  have each := @accepts_missingTexts_iff documents _ (textwise_grouping decides)
  constructor
  · intro prepared
    obtain ⟨unreserved, computed, embedded, fit⟩ := (exists_prepare_iff covers).mp prepared
    obtain ⟨accepted, embedded⟩ := (embedAll_eq_ok_iff textwise covers).mp embedded
    intro d member
    rw [← (dealt_withVectors (Embedder.length_embedEach embedded)).documents_eq] at member
    obtain ⟨e, stored, rfl⟩ := List.mem_map.mp member
    have inside := document_mem_of_mem_withVectors stored
    exact ⟨unreserved _ inside, each.mp accepted _ inside, e.vector,
      vectorOf_of_mem_withVectors embedded e stored, fit e stored⟩
  · intro ready
    have embeds : ∀ text ∈ missingTexts documents, ∃ v, s.embedder.embed text = .ok v := by
      intro text member
      obtain ⟨d, inside, missing, rfl⟩ := mem_missingTexts.mp member
      obtain ⟨v, own, -⟩ := (ready d inside).vector
      exact ⟨v, by simpa [Embedder.vectorOf, missing] using own⟩
    obtain ⟨computed, embedded⟩ := Embedder.exists_embedEach_iff.mpr embeds
    have accepted := each.mpr fun d member => (ready d member).accepted
    refine (exists_prepare_iff covers).mpr ⟨fun d member => (ready d member).unreserved, computed,
      (embedAll_eq_ok_iff textwise covers).mpr ⟨accepted, embedded⟩, ?_⟩
    intro e stored
    obtain ⟨v, own, accepted⟩ := (ready _ (document_mem_of_mem_withVectors stored)).vector
    have computed := vectorOf_of_mem_withVectors embedded e stored
    obtain rfl := Except.ok.inj (own.symm.trans computed)
    exact accepted

/-! ## Other groups -/

theorem checkAllMetadata_batching (s : Store) (g : Grouping) (documents : List Document) :
    ({ s with batching := g } : Store).checkAllMetadata documents =
      s.checkAllMetadata documents := by
  induction documents with
  | nil => rfl
  | cons d rest ih =>
    rw [checkAllMetadata, checkAllMetadata, ih]
    rfl

theorem records_batching (s : Store) (g : Grouping) (computed : List Embedding)
    (documents : List Document) :
    ({ s with batching := g } : Store).records computed documents =
      s.records computed documents := by
  induction documents generalizing computed with
  | nil => rfl
  | cons d rest ih =>
    rw [records_cons, records_cons]
    simp only [ih]
    rfl

/-- Grouping has no part in what documents are prepared as, once the texts have groups. -/
theorem prepare_batching (textwise : s.embedder.Textwise) {g : Grouping} (covers : g.Covers)
    (accepted : g.Accepts (missingTexts documents)) :
    ({ s with batching := g } : Store).prepare documents =
      (s.checkAllMetadata documents).bind fun _ =>
        (Embedder.embedEach s.embedder.embed (missingTexts documents)).bind fun computed =>
          s.records computed documents := by
  have whole := @covers_grouping { s with batching := g } covers
  have grouped := @accepts_grouping { s with batching := g } _ accepted
  rw [prepare, checkAllMetadata_batching]
  simp only [records_batching, Embedder.embedAll_of_textwise textwise whole grouped]
  cases s.checkAllMetadata documents with
  | error fault => rfl
  | ok done =>
    cases Embedder.embedEach s.embedder.embed (missingTexts documents) <;> rfl

theorem accepts_of_short {b : Batching} (short : ∀ d ∈ documents, d.embedding = none →
    Batching.estimate d.content ≤ b.budget) : Grouping.Accepts b (missingTexts documents) := by
  rw [accepts_missingTexts_iff b.textwise]
  intro d member missing
  rw [Batching.accepts_iff, List.forall_mem_singleton]
  exact short d member missing

/-- Documents that can be prepared have one record each, in order, with the vector of the document
itself: its own, or the one of its text, under a grouping that covers the texts. Two batchings whose
budgets every text fits make no difference, neither to the records nor to an error. -/
theorem prepare_keeps_vectors (textwise : s.embedder.Textwise) (covers : s.batching.Covers)
    (documents : List Document) :
    (∀ entries, s.prepare documents = .ok entries → List.Forall₂ s.Keeps documents entries) ∧
      ∀ b b' : Batching, (∀ d ∈ documents, d.embedding = none →
          Batching.estimate d.content ≤ b.budget ∧ Batching.estimate d.content ≤ b'.budget) →
        ({ s with batching := b } : Store).prepare documents =
          ({ s with batching := b' } : Store).prepare documents := by
  constructor
  · intro entries prepared
    obtain ⟨rfl, accepted⟩ := prepare_eq_ok prepared
    have order := documents_stored_of_prepare prepared
    have own := @vectorOf_of_mem_stored s documents textwise covers
    generalize s.stored documents = stored at order accepted own
    subst order
    rw [List.forall₂_map_left_iff, List.forall₂_map_right_iff, List.forall₂_same]
    intro e member
    exact ⟨rfl, e.vector, own e member, find?_recordBody_embeddingField (accepted e member)⟩
  · intro b b' short
    have narrow := accepts_of_short fun d member missing => (short d member missing).1
    have wide := accepts_of_short fun d member missing => (short d member missing).2
    rw [prepare_batching textwise b.covers narrow, prepare_batching textwise b'.covers wide]

/-- A model that tells one text from all others. -/
def betaEmbedder : Embedder := .ofSingle 1 fun text => .ok [if text = "beta" then 2.0 else 3.0]

/-- A batching with a budget of one token, which four characters use up. -/
def oneToken : Batching := ⟨1, 0.0⟩

def betaStore : Store := { mergingStore with embedder := betaEmbedder, batching := oneToken }

/-- Documents of which every other one brings its vector. -/
def mixedDocuments : List Document :=
  [⟨"a", "alpha", .empty, some [1.0]⟩, ⟨"b", "beta", .empty, none⟩,
    ⟨"c", "gamma", .empty, some [4.0]⟩, ⟨"d", "zeta", .empty, none⟩]

theorem budget_oneToken : oneToken.budget = 1 ∧ Batching.standard.budget = 7371 := by
  decide +kernel

theorem exists_prepare_mixed : ∃ entries, betaStore.prepare mixedDocuments = .ok entries := by
  have succeeds : (betaStore.prepare mixedDocuments).isOk = true := by decide +kernel
  cases prepared : betaStore.prepare mixedDocuments with
  | error fault => simp [prepared, Except.isOk, Except.toBool] at succeeds
  | ok entries => exact ⟨entries, rfl⟩

/-- Two texts in two groups and in one get the same vectors, each its own. -/
theorem keeps_vectors_of_mixed :
    betaStore.embedder.Textwise ∧ betaStore.batching.Covers ∧
      (∃ entries, betaStore.prepare mixedDocuments = .ok entries ∧
        List.Forall₂ betaStore.Keeps mixedDocuments entries) ∧
      (∀ d ∈ mixedDocuments, d.embedding = none →
        Batching.estimate d.content ≤ oneToken.budget ∧
          Batching.estimate d.content ≤ Batching.standard.budget) ∧
      ({ betaStore with batching := oneToken } : Store).prepare mixedDocuments =
        ({ betaStore with batching := Batching.standard } : Store).prepare mixedDocuments := by
  have textwise : betaStore.embedder.Textwise := fun _ => rfl
  have covers := oneToken.covers
  obtain ⟨entries, prepared⟩ := exists_prepare_mixed
  obtain ⟨keeps, regroups⟩ := prepare_keeps_vectors textwise covers mixedDocuments
  obtain ⟨narrow, wide⟩ := budget_oneToken
  have short : ∀ d ∈ mixedDocuments, d.embedding = none →
      Batching.estimate d.content ≤ oneToken.budget ∧
        Batching.estimate d.content ≤ Batching.standard.budget := by
    rw [narrow, wide]
    simp [mixedDocuments, Batching.estimate]
  exact ⟨textwise, covers, ⟨entries, prepared, keeps entries prepared⟩, short,
    regroups _ _ short⟩

end Store
end VectorStore
