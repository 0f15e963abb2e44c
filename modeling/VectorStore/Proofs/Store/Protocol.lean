import VectorStore.Proofs.Store.Preparation
import VectorStore.Proofs.Store.Submissions

/-!
The queries of a write, whatever the executor answers. Documents that cannot be written are refused
before anything is submitted. All others are submitted in turn, one query for each document, up to
the first query that fails; or in one transaction (`Store.writes_submit_in_turn`).
-/
namespace VectorStore

/-! ## Failures -/

/-- Why a query fails: the executor has an error for it, or one of the results is a failure, of which
the first counts. -/
inductive Exchange.FailsWith : Exchange → Error → Prop
  | unanswered (q : Query) (fault : Error) : FailsWith ⟨q, .error fault⟩ fault
  | refused (q : Query) {before after : List StatementResult} {r : StatementResult}
      (succeeded : ∀ earlier ∈ before, earlier.status = .ok) (failed : r.status = .err) :
      FailsWith ⟨q, .ok ⟨before ++ r :: after⟩⟩ (Response.failure before.length r)

namespace Response

theorem exists_of_firstFailure {results : List StatementResult} {index : Nat} {fault : Error}
    (first : firstFailure? index results = some fault) :
    ∃ before r after, results = before ++ r :: after ∧
      (∀ earlier ∈ before, earlier.status = .ok) ∧ r.status = .err ∧
        fault = failure (index + before.length) r := by
  induction results generalizing index with
  | nil => simp [firstFailure?] at first
  | cons r rest ih =>
    rw [firstFailure?] at first
    cases status : r.status with
    | err =>
      obtain rfl : failure index r = fault := by simpa [status] using first
      exact ⟨[], r, rest, rfl, by simp, status, rfl⟩
    | ok =>
      obtain ⟨before, failed, after, rfl, succeeded, err, rfl⟩ :=
        ih (by simpa [status] using first)
      refine ⟨r :: before, failed, after, rfl, ?_, err, ?_⟩
      · exact List.forall_mem_cons.mpr ⟨status, succeeded⟩
      · rw [List.length_cons, Nat.add_assoc, Nat.add_comm 1]

end Response

theorem Exchange.failsWith_of_outcome {e : Exchange} {fault : Error}
    (failed : e.outcome = .error fault) : e.FailsWith fault := by
  obtain ⟨q, answer⟩ := e
  cases answer with
  | error fault' =>
    obtain rfl : fault' = fault := by simpa [outcome] using failed
    exact .unanswered q fault'
  | ok response =>
    obtain ⟨results⟩ := response
    replace failed : Response.check ⟨results⟩ = .error fault := failed
    rw [Response.check] at failed
    cases first : Response.firstFailure? 0 results with
    | none => simp [first] at failed
    | some fault' =>
      obtain rfl : fault' = fault := by simpa [first] using failed
      obtain ⟨before, r, after, rfl, succeeded, err, rfl⟩ := Response.exists_of_firstFailure first
      rw [Nat.zero_add]
      exact .refused q succeeded err

/-- Queries submitted in turn: all of them, and none is refused, or those up to the first that
fails, whose failure is the outcome. -/
structure InTurn (queries : List Query) (transcript : List Exchange)
    (outcome : Except Error Unit) : Prop where
  ok_iff : outcome = .ok () ↔
    transcript.map (·.query) = queries ∧ ∀ e ∈ transcript, e.Unrefused
  error : ∀ fault, outcome = .error fault → ∃ passed last rest,
    transcript = passed ++ [last] ∧ queries = transcript.map (·.query) ++ rest ∧
      (∀ e ∈ passed, e.Unrefused) ∧ last.FailsWith fault

theorem Submitted.inTurn {queries : List Query} {transcript : List Exchange}
    {outcome : Except Error Unit} (submitted : Submitted queries transcript outcome) :
    InTurn queries transcript outcome := by
  refine ⟨submitted.eq_ok_iff, ?_⟩
  intro fault failed
  induction submitted with
  | done => contradiction
  | @passed e queries exchanges outcome succeeded later ih =>
    obtain ⟨passed, last, rest, rfl, rfl, unrefused, fails⟩ := ih failed
    refine ⟨e :: passed, last, rest, rfl, rfl, ?_, fails⟩
    exact List.forall_mem_cons.mpr ⟨Exchange.outcome_eq_ok_iff.mp succeeded, unrefused⟩
  | @stopped e fault' stopped rest =>
    obtain rfl := Except.error.inj failed
    exact ⟨[], e, rest, rfl, rfl, by simp, Exchange.failsWith_of_outcome stopped⟩

/-- One query submitted alone is submitted. -/
theorem InTurn.map_query {q : Query} {transcript : List Exchange} {outcome : Except Error Unit}
    (inTurn : InTurn [q] transcript outcome) : transcript.map (·.query) = [q] := by
  cases outcome with
  | ok done => exact (inTurn.ok_iff.mp rfl).1
  | error fault =>
    obtain ⟨passed, last, rest, rfl, order, -, -⟩ := inTurn.error fault rfl
    cases passed with
    | nil =>
      obtain ⟨same, -⟩ := List.cons.inj order
      rw [same]
      rfl
    | cons first passed => simp at order

namespace Store

variable {σ : Type} {s : Store} {documents : List Document}

/-! ## Documents that cannot be written -/

/-- What stands in the way of writing documents, whatever the executor would answer. -/
inductive Unwritable (s : Store) (documents : List Document) : Prop
  /-- The metadata of a document uses a reserved name. -/
  | metadata {d : Document} {key : String} (member : d ∈ documents)
      (reserved : key ∈ s.reservedKeys) (used : key ∈ d.metadata.keys)
  /-- The texts that need a vector have no groups. -/
  | batching {fault : Error} (refused : s.grouping (missingTexts documents) = .error fault)
  /-- The model fails on a group, or gives it another number of vectors. -/
  | embedding {groups : List (List String)} {group : List String}
      (grouped : Embedder.groups s.grouping (missingTexts documents) = .ok groups)
      (member : group ∈ groups)
      (failed : ∀ vectors, s.embedder.embedGroup group = .ok vectors →
        vectors.length ≠ group.length)
  /-- The vector of a document, its own or a computed one, is empty, has a component that is no
  finite number, or has another length than the model reports. -/
  | vector {computed : List Embedding} {stored : List StoredDocument} {e : StoredDocument}
      (embedded : s.embedder.embedAll s.grouping (missingTexts documents) = .ok computed)
      (dealt : Dealt documents computed stored) (member : e ∈ stored)
      (faulty : ¬ s.AcceptsVector e.vector)

theorem not_prepare_of_unwritable (covers : s.batching.Covers)
    (unwritable : s.Unwritable documents) : ¬ ∃ entries, s.prepare documents = .ok entries := by
  rw [exists_prepare_iff covers]
  rintro ⟨unreserved, computed, embedded, accepted⟩
  obtain ⟨gs, grouped, vectors⟩ := Embedder.exists_groups_of_embedAll embedded
  cases unwritable with
  | metadata member reserved used => exact unreserved _ member _ reserved used
  | batching refused =>
    obtain ⟨ranges, accepted⟩ := Embedder.exists_groups_iff.mp ⟨gs, grouped⟩
    rw [refused] at accepted
    contradiction
  | embedding grouped' member failed =>
    obtain rfl := Except.ok.inj (grouped.symm.trans grouped')
    obtain ⟨answer, given, counted⟩ :=
      Embedder.exists_groupsVectors_iff.mp ⟨computed, vectors⟩ _ member
    exact failed answer given counted
  | vector embedded' dealt member faulty =>
    obtain rfl := Except.ok.inj (embedded.symm.trans embedded')
    rw [dealt.eq_withVectors] at member
    exact faulty (accepted _ member)

theorem exists_prepare_of_not_unwritable (covers : s.batching.Covers)
    (writable : ¬ s.Unwritable documents) : ∃ entries, s.prepare documents = .ok entries := by
  have unreserved : ∀ d ∈ documents, ∀ key ∈ s.reservedKeys, key ∉ d.metadata.keys := by
    intro d member key reserved used
    exact writable (.metadata member reserved used)
  have accepted : s.grouping.Accepts (missingTexts documents) := by
    cases done : s.grouping (missingTexts documents) with
    | error fault => exact absurd (.batching done) writable
    | ok ranges => exact ⟨ranges, done⟩
  obtain ⟨gs, grouped⟩ := Embedder.exists_groups_iff.mpr accepted
  have answered : ∀ group ∈ gs, ∃ vectors, s.embedder.embedGroup group = .ok vectors ∧
      vectors.length = group.length := by
    intro group member
    by_contra none
    push Not at none
    exact writable (.embedding grouped member none)
  obtain ⟨computed, vectors⟩ := Embedder.exists_groupsVectors_iff.mpr answered
  have embedded : s.embedder.embedAll s.grouping (missingTexts documents) = .ok computed := by
    rw [Embedder.embedAll, grouped]
    exact vectors
  have dealt := dealt_withVectors (Embedder.length_embedAll (covers_grouping covers) embedded)
  refine (exists_prepare_iff covers).mpr ⟨unreserved, computed, embedded, ?_⟩
  intro e member
  by_contra faulty
  exact writable (.vector embedded dealt member faulty)

/-- The documents and vectors of a write that can be prepared. -/
theorem exists_dealt_stored (covers : s.batching.Covers) {entries : List (RecordId × Fields)}
    (prepared : s.prepare documents = .ok entries) : ∃ computed,
      s.embedder.embedAll s.grouping (missingTexts documents) = .ok computed ∧
        Dealt documents computed (s.stored documents) := by
  obtain ⟨-, computed, embedded, -⟩ := (exists_prepare_iff covers).mp ⟨entries, prepared⟩
  refine ⟨computed, embedded, ?_⟩
  rw [stored, embedded]
  exact dealt_withVectors (Embedder.length_embedAll (covers_grouping covers) embedded)

/-! ## What is submitted -/

/-- Whatever the executor answers, documents that cannot be written are refused and nothing is
submitted. All others are submitted in their order, each in a query of its own, up to the first
query that fails, or all in one transaction. -/
theorem writes_submit_in_turn (covers : s.batching.Covers) (x : Executor σ) (state : σ)
    (some : documents ≠ []) :
    let single := (s.add x.recorded documents).runFrom (state, [])
    let batch := (s.addBatched x.recorded documents).runFrom (state, [])
    ((single.1, single.2.1) = (s.add x documents).runFrom state ∧
        (batch.1, batch.2.1) = (s.addBatched x documents).runFrom state) ∧
      (s.Unwritable documents → ∃ fault,
        single = (.error fault, state, []) ∧ batch = (.error fault, state, [])) ∧
      (¬ s.Unwritable documents → ∃ computed stored,
        s.embedder.embedAll s.grouping (missingTexts documents) = .ok computed ∧
          Dealt documents computed stored ∧
          InTurn (stored.map fun e => [s.write e]) single.2.2 single.1 ∧
          InTurn [Query.transaction (stored.map s.write)] batch.2.2 batch.1 ∧
          batch.2.2.map (·.query) = [Query.transaction (stored.map s.write)]) := by
  intro single batch
  cases prepared : s.prepare documents with
  | error fault =>
    have one : single = (.error fault, state, []) := runFrom_add_of_error prepared ..
    have all : batch = (.error fault, state, []) := runFrom_addBatched_of_error prepared ..
    rw [one, all, runFrom_add_of_error prepared, runFrom_addBatched_of_error prepared]
    refine ⟨⟨rfl, rfl⟩, fun _ => ⟨fault, rfl, rfl⟩, ?_⟩
    intro writable
    obtain ⟨entries, prepared'⟩ := exists_prepare_of_not_unwritable covers writable
    rw [prepared] at prepared'
    contradiction
  | ok entries =>
    obtain ⟨computed, embedded, dealt⟩ := exists_dealt_stored covers prepared
    obtain ⟨rfl, -⟩ := prepare_eq_ok prepared
    obtain ⟨passed, ran, submitted⟩ := submits_add prepared x state []
    obtain ⟨passed', ran', submitted'⟩ := submits_addBatched some prepared x state []
    rw [List.nil_append] at ran ran'
    have one : single = (_, _, passed) := ran
    have all : batch = (_, _, passed') := ran'
    rw [one, all]
    refine ⟨⟨rfl, rfl⟩, ?_, ?_⟩
    · intro unwritable
      exact absurd ⟨_, prepared⟩ (not_prepare_of_unwritable covers unwritable)
    · intro _
      exact ⟨computed, s.stored documents, embedded, dealt, submitted.inTurn, submitted'.inTurn,
        submitted'.inTurn.map_query⟩

/-- An executor that answers as many queries as its state says, and then has an error for each. -/
def limitedExecutor : Executor Nat := fun _ => Run.ofFunction fun
  | 0 => (.error (.executionFailure "query" "limit"), 0)
  | left + 1 => (.ok ⟨[.ok .null]⟩, left)

/-- Documents for the three queries of a write. -/
def threeDocuments : List Document :=
  [draft.document, ⟨"b", "second", .empty, some [2.0]⟩, ⟨"c", "third", .empty, some [3.0]⟩]

/-- A document whose vector is empty stands behind one that could be written. -/
def emptyVectorLast : List Document := [draft.document, ⟨"b", "second", .empty, some []⟩]

theorem writable_threeDocuments : ¬ mergingStore.Unwritable threeDocuments := by
  intro unwritable
  have succeeds : (mergingStore.prepare threeDocuments).isOk = true := by decide +kernel
  have refused := not_prepare_of_unwritable Batching.standard.covers unwritable
  cases prepared : mergingStore.prepare threeDocuments with
  | error fault => simp [prepared, Except.isOk, Except.toBool] at succeeds
  | ok entries => exact refused ⟨entries, prepared⟩

theorem unwritable_emptyVectorLast : mergingStore.Unwritable emptyVectorLast := by
  have embedded : mergingStore.embedder.embedAll mergingStore.grouping
      (missingTexts emptyVectorLast) = .ok [] := rfl
  have dealt : Dealt emptyVectorLast [] [draft, ⟨⟨"b", "second", .empty, some []⟩, []⟩] := by
    constructor <;> simp [emptyVectorLast, draft]
  refine .vector embedded dealt (List.mem_cons_of_mem _ List.mem_cons_self) ?_
  rintro ⟨nonempty, -, -⟩
  exact nonempty rfl

/-- Where the executor answers one query, a write of three documents submits two; of documents one
of which cannot be written none is submitted. -/
theorem submits_two_of_three :
    let single := (mergingStore.add limitedExecutor.recorded threeDocuments).runFrom (1, [])
    mergingStore.batching.Covers ∧ threeDocuments ≠ [] ∧
      ¬ mergingStore.Unwritable threeDocuments ∧ single.2.2.length = 2 ∧
      (∃ stored : List StoredDocument, stored.map (·.document) = threeDocuments ∧
        InTurn (stored.map fun e => [mergingStore.write e]) single.2.2 single.1) ∧
      emptyVectorLast ≠ [] ∧ mergingStore.Unwritable emptyVectorLast ∧
      ∃ fault, (mergingStore.add limitedExecutor.recorded emptyVectorLast).runFrom (1, []) =
        (.error fault, 1, []) := by
  have three : threeDocuments ≠ [] := by simp [threeDocuments]
  have two : emptyVectorLast ≠ [] := by simp [emptyVectorLast]
  have submitted : ((mergingStore.add limitedExecutor.recorded threeDocuments).runFrom
      (1, [])).2.2.length = 2 := by decide +kernel
  have covers : mergingStore.batching.Covers := Batching.standard.covers
  obtain ⟨-, -, accepts⟩ := writes_submit_in_turn covers limitedExecutor 1 three
  obtain ⟨-, refuses, -⟩ := writes_submit_in_turn covers limitedExecutor 1 two
  obtain ⟨computed, stored, -, dealt, inTurn, -⟩ := accepts writable_threeDocuments
  obtain ⟨fault, refused, -⟩ := refuses unwritable_emptyVectorLast
  exact ⟨covers, three, writable_threeDocuments, submitted,
    ⟨stored, dealt.documents_eq, inTurn⟩, two, unwritable_emptyVectorLast, fault, refused⟩

end Store
end VectorStore
