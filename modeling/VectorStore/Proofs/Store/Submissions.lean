import VectorStore.Proofs.Store.Insertion

/-!
What a store submits to its executor and what it makes of the answers, whatever the executor is. A
write submits its queries one after another, up to the first that is answered by an error or with a
failed result (`Submitted`). So it succeeds exactly if nothing it submitted was refused; but an
answer may hold fewer results than the query has statements, and a statement without a result counts
as done (`Store.confirmed_iff_complete_of_ok`).
-/
namespace VectorStore

/-! ## Transcripts -/

/-- A query beside what the executor made of it. -/
structure Exchange where
  query : Query
  answer : Except Error Response

namespace Exchange

/-- The outcome of a query all of whose statements have to succeed. -/
def outcome (e : Exchange) : Except Error Unit :=
  match e.answer with
  | .ok response => response.check
  | .error fault => .error fault

/-- The executor answered, and no result is a failure. -/
def Unrefused (e : Exchange) : Prop :=
  ∃ response, e.answer = .ok response ∧ ∀ r ∈ response.results, r.status = .ok

/-- The executor answered, and every statement has a result that is no failure. -/
def Confirmed (e : Exchange) : Prop :=
  ∃ response, e.answer = .ok response ∧
    ∀ i < e.query.length, ∃ r, response.results[i]? = some r ∧ r.status = .ok

/-- The executor answered, and every statement has a result. -/
def Complete (e : Exchange) : Prop :=
  ∃ response, e.answer = .ok response ∧ e.query.length ≤ response.results.length

end Exchange

namespace Response

theorem firstFailure?_eq_none_iff {results : List StatementResult} {index : Nat} :
    firstFailure? index results = none ↔ ∀ r ∈ results, r.status = .ok := by
  induction results generalizing index with
  | nil => simp [firstFailure?]
  | cons r rest ih =>
    rw [firstFailure?, List.forall_mem_cons]
    cases r.status with
    | ok => simp [ih]
    | err => simp

theorem check_eq_ok_iff {response : Response} :
    response.check = .ok () ↔ ∀ r ∈ response.results, r.status = .ok := by
  have none_iff := @firstFailure?_eq_none_iff response.results 0
  rw [check, ← none_iff]
  cases firstFailure? 0 response.results with
  | none => simp
  | some fault => simp

end Response

namespace Exchange

theorem outcome_eq_ok_iff {e : Exchange} : e.outcome = .ok () ↔ e.Unrefused := by
  rw [outcome, Unrefused]
  cases e.answer with
  | error fault => simp
  | ok response => simp [Response.check_eq_ok_iff]

theorem Confirmed.complete {e : Exchange} (confirmed : e.Confirmed) : e.Complete := by
  obtain ⟨response, answered, succeeded⟩ := confirmed
  refine ⟨response, answered, Nat.not_lt.mp fun short => ?_⟩
  obtain ⟨r, found, -⟩ := succeeded _ short
  rw [List.getElem?_eq_none (Nat.le_refl _)] at found
  contradiction

/-- What was not refused is confirmed as far as there are results. -/
theorem Unrefused.confirmed_iff {e : Exchange} (unrefused : e.Unrefused) :
    e.Confirmed ↔ e.Complete := by
  refine ⟨Confirmed.complete, ?_⟩
  rintro ⟨response, answered, complete⟩
  obtain ⟨response', answered', succeeded⟩ := unrefused
  obtain rfl := Except.ok.inj (answered.symm.trans answered')
  refine ⟨response, answered, fun i below => ?_⟩
  have inside : i < response.results.length := Nat.lt_of_lt_of_le below complete
  exact ⟨_, List.getElem?_eq_getElem inside, succeeded _ (List.getElem_mem inside)⟩

end Exchange

/-- The executor with a transcript of what it was asked and answered, oldest first. -/
def Executor.recorded {σ : Type} (x : Executor σ) : Executor (σ × List Exchange) := fun q =>
  Run.ofFunction fun (state, past) =>
    let (answer, state) := (x q).runFrom state
    (answer, state, past ++ [⟨q, answer⟩])

/-! ## Submissions -/

/-- Queries submitted one after another, up to the first that does not succeed: the exchanges, and
the outcome of all. -/
inductive Submitted : List Query → List Exchange → Except Error Unit → Prop
  | done : Submitted [] [] (.ok ())
  | passed {e : Exchange} {rest : List Query} {exchanges : List Exchange}
      {outcome : Except Error Unit} (succeeded : e.outcome = .ok ())
      (later : Submitted rest exchanges outcome) :
      Submitted (e.query :: rest) (e :: exchanges) outcome
  | stopped {e : Exchange} {fault : Error} (failed : e.outcome = .error fault)
      (rest : List Query) : Submitted (e.query :: rest) [e] (.error fault)

/-- All queries succeed exactly if all are submitted and none is refused. -/
theorem Submitted.eq_ok_iff {queries : List Query} {exchanges : List Exchange}
    {outcome : Except Error Unit} (submitted : Submitted queries exchanges outcome) :
    outcome = .ok () ↔
      exchanges.map (·.query) = queries ∧ ∀ e ∈ exchanges, e.Unrefused := by
  induction submitted with
  | done => simp
  | passed succeeded later ih => simp [ih, Exchange.outcome_eq_ok_iff.mp succeeded]
  | @stopped e fault failed rest =>
    have refused : ¬ e.Unrefused := by
      rw [← Exchange.outcome_eq_ok_iff, failed]
      exact nofun
    simp [refused]

section
variable {σ : Type} {x : Executor σ}

/-- A computation that submits queries one after another, beside the same computation on the
executor without a transcript. -/
def Submits (queries : List Query) (r : Run σ Unit) (recorded : Run (σ × List Exchange) Unit) :
    Prop :=
  ∀ state past, ∃ exchanges,
    recorded.runFrom (state, past) =
      ((r.runFrom state).1, (r.runFrom state).2, past ++ exchanges) ∧
    Submitted queries exchanges (r.runFrom state).1

theorem submits_pure : Submits (σ := σ) [] (pure ()) (pure ()) := by
  intro state past
  exact ⟨[], by simp, .done⟩

theorem runFrom_recorded (q : Query) (state : σ) (past : List Exchange) :
    (x.recorded q).runFrom (state, past) =
      (((x q).runFrom state).1, ((x q).runFrom state).2,
        past ++ [⟨q, ((x q).runFrom state).1⟩]) := rfl

theorem submits_runChecked (q : Query) :
    Submits [q] (x.runChecked q) (x.recorded.runChecked q) := by
  intro state past
  rw [Executor.runChecked, Executor.runChecked, Run.runFrom_bind, Run.runFrom_bind,
    runFrom_recorded]
  rcases (x q).runFrom state with ⟨answer, after⟩
  cases answer with
  | error fault =>
    let e : Exchange := ⟨q, .error fault⟩
    have failed : e.outcome = .error fault := rfl
    exact ⟨[e], rfl, .stopped failed []⟩
  | ok response =>
    let e : Exchange := ⟨q, .ok response⟩
    refine ⟨[e], by simp [e], ?_⟩
    simp only [Run.runFrom_ofExcept]
    cases checked : response.check with
    | error fault =>
      have failed : e.outcome = .error fault := checked
      exact .stopped failed []
    | ok done =>
      have succeeded : e.outcome = .ok () := checked
      exact .passed succeeded .done

/-- What follows a query is submitted only if the query succeeds. -/
theorem Submits.bind {q : Query} {queries : List Query} {r r' : Run σ Unit}
    {recorded recorded' : Run (σ × List Exchange) Unit} (first : Submits [q] r recorded)
    (later : Submits queries r' recorded') :
    Submits (q :: queries) (r >>= fun _ => r') (recorded >>= fun _ => recorded') := by
  intro state past
  obtain ⟨exchanges, ran, submitted⟩ := first state past
  rcases plain : r.runFrom state with ⟨outcome, after⟩
  rw [plain] at ran submitted
  cases submitted with
  | stopped failed rest =>
    rw [Run.runFrom_bind_of_error plain, Run.runFrom_bind_of_error ran]
    exact ⟨_, rfl, .stopped failed queries⟩
  | @passed e _ _ _ succeeded nothing =>
    cases nothing
    obtain ⟨exchanges, ran', submitted⟩ := later after (past ++ [e])
    rw [Run.runFrom_bind_of_ok plain, Run.runFrom_bind_of_ok ran]
    refine ⟨e :: exchanges, ?_, .passed succeeded submitted⟩
    rw [ran', List.append_assoc]
    rfl

end

/-! ## Writes -/

/-- Whether a call writes or removes something. -/
def Call.Writes : Call → Prop
  | .add documents | .addBatched documents => documents ≠ []
  | .delete ids => ids ≠ []
  | .search _ | .searchVector _ _ => False

namespace Store

variable {σ : Type}

/-- The queries of a write of documents with their vectors: one for each document, or one for all;
of a removal, one for all. -/
def submissions (s : Store) (stored : List StoredDocument) : Call → List Query
  | .add _ => stored.map fun e => [s.write e]
  | .addBatched _ => [Query.transaction (stored.map s.write)]
  | .delete ids => [[.delete (ids.map fun id => ⟨s.table, id⟩)]]
  | .search _ | .searchVector _ _ => []

theorem submits_writeEach (s : Store) (x : Executor σ) (stored : List StoredDocument) :
    Submits (stored.map fun e => [s.write e]) (s.writeEach x (stored.map s.entry))
      (s.writeEach x.recorded (stored.map s.entry)) := by
  induction stored with
  | nil => exact submits_pure
  | cons e rest ih => exact (submits_runChecked [s.write e]).bind ih

theorem submits_add {s : Store} {documents : List Document} {stored : List StoredDocument}
    (prepared : s.prepare documents = .ok (stored.map s.entry)) (x : Executor σ) :
    Submits (stored.map fun e => [s.write e]) (s.add x documents) (s.add x.recorded documents) := by
  intro state past
  rw [runFrom_add_of_ok prepared, runFrom_add_of_ok prepared]
  exact s.submits_writeEach x stored state past

theorem submits_addBatched {s : Store} {documents : List Document} {stored : List StoredDocument}
    (some : documents ≠ []) (prepared : s.prepare documents = .ok (stored.map s.entry))
    (x : Executor σ) :
    Submits [Query.transaction (stored.map s.write)] (s.addBatched x documents)
      (s.addBatched x.recorded documents) := by
  intro state past
  rw [runFrom_addBatched_of_ok some prepared, runFrom_addBatched_of_ok some prepared,
    writes_map_entry]
  exact submits_runChecked _ state past

theorem submits_delete (s : Store) {ids : List String} (some : ids ≠ []) (x : Executor σ) :
    Submits [[.delete (ids.map fun id => ⟨s.table, id⟩)]] (s.delete x ids)
      (s.delete x.recorded ids) := by
  have targets : ¬ (ids.map fun id => (⟨s.table, id⟩ : RecordId)).isEmpty = true := by
    simpa using some
  rw [delete, delete, Executor.delete, Executor.delete, if_neg targets, if_neg targets]
  exact submits_runChecked _

theorem submits_call {s : Store} {c : Call} (writes : c.Writes)
    {entries : List (RecordId × Fields)} (prepared : s.prepare c.documents = .ok entries)
    (x : Executor σ) :
    Submits (s.submissions (s.stored c.documents) c) (c.run s x) (c.run s x.recorded) := by
  obtain ⟨rfl, -⟩ := prepare_eq_ok prepared
  cases c with
  | add documents => exact submits_add prepared x
  | addBatched documents => exact submits_addBatched writes prepared x
  | delete ids => exact s.submits_delete writes x
  | search _ | searchVector _ _ => exact writes.elim

/-- Whatever the executor answers, a write succeeds exactly if its documents can be prepared, all
its queries are submitted and none of their answers is an error or holds a failed result. That is
less than a result for every statement: of a write that succeeded, the queries whose answers hold as
many results as they have statements are confirmed, and no others are. -/
theorem confirmed_iff_complete_of_ok (s : Store) (x : Executor σ) (state : σ) {c : Call}
    (writes : c.Writes) :
    let ran := (c.run s x.recorded).runFrom (state, [])
    let transcript := ran.2.2
    (ran.1, ran.2.1) = (c.run s x).runFrom state ∧
      (ran.1 = .ok () ↔ (∃ entries, s.prepare c.documents = .ok entries) ∧
        transcript.map (·.query) = s.submissions (s.stored c.documents) c ∧
          ∀ e ∈ transcript, e.Unrefused) ∧
      (ran.1 = .ok () → ∀ e ∈ transcript, e.Confirmed ↔ e.Complete) := by
  intro ran transcript
  cases prepared : s.prepare c.documents with
  | error fault =>
    have refused : ran = (.error fault, state, []) := runFrom_call_of_error prepared ..
    rw [refused, runFrom_call_of_error prepared]
    refine ⟨rfl, ⟨nofun, ?_⟩, nofun⟩
    rintro ⟨⟨_, ⟨⟩⟩, -⟩
  | ok entries =>
    obtain ⟨exchanges, noted, submitted⟩ := submits_call writes prepared x state []
    rw [List.nil_append] at noted
    replace noted : ran = (((c.run s x).runFrom state).1, ((c.run s x).runFrom state).2,
      exchanges) := noted
    have recorded : transcript = exchanges := congrArg (·.2.2) noted
    rw [recorded, noted]
    have succeeds := submitted.eq_ok_iff
    refine ⟨rfl, ⟨fun ok => ⟨⟨entries, rfl⟩, succeeds.mp ok⟩, fun all => succeeds.mpr all.2⟩, ?_⟩
    intro ok e member
    exact ((succeeds.mp ok).2 e member).confirmed_iff

/-- An executor that answers every query with one result, however many statements it has. -/
def terse : Executor Unit := fun _ => pure ⟨[.ok .null]⟩

/-- An executor that answers every query without a result. -/
def silent : Executor Unit := fun _ => pure ⟨[]⟩

theorem not_complete_of_short {q : Query} {results : List StatementResult}
    (short : results.length < q.length) : ¬ Exchange.Complete ⟨q, .ok ⟨results⟩⟩ := by
  rintro ⟨response, answered, complete⟩
  obtain rfl := Except.ok.inj answered
  exact Nat.not_le.mpr short complete

/-- One result confirms writes of one statement each, and not a transaction around them. -/
theorem confirmed_single_not_batch :
    let documents := [draft.document, revision.document]
    let single := ((Call.add documents).run mergingStore terse.recorded).runFrom ((), [])
    let batch := ((Call.addBatched documents).run mergingStore terse.recorded).runFrom ((), [])
    (Call.add documents).Writes ∧ (Call.addBatched documents).Writes ∧
      single.1 = .ok () ∧ (∀ e ∈ single.2.2, e.Confirmed) ∧
      batch.1 = .ok () ∧ ∀ e ∈ batch.2.2, ¬ e.Confirmed := by
  intro documents single batch
  have one : (Call.add documents).Writes := by simp [Call.Writes, documents]
  have all : (Call.addBatched documents).Writes := by simp [Call.Writes, documents]
  have single_ok : single.1 = .ok () := rfl
  have batch_ok : batch.1 = .ok () := rfl
  have single_iff := (confirmed_iff_complete_of_ok mergingStore terse () one).2.2 single_ok
  have batch_iff := (confirmed_iff_complete_of_ok mergingStore terse () all).2.2 batch_ok
  have transcript : single.2.2 = [⟨[mergingStore.write draft], .ok ⟨[.ok .null]⟩⟩,
    ⟨[mergingStore.write revision], .ok ⟨[.ok .null]⟩⟩] := rfl
  have batchTranscript : batch.2.2 = [⟨Query.transaction [mergingStore.write draft,
    mergingStore.write revision], .ok ⟨[.ok .null]⟩⟩] := rfl
  refine ⟨one, all, single_ok, fun e member => ?_, batch_ok, fun e member => ?_⟩
  · refine (single_iff e member).mpr ?_
    simp only [transcript, List.mem_cons, List.not_mem_nil, or_false] at member
    rcases member with rfl | rfl
    · exact ⟨_, rfl, Nat.le_refl 1⟩
    · exact ⟨_, rfl, Nat.le_refl 1⟩
  · rw [batch_iff e member]
    rw [batchTranscript] at member
    rw [List.mem_singleton.mp member]
    exact not_complete_of_short (by simp [Query.transaction])

/-- A write succeeds on an executor though a query that it submitted is not confirmed. -/
def SucceedsUnconfirmed (s : Store) (x : Executor Unit) (c : Call) : Prop :=
  let ran := (c.run s x.recorded).runFrom ((), [])
  c.Writes ∧ ran.1 = .ok () ∧ ∃ e ∈ ran.2.2, ¬ e.Confirmed

/-- Writes of every kind succeed though no statement of theirs has a result. -/
theorem succeeds_unconfirmed :
    mergingStore.SucceedsUnconfirmed silent (.add [draft.document]) ∧
      mergingStore.SucceedsUnconfirmed silent (.addBatched [draft.document]) ∧
        mergingStore.SucceedsUnconfirmed silent (.delete ["a"]) := by
  have unconfirmed (statement : Statement) (rest : Query) :
      ¬ Exchange.Confirmed ⟨statement :: rest, .ok ⟨[]⟩⟩ := by
    intro confirmed
    exact not_complete_of_short (by simp) confirmed.complete
  refine ⟨?add, ?addBatched, ?delete⟩
  case add =>
    exact ⟨by simp [Call.Writes], rfl, _, .head _, unconfirmed (mergingStore.write draft) []⟩
  case addBatched =>
    exact ⟨by simp [Call.Writes], rfl, _, .head _, unconfirmed .beginTransaction _⟩
  case delete =>
    exact ⟨by simp [Call.Writes], rfl, _, .head _, unconfirmed (.delete _) []⟩

end Store

end VectorStore
