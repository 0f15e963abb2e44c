import VectorStore.Proofs.Response
import VectorStore.Proofs.Store.Answers
import VectorStore.Proofs.Store.Preparation
import VectorStore.Proofs.Store.Submissions

/-!
What a search submits, and what it makes of the answer, whatever the executor is. A request is
refused at the first of five steps that fails (`Store.Refuses`), before anything is submitted. All
others submit one query, and succeed exactly if its second result is an array of rows that can all
be read; of these some are kept, in their order (`Store.search_submits_once`).
-/
namespace VectorStore

/-! ## Results that are kept -/

namespace SearchRequest

/-- A score is below the threshold of a request, if there is one. -/
structure Misses (r : SearchRequest) (score : Float) : Prop where
  bounded : acceptAll < r.threshold
  unreached : ¬ r.threshold ≤ score
  /-- JSON has no numbers that are not finite. -/
  below : doubleFinite score = true → score < r.threshold

/-- The results that are kept of those in rows, by their places. -/
structure Retains (r : SearchRequest) (hits kept : List RankedResult)
    (places : List Nat) : Prop where
  /-- Each comes from a row of its own, and they stand in the order of the rows. -/
  increasing : places.Pairwise (· < ·)
  kept_eq : kept.map some = places.map (hits[·]?)
  few : places.length ≤ r.topK
  reaches : ∀ hit ∈ kept, acceptAll < r.threshold → r.threshold ≤ hit.score
  /-- Any other is below the threshold, or stands behind as many as were asked for. -/
  left : ∀ i hit, hits[i]? = some hit → i ∉ places →
    r.Misses hit.score ∨ places.length = r.topK ∧ ∀ place ∈ places, place < i

/-- Whether a result reaches the threshold of a request, if there is one. -/
def accepts (r : SearchRequest) (hit : RankedResult) : Bool :=
  !decide (acceptAll < r.threshold) || decide (r.threshold ≤ hit.score)

section
variable {r : SearchRequest} {hits : List RankedResult}

/-- The places of the results that reach the threshold. -/
def acceptedPlaces (r : SearchRequest) (hits : List RankedResult) : List Nat :=
  (List.range hits.length).filter fun i => hits[i]?.any r.accepts

/-- The results that reach the threshold, by place. -/
theorem filter_accepts_eq :
    (hits.filter r.accepts).map some = (r.acceptedPlaces hits).map (hits[·]?) := by
  have all : hits.map some = (List.range hits.length).map (hits[·]?) := by
    refine List.ext_getElem? fun i => ?_
    rw [List.getElem?_map, List.getElem?_map]
    grind
  have filtered := congrArg (List.filter (Option.any r.accepts)) all
  rw [List.filter_map, List.filter_map] at filtered
  exact filtered

theorem retains_accepted (nonneg : 0.0 ≤ r.threshold) :
    r.Retains hits ((hits.filter r.accepts).take r.topK)
      ((r.acceptedPlaces hits).take r.topK) := by
  have increasing : (r.acceptedPlaces hits).Pairwise (· < ·) := List.pairwise_lt_range.filter _
  refine ⟨increasing.sublist (List.take_sublist ..), ?_, List.length_take_le .., ?_, ?_⟩
  · rw [List.map_take, filter_accepts_eq, List.map_take]
  · intro hit member bounded
    have accepted := List.of_mem_filter (List.mem_of_mem_take member)
    simpa [accepts, bounded] using accepted
  · intro i hit found out
    by_cases accepted : r.accepts hit = true
    · -- an accepted place that is not among the first stands behind all of these
      right
      have member : i ∈ r.acceptedPlaces hits := by
        refine List.mem_filter.mpr ⟨?_, by simp [found, accepted]⟩
        exact List.mem_range.mpr (List.getElem?_eq_some_iff.mp found).1
      rw [← List.take_append_drop r.topK (r.acceptedPlaces hits)] at increasing member
      have later := (List.mem_append.mp member).resolve_left out
      refine ⟨?_, fun place first => (List.pairwise_append.mp increasing).2.2 place first i later⟩
      have longer := List.length_pos_of_mem later
      rw [List.length_drop] at longer
      rw [List.length_take]
      omega
    · left
      simp only [accepts, Bool.or_eq_true, Bool.not_eq_true', decide_eq_false_iff_not,
        decide_eq_true_eq, not_or, not_not] at accepted
      exact ⟨accepted.1, accepted.2, fun finite => lt_of_not_le finite nonneg accepted.2⟩

end
end SearchRequest

/-! ## Answers -/

/-- An answer whose second result is an array of rows, and no failure. -/
def Response.Holds (answer : Except Error Response) (rows : List Json) : Prop :=
  ∃ response entry, answer = .ok response ∧ response.results[1]? = some entry ∧
    entry.status = .ok ∧ entry.result = .array rows

theorem Response.holds_iff {response : Response} {rows : List Json} :
    Holds (.ok response) rows ↔ (response.take 1).1 = .ok (.array rows) := by
  rw [take_fst_eq_ok_iff]
  constructor
  · rintro ⟨_, entry, ⟨⟩, found⟩
    exact ⟨entry, found⟩
  · rintro ⟨entry, found⟩
    exact ⟨response, entry, rfl, found⟩

namespace Store

variable {s : Store} {r : SearchRequest}

theorem readResults_eq_ok_iff {response : Response} {results : List RankedResult} :
    s.readResults r response = .ok results ↔ ∃ rows hits,
      Response.Holds (.ok response) rows ∧ s.rowLayout.Reads rows hits ∧
        results = (hits.filter r.accepts).take r.topK := by
  have kept (hits : List RankedResult) :
      (if r.threshold > SearchRequest.acceptAll then
        hits.filter fun hit => decide (r.threshold ≤ hit.score) else hits) =
        hits.filter r.accepts := by
    by_cases bounded : SearchRequest.acceptAll < r.threshold
    · rw [if_pos bounded]
      exact List.filter_congr fun hit _ => by simp [SearchRequest.accepts, bounded]
    · rw [if_neg bounded]
      exact (List.filter_eq_self.mpr fun hit _ => by simp [SearchRequest.accepts, bounded]).symm
  rw [readResults]
  constructor
  · intro read
    obtain ⟨value, taken, rest⟩ := bind_eq_ok_iff.mp read
    obtain ⟨hits, mapped, kept'⟩ := bind_eq_ok_iff.mp rest
    obtain ⟨rows, rfl, reads⟩ := RowLayout.results_eq_ok_iff.mp (mapError_eq_ok_iff.mp mapped)
    refine ⟨rows, hits, Response.holds_iff.mpr taken, reads, ?_⟩
    rw [← kept]
    exact (Except.ok.inj kept').symm
  · rintro ⟨rows, hits, holds, reads, rfl⟩
    have mapped := mapError_eq_ok_iff (f := Error.malformedResult).mpr
      (RowLayout.results_eq_ok_iff.mpr ⟨rows, rfl, reads⟩)
    rw [Response.holds_iff.mp holds, ← kept]
    change ((s.rowLayout.results (.array rows)).mapError Error.malformedResult >>= _) = _
    rw [mapped]
    rfl

theorem bind_readResults_eq_ok_iff {answer : Except Error Response}
    {results : List RankedResult} :
    answer.bind (s.readResults r) = .ok results ↔ ∃ rows hits, Response.Holds answer rows ∧
      s.rowLayout.Reads rows hits ∧ results = (hits.filter r.accepts).take r.topK := by
  cases answer with
  | error fault =>
    constructor
    · rintro ⟨⟩
    · rintro ⟨_, _, ⟨_, _, ⟨⟩, -⟩, -⟩
  | ok response => exact readResults_eq_ok_iff

/-! ## Requests that are refused -/

/-- What is wrong with a vector. -/
inductive FaultOf (s : Store) (v : Embedding) : VectorFault → Prop
  | empty (none : v = []) : FaultOf s v .empty
  | notFinite {i : Nat} {x : Float32} (found : v[i]? = some x) (infinite : singleFinite x = false)
      (first : ∀ j y, j < i → v[j]? = some y → singleFinite y = true) :
    FaultOf s v (.notFinite i)
  | dimension (some : v ≠ []) (finite : ∀ x ∈ v, singleFinite x = true)
      (reported : 0 < s.embedder.dimension) (differs : v.length ≠ s.embedder.dimension) :
    FaultOf s v (.dimension v.length s.embedder.dimension)

/-- Why a search is refused: the first of its steps that fails, with its error. -/
inductive Refuses (s : Store) (r : SearchRequest) : Error → Prop
  | topK (none : r.topK = 0) : Refuses s r (.invalidInput .topK)
  | threshold (some : r.topK ≠ 0) (outside : ¬(0.0 ≤ r.threshold ∧ r.threshold ≤ 1.0)) :
    Refuses s r (.invalidInput (.threshold r.threshold))
  | embedding {e : Error} (valid : r.validate = .ok ())
      (failed : s.embedder.embed r.query = .error e) : Refuses s r e
  | vector {v : Embedding} {fault : VectorFault} (valid : r.validate = .ok ())
      (embedded : s.embedder.embed r.query = .ok v) (faulty : s.FaultOf v fault) :
    Refuses s r (.invalidInput (.vector .query fault))
  | filter {v : Embedding} {f : Filter} {e : Error} (valid : r.validate = .ok ())
      (embedded : s.embedder.embed r.query = .ok v) (accepted : s.AcceptsVector v)
      (filtered : r.filter = some f) (failed : s.writeFilter f = .error e) : Refuses s r e

theorem checkVector_of_faultOf {owner : VectorOwner} {v : Embedding} {fault : VectorFault}
    (faulty : s.FaultOf v fault) :
    s.checkVector owner v = .error (.invalidInput (.vector owner fault)) := by
  cases faulty with
  | empty none => rw [none]; rfl
  | @notFinite i x found infinite first =>
    have nonempty : ¬ v.isEmpty = true := by
      rintro empty
      rw [List.isEmpty_iff.mp empty] at found
      contradiction
    have search : v.findIdx? (fun x => !singleFinite x) = some i := by
      obtain ⟨inside, rfl⟩ := List.getElem?_eq_some_iff.mp found
      refine List.findIdx?_eq_some_iff_getElem.mpr ⟨inside, by simp [infinite], fun j less => ?_⟩
      simp [first j v[j] less (List.getElem?_eq_getElem _)]
    rw [checkVector, if_neg nonempty, search]
  | dimension some finite reported differs =>
    have nonempty : ¬ v.isEmpty = true := by simpa using some
    have search : v.findIdx? (fun x => !singleFinite x) = none := by
      rw [List.findIdx?_eq_none_iff]
      intro x member
      simp [finite x member]
    rw [checkVector, if_neg nonempty, search]
    exact if_pos ⟨reported, differs⟩

theorem exists_faultOf_of_check {owner : VectorOwner} {v : Embedding} {e : Error}
    (refused : s.checkVector owner v = .error e) : ∃ fault, s.FaultOf v fault := by
  rw [checkVector] at refused
  split at refused
  next none => exact ⟨_, .empty (List.isEmpty_iff.mp none)⟩
  next some =>
    split at refused
    next i search =>
      obtain ⟨inside, infinite, first⟩ := List.findIdx?_eq_some_iff_getElem.mp search
      refine ⟨_, .notFinite (List.getElem?_eq_getElem inside) (by simpa using infinite) ?_⟩
      intro j x less found
      obtain ⟨_, rfl⟩ := List.getElem?_eq_some_iff.mp found
      simpa using first j less
    next search =>
      split at refused
      next differs =>
        rw [List.findIdx?_eq_none_iff] at search
        exact ⟨_, .dimension (by simpa using some) (by simpa using search) differs.1 differs.2⟩
      next => contradiction

/-- The error of a request that is refused is that of its query. -/
theorem Refuses.textQuery_eq {e : Error} (refuses : s.Refuses r e) : s.textQuery r = .error e := by
  cases refuses with
  | topK none => rw [textQuery, SearchRequest.validate, if_pos none]; rfl
  | threshold some outside =>
    rw [textQuery, SearchRequest.validate, if_neg some, if_neg outside]
    rfl
  | embedding valid failed => rw [textQuery, valid, failed]; rfl
  | vector valid embedded faulty =>
    rw [textQuery, valid, embedded]
    change s.vectorQuery _ r = _
    rw [vectorQuery, valid, checkVector_of_faultOf faulty]
    rfl
  | filter valid embedded accepted filtered failed =>
    rw [textQuery, valid, embedded]
    change s.vectorQuery _ r = _
    rw [vectorQuery, valid, checkVector_eq_ok_iff.mpr accepted, filtered, writtenFilter, failed]
    rfl

/-- A request that passes the steps of a search, with its vector and its written filter. -/
structure Admits (s : Store) (r : SearchRequest) (v : Embedding) (written : Option WrittenFilter) :
    Prop where
  valid : r.validate = .ok ()
  embedded : s.embedder.embed r.query = .ok v
  vector : s.AcceptsVector v
  filter : s.writtenFilter r.filter = .ok written

theorem Admits.textQuery_eq {v : Embedding} {written : Option WrittenFilter}
    (admits : s.Admits r v written) :
    s.textQuery r = .ok [.bind queryParam v, .select (s.selection r.topK written)] := by
  rw [textQuery, admits.valid, admits.embedded]
  change s.vectorQuery v r = _
  rw [vectorQuery, admits.valid, checkVector_eq_ok_iff.mpr admits.vector, admits.filter]
  rfl

theorem refuses_or_admits (s : Store) (r : SearchRequest) :
    (∃ e, s.Refuses r e) ∨ ∃ v written, s.Admits r v written := by
  cases valid : r.validate with
  | error e =>
    left
    by_cases none : r.topK = 0
    · exact ⟨_, .topK none⟩
    · refine ⟨_, .threshold none fun inside => ?_⟩
      rw [SearchRequest.validate, if_neg none, if_pos inside] at valid
      contradiction
  | ok checked =>
    cases embedded : s.embedder.embed r.query with
    | error e => exact .inl ⟨e, .embedding valid embedded⟩
    | ok v =>
      cases vector : s.checkVector .query v with
      | error e =>
        obtain ⟨fault, faulty⟩ := exists_faultOf_of_check vector
        exact .inl ⟨_, .vector valid embedded faulty⟩
      | ok checked =>
        have accepted := checkVector_eq_ok_iff.mp vector
        cases filtered : r.filter with
        | none => exact .inr ⟨v, none, valid, embedded, accepted, by rw [filtered]; rfl⟩
        | some f =>
          cases written : s.writeFilter f with
          | error e => exact .inl ⟨e, .filter valid embedded accepted filtered written⟩
          | ok text =>
            refine .inr ⟨v, some ⟨f, text⟩, valid, embedded, accepted, ?_⟩
            rw [filtered, writtenFilter, written]
            rfl

theorem Admits.nonneg {v : Embedding} {written : Option WrittenFilter}
    (admits : s.Admits r v written) : 0.0 ≤ r.threshold := by
  have valid := admits.valid
  rw [SearchRequest.validate] at valid
  split_ifs at valid with none bounds
  exact bounds.1

/-! ## What is submitted -/

section
variable {σ : Type} {x : Executor σ} {state : σ}

theorem runFrom_search_of_error {e : Error} (refused : s.textQuery r = .error e) :
    (s.search x r).runFrom state = (.error e, state) := by
  rw [search, runSearch, refused]
  rfl

theorem runFrom_search_of_ok {q : Query} (accepted : s.textQuery r = .ok q) :
    (s.search x r).runFrom state =
      (((x q).runFrom state).1.bind (s.readResults r), ((x q).runFrom state).2) := by
  rw [search, runSearch, accepted, Run.runFrom_bind_of_ok (Run.runFrom_ofExcept ..),
    Run.runFrom_bind]
  rcases (x q).runFrom state with ⟨answer, after⟩
  cases answer with
  | error fault => rfl
  | ok response => exact Run.runFrom_ofExcept ..

/-- Whatever the executor answers, a search is refused, and nothing is submitted; or it submits one
query. Then it succeeds exactly if the executor answers and the second result is an array of rows
that can all be read. The results are those of the rows that reach the threshold, in their order,
and as many as were asked for. -/
theorem search_submits_once (s : Store) (x : Executor σ) (state : σ) (r : SearchRequest) :
    let ran := (s.search x.recorded r).runFrom (state, [])
    (ran.1, ran.2.1) = (s.search x r).runFrom state ∧
      (∀ e, s.Refuses r e → ran = (.error e, state, [])) ∧
      ((∀ e, ¬ s.Refuses r e) → ∃ v written answer, s.Admits r v written ∧
        ran.2.2 = [⟨[.bind queryParam v, .select (s.selection r.topK written)], answer⟩] ∧
        ((∃ results, ran.1 = .ok results) ↔ ∃ rows, Response.Holds answer rows ∧
          ∀ row ∈ rows, ∃ hit, s.rowLayout.result row = .ok hit) ∧
        ∀ results, ran.1 = .ok results → ∃ rows hits places, Response.Holds answer rows ∧
          s.rowLayout.Reads rows hits ∧ r.Retains hits results places) := by
  intro ran
  rcases s.refuses_or_admits r with ⟨e, refuses⟩ | ⟨v, written, admits⟩
  · have refused : ran = (.error e, state, []) := runFrom_search_of_error refuses.textQuery_eq
    rw [refused, runFrom_search_of_error refuses.textQuery_eq]
    refine ⟨rfl, fun e' refuses' => ?_, fun none => absurd refuses (none e)⟩
    obtain rfl := Except.error.inj (refuses.textQuery_eq.symm.trans refuses'.textQuery_eq)
    rfl
  · have query := admits.textQuery_eq
    let answer := ((x [.bind queryParam v, .select (s.selection r.topK written)]).runFrom state).1
    have submitted : ran = (answer.bind (s.readResults r), _, [⟨_, answer⟩]) :=
      runFrom_search_of_ok query
    rw [submitted, runFrom_search_of_ok query]
    refine ⟨rfl, fun e refuses => ?_, fun _ => ⟨v, written, answer, admits, rfl, ?_, ?_⟩⟩
    · rw [refuses.textQuery_eq] at query
      contradiction
    · constructor
      · rintro ⟨results, read⟩
        obtain ⟨rows, hits, holds, each, -⟩ := bind_readResults_eq_ok_iff.mp read
        exact ⟨rows, holds, RowLayout.exists_reads_iff.mp ⟨hits, each⟩⟩
      · rintro ⟨rows, holds, each⟩
        obtain ⟨hits, mapped⟩ := RowLayout.exists_reads_iff.mpr each
        exact ⟨_, bind_readResults_eq_ok_iff.mpr ⟨rows, hits, holds, mapped, rfl⟩⟩
    · intro results read
      obtain ⟨rows, hits, holds, each, rfl⟩ := bind_readResults_eq_ok_iff.mp read
      exact ⟨rows, hits, _, holds, each, SearchRequest.retains_accepted admits.nonneg⟩

end

/-- An executor that answers every query with rows, as the result of its second statement. -/
def answering (rows : List Json) : Executor Unit := fun _ => pure ⟨[.ok .null, .ok (.array rows)]⟩

/-- A row of a search. -/
def scoredRow (id : String) (score : Float) : Json :=
  .object [("id", .string ("t:" ++ id)), (scoreColumn, .number (.double score)),
    (distanceColumn, .number (.int 0)), ("content", .string "text")]

/-- A request for one document with a threshold. -/
def oneAboveHalf : SearchRequest := ⟨"", 1, 0.5, none⟩

/-- Of three rows one is below the threshold and one is too many. A row that cannot be read makes
the search fail, though it would be too many too. A request for nothing is not submitted. -/
theorem search_keeps_one_of_three :
    let rows := [scoredRow "a" 0.25, scoredRow "b" 0.75, scoredRow "c" 1.0]
    let search (rows : List Json) (r : SearchRequest) :=
      (planeStore.search (answering rows).recorded r).runFrom ((), [])
    (∀ e, ¬ planeStore.Refuses oneAboveHalf e) ∧
      (∃ results places, (search rows oneAboveHalf).1 = .ok results ∧
        results.map (·.id) = ["b"] ∧ ∃ hits, oneAboveHalf.Retains hits results places) ∧
      (search (rows ++ [.null]) oneAboveHalf).1 =
        .error (.malformedResult (.row 3 (.notRow "null"))) ∧
      planeStore.Refuses { oneAboveHalf with topK := 0 } (.invalidInput .topK) ∧
      search rows { oneAboveHalf with topK := 0 } = (.error (.invalidInput .topK), (), []) := by
  intro rows search
  have query : planeStore.textQuery oneAboveHalf = .ok [.bind queryParam [0.0, 1.0],
      .select (planeStore.selection 1 none)] := rfl
  have admitted : ∀ e, ¬ planeStore.Refuses oneAboveHalf e := by
    intro e refuses
    rw [refuses.textQuery_eq] at query
    contradiction
  have refused : planeStore.Refuses { oneAboveHalf with topK := 0 } (.invalidInput .topK) :=
    .topK rfl
  have found : ∃ results, (search rows oneAboveHalf).1 = .ok results ∧
      results.map (·.id) = ["b"] := ⟨_, rfl, rfl⟩
  obtain ⟨results, read, ids⟩ := found
  obtain ⟨-, -, submits⟩ := search_submits_once planeStore (answering rows) () oneAboveHalf
  obtain ⟨_, _, _, _, _, -, kept⟩ := submits admitted
  obtain ⟨_, hits, places, -, -, retains⟩ := kept results read
  exact ⟨admitted, ⟨results, places, read, ids, hits, retains⟩, rfl, refused,
    (search_submits_once planeStore (answering rows) () _).2.1 _ refused⟩

end Store
end VectorStore
