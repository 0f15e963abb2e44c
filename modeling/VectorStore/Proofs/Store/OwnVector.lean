import Mathlib
import VectorStore.Proofs.Database.ZeroDistance
import VectorStore.Proofs.Number.Widening
import VectorStore.Proofs.Store.Answers

/-!
A vector as a query and as stored data. What is stored are the numbers of the vector's literal, and
what a query is bound to are the values of its components. Where the shortest decimals of the
components are nearest to these values, a search for a stored vector finds it at distance zero, and
elsewhere it does not (`Store.own_vector_at_zero_iff`).
-/
namespace VectorStore
open Text

/-! ## The numbers of a literal -/

section
variable {separator : Char → Bool} {cs : List Char} (plain : ∀ c ∈ cs, separator c = false)
include plain

theorem split_of_plain : split separator cs = [cs] := by
  induction cs with
  | nil => rfl
  | cons c rest ih =>
    obtain ⟨first, later⟩ := List.forall_mem_cons.mp plain
    rw [split, first, ih later]
    rfl

theorem split_append {c : Char} (separates : separator c = true) (rest : List Char) :
    split separator (cs ++ c :: rest) = cs :: split separator rest := by
  induction cs with
  | nil => rw [List.nil_append, split, if_pos separates]
  | cons d cs ih =>
    obtain ⟨first, later⟩ := List.forall_mem_cons.mp plain
    rw [List.cons_append, split, first, ih later]
    rfl

end

/-- Texts without commas are read back from their list. -/
theorem split_joinWith :
    {texts : List String} → texts ≠ [] → (∀ text ∈ texts, ∀ c ∈ text.toList, (c == ',') = false) →
      split (· == ',') (joinWith "," texts).toList = texts.map String.toList
  | [text], _, plain => split_of_plain (plain text List.mem_cons_self)
  | text :: next :: rest, _, plain => by
    obtain ⟨first, later⟩ := List.forall_mem_cons.mp plain
    have comma : (joinWith "," (text :: next :: rest)).toList =
        text.toList ++ ',' :: (joinWith "," (next :: rest)).toList := by
      simp [joinWith]
    rw [comma, split_append first rfl, split_joinWith (List.cons_ne_nil _ _) later]
    rfl

/-- The numbers of a vector literal: what stands between its brackets, with commas in between. -/
def literalNumbers? (text : String) : Option (List Float) :=
  (RecordId.between? '[' ']' text.toList).bind fun inner =>
    if inner = [] then some [] else (split (· == ',') inner).mapM readDouble?

/-- The literal of a vector denotes what its shortest decimals are read as. -/
theorem literalNumbers?_vectorLiteral {v : Embedding} (finite : ∀ x ∈ v, singleFinite x = true) :
    literalNumbers? (vectorLiteral v) = some (v.map ofDecimal) := by
  have between : RecordId.between? '[' ']' (vectorLiteral v).toList =
      some (joinWith "," (v.map Layout.bare.single)).toList := by
    simp [vectorLiteral, RecordId.between?]
  rw [literalNumbers?, between, Option.bind_some]
  by_cases empty : v = []
  · rw [empty]
    rfl
  have pieces : split (· == ',') (joinWith "," (v.map Layout.bare.single)).toList =
      (v.map Layout.bare.single).map String.toList := by
    refine split_joinWith (by simpa using empty) (List.forall_mem_map.mpr fun x _ c member => ?_)
    have part := isScalarPart_of_mem_single .bare x c member
    by_contra comma
    rw [Bool.not_eq_false, beq_iff_eq] at comma
    rw [comma] at part
    contradiction
  have read : ((v.map Layout.bare.single).map String.toList).mapM readDouble? =
      some (v.map ofDecimal) := by
    rw [List.map_map, List.mapM_map]
    exact mapM_eq_some_map fun x member => readDouble?_single (finite x member)
  rw [pieces, read, if_neg]
  -- nothing between the brackets would be one number without digits
  intro nothing
  rw [nothing, show split (· == ',') [] = [[]] from rfl] at pieces
  rw [← pieces] at read
  contradiction

namespace Store

variable {s : Store} {v : Embedding} {r : SearchRequest}

/-- The distance of a vector as it is stored from the same vector as it is bound. -/
theorem own_distance_eq_zero_iff {metric : Distance} (noCosine : metric ≠ .cosine)
    (finite : ∀ x ∈ v, singleFinite x = true) :
    (metric.between (storedDoubles v) (v.map widen) == 0.0) = true ↔ ∀ x ∈ v, KeepsValue x := by
  obtain ⟨-, -, stored⟩ := storedDoubles_spec finite
  have bound : Components (v.map widen) :=
    List.forall_mem_map.mpr fun x member => component_widen (finite x member)
  rw [between_eq_zero_iff noCosine stored bound, storedDoubles_of_finite finite, List.zip_map',
    List.forall_mem_map]
  exact forall₂_congr fun x member => scaled_eq_iff (finite x member)

/-! ## The results of a search -/

theorem id_of_mem_writesSince {id : String} {changes : List Change} {e : StoredDocument}
    (member : e ∈ writesSince id changes) : e.document.id = id := by
  have all : ∀ e ∈ writesSince id changes, e.document.id = id := by
    refine List.foldlRecOn (motive := fun writes => ∀ e : StoredDocument, e ∈ writes →
      e.document.id = id) changes _ (List.forall_mem_nil _) fun writes each change _ => ?_
    cases change with
    | wrote e =>
      rw [Change.since]
      split
      next same => exact List.forall_mem_append.mpr ⟨each, List.forall_mem_singleton.mpr same⟩
      next => exact each
    | removed id' =>
      rw [Change.since]
      split
      next => exact List.forall_mem_nil _
      next => exact each
  exact all e member

/-- The document that was written last under an id is in the record of the id. -/
theorem Follows.exists_record_of_last {indexes : SortedMap IndexEntry} {h : History} {id : String}
    {e : StoredDocument} (follows : s.Follows indexes h)
    (last : (writesSince id h.changes).getLast? = some e) :
    ∃ record, h.memory.database.record? s.table.text id = some record ∧ s.Legible e record := by
  have live : writesSince id h.changes ≠ [] := List.ne_nil_of_mem (List.mem_of_getLast? last)
  obtain ⟨record, left⟩ := exists_recordOf (s := s) live
  have found := (follows.record? id).trans left
  obtain ⟨e', last', legible⟩ := follows.exists_last found
  obtain rfl := Option.some.inj (last.symm.trans last')
  exact ⟨record, found, legible⟩

/-- A record reads as a result under the id of its document, at its distance. -/
theorem exists_result_pictured (readable : s.Readable) (query : Embedding)
    (row : Database.Candidate) {e : StoredDocument} (legible : s.Legible e row.record) :
    ∃ result, s.rowLayout.result (Json.ofFields (s.pictured query row)) = .ok result ∧
      result.id = e.document.id ∧ result.distance = row.distance.getD 0.0 := by
  have text := legible.text (separate_of_readable readable)
  exact ⟨_, result_shown readable (legible.fields (if_pos rfl)) text _ _, rfl, rfl⟩

/-- The results of a search stand in its rows, and without a threshold all that fit in do. -/
theorem mem_readResults {rows : List Fields} {results : List RankedResult}
    (answered : s.readResults r ⟨[.ok .null, .ok (.array (rows.map Json.ofFields))]⟩ = .ok results)
    (result : RankedResult) :
    (result ∈ results → ∃ row ∈ rows, s.rowLayout.result (Json.ofFields row) = .ok result) ∧
      (¬r.threshold > SearchRequest.acceptAll → rows.length ≤ r.topK →
        (∃ row ∈ rows, s.rowLayout.result (Json.ofFields row) = .ok result) →
          result ∈ results) := by
  rw [readResults_eq] at answered
  cases read : s.rowLayout.resultsFrom 0 (rows.map Json.ofFields) with
  | error fault =>
    rw [read] at answered
    cases answered
  | ok hits =>
    rw [read] at answered
    have kept : results = (if r.threshold > SearchRequest.acceptAll then
      hits.filter fun result => decide (r.threshold ≤ result.score)
      else hits).take r.topK := (Except.ok.inj answered).symm
    have reads := RowLayout.resultsFrom_eq_ok_iff.mp read
    have mem_hits : result ∈ hits ↔
        ∃ row ∈ rows, s.rowLayout.result (Json.ofFields row) = .ok result := by
      rw [reads.mem_iff]
      simp only [List.mem_map, exists_exists_and_eq_and]
    rw [← mem_hits, kept]
    constructor
    · intro member
      have among := List.mem_of_mem_take member
      split at among
      · exact List.mem_of_mem_filter among
      · exact among
    · intro unlimited room member
      rw [if_neg unlimited, List.take_of_length_le]
      · exact member
      · rwa [← reads.length_eq, List.length_map]

/-- A valid search after any calls: each result tells how far the vector written last under its id is
from the query, and with room for all records none with a vector to compare is left out. -/
theorem Valid.exists_results {c : StoreConfig} {embedder : Embedder} {batching : Grouping}
    (valid : s.Valid v r) (configured : Configured c embedder batching Filter.condition s)
    (readable : s.Readable) {h : History} (follows : s.Follows s.builtIndexes h) :
    let metric := h.memory.database.metric s.table.text s.embeddingField.text
    ∃ results, ((s.searchVector Memory.executor v r).runFrom h.memory).1 = .ok results ∧
      (∀ result ∈ results, ∃ e, (writesSince result.id h.changes).getLast? = some e ∧
        result.distance = metric.between (storedDoubles e.vector) (v.map widen)) ∧
      (r.filter = none → ¬r.threshold > SearchRequest.acceptAll →
        (h.memory.database.table s.table.text).values.length ≤ r.topK →
          ∀ id e, (writesSince id h.changes).getLast? = some e → e.vector.length = v.length →
            ∃ result ∈ results, result.id = id) := by
  intro metric
  have separate := separate_of_readable readable
  have legible : ∀ record ∈ (h.memory.database.table s.table.text).values, ∃ e, s.Legible e record :=
    fun record member => follows.exists_legible member
  obtain ⟨written, writes, accepted⟩ := valid.exists_query configured.writeFilter
  obtain ⟨rows, selected, perm, shows⟩ := Store.exists_rows separate
    (acceptsVector_of_check valid.vector) configured.writeFilter writes follows.indexes legible r.topK
  obtain ⟨results, read⟩ := readResults_of_shows readable shows r
  refine ⟨results, (runFrom_searchVector accepted selected).trans read, fun result member => ?each,
    fun unfiltered unlimited room id e last same => ?all⟩
  case each =>
    obtain ⟨row, shown, reads⟩ := (mem_readResults read result).1 member
    obtain ⟨candidate, near, rfl⟩ := List.mem_map.mp (perm.mem_iff.mp shown)
    obtain ⟨among, stored, comparable, measured⟩ := Database.of_mem_nearest near
    obtain ⟨id, found⟩ := SortedMap.mem_values_iff.mp (List.mem_filter.mp among).1
    obtain ⟨e, last, legible⟩ := follows.exists_last found
    obtain ⟨read', reads', sameId, sameDistance⟩ := exists_result_pictured readable v candidate legible
    obtain rfl := Except.ok.inj (reads.symm.trans reads')
    refine ⟨e, ?_, ?_⟩
    · rw [sameId, id_of_mem_writesSince (List.mem_of_getLast? last), last]
    · rw [nearestClause, comparableVector?_of_find? legible.accepted.vector.finite
        (legible.vector separate)] at comparable
      split at comparable
      next =>
        rw [sameDistance, measured, Option.some.inj comparable]
        rfl
      next => contradiction
  case all =>
    obtain ⟨record, found, legible⟩ := follows.exists_record_of_last last
    have passes : record ∈ (h.memory.database.table s.table.text).values.filter
        fun record => satisfies record r.filter := by
      rw [List.mem_filter, unfiltered]
      exact ⟨SortedMap.mem_values_iff.mpr ⟨id, found⟩, rfl⟩
    have near := Database.mem_nearest h.memory.database s.table (n := s.nearestClause r.topK) passes
      (legible.comparable separate same) ((List.length_filter_le ..).trans room)
    obtain ⟨result, reads, sameId, -⟩ := exists_result_pictured readable v
      ⟨record, some (metric.between (storedDoubles e.vector) (v.map widen))⟩ legible
    have fits : rows.length ≤ r.topK := by
      rw [perm.length_eq, List.length_map]
      exact Database.length_nearest_le
    refine ⟨result, (mem_readResults read result).2 unlimited fits ?_, ?_⟩
    · exact ⟨_, perm.mem_iff.mpr (List.mem_map_of_mem near), reads⟩
    · rw [sameId, id_of_mem_writesSince (List.mem_of_getLast? last)]

/-! ## A store of points -/

/-- A configuration that ranks by Euclidean distance. -/
def pointConfig : StoreConfig :=
  { StoreConfig.standard with
    indexName := "points_index"
    tableName := "points"
    contentField := "label"
    embeddingField := "position"
    distance := .euclidean
    initializeSchema := true }

/-- A model that gives every text the same point. -/
def pointEmbedder : Embedder := .ofSingle 1 fun _ => .ok [1.0]

/-- A store of points of the line. -/
def pointStore : Store where
  index := ⟨"points_index", by decide⟩
  table := ⟨"points", by decide⟩
  contentField := ⟨"label", by decide⟩
  embeddingField := ⟨"position", by decide⟩
  vectorType := pointConfig.vectorType
  distance := .euclidean
  algorithm := pointConfig.algorithm
  searchBreadth := 100
  upsertMode := pointConfig.upsertMode
  initializeSchema := true
  efc := none
  m := none
  embedder := pointEmbedder
  batching := Batching.standard
  writeFilter := Filter.condition

/-- A point whose shortest decimal is its value. -/
def quarter : StoredDocument := ⟨⟨"quarter", "a quarter", .empty, some [0.25]⟩, [0.25]⟩
/-- A point whose shortest decimal is not its value. -/
def tenth : StoredDocument := ⟨⟨"tenth", "a tenth", .empty, some [0.1]⟩, [0.1]⟩

/-- A call that writes both. -/
def addPoints : Call := .add [quarter.document, tenth.document]

/-- A request for two points. -/
def twoPoints : SearchRequest := ⟨"", 2, SearchRequest.acceptAll, none⟩

/-- The memory after the store is built. -/
def pointMemory : Memory :=
  ((build pointConfig pointEmbedder Batching.standard Filter.condition Memory.executor).runFrom
    .empty).2

theorem built_pointStore : (build pointConfig pointEmbedder Batching.standard Filter.condition
    Memory.executor).runFrom .empty = (.ok pointStore, pointMemory) := rfl

/-! ## The theorem on own vectors -/

/-- The literal of a vector denotes the numbers that are stored for it. What a query is bound to are
the values of its components, the same as these numbers where the shortest decimals keep the value,
in particular where they are the values themselves. So a search for the vector that was written last
under an id, in any mode and after any calls on a store that was built over an empty database, finds
the id at distance zero exactly if the decimals of all components keep the value. -/
theorem own_vector_at_zero_iff (finite : ∀ x ∈ v, singleFinite x = true) :
    (∀ param, (Statement.bind param v).text =
      "LET " ++ param.parameter ++ " = " ++ vectorLiteral v) ∧
    literalNumbers? (vectorLiteral v) = some (v.map ofDecimal) ∧
    Json.doubles? (.array (v.map Json.ofSingle)) = some (v.map ofDecimal) ∧
    (∀ (db : Database) bindings param, ∃ after,
      db.apply bindings (.bind param v) = .ok (.null, db, after) ∧
        Database.boundVector after param = .ok (v.map widen)) ∧
    (∀ x ∈ v,
      (magnitude (widen x) = binary32.numerator (singleCode x) * singleUnit ∧
        doubleNegative (widen x) = singleNegative x) ∧
      (ofDecimal x = widen x ↔ KeepsValue x) ∧
      ((binary32.shortest .up (singleCode x)).Same (.exact binary32 (singleCode x)) →
        KeepsValue x)) ∧
    ∀ (s : Store) (c : StoreConfig) (embedder : Embedder) (batching : Grouping) (m : Memory),
      (build c embedder batching Filter.condition Memory.executor).runFrom .empty = (.ok s, m) →
      ¬c.Shadows → ∀ (calls : List Call) (id : String) (d : Document),
        let h := calls.foldl s.proceed ⟨m, []⟩
        let records := (h.memory.database.table s.table.text).values
        (writesSince id h.changes).getLast? = some ⟨d, v⟩ →
        h.memory.database.metric s.table.text s.embeddingField.text ≠ .cosine →
        (∃ record, h.memory.database.record? s.table.text id = some record ∧
          (record.find? s.embeddingField.text).bind Json.doubles? = some (v.map ofDecimal)) ∧
        ∀ r, s.Valid v r → ∃ results,
          ((s.searchVector Memory.executor v r).runFrom h.memory).1 = .ok results ∧
          (∀ result ∈ results, result.id = id →
            ((result.distance == 0.0) = true ↔ ∀ x ∈ v, KeepsValue x)) ∧
          (r.filter = none → ¬r.threshold > SearchRequest.acceptAll →
            records.length ≤ r.topK → ∃ result ∈ results, result.id = id) := by
  have stored : Json.doubles? (.array (v.map Json.ofSingle)) = some (v.map ofDecimal) := by
    rw [(storedDoubles_spec finite).1, storedDoubles_of_finite finite]
  refine ⟨fun param => rfl, literalNumbers?_vectorLiteral finite, stored,
    fun db bindings param => ⟨_, rfl, ?bound⟩, fun x member => ?component, ?search⟩
  case bound => rw [Database.boundVector, SortedMap.find?_insert_self]
  case component =>
    have finite := finite x member
    exact ⟨⟨magnitude_widen finite, (parts_widen finite).2⟩, ofDecimal_eq_widen_iff finite,
      keepsValue_of_same⟩
  case search =>
    intro s c embedder batching m built clear calls id d h records last noCosine
    obtain ⟨configured, fresh, dimension⟩ := built_of_build built
    obtain ⟨content, embedding⟩ := not_or.mp clear
    have readable := readable_of_configured configured content embedding
    have follows : s.Follows s.builtIndexes h :=
      (follows_of_empty fresh).run (fits_builtIndexes dimension) calls
    obtain ⟨record, found, legible⟩ := follows.exists_record_of_last last
    refine ⟨⟨record, found, ?_⟩, fun r valid => ?_⟩
    · rw [legible.vector (separate_of_readable readable), Option.bind_some, stored]
    · obtain ⟨results, answer, each, all⟩ := valid.exists_results configured readable follows
      refine ⟨results, answer, fun result member same => ?_,
        fun unfiltered unlimited room => all unfiltered unlimited room id ⟨d, v⟩ last rfl⟩
      obtain ⟨e, last', distance⟩ := each result member
      rw [same, last] at last'
      obtain rfl := Option.some.inj last'
      rw [distance]
      exact own_distance_eq_zero_iff noCosine finite

/-- The points after both were written. -/
def pointHistory : History := [addPoints].foldl pointStore.proceed ⟨pointMemory, []⟩

theorem valid_twoPoints : pointStore.Valid [0.25] twoPoints ∧ pointStore.Valid [0.1] twoPoints :=
  ⟨⟨rfl, rfl, nofun⟩, rfl, rfl, nofun⟩

/-- The double of the value of `0.1` as a single is not `0.1`. -/
theorem doubles_of_points : KeepsValue 0.25 ∧ ofDecimal 0.1 = 0.1 ∧
    widen 0.1 = 0.10000000149011612 ∧ (0.1 : Float) ≠ 0.10000000149011612 := by
  decide +kernel

/-- A quarter is found at distance zero. -/
theorem quarter_at_zero :
    literalNumbers? (vectorLiteral [0.25, 0.1]) = some [ofDecimal 0.25, ofDecimal 0.1] ∧
    (build pointConfig pointEmbedder Batching.standard Filter.condition Memory.executor).runFrom
      .empty = (.ok pointStore, pointMemory) ∧
    ∃ results, ((pointStore.searchVector Memory.executor [0.25] twoPoints).runFrom
        pointHistory.memory).1 = .ok results ∧
      ∃ result ∈ results, result.id = "quarter" ∧ (result.distance == 0.0) = true := by
  have finite : (∀ x ∈ ([0.25, 0.1] : Embedding), singleFinite x = true) ∧
    ∀ x ∈ ([0.25] : Embedding), singleFinite x = true := by decide +kernel
  have unlimited : ¬twoPoints.threshold > SearchRequest.acceptAll := by decide +kernel
  have kept : ∀ x ∈ ([0.25] : Embedding), KeepsValue x :=
    List.forall_mem_singleton.mpr doubles_of_points.1
  obtain ⟨-, -, -, -, -, search⟩ := own_vector_at_zero_iff finite.2
  obtain ⟨results, answer, zero, all⟩ := (search pointStore pointConfig pointEmbedder
    Batching.standard pointMemory built_pointStore (by decide) [addPoints] "quarter"
      quarter.document rfl (by decide)).2 twoPoints valid_twoPoints.1
  obtain ⟨result, member, same⟩ := all rfl unlimited (le_refl 2)
  exact ⟨(own_vector_at_zero_iff finite.1).2.1, built_pointStore, results, answer, result, member,
    same, (zero result member same).mpr kept⟩

/-- A tenth is written and stored as another number than a query is bound to, and it is not found at
distance zero. -/
theorem tenth_not_at_zero :
    singleFinite 0.1 = true ∧
    literalNumbers? (vectorLiteral [0.1]) = some [0.1] ∧
    Json.doubles? (.array [Json.ofSingle 0.1]) = some [0.1] ∧
    (∃ after, pointMemory.database.apply .empty (.bind queryParam [0.1]) =
        .ok (.null, pointMemory.database, after) ∧
      Database.boundVector after queryParam = .ok [0.10000000149011612]) ∧
    (0.1 : Float) ≠ 0.10000000149011612 ∧
    (Distance.euclidean.between [0.1] [0.10000000149011612] == 0.0) = false ∧
    (Distance.manhattan.between [0.1] [0.10000000149011612] == 0.0) = false ∧
    ∃ results, ((pointStore.searchVector Memory.executor [0.1] twoPoints).runFrom
        pointHistory.memory).1 = .ok results ∧
      ∃ result ∈ results, result.id = "tenth" ∧ (result.distance == 0.0) = false := by
  obtain ⟨-, decimal, value, differs⟩ := doubles_of_points
  have finite : ∀ x ∈ ([0.1] : Embedding), singleFinite x = true := by decide +kernel
  have unlimited : ¬twoPoints.threshold > SearchRequest.acceptAll := by decide +kernel
  have numbers : ([0.1] : Embedding).map ofDecimal = [0.1] := congrArg (fun y => [y]) decimal
  have bound : ([0.1] : Embedding).map widen = [0.10000000149011612] :=
    congrArg (fun y => [y]) value
  have lost : ¬∀ x ∈ ([0.1] : Embedding), KeepsValue x := by
    intro keeps
    have same := (ofDecimal_eq_widen_iff (finite _ List.mem_cons_self)).mpr
      (keeps _ List.mem_cons_self)
    rw [decimal, value] at same
    exact differs same
  have apart {metric : Distance} (noCosine : metric ≠ .cosine) :
      (metric.between (storedDoubles [0.1]) (([0.1] : Embedding).map widen) == 0.0) = false := by
    rw [Bool.eq_false_iff, ne_eq, own_distance_eq_zero_iff noCosine finite]
    exact lost
  obtain ⟨configured, fresh, dimension⟩ := built_of_build built_pointStore
  have readable := readable_of_configured configured (by decide) (by decide)
  have follows : pointStore.Follows pointStore.builtIndexes pointHistory :=
    (follows_of_empty fresh).run (fits_builtIndexes dimension) [addPoints]
  obtain ⟨results, answer, each, all⟩ :=
    valid_twoPoints.2.exists_results configured readable follows
  obtain ⟨result, member, same⟩ := all rfl unlimited (le_refl 2) "tenth" tenth rfl rfl
  obtain ⟨e, last, distance⟩ := each result member
  rw [same] at last
  obtain rfl : tenth = e := Option.some.inj last
  refine ⟨finite _ List.mem_cons_self, ?written, ?stored, ⟨_, rfl, ?bound⟩, differs, ?euclidean,
    ?manhattan, results, answer, result, member, same, ?found⟩
  case written => rw [literalNumbers?_vectorLiteral finite, numbers]
  case stored => rw [← numbers, ← storedDoubles_of_finite finite]; exact (storedDoubles_spec finite).1
  case bound => rw [Database.boundVector, SortedMap.find?_insert_self, bound]
  case euclidean =>
    have far := @apart .euclidean (by decide)
    rwa [storedDoubles_of_finite finite, numbers, bound] at far
  case manhattan =>
    have far := @apart .manhattan (by decide)
    rwa [storedDoubles_of_finite finite, numbers, bound] at far
  case found => rw [distance]; exact apart (by decide)

end Store
end VectorStore
