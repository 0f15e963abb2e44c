import VectorStore.Proofs.RecordId
import VectorStore.Proofs.Row
import VectorStore.Proofs.Database.Ranking
import VectorStore.Proofs.Store.Calls

/-!
The row of a live document in a search, and the result read from it. The selection computes the
score and the distance of the document's stored vector (`Store.outputRow_eq`), and the row read back
is the document with both of them (`Store.result_row`).
-/
namespace VectorStore

/-- The doubles that a vector is stored as. -/
def storedDoubles (v : Embedding) : List Float := v.filterMap fun x => (Json.ofSingle x).double?

theorem storedDoubles_of_finite {v : Embedding} (finite : ∀ x ∈ v, singleFinite x = true) :
    storedDoubles v = v.map ofDecimal := by
  rw [storedDoubles, ← List.filterMap_eq_map]
  refine List.filterMap_congr fun x member => ?_
  rw [ofSingle_of_finite (finite x member)]
  rfl

/-- Where every item has a value, the list of the values is what a reader of the items gets. -/
theorem mapM_eq_some_map {α β : Type} {f : α → Option β} {g : α → β} {items : List α}
    (each : ∀ a ∈ items, f a = some (g a)) : items.mapM f = some (items.map g) := by
  induction items with
  | nil => rfl
  | cons a rest ih =>
    obtain ⟨first, later⟩ := List.forall_mem_cons.mp each
    rw [List.mapM_cons, first, ih later]
    rfl

theorem storedDoubles_spec {v : Embedding} (finite : ∀ x ∈ v, singleFinite x = true) :
    Json.doubles? (.array (v.map Json.ofSingle)) = some (storedDoubles v) ∧
      (storedDoubles v).length = v.length ∧ Components (storedDoubles v) := by
  rw [storedDoubles_of_finite finite]
  refine ⟨?_, List.length_map .., fun y member => ?_⟩
  · rw [Json.doubles?, Json.array?, Option.bind_some, List.mapM_map]
    refine mapM_eq_some_map fun x member => ?_
    rw [Function.comp_apply, ofSingle_of_finite (finite x member)]
    rfl
  · obtain ⟨x, inside, rfl⟩ := List.mem_map.mp member
    exact component_ofDecimal (finite x inside)

/-- A live document in a search: how far its vector is from the query, and its score. -/
structure Hit where
  document : Document
  distance : Float
  score : Float

/-- What a search answers for a document: its own id, text and metadata, with the distance among
the metadata. -/
def Hit.result (h : Hit) : RankedResult :=
  ⟨h.document.id, h.document.content, h.score, h.distance,
    h.document.metadata.insert distanceKeyName (.number (.double h.distance))⟩

namespace Store

/-- A document measured against a query by the store's metric. -/
def hit (s : Store) (query : Embedding) (e : StoredDocument) : Hit :=
  let stored := storedDoubles e.vector
  let distance := s.distance.between stored (query.map widen)
  ⟨e.document, distance,
    if s.distance = .cosine then cosineSimilarity stored (query.map widen)
    else 1.0 / (1.0 + distance)⟩

variable {s : Store} {query : Embedding} {e : StoredDocument}

theorem components_query (accepted : s.AcceptsVector query) : Components (query.map widen) := by
  intro y member
  obtain ⟨x, inside, rfl⟩ := List.mem_map.mp member
  exact component_widen (accepted.finite x inside)

theorem storedDoubles_ne_nil (accepted : s.AcceptsVector e.vector) :
    storedDoubles e.vector ≠ [] := by
  have length := (storedDoubles_spec accepted.finite).2.1
  intro none
  rw [none] at length
  exact accepted.nonempty (List.length_eq_zero_iff.mp length.symm)

/-- The score of a vector at a distance from the query. -/
def scoreOf (s : Store) (stored query : List Float) (distance : Float) : Float :=
  if s.distance = .cosine then cosineSimilarity stored query else 1.0 / (1.0 + distance)

/-- Scores are finite, also where the database measures by another metric than the store's. -/
theorem finite_scoreOf {metric : Distance} {stored asked : List Float}
    (other : s.distance ≠ .cosine → metric ≠ .cosine) (left : Components stored)
    (right : Components asked) :
    doubleFinite (s.scoreOf stored asked (metric.between stored asked)) = true := by
  rw [scoreOf]
  split
  · exact (within_cosineSimilarity left right).finite
  next noCosine => exact finite_inverse (total_between (other noCosine) left right)

/-- What a search makes of a document is finite, and its distance is not `-0.0`. -/
structure Measured (h : Hit) : Prop where
  distance : doubleFinite h.distance = true
  plain : NoNegZero h.distance
  score : doubleFinite h.score = true

theorem measured_hit (accepted : s.Accepts e) (accepts : s.AcceptsVector query) :
    Measured (s.hit query e) := by
  obtain ⟨-, -, stored⟩ := storedDoubles_spec accepted.vector.finite
  have asked := components_query accepts
  have some : query.map widen ≠ [] := by simpa using accepts.nonempty
  exact ⟨finite_between s.distance stored asked,
    noNegZero_between s.distance stored asked (storedDoubles_ne_nil accepted.vector) some,
    finite_scoreOf id stored asked⟩

/-- Stores whose fields are apart from each other and from the other columns of a row. -/
structure Readable (s : Store) : Prop where
  fields : s.contentField.text ≠ s.embeddingField.text
  content : s.contentField.text ∉ ownColumns
  embedding : s.embeddingField.text ∉ ownColumns

/-- The output row of a document. -/
def row (s : Store) (query : Embedding) (e : StoredDocument) : Fields :=
  let h := s.hit query e
  (((s.record e).insert scoreColumn (.number (.double h.score))).insert distanceColumn
    (.number (.double h.distance))).erase s.embeddingField.text

/-- The bindings of a search. -/
def queryBindings (query : Embedding) : Bindings :=
  .insert .empty queryParam.text (query.map widen)

theorem boundVector_query (query : Embedding) :
    Database.boundVector (queryBindings query) queryParam = .ok (query.map widen) := by
  rw [Database.boundVector, queryBindings, SortedMap.find?_insert_self]

/-- A stored vector is compared with queries of its length. -/
theorem comparableVector?_of_find? {record : Fields} {field : Ident} {v : Embedding}
    (finite : ∀ x ∈ v, singleFinite x = true)
    (found : record.find? field.text = some (.array (v.map Json.ofSingle))) (asked : List Float) :
    Database.comparableVector? record field asked =
      if v.length = asked.length then some (storedDoubles v) else none := by
  obtain ⟨doubles, length, -⟩ := storedDoubles_spec finite
  rw [Database.comparableVector?, found, Option.bind_some, doubles]
  simp [Option.filter, length]

theorem comparableVector?_record (readable : s.Readable) (accepted : s.Accepts e)
    (same : e.vector.length = query.length) :
    Database.comparableVector? (s.record e) s.embeddingField (query.map widen) =
      some (storedDoubles e.vector) := by
  have ne : s.embeddingField.text ≠ "id" := fun id => readable.embedding (by simp [id, ownColumns])
  rw [comparableVector?_of_find? accepted.vector.finite, if_pos (by simpa using same)]
  rw [record, SortedMap.find?_insert_ne ne, find?_recordBody_embeddingField accepted]

/-- The output row of a record with a score and a distance. -/
def shown (s : Store) (record : Fields) (score distance : Float) : Fields :=
  ((record.insert scoreColumn (.number (.double score))).insert distanceColumn
    (.number (.double distance))).erase s.embeddingField.text

/-- The output row of a candidate. -/
def pictured (s : Store) (query : Embedding) (row : Database.Candidate) : Fields :=
  let stored := (Database.comparableVector? row.record s.embeddingField (query.map widen)).getD []
  let distance := row.distance.getD 0.0
  s.shown row.record (s.scoreOf stored (query.map widen) distance) distance

/-- A record is shown with its score and its distance if both are finite. -/
theorem outputRow_of_comparable {row : Database.Candidate} {stored : List Float} {distance : Float}
    (comparable : Database.comparableVector? row.record s.embeddingField (query.map widen) =
      some stored)
    (measured : row.distance = some distance) (finite : doubleFinite distance = true)
    (finiteScore : doubleFinite (s.scoreOf stored (query.map widen) distance) = true) (topK : Nat)
    (filter : Option WrittenFilter) :
    Database.outputRow (queryBindings query) (s.selection topK filter) row =
      .ok (s.shown row.record (s.scoreOf stored (query.map widen) distance) distance) := by
  have distanceValue : Json.ofDouble distance = .number (.double distance) := if_pos finite
  have scoreValue : Database.scoreValue (queryBindings query) row s.score =
      .ok (.number (.double (s.scoreOf stored (query.map widen) distance))) := by
    rw [← show Json.ofDouble _ =
      Json.number (.double (s.scoreOf stored (query.map widen) distance)) from if_pos finiteScore,
      score]
    by_cases cosine : s.distance = .cosine
    · rw [if_pos cosine, Database.scoreValue, boundVector_query]
      simp only [comparable, scoreOf, if_pos cosine]
    · rw [if_neg cosine, Database.scoreValue, measured, scoreOf, if_neg cosine]
      rfl
  simp only [Database.outputRow, selection, Database.project, scoreValue,
    SortedMap.empty_overlay]
  simp only [Database.scoreValue, measured, Option.map_some, distanceValue, List.foldl_cons,
    List.foldl_nil]
  rfl

theorem outputRow_eq (readable : s.Readable) (accepted : s.Accepts e)
    (accepts : s.AcceptsVector query) (same : e.vector.length = query.length) (topK : Nat)
    (filter : Option WrittenFilter) :
    Database.outputRow (queryBindings query) (s.selection topK filter)
      ⟨s.record e, some (s.hit query e).distance⟩ = .ok (s.row query e) :=
  have measured := measured_hit accepted accepts
  outputRow_of_comparable (comparableVector?_record readable accepted same) rfl measured.distance
    measured.score topK filter

/-! ## Reading a row -/

theorem find?_record {key : String} (s : Store) (e : StoredDocument) :
    (s.record e).find? key =
      if key = "id" then some (.string (RecordId.text ⟨s.table, e.document.id⟩))
      else (e.document.metadata.find? key).or
        (if key = s.embeddingField.text then some (.array (e.vector.map Json.ofSingle))
        else if key = s.contentField.text then some (.string e.document.content) else none) := by
  rw [record, SortedMap.find?_insert, recordBody, SortedMap.find?_overlay, SortedMap.find?_insert,
    SortedMap.find?_insert, SortedMap.find?_empty]

theorem find?_shown {key : String} (s : Store) (record : Fields) (score distance : Float) :
    (s.shown record score distance).find? key =
      if key = s.embeddingField.text then none
      else if key = distanceColumn then some (.number (.double distance))
      else if key = scoreColumn then some (.number (.double score))
      else record.find? key := by
  rw [shown, SortedMap.find?_erase, SortedMap.find?_insert, SortedMap.find?_insert]

theorem find?_row {key : String} (s : Store) (query : Embedding) (e : StoredDocument) :
    (s.row query e).find? key =
      if key = s.embeddingField.text then none
      else if key = distanceColumn then some (.number (.double (s.hit query e).distance))
      else if key = scoreColumn then some (.number (.double (s.hit query e).score))
      else (s.record e).find? key :=
  find?_shown s (s.record e) _ _

/-- What a row leaves as metadata. -/
theorem metadata_row (accepted : s.Accepts e) (query : Embedding) (distance : Float) :
    s.rowLayout.metadata (s.row query e) distance =
      e.document.metadata.insert distanceKeyName (.ofDouble distance) := by
  apply SortedMap.ext_find?
  intro key
  rw [RowLayout.find?_metadata, SortedMap.find?_insert]
  split
  · rfl
  split
  next own =>
    have reserved : key ∈ s.reservedKeys := by
      simp only [RowLayout.columns, rowLayout, ownColumns, reservedKeys, List.mem_cons] at own ⊢
      tauto
    exact (SortedMap.find?_eq_none_of_not_mem (accepted.unreserved key reserved)).symm
  next other =>
    simp only [RowLayout.columns, rowLayout, ownColumns, List.mem_cons, List.not_mem_nil, or_false,
      not_or] at other
    obtain ⟨content, embedding, id, score, distance⟩ := other
    rw [find?_row, if_neg embedding, if_neg distance, if_neg score, find?_record, if_neg id,
      if_neg embedding, if_neg content, Option.or_none]

/-- A row with a reference, a score, a distance and a text reads as a result. -/
theorem result_of_columns {l : RowLayout} (content : l.content ∉ ownColumns) {fields : Fields}
    {target : RecordId} {score distance : Float} {text : String}
    (hasId : fields.find? "id" = some (.string target.text))
    (hasScore : fields.find? scoreColumn = some (.number (.double score)))
    (hasDistance : fields.find? distanceColumn = some (.number (.double distance)))
    (hasText : fields.find? l.content = some (.string text)) :
    l.result (Json.ofFields fields) =
      .ok ⟨target.key, text, score, distance, l.metadata fields distance⟩ := by
  rw [RowLayout.result_eq_ok_iff, Json.hasFields_ofFields, RowLayout.tells_iff, hasId, hasScore,
    hasDistance, hasText]
  exact ⟨content, RecordId.keyOf?_text target, rfl, rfl, rfl, rfl⟩

/-- The row of a record with a reference and a text reads as a result. -/
theorem result_shown (readable : s.Readable) {record : Fields} {target : RecordId} {text : String}
    (hasId : record.find? "id" = some (.string target.text))
    (hasText : record.find? s.contentField.text = some (.string text)) (score distance : Float) :
    let fields := s.shown record score distance
    s.rowLayout.result (Json.ofFields fields) =
      .ok ⟨target.key, text, score, distance, s.rowLayout.metadata fields distance⟩ := by
  obtain ⟨fields, content, embedding⟩ := readable
  have apart := content
  simp only [ownColumns, List.mem_cons, List.not_mem_nil, or_false, not_or] at apart embedding
  obtain ⟨-, contentScore, contentDistance⟩ := apart
  obtain ⟨embeddingId, embeddingScore, embeddingDistance⟩ := embedding
  refine result_of_columns (l := s.rowLayout) content ?id ?score ?distance ?text
  case id =>
    rw [find?_shown, if_neg (Ne.symm embeddingId), if_neg (Ne.symm distance_ne_id),
      if_neg (Ne.symm score_ne_id), hasId]
  case score =>
    rw [find?_shown, if_neg (Ne.symm embeddingScore), if_neg score_ne_distance, if_pos rfl]
  case distance => rw [find?_shown, if_neg (Ne.symm embeddingDistance), if_pos rfl]
  case text =>
    rw [rowLayout, find?_shown, if_neg fields, if_neg contentDistance, if_neg contentScore, hasText]

/-- The row of a document reads back as the document. -/
theorem result_row (readable : s.Readable) (accepted : s.Accepts e)
    (accepts : s.AcceptsVector query) :
    s.rowLayout.result (Json.ofFields (s.row query e)) = .ok (s.hit query e).result := by
  have id : (s.record e).find? "id" = some (.string (RecordId.text ⟨s.table, e.document.id⟩)) := by
    rw [find?_record, if_pos rfl]
  have text : (s.record e).find? s.contentField.text = some (.string e.document.content) := by
    have unused := SortedMap.find?_eq_none_of_not_mem
      (accepted.unreserved s.contentField.text (by simp [reservedKeys]))
    have ne : s.contentField.text ≠ "id" := fun id => readable.content (by simp [id, ownColumns])
    rw [find?_record, if_neg ne, unused, Option.none_or, if_neg readable.fields, if_pos rfl]
  have number : Json.ofDouble (s.hit query e).distance =
    .number (.double (s.hit query e).distance) := if_pos (measured_hit accepted accepts).distance
  have read : s.rowLayout.result (Json.ofFields (s.row query e)) = .ok ⟨_, _, _, _,
      s.rowLayout.metadata (s.row query e) (s.hit query e).distance⟩ :=
    result_shown readable id text (s.hit query e).score (s.hit query e).distance
  rw [read, metadata_row accepted, number]
  rfl

end Store
end VectorStore
