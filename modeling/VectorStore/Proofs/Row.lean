import VectorStore.Row
import VectorStore.Proofs.Executor
import VectorStore.Proofs.Number.Integers

/-!
What a row says as a result. The columns are taken out one after another, and what is left is
metadata. A column can be gone before its turn only where the text has the name of one of the
columns that every row has, so in all other layouts a result tells each column of its row once
(`RowLayout.resultOfFields_eq_ok_iff`). Rows are read in turn up to the first that is not complete
(`RowLayout.results_iff_complete`).
-/
namespace VectorStore

/-- The columns that a row has besides the text and the vector. -/
def Store.ownColumns : List String := ["id", scoreColumn, distanceColumn]

/-- The numbers that a JSON text can write: no integer is beyond 64 bits, and every double is
finite. -/
def JsonNumber.Fits : JsonNumber → Prop
  | .int n => fitsJson n = true
  | .double x => doubleFinite x = true

theorem JsonNumber.Fits.finite {n : JsonNumber} (fits : n.Fits) :
    doubleFinite n.toDouble = true := by
  cases n with
  | int n => exact finite_doubleOfInt fits
  | double x => exact fits

/-- Whether a value is an object, and a property holds of its fields. -/
def Json.HasFields (value : Json) (p : Fields → Prop) : Prop :=
  ∃ entries, value = .object entries ∧ p (.ofList entries)

theorem Json.hasFields_ofFields {fields : Fields} {p : Fields → Prop} :
    (Json.ofFields fields).HasFields p ↔ p fields := by
  simp [HasFields, ofFields]

theorem score_ne_id : scoreColumn ≠ "id" := by decide
theorem distance_ne_id : distanceColumn ≠ "id" := by decide
theorem score_ne_distance : scoreColumn ≠ distanceColumn := by decide

namespace RowLayout
open Store (ownColumns)

variable {l : RowLayout} {fields : Fields} {r : RankedResult} {row : Json}

/-! ## Columns -/

theorem number_eq_ok_iff {column : String} {x : Float} :
    number fields column = .ok x ↔ (fields.find? column).bind Json.double? = some x := by
  rw [number]
  cases fields.find? column with
  | none => simp
  | some value =>
    rw [Option.bind_some]
    cases found : value.double? <;> simp [found]

theorem text_eq_ok_iff {field content : String} :
    text fields field = .ok content ↔ fields.find? field = some (.string content) := by
  rw [text]
  cases fields.find? field with
  | none => simp
  | some value => cases value <;> simp

/-- The columns that are no metadata. -/
def columns (l : RowLayout) : List String := l.content :: l.embedding :: ownColumns

/-- What is left of a row without them, and with its distance. -/
def metadata (l : RowLayout) (fields : Fields) (distance : Float) : Fields :=
  (((((fields.erase "id").erase scoreColumn).erase distanceColumn).erase l.content).erase
    l.embedding).insert distanceKeyName (.ofDouble distance)

/-- What is left of a row without its own columns. -/
theorem find?_erase_ownColumns (fields : Fields) (key : String) :
    (((fields.erase "id").erase scoreColumn).erase distanceColumn).find? key =
      if key ∈ ownColumns then none else fields.find? key := by
  simp only [ownColumns, SortedMap.find?_erase, List.mem_cons, List.not_mem_nil, or_false]
  split_ifs <;> simp_all

theorem find?_metadata (l : RowLayout) (fields : Fields) (distance : Float) (key : String) :
    (l.metadata fields distance).find? key =
      if key = distanceKeyName then some (.ofDouble distance)
      else if key ∈ l.columns then none else fields.find? key := by
  rw [metadata, SortedMap.find?_insert, SortedMap.find?_erase, SortedMap.find?_erase,
    find?_erase_ownColumns]
  simp only [columns, List.mem_cons]
  split_ifs <;> simp_all

/-- The result that a row tells: its id, its numbers and its text, and as metadata every other
column as it stands in the row. Only the distance is added, over any column of that name. -/
structure Tells (l : RowLayout) (fields : Fields) (r : RankedResult) : Prop where
  id : (fields.find? "id").bind RecordId.keyOf? = some r.id
  score : (fields.find? scoreColumn).bind Json.double? = some r.score
  distance : (fields.find? distanceColumn).bind Json.double? = some r.distance
  content : fields.find? l.content = some (.string r.content)
  metadata : ∀ key, key ≠ distanceKeyName →
    r.metadata.find? key = if key ∈ l.columns then none else fields.find? key
  distanceKey : r.metadata.find? distanceKeyName = some (.ofDouble r.distance)
  /-- JSON has no numbers that are not finite. -/
  distanceNumber : ∀ n, fields.find? distanceColumn = some (.number n) → n.Fits →
    Json.ofDouble r.distance = .number (.double r.distance)

/-- The fields of a row that a result can be read from. -/
structure Complete (l : RowLayout) (fields : Fields) : Prop where
  id : ∃ key, (fields.find? "id").bind RecordId.keyOf? = some key
  score : ∃ x, (fields.find? scoreColumn).bind Json.double? = some x
  distance : ∃ x, (fields.find? distanceColumn).bind Json.double? = some x
  content : ∃ text, fields.find? l.content = some (.string text)

theorem tells_iff : l.Tells fields r ↔
    (fields.find? "id").bind RecordId.keyOf? = some r.id ∧
      (fields.find? scoreColumn).bind Json.double? = some r.score ∧
        (fields.find? distanceColumn).bind Json.double? = some r.distance ∧
          fields.find? l.content = some (.string r.content) ∧
            l.metadata fields r.distance = r.metadata := by
  constructor
  · intro tells
    refine ⟨tells.id, tells.score, tells.distance, tells.content, SortedMap.ext_find? fun key => ?_⟩
    rw [find?_metadata]
    split
    next same => rw [same, tells.distanceKey]
    next other => rw [tells.metadata key other]
  · rintro ⟨id, score, distance, content, same⟩
    refine ⟨id, score, distance, content, fun key other => ?_, ?_, fun n found fits => ?_⟩
    · rw [← same, find?_metadata, if_neg other]
    · rw [← same, find?_metadata, if_pos rfl]
    · rw [found] at distance
      have finite := fits.finite
      rw [Option.some.inj distance] at finite
      exact if_pos finite

/-- A row is complete exactly if there is a result to tell. -/
theorem exists_tells_iff : (∃ r, l.Tells fields r) ↔ l.Complete fields := by
  constructor
  · rintro ⟨r, tells⟩
    exact ⟨⟨_, tells.id⟩, ⟨_, tells.score⟩, ⟨_, tells.distance⟩, ⟨_, tells.content⟩⟩
  · rintro ⟨⟨id, hasId⟩, ⟨score, hasScore⟩, ⟨distance, hasDistance⟩, text, hasText⟩
    exact ⟨⟨id, text, score, distance, l.metadata fields distance⟩,
      tells_iff.mpr ⟨hasId, hasScore, hasDistance, hasText, rfl⟩⟩

/-! ## Reading a row -/

/-- A row is read as what it tells, unless the text has the name of one of the row's own columns. -/
theorem resultOfFields_eq_ok_iff :
    l.resultOfFields fields = .ok r ↔ l.content ∉ ownColumns ∧ l.Tells fields r := by
  rw [tells_iff, resultOfFields]
  cases (fields.find? "id").bind RecordId.keyOf? with
  | none => simp
  | some id =>
    simp only [bind_eq_ok_iff, number_eq_ok_iff, text_eq_ok_iff, find?_erase_ownColumns,
      SortedMap.find?_erase_ne score_ne_id, SortedMap.find?_erase_ne distance_ne_id,
      SortedMap.find?_erase_ne (Ne.symm score_ne_distance)]
    constructor
    · rintro ⟨score, hasScore, distance, hasDistance, text, hasText, read⟩
      obtain rfl := Except.ok.inj read
      by_cases own : l.content ∈ ownColumns
      · -- the text has gone with the column of its name
        rw [if_pos own] at hasText
        contradiction
      · rw [if_neg own] at hasText
        exact ⟨own, rfl, hasScore, hasDistance, hasText, rfl⟩
    · obtain ⟨_, text, score, distance, kept⟩ := r
      rintro ⟨apart, same, hasScore, hasDistance, hasText, left⟩
      refine ⟨score, hasScore, distance, hasDistance, text, by rw [if_neg apart, hasText], ?_⟩
      obtain rfl := Option.some.inj same
      obtain rfl : l.metadata fields distance = kept := left
      rfl

theorem result_eq_ok_iff :
    l.result row = .ok r ↔ l.content ∉ ownColumns ∧ row.HasFields (l.Tells · r) := by
  cases row with
  | object entries => simp [result, resultOfFields_eq_ok_iff, Json.HasFields]
  | _ => simp [result, Json.HasFields]

theorem exists_fault_iff :
    (∃ fault, l.result row = .error fault) ↔ ¬∃ r, l.result row = .ok r := by
  cases l.result row <;> simp

/-- Where the text has a name of its own, the complete rows are those that can be read. -/
theorem exists_result_iff (apart : l.content ∉ ownColumns) :
    (∃ r, l.result row = .ok r) ↔ row.HasFields l.Complete := by
  simp only [result_eq_ok_iff, Json.HasFields, ← exists_tells_iff]
  constructor
  · rintro ⟨r, -, entries, same, tells⟩
    exact ⟨entries, same, r, tells⟩
  · rintro ⟨entries, same, r, tells⟩
    exact ⟨r, apart, entries, same, tells⟩

/-! ## Reading rows in turn -/

/-- The results in rows: one in each row, in their order. -/
def Reads (l : RowLayout) (rows : List Json) (hits : List RankedResult) : Prop :=
  List.Forall₂ (fun row hit => l.result row = .ok hit) rows hits

theorem resultsFrom_eq_ok_iff {rows : List Json} {hits : List RankedResult} {index : Nat} :
    l.resultsFrom index rows = .ok hits ↔ l.Reads rows hits := by
  unfold Reads
  induction rows generalizing index hits with
  | nil => simp [resultsFrom, eq_comm]
  | cons row rest ih =>
    rw [resultsFrom]
    cases first : l.result row with
    | error fault =>
      constructor
      · rintro ⟨⟩
      · rintro (_ | ⟨found, -⟩)
        rw [first] at found
        contradiction
    | ok hit =>
      cases later : l.resultsFrom (index + 1) rest with
      | error fault =>
        constructor
        · rintro ⟨⟩
        · rintro (_ | ⟨-, others⟩)
          rw [← @ih _ (index + 1), later] at others
          contradiction
      | ok others =>
        constructor
        · rintro ⟨⟩
          exact .cons first (ih.mp later)
        · rintro (_ | ⟨found, others'⟩)
          rw [first] at found
          rw [← @ih _ (index + 1), later] at others'
          rw [Except.ok.inj found, Except.ok.inj others']

theorem exists_reads_iff {rows : List Json} :
    (∃ hits, l.Reads rows hits) ↔ ∀ row ∈ rows, ∃ hit, l.result row = .ok hit := by
  constructor
  · rintro ⟨hits, read⟩
    induction read with
    | nil => simp
    | cons first later ih => exact List.forall_mem_cons.mpr ⟨⟨_, first⟩, ih⟩
  · intro each
    induction rows with
    | nil => exact ⟨[], .nil⟩
    | cons row rest ih =>
      obtain ⟨⟨hit, first⟩, later⟩ := List.forall_mem_cons.mp each
      obtain ⟨hits, read⟩ := ih later
      exact ⟨hit :: hits, .cons first read⟩

/-- The results that were read are those of the rows. -/
theorem Reads.mem_iff {rows : List Json} {hits : List RankedResult} (read : l.Reads rows hits)
    (hit : RankedResult) : hit ∈ hits ↔ ∃ row ∈ rows, l.result row = .ok hit := by
  induction read with
  | nil => simp
  | cons first later ih =>
    rw [List.mem_cons, ih, List.exists_mem_cons_iff, first, Except.ok.injEq, eq_comm]

theorem results_eq_ok_iff {value : Json} {hits : List RankedResult} :
    l.results value = .ok hits ↔ ∃ rows, value = .array rows ∧ l.Reads rows hits := by
  cases value with
  | array rows => simp [results, resultsFrom_eq_ok_iff]
  | _ => simp [results]

/-- Rows are read up to the first that cannot be. -/
theorem resultsFrom_of_fault (before after : List Json) {fault : ResultFault}
    (read : ∀ earlier ∈ before, ∃ r, l.result earlier = .ok r)
    (unread : l.result row = .error fault) (index : Nat) :
    l.resultsFrom index (before ++ row :: after) = .error (.row (index + before.length) fault) := by
  induction before generalizing index with
  | nil => rw [List.nil_append, resultsFrom, unread]; rfl
  | cons first rest ih =>
    obtain ⟨⟨r, first⟩, later⟩ := List.forall_mem_cons.mp read
    rw [List.cons_append, resultsFrom, first, ih later]
    simp only [List.length_cons, Nat.add_assoc, Nat.add_comm 1]

theorem exists_fault_of_resultsFrom {rows : List Json} {e : ResultFault} {index : Nat}
    (failed : l.resultsFrom index rows = .error e) : ∃ before row after fault,
      rows = before ++ row :: after ∧ (∀ earlier ∈ before, ∃ r, l.result earlier = .ok r) ∧
        l.result row = .error fault := by
  induction rows generalizing index e with
  | nil => contradiction
  | cons row rest ih =>
    cases first : l.result row with
    | error fault => exact ⟨[], row, rest, fault, rfl, List.forall_mem_nil _, first⟩
    | ok r =>
      cases later : l.resultsFrom (index + 1) rest with
      | error e' =>
        obtain ⟨before, failing, after, fault, rfl, read, unread⟩ := ih later
        exact ⟨row :: before, failing, after, fault, rfl,
          List.forall_mem_cons.mpr ⟨⟨r, first⟩, read⟩, unread⟩
      | ok results =>
        rw [resultsFrom, first, later] at failed
        contradiction

/-- Rows can be read exactly if all of them are complete. Then there is one result for each row, in
the order of the rows, and it tells the columns of its row, none of them lost and none invented.
Otherwise the error names the first row that is not complete. The text must not have the name of
another column; the vector may have any. -/
theorem results_iff_complete (apart : l.content ∉ ownColumns) (rows : List Json) :
    let read := (l.results (.array rows)).mapError Error.malformedResult
    ((∃ results, read = .ok results) ↔ ∀ row ∈ rows, row.HasFields l.Complete) ∧
      (∀ results, read = .ok results ↔
        List.Forall₂ (fun row r => row.HasFields (l.Tells · r)) rows results) ∧
      ((∃ row ∈ rows, ¬row.HasFields l.Complete) → ∃ before row after fault,
        rows = before ++ row :: after ∧ (∀ earlier ∈ before, earlier.HasFields l.Complete) ∧
          ¬row.HasFields l.Complete ∧ l.result row = .error fault ∧
            read = .error (.malformedResult (.row before.length fault))) := by
  intro read
  have read_iff (hits : List RankedResult) : read = .ok hits ↔ l.Reads rows hits := by
    rw [mapError_eq_ok_iff, results, resultsFrom_eq_ok_iff]
  have complete : (∃ results, read = .ok results) ↔ ∀ row ∈ rows, row.HasFields l.Complete := by
    simp only [read_iff, exists_reads_iff, exists_result_iff apart]
  refine ⟨complete, fun results => ?_, fun incomplete => ?_⟩
  · simp only [read_iff, Reads, result_eq_ok_iff, apart, not_false_eq_true, true_and]
  · cases failed : l.resultsFrom 0 rows with
    | ok hits =>
      obtain ⟨row, member, missing⟩ := incomplete
      have all := complete.mp ⟨hits, (read_iff hits).mpr (resultsFrom_eq_ok_iff.mp failed)⟩
      exact absurd (all row member) missing
    | error e =>
      obtain ⟨before, row, after, fault, rfl, earlier, unread⟩ := exists_fault_of_resultsFrom failed
      refine ⟨before, row, after, fault, rfl, ?_, ?_, unread, ?_⟩
      · simpa only [exists_result_iff apart] using earlier
      · rw [← exists_result_iff apart, ← exists_fault_iff]
        exact ⟨fault, unread⟩
      · have stopped := resultsFrom_of_fault before after earlier unread 0
        rw [Nat.zero_add] at stopped
        simp only [read, results, stopped]
        rfl

/-- A row with a vector, and with two columns more. One of them has the name of the metadata key of
the distance. -/
def taggedRow : Json :=
  .object [("id", .string "docs:a"), (scoreColumn, .number (.int 1)),
    (distanceColumn, .number (.int 0)), ("content", .string "text"), ("embedding", .array []),
    (distanceKeyName, .string "far"), ("year", .number (.int 2024))]

/-- Of the row two columns are left, one with the distance, and a row that is none stops reading. -/
theorem results_of_taggedRow :
    let l : RowLayout := ⟨"content", "embedding"⟩
    let read (rows : List Json) := (l.results (.array rows)).mapError Error.malformedResult
    l.content ∉ ownColumns ∧
      (∃ r, read [taggedRow] = .ok [r] ∧ r.id = "a" ∧ r.metadata.keys = ["distance", "year"] ∧
        r.metadata.find? "year" = some (.number (.int 2024)) ∧
          r.metadata.find? "distance" = some (.number (.double r.distance))) ∧
        ¬(∃ hits, read [taggedRow, .null, .null] = .ok hits) ∧
          ∃ fault, read [taggedRow, .null, .null] = .error (.malformedResult (.row 1 fault)) := by
  intro l read
  have apart : l.content ∉ ownColumns := by decide
  have found : ∃ r, read [taggedRow] = .ok [r] ∧ r.id = "a" ∧
      r.metadata.keys = ["distance", "year"] ∧
        r.metadata.find? "year" = some (.number (.int 2024)) := ⟨_, rfl, rfl, rfl, rfl⟩
  obtain ⟨r, done, id, keys, year⟩ := found
  have told := ((results_iff_complete apart [taggedRow]).2.1 [r]).mp done
  obtain ⟨⟨entries, same, tells⟩, -⟩ := List.forall₂_cons.mp told
  obtain rfl := Json.object.inj same
  have number := tells.distanceNumber (.int 0) rfl rfl
  refine ⟨apart, ⟨r, done, id, keys, year, number ▸ tells.distanceKey⟩, fun hits => ?_, _, rfl⟩
  have complete := (results_iff_complete apart [taggedRow, .null, .null]).1.mp hits
  obtain ⟨_, none, -⟩ := complete .null (by simp)
  contradiction

end RowLayout
end VectorStore
