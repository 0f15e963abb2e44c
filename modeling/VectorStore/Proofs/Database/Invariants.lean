import VectorStore.Proofs.Database.Reachable
import VectorStore.Proofs.RecordId

/-!
What holds of an empty database wherever queries come to. The arrays in an indexed field have the
dimension of the index, if they had it where the index was defined (`Database.vectorsFit_after`).
Every record carries the text of its own record id, so no two records carry the same one
(`Database.identified_after`).
-/
namespace VectorStore

namespace Database

/-- The fields of a record that was just written. -/
theorem find?_written (target : RecordId) (mode : UpsertMode) (before : Option Fields)
    (data : Fields) (field : String) :
    (written target mode before data).find? field =
      if field = "id" then some (.string target.text)
      else (data.find? field).or
        (if mode = .merge then before.bind (SortedMap.find? · field) else none) := by
  by_cases id : field = "id"
  · simp [written, id]
  · cases mode with
    | content | replace => simp [written, SortedMap.find?_insert, id]
    | merge =>
      cases before with
      | none => simp [written, SortedMap.find?_insert, id]
      | some existing =>
        simp [written, SortedMap.find?_insert, SortedMap.find?_overlay, id]

end Database

/-! ## Dimensions -/

/-- The arrays that the records of an index's table have in its field are of its dimension. -/
def IndexEntry.Fits (index : IndexEntry) (db : Database) : Prop :=
  ∀ key record items, db.record? index.table key = some record →
    record.find? index.field = some (.array items) → items.length = index.dimension

/-- Every index fits the records. -/
def Database.VectorsFit (db : Database) : Prop := ∀ index ∈ db.indexes.values, index.Fits db

/-- A definition adds its index only where it fits the records. -/
def Session.DefinesFitting (s : Session) : Statement → Prop
  | .defineIndex d =>
    s.failed = false → s.database.indexes.find? d.name.text = none → d.entry.Fits s.database
  | _ => True

namespace Database

variable {db : Database}

/-- A record that no index objects to has arrays of the right length. -/
theorem length_of_dimensionFault? {table : String} {data : Fields}
    (fits : db.dimensionFault? table data = none) {index : IndexEntry}
    (member : index ∈ db.indexes.values) (here : index.table = table) {items : List Json}
    (found : data.find? index.field = some (.array items)) : items.length = index.dimension := by
  rw [dimensionFault?, List.findSome?_eq_none_iff] at fits
  have taken := fits index (List.mem_filter.mpr ⟨member, by simp [here]⟩)
  simpa [found, Json.array?] using taken

/-- An array in a record that was just written comes from the data or, where writes merge, from the
record before. -/
theorem VectorsFit.write (fit : db.VectorsFit) {target : RecordId} (mode : UpsertMode)
    {data : Fields} (fits : db.dimensionFault? target.table.text data = none) :
    (write mode db (target, data)).VectorsFit := by
  intro index member key record items found array
  rw [indexes_write] at member
  rw [record?_write] at found
  split at found
  next here =>
    obtain rfl := Option.some.inj found
    rw [find?_written] at array
    split at array
    · simp at array
    · rcases Option.or_eq_some_iff.mp array with new | ⟨-, old⟩
      · exact length_of_dimensionFault? fits member here.1 new
      · split at old
        · obtain ⟨existing, before, kept⟩ := Option.bind_eq_some_iff.mp old
          exact fit index member key existing items before kept
        · contradiction
  · exact fit index member key record items found array

/-- Removing records takes nothing from what fits. -/
theorem VectorsFit.foldl_remove (fit : db.VectorsFit) (targets : List RecordId) :
    (targets.foldl remove db).VectorsFit := by
  intro index member key record items found array
  rw [indexes_foldl_remove] at member
  exact fit index member key record items (record?_of_foldl_remove found) array

theorem VectorsFit.define (fit : db.VectorsFit) {d : IndexDefinition} (fits : d.entry.Fits db) :
    VectorsFit { db with indexes := db.indexes.insert d.name.text d.entry } := by
  intro index member
  obtain ⟨name, found⟩ := SortedMap.mem_values_iff.mp member
  rw [SortedMap.find?_insert] at found
  split at found
  · obtain rfl := Option.some.inj found
    exact fits
  · exact fit index (SortedMap.mem_values_iff.mpr ⟨name, found⟩)

theorem keeps_vectorsFit : Session.Keeps Session.DefinesFitting VectorsFit := by
  intro s statement db may going fit leaves
  cases leaves with
  | same passive => exact fit
  | wrote target mode data fits => exact fit.write mode fits
  | removed targets => exact fit.foldl_remove targets
  | defined d fresh => exact fit.define (may going fresh)
  | passedOver d => exact fit

/-- Wherever queries on an empty database come to, also inside a transaction and after one that was
given up, every index fits the records, if up to there every definition of an index that was added
did so where it ran. -/
theorem vectorsFit_after {earlier : List Query} {part : Query}
    (defined : Permits Session.DefinesFitting empty (earlier ++ [part])) :
    (Session.after empty earlier part).database.VectorsFit :=
  have first : empty.VectorsFit := nofun
  (Session.holds_after keeps_vectorsFit first defined).1

/-- Writes of a record: with a vector, and with a shorter one. -/
def vectorWrite (mode : UpsertMode) (items : List Json) : Statement :=
  .upsert ⟨onceIndex.table, "a"⟩ mode (.insert .empty onceIndex.field.text (.array items))
def pairWrite : Statement := vectorWrite .content [.bool true, .bool false]
def shortWrite : Statement := vectorWrite .merge [.null]

theorem fits_pairWrite :
    onceIndex.entry.Fits ((Session.start empty).step pairWrite).database := by
  intro key record items found array
  have stored : ((Session.start empty).step pairWrite).database =
    write .content empty (⟨onceIndex.table, "a"⟩,
      .insert .empty onceIndex.field.text (.array [.bool true, .bool false])) := rfl
  have field : onceIndex.entry.field = onceIndex.field.text := rfl
  have named : onceIndex.field.text ≠ "id" := by decide
  rw [stored, record?_write] at found
  split at found
  · obtain rfl := Option.some.inj found
    rw [find?_written, field, if_neg named, SortedMap.find?_insert, if_pos rfl, Option.some_or,
      Option.some.injEq, Json.array.injEq] at array
    rw [← array]
    rfl
  · contradiction

/-- The index is defined over a record with a vector; a shorter one is refused, also in a
transaction that is still open. -/
theorem vectorsFit_after_shortWrite :
    let earlier : List Query := [[pairWrite, .defineIndex onceIndex], [shortWrite]]
    let part : Query := [.beginTransaction, pairWrite, shortWrite]
    let s := Session.after empty earlier part
    Permits Session.DefinesFitting empty (earlier ++ [part]) ∧
      s.failed = true ∧ s.database.indexes.values = [onceIndex.entry] ∧
        s.database.record? onceIndex.table.text "a" ≠ none ∧ s.database.VectorsFit := by
  have defined : Permits Session.DefinesFitting empty
      ([[pairWrite, .defineIndex onceIndex], [shortWrite]] ++
        [[.beginTransaction, pairWrite, shortWrite]]) :=
    ⟨⟨trivial, fun _ _ => fits_pairWrite, trivial⟩, ⟨trivial, trivial⟩,
      ⟨trivial, trivial, trivial, trivial⟩, trivial⟩
  exact ⟨defined, rfl, rfl, Option.some_ne_none _, vectorsFit_after defined⟩

/-! ## Record ids -/

/-- Every record carries the text of the record id that it stands under. -/
def Labelled (db : Database) : Prop :=
  ∀ table key record, db.record? table key = some record →
    ∃ target : RecordId, target.table.text = table ∧ target.key = key ∧
      record.find? "id" = some (.string target.text)

theorem keeps_labelled : Session.Keeps (fun _ _ => True) Labelled := by
  intro s statement db _ _ labelled leaves
  cases leaves with
  | same passive => exact labelled
  | wrote target mode data fits =>
    intro table key record found
    rw [record?_write] at found
    split at found
    next here =>
      obtain rfl := Option.some.inj found
      exact ⟨target, here.1.symm, here.2.symm, by rw [find?_written, if_pos rfl]⟩
    · exact labelled table key record found
  | removed targets =>
    intro table key record found
    exact labelled table key record (record?_of_foldl_remove found)
  | defined d fresh => exact labelled
  | passedOver d => exact labelled

/-- Records with one id are one record. -/
theorem Labelled.eq_of_id_eq (labelled : db.Labelled) {table table' key key' : String}
    {record record' : Fields} (found : db.record? table key = some record)
    (found' : db.record? table' key' = some record')
    (same : record.find? "id" = record'.find? "id") : table = table' ∧ key = key' := by
  obtain ⟨target, rfl, rfl, id⟩ := labelled _ _ _ found
  obtain ⟨target', rfl, rfl, id'⟩ := labelled _ _ _ found'
  have texts : target.text = target'.text := by
    rw [id, id'] at same
    simpa using same
  rw [RecordId.text_injective texts]
  exact ⟨rfl, rfl⟩

/-- Wherever queries on an empty database come to, the record of a table under a key carries the
text of its record id, whatever ids the data brought along, and no other record of the database
carries the same. -/
theorem identified_after (earlier : List Query) (part : Query) :
    let db := (Session.after empty earlier part).database
    ∀ table key record, db.record? table key = some record →
      (∃ target : RecordId, target.table.text = table ∧ target.key = key ∧
        record.find? "id" = some (.string target.text)) ∧
      ∀ table' key' record', db.record? table' key' = some record' →
        record'.find? "id" = record.find? "id" → table' = table ∧ key' = key := by
  intro db table key record found
  have first : empty.Labelled := nofun
  have labelled : db.Labelled :=
    (Session.holds_after keeps_labelled first (permits_of_forall (fun _ _ => trivial) _ _)).1
  refine ⟨labelled table key record found, fun table' key' record' found' same => ?_⟩
  exact labelled.eq_of_id_eq found' found same

/-- A write whose data brings an id along. -/
def labelledWrite (key id : String) : Statement :=
  .upsert ⟨onceIndex.table, key⟩ .content (.insert .empty "id" (.string id))

/-- Records written with the ids of each other carry their own. -/
theorem identified_after_swapped_ids :
    let swapped : Query := [labelledWrite "a" "docs:⟨b⟩", labelledWrite "b" "docs:⟨a⟩"]
    let db := (Session.after empty [swapped] []).database
    ∃ record, db.record? "docs" "a" = some record ∧
      (∃ target : RecordId, target.table.text = "docs" ∧ target.key = "a" ∧
        record.find? "id" = some (.string target.text)) ∧
      ∀ table' key' record', db.record? table' key' = some record' →
        record'.find? "id" = record.find? "id" → table' = "docs" ∧ key' = "a" :=
  ⟨_, rfl, identified_after
    [[labelledWrite "a" "docs:⟨b⟩", labelledWrite "b" "docs:⟨a⟩"]] [] _ _ _ rfl⟩

end Database
end VectorStore
