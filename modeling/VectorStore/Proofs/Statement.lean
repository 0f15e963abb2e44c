import VectorStore.Statement
import VectorStore.Proofs.Literal

/-!
No text that a write carries, as a record key, a key of an object or a string in it, forges a
statement: a query of writes and transactions shares its text with no other query
(`Query.eq_of_text_eq`).
-/
namespace VectorStore
open Text

/-- Whether a statement writes, or begins or commits a transaction. -/
def Statement.isWrite : Statement → Bool
  | upsert .. | delete _ | beginTransaction | commitTransaction => true
  | _ => false

namespace Statement

/-- A statement as it stands in a query. -/
def line (s : Statement) : String := s.text ++ ";"

theorem exists_definition_text (d : IndexDefinition) :
    ∃ behind, d.text = "DEFINE INDEX " ++ behind := by
  unfold IndexDefinition.text
  simp only [String.append_assoc]
  exact ⟨_, rfl⟩

theorem label_prefix_line (s : Statement) : s.label.toList <+: s.line.toList := by
  cases s with
  | bind _ _ => simp [label, line, text]
  | select s => simp [label, line, text, Selection.text]
  | upsert _ _ _ => simp [label, line, text]
  | delete _ => simp [label, line, text]
  | defineIndex d =>
    obtain ⟨behind, split⟩ := exists_definition_text d
    simp [label, line, text, split]
  | beginTransaction => simp [label, line, text]
  | commitTransaction => simp [label, line, text]

/-- The first letters of a statement tell its kind. -/
theorem label_eq_of_append {s s' : Statement} {rest rest' : List Char}
    (same : s.line.toList ++ rest = s'.line.toList ++ rest') : s.label = s'.label := by
  have first (s : Statement) (rest : List Char) :
      (s.line.toList ++ rest).take 3 = s.label.toList.take 3 := by
    obtain ⟨behind, split⟩ := s.label_prefix_line
    have length : 3 ≤ s.label.toList.length := by cases s <;> simp [label]
    rw [← split, List.append_assoc, List.take_append_of_le_length length]
  have letters : s.label.toList.take 3 = s'.label.toList.take 3 := by
    rw [← first s rest, same, first]
  cases s <;> cases s' <;> first | rfl | simp [label] at letters

theorem delimited_mode (mode : UpsertMode) :
    Delimited Char.isAlphanum (Keyword.text : UpsertMode → String) mode := by
  have injective : Function.Injective (Keyword.text : UpsertMode → String) := by
    intro a b same
    cases a <;> cases b <;> first | rfl | simp [Keyword.text] at same
  refine delimited_of_word injective (fun mode => ?_) mode
  cases mode <;> simp [Keyword.text]

theorem ofFields_injective : Function.Injective Json.ofFields := by
  rintro ⟨entries, sorted⟩ ⟨entries', sorted'⟩ same
  obtain rfl : entries = entries' := Json.object.inj same
  rfl

/-- The text of an upsert by its target, mode and data. -/
def upsertLine (w : (RecordId × UpsertMode) × Fields) : String :=
  "UPSERT " ++ w.1.1.text ++ " " ++ Keyword.text w.1.2 ++ " " ++ (Json.ofFields w.2).literal ++ ";"

theorem delimited_upsertLine (w : (RecordId × UpsertMode) × Fields) :
    Delimited nowhere upsertLine w := by
  have target : Delimited nowhere (fun r : RecordId => "UPSERT " ++ r.text) w.1.1 :=
    w.1.1.delimited_text.opened "UPSERT "
  have blank {word : Char → Bool} (outside : word ' ' = false) : Stops word " " :=
    ⟨' ', rfl, outside⟩
  have mode := target.pair (blank rfl) (delimited_mode w.1.2)
  have data : Delimited isScalarPart (fun data => (Json.ofFields data).literal) w.2 :=
    (Json.delimited_literal (Json.ofFields w.2)).comap ofFields_injective
  exact (mode.pair (blank (by decide)) data).closed ⟨';', rfl, by decide⟩

/-- The text of a deletion by its targets. -/
def deleteLine (targets : List RecordId) : String :=
  "DELETE " ++ joinWith ", " (targets.map RecordId.text) ++ ";"

theorem delimited_deleteLine (targets : List RecordId) : Delimited nowhere deleteLine targets := by
  have starts (r : RecordId) : Starts (· != ';') r.text := by
    obtain ⟨c, first, start⟩ := starts_identifier r.table.valid
    have ne : (c != ';') = true := bne_of_outside start (d := ';') (by decide)
    rw [RecordId.text, String.append_assoc, String.append_assoc]
    exact Starts.append ⟨c, first, ne⟩ _
  have listed : Delimited (· != ';')
      (fun targets => joinWith ", " (List.map RecordId.text targets)) targets :=
    Delimited.join (fun r _ => r.delimited_text) (⟨',', rfl, rfl⟩ : Stops nowhere ", ")
      (fun _ inside => absurd inside Bool.false_ne_true) ⟨',', rfl, rfl⟩ starts
  exact (listed.opened "DELETE ").closed ⟨';', rfl, rfl⟩

/-- A write is told from any other statement by its own text. -/
theorem delimited_line {s : Statement} (write : s.isWrite = true) : Delimited nowhere line s := by
  intro s' rest rest' breaks breaks' same
  have kinds := label_eq_of_append same
  cases s with
  | upsert target mode data =>
    cases s' with
    | upsert target' mode' data' =>
      obtain ⟨parts, rests⟩ := delimited_upsertLine ((target, mode), data) ((target', mode'), data')
        rest rest' breaks breaks' same
      cases parts
      exact ⟨rfl, rests⟩
    | bind _ _ | select _ | delete _ | defineIndex _ | beginTransaction | commitTransaction =>
      simp [label] at kinds
  | delete targets =>
    cases s' with
    | delete targets' =>
      obtain ⟨rfl, rests⟩ :=
        delimited_deleteLine targets targets' rest rest' breaks breaks' same
      exact ⟨rfl, rests⟩
    | bind _ _ | select _ | upsert _ _ _ | defineIndex _ | beginTransaction | commitTransaction =>
      simp [label] at kinds
  | beginTransaction =>
    cases s' with
    | beginTransaction => exact ⟨rfl, List.append_cancel_left same⟩
    | bind _ _ | select _ | upsert _ _ _ | delete _ | defineIndex _ | commitTransaction =>
      simp [label] at kinds
  | commitTransaction =>
    cases s' with
    | commitTransaction => exact ⟨rfl, List.append_cancel_left same⟩
    | bind _ _ | select _ | upsert _ _ _ | delete _ | defineIndex _ | beginTransaction =>
      simp [label] at kinds
  | bind _ _ | select _ | defineIndex _ => contradiction

end Statement

namespace Query

/-- A query of writes is the only query with its text. -/
theorem eq_of_text_eq {q q' : Query} (writes : ∀ s ∈ q, s.isWrite = true)
    (same : q.text = q'.text) : q = q' := by
  have starts (s : Statement) : Starts (fun _ => true) s.line := by
    obtain ⟨behind, split⟩ := s.label_prefix_line
    have nonempty : s.label.toList ≠ [] := by cases s <;> simp [Statement.label]
    obtain ⟨c, letters, label⟩ := List.exists_cons_of_ne_nil nonempty
    exact ⟨c, by rw [← split, label]; rfl, rfl⟩
  have delimited : Delimited (fun _ => true)
      (fun q => joinWith "\n" (List.map Statement.line q)) q :=
    Delimited.join (fun s member => Statement.delimited_line (writes s member))
      ⟨'\n', rfl, rfl⟩ (fun _ _ => rfl) ⟨'\n', rfl, rfl⟩ starts
  exact (delimited q' [] [] (breaks_nil _) (breaks_nil _) (congrArg (·.toList ++ []) same)).1

/-- A write in a transaction, with a key and a string that hold the ends of a record id, of a
literal and of a statement. -/
def hostileWrite (data : Fields) : Query :=
  transaction [.upsert ⟨⟨"pages", by decide⟩, "a⟩ CONTENT \x7b \x7d; DELETE pages:⟨b"⟩ .merge
    (data.insert "text" (.string "' \x7d;\nCOMMIT TRANSACTION;"))]

/-- Two queries with one text, whose data were put together in different orders. -/
theorem eq_of_text_eq_of_orders :
    let q := hostileWrite (SortedMap.empty.insert "it's" .null |>.insert "n" (.number (.int (-1))))
    let q' := hostileWrite (SortedMap.empty.insert "n" (.number (.int (-1))) |>.insert "it's" .null)
    (∀ s ∈ q, s.isWrite = true) ∧ q.text = q'.text ∧ q = q' := by
  have writes (data : Fields) : ∀ s ∈ hostileWrite data, s.isWrite = true := by
    simp [hostileWrite, transaction, Statement.isWrite]
  exact ⟨writes _, rfl, eq_of_text_eq (writes _) rfl⟩

end Query
end VectorStore
