import VectorStore.RecordId
import VectorStore.Proofs.Text.Delimited

/-!
A record id reads back as its key: the key stands behind the only colon that can come first, since
the table before it is an identifier, and taking escaped characters as themselves undoes escaping.
In a longer text no key ends its record id early (`RecordId.delimited_text`).
-/
namespace VectorStore.RecordId
open Text

theorem unescape_escape : (key : List Char) → unescape (escape key) = key
  | [] => rfl
  | c :: rest => by
    rw [escape]
    split
    · rw [unescape, unescape_escape rest]
    next plain =>
      have ordinary : c ≠ '\\' := fun same => plain (.inr same)
      rw [unescape.eq_4 _ _ (by simp [ordinary]) (by simp [ordinary]), unescape_escape rest]

theorem not_isIdentPart_colon : isIdentPart ':' = false := by decide

theorem isIdentPart_of_isIdentStart {c : Char} (start : isIdentStart c = true) :
    isIdentPart c = true := by
  simp only [isIdentStart, isIdentPart, Char.isAlphanum, Bool.or_eq_true] at *
  exact start.imp_left .inl

theorem isIdentPart_of_mem (name : Ident) : ∀ c ∈ name.text.toList, isIdentPart c = true := by
  have valid := name.valid
  rw [isIdentifier] at valid
  cases letters : name.text.toList with
  | nil => simp
  | cons c rest =>
    rw [letters, isIdentChars, Bool.and_eq_true, List.all_eq_true] at valid
    intro c' member
    rcases List.mem_cons.mp member with rfl | member
    · exact isIdentPart_of_isIdentStart valid.1
    · exact valid.2 c' member

theorem between?_bracketed (inner : List Char) :
    between? '⟨' '⟩' ('⟨' :: inner ++ ['⟩']) = some inner := by
  simp [between?]

/-- What stands behind the first colon of a record id. -/
theorem dropWhile_text (r : RecordId) :
    r.text.toList.dropWhile (· ≠ ':') = ':' :: ('⟨' :: escape r.key.toList ++ ['⟩']) := by
  have name : ∀ c ∈ r.table.text.toList, decide (c ≠ ':') = true := by
    intro c member
    have part := isIdentPart_of_mem r.table c member
    refine decide_eq_true fun colon => ?_
    rw [colon, not_isIdentPart_colon] at part
    contradiction
  have written : r.text.toList =
      r.table.text.toList ++ ':' :: ('⟨' :: escape r.key.toList ++ ['⟩']) := by
    simp [text]
  rw [written, List.dropWhile_append_of_pos name]
  rfl

theorem keyOf?_text (r : RecordId) : keyOf? (.string r.text) = some r.key := by
  simp only [keyOf?, dropWhile_text, readKey, between?_bracketed, unescape_escape,
    String.ofList_toList]

/-! ## Record ids in longer texts -/

theorem delimited_ident (name : Ident) : Delimited isIdentPart Ident.text name := by
  refine delimited_of_word (fun a b same => ?_) isIdentPart_of_mem name
  cases a
  cases b
  cases same
  rfl

theorem escape_eq : (key : List Char) → escape key = escapeWith '⟩' key
  | [] => rfl
  | c :: rest => by rw [escape, escapeWith, escape_eq rest]

/-- A record id is told from any other whatever follows it. -/
theorem delimited_text {word : Char → Bool} (r : RecordId) : Delimited word text r := by
  have written : text = fun r : RecordId =>
      r.table.text ++ ":⟨" ++ String.ofList (escapeWith '⟩' r.key.toList) ++ "⟩" := by
    funext r
    rw [text, escape_eq]
  have parts : Function.Injective fun r : RecordId => (r.table, r.key) := by
    rintro ⟨table, key⟩ ⟨table', key'⟩ same
    cases same
    rfl
  rw [written]
  exact ((((delimited_ident r.table).pair ⟨':', rfl, not_isIdentPart_colon⟩
    (delimited_escapeWith (by decide) r.key)).closed ⟨'⟩', rfl, rfl⟩).comap parts)

/-- A text that begins with a record id begins with no other, and goes on in one way. -/
theorem eq_of_text_append_eq {r r' : RecordId} {rest rest' : String}
    (same : r.text ++ rest = r'.text ++ rest') : r = r' ∧ rest = rest' := by
  have delimited : Delimited nowhere text r := delimited_text r
  have anything (cs : List Char) : Breaks nowhere cs := fun _ _ => rfl
  have letters : r.text.toList ++ rest.toList = r'.text.toList ++ rest'.toList := by
    rw [← String.toList_append, same, String.toList_append]
  obtain ⟨records, rests⟩ := delimited r' _ _ (anything _) (anything _) letters
  exact ⟨records, String.toList_inj.mp rests⟩

/-- Different records have different texts. -/
theorem text_injective : Function.Injective text := by
  intro r r' same
  have followed : r.text ++ "" = r'.text ++ "" := by rw [same]
  exact (eq_of_text_append_eq followed).1

/-- A record id reads as its key, whatever characters the key has. In a longer text it is told where
the record id ends: what else begins the text like this is the same record id with the same rest. -/
theorem keyOf?_text_and_append_eq_iff (r : RecordId) :
    keyOf? (.string r.text) = some r.key ∧
      ∀ r' rest rest', r.text ++ rest = r'.text ++ rest' ↔ r = r' ∧ rest = rest' := by
  refine ⟨keyOf?_text r, fun r' rest rest' => ⟨eq_of_text_append_eq, ?_⟩⟩
  rintro ⟨rfl, rfl⟩
  rfl

/-- Every bracket and backslash of a key is told from the bracket that ends it. -/
example : text ⟨⟨"books", by decide⟩, "\\⟩:⟨`"⟩ = "books:⟨\\\\\\⟩:⟨`⟩" := by decide

end VectorStore.RecordId
