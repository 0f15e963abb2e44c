import VectorStore.Literal
import VectorStore.Proofs.Number.Texts
import VectorStore.Proofs.RecordId
import VectorStore.Proofs.Text.Delimited

/-!
Literals are delimited: no text in a value, as a string or as a key, ends the literal of the value
early or lets it go on (`Json.delimited_literal`).
-/
namespace VectorStore
open Text

theorem escapeQuoted_eq : (cs : List Char) → escapeQuoted cs = escapeWith '\x27' cs
  | [] => rfl
  | c :: rest => by
    rw [escapeQuoted, escapeWith, escapeQuoted_eq rest]
    simp only [or_comm]

theorem delimited_quoteText {word : Char → Bool} (s : String) : Delimited word quoteText s := by
  have quoted : quoteText = fun s => "'" ++ String.ofList (escapeWith '\x27' s.toList) ++ "'" := by
    funext s
    rw [quoteText, escapeQuoted_eq]
  rw [quoted]
  exact ((delimited_escapeWith (by decide) s).opened "'").closed ⟨'\x27', rfl, rfl⟩

/-! ## Keys -/

theorem starts_identifier {name : String} (valid : isIdentifier name = true) :
    Starts isIdentStart name := by
  rw [isIdentifier] at valid
  cases letters : name.toList with
  | nil =>
    rw [letters] at valid
    contradiction
  | cons c rest =>
    rw [letters, isIdentChars, Bool.and_eq_true] at valid
    exact ⟨c, by rw [letters]; rfl, valid.1⟩

/-- A quoted text does not begin as an identifier. -/
theorem append_ne_quoteText {name s : String} (valid : isIdentifier name = true)
    (rest rest' : List Char) : name.toList ++ rest ≠ (quoteText s).toList ++ rest' := by
  intro same
  have breaks : Breaks isIdentStart ((quoteText s).toList ++ rest') := by
    simp only [quoteText, String.toList_append, List.append_assoc]
    exact Stops.breaks ⟨'\x27', rfl, by decide⟩ _
  exact (starts_identifier valid).not_breaks rest (same ▸ breaks)

theorem delimited_keyLiteral (key : String) : Delimited isIdentPart keyLiteral key := by
  intro key' rest rest' breaks breaks' same
  unfold keyLiteral at same
  -- a bare key and a quoted one differ in the first character
  split at same <;> split at same
  next bare bare' =>
    obtain ⟨keys, rests⟩ := append_inj_of_breaks (RecordId.isIdentPart_of_mem ⟨key, bare⟩)
      (RecordId.isIdentPart_of_mem ⟨key', bare'⟩) breaks breaks' same
    exact ⟨String.toList_inj.mp keys, rests⟩
  next bare _ => exact absurd same (append_ne_quoteText bare _ _)
  next _ bare' => exact absurd same.symm (append_ne_quoteText bare' _ _)
  · exact delimited_quoteText key key' rest rest' breaks breaks' same

theorem starts_keyLiteral (key : String) : Starts (· != ' ') (keyLiteral key) := by
  unfold keyLiteral
  split
  next bare =>
    obtain ⟨c, first, start⟩ := starts_identifier bare
    exact ⟨c, first, bne_of_outside start (by decide)⟩
  · exact ⟨'\x27', by simp [quoteText], rfl⟩

/-! ## Values -/

namespace Json

theorem literals_eq_map : (items : List Json) → literals items = items.map literal
  | [] => rfl
  | j :: rest => by rw [literals, literals_eq_map rest, List.map_cons]

/-- A field of an object. -/
def fieldLiteral (field : String × Json) : String :=
  keyLiteral field.1 ++ ": " ++ field.2.literal

theorem fieldLiterals_eq_map :
    (fields : List (String × Json)) → fieldLiterals fields = fields.map fieldLiteral
  | [] => rfl
  | (key, j) :: rest => by
    rw [fieldLiterals, fieldLiterals_eq_map rest, List.map_cons, fieldLiteral]

/-- The character that opens the literal of a value; there is none where it is a single word. -/
def opening : Json → Option Char
  | string _ => some '\x27'
  | array _ => some '['
  | object _ => some '\x7b'
  | _ => none

theorem isScalarPart_of_opening_eq_none {j : Json} (word : j.opening = none) :
    ∀ c ∈ j.literal.toList, isScalarPart c = true := by
  cases j with
  | null => simp [literal, isScalarPart]
  | bool b => cases b <;> simp [literal, isScalarPart]
  | number n =>
    rw [literal]
    exact n.isScalarPart_of_mem_text
  | string _ | array _ | object _ => contradiction

/-- The first character of a literal tells how it goes on. -/
theorem exists_first (j : Json) :
    ∃ c ∈ j.literal.toList.head?, j.opening = if isScalarPart c then none else some c := by
  by_cases word : j.opening = none
  · have nonempty : j.literal.toList ≠ [] := by
      cases j with
      | null => simp [literal]
      | bool b => cases b <;> simp [literal]
      | number n =>
        intro empty
        obtain ⟨x, reads⟩ := n.exists_readDouble?_text
        rw [literal] at empty
        rw [empty] at reads
        contradiction
      | string _ | array _ | object _ => contradiction
    obtain ⟨c, cs, split⟩ := List.exists_cons_of_ne_nil nonempty
    have part := isScalarPart_of_opening_eq_none word c (split ▸ List.mem_cons_self)
    exact ⟨c, by rw [split]; rfl, by rw [word, part]; rfl⟩
  · cases j with
    | string s => exact ⟨'\x27', by simp [literal, quoteText], rfl⟩
    | array items => exact ⟨'[', by simp [literal], rfl⟩
    | object fields => exact ⟨'\x7b', by simp [literal], rfl⟩
    | null | bool _ | number _ => exact absurd rfl word

theorem opening_eq_of_append {a b : Json} {rest rest' : List Char}
    (same : a.literal.toList ++ rest = b.literal.toList ++ rest') : a.opening = b.opening := by
  obtain ⟨c, first, opens⟩ := exists_first a
  obtain ⟨d, first', opens'⟩ := exists_first b
  obtain ⟨cs, split⟩ := List.head?_eq_some_iff.mp first
  obtain ⟨ds, split'⟩ := List.head?_eq_some_iff.mp first'
  rw [split, split'] at same
  rw [opens, opens', (List.cons.inj same).1]

/-- No number is written as a text that is not read as one. -/
theorem text_ne_of_unreadable {text : String} (unreadable : readDouble? text.toList = none)
    (n : JsonNumber) : n.text ≠ text := by
  rintro rfl
  obtain ⟨x, reads⟩ := n.exists_readDouble?_text
  rw [reads] at unreadable
  contradiction

theorem eq_of_literal_eq {a b : Json} (word : a.opening = none) (word' : b.opening = none)
    (same : a.literal = b.literal) : a = b := by
  -- every number is read as a double, and no other word is
  have ne_null (n : JsonNumber) : (number n).literal ≠ null.literal := by
    rw [literal, literal]
    exact text_ne_of_unreadable rfl n
  have ne_bool (b : Bool) (n : JsonNumber) : (number n).literal ≠ (bool b).literal := by
    rw [literal, literal]
    cases b <;> exact text_ne_of_unreadable rfl n
  cases a with
  | null =>
    cases b with
    | null => rfl
    | bool b => cases b <;> simp [literal] at same
    | number n => exact absurd same.symm (ne_null n)
    | string _ | array _ | object _ => contradiction
  | bool a =>
    cases b with
    | null => cases a <;> simp [literal] at same
    | bool b => cases a <;> cases b <;> simp [literal] at same ⊢
    | number n => exact absurd same.symm (ne_bool a n)
    | string _ | array _ | object _ => contradiction
  | number m =>
    cases b with
    | null => exact absurd same (ne_null m)
    | bool b => exact absurd same (ne_bool b m)
    | number n =>
      rw [literal, literal] at same
      rw [JsonNumber.text_injective same]
    | string _ | array _ | object _ => contradiction
  | string _ | array _ | object _ => contradiction

theorem delimited_word {a : Json} (word : a.opening = none) :
    Delimited isScalarPart literal a := by
  intro b rest rest' breaks breaks' same
  have word' : b.opening = none := (opening_eq_of_append same).symm.trans word
  obtain ⟨texts, rests⟩ := append_inj_of_breaks (isScalarPart_of_opening_eq_none word)
    (isScalarPart_of_opening_eq_none word') breaks breaks' same
  exact ⟨eq_of_literal_eq word word' (String.toList_inj.mp texts), rests⟩

theorem delimited_string (s : String) : Delimited isScalarPart literal (string s) := by
  intro b rest rest' breaks breaks' same
  have opens := opening_eq_of_append same
  cases b with
  | string t =>
    rw [literal, literal] at same
    obtain ⟨rfl, rests⟩ := delimited_quoteText s t rest rest' breaks breaks' same
    exact ⟨rfl, rests⟩
  | null | bool _ | number _ | array _ | object _ => simp [opening] at opens

theorem delimited_array {items : List Json}
    (each : ∀ j ∈ items, Delimited isScalarPart literal j) :
    Delimited isScalarPart literal (array items) := by
  have starts (j : Json) : Starts (· != ']') j.literal := by
    obtain ⟨c, first, opens⟩ := exists_first j
    refine ⟨c, first, ?_⟩
    by_contra closes
    obtain rfl : c = ']' := by simpa using closes
    cases j <;> simp [opening, isScalarPart] at opens
  have listed : Delimited (· != ']') (fun items => joinWith "," (List.map literal items)) items :=
    Delimited.join each ⟨',', rfl, by decide⟩ (fun c part => bne_of_outside part (by decide))
      ⟨',', rfl, rfl⟩ starts
  have delimited : Delimited isScalarPart
      (fun items => "[" ++ joinWith "," (List.map literal items) ++ "]") items :=
    (listed.opened "[").closed ⟨']', rfl, rfl⟩
  intro b rest rest' breaks breaks' same
  have opens := opening_eq_of_append same
  cases b with
  | array items' =>
    rw [literal, literal, literals_eq_map, literals_eq_map] at same
    obtain ⟨rfl, rests⟩ := delimited items' rest rest' breaks breaks' same
    exact ⟨rfl, rests⟩
  | null | bool _ | number _ | string _ | object _ => simp [opening] at opens

theorem delimited_fieldLiteral {field : String × Json}
    (value : Delimited isScalarPart literal field.2) :
    Delimited isScalarPart fieldLiteral field :=
  (delimited_keyLiteral field.1).pair ⟨':', rfl, by decide⟩ value

theorem delimited_object {fields : List (String × Json)}
    (each : ∀ field ∈ fields, Delimited isScalarPart literal field.2) :
    Delimited isScalarPart literal (object fields) := by
  have starts (field : String × Json) : Starts (· != ' ') (fieldLiteral field) := by
    rw [fieldLiteral, String.append_assoc]
    exact (starts_keyLiteral field.1).append _
  have listed : Delimited (· != ' ')
      (fun fields => joinWith ", " (List.map fieldLiteral fields)) fields :=
    Delimited.join (fun field member => delimited_fieldLiteral (each field member))
      ⟨',', rfl, by decide⟩ (fun c part => bne_of_outside part (by decide)) ⟨',', rfl, rfl⟩ starts
  have delimited : Delimited isScalarPart
      (fun fields => "\x7b " ++ joinWith ", " (List.map fieldLiteral fields) ++ " \x7d") fields :=
    (listed.opened "\x7b ").closed ⟨' ', rfl, rfl⟩
  intro b rest rest' breaks breaks' same
  have opens := opening_eq_of_append same
  cases b with
  | object fields' =>
    rw [literal, literal, fieldLiterals_eq_map, fieldLiterals_eq_map] at same
    obtain ⟨rfl, rests⟩ := delimited fields' rest rest' breaks breaks' same
    exact ⟨rfl, rests⟩
  | null | bool _ | number _ | string _ | array _ => simp [opening] at opens

/-- The literal of a value is told from any other literal by what stands in it, up to the first
character that no word goes on with. -/
theorem delimited_literal : (j : Json) → Delimited isScalarPart literal j
  | null | bool _ | number _ => delimited_word rfl
  | string s => delimited_string s
  | array items => delimited_array fun j _ => delimited_literal j
  | object fields => delimited_object fun field _ => delimited_literal field.2
termination_by j => sizeOf j
decreasing_by
  · decreasing_tactic
  · have inside := List.sizeOf_lt_of_mem (by assumption : field ∈ fields)
    have value : sizeOf field = 1 + sizeOf field.1 + sizeOf field.2 := rfl
    simp only [object.sizeOf_spec]
    omega

end Json
end VectorStore
