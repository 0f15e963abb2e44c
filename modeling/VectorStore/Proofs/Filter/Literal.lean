import VectorStore.Filter.Condition
import VectorStore.Proofs.Literal
import VectorStore.Proofs.Text.Scanning

/-!
Literals of filter values. A reader of the query language leaves each of them as he entered it
(`FilterValue.sealed_spelling`), and no literal goes on as another one, so that a literal tells its
value (`FilterValue.spelling_append_inj`); an instant is told as far as its timestamp tells it.
-/
namespace VectorStore
open Text

/-! ## Instants -/

namespace Instant

def isTimestampPart (c : Char) : Bool := isScalarPart c || c == ':'

theorem isTimestampPart_of_mem_padded {width n : Nat} :
    ∀ c ∈ padded width n, isTimestampPart c = true := by
  intro c member
  rcases List.mem_append.mp member with zero | digit
  · rw [List.eq_of_mem_replicate zero]
    decide
  · simp [isTimestampPart, isScalarPart_of_isDigit (isDigit_of_mem_toDigits digit)]

theorem isTimestampPart_of_mem_text (t : Instant) :
    ∀ c ∈ t.text.toList, isTimestampPart c = true := by
  have year (y : Int) : ∀ c ∈ yearText y, isTimestampPart c = true := by
    unfold yearText
    split
    · exact isTimestampPart_of_mem_padded
    · refine List.forall_mem_cons.mpr ⟨?_, isTimestampPart_of_mem_padded⟩
      split <;> decide
  have fraction (n : Nat) : ∀ c ∈ fractionText n, isTimestampPart c = true := by
    unfold fractionText
    split_ifs
    · exact nofun
    all_goals exact List.forall_mem_cons.mpr ⟨by decide, isTimestampPart_of_mem_padded⟩
  have field {width n : Nat} {c : Char} {rest : List Char} (separator : isTimestampPart c = true)
      (later : ∀ c ∈ rest, isTimestampPart c = true) :
      ∀ d ∈ padded width n ++ c :: rest, isTimestampPart d = true :=
    List.forall_mem_append.mpr ⟨isTimestampPart_of_mem_padded,
      List.forall_mem_cons.mpr ⟨separator, later⟩⟩
  have last : ∀ c ∈ ['Z'], isTimestampPart c = true := by simp [isTimestampPart, isScalarPart]
  rw [text, String.toList_ofList]
  simp only [List.append_assoc, List.cons_append]
  refine List.forall_mem_append.mpr ⟨year _, List.forall_mem_cons.mpr ⟨by decide, ?_⟩⟩
  exact field (by decide) (field (by decide) (field (by decide) (field (by decide)
    (List.forall_mem_append.mpr ⟨isTimestampPart_of_mem_padded,
      List.forall_mem_append.mpr ⟨fraction _, last⟩⟩))))

theorem not_isTimestampPart : isTimestampPart '\x27' = false ∧ isTimestampPart '\\' = false := by
  decide

/-- No character of a timestamp is escaped between quotes. -/
theorem quoteText_text (t : Instant) : quoteText t.text = "'" ++ t.text ++ "'" := by
  have plain : ∀ cs : List Char, (∀ c ∈ cs, isTimestampPart c = true) → escapeQuoted cs = cs := by
    intro cs each
    induction cs with
    | nil => rfl
    | cons c rest ih =>
      obtain ⟨part, later⟩ := List.forall_mem_cons.mp each
      have ordinary : ¬(c = '\\' ∨ c = '\x27') := by
        rintro (rfl | rfl)
        · exact absurd part (by simp [not_isTimestampPart])
        · exact absurd part (by simp [not_isTimestampPart])
      rw [escapeQuoted, if_neg ordinary, ih later]
  rw [quoteText, plain _ t.isTimestampPart_of_mem_text, String.ofList_toList]

end Instant

/-! ## Spellings -/

namespace FilterValue

mutual
/-- The literal of a value, or what it would be where a number is not finite. -/
def spelling : FilterValue → String
  | .bool b => if b then "true" else "false"
  | .int n => integerText n
  | .float x => Layout.literal.double x
  | .text s => quoteText s
  | .instant t => "d" ++ quoteText t.text
  | .list items => "[" ++ joinWith "," (spellings items) ++ "]"
def spellings : List FilterValue → List String
  | [] => []
  | v :: rest => spelling v :: spellings rest
end

mutual
theorem literal_eq_ok : (v : FilterValue) → {written : String} → v.literal = .ok written →
    v.spelling = written
  | .bool b, _, ok => Except.ok.inj ok
  | .int n, _, ok => Except.ok.inj ok
  | .float x, _, ok => by
    rw [literal] at ok
    split at ok
    · exact Except.ok.inj ok
    · contradiction
  | .text s, _, ok => Except.ok.inj ok
  | .instant t, _, ok => by
    rw [literal] at ok
    rw [← Except.ok.inj ok, spelling, t.quoteText_text]
    simp only [← String.append_assoc]
    rfl
  | .list items, _, ok => by
    rw [literal] at ok
    split at ok
    next _ each =>
      rw [← Except.ok.inj ok, spelling, literals_eq_ok items each]
    · contradiction
theorem literals_eq_ok : (items : List FilterValue) → {written : List String} →
    literals items = .ok written → spellings items = written
  | [], _, ok => Except.ok.inj ok
  | v :: rest, _, ok => by
    rw [literals] at ok
    split at ok
    · contradiction
    next _ here =>
      split at ok
      · contradiction
      next _ later =>
        rw [← Except.ok.inj ok, spellings, literal_eq_ok v here, literals_eq_ok rest later]
end

/-! ## Literals and readers -/

theorem isPlain_of_isScalarPart {c : Char} (part : isScalarPart c = true) : isPlain c = true := by
  refine decide_eq_true fun special => ?_
  simp only [List.mem_cons, List.not_mem_nil, or_false] at special
  rcases special with rfl | rfl | rfl | rfl | rfl | rfl <;> simp [isScalarPart] at part

mutual
/-- No text in a value ends its literal early or opens a bracket in it. -/
theorem sealed_spelling : (v : FilterValue) → Sealed v.spelling
  | .bool b => sealed_of_plain (by cases b <;> simp [spelling, isPlain])
  | .int n => by
    refine sealed_of_plain fun c member => isPlain_of_isScalarPart ?_
    rcases mem_integerText member with rfl | digit
    · decide
    · exact isScalarPart_of_isDigit digit
  | .float x => sealed_of_plain fun c member =>
    isPlain_of_isScalarPart (isScalarPart_of_mem_double _ x c member)
  | .text s => .quoteText s
  | .instant t => (sealed_of_plain (by simp [isPlain])).append (.quoteText t.text)
  | .list items =>
    (Sealed.joined (sealed_of_plain (by simp [isPlain])) (sealed_spellings items)).enclosed
      rfl rfl (by decide)
theorem sealed_spellings : (items : List FilterValue) → ∀ text ∈ spellings items, Sealed text
  | [] => nofun
  | v :: rest => List.forall_mem_cons.mpr ⟨sealed_spelling v, sealed_spellings rest⟩
end

/-! ## Literals told apart -/

mutual
/-- The instants in a value. -/
def instants : FilterValue → List Instant
  | .instant t => [t]
  | .list items => instantsIn items
  | _ => []
def instantsIn : List FilterValue → List Instant
  | [] => []
  | v :: rest => instants v ++ instantsIn rest
end

theorem instantsIn_append (items others : List FilterValue) :
    instantsIn (items ++ others) = instantsIn items ++ instantsIn others := by
  induction items with
  | nil => rfl
  | cons v rest ih => rw [List.cons_append, instantsIn, instantsIn, ih, List.append_assoc]

def isWord : FilterValue → Bool
  | .bool _ | .int _ | .float _ => true
  | _ => false

theorem isScalarPart_of_isWord {v : FilterValue} (word : v.isWord = true) :
    ∀ c ∈ v.spelling.toList, isScalarPart c = true := by
  cases v with
  | bool b => cases b <;> simp [spelling, isScalarPart]
  | int n => exact JsonNumber.isScalarPart_of_mem_text (.int n)
  | float x => exact isScalarPart_of_mem_double .literal x
  | text _ | instant _ | list _ => contradiction

/-- Numbers are read as doubles. -/
theorem spelling_ne_of_unreadable {v : FilterValue} (word : v.isWord = true)
    (number : ∀ b, v ≠ .bool b) {other : String} (unreadable : readDouble? other.toList = none) :
    v.spelling ≠ other := by
  rintro rfl
  cases v with
  | bool b => exact number b rfl
  | int n =>
    obtain ⟨x, reads⟩ := JsonNumber.exists_readDouble?_text (.int n)
    exact absurd (reads.symm.trans unreadable) (by simp)
  | float x => exact absurd ((readDouble?_double .literal x).symm.trans unreadable) (by simp)
  | text _ | instant _ | list _ => contradiction

theorem spelling_bool_ne {v : FilterValue} (word : v.isWord = true) (number : ∀ b, v ≠ .bool b)
    (b : Bool) : v.spelling ≠ (FilterValue.bool b).spelling := by
  refine spelling_ne_of_unreadable word number ?_
  cases b <;> rfl

theorem eq_of_spelling_eq {v w : FilterValue} (word : v.isWord = true) (word' : w.isWord = true)
    (same : v.spelling = w.spelling) : v = w := by
  cases v with
  | bool a =>
    cases w with
    | bool b => cases a <;> cases b <;> simp [spelling] at same ⊢
    | int _ | float _ => exact absurd same.symm (spelling_bool_ne word' nofun a)
    | text _ | instant _ | list _ => contradiction
  | int m =>
    cases w with
    | bool b => exact absurd same (spelling_bool_ne word nofun b)
    | int n => rw [integerText_injective same]
    | float y => exact absurd same (integerText_ne_double rfl m y)
    | text _ | instant _ | list _ => contradiction
  | float x =>
    cases w with
    | bool b => exact absurd same (spelling_bool_ne word nofun b)
    | int n => exact absurd same.symm (integerText_ne_double rfl n x)
    | float y => rw [double_injective same]
    | text _ | instant _ | list _ => contradiction
  | text _ | instant _ | list _ => contradiction

/-- The character that opens the literal of a text or of a list. -/
def opening : FilterValue → Option Char
  | .text _ => some '\x27'
  | .list _ => some '['
  | _ => none

/-- The first character of a literal tells a text and a list from what begins as a word. -/
theorem exists_first (v : FilterValue) :
    ∃ c ∈ v.spelling.toList.head?, v.opening = if isScalarPart c then none else some c := by
  by_cases word : v.isWord = true
  · have nonempty : v.spelling.toList ≠ [] := by
      rw [ne_eq, String.toList_eq_nil_iff]
      cases v with
      | bool b => cases b <;> simp [spelling]
      | int _ | float _ => exact spelling_ne_of_unreadable word nofun rfl
      | text _ | instant _ | list _ => contradiction
    obtain ⟨c, cs, split⟩ := List.exists_cons_of_ne_nil nonempty
    have part := isScalarPart_of_isWord word c (split ▸ List.mem_cons_self)
    refine ⟨c, by rw [split]; rfl, ?_⟩
    rw [if_pos part]
    cases v <;> first | rfl | contradiction
  · cases v with
    | text s => exact ⟨'\x27', by simp [spelling, quoteText], rfl⟩
    | instant t => exact ⟨'d', by simp [spelling], rfl⟩
    | list items => exact ⟨'[', by simp [spelling], rfl⟩
    | bool _ | int _ | float _ => exact absurd rfl word

theorem opening_eq_of_append {v w : FilterValue} {rest rest' : List Char}
    (same : v.spelling.toList ++ rest = w.spelling.toList ++ rest') : v.opening = w.opening := by
  obtain ⟨c, first, opens⟩ := exists_first v
  obtain ⟨d, first', opens'⟩ := exists_first w
  obtain ⟨cs, split⟩ := List.head?_eq_some_iff.mp first
  obtain ⟨ds, split'⟩ := List.head?_eq_some_iff.mp first'
  rw [split, split'] at same
  rw [opens, opens', (List.cons.inj same).1]

theorem starts_spelling (v : FilterValue) : Starts (· != ']') v.spelling := by
  obtain ⟨c, first, opens⟩ := exists_first v
  refine ⟨c, first, ?_⟩
  by_contra closes
  obtain rfl : c = ']' := by simpa using closes
  cases v <;> simp [opening, isScalarPart] at opens

/-- A word does not go on as an instant: it would be the letter before the quotes. -/
theorem append_ne_instant {v : FilterValue} (word : v.isWord = true) (t : Instant)
    {rest rest' : List Char} (breaks : Breaks isScalarPart rest) :
    v.spelling.toList ++ rest ≠ (FilterValue.instant t).spelling.toList ++ rest' := by
  have unreadable : readDouble? "d".toList = none := rfl
  have ne_letter : v.spelling ≠ "d" := by
    cases v with
    | bool b => cases b <;> simp [spelling]
    | int _ | float _ => exact spelling_ne_of_unreadable word nofun unreadable
    | text _ | instant _ | list _ => contradiction
  have quoted : ∃ cs, (FilterValue.instant t).spelling.toList ++ rest' = ['d'] ++ '\x27' :: cs :=
    ⟨_, by simp only [spelling, quoteText, String.toList_append, List.append_assoc]; rfl⟩
  obtain ⟨cs, split⟩ := quoted
  rw [split]
  intro same
  have letter : ∀ c ∈ ['d'], isScalarPart c = true := by simp [isScalarPart]
  have quote : Breaks isScalarPart ('\x27' :: cs) := by
    rintro c ⟨⟩
    rfl
  obtain ⟨texts, -⟩ := append_inj_of_breaks (isScalarPart_of_isWord word) letter breaks quote same
  exact ne_letter (String.toList_inj.mp texts)

/-- Timestamps tell the instants on the left from those on the right. -/
def TellApart (ts ts' : List Instant) : Prop :=
  ∀ t ∈ ts, ∀ t' ∈ ts', t.text = t'.text → t = t'

theorem TellApart.of_append {ts us ts' us' : List Instant}
    (apart : TellApart (ts ++ us) (ts' ++ us')) :
    TellApart ts ts' ∧ TellApart us us' := by
  constructor
  · intro t member t' member'
    exact apart t (List.mem_append_left _ member) t' (List.mem_append_left _ member')
  · intro t member t' member'
    exact apart t (List.mem_append_right _ member) t' (List.mem_append_right _ member')

theorem word_append_inj {v w : FilterValue} (word : v.isWord = true) {rest rest' : List Char}
    (breaks : Breaks isScalarPart rest) (breaks' : Breaks isScalarPart rest')
    (same : v.spelling.toList ++ rest = w.spelling.toList ++ rest') : v = w ∧ rest = rest' := by
  by_cases word' : w.isWord = true
  · obtain ⟨texts, rests⟩ := append_inj_of_breaks (isScalarPart_of_isWord word)
      (isScalarPart_of_isWord word') breaks breaks' same
    exact ⟨eq_of_spelling_eq word word' (String.toList_inj.mp texts), rests⟩
  · have opens : w.opening = none := by
      rw [← opening_eq_of_append same]
      cases v <;> first | rfl | contradiction
    cases w with
    | instant t => exact absurd same (append_ne_instant word t breaks)
    | text _ | list _ => contradiction
    | bool _ | int _ | float _ => exact absurd rfl word'

theorem spellings_eq_map : (items : List FilterValue) → spellings items = items.map spelling
  | [] => rfl
  | v :: rest => by rw [spellings, spellings_eq_map rest, List.map_cons]

theorem breaks_behind (items : List FilterValue) (rest : List Char) :
    Breaks isScalarPart (Delimited.behind "," spelling (']' :: rest) items) := by
  cases items <;> (rintro c ⟨⟩; rfl)

/-- With a separator before them, the items of two lists with one literal are those behind
nothing. -/
theorem behind_eq_of_list_append {items items' : List FilterValue} {rest rest' : List Char}
    (same : (list items).spelling.toList ++ rest = (list items').spelling.toList ++ rest') :
    Delimited.behind "," spelling (']' :: rest) items =
      Delimited.behind "," spelling (']' :: rest') items' := by
  -- an item does not begin as the end of a list
  have ends (v : FilterValue) (items : List FilterValue) (rest rest' : List Char) :
      ']' :: rest ≠ v.spelling.toList ++ Delimited.behind "," spelling rest' items := by
    intro same
    have breaks : Breaks (· != ']') (']' :: rest) := by
      rintro c ⟨⟩
      rfl
    exact (starts_spelling v).not_breaks _ (same ▸ breaks)
  have closing (rest : List Char) : "]".toList ++ rest = ']' :: rest := rfl
  simp only [spelling, String.toList_append, List.append_assoc, spellings_eq_map, closing] at same
  have later := List.append_cancel_left same
  cases items with
  | nil =>
    cases items' with
    | nil => exact later
    | cons v' items' =>
      rw [Delimited.toList_joinWith] at later
      exact absurd later (ends v' items' rest _)
  | cons v items =>
    cases items' with
    | nil =>
      rw [Delimited.toList_joinWith] at later
      exact absurd later.symm (ends v items rest' _)
    | cons v' items' =>
      rw [Delimited.toList_joinWith, Delimited.toList_joinWith] at later
      rw [Delimited.behind, Delimited.behind, later]

mutual
/-- A literal of a value, followed by what breaks it off, is not the literal of another value
followed by what breaks that off, where timestamps tell the instants in them apart. -/
theorem spelling_append_inj : (v : FilterValue) → ∀ w, TellApart v.instants w.instants →
    ∀ rest rest', Breaks isScalarPart rest → Breaks isScalarPart rest' →
      v.spelling.toList ++ rest = w.spelling.toList ++ rest' → v = w ∧ rest = rest'
  | .bool b => by
    intro w _ rest rest' breaks breaks' same
    exact word_append_inj (v := .bool b) rfl breaks breaks' same
  | .int n => by
    intro w _ rest rest' breaks breaks' same
    exact word_append_inj (v := .int n) rfl breaks breaks' same
  | .float x => by
    intro w _ rest rest' breaks breaks' same
    exact word_append_inj (v := .float x) rfl breaks breaks' same
  | .text s => by
    intro w _ rest rest' breaks breaks' same
    have opens := opening_eq_of_append same
    cases w with
    | text s' =>
      obtain ⟨rfl, rests⟩ := delimited_quoteText s s' rest rest' breaks breaks' same
      exact ⟨rfl, rests⟩
    | bool _ | int _ | float _ | instant _ | list _ => simp [opening] at opens
  | .instant t => by
    intro w apart rest rest' breaks breaks' same
    have opens := opening_eq_of_append same
    cases w with
    | instant t' =>
      simp only [spelling, String.toList_append, List.append_assoc] at same
      obtain ⟨texts, rests⟩ := delimited_quoteText t.text t'.text rest rest' breaks breaks'
        (List.append_cancel_left same)
      exact ⟨congrArg _ (apart t List.mem_cons_self t' List.mem_cons_self texts), rests⟩
    | bool _ | int _ | float _ => exact absurd same.symm (append_ne_instant rfl t breaks')
    | text _ | list _ => simp [opening] at opens
  | .list items => by
    intro w apart rest rest' breaks breaks' same
    have opens := opening_eq_of_append same
    cases w with
    | list items' =>
      obtain ⟨rfl, rests⟩ := behind_append_inj items items' apart rest rest'
        (behind_eq_of_list_append same)
      exact ⟨rfl, rests⟩
    | bool _ | int _ | float _ | text _ | instant _ => simp [opening] at opens
theorem behind_append_inj : (items : List FilterValue) → ∀ items',
    TellApart (instantsIn items) (instantsIn items') → ∀ rest rest',
      Delimited.behind "," spelling (']' :: rest) items =
        Delimited.behind "," spelling (']' :: rest') items' → items = items' ∧ rest = rest'
  | [] => by
    intro items' _ rest rest' same
    cases items' with
    | nil => exact ⟨rfl, (List.cons.inj same).2⟩
    | cons _ _ => exact absurd (List.cons.inj same).1 (by decide)
  | v :: items => by
    intro items' apart rest rest' same
    cases items' with
    | nil => exact absurd (List.cons.inj same).1 (by decide)
    | cons v' items' =>
      obtain ⟨first, later⟩ := apart.of_append
      obtain ⟨rfl, behind⟩ := spelling_append_inj v v' first _ _ (breaks_behind items rest)
        (breaks_behind items' rest') (List.append_cancel_left same)
      obtain ⟨rfl, rests⟩ := behind_append_inj items items' later rest rest' behind
      exact ⟨rfl, rests⟩
end

end FilterValue
end VectorStore
