import Mathlib.Tactic.SplitIfs
import VectorStore.Literal

/-!
Texts as a reader of the query language scans them. A single quote opens a string, a backslash in
it stands before a character that does not count, and the next quote closes it; round and square
brackets outside strings open and close in turn. A text is sealed if a reader leaves it as he
entered it, outside strings and with the same brackets open, and met no semicolon outside strings
on the way. Whatever is put together from sealed texts is sealed, and a quoted text is.
-/
namespace VectorStore.Text

/-- Where a reader stands; `escaped` is behind a backslash in a string. -/
inductive Place
  | outside
  | inside
  | escaped
  deriving DecidableEq

namespace Place

def next : Place → Char → Place
  | outside, c => if c = '\x27' then inside else outside
  | inside, c => if c = '\\' then escaped else if c = '\x27' then outside else inside
  | escaped, _ => inside

/-- The place behind a text that is entered at a place. -/
def behind (p : Place) (cs : List Char) : Place := cs.foldl next p

/-- The characters that stand outside strings, the quotes aside. -/
def bare (p : Place) : List Char → List Char
  | [] => []
  | c :: rest =>
    if p = outside ∧ c ≠ '\x27' then c :: (p.next c).bare rest else (p.next c).bare rest

theorem behind_append (p : Place) (cs cs' : List Char) :
    p.behind (cs ++ cs') = (p.behind cs).behind cs' :=
  List.foldl_append

theorem bare_append (p : Place) (cs cs' : List Char) :
    p.bare (cs ++ cs') = p.bare cs ++ (p.behind cs).bare cs' := by
  induction cs generalizing p with
  | nil => rfl
  | cons c rest ih =>
    simp only [List.cons_append, bare, ih, behind, List.foldl_cons]
    split <;> rfl

/-- Outside strings stand the characters that a reader meets there. -/
theorem mem_bare {c : Char} (ne : c ≠ '\x27') {p : Place} {cs : List Char} {i : Nat}
    (found : cs[i]? = some c) (place : p.behind (cs.take i) = outside) : c ∈ p.bare cs := by
  induction cs generalizing p i with
  | nil => simp at found
  | cons d rest ih =>
    rw [bare]
    cases i with
    | zero =>
      obtain rfl : d = c := by simpa using found
      rw [if_pos ⟨by simpa [behind] using place, ne⟩]
      exact List.mem_cons_self
    | succ i =>
      have later : c ∈ (p.next d).bare rest := ih (by simpa using found) place
      split
      · exact List.mem_cons_of_mem _ later
      · exact later

end Place

/-! ## Brackets -/

/-- The closing brackets that are due behind a character, the next one first; a bracket that is not
due must not close. -/
def bracket (due : List Char) (c : Char) : Option (List Char) :=
  if c = '(' then some (')' :: due)
  else if c = '[' then some (']' :: due)
  else if c = ')' ∨ c = ']' then
    match due with
    | d :: rest => if d = c then some rest else none
    | [] => none
  else some due

def brackets (due cs : List Char) : Option (List Char) := cs.foldlM bracket due

theorem brackets_append (due cs cs' : List Char) :
    brackets due (cs ++ cs') = (brackets due cs).bind (brackets · cs') := by
  simp [brackets, List.foldlM_append, bind]

theorem bracket_frame {due due' : List Char} {c : Char} (read : bracket due c = some due')
    (outer : List Char) : bracket (due ++ outer) c = some (due' ++ outer) := by
  unfold bracket at read ⊢
  split_ifs at read ⊢ with round square closing
  · obtain rfl := Option.some.inj read
    rfl
  · obtain rfl := Option.some.inj read
    rfl
  · cases due with
    | nil => contradiction
    | cons d rest =>
      dsimp only [List.cons_append] at read ⊢
      split at read
      next same =>
        obtain rfl := Option.some.inj read
        rw [if_pos same]
      · contradiction
  · obtain rfl := Option.some.inj read
    rfl

/-- Brackets that are due further out do not matter until those due further in are closed. -/
theorem brackets_frame {due due' cs : List Char} (read : brackets due cs = some due')
    (outer : List Char) : brackets (due ++ outer) cs = some (due' ++ outer) := by
  induction cs generalizing due with
  | nil =>
    obtain rfl := Option.some.inj read
    rfl
  | cons c rest ih =>
    simp only [brackets, List.foldlM_cons, Option.bind_eq_bind, Option.bind_eq_some_iff] at read ⊢
    obtain ⟨between, first, later⟩ := read
    exact ⟨_, bracket_frame first outer, ih later⟩

/-- What is read of a text is read of the parts before it. -/
theorem exists_brackets_of_prefix {due due' cs part : List Char}
    (read : brackets due cs = some due')
    (inFront : part <+: cs) : ∃ between, brackets due part = some between := by
  obtain ⟨rest, rfl⟩ := inFront
  rw [brackets_append, Option.bind_eq_some_iff] at read
  exact read.imp fun _ first => first.1

/-! ## Sealed texts -/

structure Sealed (text : String) : Prop where
  place : Place.outside.behind text.toList = .outside
  semicolon : ';' ∉ Place.outside.bare text.toList
  brackets : brackets [] (Place.outside.bare text.toList) = some []

/-- The characters that mean nothing to a reader outside strings. -/
def isPlain (c : Char) : Bool := c ∉ ['\x27', ';', '(', ')', '[', ']']

theorem sealed_of_plain {text : String} (each : ∀ c ∈ text.toList, isPlain c = true) :
    Sealed text := by
  have scanned : ∀ cs : List Char, (∀ c ∈ cs, isPlain c = true) →
      Place.outside.behind cs = .outside ∧ Place.outside.bare cs = cs ∧
        Text.brackets [] cs = some [] := by
    intro cs each
    induction cs with
    | nil => exact ⟨rfl, rfl, rfl⟩
    | cons c rest ih =>
      obtain ⟨plain, later⟩ := List.forall_mem_cons.mp each
      obtain ⟨place, bare, brackets⟩ := ih later
      simp only [isPlain, List.mem_cons, List.not_mem_nil, or_false, decide_eq_true_eq,
        not_or] at plain
      have stays : Place.outside.next c = .outside := if_neg plain.1
      have shut : bracket [] c = some [] := by simp [bracket, plain]
      refine ⟨?_, ?_, ?_⟩
      · rwa [Place.behind, List.foldl_cons, stays]
      · rw [Place.bare, if_pos ⟨rfl, plain.1⟩, stays, bare]
      · rwa [Text.brackets, List.foldlM_cons, shut]
  obtain ⟨place, bare, brackets⟩ := scanned text.toList each
  refine ⟨place, fun member => ?_, bare.symm ▸ brackets⟩
  rw [bare] at member
  have := each ';' member
  contradiction

namespace Sealed

variable {text text' : String}

theorem append (first : Sealed text) (second : Sealed text') : Sealed (text ++ text') where
  place := by rw [String.toList_append, Place.behind_append, first.place, second.place]
  semicolon := by
    rw [String.toList_append, Place.bare_append, first.place, List.mem_append, not_or]
    exact ⟨first.semicolon, second.semicolon⟩
  brackets := by
    rw [String.toList_append, Place.bare_append, first.place, brackets_append, first.brackets,
      Option.bind_some, second.brackets]

/-- A sealed text between brackets that match. -/
theorem enclosed {opening closing : String} {left right : Char} (sealed : Sealed text)
    (opens : opening.toList = [left]) (closes : closing.toList = [right])
    (pair : (left, right) ∈ [('(', ')'), ('[', ']')]) : Sealed (opening ++ text ++ closing) := by
  have scanned : Place.outside.next left = .outside ∧ Place.outside.next right = .outside ∧
      Place.outside.bare [left] = [left] ∧ Place.outside.bare [right] = [right] ∧
      bracket [] left = some [right] ∧ bracket [right] right = some [] ∧
      left ≠ ';' ∧ right ≠ ';' := by
    simp only [List.mem_cons, Prod.mk.injEq, List.not_mem_nil, or_false] at pair
    rcases pair with ⟨rfl, rfl⟩ | ⟨rfl, rfl⟩ <;> decide
  obtain ⟨entered, left', bareLeft, bareRight, opened, closed, notLeft, notRight⟩ := scanned
  have bare : Place.outside.bare (opening ++ text ++ closing).toList =
      left :: (Place.outside.bare text.toList ++ [right]) := by
    simp only [String.toList_append, opens, closes, Place.bare_append, bareLeft,
      Place.behind_append]
    rw [show Place.outside.behind [left] = .outside from entered, sealed.place, bareRight]
    rfl
  refine ⟨?_, ?_, ?_⟩
  · simp only [String.toList_append, opens, closes, Place.behind_append]
    rw [show Place.outside.behind [left] = .outside from entered, sealed.place]
    exact left'
  · rw [bare]
    simp [sealed.semicolon, Ne.symm notLeft, Ne.symm notRight]
  · rw [bare, Text.brackets, List.foldlM_cons, opened, Option.bind_eq_bind, Option.bind_some,
      ← Text.brackets, brackets_append, ← List.nil_append [right],
      brackets_frame sealed.brackets [right]]
    simpa [Text.brackets] using closed

theorem joined {separator : String} (between : Sealed separator) :
    {texts : List String} → (∀ text ∈ texts, Sealed text) → Sealed (joinWith separator texts)
  | [], _ => sealed_of_plain (by simp [joinWith])
  | [text], each => each text List.mem_cons_self
  | text :: next :: rest, each => by
    obtain ⟨first, later⟩ := List.forall_mem_cons.mp each
    exact (first.append between).append (joined between later)

/-- The escaped characters of a text keep a reader in the string, where nothing counts. -/
theorem behind_escapeQuoted (cs : List Char) :
    Place.inside.behind (escapeQuoted cs) = .inside ∧ Place.inside.bare (escapeQuoted cs) = [] := by
  induction cs with
  | nil => exact ⟨rfl, rfl⟩
  | cons c rest ih =>
    rw [escapeQuoted]
    split
    · exact ih
    next ordinary =>
      rw [not_or] at ordinary
      have stays : Place.inside.next c = .inside := by simp [Place.next, ordinary]
      simpa [Place.behind, Place.bare, stays] using ih

/-- What stands between two quotes does not count, if no quote or backslash is in it or all are
escaped. -/
theorem quoted {inner : List Char} (place : Place.inside.behind inner = .inside)
    (bare : Place.inside.bare inner = []) : Sealed ("'" ++ String.ofList inner ++ "'") := by
  have scanned : Place.outside.bare ("'" ++ String.ofList inner ++ "'").toList = [] := by
    simp only [String.toList_append, String.toList_ofList, Place.bare_append, Place.behind_append]
    rw [show Place.outside.behind "'".toList = .inside from rfl, place, bare]
    rfl
  refine ⟨?_, ?_, ?_⟩
  · simp only [String.toList_append, String.toList_ofList, Place.behind_append]
    rw [show Place.outside.behind "'".toList = .inside from rfl, place]
    rfl
  · rw [scanned]
    exact List.not_mem_nil
  · rw [scanned]
    rfl

theorem quoteText (s : String) : Sealed (quoteText s) :=
  quoted (behind_escapeQuoted s.toList).1 (behind_escapeQuoted s.toList).2

end Sealed

/-! ## Semicolons -/

/-- Outside strings a reader meets a character at an index. -/
def MeetsAt (cs : List Char) (c : Char) (i : Nat) : Prop :=
  cs[i]? = some c ∧ Place.outside.behind (cs.take i) = .outside

/-- Before the semicolon behind a sealed text a reader meets no other. -/
theorem Sealed.meetsAt_iff {text : String} (sealed : Sealed text) (rest : List Char) (i : Nat) :
    MeetsAt (text.toList ++ [';'] ++ rest) ';' i ↔
      i = text.toList.length ∨ ∃ j, i = text.toList.length + 1 + j ∧ MeetsAt rest ';' j := by
  have place : Place.outside.behind (text.toList ++ [';']) = .outside := by
    rw [Place.behind_append, sealed.place]
    rfl
  have length : (text.toList ++ [';']).length = text.toList.length + 1 := by simp
  have beyond (j : Nat) : MeetsAt (text.toList ++ [';'] ++ rest) ';' (text.toList.length + 1 + j) ↔
      MeetsAt rest ';' j := by
    rw [← length, MeetsAt, List.getElem?_append_right (Nat.le_add_right ..),
      Nat.add_sub_cancel_left, List.take_length_add_append, Place.behind_append, place, MeetsAt]
  constructor
  · intro meets
    rcases Nat.lt_trichotomy i text.toList.length with less | same | greater
    · obtain ⟨found, outside⟩ := meets
      rw [List.append_assoc, List.getElem?_append_left less] at found
      rw [List.append_assoc, List.take_append_of_le_length (Nat.le_of_lt less)] at outside
      exact absurd (Place.mem_bare (by decide) found outside) sealed.semicolon
    · exact .inl same
    · obtain ⟨j, rfl⟩ := Nat.exists_eq_add_of_le (Nat.succ_le_of_lt greater)
      exact .inr ⟨j, rfl, (beyond j).mp meets⟩
  · rintro (rfl | ⟨j, rfl, later⟩)
    · rw [MeetsAt, List.append_assoc, List.take_left]
      exact ⟨by simp, sealed.place⟩
    · exact (beyond j).mpr later

/-- A sealed text with a semicolon behind it does not matter to what follows. -/
theorem Sealed.behind_line {text : String} (sealed : Sealed text) (rest : List Char) :
    Place.outside.behind (text.toList ++ [';'] ++ rest) = Place.outside.behind rest ∧
      Text.brackets [] (Place.outside.bare (text.toList ++ [';'] ++ rest)) =
        Text.brackets [] (Place.outside.bare rest) := by
  have place : Place.outside.behind (text.toList ++ [';']) = .outside := by
    rw [Place.behind_append, sealed.place]
    rfl
  have due : Text.brackets [] (Place.outside.bare (text.toList ++ [';'])) = some [] := by
    rw [Place.bare_append, sealed.place, brackets_append, sealed.brackets]
    rfl
  constructor
  · rw [Place.behind_append, place]
  · rw [Place.bare_append, place, brackets_append, due, Option.bind_some]

/-! ## Brackets that are closed -/

/-- The closing brackets that are due behind the first characters of a text. -/
def dueAt (cs : List Char) (i : Nat) : Option (List Char) :=
  Text.brackets [] (Place.outside.bare (cs.take i))

/-- A bracket that opens at an index is closed at another: up to there it stays due, and behind it
those alone are due that were due before. -/
def ClosedAt (cs : List Char) (i j : Nat) : Prop :=
  i < j ∧ ∃ d outer, dueAt cs i = some outer ∧ dueAt cs (j + 1) = some outer ∧
    ∀ k, i < k → k ≤ j → ∃ inner, dueAt cs k = some (inner ++ d :: outer)

section
variable {text : String} (sealed : Sealed text) {front outer : List Char}
  (place : Place.outside.behind front = .outside)
  (read : Text.brackets [] (Place.outside.bare front) = some outer)
include sealed place read

theorem exists_dueAt_within (rest : List Char) {n : Nat} (le : n ≤ text.toList.length) :
    ∃ inner, dueAt (front ++ '(' :: (text.toList ++ ')' :: rest)) (front.length + 1 + n) =
      some (inner ++ ')' :: outer) := by
  have part : Place.outside.bare (text.toList.take n) <+: Place.outside.bare text.toList := by
    refine ⟨(Place.outside.behind (text.toList.take n)).bare (text.toList.drop n), ?_⟩
    rw [← Place.bare_append, List.take_append_drop]
  obtain ⟨inner, due⟩ := exists_brackets_of_prefix sealed.brackets part
  have read' : (front ++ '(' :: (text.toList ++ ')' :: rest)).take (front.length + 1 + n) =
      front ++ ['('] ++ text.toList.take n := by
    rw [Nat.add_assoc, List.take_length_add_append, Nat.add_comm 1, List.take_succ_cons,
      List.take_append_of_le_length le, List.append_assoc]
    rfl
  have entered : Place.outside.behind (front ++ ['(']) = .outside := by
    rw [Place.behind_append, place]
    rfl
  have opened : brackets [] (Place.outside.bare (front ++ ['('])) = some (')' :: outer) := by
    rw [Place.bare_append, place, brackets_append, read]
    rfl
  refine ⟨inner, ?_⟩
  rw [dueAt, read', Place.bare_append, entered, brackets_append, opened, Option.bind_some]
  exact brackets_frame due (')' :: outer)

theorem dueAt_behind (rest : List Char) :
    dueAt (front ++ '(' :: (text.toList ++ ')' :: rest))
      (front.length + 1 + text.toList.length + 1) = some outer := by
  have group : Sealed ("(" ++ text ++ ")") := sealed.enclosed rfl rfl (by decide)
  have read' : (front ++ '(' :: (text.toList ++ ')' :: rest)).take
      (front.length + 1 + text.toList.length + 1) = front ++ ("(" ++ text ++ ")").toList := by
    rw [Nat.add_assoc, Nat.add_assoc, List.take_length_add_append, Nat.add_comm 1,
      List.take_succ_cons, List.take_length_add_append, List.take_succ_cons, List.take_zero,
      String.toList_append, String.toList_append, List.append_assoc]
    rfl
  rw [dueAt, read', Place.bare_append, place, brackets_append, read, Option.bind_some]
  exact brackets_frame group.brackets outer

/-- Parentheses around a sealed text are closed behind it, and nowhere else. -/
theorem Sealed.closedAt_iff (rest : List Char) (j : Nat) :
    ClosedAt (front ++ '(' :: (text.toList ++ ')' :: rest)) front.length j ↔
      j = front.length + 1 + text.toList.length := by
  have before : dueAt (front ++ '(' :: (text.toList ++ ')' :: rest)) front.length = some outer := by
    rw [dueAt, List.take_left, read]
  have behind := dueAt_behind sealed place read rest
  constructor
  · rintro ⟨less, d, outer', before', behind', stays⟩
    obtain rfl : outer' = outer := Option.some.inj (before'.symm.trans before)
    -- any earlier the parenthesis is still due, and any later it was not due all the while
    rcases Nat.lt_trichotomy j (front.length + 1 + text.toList.length) with short | same | long
    · obtain ⟨n, rfl⟩ := Nat.exists_eq_add_of_le (Nat.succ_le_of_lt less)
      obtain ⟨inner, due⟩ := exists_dueAt_within sealed place read rest (n := n + 1) (by omega)
      have lengths := congrArg List.length (Option.some.inj (due.symm.trans behind'))
      simp only [List.length_append, List.length_cons] at lengths
      omega
    · exact same
    · obtain ⟨inner, due⟩ := stays _ (by omega) (Nat.succ_le_of_lt long)
      have lengths := congrArg List.length (Option.some.inj (due.symm.trans behind))
      simp only [List.length_append, List.length_cons] at lengths
      omega
  · rintro rfl
    refine ⟨by omega, ')', outer, before, behind, fun k less le => ?_⟩
    obtain ⟨n, rfl⟩ := Nat.exists_eq_add_of_le (Nat.succ_le_of_lt less)
    exact exists_dueAt_within sealed place read rest (by omega)

end

end VectorStore.Text
