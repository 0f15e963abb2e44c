import Mathlib.Logic.Function.Basic
import VectorStore.Text.Basic

/-!
Texts that can be told from what follows them. A value is delimited if its text, followed by
something that breaks it off, is not another value's text followed by something that breaks that
off. Words are, escaped texts are, and pairs and lists with separators are where their parts are.
-/
namespace VectorStore.Text

variable {α β γ : Type} {word word' : Char → Bool}

/-- What breaks off a text whose characters are in a class: nothing, or a character of another
class. -/
def Breaks (word : Char → Bool) (rest : List Char) : Prop := ∀ c ∈ rest.head?, word c = false

/-- A text that begins with a character outside a class. -/
def Stops (word : Char → Bool) (text : String) : Prop := ∃ c ∈ text.toList.head?, word c = false

/-- A text that begins with a character of a class. -/
def Starts (word : Char → Bool) (text : String) : Prop := ∃ c ∈ text.toList.head?, word c = true

/-- The text of a value, followed by what breaks it off, is not the text of another value followed
by what breaks that off, and what follows is the same. -/
def Delimited (word : Char → Bool) (write : α → String) (a : α) : Prop :=
  ∀ b rest rest', Breaks word rest → Breaks word rest' →
    (write a).toList ++ rest = (write b).toList ++ rest' → a = b ∧ rest = rest'

/-- The class without characters, which anything breaks off. -/
def nowhere (_ : Char) : Bool := false

theorem breaks_nil (word : Char → Bool) : Breaks word [] := nofun

theorem Breaks.head {c : Char} {rest : List Char} (breaks : Breaks word (c :: rest)) :
    word c = false := breaks c rfl

theorem Breaks.mono (within : ∀ c, word c = true → word' c = true) {rest : List Char}
    (breaks : Breaks word' rest) : Breaks word rest := by
  intro c first
  have outside := breaks c first
  by_contra inside
  rw [within c (by simpa using inside)] at outside
  contradiction

theorem Stops.breaks {text : String} (stops : Stops word text) (rest : List Char) :
    Breaks word (text.toList ++ rest) := by
  obtain ⟨c, first, outside⟩ := stops
  obtain ⟨cs, split⟩ := List.head?_eq_some_iff.mp first
  rw [split]
  rintro d ⟨⟩
  exact outside

theorem Starts.not_breaks {text : String} (starts : Starts word text) (rest : List Char) :
    ¬ Breaks word (text.toList ++ rest) := by
  obtain ⟨c, first, inside⟩ := starts
  obtain ⟨cs, split⟩ := List.head?_eq_some_iff.mp first
  rw [split]
  intro breaks
  rw [breaks.head] at inside
  contradiction

theorem Starts.append {text : String} (starts : Starts word text) (rest : String) :
    Starts word (text ++ rest) := by
  obtain ⟨c, first, inside⟩ := starts
  obtain ⟨cs, split⟩ := List.head?_eq_some_iff.mp first
  exact ⟨c, by rw [String.toList_append, split]; rfl, inside⟩

/-- A character of a class is no character outside it. -/
theorem bne_of_outside {c d : Char} (inside : word c = true) (outside : word d = false) :
    (c != d) = true := by
  refine bne_iff_ne.mpr ?_
  rintro rfl
  rw [outside] at inside
  contradiction

/-! ## Words -/

theorem append_inj_of_breaks {cs cs' rest rest' : List Char} (each : ∀ c ∈ cs, word c = true)
    (each' : ∀ c ∈ cs', word c = true) (breaks : Breaks word rest) (breaks' : Breaks word rest')
    (same : cs ++ rest = cs' ++ rest') : cs = cs' ∧ rest = rest' := by
  induction cs generalizing cs' with
  | nil =>
    cases cs' with
    | nil => exact ⟨rfl, same⟩
    | cons c' cs' =>
      subst same
      have inside := each' c' List.mem_cons_self
      rw [breaks.head] at inside
      contradiction
  | cons c cs ih =>
    cases cs' with
    | nil =>
      subst same
      have inside := each c List.mem_cons_self
      rw [breaks'.head] at inside
      contradiction
    | cons c' cs' =>
      obtain ⟨rfl, later⟩ := List.cons.inj same
      obtain ⟨rfl, rests⟩ := ih (fun d member => each d (List.mem_cons_of_mem _ member))
        (fun d member => each' d (List.mem_cons_of_mem _ member)) later
      exact ⟨rfl, rests⟩

/-- Words are delimited by what is in no word. -/
theorem delimited_of_word {write : α → String} (injective : Function.Injective write)
    (each : ∀ a, ∀ c ∈ (write a).toList, word c = true) (a : α) : Delimited word write a := by
  intro b rest rest' breaks breaks' same
  obtain ⟨texts, rests⟩ := append_inj_of_breaks (each a) (each b) breaks breaks' same
  exact ⟨injective (String.toList_inj.mp texts), rests⟩

/-! ## Escaped texts -/

/-- The characters of a text with a backslash before the closing character and before every
backslash. -/
def escapeWith (close : Char) : List Char → List Char
  | [] => []
  | c :: rest =>
    if c = close ∨ c = '\\' then '\\' :: c :: escapeWith close rest
    else c :: escapeWith close rest

/-- Up to the closing character, an escaped text goes on with one of its own characters. -/
theorem escapeWith_append_inj {close : Char} (ne : close ≠ '\\') {cs cs' rest rest' : List Char}
    (breaks : Breaks (· != close) rest) (breaks' : Breaks (· != close) rest')
    (same : escapeWith close cs ++ rest = escapeWith close cs' ++ rest') :
    cs = cs' ∧ rest = rest' := by
  -- what an escaped text goes on with does not break it off
  have open_cons (c : Char) (cs rest : List Char) :
      ¬ Breaks (· != close) (escapeWith close (c :: cs) ++ rest) := by
    intro breaks
    rw [escapeWith] at breaks
    split at breaks
    · have := breaks.head
      simp [Ne.symm ne] at this
    next plain =>
      have := breaks.head
      simp_all
  induction cs generalizing cs' with
  | nil =>
    cases cs' with
    | nil => exact ⟨rfl, same⟩
    | cons c' cs' => exact absurd (same ▸ breaks) (open_cons c' cs' rest')
  | cons c cs ih =>
    cases cs' with
    | nil => exact absurd (same ▸ breaks') (open_cons c cs rest)
    | cons c' cs' =>
      rw [escapeWith, escapeWith] at same
      split at same <;> split at same
      · obtain ⟨rfl, later⟩ := List.cons.inj (List.cons.inj same).2
        obtain ⟨rfl, rests⟩ := ih later
        exact ⟨rfl, rests⟩
      next special plain => exact absurd (.inr (List.cons.inj same).1.symm) plain
      next plain special => exact absurd (.inr (List.cons.inj same).1) plain
      · obtain ⟨rfl, later⟩ := List.cons.inj same
        obtain ⟨rfl, rests⟩ := ih later
        exact ⟨rfl, rests⟩

theorem delimited_escapeWith {close : Char} (ne : close ≠ '\\') (s : String) :
    Delimited (· != close) (fun s => String.ofList (escapeWith close s.toList)) s := by
  intro t rest rest' breaks breaks' same
  simp only [String.toList_ofList] at same
  obtain ⟨texts, rests⟩ := escapeWith_append_inj ne breaks breaks' same
  exact ⟨String.toList_inj.mp texts, rests⟩

/-! ## Composed texts -/

namespace Delimited

variable {f : α → String} {g : β → String} {a : α} {b : β}

theorem comap {e : γ → α} (injective : Function.Injective e) {c : γ}
    (delimited : Delimited word f (e c)) : Delimited word (fun c => f (e c)) c := by
  intro c' rest rest' breaks breaks' same
  exact (delimited (e c') rest rest' breaks breaks' same).imp_left (@injective c c')

/-- A text after an opening one. -/
theorem opened (opening : String) (delimited : Delimited word f a) :
    Delimited word (fun a => opening ++ f a) a := by
  intro a' rest rest' breaks breaks' same
  refine delimited a' rest rest' breaks breaks' ?_
  simpa using same

/-- A text before one that breaks it off is delimited whatever follows. -/
theorem closed {closing : String} (stops : Stops word closing) (delimited : Delimited word f a) :
    Delimited word' (fun a => f a ++ closing) a := by
  intro a' rest rest' _ _ same
  simp only [String.toList_append, List.append_assoc] at same
  obtain ⟨rfl, rests⟩ := delimited a' _ _ (stops.breaks rest) (stops.breaks rest') same
  exact ⟨rfl, List.append_cancel_left rests⟩

/-- Two texts with a separator that breaks off the first. -/
theorem pair {separator : String} (stops : Stops word separator) (first : Delimited word f a)
    (second : Delimited word' g b) :
    Delimited word' (fun p : α × β => f p.1 ++ separator ++ g p.2) (a, b) := by
  rintro ⟨a', b'⟩ rest rest' breaks breaks' same
  simp only [String.toList_append, List.append_assoc] at same
  obtain ⟨rfl, behind⟩ := first a' _ _ (stops.breaks _) (stops.breaks _) same
  obtain ⟨rfl, rests⟩ := second b' rest rest' breaks breaks' (List.append_cancel_left behind)
  exact ⟨rfl, rests⟩

/-! ### Lists -/

/-- What follows the first of some texts with separators. -/
def behind (separator : String) (f : α → String) (rest : List Char) : List α → List Char
  | [] => rest
  | a :: as => separator.toList ++ ((f a).toList ++ behind separator f rest as)

theorem toList_joinWith (separator : String) (f : α → String) (rest : List Char) (a : α)
    (as : List α) :
    (joinWith separator ((a :: as).map f)).toList ++ rest =
      (f a).toList ++ behind separator f rest as := by
  induction as generalizing a with
  | nil => rfl
  | cons b as ih =>
    rw [behind, ← ih b]
    simp [joinWith]

section
variable {separator : String} {as : List α} (items : ∀ a ∈ as, Delimited word f a)
  (stops : Stops word separator) (within : ∀ c, word c = true → word' c = true)
  (goesOn : Starts word' separator)
include items stops within goesOn

/-- What follows an item breaks it off, so items are read off one by one. -/
theorem behind_inj {as' : List α} {rest rest' : List Char} (breaks : Breaks word' rest)
    (breaks' : Breaks word' rest')
    (same : behind separator f rest as = behind separator f rest' as') :
    as = as' ∧ rest = rest' := by
  have breaksItem (as : List α) {rest : List Char} (breaks : Breaks word' rest) :
      Breaks word (behind separator f rest as) := by
    cases as with
    | nil => exact breaks.mono within
    | cons a as => exact stops.breaks _
  induction as generalizing as' with
  | nil =>
    cases as' with
    | nil => exact ⟨rfl, same⟩
    | cons a' as' =>
      rw [behind] at same
      exact absurd (same ▸ breaks) (goesOn.not_breaks _)
  | cons a as ih =>
    cases as' with
    | nil =>
      rw [behind, behind] at same
      exact absurd (same ▸ breaks') (goesOn.not_breaks _)
    | cons a' as' =>
      obtain ⟨rfl, later⟩ := items a List.mem_cons_self a' _ _ (breaksItem as breaks)
        (breaksItem as' breaks') (List.append_cancel_left same)
      obtain ⟨rfl, rests⟩ := ih (fun a member => items a (List.mem_cons_of_mem _ member)) later
      exact ⟨rfl, rests⟩

/-- Texts with a separator that breaks them off, where what follows the last one begins neither as
one of them nor as the separator. -/
theorem join (starts : ∀ a, Starts word' (f a)) :
    Delimited word' (fun as => joinWith separator (as.map f)) as := by
  intro as' rest rest' breaks breaks' same
  dsimp only at same
  cases as with
  | nil =>
    cases as' with
    | nil => exact ⟨rfl, same⟩
    | cons a' as' =>
      rw [toList_joinWith] at same
      change rest = _ at same
      exact absurd (same ▸ breaks) ((starts a').not_breaks _)
  | cons a as =>
    cases as' with
    | nil =>
      rw [toList_joinWith] at same
      change _ = rest' at same
      exact absurd (same ▸ breaks') ((starts a).not_breaks _)
    | cons a' as' =>
      -- with the separator before them, the items are those behind nothing
      have later : behind separator f rest (a :: as) = behind separator f rest' (a' :: as') := by
        rw [behind, behind, ← toList_joinWith, ← toList_joinWith, same]
      exact behind_inj items stops within goesOn breaks breaks' later

end

end Delimited

end VectorStore.Text
