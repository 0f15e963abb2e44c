import VectorStore.Error
import VectorStore.Number.Reading

/-!
Grouping of texts for a model with an input limit. A group is a stretch of neighbouring texts. How
texts are grouped is open; by tokens, the estimates of a group fit the budget together, and a group
is closed only when the next text would not fit.
-/
namespace VectorStore

/-- Divides texts into groups, as half-open ranges of their indices, which are to follow one another
over all texts; fails if a text fits no group. -/
abbrev Grouping := List String → Except Error (List (Nat × Nat))

/-- A token limit and the share of it, between zero and one, that is kept free. -/
structure Batching where
  maxTokens : Nat
  reserve : Float

namespace Batching

/-- A limit with a share kept free: a share that is no number is a tenth, one out of bounds is
the nearest bound. -/
def ofLimit (maxTokens : Nat) (reserve : Float) : Batching :=
  ⟨maxTokens,
    if reserve.isNaN then 0.1 else if reserve < 0.0 then 0.0 else if 1.0 < reserve then 1.0
    else reserve⟩
/-- The limit of the common embedding models. -/
def standard : Batching := ofLimit 8191 0.1

/-- The tokens that a group may need. -/
def budget (b : Batching) : Nat :=
  wholePart sizeBound (doubleOfInt b.maxTokens * (1.0 - b.reserve))

/-- A guess at the tokens of a text: four characters make one. -/
def estimate (text : String) : Nat := (text.toList.length + 3) / 4

/-- The groups of texts with given tokens, as half-open ranges: the group being formed begins at
`start`, uses `used` tokens and ends before `index`. -/
def ranges (budget start used index : Nat) : List Nat → Except Error (List (Nat × Nat))
  | [] => .ok (if start < index then [(start, index)] else [])
  | tokens :: rest =>
    if budget < tokens then .error (.invalidInput (.longText index tokens budget))
    else if budget < used + tokens ∧ start < index then
      (ranges budget index tokens (index + 1) rest).map ((start, index) :: ·)
    else ranges budget start (used + tokens) (index + 1) rest

/-- The groups of texts, as half-open ranges; fails on the first text above the budget. -/
def partition (b : Batching) (texts : List String) : Except Error (List (Nat × Nat)) :=
  ranges b.budget 0 0 0 (texts.map estimate)

instance : CoeFun Batching fun _ => Grouping := ⟨partition⟩

end Batching
end VectorStore
