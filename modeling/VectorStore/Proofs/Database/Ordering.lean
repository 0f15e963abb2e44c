import Mathlib
import VectorStore.Database.Basic
import VectorStore.Proofs.Database.Ranking

/-!
The order of `ORDER BY`. Optional values of every kind are compared first by the numbers they are
and then by the texts they are, so that the comparison is a total preorder (`valueOrder`), and so
is that of rows by a column in either direction. A selection sorts its rows by it and keeps the
order of rows that tie (`Database.ordered_by_total_preorder`).
-/
namespace VectorStore
open Std

/-- The order of two optional values: numbers by the total order of doubles, above everything else,
and texts above what is neither. -/
def valueOrder (a b : Option Json) : Ordering :=
  match a.bind Json.double?, b.bind Json.double? with
  | some x, some y => compare (totalKey x) (totalKey y)
  | some _, none => .gt
  | none, some _ => .lt
  | none, none => compare (a.bind Json.string?) (b.bind Json.string?)

/-- The place of a number in the order of doubles. -/
def numberKey? (a : Option Json) : Option Int := (a.bind Json.double?).map totalKey

/-- The text that a value is. -/
def textKey? (a : Option Json) : Option String := a.bind Json.string?

theorem textKey?_of_number {a : Option Json} {x : Float} (number : a.bind Json.double? = some x) :
    textKey? a = none := by
  obtain ⟨j, rfl, double⟩ := Option.bind_eq_some_iff.mp number
  cases j <;> first | rfl | contradiction

/-- Values are compared by their numbers, and those without by their texts. -/
theorem valueOrder_eq (a b : Option Json) : valueOrder a b =
    compareLex (compareOn numberKey?) (compareOn textKey?) a b := by
  unfold valueOrder compareLex compareOn numberKey?
  cases left : a.bind Json.double? with
  | none =>
    cases right : b.bind Json.double? with
    | none => rfl
    | some y => rfl
  | some x =>
    cases right : b.bind Json.double? with
    | none => rfl
    | some y =>
      rw [textKey?_of_number left, textKey?_of_number right]
      change _ = (compare (totalKey x) (totalKey y)).then .eq
      rw [Ordering.then_eq]

instance : TransCmp valueOrder := by
  have same : valueOrder = compareLex (compareOn numberKey?) (compareOn textKey?) :=
    funext fun a => funext (valueOrder_eq a)
  rw [same]
  infer_instance

theorem valueOrder_swap (a b : Option Json) : valueOrder b a = (valueOrder a b).swap :=
  OrientedCmp.eq_swap

theorem isLE_compare_text (s t : String) : (compare s t).isLE = !decide (t < s) := by
  rw [Bool.eq_iff_iff, Bool.not_eq_true', decide_eq_false_iff_not, String.not_lt]
  exact isLE_compareOfLessAndEq String.le_antisymm String.not_le String.le_total

namespace SortKey

/-- What a value counts for, by the number and the text that it is. -/
inductive Stands (a : Option Json) : Prop
  | number (x : Float) (number : a.bind Json.double? = some x)
      (key : ofValue a = .number (totalKey x))
  | text (s : String) (noNumber : a.bind Json.double? = none)
      (text : a.bind Json.string? = some s) (key : ofValue a = .text s)
  | other (noNumber : a.bind Json.double? = none) (noText : a.bind Json.string? = none)
      (key : ofValue a = .other)

theorem stands : (a : Option Json) → Stands a
  | some (.number n) => .number n.toDouble rfl rfl
  | some (.string s) => .text s rfl rfl rfl
  | none | some .null | some (.bool _) | some (.array _) | some (.object _) => .other rfl rfl rfl

/-- Sorting goes by the order of values. -/
theorem le_ofValue (a b : Option Json) :
    (ofValue a).le (ofValue b) = (valueOrder a b).isLE := by
  unfold valueOrder
  cases stands a with
  | number x number key =>
    rw [number, key]
    cases stands b with
    | number y number' key' =>
      rw [number', key']
      exact Bool.eq_iff_iff.mpr (by simp [le, isLE_compare])
    | text s noNumber text key' => rw [noNumber, key']; rfl
    | other noNumber noText key' => rw [noNumber, key']; rfl
  | text s noNumber text key =>
    rw [noNumber, text, key]
    cases stands b with
    | number y number' key' => rw [number', key']; rfl
    | text t noNumber' text' key' =>
      rw [noNumber', text', key']
      exact (isLE_compare_text s t).symm
    | other noNumber' noText' key' => rw [noNumber', noText', key']; rfl
  | other noNumber noText key =>
    rw [noNumber, noText, key]
    cases stands b with
    | number y number' key' => rw [number']; rfl
    | text t noNumber' text' key' => rw [noNumber', text']; rfl
    | other noNumber' noText' key' => rw [noNumber', noText']; rfl

end SortKey

/-- The order of two rows by a column. -/
def OrderBy.order (o : OrderBy) (a b : Fields) : Ordering :=
  let upward := valueOrder (a.find? o.field.text) (b.find? o.field.text)
  if o.descending then upward.swap else upward

theorem OrderBy.order_swap (o : OrderBy) (a b : Fields) : o.order b a = (o.order a b).swap := by
  unfold OrderBy.order
  rw [valueOrder_swap (a.find? o.field.text)]
  split <;> rfl

instance (o : OrderBy) : TransCmp o.order where
  eq_swap := o.order_swap _ _
  isLE_trans := by
    intro a b c first second
    unfold OrderBy.order at *
    cases down : o.descending with
    | true =>
      simp only [down, if_true, ← valueOrder_swap] at *
      exact TransCmp.isLE_trans second first
    | false =>
      simp only [down, Bool.false_eq_true, if_false] at *
      exact TransCmp.isLE_trans first second

namespace Database

/-- A selection in an order is the selection in none, sorted and cut to the limit. -/
theorem selectRows_orderBy (db : Database) (bindings : Bindings) (s : Selection) (o : OrderBy) :
    db.selectRows bindings { s with orderBy := some o } =
      (db.selectRows bindings { s with orderBy := none, limit := none }).map fun rows =>
        s.limit.elim (ordered o rows) (ordered o rows).take := by
  have outputs (rows : List Candidate) : outputRows bindings { s with orderBy := some o } rows =
      outputRows bindings { s with orderBy := none, limit := none } rows := by
    induction rows with
    | nil => rfl
    | cons row rest ih =>
      rw [outputRows, outputRows, ih]
      rfl
  have candidates : db.candidates bindings { s with orderBy := some o } =
    db.candidates bindings { s with orderBy := none, limit := none } := rfl
  rw [selectRows, selectRows, candidates]
  cases db.candidates bindings { s with orderBy := none, limit := none } with
  | error fault => rfl
  | ok rows =>
    dsimp only
    rw [outputs]
    cases outputRows bindings { s with orderBy := none, limit := none } rows with
    | error fault => rfl
    | ok rows => cases s.limit <;> rfl

/-- Sorting rows compares them by the column. -/
theorem ordered_eq_mergeSort (o : OrderBy) (rows : List Fields) :
    ordered o rows = rows.mergeSort fun a b => (o.order a b).isLE := by
  have compares : (fun a b : Fields => if o.descending
        then (SortKey.ofValue (b.find? o.field.text)).le (SortKey.ofValue (a.find? o.field.text))
        else (SortKey.ofValue (a.find? o.field.text)).le (SortKey.ofValue (b.find? o.field.text))) =
      fun a b => (o.order a b).isLE := by
    funext a b
    rw [SortKey.le_ofValue, SortKey.le_ofValue, OrderBy.order,
      valueOrder_swap (a.find? o.field.text)]
    split <;> rfl
  rw [← compares]
  rfl

section
variable (o : OrderBy)

theorem isLE_trans (a b c : Fields) (first : (o.order a b).isLE = true)
    (second : (o.order b c).isLE = true) : (o.order a c).isLE = true :=
  TransCmp.isLE_trans first second

theorem isLE_total (a b : Fields) : ((o.order a b).isLE || (o.order b a).isLE) = true := by
  rw [o.order_swap a b]
  cases o.order a b <;> rfl

/-- Two rows tie if neither stands above the other. -/
theorem isLE_and_isLE (a b : Fields) :
    ((o.order a b).isLE && (o.order b a).isLE) = (o.order a b == .eq) := by
  rw [o.order_swap a b]
  cases o.order a b <;> rfl

theorem filter_tied_ordered (rows : List Fields) (row : Fields) :
    (ordered o rows).filter (fun other => o.order row other == .eq) =
      rows.filter fun other => o.order row other == .eq := by
  have tied := filter_tied_mergeSort (l := rows) (isLE_trans o) (isLE_total o) row
  simp only [isLE_and_isLE] at tied
  rw [ordered_eq_mergeSort, tied]

end

/-- The order of values is a total preorder, and a selection in the order of a column, before it is
cut to its limit, holds the same rows sorted, those that tie as they stood before. -/
theorem ordered_by_total_preorder :
    (∀ a b, valueOrder b a = (valueOrder a b).swap) ∧
    (∀ a b c, valueOrder a b ≠ .gt → valueOrder b c ≠ .gt → valueOrder a c ≠ .gt) ∧
    (∀ a b c, valueOrder a b = .eq →
      valueOrder a c = valueOrder b c ∧ valueOrder c a = valueOrder c b) ∧
    (∀ (db : Database) bindings (s : Selection) o,
      db.selectRows bindings { s with orderBy := some o } =
        (db.selectRows bindings { s with orderBy := none, limit := none }).map fun rows =>
          s.limit.elim (ordered o rows) (ordered o rows).take) ∧
    ∀ o : OrderBy, TransCmp o.order ∧ ∀ rows, (ordered o rows).Perm rows ∧
      (ordered o rows).Pairwise (fun a b => o.order a b ≠ .gt) ∧
      ∀ row, (ordered o rows).filter (fun other => o.order row other == .eq) =
        rows.filter fun other => o.order row other == .eq := by
  refine ⟨valueOrder_swap, fun a b c first second => ?_, fun a b c tie => ?_,
    selectRows_orderBy, fun o => ⟨inferInstance, fun rows => ⟨?_, ?_, filter_tied_ordered o rows⟩⟩⟩
  · have left := Ordering.isLE_iff_ne_gt.mpr first
    have right := Ordering.isLE_iff_ne_gt.mpr second
    exact Ordering.isLE_iff_ne_gt.mp (TransCmp.isLE_trans left right)
  · exact ⟨TransCmp.congr_left tie, TransCmp.congr_right tie⟩
  · rw [ordered_eq_mergeSort]
    exact List.mergeSort_perm ..
  · rw [ordered_eq_mergeSort]
    refine (List.pairwise_mergeSort (isLE_trans o) (isLE_total o) rows).imp fun le => ?_
    exact Ordering.isLE_iff_ne_gt.mp le

/-- A missing value comes before a text and so before a number, and it ties with `null`. -/
theorem mixed_values_ordered :
    valueOrder none (some (.string "a")) ≠ .gt ∧
    valueOrder (some (.string "a")) (some (.number (.int 1))) ≠ .gt ∧
    valueOrder none (some (.number (.int 1))) ≠ .gt ∧
    valueOrder none (some .null) = .eq ∧
    valueOrder none (some (.string "a")) = valueOrder (some .null) (some (.string "a")) := by
  have first : valueOrder none (some (.string "a")) ≠ .gt := by decide
  have second : valueOrder (some (.string "a")) (some (.number (.int 1))) ≠ .gt := by decide
  have tie : valueOrder none (some .null) = .eq := rfl
  exact ⟨first, second, ordered_by_total_preorder.2.1 _ _ _ first second, tie,
    (ordered_by_total_preorder.2.2.1 _ _ _ tie).1⟩

end Database
end VectorStore
