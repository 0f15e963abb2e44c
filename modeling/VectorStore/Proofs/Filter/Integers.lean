import VectorStore.Filter.Matching
import VectorStore.Proofs.Number.Integers

/-!
Integers in filters. A field of the signed 64-bit range is compared with an integer as the integer
that it is. A greater one is compared as a double, and there the numbers right above the range have
the double of those right below it, so they count as equal (`Comparison.holds_integer_iff`).
-/
namespace VectorStore

/-- An integer right above the signed range and one of the last within it. Both have the double of
the bound between them. -/
def Blurred (n b : Int) : Prop :=
  signedBound ≤ n ∧ n ≤ signedBound + 1024 ∧ (signedBound : Int) - 512 ≤ b

instance (n b : Int) : Decidable (Blurred n b) := inferInstanceAs (Decidable (_ ∧ _))

/-- The integer that a field is taken for beside a value. -/
def takenFor (n b : Int) : Int := if Blurred n b then b else n

/-- What a comparison operator says of two integers. -/
def Operator.Relates (op : Operator) (m n : Int) : Prop :=
  match op with
  | .eq | .isIn => m = n
  | .ne | .notIn => m ≠ n
  | .lt => m < n
  | .lte => m ≤ n
  | .gt => n < m
  | .gte => n ≤ m
  | .and | .or | .not => False

instance (op : Operator) (m n : Int) : Decidable (op.Relates m n) :=
  match op with
  | .eq | .isIn => inferInstanceAs (Decidable (m = n))
  | .ne | .notIn => inferInstanceAs (Decidable (m ≠ n))
  | .lt => inferInstanceAs (Decidable (m < n))
  | .lte => inferInstanceAs (Decidable (m ≤ n))
  | .gt => inferInstanceAs (Decidable (n < m))
  | .gte => inferInstanceAs (Decidable (n ≤ m))
  | .and | .or | .not => inferInstanceAs (Decidable False)

/-! ## The order of a field and a value -/

theorem compareDoubles_of_finite {x y : Float} (finite : doubleFinite x = true)
    (finite' : doubleFinite y = true) :
    compareDoubles x y = some (compareInts (signedCode x) (signedCode y)) := by
  unfold compareDoubles compareInts
  simp only [lt_iff_signedCode_lt finite finite', lt_iff_signedCode_lt finite' finite,
    beq_iff_signedCode_eq finite finite']
  split_ifs
  · rfl
  · rfl
  · rfl
  · omega

variable {n b : Int}

/-- Integers on either side of the bound have one double only near it. -/
theorem signedCode_doubleOfInt_eq_iff (fits : fitsJson n = true) (above : signedBound ≤ n)
    (signed : fitsSigned b = true) :
    signedCode (doubleOfInt n) = signedCode (doubleOfInt b) ↔ Blurred n b := by
  have fits' := fitsJson_of_fitsSigned signed
  simp only [fitsSigned, Bool.and_eq_true, decide_eq_true_eq] at signed
  have positive : 0 < binary64.nearest signedBound 1 := by
    have := nearest_signedBound.1
    omega
  have reached := nearest_mono_natural (show signedBound ≤ n.natAbs by omega)
  rw [signedCode_doubleOfInt fits, signedCode_doubleOfInt fits', if_neg (by omega), Blurred]
  split_ifs with negative
  · have small : (signedBound : Int) - 512 > 0 := by decide
    omega
  · have unreached := nearest_mono_natural (show b.natAbs ≤ signedBound by omega)
    have field := @nearest_eq_signedBound_iff n.natAbs
    have value := @nearest_eq_signedBound_iff b.natAbs
    omega

theorem compareInts_of_lt {m n : Int} (less : n < m) : compareInts m n = .gt := by
  rw [compareInts, if_neg (by omega), if_pos less]

theorem compareInts_self (n : Int) : compareInts n n = .eq := by
  simp [compareInts]

theorem takenFor_of_lt (below : n < signedBound) : takenFor n b = n :=
  if_neg fun blurred => by
    have := blurred.1
    omega

/-- A field is compared as the integer that it is taken for. -/
theorem compareField_integer (fits : fitsJson n = true) (signed : fitsSigned b = true) :
    compareField (.number (.int n)) (.int b) = some (compareInts (takenFor n b) b) := by
  have fits' := fitsJson_of_fitsSigned signed
  rw [compareField]
  by_cases exactly : fitsSigned n = true
  · have below : n < signedBound := by
      simp only [fitsSigned, Bool.and_eq_true, decide_eq_true_eq] at exactly
      exact exactly.2
    rw [if_pos exactly, takenFor_of_lt below]
  · have above : (signedBound : Int) ≤ n := by
      simp only [fitsJson, fitsSigned, Bool.and_eq_true, decide_eq_true_eq] at fits exactly
      omega
    have less : b < n := by
      simp only [fitsSigned, Bool.and_eq_true, decide_eq_true_eq] at signed
      omega
    have same := signedCode_doubleOfInt_eq_iff fits above signed
    have le := signedCode_doubleOfInt_mono fits' fits (Int.le_of_lt less)
    rw [if_neg exactly,
      compareDoubles_of_finite (finite_doubleOfInt fits) (finite_doubleOfInt fits'), takenFor]
    by_cases blurred : Blurred n b
    · rw [if_pos blurred, same.mpr blurred, compareInts_self, compareInts_self]
    · have apart : signedCode (doubleOfInt n) ≠ signedCode (doubleOfInt b) := mt same.mp blurred
      rw [if_neg blurred, compareInts_of_lt less, compareInts_of_lt (by omega)]

/-! ## Comparisons -/

theorem compareInts_eq_eq_iff {m n : Int} : compareInts m n = .eq ↔ m = n := by
  unfold compareInts
  split_ifs <;> simp <;> omega

theorem comparisonHolds_integer {op : Operator} (compares : op.compares = true)
    (fits : fitsJson n = true) (signed : fitsSigned b = true) :
    comparisonHolds op (some (.number (.int n))) (.int b) = true ↔
      op.Relates (takenFor n b) b := by
  have order := compareField_integer fits signed
  cases op with
  | and | or | not => contradiction
  | _ =>
    simp only [comparisonHolds, isMember, Option.bind_some, order, Operator.Relates]
    unfold compareInts
    split_ifs <;> simp <;> omega

/-- A list has a field among its integers that is one of them or is taken for one. -/
theorem isMember_integers {bs : List Int} (fits : fitsJson n = true)
    (signed : ∀ b ∈ bs, fitsSigned b = true) :
    isMember (some (.number (.int n))) (.list (bs.map .int)) = true ↔
      n ∈ bs ∨ ∃ b ∈ bs, Blurred n b := by
  have taken (b : Int) : takenFor n b = b ↔ n = b ∨ Blurred n b := by
    by_cases blurred : Blurred n b <;> simp [takenFor, blurred]
  simp only [isMember, List.any_map, List.any_eq_true, Function.comp_apply, beq_iff_eq]
  calc (∃ b ∈ bs, compareField (.number (.int n)) (.int b) = some .eq)
    _ ↔ ∃ b ∈ bs, n = b ∨ Blurred n b := by
      refine exists_congr fun b => and_congr_right fun member => ?_
      rw [compareField_integer fits (signed b member), Option.some.injEq, compareInts_eq_eq_iff,
        taken]
    _ ↔ n ∈ bs ∨ ∃ b ∈ bs, Blurred n b := by
      simp only [and_or_left, exists_or, exists_eq_right']

namespace Comparison

/-- A field that holds an integer compares with integers as they do, and is a member of a list that
has it, unless it is right above the signed range: then it is taken for each of the last integers
of the range. -/
theorem holds_integer_iff {record : Fields} {key : String}
    (found : lookupPath record key = some (.number (.int n))) (fits : fitsJson n = true) :
    (∀ op b, op.compares = true → fitsSigned b = true →
        ((mk key op (.int b)).holds record = true ↔ op.Relates (takenFor n b) b)) ∧
      ∀ bs : List Int, (∀ b ∈ bs, fitsSigned b = true) →
        ((mk key .isIn (.list (bs.map .int))).holds record = true ↔
          n ∈ bs ∨ ∃ b ∈ bs, Blurred n b) ∧
        ((mk key .notIn (.list (bs.map .int))).holds record = true ↔
          n ∉ bs ∧ ∀ b ∈ bs, ¬ Blurred n b) := by
  simp only [holds, found]
  refine ⟨fun op b compares signed => comparisonHolds_integer compares fits signed, ?_⟩
  intro bs signed
  have member := isMember_integers fits signed
  refine ⟨member, ?_⟩
  rw [comparisonHolds, Bool.not_eq_true', ← Bool.not_eq_true, member, not_or]
  push Not
  rfl

/-- A record with the least integer above the signed range. -/
def oversized : Fields := .insert .empty "size" (.number (.int 9223372036854775808))

theorem lookupPath_oversized :
    lookupPath oversized "size" = some (.number (.int 9223372036854775808)) := rfl

/-- The field is above the value, and above each value of a list but the greatest integer. -/
theorem holds_at_bound :
    lookupPath oversized "size" = some (.number (.int 9223372036854775808)) ∧
      (mk "size" .gt (.int 9223372036854775295)).holds oversized = true ∧
      (mk "size" .notIn (.list [.int 9223372036854775295, .int (-1)])).holds oversized = true ∧
      (mk "size" .lte (.int 9223372036854775807)).holds oversized = true := by
  obtain ⟨single, listed⟩ := holds_integer_iff lookupPath_oversized (by decide)
  refine ⟨lookupPath_oversized, (single _ _ rfl (by decide)).mpr ?_, ?_,
    (single _ _ rfl (by decide)).mpr ?_⟩
  · decide
  · exact (listed [9223372036854775295, -1] (by decide)).2.mpr (by decide)
  · decide

/-- The least integer above the signed range is found equal to the greatest one within, and not
greater. -/
theorem not_exact_at_bound :
    fitsJson 9223372036854775808 = true ∧ fitsSigned 9223372036854775807 = true ∧
      ¬ ((mk "size" .eq (.int 9223372036854775807)).holds oversized = true ↔
        Operator.eq.Relates 9223372036854775808 9223372036854775807) ∧
      ¬ ((mk "size" .gt (.int 9223372036854775807)).holds oversized = true ↔
        Operator.gt.Relates 9223372036854775808 9223372036854775807) := by
  have decided {op : Operator} (compares : op.compares = true) :
      (mk "size" op (.int 9223372036854775807)).holds oversized = true ↔
        op.Relates (takenFor 9223372036854775808 9223372036854775807) 9223372036854775807 := by
    rw [holds, lookupPath_oversized]
    exact comparisonHolds_integer compares (by decide) (by decide)
  refine ⟨by decide, by decide, ?_, ?_⟩
  · rw [decided rfl]
    decide
  · rw [decided rfl]
    decide

end Comparison
end VectorStore
