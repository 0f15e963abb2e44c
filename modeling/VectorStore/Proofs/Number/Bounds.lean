import VectorStore.Json.Basic
import VectorStore.Proofs.Number.Arithmetic
import VectorStore.Proofs.Number.ReadBack

/-!
Bounds on finite doubles, in units. Singles become doubles in two ways, by their value and by
their shortest decimal; both stay well inside the range of doubles (`component_widen`,
`component_ofSingle`).
-/
namespace VectorStore

/-- A finite double of at most so many units. -/
structure Within (x : Float) (bound : Nat) : Prop where
  finite : doubleFinite x = true
  le : magnitude x ≤ bound

/-- What a fraction rounds to, in units. -/
def rounded (num den : Nat) : Nat := binary64.numerator (binary64.nearest num den)

/-- A fraction rounds to a finite double of so many units. -/
def RoundsTo (num den bound : Nat) : Prop :=
  binary64.nearest num den < binary64.ceiling ∧ rounded num den = bound

instance (num den bound : Nat) : Decidable (RoundsTo num den bound) :=
  inferInstanceAs (Decidable (_ ∧ _))

section
variable {x : Float} {n : Int} {num den most bound : Nat}

theorem RoundsTo.within (round : RoundsTo num den bound)
    (le : doubleCode x ≤ binary64.nearest num den) : Within x bound where
  finite := by
    rw [doubleFinite, decide_eq_true_eq]
    exact le.trans_lt round.1
  le := by
    rw [← round.2]
    exact BinaryFormat.numerator_mono (by decide) le round.1.le

theorem RoundsTo.le_magnitude (round : RoundsTo num den bound) (finite : doubleFinite x = true)
    (le : binary64.nearest num den ≤ doubleCode x) : bound ≤ magnitude x := by
  rw [doubleFinite, decide_eq_true_eq] at finite
  rw [← round.2]
  exact BinaryFormat.numerator_mono (by decide) le finite.le

theorem Rounds.within (rounds : Rounds x n) (le : n.natAbs ≤ most)
    (round : RoundsTo most unit bound) : Within x bound := by
  refine round.within ?_
  rw [rounds.code]
  exact BinaryFormat.nearest_mono_num (by decide) unit_pos le

theorem Rounds.le_magnitude (rounds : Rounds x n) (finite : doubleFinite x = true)
    (le : most ≤ n.natAbs) (round : RoundsTo most unit bound) : bound ≤ magnitude x := by
  refine round.le_magnitude finite ?_
  rw [rounds.code]
  exact BinaryFormat.nearest_mono_num (by decide) unit_pos le

end

theorem Rounds.nonneg {x : Float} {n : Int} (rounds : Rounds x n) (nonneg : 0 ≤ n) :
    0 ≤ scaled x := by
  by_cases zero : n = 0
  · have code := rounds.code
    rw [zero, Int.natAbs_zero, BinaryFormat.nearest_zero] at code
    rw [← apply_sign, apply_of_code_zero code]
  · unfold scaled
    rw [rounds.sign zero, decide_eq_false (by omega)]
    simp

/-! ## Singles as doubles -/

/-- The units in `2 ^ 128`. -/
@[irreducible] def componentBound : Nat := 2 ^ 1202
/-- The units in `2 ^ -150`. -/
@[irreducible] def componentFloor : Nat := 2 ^ 924

/-- A double in the range of singles. -/
structure Component (x : Float) : Prop extends Within x componentBound where
  zero_or_ge : magnitude x = 0 ∨ componentFloor ≤ magnitude x

theorem roundsTo_componentBound : RoundsTo (2 ^ 128) 1 componentBound := by decide +kernel

/-- What rounds to a finite single is below `2 ^ 128`. -/
theorem nearest_le_of_single {num den : Nat} (positive : 0 < den)
    (finite : binary32.nearest num den < binary32.ceiling) :
    binary64.nearest num den ≤ binary64.nearest (2 ^ 128) 1 := by
  have less : num ≤ 2 ^ 128 * den := by
    by_contra more
    have overflow : binary32.nearest (2 ^ 128) 1 = binary32.ceiling := by decide +kernel
    have := BinaryFormat.nearest_mono (f := binary32) (by decide) (by decide : 0 < 1) positive
      (by omega : 2 ^ 128 * den ≤ num * 1)
    omega
  exact BinaryFormat.nearest_mono (by decide) positive (by decide) (by omega)

theorem finite_of_single {num den : Nat} (positive : 0 < den)
    (finite : binary32.nearest num den < binary32.ceiling) :
    binary64.nearest num den < binary64.ceiling :=
  Nat.lt_of_le_of_lt (nearest_le_of_single positive finite) roundsTo_componentBound.1

/-- What rounds to a finite single is a component as a double. -/
theorem component_of_nearest (negative : Bool) {num den : Nat} (positive : 0 < den)
    (finite : binary32.nearest num den < binary32.ceiling)
    (zero : binary32.nearest num den = 0 → num = 0) :
    Component (double negative (binary64.nearest num den)) := by
  have belowTop := nearest_le_of_single positive finite
  obtain ⟨code, -⟩ := doubleCode_double negative (finite_of_single positive finite)
  have within := roundsTo_componentBound.within (code.trans_le belowTop)
  refine ⟨within, ?_⟩
  rcases Nat.eq_zero_or_pos num with none | some
  · left
    apply magnitude_of_code_zero
    rw [code, none, BinaryFormat.nearest_zero]
  · right
    have more : den ≤ num * 2 ^ 150 := by
      by_contra less
      have underflow : binary32.nearest 1 (2 ^ 150) = 0 := by decide +kernel
      have := BinaryFormat.nearest_mono (f := binary32) (by decide) positive
        (by decide : 0 < 2 ^ 150) (by omega : num * 2 ^ 150 ≤ 1 * den)
      have := zero (by omega)
      omega
    have bottom : RoundsTo 1 (2 ^ 150) componentFloor := by decide +kernel
    refine bottom.le_magnitude within.finite ?_
    rw [code]
    exact BinaryFormat.nearest_mono (by decide) (by decide) positive (by omega)

/-- A finite single by its value. -/
theorem component_widen {x : Float32} (finite : singleFinite x = true) : Component (widen x) := by
  rw [singleFinite, decide_eq_true_eq] at finite
  have same := BinaryFormat.nearest_numerator (f := binary32) (by decide) finite.le
  unfold widen BinaryFormat.convert
  rw [if_pos finite]
  refine component_of_nearest _ (by decide) ?_ fun zero => ?_
  · exact same.trans_lt finite
  · rw [Nat.pow_eq, same] at zero
    rw [zero]
    rfl

/-- The double that the shortest decimal of a single is nearest to. -/
def ofDecimal (x : Float32) : Float :=
  double (singleNegative x) ((binary32.shortest .up (singleCode x)).code binary64)

/-- The shortest decimal of a finite single is read as the double nearest to it. -/
theorem readDouble?_single {x : Float32} (finite : singleFinite x = true) :
    readDouble? (Layout.bare.single x).toList = some (ofDecimal x) := by
  rw [singleFinite, decide_eq_true_eq] at finite
  have text : (Layout.bare.single x).toList = (if singleNegative x then ['-'] else []) ++
      Layout.bare.decimal (binary32.shortest .up (singleCode x)) := by
    unfold Layout.single Layout.number
    rw [if_neg (Nat.not_lt_of_le finite.le)]
    dsimp only
    rw [if_neg (Nat.ne_of_lt finite)]
    exact String.toList_ofList
  rw [text, readDouble?_decimal rfl, ofDecimal]

theorem component_ofDecimal {x : Float32} (finite : singleFinite x = true) :
    Component (ofDecimal x) := by
  rw [singleFinite, decide_eq_true_eq] at finite
  have same := BinaryFormat.code_shortest (f := binary32) (by decide) .up finite.le
  refine component_of_nearest _ (Decimal.denominator_pos _) (same.trans_lt finite) fun zero => ?_
  have code : singleCode x = 0 := same.symm.trans zero
  rw [code]
  rfl

/-- A finite single is stored as a double in the range of singles, the one that its shortest decimal
reads as. -/
theorem ofSingle_of_finite {x : Float32} (finite : singleFinite x = true) :
    Json.ofSingle x = .number (.double (ofDecimal x)) := by
  rw [Json.ofSingle, readDouble?_single finite]
  exact if_pos (component_ofDecimal finite).finite

end VectorStore
