import VectorStore.Proofs.Database.Distance

/-!
Vectors at distance zero. Components in the range of singles are whole multiples of one step, far
above the least double, so that no difference of two of them is lost to rounding, and neither is its
square nor a sum or root of squares: the Euclidean and the Manhattan distance of two vectors are
zero only where the vectors have the same values (`between_eq_zero_iff`).
-/
namespace VectorStore

/-- The units of which every component has a whole multiple. -/
@[irreducible] def componentStep : Nat := 2 ^ 872
/-- Fewer units than the square of any difference of components has. -/
@[irreducible] def squareStep : Nat := 2 ^ 670
/-- The root of four times the units in one. -/
@[irreducible] def rootScale : Nat := 2 ^ 538

/-- How a step passes through the operations of a distance. -/
structure Steps : Prop where
  difference : RoundsTo componentStep unit componentStep
  square : RoundsTo (componentStep * componentStep) (unit * unit) squareStep
  root : 0 < binary64.nearest 1 rootScale ∧ 4 * unit = rootScale ^ 2
  positive : 0 < squareStep ∧ 0 < rootScale

theorem steps : Steps := by
  constructor <;> decide +kernel

theorem componentStep_dvd_magnitude {x : Float} (component : Component x) :
    componentStep ∣ magnitude x := by
  cases parts_of_finite component.finite with
  | zero code unpacks =>
    rw [magnitude_of_code_zero code]
    exact Nat.dvd_zero _
  | finite m e positive bits normal code value unpacks =>
    have nonzero : magnitude x ≠ 0 := by rw [value]; positivity
    have floor := component.zero_or_ge.resolve_left nonzero
    unfold componentStep
    rw [value] at floor ⊢
    -- a significand has 53 bits, so the last of a component is not far below the first
    have place : 872 ≤ e := by
      by_contra small
      have below : m * 2 ^ e < componentFloor := by
        calc m * 2 ^ e < 2 ^ 53 * 2 ^ e := Nat.mul_lt_mul_of_pos_right bits (by positivity)
          _ ≤ 2 ^ 53 * 2 ^ 871 := by gcongr <;> omega
          _ = componentFloor := by unfold componentFloor; rw [← pow_add]
      omega
    exact (pow_dvd_pow 2 place).mul_left m

theorem componentStep_dvd_scaled {x : Float} (component : Component x) :
    (componentStep : Int) ∣ scaled x := by
  rw [Int.natCast_dvd, natAbs_scaled]
  exact componentStep_dvd_magnitude component

/-! ## When an operation gives zero -/

section
variable {x y : Float} (left : Component x) (right : Component y)
include left right

theorem magnitude_sub_eq_zero_iff : magnitude (x - y) = 0 ↔ scaled x = scaled y := by
  have rounds := rounds_sub left.finite right.finite
  rw [rounds.magnitude_eq_zero_iff (within_sub left right).finite, Int.sub_eq_zero]

/-- A difference of components other than zero has at least one step. -/
theorem componentStep_le_magnitude_sub (differs : scaled x ≠ scaled y) :
    componentStep ≤ magnitude (x - y) := by
  have multiple : (componentStep : Int) ∣ scaled x - scaled y :=
    (componentStep_dvd_scaled left).sub (componentStep_dvd_scaled right)
  have step : componentStep ≤ (scaled x - scaled y).natAbs := by
    refine Nat.le_of_dvd ?_ (Int.natCast_dvd.mp multiple)
    exact Int.natAbs_pos.mpr (sub_ne_zero.mpr differs)
  exact (rounds_sub left.finite right.finite).le_magnitude (within_sub left right).finite step
    steps.difference

theorem magnitude_square_sub_eq_zero_iff :
    magnitude ((x - y) * (x - y)) = 0 ↔ scaled x = scaled y := by
  have within := within_sub left right
  have finite := (summand_mul_self within).finite
  constructor
  · intro zero
    by_contra differs
    have step := componentStep_le_magnitude_sub left right differs
    have := le_magnitude_mul within.finite within.finite finite step step steps.square
    have := steps.positive.1
    omega
  · intro same
    have zero := (magnitude_sub_eq_zero_iff left right).mpr same
    exact magnitude_mul_self_of_zero within.finite zero

theorem magnitude_abs_sub_eq_zero_iff : magnitude (x - y).abs = 0 ↔ scaled x = scaled y := by
  have within := within_sub left right
  rw [(doubleCode_abs within.finite).magnitude_eq_zero_iff (summand_abs within).finite,
    Int.natCast_eq_zero, magnitude_sub_eq_zero_iff left right]

end

/-- A sum of terms that are not negative is zero only if all of them are. -/
theorem magnitude_sumDoubles_eq_zero_iff {xs : List Float} (terms : ∀ x ∈ xs, Summand x) :
    magnitude (sumDoubles xs) = 0 ↔ ∀ x ∈ xs, magnitude x = 0 := by
  have add {s x : Float} (sum : Total s) (term : Summand x) :
      magnitude (s + x) = 0 ↔ magnitude s = 0 ∧ magnitude x = 0 := by
    have sumParts := natAbs_scaled s
    have termParts := natAbs_scaled x
    have sumNonneg := sum.nonneg
    have termNonneg := term.nonneg
    rw [(rounds_add sum.finite term.finite).magnitude_eq_zero_iff (sum.add term).finite]
    omega
  -- from any start: the sum so far stays zero only under terms that are
  have fold (start : Float) (total : Total start) :
      magnitude (xs.foldl (· + ·) start) = 0 ↔
        magnitude start = 0 ∧ ∀ x ∈ xs, magnitude x = 0 := by
    induction xs generalizing start with
    | nil => simp
    | cons x rest ih =>
      obtain ⟨first, later⟩ := List.forall_mem_cons.mp terms
      rw [List.foldl_cons, ih later _ (total.add first), add total first, List.forall_mem_cons,
        and_assoc]
  have start : magnitude (-0.0) = 0 := by decide +kernel
  rw [sumDoubles, fold _ total_negZero, and_iff_right start]

theorem magnitude_sqrt_eq_zero_iff {s : Float} (total : Total s) :
    magnitude s.sqrt = 0 ↔ magnitude s = 0 := by
  obtain ⟨num, den, near, code, -⟩ := doubleCode_sqrt total.finite total.nonneg
  rw [← code_zero_iff (within_sqrt total).finite, code]
  constructor
  · intro zero
    by_contra nonzero
    have root : den ≤ rootScale * num := by
      rw [← Nat.pow_le_pow_iff_left two_ne_zero]
      calc den ^ 2 ≤ magnitude s * den ^ 2 :=
            Nat.le_mul_of_pos_left _ (Nat.pos_of_ne_zero nonzero)
        _ ≤ 4 * num ^ 2 * unit := near.ge
        _ = 4 * unit * num ^ 2 := by ring
        _ = (rootScale * num) ^ 2 := by rw [steps.root.2]; ring
    have some : binary64.nearest 1 rootScale ≤ binary64.nearest num den :=
      BinaryFormat.nearest_mono (by decide) steps.positive.2 near.positive
        (by rwa [Nat.one_mul, Nat.mul_comm])
    have := steps.root.1
    omega
  · intro zero
    rw [zero] at near
    rw [near.eq_zero, BinaryFormat.nearest_zero]

/-! ## Distances -/

theorem forall_mem_zipWith_iff {α : Type} {P : Float → Prop} {f : α → α → Float} {R : α → α → Prop}
    {a b : List α} (each : ∀ x ∈ a, ∀ y ∈ b, P (f x y) ↔ R x y) :
    (∀ z ∈ List.zipWith f a b, P z) ↔ ∀ p ∈ a.zip b, R p.1 p.2 := by
  rw [← List.map_uncurry_zip_eq_zipWith, List.forall_mem_map]
  refine forall₂_congr fun p member => ?_
  exact each p.1 (List.of_mem_zip member).1 p.2 (List.of_mem_zip member).2

/-- The Euclidean and the Manhattan distance of vectors in the range of singles are zero exactly
where the vectors have the same values. -/
theorem between_eq_zero_iff {metric : Distance} (noCosine : metric ≠ .cosine) {a b : List Float}
    (left : Components a) (right : Components b) :
    (metric.between a b == 0.0) = true ↔ ∀ p ∈ a.zip b, scaled p.1 = scaled p.2 := by
  rw [beq_zero_iff (total_between noCosine left right).finite,
    code_zero_iff (total_between noCosine left right).finite]
  cases metric with
  | cosine => exact absurd rfl noCosine
  | euclidean =>
    have terms := forall_zipWith (fun x y xComponent yComponent =>
      summand_mul_self (within_sub xComponent yComponent)) left right
    rw [Distance.between, magnitude_sqrt_eq_zero_iff (total_sum terms),
      magnitude_sumDoubles_eq_zero_iff terms]
    exact forall_mem_zipWith_iff (P := (magnitude · = 0)) fun x xMember y yMember =>
      magnitude_square_sub_eq_zero_iff (left x xMember) (right y yMember)
  | manhattan =>
    have terms := forall_zipWith (fun x y xComponent yComponent =>
      summand_abs (within_sub xComponent yComponent)) left right
    rw [Distance.between, magnitude_sumDoubles_eq_zero_iff terms]
    exact forall_mem_zipWith_iff (P := (magnitude · = 0)) fun x xMember y yMember =>
      magnitude_abs_sub_eq_zero_iff (left x xMember) (right y yMember)

end VectorStore
