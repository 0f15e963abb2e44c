import VectorStore.Database.Ranking
import VectorStore.Proofs.Number.Bounds
import VectorStore.Proofs.Number.Comparison

/-!
Distances and scores of vectors in the range of singles, of any dimension, are finite. A sum cannot
overflow: past some bound each further term is less than half a unit in the last place, and the
rounded sum stays where it is (`within_sum`).
-/
namespace VectorStore

/-- The components of a vector are in the range of singles. -/
def Components (v : List Float) : Prop := ∀ x ∈ v, Component x

/-! ## Bounds -/

/-- The units of a difference of components, or of a component, are no more. -/
@[irreducible] def differenceBound : Nat := 2 ^ 1203
/-- More units than any term of a distance has. -/
@[irreducible] def termBound : Nat := 2 ^ 1332
/-- More units than any sum of terms has. -/
@[irreducible] def sumBound : Nat := 2 ^ 1386
/-- Fewer units than any positive square has. -/
@[irreducible] def squareFloor : Nat := 2 ^ 774
/-- More units than the root of any total has. -/
@[irreducible] def rootBound : Nat := 2 ^ 1231
/-- Fewer units than the root of any positive square has. -/
@[irreducible] def rootFloor : Nat := 2 ^ 923
/-- More units than the product of any two roots has. -/
@[irreducible] def normBound : Nat := 2 ^ 1388
/-- Fewer units than the product of two roots of positive squares has. -/
@[irreducible] def normFloor : Nat := 2 ^ 772
/-- More units than any cosine similarity has. -/
@[irreducible] def similarityBound : Nat := 2 ^ 1688

/-- How the operations of a distance take one bound to the next. -/
structure Bounds : Prop where
  difference : RoundsTo (componentBound + componentBound) unit differenceBound
  same : RoundsTo differenceBound unit differenceBound
  product : RoundsTo (differenceBound * differenceBound) (unit * unit) termBound
  square : RoundsTo (componentFloor * componentFloor) (unit * unit) squareFloor
  sum : RoundsTo (sumBound + termBound) unit sumBound
  squareSum : RoundsTo squareFloor unit squareFloor
  root : RoundsTo (2 ^ 157) 1 rootBound
  smallRoot : RoundsTo 1 (2 ^ 151) rootFloor
  norm : RoundsTo (rootBound * rootBound) (unit * unit) normBound
  smallNorm : RoundsTo (rootFloor * rootFloor) (unit * unit) normFloor
  quotient : RoundsTo sumBound normFloor similarityBound
  oneMore : RoundsTo (unit + sumBound) unit sumBound
  oneLess : RoundsTo (unit + similarityBound) unit similarityBound
  one : RoundsTo unit unit unit
  least : 0 < binary64.nearest 1 unit
  squares : 4 * sumBound = (2 ^ 157) ^ 2 * unit ∧ 4 * unit = squareFloor * (2 ^ 151) ^ 2
  positive : 0 < squareFloor ∧ 0 < normFloor
  increasing : componentBound ≤ differenceBound ∧ differenceBound ≤ termBound ∧ rootBound ≤ sumBound

theorem bounds : Bounds := by
  constructor <;> decide +kernel

theorem Rounds.code_eq_zero_iff {x : Float} {n : Int} (rounds : Rounds x n) :
    doubleCode x = 0 ↔ n = 0 := by
  rw [rounds.code]
  refine ⟨fun zero => ?_, fun zero => by rw [zero, Int.natAbs_zero, BinaryFormat.nearest_zero]⟩
  by_contra nonzero
  have some : binary64.nearest 1 unit ≤ binary64.nearest n.natAbs unit :=
    BinaryFormat.nearest_mono_num (by decide) unit_pos (by omega)
  have := bounds.least
  omega

theorem Rounds.magnitude_eq_zero_iff {x : Float} {n : Int} (rounds : Rounds x n)
    (finite : doubleFinite x = true) : magnitude x = 0 ↔ n = 0 := by
  rw [← code_zero_iff finite, rounds.code_eq_zero_iff]

theorem magnitude_mul_self_of_zero {x : Float} (finite : doubleFinite x = true)
    (zero : magnitude x = 0) : magnitude (x * x) = 0 := by
  apply magnitude_of_code_zero
  rw [(doubleCode_mul finite finite).1, zero, Nat.zero_mul, BinaryFormat.nearest_zero]

/-! ## Sums -/

theorem within_add_term {s x : Float} (sum : Within s sumBound) (term : Within x termBound) :
    Within (s + x) sumBound := by
  have le : (scaled s + scaled x).natAbs ≤ sumBound + termBound := by
    have := sum.le
    have := term.le
    have := natAbs_scaled s
    have := natAbs_scaled x
    omega
  exact (rounds_add sum.finite term.finite).within le bounds.sum

theorem sumDoubles_induction {motive : Float → Prop} {xs : List Float} (start : motive (-0.0))
    (add : ∀ s, motive s → ∀ x ∈ xs, motive (s + x)) : motive (sumDoubles xs) :=
  List.foldlRecOn xs (· + ·) start add

/-- A finite sum that is not negative. -/
structure Total (s : Float) : Prop extends Within s sumBound where
  nonneg : 0 ≤ scaled s

/-- A term that adds to a total. -/
structure Summand (x : Float) : Prop extends Within x termBound where
  nonneg : 0 ≤ scaled x

theorem total_negZero : Total (-0.0) where
  finite := by decide +kernel
  le := by decide +kernel
  nonneg := by decide +kernel

/-- A sum of any number of terms is finite. -/
theorem within_sum {xs : List Float} (terms : ∀ x ∈ xs, Within x termBound) :
    Within (sumDoubles xs) sumBound :=
  sumDoubles_induction (motive := (Within · sumBound)) total_negZero.toWithin
    fun _ sum x member => within_add_term sum (terms x member)

theorem Total.add {s x : Float} (sum : Total s) (term : Summand x) : Total (s + x) where
  toWithin := within_add_term sum.toWithin term.toWithin
  nonneg := (rounds_add sum.finite term.finite).nonneg (Int.add_nonneg sum.nonneg term.nonneg)

theorem total_sum {xs : List Float} (terms : ∀ x ∈ xs, Summand x) : Total (sumDoubles xs) :=
  sumDoubles_induction (motive := Total) total_negZero
    fun _ sum x member => sum.add (terms x member)

/-- Zero, or no less than a positive square. -/
def ZeroOrLarge (x : Float) : Prop := magnitude x = 0 ∨ squareFloor ≤ magnitude x

theorem ZeroOrLarge.add {s x : Float} (sum : Total s) (sumLarge : ZeroOrLarge s)
    (term : Summand x) (termLarge : ZeroOrLarge x) : ZeroOrLarge (s + x) := by
  have rounds := rounds_add sum.finite term.finite
  have sumParts := natAbs_scaled s
  have termParts := natAbs_scaled x
  have sumNonneg := sum.nonneg
  have termNonneg := term.nonneg
  by_cases zero : scaled s + scaled x = 0
  · left
    exact (rounds.magnitude_eq_zero_iff (sum.add term).finite).mpr zero
  · right
    refine rounds.le_magnitude (sum.add term).finite ?_ bounds.squareSum
    unfold ZeroOrLarge at sumLarge termLarge
    omega

theorem zeroOrLarge_sum {xs : List Float} (terms : ∀ x ∈ xs, Summand x)
    (large : ∀ x ∈ xs, ZeroOrLarge x) : ZeroOrLarge (sumDoubles xs) := by
  have start : Total (-0.0) ∧ ZeroOrLarge (-0.0) := ⟨total_negZero, .inl (by decide +kernel)⟩
  have both : Total (sumDoubles xs) ∧ ZeroOrLarge (sumDoubles xs) :=
    sumDoubles_induction (motive := fun s => Total s ∧ ZeroOrLarge s) start fun _ sum x member =>
      ⟨sum.1.add (terms x member), .add sum.1 sum.2 (terms x member) (large x member)⟩
  exact both.2

/-! ## Terms -/

theorem Component.within {x : Float} (component : Component x) : Within x differenceBound where
  finite := component.finite
  le := component.le.trans bounds.increasing.1

theorem within_sub {x y : Float} (left : Component x) (right : Component y) :
    Within (x - y) differenceBound := by
  have le : (scaled x - scaled y).natAbs ≤ componentBound + componentBound := by
    have := left.le
    have := right.le
    have := natAbs_scaled x
    have := natAbs_scaled y
    omega
  exact (rounds_sub left.finite right.finite).within le bounds.difference

section
variable {x y : Float} {m n bound : Nat}

theorem Within.mul (left : Within x m) (right : Within y n)
    (round : RoundsTo (m * n) (unit * unit) bound) : Within (x * y) bound := by
  obtain ⟨code, -⟩ := doubleCode_mul left.finite right.finite
  refine round.within ?_
  rw [code]
  exact BinaryFormat.nearest_mono_num (by decide) (Nat.mul_pos unit_pos unit_pos)
    (Nat.mul_le_mul left.le right.le)

theorem le_magnitude_mul (left : doubleFinite x = true) (right : doubleFinite y = true)
    (finite : doubleFinite (x * y) = true) (leftFloor : m ≤ magnitude x)
    (rightFloor : n ≤ magnitude y) (round : RoundsTo (m * n) (unit * unit) bound) :
    bound ≤ magnitude (x * y) := by
  obtain ⟨code, -⟩ := doubleCode_mul left right
  refine round.le_magnitude finite ?_
  rw [code]
  exact BinaryFormat.nearest_mono_num (by decide) (Nat.mul_pos unit_pos unit_pos)
    (Nat.mul_le_mul leftFloor rightFloor)

end

theorem summand_mul_self {x : Float} (within : Within x differenceBound) : Summand (x * x) where
  toWithin := within.mul within bounds.product
  nonneg := by
    rw [scaled_mul_self within.finite]
    omega

theorem zeroOrLarge_mul_self {x : Float} (component : Component x) : ZeroOrLarge (x * x) := by
  have finite := (summand_mul_self component.within).finite
  rcases component.zero_or_ge with zero | large
  · left
    exact magnitude_mul_self_of_zero component.finite zero
  · right
    exact le_magnitude_mul component.finite component.finite finite large large bounds.square

theorem summand_abs {x : Float} (within : Within x differenceBound) : Summand x.abs := by
  have rounds := doubleCode_abs within.finite
  have bounded := rounds.within (by rw [Int.natAbs_natCast]; exact within.le) bounds.same
  exact ⟨⟨bounded.finite, bounded.le.trans bounds.increasing.2.1⟩, rounds.nonneg (by omega)⟩

theorem forall_zipWith {motive : Float → Prop} {f : Float → Float → Float}
    (each : ∀ x y, Component x → Component y → motive (f x y)) :
    ∀ {a b : List Float}, Components a → Components b → ∀ z ∈ List.zipWith f a b, motive z
  | [], _, _, _, z, member => by simp at member
  | _ :: _, [], _, _, z, member => by simp at member
  | x :: a, y :: b, left, right, z, member => by
    rw [List.zipWith_cons_cons, List.mem_cons] at member
    rcases member with rfl | member
    · exact each x y (left x List.mem_cons_self) (right y List.mem_cons_self)
    · exact forall_zipWith each (fun w inside => left w (List.mem_cons_of_mem _ inside))
        (fun w inside => right w (List.mem_cons_of_mem _ inside)) z member

/-! ## Roots and quotients -/

theorem within_sqrt {s : Float} (total : Total s) : Within s.sqrt rootBound := by
  obtain ⟨num, den, near, code, -⟩ := doubleCode_sqrt total.finite total.nonneg
  have root : num ≤ 2 ^ 157 * den := by
    rw [← Nat.pow_le_pow_iff_left two_ne_zero]
    refine Nat.le_of_mul_le_mul_right ?_ unit_pos
    calc num ^ 2 * unit ≤ 4 * magnitude s * den ^ 2 := near.le
      _ ≤ 4 * sumBound * den ^ 2 := by gcongr; exact total.le
      _ = (2 ^ 157 * den) ^ 2 * unit := by rw [bounds.squares.1]; ring
  refine bounds.root.within ?_
  rw [code]
  exact BinaryFormat.nearest_mono (by decide) near.positive (by decide) (by rwa [Nat.mul_one])

/-- The root of a total that is not zero is not zero either. -/
theorem rootFloor_le_sqrt {s : Float} (total : Total s) (large : ZeroOrLarge s)
    (nonzero : doubleCode s.sqrt ≠ 0) : rootFloor ≤ magnitude s.sqrt := by
  have finite := (within_sqrt total).finite
  obtain ⟨num, den, near, code, -⟩ := doubleCode_sqrt total.finite total.nonneg
  have some : squareFloor ≤ magnitude s := by
    refine large.resolve_left fun zero => nonzero ?_
    rw [zero] at near
    rw [code, near.eq_zero, BinaryFormat.nearest_zero]
  have root : den ≤ 2 ^ 151 * num := by
    rw [← Nat.pow_le_pow_iff_left two_ne_zero]
    refine Nat.le_of_mul_le_mul_left ?_ bounds.positive.1
    calc squareFloor * den ^ 2 ≤ magnitude s * den ^ 2 := by gcongr
      _ ≤ 4 * num ^ 2 * unit := near.ge
      _ = 4 * unit * num ^ 2 := by ring
      _ = squareFloor * (2 ^ 151 * num) ^ 2 := by rw [bounds.squares.2]; ring
  refine bounds.smallRoot.le_magnitude finite ?_
  rw [code]
  exact BinaryFormat.nearest_mono (by decide) (by decide) near.positive (by omega)

/-- A quotient by the product of two norms that are not zero is finite. -/
theorem within_quotient {d m n : Float} (dot : Within d sumBound) (left : Within m rootBound)
    (leftFloor : rootFloor ≤ magnitude m) (right : Within n rootBound)
    (rightFloor : rootFloor ≤ magnitude n) : Within (d / (m * n)) similarityBound := by
  have product := left.mul right bounds.norm
  have floor := le_magnitude_mul left.finite right.finite product.finite leftFloor rightFloor
    bounds.smallNorm
  have floorPositive := bounds.positive.2
  have nonzero : doubleCode (m * n) ≠ 0 := by
    rw [ne_eq, code_zero_iff product.finite]
    omega
  refine bounds.quotient.within ?_
  rw [doubleCode_div dot.finite product.finite nonzero]
  exact BinaryFormat.nearest_mono (by decide) (by omega) floorPositive
    (Nat.mul_le_mul dot.le floor)

/-! ## Distances and scores -/

section
variable {a b : List Float}

theorem total_dotProduct_self (components : Components a) :
    Total (dotProduct a a) ∧ ZeroOrLarge (dotProduct a a) := by
  have same : List.zipWith (· * ·) a a = a.map fun x => x * x := List.zipWith_self ..
  unfold dotProduct
  rw [same]
  have summands : ∀ z ∈ a.map fun x => x * x, Summand z := by
    intro z member
    obtain ⟨x, inside, rfl⟩ := List.mem_map.mp member
    exact summand_mul_self (components x inside).within
  refine ⟨total_sum summands, zeroOrLarge_sum summands fun z member => ?_⟩
  obtain ⟨x, inside, rfl⟩ := List.mem_map.mp member
  exact zeroOrLarge_mul_self (components x inside)

/-- The cosine similarity of vectors in the range of singles is finite. -/
theorem within_cosineSimilarity (left : Components a) (right : Components b) :
    Within (cosineSimilarity a b) similarityBound := by
  have zero : Within 0.0 similarityBound := ⟨by decide +kernel, by decide +kernel⟩
  obtain ⟨leftTotal, leftLarge⟩ := total_dotProduct_self left
  obtain ⟨rightTotal, rightLarge⟩ := total_dotProduct_self right
  have leftRoot := within_sqrt leftTotal
  have rightRoot := within_sqrt rightTotal
  have dot : Within (dotProduct a b) sumBound := within_sum (forall_zipWith
    (fun x y xComponent yComponent =>
      xComponent.within.mul yComponent.within bounds.product) left right)
  unfold cosineSimilarity
  dsimp only
  split
  next => exact zero
  next nonzero =>
    rw [Bool.or_eq_true, beq_zero_iff leftRoot.finite, beq_zero_iff rightRoot.finite,
      not_or] at nonzero
    exact within_quotient dot leftRoot (rootFloor_le_sqrt leftTotal leftLarge nonzero.1)
      rightRoot (rootFloor_le_sqrt rightTotal rightLarge nonzero.2)

theorem parts_one : doubleFinite 1.0 = true ∧ doubleCode 1.0 ≠ 0 ∧ scaled 1.0 = unit := by
  decide +kernel

theorem total_sqrt {s : Float} (total : Total s) : Total s.sqrt where
  finite := (within_sqrt total).finite
  le := (within_sqrt total).le.trans bounds.increasing.2.2
  nonneg := by
    obtain ⟨num, den, near, code, sign⟩ := doubleCode_sqrt total.finite total.nonneg
    by_cases zero : doubleCode s = 0
    · rw [magnitude_of_code_zero zero] at near
      rw [near.eq_zero, BinaryFormat.nearest_zero] at code
      rw [← apply_sign, apply_of_code_zero code]
    · unfold scaled
      rw [sign zero]
      simp

/-- Euclidean and Manhattan distances are finite and not negative. -/
theorem total_between {metric : Distance} (noCosine : metric ≠ .cosine) (left : Components a)
    (right : Components b) : Total (metric.between a b) := by
  cases metric with
  | cosine => exact absurd rfl noCosine
  | euclidean =>
    exact total_sqrt (total_sum (forall_zipWith (fun x y xComponent yComponent =>
      summand_mul_self (within_sub xComponent yComponent)) left right))
  | manhattan =>
    exact total_sum (forall_zipWith (fun x y xComponent yComponent =>
      summand_abs (within_sub xComponent yComponent)) left right)

/-- The distance of vectors in the range of singles is finite. -/
theorem finite_between (metric : Distance) (left : Components a) (right : Components b) :
    doubleFinite (metric.between a b) = true := by
  by_cases cosine : metric = .cosine
  · subst cosine
    have similarity := within_cosineSimilarity left right
    refine ((rounds_sub parts_one.1 similarity.finite).within ?_ bounds.oneLess).finite
    have := natAbs_scaled (cosineSimilarity a b)
    have := similarity.le
    rw [parts_one.2.2]
    omega
  · exact (total_between cosine left right).finite

/-- The inverse of a distance that is not negative is finite. -/
theorem finite_inverse {d : Float} (total : Total d) : doubleFinite (1.0 / (1.0 + d)) = true := by
  obtain ⟨finiteOne, -, one⟩ := parts_one
  have rounds := rounds_add finiteOne total.finite
  rw [one] at rounds
  have parts := natAbs_scaled d
  have nonneg := total.nonneg
  have le := total.le
  have within := rounds.within (by omega) bounds.oneMore
  have floor := rounds.le_magnitude within.finite (by omega) bounds.one
  have nonzero : doubleCode (1.0 + d) ≠ 0 := by
    rw [ne_eq, code_zero_iff within.finite]
    have := unit_pos
    omega
  have magnitudeOne : magnitude 1.0 = unit := by
    rw [← natAbs_scaled, one]
    exact Int.natAbs_natCast unit
  refine (bounds.one.within ?_).finite
  rw [doubleCode_div finiteOne within.finite nonzero, magnitudeOne]
  exact BinaryFormat.nearest_mono (by decide) (by have := unit_pos; omega) unit_pos
    (Nat.mul_le_mul_left _ floor)

/-! ## No distance is `-0.0` -/

/-- A sum of some terms without minus signs has none. -/
theorem doubleNegative_sumDoubles {xs : List Float} (nonempty : xs ≠ [])
    (terms : ∀ x ∈ xs, Summand x ∧ doubleNegative x = false) :
    doubleNegative (sumDoubles xs) = false := by
  cases xs with
  | nil => contradiction
  | cons x rest =>
    obtain ⟨⟨term, sign⟩, later⟩ := List.forall_mem_cons.mp terms
    let Plain (s : Float) : Prop := Total s ∧ doubleNegative s = false
    have add {s x : Float} (sum : Total s) (term : Summand x)
        (signs : doubleNegative s = false ∨ doubleNegative x = false) : Plain (s + x) :=
      ⟨sum.add term, doubleNegative_add sum.finite term.finite sum.nonneg term.nonneg signs⟩
    have first : Plain (-0.0 + x) := add total_negZero term (.inr sign)
    have all : Plain (rest.foldl (· + ·) (-0.0 + x)) :=
      List.foldlRecOn rest (· + ·) first fun s plain x member =>
        add plain.1 (later x member).1 (.inl plain.2)
    exact all.2

theorem zipWith_ne_nil {f : Float → Float → Float} (left : a ≠ []) (right : b ≠ []) :
    List.zipWith f a b ≠ [] := by
  simp [left, right]

theorem noNegZero_one_sub {x : Float} (finite : doubleFinite x = true) : NoNegZero (1.0 - x) := by
  obtain ⟨finiteOne, nonzero, -⟩ := parts_one
  intro negative zero
  have same := (rounds_sub finiteOne finite).code_eq_zero_iff.mp zero
  rw [doubleNegative_sub finiteOne finite nonzero (by omega)] at negative
  contradiction

theorem noNegZero_between (metric : Distance) (left : Components a) (right : Components b)
    (someLeft : a ≠ []) (someRight : b ≠ []) : NoNegZero (metric.between a b) := by
  have plain {x : Float} (sign : doubleNegative x = false) : NoNegZero x := by
    simp [NoNegZero, sign]
  cases metric with
  | cosine => exact noNegZero_one_sub (within_cosineSimilarity left right).finite
  | euclidean =>
    have terms := forall_zipWith (motive := fun z => Summand z ∧ doubleNegative z = false)
      (fun x y xComponent yComponent =>
        have within := within_sub xComponent yComponent
        ⟨summand_mul_self within, doubleNegative_mul_self within.finite⟩) left right
    have total := total_sum fun z member => (terms z member).1
    exact plain (doubleNegative_sqrt total.finite total.nonneg
      (doubleNegative_sumDoubles (zipWith_ne_nil someLeft someRight) terms))
  | manhattan =>
    have terms := forall_zipWith (motive := fun z => Summand z ∧ doubleNegative z = false)
      (fun x y xComponent yComponent =>
        have within := within_sub xComponent yComponent
        ⟨summand_abs within, doubleNegative_abs within.finite⟩) left right
    exact plain (doubleNegative_sumDoubles (zipWith_ne_nil someLeft someRight) terms)

end

end VectorStore
