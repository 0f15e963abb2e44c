import VectorStore.Proofs.Number.Arithmetic

/-!
Comparing finite doubles is comparing their codes with their signs, and the total order of doubles
refines it by putting `-0.0` below `0.0`. Which operations can give `-0.0` is settled here too.
-/
namespace VectorStore
open Float.Model Float.Model.UnpackedFloat

/-- The code of a double with its sign; both zeros have the same. -/
def signedCode (x : Float) : Int := (doubleSign x).apply (doubleCode x)

/-- Magnitudes compare by exponent first, and so do their codes. -/
theorem compare_parts {m e m' e' : Nat} (bits : m < 2 ^ 53) (bits' : m' < 2 ^ 53)
    (normal : e = 0 ∨ 2 ^ 52 ≤ m) (normal' : e' = 0 ∨ 2 ^ 52 ≤ m') :
    (compare ((e : Int) - 1074) ((e' : Int) - 1074)).then (compare m m') =
      compare (e * 2 ^ 52 + m) (e' * 2 ^ 52 + m') := by
  rcases Nat.lt_trichotomy e e' with less | rfl | greater
  · have exponents : compare ((e : Int) - 1074) ((e' : Int) - 1074) = .lt :=
      Int.compare_eq_lt.mpr (by omega)
    have codes : compare (e * 2 ^ 52 + m) (e' * 2 ^ 52 + m') = .lt :=
      Nat.compare_eq_lt.mpr (by omega)
    rw [exponents, codes]
    rfl
  · rw [Int.compare_eq_eq.mpr rfl, Ordering.eq_then]
    rcases Nat.lt_trichotomy m m' with less | rfl | greater
    · rw [Nat.compare_eq_lt.mpr less, Nat.compare_eq_lt.mpr (by omega)]
    · rw [Nat.compare_eq_eq.mpr rfl, Nat.compare_eq_eq.mpr rfl]
    · rw [Nat.compare_eq_gt.mpr greater, Nat.compare_eq_gt.mpr (by omega)]
  · have exponents : compare ((e : Int) - 1074) ((e' : Int) - 1074) = .gt :=
      Int.compare_eq_gt.mpr (by omega)
    have codes : compare (e * 2 ^ 52 + m) (e' * 2 ^ 52 + m') = .gt :=
      Nat.compare_eq_gt.mpr (by omega)
    rw [exponents, codes]
    rfl

theorem compare_natCast (m n : Nat) : compare (m : Int) (n : Int) = compare m n := by
  rcases Nat.lt_trichotomy m n with less | rfl | greater
  · rw [Nat.compare_eq_lt.mpr less, Int.compare_eq_lt.mpr (by omega)]
  · rw [Nat.compare_eq_eq.mpr rfl, Int.compare_eq_eq.mpr rfl]
  · rw [Nat.compare_eq_gt.mpr greater, Int.compare_eq_gt.mpr (by omega)]

theorem compare_neg_natCast (m n : Nat) :
    compare (-(m : Int)) (-(n : Int)) = (compare m n).swap := by
  rcases Nat.lt_trichotomy m n with less | rfl | greater
  · rw [Nat.compare_eq_lt.mpr less, Int.compare_eq_gt.mpr (by omega)]
    rfl
  · rw [Nat.compare_eq_eq.mpr rfl, Int.compare_eq_eq.mpr rfl]
    rfl
  · rw [Nat.compare_eq_gt.mpr greater, Int.compare_eq_lt.mpr (by omega)]
    rfl

/-- Finite doubles compare as their signed codes. -/
theorem compare_eq_compare_signedCode {x y : Float} (finiteX : doubleFinite x = true)
    (finiteY : doubleFinite y = true) :
    UnpackedFloat.compare x.toModel.unpack y.toModel.unpack =
      some (compare (signedCode x) (signedCode y)) := by
  unfold signedCode
  cases parts_of_finite finiteX with
  | zero code unpacks =>
    rw [unpacks, code]
    cases parts_of_finite finiteY with
    | zero codeY unpacksY =>
      rw [unpacksY, codeY]
      cases doubleSign x <;> cases doubleSign y <;> rfl
    | finite m e positive bits normal codeY value unpacksY =>
      rw [unpacksY]
      have nonzero : 0 < doubleCode y := by omega
      generalize doubleCode y = c at nonzero
      have below : compare (0 : Int) c = .lt := Int.compare_eq_lt.mpr (by omega)
      have above : compare (0 : Int) (-c) = .gt := Int.compare_eq_gt.mpr (by omega)
      cases doubleSign x <;> cases doubleSign y
      · exact congrArg some above.symm
      · exact congrArg some below.symm
      · exact congrArg some above.symm
      · exact congrArg some below.symm
  | finite m e positive bits normal code value unpacks =>
    rw [unpacks]
    cases parts_of_finite finiteY with
    | zero codeY unpacksY =>
      rw [unpacksY, codeY]
      have nonzero : 0 < doubleCode x := by omega
      generalize doubleCode x = c at nonzero
      have above : compare (c : Int) 0 = .gt := Int.compare_eq_gt.mpr (by omega)
      have below : compare (-c : Int) 0 = .lt := Int.compare_eq_lt.mpr (by omega)
      cases doubleSign x <;> cases doubleSign y
      · exact congrArg some below.symm
      · exact congrArg some below.symm
      · exact congrArg some above.symm
      · exact congrArg some above.symm
    | finite m' e' positive' bits' normal' codeY value' unpacksY =>
      rw [unpacksY]
      have magnitudes := compare_parts bits bits' normal normal'
      rw [← code, ← codeY] at magnitudes
      have nonzero : 0 < doubleCode x := by omega
      have nonzero' : 0 < doubleCode y := by omega
      cases doubleSign x <;> cases doubleSign y
      · exact congrArg some ((congrArg Ordering.swap magnitudes).trans
          (compare_neg_natCast ..).symm)
      · exact congrArg some (Int.compare_eq_lt.mpr (by simp only [Sign.apply]; omega)).symm
      · exact congrArg some (Int.compare_eq_gt.mpr (by simp only [Sign.apply]; omega)).symm
      · exact congrArg some (magnitudes.trans (compare_natCast ..).symm)

theorem lt_iff_unpacked (x y : Float) :
    x < y ↔ UnpackedFloat.lt x.toModel.unpack y.toModel.unpack = true :=
  decide_eq_true_iff (p := x.toModel < y.toModel)

theorem lt_iff_signedCode_lt {x y : Float} (finiteX : doubleFinite x = true)
    (finiteY : doubleFinite y = true) : x < y ↔ signedCode x < signedCode y := by
  rw [lt_iff_unpacked, UnpackedFloat.lt, compare_eq_compare_signedCode finiteX finiteY,
    ← Int.compare_eq_lt]
  simp

theorem beq_iff_signedCode_eq {x y : Float} (finiteX : doubleFinite x = true)
    (finiteY : doubleFinite y = true) : (x == y) = true ↔ signedCode x = signedCode y := by
  have unfolded : (x == y) = UnpackedFloat.beq x.toModel.unpack y.toModel.unpack := rfl
  rw [unfolded, UnpackedFloat.beq, compare_eq_compare_signedCode finiteX finiteY,
    ← Int.compare_eq_eq]
  simp

/-- Two numbers compare in either order. -/
theorem exists_compare {a b : UnpackedFloat} (number : a ≠ .notANumber)
    (number' : b ≠ .notANumber) :
    ∃ o, UnpackedFloat.compare a b = some o ∧ UnpackedFloat.compare b a = some o.swap := by
  cases a with
  | notANumber => contradiction
  | infinity s =>
    cases b with
    | notANumber => contradiction
    | infinity s' => cases s <;> cases s' <;> exact ⟨_, rfl, rfl⟩
    | zero _ | finite _ _ _ _ => cases s <;> exact ⟨_, rfl, rfl⟩
  | zero s =>
    cases b with
    | notANumber => contradiction
    | zero _ => exact ⟨_, rfl, rfl⟩
    | infinity s' | finite s' _ _ _ => cases s' <;> exact ⟨_, rfl, rfl⟩
  | finite s m e positive =>
    cases b with
    | notANumber => contradiction
    | infinity s' => cases s' <;> exact ⟨_, rfl, rfl⟩
    | zero _ => cases s <;> exact ⟨_, rfl, rfl⟩
    | finite s' m' e' positive' =>
      have swapped : ((Ord.compare e e').then (Ord.compare m m')).swap =
          (Ord.compare e' e).then (Ord.compare m' m) := by
        rw [Ordering.swap_then, Int.compare_swap, Nat.compare_swap]
      cases s <;> cases s'
      · exact ⟨_, rfl, congrArg (fun o => some (Ordering.swap o)) swapped.symm⟩
      · exact ⟨_, rfl, rfl⟩
      · exact ⟨_, rfl, rfl⟩
      · exact ⟨_, rfl, congrArg some swapped.symm⟩

theorem unpack_ne_of_finite {x : Float} (finite : doubleFinite x = true) :
    x.toModel.unpack ≠ .notANumber := by
  cases parts_of_finite finite with
  | zero _ unpacks => simp [unpacks]
  | finite _ _ _ _ _ _ _ unpacks => simp [unpacks]

/-- What does not reach a bound is below it. -/
theorem lt_of_not_le {x y : Float} (finite : doubleFinite x = true) (nonneg : 0.0 ≤ y)
    (unreached : ¬ y ≤ x) : x < y := by
  have le_iff (a b : Float) : a ≤ b ↔ UnpackedFloat.le a.toModel.unpack b.toModel.unpack = true :=
    decide_eq_true_iff (p := a.toModel ≤ b.toModel)
  have number : y.toModel.unpack ≠ .notANumber := by
    intro nan
    rw [le_iff, UnpackedFloat.le, nan] at nonneg
    contradiction
  obtain ⟨o, compared, swapped⟩ := exists_compare number (unpack_ne_of_finite finite)
  rw [le_iff, UnpackedFloat.le, compared] at unreached
  rw [lt_iff_unpacked, UnpackedFloat.lt, swapped]
  cases o <;> simp_all

theorem totalKey_eq {x : Float} (finite : doubleFinite x = true) :
    totalKey x = if doubleNegative x then -1 - (doubleCode x : Int) else doubleCode x := by
  rw [doubleFinite, decide_eq_true_eq] at finite
  rw [totalKey, if_neg (by omega)]

theorem signedCode_eq (x : Float) :
    signedCode x = if doubleNegative x then -(doubleCode x : Int) else doubleCode x := by
  unfold signedCode doubleSign bitsSign doubleNegative
  by_cases negative : doubleSpan ≤ x.toBits.toNat <;> simp [negative, Sign.apply]

/-- The total order follows the values, and among equal ones puts a minus sign first. -/
theorem totalKey_lt_iff {x y : Float} (finiteX : doubleFinite x = true)
    (finiteY : doubleFinite y = true) :
    totalKey x < totalKey y ↔
      x < y ∨ ((x == y) = true ∧ doubleNegative x = true ∧ doubleNegative y = false) := by
  rw [lt_iff_signedCode_lt finiteX finiteY, beq_iff_signedCode_eq finiteX finiteY,
    totalKey_eq finiteX, totalKey_eq finiteY, signedCode_eq, signedCode_eq]
  cases doubleNegative x <;> cases doubleNegative y <;> simp <;> omega

/-! ## Signs of zeros -/

theorem doubleNegative_eq (x : Float) : doubleNegative x = (doubleSign x == .negative) := by
  unfold doubleSign bitsSign doubleNegative
  by_cases negative : doubleSpan ≤ x.toBits.toNat
  · rw [decide_eq_true negative, if_pos negative]
    rfl
  · rw [decide_eq_false negative, if_neg negative]
    rfl

theorem code_zero_of_scaled_zero {x : Float} (finite : doubleFinite x = true)
    (zero : scaled x = 0) : doubleCode x = 0 := by
  rw [code_zero_iff finite, ← natAbs_scaled, zero, Int.natAbs_zero]

/-- A sum that is not negative has no minus sign, unless both summands have one. -/
theorem doubleNegative_add {x y : Float} (finiteX : doubleFinite x = true)
    (finiteY : doubleFinite y = true) (nonnegX : 0 ≤ scaled x) (nonnegY : 0 ≤ scaled y)
    (signs : doubleNegative x = false ∨ doubleNegative y = false) :
    doubleNegative (x + y) = false := by
  by_cases zero : scaled x + scaled y = 0
  · have codeX := code_zero_of_scaled_zero finiteX (by omega)
    have codeY := code_zero_of_scaled_zero finiteY (by omega)
    have sum : x + y = packed (UnpackedFloat.add Format.binary64 x.toModel.unpack
      y.toModel.unpack) := rfl
    cases parts_of_finite finiteX with
    | finite => omega
    | zero _ unpacks =>
      cases parts_of_finite finiteY with
      | finite => omega
      | zero _ unpacksY =>
        rw [doubleNegative_eq x, doubleNegative_eq y] at signs
        rw [sum, unpacks, unpacksY]
        revert signs
        cases doubleSign x <;> cases doubleSign y <;> intro signs
        · exact absurd signs (by decide)
        · exact (packed_zero _).2
        · exact (packed_zero _).2
        · exact (packed_zero _).2
  · rw [(rounds_add finiteX finiteY).sign zero]
    exact decide_eq_false (by omega)

/-- A difference of equal doubles other than zero has no minus sign. -/
theorem doubleNegative_sub {x y : Float} (finiteX : doubleFinite x = true)
    (finiteY : doubleFinite y = true) (nonzero : doubleCode x ≠ 0) (same : scaled x = scaled y) :
    doubleNegative (x - y) = false := by
  have difference : x - y = packed (UnpackedFloat.sub Format.binary64 x.toModel.unpack
    y.toModel.unpack) := rfl
  have nonzeroY : doubleCode y ≠ 0 := fun zero => nonzero (code_zero_of_scaled_zero finiteX (by
    rw [same, ← apply_sign, apply_of_code_zero zero]))
  cases parts_of_finite finiteX with
  | zero code => contradiction
  | finite m e positive bits normal code value unpacks =>
    cases parts_of_finite finiteY with
    | zero code => contradiction
    | finite m' e' positive' bits' normal' code' value' unpacksY =>
      rw [← apply_sign x, ← apply_sign y, value, value',
        ← shifted_mul _ (Nat.min_le_left e e'),
        ← shifted_mul _ (Nat.min_le_right e e')] at same
      have place : (2 : Int) ^ min e e' ≠ 0 := by positivity
      have cancelled := Int.sub_eq_zero_of_eq (Int.eq_of_mul_eq_mul_right place same)
      rw [difference, unpacks, unpacksY]
      simp only [UnpackedFloat.sub, decreaseExponent, min_place]
      rw [cancelled]
      exact (packed_zero _).2

theorem doubleNegative_mul_self {x : Float} (finite : doubleFinite x = true) :
    doubleNegative (x * x) = false := by
  rw [(doubleCode_mul finite finite).2]
  cases doubleSign x <;> rfl

theorem doubleNegative_abs {x : Float} (finite : doubleFinite x = true) :
    doubleNegative x.abs = false := by
  have unfolded : x.abs = packed (UnpackedFloat.abs x.toModel.unpack) := rfl
  by_cases zero : (magnitude x : Int) = 0
  · cases parts_of_finite finite with
    | zero code unpacks =>
      rw [unfolded, unpacks]
      exact (packed_zero _).2
    | finite m e positive bits normal code value unpacks =>
      have nonzero : m * 2 ^ e ≠ 0 := by positivity
      omega
  · rw [(doubleCode_abs finite).sign zero]
    exact decide_eq_false (by omega)

theorem doubleNegative_sqrt {x : Float} (finite : doubleFinite x = true) (nonneg : 0 ≤ scaled x)
    (sign : doubleNegative x = false) : doubleNegative x.sqrt = false := by
  obtain ⟨num, den, -, -, positive⟩ := doubleCode_sqrt finite nonneg
  by_cases zero : doubleCode x = 0
  · have unfolded : x.sqrt = packed (UnpackedFloat.sqrt Format.binary64 x.toModel.unpack) := rfl
    cases parts_of_finite finite with
    | zero code unpacks =>
      rw [doubleNegative_eq] at sign
      rw [unfolded, unpacks]
      exact (packed_zero _).2.trans sign
    | finite => omega
  · exact positive zero

/-- Anything but `-0.0`. -/
def NoNegZero (x : Float) : Prop := doubleNegative x = true → doubleCode x ≠ 0

/-- But for `-0.0` the total order is the order by value. -/
theorem totalKey_lt_iff_lt {x y : Float} (finiteX : doubleFinite x = true)
    (finiteY : doubleFinite y = true) (plain : NoNegZero x) :
    totalKey x < totalKey y ↔ x < y := by
  rw [totalKey_lt_iff finiteX finiteY, beq_iff_signedCode_eq finiteX finiteY, signedCode_eq,
    signedCode_eq]
  refine or_iff_left fun ⟨same, negative, positive⟩ => ?_
  rw [negative, positive] at same
  simp only [if_true, Bool.false_eq_true, if_false] at same
  have := plain negative
  omega

end VectorStore
