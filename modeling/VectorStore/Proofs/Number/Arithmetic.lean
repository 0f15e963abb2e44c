import VectorStore.Proofs.Number.Rounding
import Mathlib.Tactic.Positivity

/-!
Sums, differences, products, quotients and roots of finite doubles by their codes: each operation
gives the code nearest to the exact result. Magnitudes are counted in the smallest positive one,
so that exact results are whole numbers or fractions of them.
-/
namespace VectorStore
open Float.Model Float.Model.UnpackedFloat

/-- The magnitude of a finite double, in units of `2 ^ -1074`. -/
def magnitude (x : Float) : Nat := binary64.numerator (doubleCode x)
/-- The value of a finite double, in units of `2 ^ -1074`. -/
def scaled (x : Float) : Int := if doubleNegative x then -magnitude x else magnitude x

theorem depth_eq : binary64.depth = 1074 := rfl

/-- The units in one. -/
def unit : Nat := 2 ^ binary64.depth

theorem unit_pos : 0 < unit := by unfold unit; positivity

theorem natAbs_scaled (x : Float) : (scaled x).natAbs = magnitude x := by
  unfold scaled
  split <;> simp

theorem code_eq_nearest {x : Float} (finite : doubleFinite x = true) :
    doubleCode x = binary64.nearest (magnitude x) unit := by
  rw [doubleFinite, decide_eq_true_eq] at finite
  exact (BinaryFormat.nearest_numerator (by decide) finite.le).symm

theorem magnitude_of_code_zero {x : Float} (zero : doubleCode x = 0) : magnitude x = 0 := by
  unfold magnitude
  rw [zero]
  rfl

theorem code_zero_iff {x : Float} (finite : doubleFinite x = true) :
    doubleCode x = 0 ↔ magnitude x = 0 := by
  refine ⟨magnitude_of_code_zero, fun zero => ?_⟩
  rw [code_eq_nearest finite, zero, BinaryFormat.nearest_zero]

theorem isScaled_of_eq {n d num den a b : Nat} {e : Int} (exponent : e = (b : Int) - a)
    (same : n * den * 2 ^ a = num * d * 2 ^ b) : IsScaled n d num den e := by
  have down : a = (-e).toNat + min a b := by omega
  have up : b = e.toNat + min a b := by omega
  unfold IsScaled
  refine Nat.eq_of_mul_eq_mul_right (show 0 < 2 ^ min a b by positivity) ?_
  calc n * (den * 2 ^ (-e).toNat) * 2 ^ min a b
      = n * den * 2 ^ ((-e).toNat + min a b) := by ring
    _ = num * d * 2 ^ (e.toNat + min a b) := by rw [← down, ← up, same]
    _ = num * 2 ^ e.toNat * d * 2 ^ min a b := by ring

/-- The sign of a double. -/
def doubleSign (x : Float) : Sign := bitsSign x.toBits

theorem doubleFinite_iff (x : Float) : doubleFinite x = true ↔ doubleCode x < 2047 * 2 ^ 52 := by
  unfold doubleFinite
  rw [decide_eq_true_eq]
  exact Iff.rfl

/-- The parts of a finite double. -/
inductive Parts (x : Float) : Prop
  | zero (code : doubleCode x = 0) (unpacks : x.toModel.unpack = .zero (doubleSign x))
  | finite (m e : Nat) (positive : 0 < m) (bits : m < 2 ^ 53) (normal : e = 0 ∨ 2 ^ 52 ≤ m)
      (code : doubleCode x = e * 2 ^ 52 + m) (value : magnitude x = m * 2 ^ e)
      (unpacks : x.toModel.unpack = .finite (doubleSign x) m ((e : Nat) - 1074) positive)

theorem parts_of_finite {x : Float} (finite : doubleFinite x = true) : Parts x := by
  rw [doubleFinite, decide_eq_true_eq] at finite
  rcases unpack_of_bits finite with ⟨code, unpacks⟩ | ⟨positive, unpacks⟩
  · exact .zero code unpacks
  · obtain ⟨bits, normal⟩ := significand_bits (doubleCode x)
    exact .finite (binary64.significand (doubleCode x)) (binary64.exponent (doubleCode x)) positive
      bits normal (binary64.exponent_mul_block_add _).symm
      (by rw [magnitude, BinaryFormat.numerator, Nat.pow_eq]) unpacks

/-! ## Products -/

theorem enough_of_log2 {m : Nat} {e : Int} (bits : 52 ≤ m.log2 ∨ e ≤ -1074) :
    e ≤ Format.binary64.targetExponent (totalExponent m e) := by
  rw [targetExponent_eq]
  omega

theorem log2_mul_right {m n : Nat} (positive : 0 < m) (bits : 2 ^ 52 ≤ n) : 52 ≤ (m * n).log2 := by
  rw [Nat.le_log2 (Nat.ne_of_gt (Nat.mul_pos positive (by omega)))]
  nlinarith

/-- A product is rounded from the exact one, and its sign is that of the factors together. -/
theorem doubleCode_mul {x y : Float} (finiteX : doubleFinite x = true)
    (finiteY : doubleFinite y = true) :
    doubleCode (x * y) = binary64.nearest (magnitude x * magnitude y) (unit * unit) ∧
      doubleNegative (x * y) = (doubleSign x * doubleSign y == .negative) := by
  have product : x * y = packed (UnpackedFloat.mul Format.binary64 x.toModel.unpack
    y.toModel.unpack) := rfl
  rw [product]
  cases parts_of_finite finiteX with
  | zero code unpacks =>
    rw [unpacks, magnitude_of_code_zero code, Nat.zero_mul, BinaryFormat.nearest_zero]
    cases parts_of_finite finiteY with
    | zero _ unpacksY => rw [unpacksY]; exact packed_zero _
    | finite _ _ _ _ _ _ _ unpacksY => rw [unpacksY]; exact packed_zero _
  | finite m e positive bits normal code value unpacks =>
    rw [unpacks]
    cases parts_of_finite finiteY with
    | zero code unpacksY =>
      rw [unpacksY, magnitude_of_code_zero code, Nat.mul_zero, BinaryFormat.nearest_zero]
      exact packed_zero _
    | finite m' e' positive' bits' normal' code' value' unpacksY =>
      rw [unpacksY, value, value']
      refine code_roundWithAccuracy _ (truncates_exact (m * m')) ?_
        (Nat.mul_pos unit_pos unit_pos) ?_
      · apply enough_of_log2
        rcases normal with zero | normal
        · rcases normal' with zero' | normal'
          · right
            omega
          · exact .inl (log2_mul_right positive normal')
        · rw [Nat.mul_comm]
          exact .inl (log2_mul_right positive' normal)
      · refine isScaled_of_eq (a := binary64.depth + binary64.depth) (b := e + e') ?_ ?_
        · rw [depth_eq]
          omega
        · unfold unit
          ring

theorem scaled_mul_self {x : Float} (finite : doubleFinite x = true) :
    scaled (x * x) = magnitude (x * x) := by
  obtain ⟨-, sign⟩ := doubleCode_mul finite finite
  have square : (doubleSign x * doubleSign x == .negative) = false := by
    cases doubleSign x <;> rfl
  unfold scaled
  rw [sign, square]
  rfl

/-! ## Sums and differences -/

/-- A double and the signed number of units that it is nearest to. -/
structure Rounds (x : Float) (n : Int) : Prop where
  code : doubleCode x = binary64.nearest n.natAbs unit
  sign : n ≠ 0 → doubleNegative x = decide (n < 0)

theorem rounds_zero (s : Sign) : Rounds (packed (.zero s)) 0 where
  code := by rw [Int.natAbs_zero, BinaryFormat.nearest_zero, (packed_zero s).1]
  sign nonzero := absurd rfl nonzero

theorem apply_sign (x : Float) : (doubleSign x).apply (magnitude x) = scaled x := by
  unfold doubleSign bitsSign scaled doubleNegative
  by_cases negative : doubleSpan ≤ x.toBits.toNat <;> simp [negative, Sign.apply]

theorem apply_of_code_zero {x : Float} (zero : doubleCode x = 0) (s : Sign) :
    s.apply (magnitude x) = 0 := by
  rw [magnitude_of_code_zero zero]
  cases s <;> rfl

/-- The parts of a finite double round to it under either sign. -/
theorem rounds_finite {x : Float} (finite : doubleFinite x = true) (s : Sign) {m e : Nat}
    (positive : 0 < m) (bits : m < 2 ^ 53) (normal : e = 0 ∨ 2 ^ 52 ≤ m)
    (code : doubleCode x = e * 2 ^ 52 + m) :
    Rounds (packed (.finite s m ((e : Nat) - 1074) positive)) (s.apply (magnitude x)) := by
  obtain ⟨packedCode, packedSign⟩ := packed_finite s positive bits normal
  have bound := (doubleFinite_iff x).mp finite
  have ceiling : binary64.ceiling = 2047 * 2 ^ 52 := rfl
  rw [← code, ceiling, Nat.min_eq_right (Nat.le_of_lt bound)] at packedCode
  have same : (s.apply (magnitude x)).natAbs = magnitude x := by cases s <;> simp [Sign.apply]
  refine ⟨by rw [packedCode, same, code_eq_nearest finite], fun nonzero => ?_⟩
  rw [packedSign]
  cases s with
  | negative =>
    have negated : Sign.negative.apply (magnitude x) = -(magnitude x : Int) := rfl
    rw [negated] at nonzero ⊢
    rw [decide_eq_true (by omega)]
    rfl
  | positive =>
    have kept : Sign.positive.apply (magnitude x) = (magnitude x : Int) := rfl
    rw [kept, decide_eq_false (by omega)]
    rfl

theorem log2_mul_two_pow {m : Nat} (positive : 0 < m) (k : Nat) :
    (m * 2 ^ k).log2 = m.log2 + k := by
  have nonzero : m ≠ 0 := Nat.ne_of_gt positive
  rw [Nat.log2_eq_iff (by positivity)]
  constructor
  · rw [pow_add]
    exact Nat.mul_le_mul_right _ (Nat.log2_self_le nonzero)
  · calc m * 2 ^ k < 2 ^ (m.log2 + 1) * 2 ^ k :=
        Nat.mul_lt_mul_of_pos_right Nat.lt_log2_self (by positivity)
      _ = 2 ^ (m.log2 + k + 1) := by ring

theorem code_round (s : Sign) {m : Nat} (e : Nat) (positive : 0 < m) :
    doubleCode (packed (UnpackedFloat.round Format.binary64 s m (e - 1074))) =
        binary64.nearest (m * 2 ^ e) unit ∧
      doubleNegative (packed (UnpackedFloat.round Format.binary64 s m (e - 1074))) =
        (s == .negative) := by
  have target := targetExponent_eq m ((e : Int) - 1074)
  unfold UnpackedFloat.round decreaseExponent
  dsimp only
  generalize shiftEq : (((e : Nat) : Int) - 1074 -
    Format.binary64.targetExponent (totalExponent m ((e : Nat) - 1074))).toNat = shift
  refine code_roundWithAccuracy s (truncates_exact _) ?_ unit_pos ?_
  · have bits : (m <<< shift).log2 = m.log2 + shift := by
      rw [Nat.shiftLeft_eq, log2_mul_two_pow positive]
    rw [targetExponent_eq, bits]
    omega
  · refine isScaled_of_eq (a := binary64.depth + shift) (b := e) ?_ ?_
    · rw [depth_eq]
      omega
    · rw [Nat.shiftLeft_eq]
      unfold unit
      ring

theorem rounds_normalize (m : Int) (e : Nat) (zeroSign : Sign) :
    Rounds (packed (normalize Format.binary64 m (e - 1074) zeroSign)) (m * 2 ^ e) := by
  have power : (0 : Int) < 2 ^ e := by positivity
  unfold UnpackedFloat.normalize
  rcases Int.lt_trichotomy m 0 with negative | zero | positive
  · have order : compare m 0 = .lt := by simp [Int.compare_eq_lt, negative]
    obtain ⟨code, sign⟩ := code_round .negative e (m := (-m).toNat) (by omega)
    rw [order]
    refine ⟨?_, fun _ => ?_⟩
    · rw [code, Int.natAbs_mul, Int.natAbs_pow]
      have same : (-m).toNat = m.natAbs := by omega
      rw [same]
      rfl
    · have below : m * 2 ^ e < 0 := Int.mul_neg_of_neg_of_pos negative power
      rw [sign, decide_eq_true below]
      rfl
  · subst zero
    refine ⟨?_, fun nonzero => absurd (Int.zero_mul _) nonzero⟩
    rw [Int.zero_mul, Int.natAbs_zero, BinaryFormat.nearest_zero]
    exact (packed_zero _).1
  · have order : compare m 0 = .gt := by simp [Int.compare_eq_gt, positive]
    obtain ⟨code, sign⟩ := code_round .positive e (m := m.toNat) (by omega)
    rw [order]
    refine ⟨?_, fun _ => ?_⟩
    · rw [code, Int.natAbs_mul, Int.natAbs_pow]
      have same : m.toNat = m.natAbs := by omega
      rw [same]
      rfl
    · have above : 0 < m * 2 ^ e := Int.mul_pos positive power
      rw [sign, decide_eq_false (by omega)]
      rfl

theorem shifted_mul {m e low : Nat} (s : Sign) (le : low ≤ e) :
    s.apply ((m <<< (((e : Nat) : Int) - 1074 - ((low : Nat) - 1074)).toNat : Nat)) *
      (2 : Int) ^ low = s.apply (m * 2 ^ e : Nat) := by
  have shift : (((e : Nat) : Int) - 1074 - ((low : Nat) - 1074)).toNat = e - low := by omega
  have power : (2 : Int) ^ e = 2 ^ (e - low) * 2 ^ low := by rw [← pow_add, Nat.sub_add_cancel le]
  rw [shift, Nat.shiftLeft_eq]
  cases s <;> simp [Sign.apply, power, mul_assoc]

theorem min_place (e e' : Nat) :
    min (((e : Nat) : Int) - 1074) (((e' : Nat) : Int) - 1074) =
      ((min e e' : Nat) : Int) - 1074 := by
  omega

/-- A sum is rounded from the exact one. -/
theorem rounds_add {x y : Float} (finiteX : doubleFinite x = true)
    (finiteY : doubleFinite y = true) : Rounds (x + y) (scaled x + scaled y) := by
  have sum : x + y = packed (UnpackedFloat.add Format.binary64 x.toModel.unpack
    y.toModel.unpack) := rfl
  rw [sum, ← apply_sign x, ← apply_sign y]
  cases parts_of_finite finiteX with
  | zero code unpacks =>
    rw [unpacks, apply_of_code_zero code, Int.zero_add]
    cases parts_of_finite finiteY with
    | zero codeY unpacksY =>
      rw [unpacksY, apply_of_code_zero codeY]
      simp only [UnpackedFloat.add]
      split <;> exact rounds_zero _
    | finite m e positive bits normal codeY value unpacksY =>
      rw [unpacksY]
      exact rounds_finite finiteY _ positive bits normal codeY
  | finite m e positive bits normal code value unpacks =>
    rw [unpacks]
    cases parts_of_finite finiteY with
    | zero codeY unpacksY =>
      rw [unpacksY, apply_of_code_zero codeY, Int.add_zero]
      exact rounds_finite finiteX _ positive bits normal code
    | finite m' e' positive' bits' normal' code' value' unpacksY =>
      rw [unpacksY, value, value', ← shifted_mul _ (Nat.min_le_left e e'),
        ← shifted_mul _ (Nat.min_le_right e e'), ← add_mul]
      simp only [UnpackedFloat.add, decreaseExponent, min_place]
      exact rounds_normalize _ _ _

/-- A difference is rounded from the exact one. -/
theorem rounds_sub {x y : Float} (finiteX : doubleFinite x = true)
    (finiteY : doubleFinite y = true) : Rounds (x - y) (scaled x - scaled y) := by
  have difference : x - y = packed (UnpackedFloat.sub Format.binary64 x.toModel.unpack
    y.toModel.unpack) := rfl
  rw [difference, ← apply_sign x, ← apply_sign y]
  cases parts_of_finite finiteX with
  | zero code unpacks =>
    rw [unpacks, apply_of_code_zero code, Int.zero_sub]
    cases parts_of_finite finiteY with
    | zero codeY unpacksY =>
      rw [unpacksY, apply_of_code_zero codeY]
      simp only [UnpackedFloat.sub]
      split <;> exact rounds_zero _
    | finite m e positive bits normal codeY value unpacksY =>
      rw [unpacksY]
      have negated : -(doubleSign y).apply (magnitude y) =
          (-doubleSign y).apply (magnitude y) := by
        cases doubleSign y
        · exact Int.neg_neg _
        · rfl
      rw [negated]
      exact rounds_finite finiteY _ positive bits normal codeY
  | finite m e positive bits normal code value unpacks =>
    rw [unpacks]
    cases parts_of_finite finiteY with
    | zero codeY unpacksY =>
      rw [unpacksY, apply_of_code_zero codeY, Int.sub_zero]
      exact rounds_finite finiteX _ positive bits normal code
    | finite m' e' positive' bits' normal' code' value' unpacksY =>
      rw [unpacksY, value, value', ← shifted_mul _ (Nat.min_le_left e e'),
        ← shifted_mul _ (Nat.min_le_right e e'), ← sub_mul]
      simp only [UnpackedFloat.sub, decreaseExponent, min_place]
      exact rounds_normalize _ _ _

/-! ## Quotients -/

/-- What is left of a division stands in the residual bits. -/
theorem truncates_quotient (num : Nat) {den : Nat} (positive : 0 < den) :
    Truncates (.ofMantissaAndAccuracy (num / den) (accuracyOfFraction (num % den) den))
      num den := by
  have split := Nat.div_add_mod num den
  have less := Nat.mod_lt num positive
  have twice : den * (2 * (num / den)) = 2 * (den * (num / den)) := by ring
  have more : den * (2 * (num / den) + 1) = 2 * (den * (num / den)) + den := by ring
  unfold accuracyOfFraction
  split_ifs with rest
  · refine ⟨0, positive, ?_, by simp [ExtendedMantissa.ofMantissaAndAccuracy]⟩
    simp only [ExtendedMantissa.ofMantissaAndAccuracy, Bool.toNat_false, Nat.add_zero]
    omega
  · rcases Nat.lt_trichotomy (2 * (num % den)) den with below | half | above
    · rw [Nat.compare_eq_lt.mpr below]
      refine ⟨2 * (num % den), below, ?_, by
        simp [ExtendedMantissa.ofMantissaAndAccuracy, rest]⟩
      simp only [ExtendedMantissa.ofMantissaAndAccuracy, Bool.toNat_false, Nat.add_zero]
      omega
    · rw [Nat.compare_eq_eq.mpr half]
      refine ⟨0, positive, ?_, by simp [ExtendedMantissa.ofMantissaAndAccuracy]⟩
      simp only [ExtendedMantissa.ofMantissaAndAccuracy, Bool.toNat_true, more]
      omega
    · rw [Nat.compare_eq_gt.mpr above]
      refine ⟨2 * (num % den) - den, by omega, ?_, ?_⟩
      · simp only [ExtendedMantissa.ofMantissaAndAccuracy, Bool.toNat_true, more]
        omega
      · simp only [ExtendedMantissa.ofMantissaAndAccuracy, true_iff]
        omega

theorem log2_quotient {m m' : Nat} (positive : 0 < m) (positive' : 0 < m') (shift : Nat) :
    m.log2 + shift ≤ (m * 2 ^ shift / m').log2 + m'.log2 + 1 := by
  have lower := Nat.log2_self_le (Nat.ne_of_gt positive)
  have upper := Nat.lt_log2_self (n := m')
  rcases Nat.lt_or_ge (m.log2 + shift) (m'.log2 + 1) with small | large
  · omega
  · have quotient : 2 ^ (m.log2 + shift - (m'.log2 + 1)) ≤ m * 2 ^ shift / m' := by
      rw [Nat.le_div_iff_mul_le positive']
      calc 2 ^ (m.log2 + shift - (m'.log2 + 1)) * m'
          ≤ 2 ^ (m.log2 + shift - (m'.log2 + 1)) * 2 ^ (m'.log2 + 1) := by gcongr
        _ = 2 ^ m.log2 * 2 ^ shift := by rw [← pow_add, ← pow_add, Nat.sub_add_cancel large]
        _ ≤ m * 2 ^ shift := by gcongr
    have nonzero : m * 2 ^ shift / m' ≠ 0 := by
      have : 0 < 2 ^ (m.log2 + shift - (m'.log2 + 1)) := by positivity
      omega
    have := (Nat.le_log2 nonzero).mpr quotient
    omega

/-- A quotient is rounded from the exact one. -/
theorem doubleCode_div {x y : Float} (finiteX : doubleFinite x = true)
    (finiteY : doubleFinite y = true) (nonzero : doubleCode y ≠ 0) :
    doubleCode (x / y) = binary64.nearest (magnitude x) (magnitude y) := by
  have quotient : x / y = packed (UnpackedFloat.div Format.binary64 x.toModel.unpack
    y.toModel.unpack) := rfl
  rw [quotient]
  cases parts_of_finite finiteY with
  | zero code => exact absurd code nonzero
  | finite m' e' positive' bits' normal' code' value' unpacksY =>
    rw [unpacksY]
    cases parts_of_finite finiteX with
    | zero code unpacks =>
      rw [unpacks, magnitude_of_code_zero code, BinaryFormat.nearest_zero]
      exact (packed_zero _).1
    | finite m e positive bits normal code value unpacks =>
      rw [unpacks, value, value']
      simp only [UnpackedFloat.div, divCore]
      generalize target : min (((e : Nat) : Int) - 1074 - ((e' : Nat) - 1074))
        (Format.binary64.targetExponent (totalExponent m ((e : Nat) - 1074) -
          totalExponent m' ((e' : Nat) - 1074))) = low
      generalize shiftEq : (((e : Nat) : Int) - 1074 - ((e' : Nat) - 1074) - low).toNat = shift
      rw [Nat.shiftLeft_eq]
      refine (code_roundWithAccuracy _ (truncates_quotient _ positive') ?_ ?_ ?_).1
      · have bits := log2_quotient positive positive' shift
        have bound : low ≤ max ((m.log2 : Int) + e - m'.log2 - e' - 53) (-1074) := by
          have width : (Format.binary64.mantissaBits : Int) = 53 := rfl
          have least : Format.binary64.minExponent = -1074 := rfl
          unfold Format.targetExponent totalExponent at target
          rw [width, least] at target
          omega
        rw [targetExponent_eq]
        omega
      · exact Nat.mul_pos positive' (by positivity)
      · refine isScaled_of_eq (a := e' + shift) (b := e) (by omega) ?_
        ring

/-! ## Roots -/

/-- A fraction within a factor of two of the root of a number of units. -/
structure NearRoot (n num den : Nat) : Prop where
  positive : 0 < den
  le : num ^ 2 * unit ≤ 4 * n * den ^ 2
  ge : n * den ^ 2 ≤ 4 * num ^ 2 * unit

theorem NearRoot.eq_zero {num den : Nat} (near : NearRoot 0 num den) : num = 0 := by
  have bound := near.le
  rw [Nat.mul_zero, Nat.zero_mul, Nat.le_zero, Nat.mul_eq_zero] at bound
  exact pow_eq_zero_iff two_ne_zero |>.mp (bound.resolve_right (Nat.ne_of_gt unit_pos))

/-- A whole root and a fraction from there up to the next number. -/
theorem truncates_root (m : Nat) : ∃ num den,
    Truncates (.ofMantissaAndAccuracy (Nat.sqrt m)
      (if m - Nat.sqrt m * Nat.sqrt m = 0 then .exact
        else .inexact (if m - Nat.sqrt m * Nat.sqrt m ≤ Nat.sqrt m then .lt else .gt))) num den ∧
      Nat.sqrt m * den ≤ num ∧ num ≤ (Nat.sqrt m + 1) * den := by
  generalize Nat.sqrt m = root
  split_ifs
  · exact ⟨root, 1, truncates_exact root, by omega, by omega⟩
  · refine ⟨4 * root + 1, 4, ⟨2, by decide, ?_, ?_⟩, by omega, by omega⟩
    · simp only [ExtendedMantissa.ofMantissaAndAccuracy, Bool.toNat_false]
      omega
    · simp [ExtendedMantissa.ofMantissaAndAccuracy]
  · refine ⟨4 * root + 3, 4, ⟨2, by decide, ?_, ?_⟩, by omega, by omega⟩
    · simp only [ExtendedMantissa.ofMantissaAndAccuracy, Bool.toNat_true]
      omega
    · simp [ExtendedMantissa.ofMantissaAndAccuracy]

theorem log2_le_log2_sqrt {m : Nat} (positive : 0 < m) : m.log2 / 2 ≤ (Nat.sqrt m).log2 := by
  have square : 2 ^ (m.log2 / 2) ≤ Nat.sqrt m := by
    rw [Nat.le_sqrt, ← pow_add]
    calc 2 ^ (m.log2 / 2 + m.log2 / 2) ≤ 2 ^ m.log2 := Nat.pow_le_pow_right (by decide) (by omega)
      _ ≤ m := Nat.log2_self_le (Nat.ne_of_gt positive)
  have nonzero : Nat.sqrt m ≠ 0 := by
    have : 0 < 2 ^ (m.log2 / 2) := by positivity
    omega
  exact (Nat.le_log2 nonzero).mpr square

theorem doubleSign_of_nonneg {x : Float} (some : 0 < magnitude x) (nonneg : 0 ≤ scaled x) :
    doubleSign x = .positive := by
  rw [← apply_sign x] at nonneg
  cases sign : doubleSign x with
  | negative =>
    rw [sign] at nonneg
    have : Sign.negative.apply (magnitude x) = -(magnitude x : Int) := rfl
    omega
  | positive => rfl

/-- A fraction between a whole root and the next number is near to the root. -/
theorem nearRoot_of_between {m e shift r num den down up : Nat} (den_pos : 0 < den)
    (r_pos : 0 < r) (square : r * r ≤ m * 2 ^ shift)
    (nextSquare : m * 2 ^ shift < (r + 1) * (r + 1)) (rootLe : r * den ≤ num)
    (numLe : num ≤ (r + 1) * den)
    (powers : 2 ^ e * (2 ^ down) ^ 2 = unit * (2 ^ up) ^ 2 * 2 ^ shift) :
    NearRoot (m * 2 ^ e) (num * 2 ^ up) (den * 2 ^ down) where
  positive := by positivity
  le := by
    have above : num ^ 2 ≤ 4 * (m * 2 ^ shift) * den ^ 2 := by
      calc num ^ 2 ≤ ((r + 1) * den) ^ 2 := Nat.pow_le_pow_left numLe 2
        _ ≤ (2 * r * den) ^ 2 := by gcongr; omega
        _ = 4 * (r * r) * den ^ 2 := by ring
        _ ≤ 4 * (m * 2 ^ shift) * den ^ 2 := by gcongr
    calc (num * 2 ^ up) ^ 2 * unit = num ^ 2 * (unit * (2 ^ up) ^ 2) := by ring
      _ ≤ 4 * (m * 2 ^ shift) * den ^ 2 * (unit * (2 ^ up) ^ 2) := Nat.mul_le_mul_right _ above
      _ = 4 * m * den ^ 2 * (unit * (2 ^ up) ^ 2 * 2 ^ shift) := by ring
      _ = 4 * (m * 2 ^ e) * (den * 2 ^ down) ^ 2 := by rw [← powers]; ring
  ge := by
    have below : m * 2 ^ shift * den ^ 2 ≤ 4 * num ^ 2 := by
      calc m * 2 ^ shift * den ^ 2 ≤ (r + 1) * (r + 1) * den ^ 2 := by gcongr
        _ ≤ 2 * r * (2 * r) * den ^ 2 := by gcongr <;> omega
        _ = 4 * (r * den) ^ 2 := by ring
        _ ≤ 4 * num ^ 2 := by gcongr
    calc m * 2 ^ e * (den * 2 ^ down) ^ 2
        = m * den ^ 2 * (2 ^ e * (2 ^ down) ^ 2) := by ring
      _ = m * 2 ^ shift * den ^ 2 * (unit * (2 ^ up) ^ 2) := by rw [powers]; ring
      _ ≤ 4 * num ^ 2 * (unit * (2 ^ up) ^ 2) := Nat.mul_le_mul_right _ below
      _ = 4 * (num * 2 ^ up) ^ 2 * unit := by ring

/-- A root is rounded from a fraction near to it. -/
theorem doubleCode_sqrt {x : Float} (finite : doubleFinite x = true) (nonneg : 0 ≤ scaled x) :
    ∃ num den, NearRoot (magnitude x) num den ∧
      doubleCode x.sqrt = binary64.nearest num den ∧
        (doubleCode x ≠ 0 → doubleNegative x.sqrt = false) := by
  have root : x.sqrt = packed (UnpackedFloat.sqrt Format.binary64 x.toModel.unpack) := rfl
  rw [root]
  cases parts_of_finite finite with
  | zero code unpacks =>
    rw [unpacks, magnitude_of_code_zero code]
    refine ⟨0, 1, ⟨by decide, by simp, by simp⟩, ?_, absurd code⟩
    rw [BinaryFormat.nearest_zero]
    exact (packed_zero _).1
  | finite m e positive bits normal code value unpacks =>
    have some : 0 < magnitude x := by rw [value]; positivity
    rw [unpacks, doubleSign_of_nonneg some nonneg, value]
    simp only [UnpackedFloat.sqrt, sqrtCore]
    have halfExponent : (((e : Nat) : Int) - 1074).ediv 2 = ((e : Int) - 1074) / 2 := rfl
    have halfTotal : (totalExponent m ((e : Nat) - 1074) + 1).ediv 2 =
        ((m.log2 : Int) + 1 + ((e : Int) - 1074) + 1) / 2 := rfl
    rw [halfExponent, halfTotal]
    generalize target : min (((e : Int) - 1074) / 2) (Format.binary64.targetExponent
      (((m.log2 : Int) + 1 + ((e : Int) - 1074) + 1) / 2)) = low
    generalize shiftEq : (((e : Nat) : Int) - 1074 - 2 * low).toNat = shift
    rw [Nat.shiftLeft_eq]
    have target' : low ≤ ((e : Int) - 1074) / 2 ∧
        low ≤ max (((m.log2 : Int) + 1 + ((e : Int) - 1074) + 1) / 2 - 53) (-1074) := by
      have width : (Format.binary64.mantissaBits : Int) = 53 := rfl
      have least : Format.binary64.minExponent = -1074 := rfl
      unfold Format.targetExponent at target
      rw [width, least] at target
      omega
    obtain ⟨num, den, truncates, rootLe, numLe⟩ := truncates_root (m * 2 ^ shift)
    have shifted : 0 < m * 2 ^ shift := Nat.mul_pos positive (by positivity)
    have logs := log2_le_log2_sqrt shifted
    rw [log2_mul_two_pow positive] at logs
    generalize downEq : (-low).toNat = down
    generalize upEq : low.toNat = up
    have places : e + 2 * down = binary64.depth + 2 * up + shift := by
      rw [depth_eq]
      omega
    have powers : 2 ^ e * (2 ^ down) ^ 2 = unit * (2 ^ up) ^ 2 * 2 ^ shift := by
      unfold unit
      rw [← pow_mul, ← pow_mul, ← pow_add, ← pow_add, ← pow_add]
      congr 1
      omega
    have near := nearRoot_of_between truncates.den_pos (Nat.sqrt_pos.mpr shifted)
      (Nat.sqrt_le _) (Nat.lt_succ_sqrt _) rootLe numLe powers
    have enough :
        low ≤ Format.binary64.targetExponent (totalExponent (Nat.sqrt (m * 2 ^ shift)) low) := by
      rw [targetExponent_eq]
      omega
    have scaled : IsScaled (num * 2 ^ up) (den * 2 ^ down) num den low := by
      refine isScaled_of_eq (a := down) (b := up) (by omega) ?_
      ring
    obtain ⟨code, sign⟩ := code_roundWithAccuracy .positive truncates enough near.positive scaled
    exact ⟨_, _, near, code, fun _ => sign⟩

/-! ## Signs and comparisons -/

theorem doubleCode_abs {x : Float} (finite : doubleFinite x = true) :
    Rounds x.abs (magnitude x) := by
  have magnitude_eq : x.abs = packed (UnpackedFloat.abs x.toModel.unpack) := rfl
  rw [magnitude_eq]
  cases parts_of_finite finite with
  | zero code unpacks =>
    rw [unpacks, magnitude_of_code_zero code]
    exact rounds_zero _
  | finite m e positive bits normal code value unpacks =>
    rw [unpacks]
    exact rounds_finite finite .positive positive bits normal code

/-- A finite double equals zero exactly if its code is zero. -/
theorem beq_zero_iff {x : Float} (finite : doubleFinite x = true) :
    (x == 0.0) = true ↔ doubleCode x = 0 := by
  have zero : (0.0 : Float).toModel.unpack = .zero .positive := rfl
  have same : (x == 0.0) = UnpackedFloat.beq x.toModel.unpack (0.0 : Float).toModel.unpack := rfl
  rw [same, zero]
  cases parts_of_finite finite with
  | zero code unpacks =>
    rw [unpacks, code]
    exact iff_of_true rfl rfl
  | finite m e positive bits normal code value unpacks =>
    rw [unpacks, code]
    refine iff_of_false ?_ (by omega)
    cases doubleSign x <;> exact Bool.false_ne_true

end VectorStore
