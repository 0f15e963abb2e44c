import VectorStore.Proofs.Number.Bounds
import VectorStore.Proofs.Number.Texts

/-!
The two doubles of a single. `widen` gives the double of the same value (`magnitude_widen`), and the
shortest decimal is read as the double nearest to that decimal (`readDouble?_single`). They have the
same sign, and they are the same double exactly if the decimal is near enough to the value
(`ofDecimal_eq_widen_iff`).
-/
namespace VectorStore

namespace BinaryFormat

variable {f : BinaryFormat}

/-- A code by its exponent and its significand. -/
theorem numerator_of_parts {e n : Nat} (bits : n < 2 * f.block) (normal : e = 0 ∨ f.block ≤ n) :
    f.numerator (e * f.block + n) = n * 2 ^ e := by
  have exponent : f.exponent (e * f.block + n) = e := by
    rw [BinaryFormat.exponent, Nat.mul_comm, Nat.mul_add_div f.block_pos]
    rcases normal with rfl | normal
    · have := Nat.div_lt_of_lt_mul (Nat.mul_comm 2 f.block ▸ bits)
      omega
    · have : n / f.block = 1 := by
        rw [Nat.div_eq_iff f.block_pos]
        omega
      omega
  rw [numerator, significand, exponent, Nat.add_sub_cancel_left, Nat.pow_eq]

/-- What is a whole number in units of the place that it is rounded to is not rounded at all. -/
theorem numerator_nearest_of_exact (significant : 0 < f.precision) {num den e n : Nat}
    (positive : 0 < den) (exponent : f.HasExponent num den e)
    (exact : num * 2 ^ f.depth = n * (den * 2 ^ e)) (finite : f.nearest num den < f.ceiling) :
    f.numerator (f.nearest num den) = n * 2 ^ e := by
  have place : 0 < den * 2 ^ e := by positivity
  have nearest := nearest_of_hasExponent significant positive exponent
  rw [exact, roundHalfEven_mul place] at nearest
  have code : f.nearest num den = e * f.block + n := by omega
  have bits : n < 2 * f.block := by
    refine Nat.lt_of_mul_lt_mul_left (a := den * 2 ^ e) ?_
    rw [Nat.mul_comm, ← exact]
    exact exponent.below
  have normal : e = 0 ∨ f.block ≤ n := by
    refine exponent.above.imp_right fun above => ?_
    rw [exact, Nat.mul_comm n] at above
    exact Nat.le_of_mul_le_mul_left above place
  rw [code, numerator_of_parts bits normal]

end BinaryFormat

/-- The units of a double in the least positive single. -/
def singleUnit : Nat := 2 ^ (binary64.depth - binary32.depth)

variable {x : Float32}

/-- Singles whose shortest decimal is nearest to their own value. -/
def KeepsValue (x : Float32) : Prop :=
  (binary32.shortest .up (singleCode x)).code binary64 =
    binary64.nearest (binary32.numerator (singleCode x)) (2 ^ binary32.depth)

instance (x : Float32) : Decidable (KeepsValue x) := inferInstanceAs (Decidable (_ = _))

theorem code_lt_ceiling (finite : singleFinite x = true) : singleCode x < binary32.ceiling := by
  rwa [singleFinite, decide_eq_true_eq] at finite

/-- The value of a finite single is in the range of doubles. -/
theorem nearest_value_lt_ceiling (finite : singleFinite x = true) :
    binary64.nearest (binary32.numerator (singleCode x)) (2 ^ binary32.depth) <
      binary64.ceiling := by
  have bounded := code_lt_ceiling finite
  have same := BinaryFormat.nearest_numerator (f := binary32) (by decide) bounded.le
  exact finite_of_single (by positivity) (same.trans_lt bounded)

theorem parts_widen (finite : singleFinite x = true) :
    doubleCode (widen x) =
        binary64.nearest (binary32.numerator (singleCode x)) (2 ^ binary32.depth) ∧
      doubleNegative (widen x) = singleNegative x := by
  rw [widen, BinaryFormat.convert, if_pos (code_lt_ceiling finite), Nat.pow_eq]
  exact doubleCode_double _ (nearest_value_lt_ceiling finite)

theorem parts_ofDecimal (finite : singleFinite x = true) :
    doubleCode (ofDecimal x) = (binary32.shortest .up (singleCode x)).code binary64 ∧
      doubleNegative (ofDecimal x) = singleNegative x := by
  have bounded := code_lt_ceiling finite
  have same := BinaryFormat.code_shortest (f := binary32) (by decide) .up bounded.le
  exact doubleCode_double _ (finite_of_single (Decimal.denominator_pos _) (same.trans_lt bounded))

/-! ## The value -/

/-- A number of as many bits as a single has is not rounded, unless it is out of range. -/
theorem numerator_nearest_of_bits {m k : Nat} (bits : m < 2 ^ 24)
    (finite : binary64.nearest (m * 2 ^ k) (2 ^ binary32.depth) < binary64.ceiling) :
    binary64.numerator (binary64.nearest (m * 2 ^ k) (2 ^ binary32.depth)) =
      m * 2 ^ k * singleUnit := by
  have positive : 0 < 2 ^ binary32.depth := by positivity
  obtain ⟨e, exponent⟩ := binary64.exists_hasExponent (m * 2 ^ k) positive
  have depths : binary64.depth = 1074 ∧ binary32.depth = 149 ∧ binary64.block = 2 ^ 52 :=
    ⟨rfl, rfl, rfl⟩
  -- a single has fewer bits than a double, so the last of them is not below the double's last place
  have place : e ≤ k + 925 := by
    rcases exponent.above with first | above
    · omega
    by_contra beyond
    have less : m * 2 ^ k * 2 ^ binary64.depth < 2 ^ binary32.depth * 2 ^ e * binary64.block := by
      rw [depths.1, depths.2.1, depths.2.2]
      calc m * 2 ^ k * 2 ^ 1074 < 2 ^ 24 * 2 ^ k * 2 ^ 1074 := by gcongr
        _ = 2 ^ (24 + k + 1074) := by rw [pow_add, pow_add]
        _ ≤ 2 ^ (149 + e + 52) := Nat.pow_le_pow_right (by decide) (by omega)
        _ = 2 ^ 149 * 2 ^ e * 2 ^ 52 := by rw [pow_add, pow_add]
    omega
  have exactly : m * 2 ^ k * 2 ^ binary64.depth =
      m * 2 ^ (k + 925 - e) * (2 ^ binary32.depth * 2 ^ e) := by
    have places : k + 1074 = k + 925 - e + (149 + e) := by omega
    rw [depths.1, depths.2.1, Nat.mul_assoc, Nat.mul_assoc, ← pow_add, ← pow_add, ← pow_add, places]
  have gap : binary64.depth - binary32.depth = 925 := rfl
  rw [BinaryFormat.numerator_nearest_of_exact (by decide) positive exponent exactly finite,
    Nat.mul_assoc, ← pow_add, Nat.sub_add_cancel place, singleUnit, gap, Nat.mul_assoc, ← pow_add]

/-- A single is widened to a double of the same value. -/
theorem magnitude_widen (finite : singleFinite x = true) :
    magnitude (widen x) = binary32.numerator (singleCode x) * singleUnit := by
  have bits : binary32.significand (singleCode x) < 2 ^ 24 := binary32.significand_lt _
  rw [magnitude, (parts_widen finite).1]
  exact numerator_nearest_of_bits bits (nearest_value_lt_ceiling finite)

/-! ## The decimal -/

/-- A decimal that is the value itself is nearest to it. -/
theorem keepsValue_of_same
    (same : (binary32.shortest .up (singleCode x)).Same (.exact binary32 (singleCode x))) :
    KeepsValue x :=
  (same.code (by decide)).trans (Decimal.code_exact_eq_nearest (by decide) _)

theorem ofDecimal_eq_widen_iff (finite : singleFinite x = true) :
    ofDecimal x = widen x ↔ KeepsValue x := by
  obtain ⟨code, sign⟩ := parts_widen finite
  obtain ⟨code', sign'⟩ := parts_ofDecimal finite
  rw [KeepsValue, ← code, ← code']
  refine ⟨congrArg doubleCode, fun same => ?_⟩
  rw [← double_sign_code (ofDecimal x), ← double_sign_code (widen x), same, sign, sign']

/-- The two doubles of a single have one value only if they are the same. -/
theorem scaled_eq_iff (finite : singleFinite x = true) :
    scaled (ofDecimal x) = scaled (widen x) ↔ KeepsValue x := by
  rw [← ofDecimal_eq_widen_iff finite]
  refine ⟨fun same => ?_, congrArg scaled⟩
  have magnitudes : magnitude (ofDecimal x) = magnitude (widen x) := by
    rw [← natAbs_scaled, same, natAbs_scaled]
  have codes : doubleCode (ofDecimal x) = doubleCode (widen x) := by
    rw [code_eq_nearest (component_ofDecimal finite).finite,
      code_eq_nearest (component_widen finite).finite, magnitudes]
  rw [← double_sign_code (ofDecimal x), ← double_sign_code (widen x), codes,
    (parts_widen finite).2, (parts_ofDecimal finite).2]

end VectorStore
