import VectorStore.Number.Binary
import Mathlib.Algebra.Order.Ring.Nat
import Mathlib.Tactic.Linarith
import Mathlib.Tactic.Ring

/-!
Rounding into the codes of a binary format: which code is nearest depends on the fraction alone
and grows with it (`nearest_mono`), and a magnitude of the format is nearest to itself
(`nearest_numerator`). Both come from one formula for the code inside a block (`nearest_of_block`).
-/
namespace VectorStore

/-! ## Rounding a quotient -/

theorem le_roundHalfEven (num den : Nat) : num / den ≤ roundHalfEven num den := by
  unfold roundHalfEven
  dsimp only
  split <;> omega

theorem roundHalfEven_le (num den : Nat) : roundHalfEven num den ≤ num / den + 1 := by
  unfold roundHalfEven
  dsimp only
  split <;> omega

theorem roundHalfEven_mul {den : Nat} (positive : 0 < den) (n : Nat) :
    roundHalfEven (n * den) den = n := by
  simp [roundHalfEven, Nat.mul_div_cancel n positive, positive]

/-- Rounding grows with the quotient. -/
theorem roundHalfEven_mono {num den num' den' : Nat} (positive : 0 < den) (positive' : 0 < den')
    (le : num * den' ≤ num' * den) : roundHalfEven num den ≤ roundHalfEven num' den' := by
  have split := Nat.div_add_mod num den
  have split' := Nat.div_add_mod num' den'
  have wholeLe : num / den ≤ num' / den' := by
    rw [Nat.le_div_iff_mul_le positive']
    have below := Nat.div_mul_le_self num den
    refine Nat.le_of_mul_le_mul_right ?_ positive
    calc num / den * den' * den = num / den * den * den' := by ring
      _ ≤ num * den' := Nat.mul_le_mul_right _ below
      _ ≤ num' * den := le
  rcases Nat.lt_or_eq_of_le wholeLe with less | same
  · have := roundHalfEven_le num den
    have := le_roundHalfEven num' den'
    omega
  · have restLe : num % den * den' ≤ num' % den' * den := by
      have expanded : (den * (num / den) + num % den) * den' ≤
          (den' * (num' / den') + num' % den') * den := by rw [split, split']; exact le
      rw [same] at expanded
      nlinarith
    unfold roundHalfEven
    dsimp only
    rw [same]
    by_cases down : 2 * (num % den) < den ∨ (2 * (num % den) = den ∧ num' / den' % 2 = 0)
    · rw [if_pos down]
      split <;> omega
    · have up :
          ¬ (2 * (num' % den') < den' ∨ (2 * (num' % den') = den' ∧ num' / den' % 2 = 0)) := by
        intro down'
        refine down ?_
        rcases down' with less | ⟨half, even⟩
        · left
          nlinarith
        · rcases Nat.lt_or_ge (2 * (num % den)) den with less | more
          · exact .inl less
          · refine .inr ⟨?_, even⟩
            nlinarith
      rw [if_neg down, if_neg up]

theorem roundHalfEven_congr {num den num' den' : Nat} (positive : 0 < den) (positive' : 0 < den')
    (same : num * den' = num' * den) : roundHalfEven num den = roundHalfEven num' den' :=
  Nat.le_antisymm (roundHalfEven_mono positive positive' (Nat.le_of_eq same))
    (roundHalfEven_mono positive' positive (Nat.le_of_eq same.symm))

namespace BinaryFormat

variable {f : BinaryFormat}

theorem block_pos (f : BinaryFormat) : 0 < f.block := Nat.pos_of_ne_zero (by simp [block])

/-- The fraction `num / den` has the exponent `e`: its distance to the smallest magnitude in
powers of two, zero for the fractions below the normal ones. -/
structure HasExponent (f : BinaryFormat) (num den e : Nat) : Prop where
  below : num * 2 ^ f.depth < den * 2 ^ e * (2 * f.block)
  above : e = 0 ∨ den * 2 ^ e * f.block ≤ num * 2 ^ f.depth

theorem exists_hasExponent (f : BinaryFormat) (num : Nat) {den : Nat} (positive : 0 < den) :
    ∃ e, f.HasExponent num den e := by
  have unit : 0 < den * f.block := Nat.mul_pos positive f.block_pos
  by_cases small : num * 2 ^ f.depth < den * f.block
  · exact ⟨0, by have := f.block_pos; nlinarith, .inl rfl⟩
  · have quotient : num * 2 ^ f.depth / (den * f.block) ≠ 0 := by
      rw [Nat.div_ne_zero_iff]
      omega
    have lower := Nat.log2_self_le quotient
    have upper := Nat.lt_log2_self (n := num * 2 ^ f.depth / (den * f.block))
    refine ⟨(num * 2 ^ f.depth / (den * f.block)).log2, ?_, .inr ?_⟩
    · rw [Nat.div_lt_iff_lt_mul unit, Nat.pow_succ] at upper
      calc _ < _ := upper
        _ = _ := by ring
    · rw [Nat.le_div_iff_mul_le unit] at lower
      calc _ = _ := by ring
        _ ≤ _ := lower

/-- A greater fraction has no smaller exponent. -/
theorem HasExponent.mono {num den num' den' e e' : Nat} (positive : 0 < den)
    (le : num * den' ≤ num' * den) (exponent : f.HasExponent num den e)
    (exponent' : f.HasExponent num' den' e') : e ≤ e' := by
  by_contra more
  rcases exponent.above with zero | above
  · omega
  · have power : 2 * 2 ^ e' ≤ 2 ^ e := by
      calc 2 * 2 ^ e' = 2 ^ (e' + 1) := by ring
        _ ≤ 2 ^ e := Nat.pow_le_pow_right (by decide) (by omega)
    have contradiction : num' * 2 ^ f.depth * den < num' * 2 ^ f.depth * den := by
      calc num' * 2 ^ f.depth * den < den' * 2 ^ e' * (2 * f.block) * den :=
          Nat.mul_lt_mul_of_pos_right exponent'.below positive
        _ = den * (2 * 2 ^ e') * f.block * den' := by ring
        _ ≤ den * 2 ^ e * f.block * den' := by gcongr
        _ ≤ num * 2 ^ f.depth * den' := Nat.mul_le_mul_right _ above
        _ = num * den' * 2 ^ f.depth := by ring
        _ ≤ num' * den * 2 ^ f.depth := Nat.mul_le_mul_right _ le
        _ = num' * 2 ^ f.depth * den := by ring
    exact Nat.lt_irrefl _ contradiction

theorem nearest_zero (f : BinaryFormat) (den : Nat) : f.nearest 0 den = 0 := by
  simp [nearest]

theorem two_mul_block (significant : 0 < f.precision) : 2 * f.block = 2 ^ f.precision := by
  rw [block, Nat.pow_eq, ← Nat.pow_succ']
  congr 1
  omega

/-- The lengths of a fraction in bits bound its exponent, unless it is the least one. -/
theorem HasExponent.le_log2 (significant : 0 < f.precision) {num den e : Nat}
    (positive : 0 < den) (exponent : f.HasExponent num den e) :
    e + f.precision + den.log2 ≤ num.log2 + f.depth + 1 ∨ e = 0 := by
  rcases exponent.above with first | above
  · exact .inr first
  · left
    have numUpper := Nat.lt_log2_self (n := num)
    have denLower := Nat.log2_self_le (Nat.ne_of_gt positive)
    have powers : 2 ^ (den.log2 + e + f.precision) < 2 ^ (num.log2 + f.depth + 2) := by
      calc 2 ^ (den.log2 + e + f.precision)
          = 2 ^ den.log2 * 2 ^ e * (2 * f.block) := by
            rw [two_mul_block significant, pow_add, pow_add]
        _ ≤ den * 2 ^ e * (2 * f.block) := by gcongr
        _ = 2 * (den * 2 ^ e * f.block) := by ring
        _ ≤ 2 * (num * 2 ^ f.depth) := by gcongr
        _ < 2 * (2 ^ (num.log2 + 1) * 2 ^ f.depth) := by gcongr
        _ = 2 ^ (num.log2 + f.depth + 2) := by ring
    have := (Nat.pow_lt_pow_iff_right (by decide)).mp powers
    omega

theorem HasExponent.log2_lt (significant : 0 < f.precision) {num den e : Nat}
    (nonzero : num ≠ 0) (exponent : f.HasExponent num den e) :
    num.log2 + f.depth < den.log2 + 1 + e + f.precision := by
  have numLower := Nat.log2_self_le nonzero
  have denUpper := Nat.lt_log2_self (n := den)
  have powers : 2 ^ (num.log2 + f.depth) < 2 ^ (den.log2 + 1 + e + f.precision) := by
    calc 2 ^ (num.log2 + f.depth) = 2 ^ num.log2 * 2 ^ f.depth := by rw [pow_add]
      _ ≤ num * 2 ^ f.depth := by gcongr
      _ < den * 2 ^ e * (2 * f.block) := exponent.below
      _ ≤ 2 ^ (den.log2 + 1) * 2 ^ e * (2 * f.block) := by gcongr
      _ = 2 ^ (den.log2 + 1 + e + f.precision) := by rw [two_mul_block significant]; ring
  exact (Nat.pow_lt_pow_iff_right (by decide)).mp powers

/-- The code nearest to a fraction counts whole blocks up to its exponent, and the rounded
significand from there. -/
theorem nearest_of_hasExponent (significant : 0 < f.precision) {num den e : Nat}
    (positive : 0 < den) (exponent : f.HasExponent num den e) : f.nearest num den =
      min f.ceiling (e * f.block + roundHalfEven (num * 2 ^ f.depth) (den * 2 ^ e)) := by
  by_cases zero : num = 0
  · have first : e = 0 := by
      rcases exponent.above with first | above
      · exact first
      · have : 0 < den * 2 ^ e * f.block :=
          Nat.mul_pos (Nat.mul_pos positive (by positivity)) f.block_pos
        rw [zero, Nat.zero_mul] at above
        omega
    subst zero first
    rw [nearest_zero]
    simp [roundHalfEven, positive]
  · have notLess := exponent.le_log2 significant positive
    have notMore := exponent.log2_lt significant zero
    -- The guess from the bit lengths is the exponent or one more.
    have guessed : (if num * 2 ^ f.depth <
          den * 2 ^ (num.log2 + f.depth + 1 - (den.log2 + f.precision)) * f.block then
        num.log2 + f.depth + 1 - (den.log2 + f.precision) - 1
        else num.log2 + f.depth + 1 - (den.log2 + f.precision)) = e := by
      have high : num.log2 + f.depth + 1 - (den.log2 + f.precision) = e ∨
          num.log2 + f.depth + 1 - (den.log2 + f.precision) = e + 1 := by omega
      rcases high with high | high
      · rw [high]
        rcases exponent.above with first | above
        · subst first
          split <;> rfl
        · rw [if_neg (Nat.not_lt_of_le above)]
      · rw [high, if_pos]
        · rfl
        · calc num * 2 ^ f.depth < den * 2 ^ e * (2 * f.block) := exponent.below
            _ = den * 2 ^ (e + 1) * f.block := by ring
    unfold nearest
    simp only [Nat.pow_eq, zero, if_false]
    rw [guessed]

/-- The nearest code grows with the fraction, and depends on nothing else. -/
theorem nearest_mono (significant : 0 < f.precision) {num den num' den' : Nat}
    (positive : 0 < den) (positive' : 0 < den') (le : num * den' ≤ num' * den) :
    f.nearest num den ≤ f.nearest num' den' := by
  obtain ⟨e, exponent⟩ := f.exists_hasExponent num positive
  obtain ⟨e', exponent'⟩ := f.exists_hasExponent num' positive'
  rw [nearest_of_hasExponent significant positive exponent,
    nearest_of_hasExponent significant positive' exponent']
  refine min_le_min_left _ ?_
  have unit : 0 < den * 2 ^ e := Nat.mul_pos positive (by positivity)
  have unit' : 0 < den' * 2 ^ e' := Nat.mul_pos positive' (by positivity)
  rcases Nat.lt_or_eq_of_le (exponent.mono positive le exponent') with less | same
  · have rounded : roundHalfEven (num * 2 ^ f.depth) (den * 2 ^ e) ≤ 2 * f.block := by
      have quotient : num * 2 ^ f.depth / (den * 2 ^ e) < 2 * f.block := by
        rw [Nat.div_lt_iff_lt_mul unit]
        calc _ < _ := exponent.below
          _ = _ := by ring
      have := roundHalfEven_le (num * 2 ^ f.depth) (den * 2 ^ e)
      omega
    have rounded' : f.block ≤ roundHalfEven (num' * 2 ^ f.depth) (den' * 2 ^ e') := by
      refine le_trans ?_ (le_roundHalfEven _ _)
      rw [Nat.le_div_iff_mul_le unit', Nat.mul_comm]
      exact exponent'.above.resolve_left (by omega)
    calc e * f.block + roundHalfEven (num * 2 ^ f.depth) (den * 2 ^ e)
        ≤ e * f.block + 2 * f.block := Nat.add_le_add_left rounded _
      _ = (e + 1) * f.block + f.block := by ring
      _ ≤ e' * f.block + f.block := by gcongr; exact less
      _ ≤ e' * f.block + roundHalfEven (num' * 2 ^ f.depth) (den' * 2 ^ e') :=
        Nat.add_le_add_left rounded' _
  · subst same
    refine Nat.add_le_add_left (roundHalfEven_mono unit unit' ?_) _
    calc num * 2 ^ f.depth * (den' * 2 ^ e) = num * den' * (2 ^ f.depth * 2 ^ e) := by ring
      _ ≤ num' * den * (2 ^ f.depth * 2 ^ e) := Nat.mul_le_mul_right _ le
      _ = num' * 2 ^ f.depth * (den * 2 ^ e) := by ring

theorem nearest_mono_num (significant : 0 < f.precision) {m n den : Nat} (positive : 0 < den)
    (le : m ≤ n) : f.nearest m den ≤ f.nearest n den :=
  nearest_mono significant positive positive (Nat.mul_le_mul_right den le)

theorem nearest_congr (significant : 0 < f.precision) {num den num' den' : Nat}
    (positive : 0 < den) (positive' : 0 < den') (same : num * den' = num' * den) :
    f.nearest num den = f.nearest num' den' :=
  Nat.le_antisymm (nearest_mono significant positive positive' (Nat.le_of_eq same))
    (nearest_mono significant positive' positive (Nat.le_of_eq same.symm))

/-! ## Magnitudes -/

theorem significand_lt (f : BinaryFormat) (code : Nat) : f.significand code < 2 * f.block := by
  have blockPos := f.block_pos
  have split := Nat.div_add_mod code f.block
  have rest := Nat.mod_lt code blockPos
  unfold significand exponent
  rcases Nat.eq_zero_or_pos (code / f.block) with zero | positive
  · rw [zero] at split ⊢
    omega
  · obtain ⟨q, quotient⟩ := Nat.exists_eq_add_of_lt positive
    rw [quotient] at split ⊢
    have expand : f.block * (0 + q + 1) = q * f.block + f.block := by ring
    have simple : 0 + q + 1 - 1 = q := by omega
    rw [simple]
    omega

theorem exponent_mul_block_add (f : BinaryFormat) (code : Nat) :
    f.exponent code * f.block + f.significand code = code := by
  have le : f.exponent code * f.block ≤ code := by
    unfold exponent
    calc (code / f.block - 1) * f.block
        ≤ code / f.block * f.block := Nat.mul_le_mul_right _ (Nat.sub_le ..)
      _ ≤ code := Nat.div_mul_le_self _ _
  unfold significand
  omega

theorem hasExponent_numerator (f : BinaryFormat) (code : Nat) :
    f.HasExponent (f.numerator code) (2 ^ f.depth) (f.exponent code) where
  below := by
    calc f.numerator code * 2 ^ f.depth
        = 2 ^ f.depth * 2 ^ f.exponent code * f.significand code := by
          rw [numerator, Nat.pow_eq]; ring
      _ < 2 ^ f.depth * 2 ^ f.exponent code * (2 * f.block) :=
        Nat.mul_lt_mul_of_pos_left (f.significand_lt code) (by positivity)
  above := by
    rcases Nat.eq_zero_or_pos (f.exponent code) with zero | positive
    · exact .inl zero
    · right
      have normal : f.block ≤ f.significand code := by
        have quotient : (f.exponent code + 1) * f.block ≤ code := by
          unfold exponent at positive ⊢
          rw [Nat.sub_add_cancel (by omega)]
          exact Nat.div_mul_le_self _ _
        have := f.exponent_mul_block_add code
        have : (f.exponent code + 1) * f.block = f.exponent code * f.block + f.block := by ring
        omega
      calc 2 ^ f.depth * 2 ^ f.exponent code * f.block
          ≤ 2 ^ f.depth * 2 ^ f.exponent code * f.significand code := Nat.mul_le_mul_left _ normal
        _ = f.numerator code * 2 ^ f.depth := by rw [numerator, Nat.pow_eq]; ring

/-- A magnitude is nearest to itself. -/
theorem nearest_numerator (significant : 0 < f.precision) {code : Nat} (le : code ≤ f.ceiling) :
    f.nearest (f.numerator code) (2 ^ f.depth) = code := by
  have positive : 0 < 2 ^ f.depth := by positivity
  rw [nearest_of_hasExponent significant positive (f.hasExponent_numerator code)]
  have exactly : f.numerator code * 2 ^ f.depth =
      f.significand code * (2 ^ f.depth * 2 ^ f.exponent code) := by
    rw [numerator, Nat.pow_eq]
    ring
  rw [exactly, roundHalfEven_mul (by positivity), f.exponent_mul_block_add]
  exact min_eq_right le

/-- Greater codes stand for greater magnitudes. -/
theorem numerator_mono (significant : 0 < f.precision) {code code' : Nat} (le : code ≤ code')
    (bounded : code' ≤ f.ceiling) : f.numerator code ≤ f.numerator code' := by
  by_contra more
  have same : code' ≤ code := by
    rw [← nearest_numerator significant bounded,
      ← nearest_numerator significant (le.trans bounded)]
    refine nearest_mono significant (by positivity) (by positivity) ?_
    gcongr
    omega
  have := Nat.le_antisymm le same
  subst this
  exact more le_rfl

end BinaryFormat
end VectorStore
