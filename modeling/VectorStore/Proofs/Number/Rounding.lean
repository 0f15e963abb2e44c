import VectorStore.Proofs.Number.Nearest
import Mathlib

/-!
Doubles between their codes and their significands: a finite double unpacks to the significand
and exponent of its code (`unpack_of_finite`), and rounding a significand packs to the code
nearest to its value (`code_roundWithAccuracy`).
-/
namespace VectorStore
open Float.Model Float.Model.UnpackedFloat

/-! ## Significands with their residual bits -/

/-- An extended mantissa and a fraction that it cuts off: the bits of the mantissa, one bit more,
and whether anything is left after that. -/
def Truncates (em : ExtendedMantissa) (num den : Nat) : Prop :=
  ∃ rest, rest < den ∧ 2 * num = den * (2 * em.mantissa + em.roundBit.toNat) + rest ∧
    (em.stickyBit = true ↔ rest ≠ 0)

theorem Truncates.den_pos {em : ExtendedMantissa} {num den : Nat}
    (truncates : Truncates em num den) : 0 < den := by
  obtain ⟨rest, less, -, -⟩ := truncates
  omega

theorem truncates_exact (m : Nat) : Truncates (.ofMantissaAndAccuracy m .exact) m 1 :=
  ⟨0, by decide, by simp [ExtendedMantissa.ofMantissaAndAccuracy], by
    simp [ExtendedMantissa.ofMantissaAndAccuracy]⟩

theorem truncates_shiftRightOne {em : ExtendedMantissa} {num den : Nat}
    (truncates : Truncates em num den) : Truncates em.shiftRightOne num (2 * den) := by
  obtain ⟨rest, less, split, sticky⟩ := truncates
  refine ⟨den * em.roundBit.toNat + rest, ?_, ?_, ?_⟩
  · cases em.roundBit <;> simp only [Bool.toNat_false, Bool.toNat_true] <;> omega
  · have halves := Nat.div_add_mod em.mantissa 2
    have bit : (em.mantissa % 2 != 0).toNat = em.mantissa % 2 := by
      rcases Nat.mod_two_eq_zero_or_one em.mantissa with zero | one <;> simp [*]
    rw [ExtendedMantissa.shiftRightOne]
    dsimp only
    rw [bit, split]
    calc den * (2 * em.mantissa + em.roundBit.toNat) + rest
        = 2 * den * em.mantissa + (den * em.roundBit.toNat + rest) := by ring
      _ = 2 * den * (2 * (em.mantissa / 2) + em.mantissa % 2) +
          (den * em.roundBit.toNat + rest) := by rw [halves]
  · rw [ExtendedMantissa.shiftRightOne]
    dsimp only
    cases em.roundBit with
    | false => simp [sticky]
    | true => simp; omega

theorem truncates_shiftRight {em : ExtendedMantissa} {num den : Nat}
    (truncates : Truncates em num den) (k : Nat) : Truncates (em >>> k) num (2 ^ k * den) := by
  induction k with
  | zero =>
    rw [Nat.pow_zero, Nat.one_mul]
    exact truncates
  | succ k ih =>
    have shifted := truncates_shiftRightOne ih
    rwa [← Nat.mul_assoc, ← Nat.pow_succ'] at shifted

theorem Truncates.mantissa {em : ExtendedMantissa} {num den : Nat}
    (truncates : Truncates em num den) : em.mantissa = num / den := by
  have positive := truncates.den_pos
  obtain ⟨rest, less, split, -⟩ := truncates
  have whole : den * (2 * em.mantissa + em.roundBit.toNat) =
      2 * (den * em.mantissa) + den * em.roundBit.toNat := by ring
  have bit : den * em.roundBit.toNat ≤ den := by cases em.roundBit <;> simp
  symm
  rw [Nat.div_eq_iff positive, Nat.mul_comm em.mantissa]
  omega

/-- Rounding by the residual bits rounds the fraction. -/
theorem Truncates.rounded {em : ExtendedMantissa} {num den : Nat}
    (truncates : Truncates em num den) : em.roundedMantissa = roundHalfEven num den := by
  have whole := truncates.mantissa
  have parts := Nat.div_add_mod num den
  obtain ⟨rest, less, split, sticky⟩ := truncates
  obtain ⟨mantissa, round, remains⟩ := em
  dsimp only at whole split sticky
  subst whole
  have double : 2 * (num % den) = den * round.toNat + rest := by
    have expanded : den * (2 * (num / den) + round.toNat) =
        2 * (den * (num / den)) + den * round.toNat := by ring
    omega
  unfold roundHalfEven
  cases round <;> cases remains <;>
    simp [ExtendedMantissa.roundedMantissa, ExtendedMantissa.accuracy,
      Accuracy.roundToNearestEven] at sticky double ⊢
  · omega
  · omega
  · subst sticky
    rcases Nat.mod_two_eq_zero_or_one (num / den) with even | odd <;> simp [*]
  · omega

/-! ## Packing -/

/-- The double of an unpacked one. -/
def packed (u : UnpackedFloat) : Float := .ofModel (.pack u)

theorem toNat_packComponents (s : Sign) (e : BitVec 11) (m : BitVec 52) :
    (packComponents Format.binary64 s e m).toNat =
      s.toBitVec.toNat * 2 ^ 63 + (e.toNat * 2 ^ 52 + m.toNat) := by
  have exponentLess := e.isLt
  have mantissaLess := m.isLt
  show (s.toBitVec ++ e ++ m).toNat = _
  rw [BitVec.toNat_append, ← Nat.shiftLeft_add_eq_or_of_lt mantissaLess, BitVec.toNat_append,
    ← Nat.shiftLeft_add_eq_or_of_lt exponentLess, Nat.shiftLeft_eq, Nat.shiftLeft_eq]
  ring

/-- A double by the parts of its bits. -/
theorem doubleCode_of_components {x : Float} {s : Sign} {e : BitVec 11} {m : BitVec 52}
    (bits : x.toBits.toBitVec = packComponents Format.binary64 s e m) :
    doubleCode x = e.toNat * 2 ^ 52 + m.toNat ∧ doubleNegative x = (s == .negative) := by
  have exponentLess := e.isLt
  have mantissaLess := m.isLt
  have value : x.toBits.toNat = s.toBitVec.toNat * 2 ^ 63 + (e.toNat * 2 ^ 52 + m.toNat) := by
    rw [← toNat_packComponents, ← bits]
    rfl
  unfold doubleCode doubleNegative doubleSpan
  rw [value]
  cases s
  · have sign : Sign.negative.toBitVec.toNat = 1 := rfl
    rw [sign]
    exact ⟨by norm_num; omega, decide_eq_true (by norm_num)⟩
  · have sign : Sign.positive.toBitVec.toNat = 0 := rfl
    rw [sign]
    exact ⟨by norm_num; omega, decide_eq_false (by norm_num; omega)⟩

theorem packed_zero (s : Sign) :
    doubleCode (packed (.zero s)) = 0 ∧ doubleNegative (packed (.zero s)) = (s == .negative) := by
  have components := doubleCode_of_components (x := packed (.zero s)) (s := s) (e := 0) (m := 0) rfl
  simpa using components

theorem toBits_packed_finite (s : Sign) {m : Nat} (e : Nat) (positive : 0 < m) :
    (packed (.finite s m (e - 1074) positive)).toBits.toBitVec =
      if 2 ^ 11 ≤ e + 1 + 1 then packComponents Format.binary64 s (-1#11) 0#52
      else if m.log2 + 1 = 53 then
        packComponents Format.binary64 s (BitVec.ofNat 11 (e + 1)) (BitVec.ofNat 52 m)
      else packComponents Format.binary64 s 0#11 (BitVec.ofNat 52 m) := by
  have biased : ((e : Int) - 1074 + Format.binary64.exponentBias +
      Format.binary64.mantissaBitsWithoutImplicit).toNat = e + 1 := by
    have bias : (Format.binary64.exponentBias : Int) = 1023 := rfl
    have width : (Format.binary64.mantissaBitsWithoutImplicit : Int) = 52 := rfl
    rw [bias, width]
    omega
  have packs : (packed (.finite s m (e - 1074) positive)).toBits.toBitVec =
    UnpackedFloat.pack Format.binary64 (.finite s m (e - 1074) positive) := rfl
  rw [packs, UnpackedFloat.pack]
  dsimp only
  rw [biased]
  rfl

/-- A significand of at most 53 bits, with all of them unless its exponent is the least, packs to
the code it has in its block; past the last block it packs to infinity. -/
theorem packed_finite (s : Sign) {m e : Nat} (positive : 0 < m) (bits : m < 2 ^ 53)
    (normal : e = 0 ∨ 2 ^ 52 ≤ m) :
    doubleCode (packed (.finite s m (e - 1074) positive)) = min binary64.ceiling (e * 2 ^ 52 + m) ∧
      doubleNegative (packed (.finite s m (e - 1074) positive)) = (s == .negative) := by
  have ceiling : binary64.ceiling = 2047 * 2 ^ 52 := rfl
  have nonzero : m ≠ 0 := Nat.ne_of_gt positive
  have bits' := toBits_packed_finite s e positive
  rw [ceiling]
  split at bits'
  next large =>
    obtain ⟨code, sign⟩ := doubleCode_of_components bits'
    have last : (-1#11 : BitVec 11).toNat = 2047 := by decide
    rw [last, BitVec.toNat_zero] at code
    exact ⟨by omega, sign⟩
  next small =>
    split at bits'
    next full =>
      have highest : 2 ^ 52 ≤ m := by
        rw [← Nat.le_log2 nonzero]
        omega
      obtain ⟨code, sign⟩ := doubleCode_of_components bits'
      rw [BitVec.toNat_ofNat, BitVec.toNat_ofNat] at code
      exact ⟨by omega, sign⟩
    next short =>
      have lower : ¬ 2 ^ 52 ≤ m := by
        rw [← Nat.le_log2 nonzero]
        have upper := (Nat.log2_lt nonzero).mpr bits
        omega
      obtain ⟨code, sign⟩ := doubleCode_of_components bits'
      rw [BitVec.toNat_zero, BitVec.toNat_ofNat] at code
      exact ⟨by omega, sign⟩

/-! ## Unpacking -/

/-- The sign of the bits of a double. -/
def bitsSign (bits : UInt64) : Sign := if doubleSpan ≤ bits.toNat then .negative else .positive

theorem unpackMantissa_toNat (bits : UInt64) :
    (@unpackMantissa Format.binary64 bits.toBitVec).toNat =
      bits.toNat % doubleSpan % 2 ^ 52 := by
  have cut : (@unpackMantissa Format.binary64 bits.toBitVec).toNat =
      bits.toNat >>> 0 % 2 ^ 52 := rfl
  rw [cut, Nat.shiftRight_zero, doubleSpan]
  norm_num

theorem unpackExponent_toNat (bits : UInt64) :
    (@unpackExponent Format.binary64 bits.toBitVec).toNat =
      bits.toNat % doubleSpan / 2 ^ 52 := by
  have cut : (@unpackExponent Format.binary64 bits.toBitVec).toNat =
      bits.toNat >>> 52 % 2 ^ 11 := rfl
  rw [cut, Nat.shiftRight_eq_div_pow, doubleSpan]
  norm_num
  omega

theorem unpackSign_eq (bits : UInt64) :
    Sign.ofBitVec (@unpackSign Format.binary64 bits.toBitVec) = bitsSign bits := by
  have cut : (@unpackSign Format.binary64 bits.toBitVec).toNat =
      bits.toNat >>> 63 % 2 ^ 1 := rfl
  have less : bits.toNat < 2 ^ 64 := bits.toNat_lt
  rw [Nat.shiftRight_eq_div_pow] at cut
  have positive : @unpackSign Format.binary64 bits.toBitVec = 0#1 ↔
      ¬ doubleSpan ≤ bits.toNat := by
    rw [← BitVec.toNat_inj, cut, BitVec.toNat_zero, doubleSpan, Nat.pow_eq]
    omega
  unfold Sign.ofBitVec bitsSign
  by_cases negative : doubleSpan ≤ bits.toNat
  · rw [if_neg (positive.not.mpr (not_not_intro negative)), if_pos negative]
  · rw [if_pos (positive.mpr negative), if_neg negative]

theorem finite_congr (s : Sign) {m m' : Nat} {e e' : Int} (positive : 0 < m) (sameM : m = m')
    (sameE : e = e') : ∃ positive' : 0 < m',
      UnpackedFloat.finite s m e positive = .finite s m' e' positive' := by
  subst sameM sameE
  exact ⟨positive, rfl⟩

/-- The bits of a finite double unpack to a signed zero, or to the significand and exponent of
their code. -/
theorem unpack_of_bits {bits : UInt64} (finite : bits.toNat % doubleSpan < binary64.ceiling) :
    (bits.toNat % doubleSpan = 0 ∧
        UnpackedFloat.unpack Format.binary64 bits.toBitVec = .zero (bitsSign bits)) ∨
      ∃ positive : 0 < binary64.significand (bits.toNat % doubleSpan),
        UnpackedFloat.unpack Format.binary64 bits.toBitVec =
          .finite (bitsSign bits) (binary64.significand (bits.toNat % doubleSpan))
            ((binary64.exponent (bits.toNat % doubleSpan) : Nat) - 1074) positive := by
  have mantissa := unpackMantissa_toNat bits
  have exponent := unpackExponent_toNat bits
  have sign := unpackSign_eq bits
  have ceiling : binary64.ceiling = 2047 * 2 ^ 52 := rfl
  rw [ceiling] at finite
  generalize bits.toNat % doubleSpan = code at *
  have noSpecial : @unpackExponent Format.binary64 bits.toBitVec ≠ -1#_ := by
    rw [ne_eq, ← BitVec.toNat_inj, exponent]
    have last : (-1#11 : BitVec 11).toNat = 2047 := by decide
    rw [last]
    omega
  have block : binary64.block = 2 ^ 52 := rfl
  have bias : ((Format.binary64.exponentBias : Int) +
      (Format.binary64.mantissaBitsWithoutImplicit : Int)) = 1075 := rfl
  rw [UnpackedFloat.unpack]
  dsimp only
  rw [if_neg noSpecial, sign]
  by_cases subnormal : @unpackExponent Format.binary64 bits.toBitVec = 0#11
  · rw [if_pos subnormal]
    rw [← BitVec.toNat_inj, exponent, BitVec.toNat_zero] at subnormal
    by_cases zero : @unpackMantissa Format.binary64 bits.toBitVec = 0#52
    · rw [dif_pos zero]
      rw [← BitVec.toNat_inj, mantissa, BitVec.toNat_zero] at zero
      exact .inl ⟨by omega, rfl⟩
    · rw [dif_neg zero]
      right
      refine finite_congr _ _ ?_ ?_
      · rw [mantissa]
        unfold BinaryFormat.significand BinaryFormat.exponent
        rw [block]
        omega
      · rw [exponent, bias]
        unfold BinaryFormat.exponent
        rw [block]
        omega
  · rw [if_neg subnormal]
    rw [← BitVec.toNat_inj, exponent, BitVec.toNat_zero] at subnormal
    right
    refine finite_congr _ _ ?_ ?_
    · have implicit : (1#1 ++ @unpackMantissa Format.binary64 bits.toBitVec).toNat =
          2 ^ 52 + code % 2 ^ 52 := by
        rw [BitVec.toNat_append, ← Nat.shiftLeft_add_eq_or_of_lt (BitVec.isLt _), mantissa]
        rfl
      rw [implicit]
      unfold BinaryFormat.significand BinaryFormat.exponent
      rw [block]
      omega
    · rw [exponent, bias]
      unfold BinaryFormat.exponent
      rw [block]
      omega

/-- The significand of a finite double has all its bits, unless its exponent is the least. -/
theorem significand_bits (code : Nat) : binary64.significand code < 2 ^ 53 ∧
    (binary64.exponent code = 0 ∨ 2 ^ 52 ≤ binary64.significand code) := by
  have bits := binary64.significand_lt code
  have block : binary64.block = 2 ^ 52 := rfl
  rw [block] at bits
  unfold BinaryFormat.significand BinaryFormat.exponent at *
  rw [block] at *
  omega

/-- A double has the sign and the code that it is made of. -/
theorem doubleCode_double (negative : Bool) {code : Nat} (finite : code < binary64.ceiling) :
    doubleCode (double negative code) = code ∧
      doubleNegative (double negative code) = negative := by
  have ceiling : binary64.ceiling = 2047 * 2 ^ 52 := rfl
  have span : doubleSpan = 2 ^ 63 := rfl
  generalize bitsEq : UInt64.ofNat (if negative then doubleSpan + code else code) = bits
  have value : bits.toNat = if negative then doubleSpan + code else code := by
    rw [← bitsEq, UInt64.toNat_ofNat', Nat.mod_eq_of_lt]
    split <;> omega
  have double : double negative code =
      packed (UnpackedFloat.unpack Format.binary64 bits.toBitVec) := by
    rw [← bitsEq]
    rfl
  have sameCode : bits.toNat % doubleSpan = code := by
    rw [value, span]
    split <;> omega
  have sameSign : (bitsSign bits == .negative) = negative := by
    unfold bitsSign
    cases negative
    · rw [if_neg (by simp at value; omega)]
      rfl
    · rw [if_pos (by simp at value; omega)]
      rfl
  rw [double]
  rcases unpack_of_bits (by rw [sameCode]; exact finite) with ⟨zero, unpacks⟩ | ⟨positive, unpacks⟩
  · rw [unpacks, ← sameCode, zero, ← sameSign]
    exact packed_zero _
  · obtain ⟨bound, normal⟩ := significand_bits (bits.toNat % doubleSpan)
    rw [unpacks, ← sameSign]
    obtain ⟨packedCode, packedSign⟩ := packed_finite (bitsSign bits) positive bound normal
    have whole := binary64.exponent_mul_block_add (bits.toNat % doubleSpan)
    rw [show binary64.block = 2 ^ 52 from rfl] at whole
    refine ⟨?_, packedSign⟩
    rw [packedCode, whole, sameCode, Nat.min_eq_right finite.le]

/-! ## Rounding -/

/-- The fraction `n / d` is `num / den * 2 ^ e`. -/
def IsScaled (n d num den : Nat) (e : Int) : Prop :=
  n * (den * 2 ^ (-e).toNat) = num * 2 ^ e.toNat * d

theorem targetExponent_eq (m : Nat) (e : Int) :
    Format.binary64.targetExponent (totalExponent m e) = max (m.log2 + e - 52) (-1074) := by
  have bits : (Format.binary64.mantissaBits : Int) = 53 := rfl
  have least : Format.binary64.minExponent = -1074 := rfl
  unfold Format.targetExponent totalExponent
  rw [bits, least]
  omega

/-- Shifting right until the exponent of a mantissa is that of a fraction with the same value. -/
structure Settled (m : Nat) (e : Int) (num den n d shift place : Nat) : Prop where
  shifted : e + shift = place - 1074
  exponent : binary64.HasExponent n d place
  rounded : roundHalfEven num (2 ^ shift * den) =
    roundHalfEven (n * 2 ^ binary64.depth) (d * 2 ^ place)

section
variable {n d num den down up shift place : Nat}

/-- The exponent of a fraction is that of a mantissa of 53 bits with the same value, or of fewer
where it is the least one. -/
theorem hasExponent_of_scaled (denPositive : 0 < den)
    (value : n * (den * 2 ^ down) = num * 2 ^ up * d) (positive : 0 < d)
    (powers : 2 ^ place * 2 ^ down = 2 ^ binary64.depth * 2 ^ up * 2 ^ shift)
    (less : num < 2 ^ 53 * 2 ^ shift * den) (more : place = 0 ∨ 2 ^ 52 * 2 ^ shift * den ≤ num) :
    binary64.HasExponent n d place := by
  have unit : 0 < den * 2 ^ down := Nat.mul_pos denPositive (by positivity)
  have block : binary64.block = 2 ^ 52 := rfl
  refine ⟨?_, more.imp_right fun more => ?_⟩
  · rw [block]
    refine Nat.lt_of_mul_lt_mul_right (a := den * 2 ^ down) ?_
    calc n * 2 ^ binary64.depth * (den * 2 ^ down)
      _ = n * (den * 2 ^ down) * 2 ^ binary64.depth := by ring
      _ = num * (2 ^ up * d * 2 ^ binary64.depth) := by rw [value]; ring
      _ < 2 ^ 53 * 2 ^ shift * den * (2 ^ up * d * 2 ^ binary64.depth) :=
        Nat.mul_lt_mul_of_pos_right less (by positivity)
      _ = d * den * 2 ^ 53 * (2 ^ binary64.depth * 2 ^ up * 2 ^ shift) := by ring
      _ = d * den * 2 ^ 53 * (2 ^ place * 2 ^ down) := by rw [powers]
      _ = d * 2 ^ place * (2 * 2 ^ 52) * (den * 2 ^ down) := by ring
  · rw [block]
    refine Nat.le_of_mul_le_mul_right (c := den * 2 ^ down) ?_ unit
    calc d * 2 ^ place * 2 ^ 52 * (den * 2 ^ down)
      _ = d * den * 2 ^ 52 * (2 ^ place * 2 ^ down) := by ring
      _ = d * den * 2 ^ 52 * (2 ^ binary64.depth * 2 ^ up * 2 ^ shift) := by rw [powers]
      _ = 2 ^ 52 * 2 ^ shift * den * (2 ^ up * d * 2 ^ binary64.depth) := by ring
      _ ≤ num * (2 ^ up * d * 2 ^ binary64.depth) := Nat.mul_le_mul_right _ more
      _ = n * (den * 2 ^ down) * 2 ^ binary64.depth := by rw [value]; ring
      _ = n * 2 ^ binary64.depth * (den * 2 ^ down) := by ring

theorem roundHalfEven_of_scaled (denPositive : 0 < den)
    (value : n * (den * 2 ^ down) = num * 2 ^ up * d) (positive : 0 < d)
    (powers : 2 ^ place * 2 ^ down = 2 ^ binary64.depth * 2 ^ up * 2 ^ shift) :
    roundHalfEven num (2 ^ shift * den) =
      roundHalfEven (n * 2 ^ binary64.depth) (d * 2 ^ place) := by
  refine roundHalfEven_congr (by positivity) (by positivity) ?_
  refine Nat.eq_of_mul_eq_mul_right (show 0 < 2 ^ down by positivity) ?_
  calc num * (d * 2 ^ place) * 2 ^ down = num * d * (2 ^ place * 2 ^ down) := by ring
    _ = num * d * (2 ^ binary64.depth * 2 ^ up * 2 ^ shift) := by rw [powers]
    _ = num * 2 ^ up * d * (2 ^ binary64.depth * 2 ^ shift) := by ring
    _ = n * (den * 2 ^ down) * (2 ^ binary64.depth * 2 ^ shift) := by rw [value]
    _ = n * 2 ^ binary64.depth * (2 ^ shift * den) * 2 ^ down := by ring

end

theorem settled_of_isScaled {m num den n d : Nat} {e : Int} (whole : m = num / den)
    (denPositive : 0 < den) (positive : 0 < d)
    (enough : e ≤ Format.binary64.targetExponent (totalExponent m e))
    (value : IsScaled n d num den e) :
    ∃ place, Settled m e num den n d
      (Format.binary64.targetExponent (totalExponent m e) - e).toNat place := by
  rw [targetExponent_eq] at enough ⊢
  unfold IsScaled at value
  generalize shiftEq : (max ((m.log2 : Int) + e - 52) (-1074) - e).toNat = shift
  generalize placeEq : (max ((m.log2 : Int) + e - 52) (-1074) + 1074).toNat = place
  generalize downEq : (-e).toNat = down at value
  generalize upEq : e.toNat = up at value
  have depth : binary64.depth = 1074 := rfl
  have places : place + down = binary64.depth + up + shift := by omega
  have powers : (2 : Nat) ^ place * 2 ^ down = 2 ^ binary64.depth * 2 ^ up * 2 ^ shift := by
    rw [← pow_add, ← pow_add, ← pow_add, places]
  have less : num < 2 ^ 53 * 2 ^ shift * den := by
    have bits : (2 : Nat) ^ (m.log2 + 1) ≤ 2 ^ 53 * 2 ^ shift := by
      rw [← pow_add]
      exact Nat.pow_le_pow_right (by decide) (by omega)
    have below : num / den < 2 ^ (m.log2 + 1) := by rw [← whole]; exact Nat.lt_log2_self
    exact (Nat.div_lt_iff_lt_mul denPositive).mp (below.trans_le bits)
  have more : place = 0 ∨ 2 ^ 52 * 2 ^ shift * den ≤ num := by
    rcases Nat.eq_zero_or_pos place with zero | placePositive
    · exact .inl zero
    · right
      have bits : m.log2 = 52 + shift := by omega
      have nonzero : m ≠ 0 := by
        rintro rfl
        rw [Nat.log2_zero] at bits
        omega
      have above := Nat.log2_self_le nonzero
      rw [bits, pow_add, whole] at above
      exact (Nat.le_div_iff_mul_le denPositive).mp above
  exact ⟨place, by omega, hasExponent_of_scaled denPositive value positive powers less more,
    roundHalfEven_of_scaled denPositive value positive powers⟩

theorem shiftToTargetExponent_eq (m : Nat) (e : Int) (accuracy : Accuracy) :
    shiftToTargetExponent Format.binary64 m e accuracy =
      (ExtendedMantissa.ofMantissaAndAccuracy m accuracy >>>
          (Format.binary64.targetExponent (totalExponent m e) - e).toNat,
        e + (Format.binary64.targetExponent (totalExponent m e) - e).toNat) := rfl

/-- A rounded significand needs no second shift, or one of the single bit that the rounding
carried into. -/
theorem secondShift {rounded place : Nat} (bound : rounded ≤ 2 ^ 53) :
    (rounded < 2 ^ 53 ∧ shiftToTargetExponent Format.binary64 rounded (place - 1074) .exact =
        (⟨rounded, false, false⟩, (place : Int) - 1074)) ∨
      (rounded = 2 ^ 53 ∧ shiftToTargetExponent Format.binary64 rounded (place - 1074) .exact =
        (⟨2 ^ 52, false, false⟩, ((place + 1 : Nat) : Int) - 1074)) := by
  rw [shiftToTargetExponent_eq, targetExponent_eq]
  rcases Nat.lt_or_eq_of_le bound with less | full
  · left
    have bits : rounded.log2 ≤ 52 := by
      by_cases zero : rounded = 0
      · simp [zero]
      · have := (Nat.log2_lt zero).mpr less
        omega
    have none : (max ((rounded.log2 : Int) + (place - 1074) - 52) (-1074) -
        ((place : Int) - 1074)).toNat = 0 := by omega
    rw [none]
    exact ⟨less, by simp [ExtendedMantissa.ofMantissaAndAccuracy]; rfl⟩
  · right
    subst full
    have one : (max (((2 ^ 53 : Nat).log2 : Int) + (place - 1074) - 52) (-1074) -
        ((place : Int) - 1074)).toNat = 1 := by
      rw [Nat.log2_two_pow]
      omega
    rw [one]
    refine ⟨rfl, Prod.ext rfl ?_⟩
    dsimp only
    omega

/-- Rounding a mantissa with its residual bits, where none are missing, gives the code nearest to
the value that they cut off. -/
theorem code_roundWithAccuracy (s : Sign) {m : Nat} {e : Int} {accuracy : Accuracy}
    {num den n d : Nat} (truncates : Truncates (.ofMantissaAndAccuracy m accuracy) num den)
    (enough : e ≤ Format.binary64.targetExponent (totalExponent m e)) (positive : 0 < d)
    (value : IsScaled n d num den e) :
    doubleCode (packed (roundWithAccuracy Format.binary64 s m e accuracy)) =
        binary64.nearest n d ∧
      doubleNegative (packed (roundWithAccuracy Format.binary64 s m e accuracy)) =
        (s == .negative) := by
  have whole : m = num / den := by
    rw [← truncates.mantissa]
    cases accuracy with
    | exact => rfl
    | inexact order => cases order <;> rfl
  obtain ⟨place, shifted, exponent, rounded⟩ :=
    settled_of_isScaled whole truncates.den_pos positive enough value
  have firstRounded := (truncates_shiftRight truncates
    (Format.binary64.targetExponent (totalExponent m e) - e).toNat).rounded
  rw [rounded] at firstRounded
  have unit : 0 < d * 2 ^ place := Nat.mul_pos positive (by positivity)
  have upper : roundHalfEven (n * 2 ^ binary64.depth) (d * 2 ^ place) ≤ 2 ^ 53 := by
    have below : n * 2 ^ binary64.depth / (d * 2 ^ place) < 2 ^ 53 := by
      rw [Nat.div_lt_iff_lt_mul unit]
      calc _ < _ := exponent.below
        _ = _ := by rw [show binary64.block = 2 ^ 52 from rfl]; ring
    have := roundHalfEven_le (n * 2 ^ binary64.depth) (d * 2 ^ place)
    omega
  have lower : place = 0 ∨ 2 ^ 52 ≤ roundHalfEven (n * 2 ^ binary64.depth) (d * 2 ^ place) := by
    refine exponent.above.imp_right fun above => le_trans ?_ (le_roundHalfEven _ _)
    rw [Nat.le_div_iff_mul_le unit]
    calc _ = _ := by rw [show binary64.block = 2 ^ 52 from rfl]; ring
      _ ≤ _ := above
  have code := BinaryFormat.nearest_of_hasExponent (by decide) positive exponent
  rw [show binary64.block = 2 ^ 52 from rfl] at code
  rw [code]
  unfold roundWithAccuracy
  rw [shiftToTargetExponent_eq m e accuracy]
  dsimp only
  rw [firstRounded, shifted]
  generalize roundHalfEven (n * 2 ^ binary64.depth) (d * 2 ^ place) = r at upper lower ⊢
  rcases @secondShift _ place upper with ⟨less, shift⟩ | ⟨full, shift⟩
  · rw [shift]
    dsimp only
    by_cases zero : r = 0
    · rw [dif_pos zero]
      have first : place = 0 := lower.resolve_right (by omega)
      subst zero first
      simpa using packed_zero s
    · rw [dif_neg zero]
      exact packed_finite s _ less lower
  · rw [shift]
    dsimp only
    rw [dif_neg (by decide)]
    have carried := packed_finite s (m := 2 ^ 52) (e := place + 1) (by decide) (by decide)
      (.inr le_rfl)
    have same : (place + 1) * 2 ^ 52 + 2 ^ 52 = place * 2 ^ 52 + r := by omega
    rwa [same] at carried

end VectorStore
