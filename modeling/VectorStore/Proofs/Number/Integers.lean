import VectorStore.Json.Basic
import VectorStore.Proofs.Number.Comparison

/-!
Whole numbers as doubles. Rounding keeps their order (`signedCode_doubleOfInt_mono`), but it does
not keep them apart: all numbers from `2 ^ 63 - 512` to `2 ^ 63 + 1024` have one double
(`nearest_eq_signedBound_iff`).
-/
namespace VectorStore

/-- The last numbers that have the double of `2 ^ 63`, and the first ones that have not; and the
magnitudes of the integers of JSON stay finite. -/
theorem nearest_signedBound :
    binary64.nearest (signedBound - 513) 1 < binary64.nearest signedBound 1 ∧
      binary64.nearest (signedBound - 512) 1 = binary64.nearest signedBound 1 ∧
      binary64.nearest (signedBound + 1024) 1 = binary64.nearest signedBound 1 ∧
      binary64.nearest signedBound 1 < binary64.nearest (signedBound + 1025) 1 ∧
      binary64.nearest sizeBound 1 < binary64.ceiling := by
  decide +kernel

theorem nearest_mono_natural {m n : Nat} (le : m ≤ n) :
    binary64.nearest m 1 ≤ binary64.nearest n 1 :=
  BinaryFormat.nearest_mono_num (by decide) Nat.one_pos le

theorem nearest_eq_signedBound_iff {n : Nat} :
    binary64.nearest n 1 = binary64.nearest signedBound 1 ↔
      signedBound - 512 ≤ n ∧ n ≤ signedBound + 1024 := by
  obtain ⟨below, first, last, above, -⟩ := nearest_signedBound
  constructor
  · intro same
    constructor
    · by_contra less
      have := nearest_mono_natural (show n ≤ signedBound - 513 by omega)
      omega
    · by_contra more
      have := nearest_mono_natural (show signedBound + 1025 ≤ n by omega)
      omega
  · rintro ⟨more, less⟩
    have := nearest_mono_natural more
    have := nearest_mono_natural less
    omega

/-! ## Doubles of integers -/

theorem natAbs_le_of_fitsJson {n : Int} (fits : fitsJson n = true) : n.natAbs ≤ sizeBound := by
  simp only [fitsJson, Bool.and_eq_true, decide_eq_true_eq] at fits
  have signed : signedBound ≤ sizeBound := by decide
  omega

theorem fitsJson_of_fitsSigned {n : Int} (fits : fitsSigned n = true) : fitsJson n = true := by
  simp only [fitsJson, fitsSigned, Bool.and_eq_true, decide_eq_true_eq] at *
  have signed : signedBound ≤ sizeBound := by decide
  omega

section
variable {n : Int} (fits : fitsJson n = true)
include fits

theorem doubleCode_doubleOfInt : doubleCode (doubleOfInt n) = binary64.nearest n.natAbs 1 ∧
    doubleNegative (doubleOfInt n) = decide (n < 0) := by
  have within := nearest_mono_natural (natAbs_le_of_fitsJson fits)
  exact doubleCode_double _ (Nat.lt_of_le_of_lt within nearest_signedBound.2.2.2.2)

theorem finite_doubleOfInt : doubleFinite (doubleOfInt n) = true := by
  have within := nearest_mono_natural (natAbs_le_of_fitsJson fits)
  rw [doubleFinite, (doubleCode_doubleOfInt fits).1, decide_eq_true_eq]
  exact Nat.lt_of_le_of_lt within nearest_signedBound.2.2.2.2

theorem signedCode_doubleOfInt : signedCode (doubleOfInt n) =
    if n < 0 then -(binary64.nearest n.natAbs 1 : Int) else binary64.nearest n.natAbs 1 := by
  obtain ⟨code, sign⟩ := doubleCode_doubleOfInt fits
  rw [signedCode_eq, code, sign]
  simp

end

/-- Greater integers have no smaller doubles. -/
theorem signedCode_doubleOfInt_mono {m n : Int} (fits : fitsJson m = true)
    (fits' : fitsJson n = true) (le : m ≤ n) :
    signedCode (doubleOfInt m) ≤ signedCode (doubleOfInt n) := by
  rw [signedCode_doubleOfInt fits, signedCode_doubleOfInt fits']
  split_ifs with negative negative'
  · have := nearest_mono_natural (show n.natAbs ≤ m.natAbs by omega)
    omega
  · omega
  · omega
  · have := nearest_mono_natural (show m.natAbs ≤ n.natAbs by omega)
    omega

end VectorStore
