/-!
Binary floating-point numbers by their codes. The magnitudes of a format are numbered in
increasing order, zero first and infinity last among the numbers, so that rounding a fraction
is a map into these codes and comparing magnitudes is comparing codes. All rounding in the
library goes to the nearest magnitude, a tie to the even code, and is done in exact arithmetic.
-/
namespace VectorStore

/-- A quotient rounded to the nearest whole number, a tie to the even one. -/
def roundHalfEven (num den : Nat) : Nat :=
  let q := num / den
  let r := num % den
  if 2 * r < den ∨ (2 * r = den ∧ q % 2 = 0) then q else q + 1

/-- A binary format: significands have `precision` bits and the smallest positive magnitude is
`2 ^ -depth`. `ceiling` is the code of infinity; greater codes are not numbers. -/
structure BinaryFormat where
  precision : Nat
  depth : Nat
  ceiling : Nat

/-- The 64-bit format. -/
def binary64 : BinaryFormat := ⟨53, 1074, 2047 * Nat.pow 2 52⟩
/-- The 32-bit format. -/
def binary32 : BinaryFormat := ⟨24, 149, 255 * Nat.pow 2 23⟩

namespace BinaryFormat

/-- The codes of one exponent. -/
def block (f : BinaryFormat) : Nat := Nat.pow 2 (f.precision - 1)
/-- The exponent of a magnitude, counted from that of the smallest one. -/
def exponent (f : BinaryFormat) (code : Nat) : Nat := code / f.block - 1
/-- The significand of a magnitude: `code` stands for
`significand code * 2 ^ (exponent code) / 2 ^ depth`. -/
def significand (f : BinaryFormat) (code : Nat) : Nat := code - f.exponent code * f.block
/-- The magnitude of a code as a fraction over `2 ^ depth`. -/
def numerator (f : BinaryFormat) (code : Nat) : Nat :=
  f.significand code * Nat.pow 2 (f.exponent code)

/-- The code of the magnitude nearest to `num / den`; a tie goes to the even code, and what
rounds past the greatest magnitude is infinite. -/
def nearest (f : BinaryFormat) (num den : Nat) : Nat :=
  let scaled := num * Nat.pow 2 f.depth
  let high := (num.log2 + f.depth + 1) - (den.log2 + f.precision)
  let exponent := if scaled < den * Nat.pow 2 high * f.block then high - 1 else high
  if num = 0 then 0
  else min f.ceiling (exponent * f.block + roundHalfEven scaled (den * Nat.pow 2 exponent))

end BinaryFormat

/-- How many codes the doubles of one sign have. -/
def doubleSpan : Nat := Nat.pow 2 63
/-- How many codes the singles of one sign have. -/
def singleSpan : Nat := Nat.pow 2 31

/-- The code of a double's magnitude. -/
def doubleCode (x : Float) : Nat := x.toBits.toNat % doubleSpan
/-- Whether a double carries a minus sign. -/
def doubleNegative (x : Float) : Bool := doubleSpan ≤ x.toBits.toNat
/-- The double with a sign and a magnitude. -/
def double (negative : Bool) (code : Nat) : Float :=
  Float.ofBits (UInt64.ofNat (if negative then doubleSpan + code else code))
/-- The code of a single's magnitude. -/
def singleCode (x : Float32) : Nat := x.toBits.toNat % singleSpan
/-- Whether a single carries a minus sign. -/
def singleNegative (x : Float32) : Bool := singleSpan ≤ x.toBits.toNat
/-- The single with a sign and a magnitude. -/
def single (negative : Bool) (code : Nat) : Float32 :=
  Float32.ofBits (UInt32.ofNat (if negative then singleSpan + code else code))

/-- Whether a double is a number and not infinite. -/
def doubleFinite (x : Float) : Bool := doubleCode x < binary64.ceiling
/-- Whether a single is a number and not infinite. -/
def singleFinite (x : Float32) : Bool := singleCode x < binary32.ceiling

/-- A code carried from one format to the nearest of another; infinity and what is not a number
keep their kind. -/
def BinaryFormat.convert (source target : BinaryFormat) (code : Nat) : Nat :=
  if code < source.ceiling then target.nearest (source.numerator code) (Nat.pow 2 source.depth)
  else if code = source.ceiling then target.ceiling
  else target.ceiling + target.block / 2

/-- The double of the same value. -/
def widen (x : Float32) : Float :=
  double (singleNegative x) (binary32.convert binary64 (singleCode x))
/-- The single nearest to a double. -/
def narrow (x : Float) : Float32 :=
  single (doubleNegative x) (binary64.convert binary32 (doubleCode x))
/-- The double nearest to a whole number. -/
def doubleOfInt (n : Int) : Float := double (n < 0) (binary64.nearest n.natAbs 1)

/-- Sorts every double, what is not a number first, then by value with `-0.0` below `0.0`. -/
def totalKey (x : Float) : Int :=
  if binary64.ceiling < doubleCode x then -doubleSpan
  else if doubleNegative x then -1 - doubleCode x else doubleCode x

/-- The whole part of a double that is not negative; nothing for a negative one or what is no
number, and at most `bound`. -/
def wholePart (bound : Nat) (x : Float) : Nat :=
  let code := doubleCode x
  if binary64.ceiling < code ∨ doubleNegative x then 0
  else if code = binary64.ceiling then bound
  else min bound (binary64.numerator code / Nat.pow 2 binary64.depth)

end VectorStore
