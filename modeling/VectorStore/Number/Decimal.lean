import VectorStore.Number.Binary

/-!
Decimals, and the choice of the decimal that writes a binary number: the fewest digits that read
back to the same code, and of two such neighbours the nearer one. `Layout` holds what is left to
a format: where exponents begin and how whole numbers end.
-/
namespace VectorStore

/-- The magnitude `digits * 10 ^ exponent`. -/
structure Decimal where
  digits : Nat
  exponent : Int
  deriving DecidableEq

namespace Decimal

def numerator (d : Decimal) : Nat := d.digits * Nat.pow 10 d.exponent.toNat
def denominator (d : Decimal) : Nat := Nat.pow 10 (-d.exponent).toNat
/-- The code nearest to a decimal. -/
def code (f : BinaryFormat) (d : Decimal) : Nat := f.nearest d.numerator d.denominator

/-- Moves trailing zeros into the exponent, at most `limit` of them. -/
def strip (limit : Nat) (d : Decimal) : Decimal :=
  match limit with
  | 0 => d
  | limit + 1 =>
    if d.digits ≠ 0 ∧ d.digits % 10 = 0 then strip limit ⟨d.digits / 10, d.exponent + 1⟩ else d

/-- The decimal equal to a magnitude, digit for digit. -/
def exact (f : BinaryFormat) (code : Nat) : Decimal :=
  ⟨f.numerator code * Nat.pow 5 f.depth, -f.depth⟩

end Decimal

/-- Which of two equally near decimals is written. -/
inductive Tie
  | up
  | even

/-- The place of the leading digit of a positive fraction: `10 ^ place ≤ num / den`, and
`num / den < 10 ^ (place + 1)` up to one place. -/
def leadingPlace (num den : Nat) : Int :=
  if den ≤ num then (Nat.toDigits 10 (num / den)).length - 1
  else -(Nat.toDigits 10 (den / num)).length

namespace BinaryFormat

/-- The decimal at `place` that writes a magnitude, if one of the two neighbours of the magnitude
at that place reads back to it; of two, the nearer. -/
def decimalAt? (f : BinaryFormat) (tie : Tie) (code : Nat) (place : Int) : Option Decimal :=
  let num := f.numerator code * Nat.pow 10 (-place).toNat
  let den := Nat.pow 2 f.depth * Nat.pow 10 place.toNat
  let below := num / den
  let rest := 2 * (num % den)
  let low : Decimal := ⟨below, place⟩
  let high : Decimal := ⟨below + 1, place⟩
  let lower := below != 0 && low.code f == code
  let upper := high.code f == code
  if lower && upper then
    let up : Bool := match tie with
      | .up => den ≤ rest
      | .even => den < rest ∨ (den = rest ∧ below % 2 = 1)
    some (if up then high else low)
  else if lower then some low
  else if upper then some high
  else none

/-- The fewest digits that read back to a magnitude. -/
def shortest (f : BinaryFormat) (tie : Tie) (code : Nat) : Decimal :=
  if code = 0 then ⟨0, 0⟩
  else
    let lead := leadingPlace (f.numerator code) (Nat.pow 2 f.depth)
    let found := (List.range 18).findSome? fun (n : Nat) => f.decimalAt? tie code (lead - n)
    (found.getD (Decimal.exact f code)).strip 400

end BinaryFormat

/-- How a format lays out the chosen digits. -/
structure Layout where
  /-- The leading places written without an exponent, as a half-open range; all when absent. -/
  plain : Option (Int × Int)
  /-- Whether a whole number written without an exponent ends in `.0`. -/
  pointZero : Bool
  /-- Whether a positive exponent carries a plus sign. -/
  plus : Bool
  /-- Which of two equally near decimals is written. -/
  tie : Tie

/-- Filter literals keep the point of a whole number and begin exponents at `1e16` and below
`1e-4`. -/
def Layout.literal : Layout := ⟨some (-4, 16), true, false, .up⟩
/-- Messages and vector literals never use an exponent. -/
def Layout.bare : Layout := ⟨none, false, false, .up⟩
/-- JSON numbers begin exponents at `1e+16` and below `1e-5`. -/
def Layout.json : Layout := ⟨some (-5, 16), true, true, .even⟩

namespace Layout

/-- Digits with the point after `whole` of them, filled with zeros on either side. -/
def pointed (l : Layout) (digits : List Char) (whole : Int) : List Char :=
  if whole ≤ 0 then '0' :: '.' :: List.replicate (-whole).toNat '0' ++ digits
  else if (digits.length : Int) ≤ whole then
    digits ++ List.replicate (whole.toNat - digits.length) '0' ++
      (if l.pointZero then ['.', '0'] else [])
  else digits.take whole.toNat ++ '.' :: digits.drop whole.toNat

/-- Digits with the point after the first and an exponent. -/
def scientific (l : Layout) (digits : List Char) (place : Int) : List Char :=
  let mantissa := match digits with
    | d :: e :: rest => d :: '.' :: e :: rest
    | short => short
  let sign := if place < 0 then ['-'] else if l.plus then ['+'] else []
  mantissa ++ 'e' :: sign ++ Nat.toDigits 10 place.natAbs

/-- A decimal without its sign. -/
def decimal (l : Layout) (d : Decimal) : List Char :=
  let digits := Nat.toDigits 10 d.digits
  let place := d.exponent + digits.length - 1
  let plainly := match l.plain with
    | none => true
    | some (low, high) => d.digits = 0 || (low ≤ place && place < high)
  if plainly then l.pointed digits (place + 1) else l.scientific digits place

/-- A number of a binary format by sign and code. -/
def number (l : Layout) (f : BinaryFormat) (negative : Bool) (code : Nat) : String :=
  if f.ceiling < code then "NaN"
  else
    let sign := if negative then ['-'] else []
    let magnitude := if code = f.ceiling then ['i', 'n', 'f'] else l.decimal (f.shortest l.tie code)
    String.ofList (sign ++ magnitude)

def double (l : Layout) (x : Float) : String := l.number binary64 (doubleNegative x) (doubleCode x)
def single (l : Layout) (x : Float32) : String :=
  l.number binary32 (singleNegative x) (singleCode x)

end Layout

/-- A double with a fixed number of decimal places, the exact value rounded half to even. -/
def fixedPlaces (places : Nat) (x : Float) : String :=
  let code := doubleCode x
  if binary64.ceiling ≤ code then Layout.bare.double x
  else
    let scaled :=
      roundHalfEven (binary64.numerator code * Nat.pow 10 places) (Nat.pow 2 binary64.depth)
    let digits := Nat.toDigits 10 scaled
    let padded := List.replicate (places + 1 - digits.length) '0' ++ digits
    let whole := padded.length - places
    String.ofList ((if doubleNegative x then ['-'] else []) ++ padded.take whole ++
      (if places = 0 then [] else '.' :: padded.drop whole))

end VectorStore
