import Mathlib
import VectorStore.Json.Printer
import VectorStore.Proofs.Number.ReadBack
import VectorStore.Proofs.Number.Rounding

/-!
Every layout writes every double so that it is read back (`readDouble?_double`), and numbers of
JSON are told apart by their texts (`JsonNumber.text_injective`), which hold nothing but letters,
digits, signs and points.
-/
namespace VectorStore

/-! ## The places of decimals -/

namespace Decimal

/-- The place of the leading digit. -/
def place (d : Decimal) : Int := d.exponent + (Nat.toDigits 10 d.digits).length - 1

theorem pow_length_le {n : Nat} (nonzero : n ≠ 0) :
    10 ^ ((Nat.toDigits 10 n).length - 1) ≤ n := by
  by_cases single : (Nat.toDigits 10 n).length = 1
  · rw [single, Nat.sub_self, pow_zero]
    omega
  · have positive : 0 < (Nat.toDigits 10 n).length := Nat.length_toDigits_pos
    by_contra less
    have := (Nat.length_toDigits_le_iff (b := 10) (n := n) (by decide)
      (by omega : 0 < (Nat.toDigits 10 n).length - 1)).mpr (by omega)
    omega

theorem lt_pow_length (n : Nat) : n < 10 ^ (Nat.toDigits 10 n).length :=
  (Nat.length_toDigits_le_iff (by decide) Nat.length_toDigits_pos).mp le_rfl

/-- A decimal is at least the power of ten at its leading digit. -/
theorem pow_le_of_le_place {d : Decimal} (nonzero : d.digits ≠ 0) {n : Nat} (le : n ≤ d.place) :
    10 ^ n * d.denominator ≤ d.numerator * 1 := by
  have digits := pow_length_le nonzero
  have positive : 0 < (Nat.toDigits 10 d.digits).length := Nat.length_toDigits_pos
  unfold place at le
  unfold denominator numerator
  rw [Nat.pow_eq, Nat.pow_eq, mul_one]
  calc 10 ^ n * 10 ^ (-d.exponent).toNat
      = 10 ^ (n + (-d.exponent).toNat) := by ring
    _ ≤ 10 ^ ((Nat.toDigits 10 d.digits).length - 1 + d.exponent.toNat) :=
        Nat.pow_le_pow_right (by decide) (by omega)
    _ = 10 ^ ((Nat.toDigits 10 d.digits).length - 1) * 10 ^ d.exponent.toNat := by ring
    _ ≤ d.digits * 10 ^ d.exponent.toNat := Nat.mul_le_mul_right _ digits

/-- A decimal is less than the power of ten before its leading digit. -/
theorem le_of_place_lt {d : Decimal} {n : Nat} (less : d.place < -n) :
    d.numerator * 10 ^ n ≤ 1 * d.denominator := by
  have digits := (lt_pow_length d.digits).le
  unfold place at less
  unfold denominator numerator
  rw [Nat.pow_eq, Nat.pow_eq, one_mul]
  calc d.digits * 10 ^ d.exponent.toNat * 10 ^ n
      ≤ 10 ^ (Nat.toDigits 10 d.digits).length * 10 ^ d.exponent.toNat * 10 ^ n :=
        Nat.mul_le_mul_right _ (Nat.mul_le_mul_right _ digits)
    _ = 10 ^ ((Nat.toDigits 10 d.digits).length + d.exponent.toNat + n) := by ring
    _ ≤ 10 ^ (-d.exponent).toNat := Nat.pow_le_pow_right (by decide) (by omega)

end Decimal

/-- The decimals of finite doubles have exponents that a reader does not cut. -/
theorem natAbs_place_shortest_le {tie : Tie} {code : Nat} (finite : code < binary64.ceiling)
    (some : (binary64.shortest tie code).digits ≠ 0) :
    (binary64.shortest tie code).place.natAbs ≤ 400 := by
  have nonzero : code ≠ 0 := by
    rintro rfl
    exact some rfl
  have reads := BinaryFormat.code_shortest (f := binary64) (by decide) tie finite.le
  have extremes : binary64.nearest (10 ^ 400) 1 = binary64.ceiling ∧
      binary64.nearest 1 (10 ^ 400) = 0 := by decide +kernel
  generalize binary64.shortest tie code = d at some reads ⊢
  rw [Decimal.code] at reads
  -- further out a decimal would read as infinity or as zero
  by_contra far
  rcases (by omega : ((400 : Nat) : Int) ≤ d.place ∨ d.place < -(400 : Nat)) with large | small
  · have := BinaryFormat.nearest_mono (f := binary64) (by decide) (by decide) d.denominator_pos
      (d.pow_le_of_le_place some large)
    omega
  · have := BinaryFormat.nearest_mono (f := binary64) (by decide) d.denominator_pos (by positivity)
      (d.le_of_place_lt small)
    omega

/-! ## Digits with an exponent -/

theorem exists_toDigits_cons (n : Nat) :
    ∃ c rest, Nat.toDigits 10 n = c :: rest ∧ ∀ d ∈ c :: rest, d.isDigit = true := by
  obtain ⟨c, rest, split⟩ := List.exists_cons_of_ne_nil (Nat.toDigits_ne_nil (n := n) (b := 10))
  exact ⟨c, rest, split, fun d member => isDigit_of_mem_toDigits (split ▸ member)⟩

theorem readDigits?_toDigits (n : Nat) : readDigits? (Nat.toDigits 10 n) = some n := by
  have digits : (Nat.toDigits 10 n).all Char.isDigit = true :=
    List.all_eq_true.mpr fun _ member => isDigit_of_mem_toDigits member
  rw [readDigits?, if_pos ⟨Nat.toDigits_ne_nil, digits⟩, digitsValue_toDigits]

/-- The sign of an exponent, as a layout writes it. -/
def Layout.exponentSign (l : Layout) (place : Int) : List Char :=
  if place < 0 then ['-'] else if l.plus then ['+'] else []

theorem readExponent?_sign (l : Layout) {place : Int} {bound : Nat} (le : place.natAbs ≤ bound) :
    readExponent? bound (l.exponentSign place ++ Nat.toDigits 10 place.natAbs) = some place := by
  have sign : splitSign (l.exponentSign place ++ Nat.toDigits 10 place.natAbs) =
      (decide (place < 0), Nat.toDigits 10 place.natAbs) := by
    unfold Layout.exponentSign
    split_ifs with negative plus
    · rw [decide_eq_true negative]
      rfl
    · rw [decide_eq_false negative]
      rfl
    · obtain ⟨c, rest, split, digits⟩ := exists_toDigits_cons place.natAbs
      rw [split, decide_eq_false negative]
      exact splitSign_of_digit false rest (digits c List.mem_cons_self)
  rw [readExponent?, sign]
  simp only [readDigits?_toDigits, Option.map_some, Nat.min_eq_left le, decide_eq_true_eq]
  congr 1
  split_ifs <;> omega

/-- Digits with a point perhaps and an exponent, which is not cut. -/
theorem readDecimal?_exponent {whole fraction tail : List Char} {e : Int} (nonempty : whole ≠ [])
    (wholeDigits : ∀ c ∈ whole, c.isDigit = true)
    (fractionDigits : ∀ c ∈ fraction, c.isDigit = true)
    (reads : ∀ bound, 400 ≤ bound → readExponent? bound tail = some e) :
    readDecimal? (whole ++ (if fraction = [] then [] else '.' :: fraction) ++ 'e' :: tail) =
      some ⟨digitsValue 0 (whole ++ fraction), e - fraction.length⟩ := by
  have noDigit : Char.isDigit '.' = false ∧ Char.isDigit 'e' = false := by decide
  unfold readDecimal?
  by_cases none : fraction = []
  · subst none
    rw [if_pos rfl, List.append_nil, List.takeWhile_append_of_pos wholeDigits,
      List.dropWhile_append_of_pos wholeDigits]
    simp [noDigit, nonempty, reads]
  · rw [if_neg none, List.append_assoc, List.takeWhile_append_of_pos wholeDigits,
      List.dropWhile_append_of_pos wholeDigits]
    simp [noDigit, nonempty, reads, List.takeWhile_append_of_pos fractionDigits,
      List.dropWhile_append_of_pos fractionDigits]

theorem readDecimal?_scientific (l : Layout) {d : Decimal} (near : d.place.natAbs ≤ 400) :
    readDecimal? (l.scientific (Nat.toDigits 10 d.digits) d.place) = some d := by
  have value := digitsValue_toDigits d.digits
  have place : d.place = d.exponent + (Nat.toDigits 10 d.digits).length - 1 := rfl
  have exponent (bound : Nat) (enough : 400 ≤ bound) : readExponent? bound
      (l.exponentSign d.place ++ Nat.toDigits 10 d.place.natAbs) = some d.place :=
    readExponent?_sign l (near.trans enough)
  obtain ⟨c, fraction, split, digits⟩ := exists_toDigits_cons d.digits
  rw [split] at value place ⊢
  have written : l.scientific (c :: fraction) d.place =
      [c] ++ (if fraction = [] then [] else '.' :: fraction) ++
        'e' :: (l.exponentSign d.place ++ Nat.toDigits 10 d.place.natAbs) := by
    cases fraction <;> simp [Layout.scientific, Layout.exponentSign]
  rw [written, readDecimal?_exponent (List.cons_ne_nil c [])
    (by simpa using digits c List.mem_cons_self)
    (fun c' member => digits c' (List.mem_cons_of_mem _ member)) exponent, List.singleton_append,
    value]
  rw [List.length_cons] at place
  rw [show d.place - fraction.length = d.exponent by omega]

/-! ## Doubles -/

/-- A layout writes a decimal with a point or, where it is not zero, with an exponent. -/
theorem Layout.decimal_eq (l : Layout) (d : Decimal) :
    l.decimal d = l.pointed (Nat.toDigits 10 d.digits)
        (d.exponent + (Nat.toDigits 10 d.digits).length) ∨
      d.digits ≠ 0 ∧ l.decimal d = l.scientific (Nat.toDigits 10 d.digits) d.place := by
  have whole : d.place + 1 = d.exponent + (Nat.toDigits 10 d.digits).length := by
    unfold Decimal.place
    omega
  rw [← whole]
  by_cases zero : d.digits = 0
  · left
    unfold decimal
    cases l.plain <;> exact if_pos (by simp [zero])
  · cases plain : l.plain with
    | none =>
      left
      simp only [decimal, plain]
      rfl
    | some range =>
      simp only [decimal, plain]
      split
      · exact .inl rfl
      · exact .inr ⟨zero, rfl⟩

/-- What a layout writes is read as a decimal of the same value, and begins with a digit. -/
theorem readDecimal?_decimal (l : Layout) {d : Decimal}
    (near : d.digits ≠ 0 → d.place.natAbs ≤ 400) :
    (∃ read, readDecimal? (l.decimal d) = some read ∧ read.Same d) ∧
      ∃ c rest, l.decimal d = c :: rest ∧ c.isDigit = true := by
  rcases l.decimal_eq d with pointed | ⟨nonzero, scientific⟩
  · rw [pointed]
    exact ⟨readDecimal?_pointed l d, head_isDigit_pointed l Nat.toDigits_ne_nil
      (fun c => @isDigit_of_mem_toDigits d.digits c) _⟩
  · rw [scientific]
    refine ⟨⟨d, readDecimal?_scientific l (near nonzero), .refl d⟩, ?_⟩
    obtain ⟨c, rest, split, digits⟩ := exists_toDigits_cons d.digits
    have digit := digits c List.mem_cons_self
    rw [split]
    cases rest with
    | nil => exact ⟨c, _, rfl, digit⟩
    | cons e rest => exact ⟨c, _, rfl, digit⟩

theorem readDouble?_of_near (l : Layout) (negative : Bool) {d : Decimal}
    (near : d.digits ≠ 0 → d.place.natAbs ≤ 400) :
    readDouble? ((if negative then ['-'] else []) ++ l.decimal d) =
      some (double negative (d.code binary64)) := by
  obtain ⟨⟨read, reads, same⟩, c, rest, begins, digit⟩ := readDecimal?_decimal l near
  rw [begins, readDouble?_of_digit negative digit, ← begins, reads, Option.map_some,
    same.code (by decide)]

/-- A double is its sign and its code. -/
theorem double_sign_code (x : Float) : double (doubleNegative x) (doubleCode x) = x := by
  have less : x.toBits.toNat < 2 ^ 64 := x.toBits.toNat_lt
  have span : doubleSpan = 2 ^ 63 := rfl
  have cut : x.toBits.toNat % doubleSpan =
      if doubleSpan ≤ x.toBits.toNat then x.toBits.toNat - doubleSpan else x.toBits.toNat := by
    rw [span]
    split_ifs <;> omega
  have bits : (if doubleNegative x then doubleSpan + doubleCode x else doubleCode x) =
      x.toBits.toNat := by
    unfold doubleNegative doubleCode
    by_cases negative : doubleSpan ≤ x.toBits.toNat
    · rw [if_pos (decide_eq_true negative), cut, if_pos negative]
      omega
    · rw [if_neg (by simpa using negative), cut, if_neg negative]
  rw [double, bits, UInt64.ofNat_toNat, Float.ofBits_toBits]

open Float.Model Float.Model.UnpackedFloat in
/-- There is one double that is not a number. -/
theorem eq_nan_of_ceiling_lt {x : Float} (nan : binary64.ceiling < doubleCode x) :
    x = double false (binary64.ceiling + binary64.block / 2) := by
  have ceiling : binary64.ceiling = 2047 * 2 ^ 52 := rfl
  have code : doubleCode x = x.toBits.toNat % doubleSpan := rfl
  have less : x.toBits.toNat % doubleSpan < 2 ^ 63 := Nat.mod_lt _ (by decide)
  have exponent : @unpackExponent Format.binary64 x.toBits.toBitVec = -1#_ := by
    rw [← BitVec.toNat_inj, unpackExponent_toNat]
    have ones : (-1#_ : BitVec Format.binary64.exponentBits).toNat = 2047 := rfl
    rw [ones]
    omega
  have mantissa : @unpackMantissa Format.binary64 x.toBits.toBitVec ≠ 0#_ := by
    rw [Ne, ← BitVec.toNat_inj, unpackMantissa_toNat, BitVec.toNat_zero]
    omega
  have packed := x.toModel.valid.eq_packedNaN exponent mantissa
  have bits : x.toBits = (double false (binary64.ceiling + binary64.block / 2)).toBits :=
    UInt64.toBitVec_inj.mp (packed.trans (by decide +kernel))
  exact Float.toBits_inj.mp bits

/-- What a layout writes for a double that is not a number, for an infinite one and for a finite
one. -/
theorem Layout.double_cases (l : Layout) (x : Float) :
    binary64.ceiling < doubleCode x ∧ l.double x = "NaN" ∨
      doubleCode x = binary64.ceiling ∧
        (l.double x).toList = (if doubleNegative x then ['-'] else []) ++ ['i', 'n', 'f'] ∨
      doubleCode x < binary64.ceiling ∧ (l.double x).toList =
        (if doubleNegative x then ['-'] else []) ++
          l.decimal (binary64.shortest l.tie (doubleCode x)) := by
  unfold double number
  rcases Nat.lt_trichotomy (doubleCode x) binary64.ceiling with finite | infinite | nan
  · rw [if_neg (Nat.not_lt_of_lt finite)]
    dsimp only
    rw [if_neg (Nat.ne_of_lt finite), String.toList_ofList]
    exact .inr (.inr ⟨finite, rfl⟩)
  · rw [if_neg (Nat.not_lt_of_le infinite.le)]
    dsimp only
    rw [if_pos infinite, String.toList_ofList]
    exact .inr (.inl ⟨infinite, rfl⟩)
  · exact .inl ⟨nan, if_pos nan⟩

/-- What a layout writes for a double is read as that double. -/
theorem readDouble?_double (l : Layout) (x : Float) :
    readDouble? (l.double x).toList = some x := by
  rcases l.double_cases x with ⟨nan, text⟩ | ⟨infinite, text⟩ | ⟨finite, text⟩
  · rw [text, eq_nan_of_ceiling_lt nan]
    rfl
  · conv => rhs; rw [← double_sign_code x, infinite]
    rw [text]
    cases doubleNegative x <;> rfl
  · rw [text, readDouble?_of_near l _ (natAbs_place_shortest_le finite),
      BinaryFormat.code_shortest (by decide) _ finite.le, double_sign_code]

theorem double_injective {l : Layout} {x y : Float} (same : l.double x = l.double y) : x = y := by
  have read := readDouble?_double l x
  rw [same, readDouble?_double] at read
  exact (Option.some.inj read).symm

/-! ## The characters of numbers -/

/-- Letters, digits, signs and points. -/
def isScalarPart (c : Char) : Bool := c.isAlphanum || c == '+' || c == '-' || c == '.'

theorem isScalarPart_of_isDigit {c : Char} (digit : c.isDigit = true) : isScalarPart c = true := by
  simp [isScalarPart, Char.isAlphanum, digit]

section
variable {digits : List Char} (each : ∀ c ∈ digits, c.isDigit = true)
include each

theorem isScalarPart_of_mem_pointed (l : Layout) (whole : Int) :
    ∀ c ∈ l.pointed digits whole, isScalarPart c = true := by
  have part := fun c member => isScalarPart_of_isDigit (each c member)
  have zeros (n : Nat) : ∀ c ∈ List.replicate n '0', isScalarPart c = true := by
    intro c member
    rw [List.eq_of_mem_replicate member]
    decide
  unfold Layout.pointed
  split_ifs
  · simp only [List.cons_append, List.forall_mem_append, List.forall_mem_cons]
    exact ⟨by decide, by decide, zeros _, part⟩
  · simp only [List.forall_mem_append, List.forall_mem_cons]
    exact ⟨⟨part, zeros _⟩, by decide, by decide, nofun⟩
  · simp only [List.forall_mem_append]
    exact ⟨⟨part, zeros _⟩, nofun⟩
  · simp only [List.forall_mem_append, List.forall_mem_cons]
    exact ⟨fun c member => part c (List.mem_of_mem_take member), by decide,
      fun c member => part c (List.mem_of_mem_drop member)⟩

theorem isScalarPart_of_mem_scientific (l : Layout) (place : Int) :
    ∀ c ∈ l.scientific digits place, isScalarPart c = true := by
  have part := fun c member => isScalarPart_of_isDigit (each c member)
  have exponent : ∀ c ∈ Nat.toDigits 10 place.natAbs, isScalarPart c = true := fun c member =>
    isScalarPart_of_isDigit (isDigit_of_mem_toDigits member)
  have sign : ∀ c ∈ l.exponentSign place, isScalarPart c = true := by
    unfold Layout.exponentSign
    split_ifs <;> simp [isScalarPart]
  have letter : isScalarPart 'e' = true ∧ isScalarPart '.' = true := by decide
  unfold Layout.scientific
  simp only [List.forall_mem_append, List.forall_mem_cons]
  refine ⟨⟨?_, letter.1, sign⟩, exponent⟩
  match digits, part with
  | [], _ => exact nofun
  | [d], part => exact part
  | d :: e :: rest, part =>
    simp only [List.forall_mem_cons] at part ⊢
    exact ⟨part.1, letter.2, part.2⟩

end

theorem isScalarPart_of_mem_number (l : Layout) (f : BinaryFormat) (negative : Bool) (code : Nat) :
    ∀ c ∈ (l.number f negative code).toList, isScalarPart c = true := by
  have sign : ∀ c ∈ (if negative then ['-'] else []), isScalarPart c = true := by
    split <;> simp [isScalarPart]
  have digits (n : Nat) := fun c => @isDigit_of_mem_toDigits n c
  unfold Layout.number
  split
  · simp [isScalarPart]
  · rw [String.toList_ofList]
    refine List.forall_mem_append.mpr ⟨sign, ?_⟩
    split
    · simp [isScalarPart]
    · rcases l.decimal_eq (f.shortest l.tie code) with pointed | ⟨-, scientific⟩
      · exact pointed ▸ isScalarPart_of_mem_pointed (digits _) l _
      · exact scientific ▸ isScalarPart_of_mem_scientific (digits _) l _

theorem isScalarPart_of_mem_double (l : Layout) (x : Float) :
    ∀ c ∈ (l.double x).toList, isScalarPart c = true :=
  isScalarPart_of_mem_number l binary64 _ _

theorem isScalarPart_of_mem_single (l : Layout) (x : Float32) :
    ∀ c ∈ (l.single x).toList, isScalarPart c = true :=
  isScalarPart_of_mem_number l binary32 _ _

/-- A layout that ends whole numbers in `.0` writes no double as an integer. -/
theorem exists_mem_double {l : Layout} (point : l.pointZero = true) (x : Float) :
    ∃ c ∈ (l.double x).toList, c ≠ '-' ∧ c.isDigit = false := by
  rcases l.double_cases x with ⟨-, text⟩ | ⟨-, text⟩ | ⟨-, text⟩
  · rw [text]
    exact ⟨'N', by decide⟩
  · rw [text]
    exact ⟨'i', by simp⟩
  · rw [text]
    rcases l.decimal_eq (binary64.shortest l.tie (doubleCode x)) with pointed | ⟨-, scientific⟩
    · refine ⟨'.', List.mem_append_right _ ?_, by decide⟩
      rw [pointed, Layout.pointed]
      split_ifs <;> simp
    · refine ⟨'e', List.mem_append_right _ ?_, by decide⟩
      rw [scientific]
      unfold Layout.scientific
      simp

/-! ## Numbers of JSON -/

theorem toList_integerText (n : Int) : (integerText n).toList =
    (if decide (n < 0) then ['-'] else []) ++ Nat.toDigits 10 n.natAbs := by
  simp [integerText]

theorem splitSign_integerText (n : Int) :
    splitSign (integerText n).toList = (decide (n < 0), Nat.toDigits 10 n.natAbs) := by
  obtain ⟨c, rest, split, digits⟩ := exists_toDigits_cons n.natAbs
  rw [toList_integerText, split]
  exact splitSign_of_digit _ rest (digits c List.mem_cons_self)

theorem integerText_injective {m n : Int} (same : integerText m = integerText n) : m = n := by
  have split := splitSign_integerText m
  rw [same, splitSign_integerText, Prod.mk.injEq] at split
  have digits := congrArg (digitsValue 0) split.2
  rw [digitsValue_toDigits, digitsValue_toDigits] at digits
  have sign := decide_eq_decide.mp split.1
  omega

theorem mem_integerText {n : Int} {c : Char} (member : c ∈ (integerText n).toList) :
    c = '-' ∨ c.isDigit = true := by
  rw [toList_integerText] at member
  rcases List.mem_append.mp member with sign | digit
  · split at sign <;> simp_all
  · exact .inr (isDigit_of_mem_toDigits digit)

/-- No double is written as an integer by a layout that ends whole numbers in `.0`. -/
theorem integerText_ne_double {l : Layout} (point : l.pointZero = true) (n : Int) (x : Float) :
    integerText n ≠ l.double x := by
  intro same
  obtain ⟨c, member, notSign, notDigit⟩ := exists_mem_double point x
  rcases mem_integerText (same ▸ member) with sign | digit
  · exact notSign sign
  · rw [digit] at notDigit
    contradiction

namespace JsonNumber

theorem isScalarPart_of_mem_text (n : JsonNumber) :
    ∀ c ∈ n.text.toList, isScalarPart c = true := by
  cases n with
  | int n =>
    intro c member
    rcases mem_integerText member with rfl | digit
    · decide
    · exact isScalarPart_of_isDigit digit
  | double x => exact isScalarPart_of_mem_double Layout.json x

/-- Every number is read as a double. -/
theorem exists_readDouble?_text (n : JsonNumber) : ∃ x, readDouble? n.text.toList = some x := by
  cases n with
  | int n =>
    obtain ⟨c, rest, split, digits⟩ := exists_toDigits_cons n.natAbs
    rw [text, toList_integerText, split, readDouble?_of_digit _ (digits c List.mem_cons_self),
      readDecimal?_digits (List.cons_ne_nil c rest) digits]
    exact ⟨_, rfl⟩
  | double x => exact ⟨x, readDouble?_double Layout.json x⟩

theorem text_injective {m n : JsonNumber} (same : m.text = n.text) : m = n := by
  match m, n with
  | .int m, .int n => exact congrArg int (integerText_injective same)
  | .int m, .double y => exact absurd same (integerText_ne_double rfl m y)
  | .double x, .int n => exact absurd same.symm (integerText_ne_double rfl n x)
  | .double x, .double y => exact congrArg double (double_injective same)

end JsonNumber
end VectorStore
