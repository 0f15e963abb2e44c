import VectorStore.Number.Reading
import VectorStore.Proofs.Number.Nearest
import Mathlib.Data.List.TakeWhile

/-!
Decimals that write a binary number read back to it. The shortest decimal of a code has that code
(`code_shortest`), and digits with a point are read as the decimal that they write
(`readDecimal?_pointed`).
-/
namespace VectorStore

namespace Decimal

/-- Two decimals of one value. -/
def Same (d d' : Decimal) : Prop := d.numerator * d'.denominator = d'.numerator * d.denominator

theorem denominator_pos (d : Decimal) : 0 < d.denominator := by
  unfold denominator
  rw [Nat.pow_eq]
  positivity

theorem Same.refl (d : Decimal) : d.Same d := rfl

theorem Same.symm {d d' : Decimal} (same : d.Same d') : d'.Same d := Eq.symm same

theorem Same.trans {d d' d'' : Decimal} (same : d.Same d') (same' : d'.Same d'') : d.Same d'' := by
  refine Nat.eq_of_mul_eq_mul_right d'.denominator_pos ?_
  calc d.numerator * d''.denominator * d'.denominator
      = d.numerator * d'.denominator * d''.denominator := by ring
    _ = d'.numerator * d''.denominator * d.denominator := by rw [same]; ring
    _ = d''.numerator * d.denominator * d'.denominator := by rw [same']; ring

/-- Decimals of one value have one code. -/
theorem Same.code {f : BinaryFormat} (significant : 0 < f.precision) {d d' : Decimal}
    (same : d.Same d') : d.code f = d'.code f :=
  BinaryFormat.nearest_congr significant d.denominator_pos d'.denominator_pos same

/-- Zeros at the end of the digits go into a greater exponent. -/
theorem same_scaled (n k : Nat) (e : Int) : Same ⟨n * 10 ^ k, e⟩ ⟨n, e + k⟩ := by
  have exponents : e.toNat + k + (-(e + k)).toNat = (e + k).toNat + (-e).toNat := by omega
  unfold Same numerator denominator
  simp only [Nat.pow_eq]
  calc n * 10 ^ k * 10 ^ e.toNat * 10 ^ (-(e + k)).toNat
      = n * 10 ^ (e.toNat + k + (-(e + k)).toNat) := by ring
    _ = n * 10 ^ ((e + k).toNat + (-e).toNat) := by rw [exponents]
    _ = n * 10 ^ (e + k).toNat * 10 ^ (-e).toNat := by ring

theorem same_strip (limit : Nat) (d : Decimal) : (d.strip limit).Same d := by
  induction limit generalizing d with
  | zero => exact .refl d
  | succ limit ih =>
    rw [strip]
    split
    next zeros =>
      have whole : d.digits / 10 * 10 ^ 1 = d.digits := by omega
      have scaled := same_scaled (d.digits / 10) 1 d.exponent
      rw [whole] at scaled
      exact (ih _).trans scaled.symm
    next => exact .refl d

/-- The exact decimal of a magnitude is rounded like the magnitude, into any format. -/
theorem code_exact_eq_nearest {f g : BinaryFormat} (significant : 0 < g.precision) (code : Nat) :
    (exact f code).code g = g.nearest (f.numerator code) (2 ^ f.depth) := by
  refine BinaryFormat.nearest_congr significant (denominator_pos _) (by positivity) ?_
  have up : (-(f.depth : Int)).toNat = 0 := by omega
  have down : (-(-(f.depth : Int))).toNat = f.depth := by omega
  simp only [numerator, denominator, exact, up, down, Nat.pow_eq, pow_zero, mul_one]
  rw [mul_assoc, ← mul_pow]
  norm_num

theorem code_exact {f : BinaryFormat} (significant : 0 < f.precision) {code : Nat}
    (le : code ≤ f.ceiling) : (exact f code).code f = code :=
  (code_exact_eq_nearest significant code).trans (BinaryFormat.nearest_numerator significant le)

end Decimal

namespace BinaryFormat

theorem code_decimalAt? {f : BinaryFormat} {tie : Tie} {code : Nat} {place : Int} {d : Decimal}
    (found : f.decimalAt? tie code place = some d) : d.code f = code := by
  unfold decimalAt? at found
  dsimp only at found
  split at found
  next both =>
    rw [Bool.and_eq_true, Bool.and_eq_true] at both
    have high := beq_iff_eq.mp both.2
    have low := beq_iff_eq.mp both.1.2
    cases found
    cases tie <;> dsimp only <;> split <;> assumption
  next =>
    split at found
    next lower =>
      rw [Bool.and_eq_true] at lower
      cases found
      exact beq_iff_eq.mp lower.2
    next =>
      split at found
      next upper =>
        cases found
        exact beq_iff_eq.mp upper
      next => cases found

/-- The shortest decimal of a code reads back to it. -/
theorem code_shortest {f : BinaryFormat} (significant : 0 < f.precision) (tie : Tie) {code : Nat}
    (le : code ≤ f.ceiling) : (f.shortest tie code).code f = code := by
  unfold shortest
  split
  next zero =>
    subst zero
    exact f.nearest_zero _
  next =>
    dsimp only
    rw [(Decimal.same_strip _ _).code significant]
    cases search : (List.range 18).findSome? fun (n : Nat) => f.decimalAt? tie code
        (leadingPlace (f.numerator code) (Nat.pow 2 f.depth) - n) with
    | none => exact Decimal.code_exact significant le
    | some d =>
      obtain ⟨n, -, found⟩ := List.exists_of_findSome?_eq_some search
      exact code_decimalAt? found

end BinaryFormat

/-! ## Digits with a point -/

theorem digitsValue_append (before : Nat) (cs ds : List Char) :
    digitsValue before (cs ++ ds) = digitsValue (digitsValue before cs) ds :=
  List.foldl_append

theorem digitsValue_zeros (before n : Nat) :
    digitsValue before (List.replicate n '0') = before * 10 ^ n := by
  rw [Nat.mul_comm]
  exact Nat.ofDigitChars_replicate_zero

theorem digitsValue_toDigits (n : Nat) : digitsValue 0 (Nat.toDigits 10 n) = n :=
  Nat.ofDigitChars_ten_toDigits

theorem isDigit_of_mem_toDigits {n : Nat} {c : Char} (member : c ∈ Nat.toDigits 10 n) :
    c.isDigit = true :=
  Nat.isDigit_of_mem_toDigits (by decide) (by decide) member

/-- Digits alone are a whole number. -/
theorem readDecimal?_digits {cs : List Char} (nonempty : cs ≠ [])
    (digits : ∀ c ∈ cs, c.isDigit = true) : readDecimal? cs = some ⟨digitsValue 0 cs, 0⟩ := by
  have whole : cs.takeWhile Char.isDigit = cs := List.takeWhile_eq_self_iff.mpr digits
  have rest : cs.dropWhile Char.isDigit = [] := List.dropWhile_eq_nil_iff.mpr digits
  unfold readDecimal?
  rw [whole, rest]
  simp [nonempty]

/-- Digits with a point among them have as many places as digits after it. -/
theorem readDecimal?_point {whole fraction : List Char} (nonempty : whole ≠ [])
    (wholeDigits : ∀ c ∈ whole, c.isDigit = true)
    (fractionDigits : ∀ c ∈ fraction, c.isDigit = true) :
    readDecimal? (whole ++ '.' :: fraction) =
      some ⟨digitsValue 0 (whole ++ fraction), -fraction.length⟩ := by
  have point : Char.isDigit '.' = false := by decide
  have taken : (whole ++ '.' :: fraction).takeWhile Char.isDigit = whole := by
    rw [List.takeWhile_append_of_pos wholeDigits]
    simp [point]
  have dropped : (whole ++ '.' :: fraction).dropWhile Char.isDigit = '.' :: fraction := by
    rw [List.dropWhile_append_of_pos wholeDigits]
    simp [point]
  have fractionTaken : fraction.takeWhile Char.isDigit = fraction :=
    List.takeWhile_eq_self_iff.mpr fractionDigits
  have fractionDropped : fraction.dropWhile Char.isDigit = [] :=
    List.dropWhile_eq_nil_iff.mpr fractionDigits
  unfold readDecimal?
  rw [taken, dropped]
  simp [fractionTaken, fractionDropped, nonempty]

/-- Digits laid out with a point and without an exponent are read as the decimal that they
write. -/
theorem readDecimal?_pointed (l : Layout) (d : Decimal) :
    ∃ read, readDecimal? (l.pointed (Nat.toDigits 10 d.digits)
        (d.exponent + (Nat.toDigits 10 d.digits).length)) = some read ∧ read.Same d := by
  have digits := fun c => @isDigit_of_mem_toDigits d.digits c
  have value := digitsValue_toDigits d.digits
  have nonempty : Nat.toDigits 10 d.digits ≠ [] := Nat.toDigits_ne_nil
  generalize Nat.toDigits 10 d.digits = cs at digits value nonempty ⊢
  have zeros : ∀ n, ∀ c ∈ List.replicate n '0', c.isDigit = true := by
    intro n c member
    rw [List.eq_of_mem_replicate member]
    decide
  have digitsZeros : ∀ n, ∀ c ∈ cs ++ List.replicate n '0', c.isDigit = true := fun n c member =>
    (List.mem_append.mp member).elim (digits c) (zeros n c)
  unfold Layout.pointed
  split_ifs with small large pointZero
  · have fraction : ∀ c ∈ List.replicate (-(d.exponent + cs.length)).toNat '0' ++ cs,
        c.isDigit = true := fun c member => (List.mem_append.mp member).elim (zeros _ c) (digits c)
    have laidOut := readDecimal?_point (List.cons_ne_nil '0' []) (by simp) fraction
    refine ⟨_, laidOut, ?_⟩
    have same : digitsValue 0
        (['0'] ++ (List.replicate (-(d.exponent + cs.length)).toNat '0' ++ cs)) = d.digits := by
      rw [digitsValue_append, digitsValue_append, digitsValue_zeros,
        show digitsValue 0 ['0'] = 0 from rfl, Nat.zero_mul, value]
    have exponent : (-((List.replicate (-(d.exponent + cs.length)).toNat '0' ++ cs).length : Int)) =
        d.exponent := by
      rw [List.length_append, List.length_replicate]
      omega
    rw [same, exponent]
    exact .refl d
  · have wholeValue : digitsValue 0 (cs ++ List.replicate
        ((d.exponent + cs.length).toNat - cs.length) '0' ++ ['0']) =
        d.digits * 10 ^ ((d.exponent + cs.length).toNat - cs.length) * 10 ^ 1 := by
      rw [digitsValue_append, digitsValue_append, digitsValue_zeros, value]
      exact digitsValue_zeros _ 1
    have point : ∀ c ∈ ['0'], c.isDigit = true := by simp
    refine ⟨_, readDecimal?_point (by simp [nonempty]) (digitsZeros _) point, ?_⟩
    rw [wholeValue, mul_assoc, ← pow_add]
    have scaled := Decimal.same_scaled d.digits
      ((d.exponent + cs.length).toNat - cs.length + 1) (-1)
    have exponent : (-1 : Int) + ((d.exponent + cs.length).toNat - cs.length + 1 : Nat) =
      d.exponent := by omega
    rw [exponent] at scaled
    exact scaled
  · rw [List.append_nil]
    have wholeValue : digitsValue 0 (cs ++ List.replicate
        ((d.exponent + cs.length).toNat - cs.length) '0') =
        d.digits * 10 ^ ((d.exponent + cs.length).toNat - cs.length) := by
      rw [digitsValue_append, digitsValue_zeros, value]
    refine ⟨_, readDecimal?_digits (by simp [nonempty]) (digitsZeros _), ?_⟩
    rw [wholeValue]
    have scaled := Decimal.same_scaled d.digits ((d.exponent + cs.length).toNat - cs.length) 0
    have exponent : (0 : Int) + ((d.exponent + cs.length).toNat - cs.length : Nat) =
      d.exponent := by omega
    rw [exponent] at scaled
    exact scaled
  · refine ⟨_, readDecimal?_point ?_ (fun c member => digits c (List.mem_of_mem_take member))
      (fun c member => digits c (List.mem_of_mem_drop member)), ?_⟩
    · have some : 0 < cs.length := List.length_pos_iff.mpr nonempty
      rw [← List.length_pos_iff, List.length_take]
      omega
    · rw [List.take_append_drop, value, List.length_drop]
      have exponent : -((cs.length - (d.exponent + cs.length).toNat : Nat) : Int) =
        d.exponent := by omega
      rw [exponent]
      exact .refl d

/-! ## Texts of numbers -/

theorem head_isDigit_pointed (l : Layout) {cs : List Char} (nonempty : cs ≠ [])
    (digits : ∀ c ∈ cs, c.isDigit = true) (whole : Int) :
    ∃ c rest, l.pointed cs whole = c :: rest ∧ c.isDigit = true := by
  obtain ⟨c, rest, rfl⟩ := List.exists_cons_of_ne_nil nonempty
  have digit := digits c List.mem_cons_self
  unfold Layout.pointed
  split_ifs with small large pointZero
  · exact ⟨'0', _, rfl, by decide⟩
  · exact ⟨c, _, rfl, digit⟩
  · exact ⟨c, _, rfl, digit⟩
  · obtain ⟨n, places⟩ : ∃ n, whole.toNat = n + 1 := ⟨whole.toNat - 1, by omega⟩
    rw [places]
    exact ⟨c, _, rfl, digit⟩

theorem ofList_ne_of_head {c d : Char} (differs : c ≠ d) (cs ds : List Char) :
    String.ofList (c :: cs) ≠ String.ofList (d :: ds) := by
  intro same
  have lists := String.ofList_injective same
  exact differs (List.cons.inj lists).1

theorem splitSign_of_digit (negative : Bool) {c : Char} (rest : List Char)
    (digit : c.isDigit = true) :
    splitSign ((if negative then ['-'] else []) ++ c :: rest) = (negative, c :: rest) := by
  cases negative with
  | true => rfl
  | false =>
    unfold splitSign
    split
    next same => cases same; cases digit
    next same => cases same; cases digit
    next => rfl

/-- A text of digits after an optional minus sign is no word. -/
theorem readDouble?_of_digit (negative : Bool) {c : Char} {rest : List Char}
    (digit : c.isDigit = true) :
    readDouble? ((if negative then ['-'] else []) ++ c :: rest) =
      (readDecimal? (c :: rest)).map fun d => double negative (d.code binary64) := by
  have lower : c.toLower = c := by
    unfold Char.toLower
    rw [dif_neg]
    intro upper
    simp [Char.isDigit, UInt32.le_iff_toNat_le] at digit upper
    omega
  unfold readDouble?
  rw [splitSign_of_digit negative rest digit]
  dsimp only
  rw [List.map_cons, lower]
  have noWord : ∀ d ds, d.isDigit = false → String.ofList (c :: rest.map Char.toLower) ≠
      String.ofList (d :: ds) := by
    intro d ds other
    refine ofList_ne_of_head ?_ _ _
    rintro rfl
    rw [digit] at other
    cases other
  rw [if_neg, if_neg]
  · exact noWord 'n' ['a', 'n'] (by decide)
  · rintro (inf | infinity)
    · exact noWord 'i' ['n', 'f'] (by decide) inf
    · exact noWord 'i' ['n', 'f', 'i', 'n', 'i', 't', 'y'] (by decide) infinity

/-- What a layout without exponents writes is read as the double nearest to the decimal. -/
theorem readDouble?_decimal {l : Layout} (plain : l.plain = none) (negative : Bool) (d : Decimal) :
    readDouble? ((if negative then ['-'] else []) ++ l.decimal d) =
      some (double negative (d.code binary64)) := by
  have laidOut : l.decimal d = l.pointed (Nat.toDigits 10 d.digits)
      (d.exponent + (Nat.toDigits 10 d.digits).length) := by
    unfold Layout.decimal
    rw [plain]
    dsimp only
    rw [if_pos rfl]
    congr 1
    omega
  obtain ⟨read, reads, same⟩ := readDecimal?_pointed l d
  obtain ⟨c, rest, begins, digit⟩ := head_isDigit_pointed l Nat.toDigits_ne_nil
    (fun c => @isDigit_of_mem_toDigits d.digits c)
    (d.exponent + (Nat.toDigits 10 d.digits).length)
  rw [laidOut, begins, readDouble?_of_digit negative digit, ← begins, reads, Option.map_some,
    same.code (by decide)]

end VectorStore
