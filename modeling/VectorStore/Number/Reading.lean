import VectorStore.Number.Decimal

/-!
Numbers read from text: whole numbers within bounds, and doubles rounded to the nearest. The
readers take the whole text or nothing; they trim no blanks and allow no digit separators.
-/
namespace VectorStore

/-- The value of an ASCII digit. -/
def digitValue? (c : Char) : Option Nat :=
  if c.isDigit then some (c.toNat - '0'.toNat) else none

/-- The value of a hexadecimal digit of either case. -/
def hexValue? (c : Char) : Option Nat :=
  if c.isDigit then some (c.toNat - '0'.toNat)
  else if 'a' ≤ c ∧ c ≤ 'f' then some (c.toNat - 'a'.toNat + 10)
  else if 'A' ≤ c ∧ c ≤ 'F' then some (c.toNat - 'A'.toNat + 10)
  else none

/-- The value of a run of digits, appended to the digits before it. -/
def digitsValue (before : Nat) (cs : List Char) : Nat :=
  cs.foldl (fun n c => 10 * n + (c.toNat - '0'.toNat)) before

/-- The value of a run of hexadecimal digits. -/
def hexDigitsValue? (cs : List Char) : Option Nat :=
  cs.foldlM (fun n c => (hexValue? c).map (16 * n + ·)) 0

/-- A text of one or more digits as a number. -/
def readDigits? (cs : List Char) : Option Nat :=
  if cs ≠ [] ∧ cs.all Char.isDigit then some (digitsValue 0 cs) else none

/-- Takes an optional sign off the front: whether it is a minus, and the rest. -/
def splitSign : List Char → Bool × List Char
  | '-' :: rest => (true, rest)
  | '+' :: rest => (false, rest)
  | rest => (false, rest)

/-- The greatest size. -/
def sizeBound : Nat := Nat.pow 2 64 - 1

/-- A size: digits with an optional plus sign, at most `sizeBound`. -/
def readSize? (text : String) : Option Nat :=
  let digits := match text.toList with
    | '+' :: rest => rest
    | rest => rest
  (readDigits? digits).filter (· ≤ sizeBound)

/-- The least positive integer that is no signed 64-bit one. -/
def signedBound : Nat := Nat.pow 2 63
/-- Whether an integer is within the signed 64-bit range. -/
def fitsSigned (n : Int) : Bool := -signedBound ≤ n && n < signedBound

/-- A signed 64-bit integer: digits with an optional sign. -/
def readInteger? (cs : List Char) : Option Int :=
  let (negative, digits) := splitSign cs
  match readDigits? digits with
  | some n =>
    let value : Int := if negative then -(n : Int) else n
    if fitsSigned value then some value else none
  | none => none

/-- A written exponent; an exponent past what any digits of the text can balance is cut to that
bound, which leaves the value infinite or zero as it was. -/
def readExponent? (bound : Nat) (cs : List Char) : Option Int :=
  let (negative, digits) := splitSign cs
  (readDigits? digits).map fun n =>
    let cut : Int := (min n bound : Nat)
    if negative then -cut else cut

/-- An unsigned decimal with at least one digit, an optional point and an optional exponent. -/
def readDecimal? (cs : List Char) : Option Decimal :=
  let whole := cs.takeWhile Char.isDigit
  let afterWhole := cs.dropWhile Char.isDigit
  let (fraction, afterFraction) := match afterWhole with
    | '.' :: rest => (rest.takeWhile Char.isDigit, rest.dropWhile Char.isDigit)
    | rest => ([], rest)
  if whole ++ fraction = [] then none
  else
    let exponent? := match afterFraction with
      | [] => some 0
      | c :: rest => if c = 'e' ∨ c = 'E' then readExponent? (cs.length + 400) rest else none
    exponent?.map fun e =>
      ⟨digitsValue 0 (whole ++ fraction), e - fraction.length⟩

/-- A double: a decimal, or one of the words for what no decimal writes, with an optional sign. -/
def readDouble? (cs : List Char) : Option Float :=
  let (negative, magnitude) := splitSign cs
  let word := String.ofList (magnitude.map Char.toLower)
  if word = "inf" ∨ word = "infinity" then some (double negative binary64.ceiling)
  else if word = "nan" then some (double negative (binary64.ceiling + binary64.block / 2))
  else (readDecimal? magnitude).map fun d => double negative (d.code binary64)

end VectorStore
