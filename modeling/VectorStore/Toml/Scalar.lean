import VectorStore.Instant
import VectorStore.Toml.Basic

/-!
Unquoted values of TOML: integers, floats, booleans, dates and times. A value is read from the
word it is written as, which it has to fill.
-/
namespace VectorStore.Toml

/-- Digits between which single underscores may stand, without the underscores. -/
def grouped? (isDigit : Char → Bool) (cs : List Char) : Option (List Char) :=
  let groups := Text.split (· == '_') cs
  if groups.all fun group => group != [] && group.all isDigit then some groups.flatten else none

/-- A whole part: digits without a leading zero. -/
def wholeDigits? (cs : List Char) : Option (List Char) :=
  (grouped? Char.isDigit cs).filter fun digits => digits.length ≤ 1 || digits.head? != some '0'

/-- The value of digits in a radix of at most sixteen. -/
def radixValue? (radix : Nat) (cs : List Char) : Option Nat :=
  let digit? (c : Char) := (hexValue? c).filter (· < radix)
  (grouped? (fun c => (digit? c).isSome) cs).bind fun digits =>
    digits.foldlM (fun n c => (digit? c).map (radix * n + ·)) 0

/-- An integer; only a decimal one may have a sign. -/
def integer? (cs : List Char) : Option Int :=
  match cs with
  | '0' :: 'x' :: rest => (radixValue? 16 rest).map Int.ofNat
  | '0' :: 'o' :: rest => (radixValue? 8 rest).map Int.ofNat
  | '0' :: 'b' :: rest => (radixValue? 2 rest).map Int.ofNat
  | cs =>
    let (negative, unsigned) := splitSign cs
    (wholeDigits? unsigned).map fun digits =>
      let n : Int := digitsValue 0 digits
      if negative then -n else n

/-- Integers beyond 128 bits are refused. -/
def fitsWide (n : Int) : Bool := -(Nat.pow 2 127 : Nat) ≤ n && n < (Nat.pow 2 128 : Nat)

/-- The digits and the exponent of an unsigned float: a fraction, an exponent or both. -/
def decimal? (cs : List Char) : Option Decimal := do
  let isMark (c : Char) := c == 'e' || c == 'E'
  let mantissa := cs.takeWhile fun c => !isMark c
  let exponent? := (cs.dropWhile fun c => !isMark c).tail?
  let fraction? := (mantissa.dropWhile (· != '.')).tail?
  if exponent?.isNone && fraction?.isNone then none
  else
    let whole ← wholeDigits? (mantissa.takeWhile (· != '.'))
    let fraction ← match fraction? with
      | some digits => grouped? Char.isDigit digits
      | none => some []
    let exponent ← match exponent? with
      | some written =>
        let (negative, unsigned) := splitSign written
        (grouped? Char.isDigit unsigned).map fun digits =>
          let size : Int := (min (digitsValue 0 digits) (cs.length + 400) : Nat)
          if negative then -size else size
      | none => some 0
    return ⟨digitsValue 0 (whole ++ fraction), exponent - fraction.length⟩

def float? (cs : List Char) : Option Float :=
  let (negative, unsigned) := splitSign cs
  if unsigned = ['i', 'n', 'f'] then some (double negative binary64.ceiling)
  else if unsigned = ['n', 'a', 'n'] then
    some (double negative (binary64.ceiling + binary64.block / 2))
  else (decimal? unsigned).map fun d => double negative (d.code binary64)

/-- Takes a date off the front. -/
def takeDate? (cs : List Char) : Option (List Char) := do
  let (year, rest) ← Instant.takeDigits? 4 cs
  let (month, rest) ← Instant.takeDigits? 2 (← Instant.takeOne? ['-'] rest)
  let (day, rest) ← Instant.takeDigits? 2 (← Instant.takeOne? ['-'] rest)
  if 1 ≤ month ∧ month ≤ 12 ∧ 1 ≤ day ∧ day ≤ Instant.daysInMonth year month then some rest
  else none

/-- Takes a time of day off the front; the seconds may be missing. -/
def takeTime? (cs : List Char) : Option (List Char) := do
  let (hour, rest) ← Instant.takeDigits? 2 cs
  let (minute, rest) ← Instant.takeDigits? 2 (← Instant.takeOne? [':'] rest)
  if 24 ≤ hour ∨ 60 ≤ minute then none
  else
    match rest with
    | ':' :: rest => do
      let (second, rest) ← Instant.takeDigits? 2 rest
      let (_, rest) ← Instant.takeFraction? rest
      if second ≤ 60 then some rest else none
    | rest => some rest

/-- A zone, or none. -/
def isZone (cs : List Char) : Bool :=
  cs == [] || (cs.head? != some '−' && (Instant.takeZone? cs).any fun zone => zone.2 == [])

/-- A date, a time of day, or both with a zone or without. -/
def isMoment (cs : List Char) : Bool :=
  match takeDate? cs with
  | some [] => true
  | some (c :: rest) => [' ', 'T', 't'].contains c && (takeTime? rest).any isZone
  | none => takeTime? cs == some []

/-- The value that a word stands for. -/
def scalar? (word : List Char) : Option Toml :=
  if word = ['t', 'r', 'u', 'e'] then some (.bool true)
  else if word = ['f', 'a', 'l', 's', 'e'] then some (.bool false)
  else if isMoment word then some (.moment (String.ofList word))
  else
    match integer? word with
    | some n => if fitsWide n then some (.integer n) else none
    | none => (float? word).map .float

end VectorStore.Toml
