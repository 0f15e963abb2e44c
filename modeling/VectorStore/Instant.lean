import VectorStore.Text.Basic
import VectorStore.Number.Reading

/-!
Instants of UTC, written and read as RFC 3339 timestamps. A leap second is the second before it
with a fraction of one second or more, so it sorts after every fraction of that second.
-/
namespace VectorStore

/-- Seconds since 1970-01-01T00:00:00Z and nanoseconds; a fraction of `10 ^ 9` or more is the
leap second that follows. -/
structure Instant where
  seconds : Int
  nanos : Nat
  deriving DecidableEq

namespace Instant

/-- Earlier seconds first, then earlier fractions. -/
def compare (a b : Instant) : Ordering :=
  if a.seconds < b.seconds then .lt
  else if b.seconds < a.seconds then .gt
  else if a.nanos < b.nanos then .lt
  else if b.nanos < a.nanos then .gt
  else .eq

/-- Days from 1970-01-01 to a date of the Gregorian calendar, in both directions of time. Years
are counted from March, so that the leap day ends one. -/
def daysOfDate (year : Int) (month day : Nat) : Int :=
  let y := if month ≤ 2 then year - 1 else year
  let era := y / 400
  let yearOfEra := y - era * 400
  let dayOfYear : Int := ((153 * ((month + 9) % 12) + 2) / 5 + day : Nat) - 1
  era * 146097 + yearOfEra * 365 + yearOfEra / 4 - yearOfEra / 100 + dayOfYear - 719468

/-- The date of a day counted from 1970-01-01. -/
def dateOfDays (days : Int) : Int × Nat × Nat :=
  let z := days + 719468
  let era := z / 146097
  let dayOfEra := z - era * 146097
  let yearOfEra := (dayOfEra - dayOfEra / 1460 + dayOfEra / 36524 - dayOfEra / 146096) / 365
  let dayOfYear := dayOfEra - (365 * yearOfEra + yearOfEra / 4 - yearOfEra / 100)
  let shifted := (5 * dayOfYear + 2) / 153
  let day := (dayOfYear - (153 * shifted + 2) / 5 + 1).toNat
  let month := (if shifted < 10 then shifted + 3 else shifted - 9).toNat
  (yearOfEra + era * 400 + (if month ≤ 2 then 1 else 0), month, day)

/-- Digits filled with zeros to a width. -/
def padded (width n : Nat) : List Char :=
  let digits := Nat.toDigits 10 n
  List.replicate (width - digits.length) '0' ++ digits

/-- Four digits for the years 0 to 9999, a sign and at least four digits for others. -/
def yearText (year : Int) : List Char :=
  if 0 ≤ year ∧ year ≤ 9999 then padded 4 year.toNat
  else (if year < 0 then '-' else '+') :: padded 4 year.natAbs

/-- A fraction in the fewest of no, three, six or nine digits that hold it. -/
def fractionText (nanos : Nat) : List Char :=
  if nanos = 0 then []
  else if nanos % 1000000 = 0 then '.' :: padded 3 (nanos / 1000000)
  else if nanos % 1000 = 0 then '.' :: padded 6 (nanos / 1000)
  else '.' :: padded 9 nanos

/-- An instant as a timestamp that ends in `Z`. -/
def text (t : Instant) : String :=
  let days := t.seconds / 86400
  let second := (t.seconds - days * 86400).toNat
  let (year, month, day) := dateOfDays days
  let leap := t.nanos / 1000000000
  String.ofList (yearText year ++ '-' :: padded 2 month ++ '-' :: padded 2 day ++
    'T' :: padded 2 (second / 3600) ++ ':' :: padded 2 (second / 60 % 60) ++
    ':' :: padded 2 (second % 60 + leap) ++ fractionText (t.nanos % 1000000000) ++ ['Z'])

def isLeapYear (year : Nat) : Bool := year % 4 == 0 && (year % 100 != 0 || year % 400 == 0)
def daysInMonth (year month : Nat) : Nat :=
  if month = 2 then if isLeapYear year then 29 else 28
  else if month ∈ [4, 6, 9, 11] then 30
  else 31

/-- A number of exactly `count` digits off the front. -/
def takeDigits? (count : Nat) (cs : List Char) : Option (Nat × List Char) :=
  if count ≤ cs.length then (readDigits? (cs.take count)).map (·, cs.drop count) else none
/-- One of some characters off the front. -/
def takeOne? (allowed : List Char) : List Char → Option (List Char)
  | c :: rest => if allowed.contains c then some rest else none
  | [] => none

/-- An optional fraction off the front, in nanoseconds; digits after the ninth are dropped. -/
def takeFraction? : List Char → Option (Nat × List Char)
  | '.' :: rest =>
    let digits := rest.takeWhile Char.isDigit
    if digits = [] then none
    else
      let kept := digits.take 9
      some (digitsValue 0 kept * Nat.pow 10 (9 - kept.length), rest.dropWhile Char.isDigit)
  | rest => some (0, rest)

/-- A zone off the front, in seconds east of UTC: `Z`, or a sign with hours and minutes below one
day. The sign may be a minus sign proper. -/
def takeZone? (cs : List Char) : Option (Int × List Char) :=
  match cs with
  | [] => none
  | c :: rest =>
    if c = 'Z' ∨ c = 'z' then some (0, rest)
    else if c = '+' ∨ c = '-' ∨ c = '−' then do
      let (hours, rest) ← takeDigits? 2 rest
      let rest ← takeOne? [':'] rest
      let (minutes, rest) ← takeDigits? 2 rest
      if hours < 24 ∧ minutes < 60 then
        let east : Int := (hours * 3600 + minutes * 60 : Nat)
        some (if c = '+' then east else -east, rest)
      else none
    else none

/-- Reads an RFC 3339 timestamp of any zone; a blank or a small `t` may stand for the `T`. -/
def read? (text : String) : Option Instant := do
  let (year, rest) ← takeDigits? 4 text.toList
  let rest ← takeOne? ['-'] rest
  let (month, rest) ← takeDigits? 2 rest
  let rest ← takeOne? ['-'] rest
  let (day, rest) ← takeDigits? 2 rest
  let rest ← takeOne? ['T', 't', ' '] rest
  let (hour, rest) ← takeDigits? 2 rest
  let rest ← takeOne? [':'] rest
  let (minute, rest) ← takeDigits? 2 rest
  let rest ← takeOne? [':'] rest
  let (second, rest) ← takeDigits? 2 rest
  let (nanos, rest) ← takeFraction? rest
  let (east, rest) ← takeZone? rest
  if rest = [] ∧ 1 ≤ month ∧ month ≤ 12 ∧ 1 ≤ day ∧ day ≤ daysInMonth year month ∧
      hour < 24 ∧ minute < 60 ∧ second ≤ 60 then
    let ofDay : Nat := hour * 3600 + minute * 60 + min second 59
    some ⟨daysOfDate year month day * 86400 + ofDay - east,
      nanos + if second = 60 then 1000000000 else 0⟩
  else none

end Instant
end VectorStore
