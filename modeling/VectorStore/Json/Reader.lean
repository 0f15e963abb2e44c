import VectorStore.Json.Basic

/-!
JSON read from text, in two steps. `RawJson.read?` settles the grammar and keeps what a value may
still be refused for: the order and repetition of keys, numbers beyond the range of doubles, and
strings with half of a surrogate pair. `RawJson.value?` turns an accepted part into a value;
a reader that ignores a part never asks for its value, so such faults there do no harm.
-/
namespace VectorStore

/-- The structure of a JSON text. A string that holds half of a surrogate pair has no text. -/
inductive RawJson
  | null
  | bool (b : Bool)
  | number (negative whole : Bool) (magnitude : Decimal)
  | string (text : Option String)
  | array (items : List RawJson)
  | object (fields : List (Option String × RawJson))
  deriving Inhabited

namespace RawJson

/-- Blanks between the tokens of JSON. -/
def isSpace (c : Char) : Bool := c == ' ' || c == '\t' || c == '\n' || c == '\r'
def skipSpace (cs : List Char) : List Char := cs.dropWhile isSpace

/-- The character that a one-letter escape stands for. -/
def shortEscape? (c : Char) : Option Nat :=
  if c = '"' ∨ c = '\\' ∨ c = '/' then some c.toNat
  else if c = 'b' then some 8
  else if c = 'f' then some 12
  else if c = 'n' then some 10
  else if c = 'r' then some 13
  else if c = 't' then some 9
  else none

/-- Reads a string after its opening quote: its code units, latest first, and what follows. -/
def stringUnits (units : List Nat) : List Char → Option (List Nat × List Char)
  | [] => none
  | '"' :: rest => some (units, rest)
  | '\\' :: 'u' :: a :: b :: c :: d :: rest =>
    match hexValue? a, hexValue? b, hexValue? c, hexValue? d with
    | some a, some b, some c, some d =>
      stringUnits ((((a * 16 + b) * 16 + c) * 16 + d) :: units) rest
    | _, _, _, _ => none
  | '\\' :: c :: rest =>
    match shortEscape? c with
    | some unit => stringUnits (unit :: units) rest
    | none => none
  | c :: rest => if c.toNat < 0x20 then none else stringUnits (c.toNat :: units) rest

/-- Joins surrogate pairs; nothing when half of one stands alone. -/
def joinSurrogates : List Nat → Option (List Char)
  | [] => some []
  | high :: rest =>
    if 0xD800 ≤ high ∧ high < 0xDC00 then
      match rest with
      | low :: rest' =>
        if 0xDC00 ≤ low ∧ low < 0xE000 then
          (joinSurrogates rest').map
            (Char.ofNat (0x10000 + (high - 0xD800) * 0x400 + (low - 0xDC00)) :: ·)
        else none
      | [] => none
    else if 0xDC00 ≤ high ∧ high < 0xE000 then none
    else (joinSurrogates rest).map (Char.ofNat high :: ·)

/-- Reads a string after its opening quote. -/
def stringBody? (cs : List Char) : Option (Option String × List Char) :=
  (stringUnits [] cs).map fun (units, rest) =>
    ((joinSurrogates units.reverse).map String.ofList, rest)

/-- Reads a number: no leading zeros, digits on both sides of a point. -/
def number? (cs : List Char) : Option (RawJson × List Char) :=
  let (negative, unsigned) := match cs with
    | '-' :: rest => (true, rest)
    | rest => (false, rest)
  let whole := unsigned.takeWhile Char.isDigit
  let afterWhole := unsigned.dropWhile Char.isDigit
  let wellFormed := match whole with
    | [] => false
    | ['0'] => true
    | d :: _ => d != '0'
  if !wellFormed then none
  else
    let (fraction?, afterFraction) := match afterWhole with
      | '.' :: rest => (some (rest.takeWhile Char.isDigit), rest.dropWhile Char.isDigit)
      | rest => (none, rest)
    let (exponent?, rest) := match afterFraction with
      | c :: rest =>
        if c = 'e' ∨ c = 'E' then
          let (down, digits) := splitSign rest
          (some (down, digits.takeWhile Char.isDigit), digits.dropWhile Char.isDigit)
        else (none, afterFraction)
      | [] => (none, [])
    let fraction := fraction?.getD []
    if fraction? = some [] then none
    else
      let digits := whole ++ fraction
      match exponent? with
      | none =>
        some (.number negative fraction?.isNone ⟨digitsValue 0 digits, -fraction.length⟩, rest)
      | some (_, []) => none
      | some (down, written) =>
        let size : Int := (min (digitsValue 0 written) (digits.length + 400) : Nat)
        let exponent := (if down then -size else size) - fraction.length
        some (.number negative false ⟨digitsValue 0 digits, exponent⟩, rest)

mutual
/-- Reads a value and returns what follows it. -/
def value (fuel : Nat) (cs : List Char) : Option (RawJson × List Char) :=
  match fuel with
  | 0 => none
  | fuel + 1 =>
    match skipSpace cs with
    | 'n' :: 'u' :: 'l' :: 'l' :: rest => some (.null, rest)
    | 't' :: 'r' :: 'u' :: 'e' :: rest => some (.bool true, rest)
    | 'f' :: 'a' :: 'l' :: 's' :: 'e' :: rest => some (.bool false, rest)
    | '"' :: rest => (stringBody? rest).map fun (text, rest) => (.string text, rest)
    | '[' :: rest =>
      match skipSpace rest with
      | ']' :: rest => some (.array [], rest)
      | rest => items fuel [] rest
    | '\x7b' :: rest =>
      match skipSpace rest with
      | '\x7d' :: rest => some (.object [], rest)
      | rest => fields fuel [] rest
    | rest => number? rest
/-- Reads the items of an array after an opening bracket or a comma. -/
def items (fuel : Nat) (before : List RawJson) (cs : List Char) : Option (RawJson × List Char) :=
  match fuel with
  | 0 => none
  | fuel + 1 =>
    match value fuel cs with
    | none => none
    | some (item, rest) =>
      match skipSpace rest with
      | ',' :: rest => items fuel (item :: before) rest
      | ']' :: rest => some (.array (item :: before).reverse, rest)
      | _ => none
/-- Reads the fields of an object after an opening brace or a comma. -/
def fields (fuel : Nat) (before : List (Option String × RawJson)) (cs : List Char) :
    Option (RawJson × List Char) :=
  match fuel with
  | 0 => none
  | fuel + 1 =>
    match skipSpace cs with
    | '"' :: rest =>
      match stringBody? rest with
      | none => none
      | some (name, rest) =>
        match skipSpace rest with
        | ':' :: rest =>
          match value fuel rest with
          | none => none
          | some (item, rest) =>
            match skipSpace rest with
            | ',' :: rest => fields fuel ((name, item) :: before) rest
            | '\x7d' :: rest => some (.object ((name, item) :: before).reverse, rest)
            | _ => none
        | _ => none
    | _ => none
end

/-- Reads a text that holds one value and nothing else but blanks. -/
def read? (text : String) : Option RawJson :=
  let cs := text.toList
  match value (cs.length + 1) cs with
  | some (raw, rest) => if skipSpace rest = [] then some raw else none
  | none => none

mutual
/-- The value of a part, if its arrays and objects are nested at most `depth` deep. -/
def value? (depth : Nat) : RawJson → Option Json
  | .null => some .null
  | .bool b => some (.bool b)
  | .number negative whole d => (JsonNumber.ofDecimal? negative whole d).map .number
  | .string text => text.map .string
  | .array items => if depth = 0 then none else (values? (depth - 1) items).map .array
  | .object fields =>
    if depth = 0 then none
    else (entries? (depth - 1) fields).map fun es => Json.ofFields (.ofList es)
def values? (depth : Nat) : List RawJson → Option (List Json)
  | [] => some []
  | raw :: rest =>
    match value? depth raw, values? depth rest with
    | some j, some js => some (j :: js)
    | _, _ => none
def entries? (depth : Nat) : List (Option String × RawJson) → Option (List (String × Json))
  | [] => some []
  | (name, raw) :: rest =>
    match name, value? depth raw, entries? depth rest with
    | some name, some j, some es => some ((name, j) :: es)
    | _, _, _ => none
end

end RawJson

/-- Reads a text that holds one JSON value, nested at most `depth` deep. -/
def Json.read? (depth : Nat) (text : String) : Option Json :=
  (RawJson.read? text).bind (RawJson.value? depth)

end VectorStore
