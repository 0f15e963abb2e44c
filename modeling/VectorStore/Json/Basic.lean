import VectorStore.SortedMap
import VectorStore.Number.Reading

/-!
JSON values and the records made of them. An integer that fits 64 bits stays an integer, every
other number is a double. The fields of an object stand in key order.
-/
namespace VectorStore

/-- A JSON number. -/
inductive JsonNumber
  | int (n : Int)
  | double (x : Float)
  deriving DecidableEq

/-- A JSON value. -/
inductive Json
  | null
  | bool (b : Bool)
  | number (n : JsonNumber)
  | string (s : String)
  | array (items : List Json)
  | object (fields : List (String × Json))
  deriving Inhabited

/-- The fields of a record by name. -/
abbrev Fields := SortedMap Json

/-- The integers that JSON keeps as integers: signed or unsigned 64-bit ones. -/
def fitsJson (n : Int) : Bool := -signedBound ≤ n && n ≤ sizeBound

namespace JsonNumber

/-- The number of a decimal written without point and exponent, or nothing beyond the range of
doubles; a minus sign on zero makes it the double `-0.0`. -/
def ofDecimal? (negative whole : Bool) (d : Decimal) : Option JsonNumber :=
  let n : Int := if negative then -(d.digits : Int) else d.digits
  if whole && fitsJson n && !(negative && d.digits == 0) then some (.int n)
  else
    let code := d.code binary64
    if code < binary64.ceiling then some (.double (VectorStore.double negative code)) else none

/-- The double nearest to a number. -/
def toDouble : JsonNumber → Float
  | .int n => doubleOfInt n
  | .double x => x

end JsonNumber

namespace Json

/-- A whole number. -/
def ofInt (n : Int) : Json := .number (.int n)
def ofNat (n : Nat) : Json := ofInt n
/-- A double, or null for what JSON has no number for. -/
def ofDouble (x : Float) : Json := if doubleFinite x then .number (.double x) else .null
/-- A single as the double that its shortest decimal reads as, so that `0.1` stays `0.1`. -/
def ofSingle (x : Float32) : Json :=
  match readDouble? (Layout.bare.single x).toList with
  | some y => ofDouble y
  | none => .null
/-- A record. -/
def ofFields (fields : Fields) : Json := .object fields.entries
/-- An optional value, null when absent. -/
def ofOption (value : Option Json) : Json := value.getD .null

def string? : Json → Option String
  | .string s => some s
  | _ => none
def number? : Json → Option JsonNumber
  | .number n => some n
  | _ => none
def double? (j : Json) : Option Float := j.number?.map JsonNumber.toDouble
def bool? : Json → Option Bool
  | .bool b => some b
  | _ => none
def array? : Json → Option (List Json)
  | .array items => some items
  | _ => none
def object? : Json → Option (List (String × Json))
  | .object fields => some fields
  | _ => none
/-- The value of a field of an object. -/
def field? (j : Json) (name : String) : Option Json := j.object?.bind (SortedMap.lookup name)
/-- The numbers of an array that holds nothing else. -/
def doubles? (j : Json) : Option (List Float) := j.array?.bind fun items => items.mapM double?

end Json
end VectorStore
