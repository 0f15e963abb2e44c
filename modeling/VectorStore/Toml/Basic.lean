import VectorStore.SortedMap

/-!
TOML values and the rules by which a document's tables come about. A table remembers what made
it, for that decides whether it may still be opened by a header or extended by a dotted key.
-/
namespace VectorStore

/-- What made a table. -/
inductive TableOrigin
  /-- A header of its own, or the document itself. -/
  | header
  /-- The header of a table inside it. -/
  | implied
  /-- A dotted key. -/
  | dotted
  /-- Braces, which also end it. -/
  | inline
  deriving DecidableEq

/-- A TOML value. An array of tables grows by headers, any other array is complete. -/
inductive Toml
  | text (s : String)
  | integer (n : Int)
  | float (x : Float)
  | bool (b : Bool)
  | moment (written : String)
  | array (ofTables : Bool) (items : List Toml)
  | table (origin : TableOrigin) (entries : List (String × Toml))

namespace Toml

/-- The entries of a table, each key once. -/
abbrev Entries := List (String × Toml)

/-- Sets the value of a key. -/
def put (key : String) (value : Toml) : Entries → Entries
  | [] => [(key, value)]
  | (k, v) :: rest => if k = key then (key, value) :: rest else (k, v) :: put key value rest

/-- Changes the entries of the table that a path leads to, by way of the last table of an array.
Tables that are missing come about. A dotted key leads into no table that has a header. -/
def within (dotted : Bool) (change : TableOrigin → Entries → Option Entries) :
    List String → TableOrigin → Entries → Option Entries
  | [], origin, entries => change origin entries
  | key :: path, _, entries =>
    match SortedMap.lookup key entries with
    | none =>
      let origin := if dotted then TableOrigin.dotted else .implied
      (within dotted change path origin []).map fun inner =>
        put key (.table origin inner) entries
    | some (.table origin inner) =>
      if origin = .inline ∨ (dotted ∧ origin = .header) then none
      else (within dotted change path origin inner).map fun inner =>
        put key (.table origin inner) entries
    | some (.array true items) =>
      match items.getLast? with
      | some (.table origin inner) => (within dotted change path origin inner).map fun inner =>
        put key (.array true (items.dropLast ++ [.table origin inner])) entries
      | _ => none
    | some _ => none

/-- Sets a key that has no value yet; a dotted key ends in a table that dotted keys made. -/
def assign (path : List String) (key : String) (value : Toml) :
    TableOrigin → Entries → Option Entries :=
  within true (fun origin entries =>
    if (origin = .dotted ↔ path ≠ []) ∧ SortedMap.lookup key entries = none then
      some (put key value entries)
    else none) path

/-- Opens a table by its header, once. -/
def openTable (path : List String) (key : String) : Entries → Option Entries :=
  within false (fun _ entries =>
    match SortedMap.lookup key entries with
    | none => some (put key (.table .header []) entries)
    | some (.table .implied inner) => some (put key (.table .header inner) entries)
    | some _ => none) path .header

/-- Opens a further table of an array of tables. -/
def openElement (path : List String) (key : String) : Entries → Option Entries :=
  within false (fun _ entries =>
    match SortedMap.lookup key entries with
    | none => some (put key (.array true [.table .header []]) entries)
    | some (.array true items) =>
      some (put key (.array true (items ++ [.table .header []])) entries)
    | some _ => none) path .header

end Toml
end VectorStore
