/-!
The operators of metadata filters: joiners, negation, and comparisons of a key with a value.
-/
namespace VectorStore

/-- An operator of a filter. -/
inductive Operator
  | and
  | or
  | not
  | eq
  | ne
  | lt
  | lte
  | gt
  | gte
  | isIn
  | notIn
  deriving DecidableEq

namespace Operator

/-- The name of an operator in trees and messages. -/
def name : Operator → String
  | and => "AND"
  | or => "OR"
  | not => "NOT"
  | eq => "EQ"
  | ne => "NE"
  | lt => "LT"
  | lte => "LTE"
  | gt => "GT"
  | gte => "GTE"
  | isIn => "IN"
  | notIn => "NIN"

/-- The spelling of an operator in a condition. -/
def symbol : Operator → String
  | and => "AND"
  | or => "OR"
  | not => "NOT"
  | eq => "="
  | ne => "!="
  | lt => "<"
  | lte => "<="
  | gt => ">"
  | gte => ">="
  | isIn => "IN"
  | notIn => "NOT IN"

/-- Every operator. -/
def all : List Operator := [and, or, not, eq, ne, lt, lte, gt, gte, isIn, notIn]
/-- The operator of a name. -/
def ofName? (text : String) : Option Operator := all.find? (·.name == text)

/-- The operators that join conditions. -/
def joins : Operator → Bool
  | and | or => true
  | _ => false
/-- The operators that compare a key with a value. -/
def compares : Operator → Bool
  | and | or | not => false
  | _ => true
/-- The operators whose right side is a list. -/
def listed : Operator → Bool
  | isIn | notIn => true
  | _ => false

/-- The comparison that holds exactly where another fails, where the condition language has one:
ordered comparisons have none. -/
def negation? : Operator → Option Operator
  | eq => some ne
  | ne => some eq
  | isIn => some notIn
  | notIn => some isIn
  | _ => none

end Operator
end VectorStore
