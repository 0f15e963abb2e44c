import VectorStore.Filter.Operator
import VectorStore.Number.Decimal
import VectorStore.Json.Printer

/-!
What can go wrong, by cause. The causes are grouped into six kinds that callers tell apart;
`Error.message` holds the wording of all of them.
-/
namespace VectorStore

/-- Why a filter text is refused at a byte offset. -/
inductive SyntaxFault
  | expectedEquals
  | expectedDoubled
  | unterminatedString
  | unexpectedCharacter (c : Char)
  | trailingInput
  | nestedTooDeeply
  | expectedClosing
  | expectedField
  | expectedOperator
  | expectedIn
  | expectedList
  | emptyList
  | expectedSeparator
  | expectedValue
  | invalidNumber (text : String)
  deriving DecidableEq

def SyntaxFault.message : SyntaxFault → String
  | expectedEquals => "expected '=='"
  | expectedDoubled => "expected '&&' or '||'"
  | unterminatedString => "unterminated string"
  | unexpectedCharacter c => "unexpected character '" ++ String.singleton c ++ "'"
  | trailingInput => "unexpected trailing input"
  | nestedTooDeeply => "expression nested too deeply"
  | expectedClosing => "expected ')'"
  | expectedField => "expected a field name"
  | expectedOperator => "expected a comparison operator"
  | expectedIn => "expected 'IN' after 'NOT'"
  | expectedList => "expected '[' to start a list"
  | emptyList => "list must not be empty"
  | expectedSeparator => "expected ',' or ']'"
  | expectedValue => "expected a value"
  | invalidNumber text => "invalid number '" ++ text ++ "'"

/-- Whose vector a complaint is about. -/
inductive VectorOwner
  | query
  | document (id : String)
  deriving DecidableEq

def VectorOwner.description : VectorOwner → String
  | query => "query embedding"
  | document id => "embedding of document '" ++ id ++ "'"

/-- What is wrong with a vector. -/
inductive VectorFault
  | empty
  | notFinite (index : Nat)
  | dimension (actual expected : Nat)
  deriving DecidableEq

def VectorFault.description : VectorFault → String
  | empty => " is empty"
  | notFinite index => " has a non-finite value at index " ++ naturalText index
  | dimension actual expected =>
    " has " ++ naturalText actual ++ " dimensions, expected " ++ naturalText expected

/-- Why an input is refused. -/
inductive InputFault
  | identifier (name : String)
  | keyword (family text options : String)
  | filterText (offset : Nat) (fault : SyntaxFault)
  | fieldPath (key : String)
  | keyRequired (op : Operator)
  | valueRequired (op : Operator)
  | secondOperandRequired (op : Operator)
  | conditionsRequired (op : Operator)
  | negationTakesOne
  | negatesCondition
  | notFinite (x : Float)
  | topK
  | threshold (x : Float)
  | vector (owner : VectorOwner) (fault : VectorFault)
  | reservedMetadata (key id : String)
  | longText (index tokens budget : Nat)
  | emptyText
  | searchBreadth
  | sameFields (name : String)
  | reservedField
  | documents (path : String)
  | settings

def InputFault.message : InputFault → String
  | identifier name =>
    "'" ++ name ++ "' is not a valid identifier (expected [A-Za-z_][A-Za-z0-9_]*)"
  | keyword family text options =>
    "unknown " ++ family ++ " '" ++ text ++ "' (expected one of " ++ options ++ ")"
  | filterText offset fault =>
    "filter syntax error at byte " ++ naturalText offset ++ ": " ++ fault.message
  | fieldPath key => "filter key '" ++ key ++ "' is not a valid field path"
  | keyRequired op => op.name ++ " requires a key on the left"
  | valueRequired op => op.name ++ " requires a value on the right"
  | secondOperandRequired op => op.name ++ " requires two operands"
  | conditionsRequired op => op.name ++ " operands must be expressions"
  | negationTakesOne => "NOT takes a single operand"
  | negatesCondition => "NOT operand must be an expression"
  | notFinite x => "filter value " ++ Layout.bare.double x ++ " is not a finite number"
  | topK => "top_k must be positive"
  | threshold x => "similarity threshold must be within [0, 1], got " ++ Layout.bare.double x
  | vector owner fault => owner.description ++ fault.description
  | reservedMetadata key id =>
    "metadata key '" ++ key ++ "' of document '" ++ id ++ "' collides with a record field"
  | longText index tokens budget =>
    "text " ++ naturalText index ++ " needs about " ++ naturalText tokens ++
      " tokens, above the batch budget of " ++ naturalText budget
  | emptyText => "Cannot embed empty text"
  | searchBreadth => "ef must be positive"
  | sameFields name => "content and embedding fields must differ, both are '" ++ name ++ "'"
  | reservedField => "content and embedding fields may not be named 'id'"
  | documents path => path ++ " is not a JSON array of documents"
  | settings => "invalid config file"

/-- Why a filter cannot be negated. -/
inductive NegationFault
  | group
  | comparison (op : Operator)
  deriving DecidableEq

def NegationFault.operator : NegationFault → Operator
  | group => .not
  | comparison op => op
def NegationFault.message : NegationFault → String
  | group => "a parenthesized group cannot be negated"
  | comparison _ => "NOT applies only to EQ, NE, IN and NIN"

/-- The kinds of JSON values as messages name them. -/
def Json.kindName : Json → String
  | .null => "null"
  | .bool _ => "a boolean"
  | .number _ => "a number"
  | .string _ => "a string"
  | .array _ => "an array"
  | .object _ => "an object"

/-- Why a result set or a row is not what a ranked search returns. -/
inductive ResultFault
  | missing (index count : Nat)
  | notRows (kind : String)
  | notRow (kind : String)
  | noRecordId
  | noColumn (name : String)
  | columnKind (name kind : String)
  | noField (name : String)
  | fieldKind (name kind : String)
  | row (index : Nat) (fault : ResultFault)
  deriving DecidableEq

def ResultFault.message : ResultFault → String
  | missing index count =>
    "expected a result for statement " ++ naturalText index ++ ", got " ++ naturalText count ++
      " results"
  | notRows kind => "expected an array of rows, got " ++ kind
  | notRow kind => "expected a row object, got " ++ kind
  | noRecordId => "row has no record id"
  | noColumn name => "row has no '" ++ name ++ "' column"
  | columnKind name kind => "column '" ++ name ++ "' is " ++ kind ++ ", expected a number"
  | noField name => "row has no '" ++ name ++ "' field"
  | fieldKind name kind => "field '" ++ name ++ "' is " ++ kind ++ ", expected a string"
  | row index fault => "row " ++ naturalText index ++ ": " ++ fault.message

/-- Why no embeddings came back. -/
inductive EmbeddingFault
  | miscount (vectors texts : Nat)
  | tooFew
  | model (reason : String)
  deriving DecidableEq

def EmbeddingFault.message : EmbeddingFault → String
  | miscount vectors texts =>
    "model returned " ++ naturalText vectors ++ " embeddings for " ++ naturalText texts ++ " texts"
  | tooFew => "embedder returned too few embeddings"
  | model reason => reason

/-- The failure of an operation. -/
inductive Error
  | invalidInput (fault : InputFault)
  | unsupportedOperator (fault : NegationFault)
  | malformedResult (fault : ResultFault)
  | executionFailure (operation cause : String)
  | schemaInitFailure (index cause : String)
  | embedding (fault : EmbeddingFault)

namespace Error

/-- The kind of a failure by name. -/
def kind : Error → String
  | invalidInput _ => "InvalidInput"
  | unsupportedOperator _ => "UnsupportedOperator"
  | malformedResult _ => "MalformedResult"
  | executionFailure _ _ => "ExecutionFailure"
  | schemaInitFailure _ _ => "SchemaInitFailure"
  | embedding _ => "Embedding"

/-- The failure in words. -/
def message : Error → String
  | invalidInput fault => "invalid input: " ++ fault.message
  | unsupportedOperator fault =>
    "unsupported operator '" ++ fault.operator.name ++ "': " ++ fault.message
  | malformedResult fault => "malformed result: " ++ fault.message
  | executionFailure operation cause => "operation '" ++ operation ++ "' failed: " ++ cause
  | schemaInitFailure index cause =>
    "schema initialization for index '" ++ index ++ "' failed: " ++ cause
  | embedding fault => "embedding failed: " ++ fault.message

end Error
end VectorStore
