import VectorStore.Number.Reading
import VectorStore.Text.Basic
import VectorStore.Text.Letters

/-!
Log directives: which events a log keeps, by the target, the span and the fields of an event. A
directive is written `target[span{field=value}]=level`, each part of it optional.
-/
namespace VectorStore

inductive LogLevel
  | off
  | error
  | warn
  | info
  | debug
  | trace
  deriving DecidableEq

namespace LogLevel

def text : LogLevel → String
  | off => "off"
  | error => "error"
  | warn => "warn"
  | info => "info"
  | debug => "debug"
  | trace => "trace"

/-- The levels in order; their numbers count from zero. -/
def all : List LogLevel := [off, error, warn, info, debug, trace]

/-- A level by its number, or by its name in any case; nothing at all means errors. -/
def read? (written : String) : Option LogLevel :=
  match readSize? written with
  | some n => all[n]?
  | none =>
    if written = "" then some error
    else all.find? fun level => Text.equalsIgnoringCase level.text written

end LogLevel

/-- A condition on a field: that it is there, or that it has a value of some text. -/
structure LogField where
  name : String
  value : Option String

namespace LogField

/-- The text of a value: numbers in their shortest form, others as they are. -/
def valueText (written : String) : String :=
  match readSize? written, readInteger? written.toList, readDouble? written.toList with
  | some n, _, _ => String.ofList (Nat.toDigits 10 n)
  | none, some n, _ => String.ofList ('-' :: Nat.toDigits 10 n.natAbs)
  | none, none, some x => Layout.bare.double x
  | none, none, none => written

/-- The condition written as a name, or a name and a value between equals signs. -/
def ofChars (cs : List Char) : LogField :=
  match (Text.split (· == '=') cs).map String.ofList with
  | name :: value :: _ => ⟨name, some (valueText value)⟩
  | [name] => ⟨name, none⟩
  | [] => ⟨"", none⟩

def text (f : LogField) : String := f.name ++ f.value.elim "" ("=" ++ ·)

/-- Fields without a value first, then by name. -/
instance : Ord LogField where
  compare a b := ((compare a.value.isSome b.value.isSome).then (compare a.name b.name)).then
    (compare a.value b.value)

end LogField

structure LogDirective where
  target : Option String
  span : Option String
  fields : List LogField
  level : LogLevel

namespace LogDirective

/-- Compares how specific two directives are: by the length of the target, the presence of a
span and the number of fields, and otherwise by their text. -/
def specificity (a b : LogDirective) : Ordering :=
  let length (d : LogDirective) := d.target.map String.utf8ByteSize
  (((((compare (length a) (length b)).then (compare a.span.isSome b.span.isSome)).then
    (compare a.fields.length b.fields.length)).then (compare a.target b.target)).then
    (compare a.span b.span)).then (compare a.fields b.fields)

/-- Whether an event alone decides, whatever spans it is in. -/
def isStatic (d : LogDirective) : Bool := d.span.isNone && d.fields.all fun f => f.value.isNone
/-- Whether the spans that an event is in matter. -/
def isDynamic (d : LogDirective) : Bool := d.span.isSome || !d.fields.isEmpty

def text (d : LogDirective) : String :=
  let fields :=
    if d.fields.isEmpty then ""
    else "\x7b" ++ Text.joinWith "," (d.fields.map LogField.text) ++ "\x7d"
  let place := d.target.getD "" ++
    if d.isDynamic then "[" ++ d.span.getD "" ++ fields ++ "]" else ""
  if d.target.isNone && !d.isDynamic then d.level.text else place ++ "=" ++ d.level.text

/-! ## Reading -/

/-- Where the reading of a directive is, with the position at which the current part began. -/
inductive Part
  | start
  | levelOrTarget (since : Nat)
  | span (since : Nat)
  | field (since : Nat)
  | afterFields
  | afterSpan
  | level (since : Nat)

/-- A character that a directive may begin with. -/
def isStart (c : Char) : Bool :=
  c == '-' || c == ':' || c == '_' || Text.isLetter c || Text.isNumber c

/-- Takes in the character at a position of the text `from`. -/
def step (written : List Char) (i : Nat) (c : Char) :
    Part × LogDirective → Option (Part × LogDirective)
  | (part, d) =>
    let since (k : Nat) := (written.take i).drop k
    match part with
    | .start =>
      if c = '[' then some (.span (i + 1), d)
      else if isStart c then some (.levelOrTarget i, d)
      else none
    | .levelOrTarget k =>
      let targeted := { d with target := some (String.ofList (since k)) }
      if c = '=' then some (.level (i + 1), targeted)
      else if c = '[' then some (.span (i + 1), targeted)
      else some (.levelOrTarget k, d)
    | .span k =>
      let name := String.ofList (since k)
      if c = ']' then some (.afterSpan, { d with span := some name })
      else if c = '\x7b' then
        some (.field (i + 1), { d with span := if name = "" then none else some name })
      else some (.span k, d)
    | .field k =>
      if c = '\x7d' then
        if since k = [] then none
        else some (.afterFields, { d with fields := d.fields ++ [.ofChars (since k)] })
      else some (.field k, d)
    | .afterFields => if c = ']' then some (.afterSpan, d) else none
    | .afterSpan => if c = '=' then some (.level (i + 1), d) else none
    | .level k => some (.level k, d)

/-- Takes in characters from a position on. -/
def scan (written : List Char) (i : Nat) (s : Part × LogDirective) :
    List Char → Option (Part × LogDirective)
  | [] => some s
  | c :: rest => (step written i c s).bind fun s => scan written (i + 1) s rest

/-- The directive when its characters end. -/
def finish (written : List Char) : Part × LogDirective → Option LogDirective
  | (part, d) =>
    let since (k : Nat) := String.ofList (written.drop k)
    match part with
    | .levelOrTarget k =>
      match LogLevel.read? (since k) with
      | some level => some { d with level := level }
      | none => some { d with target := some (since k) }
    | .level k =>
      if since k = "" then some d
      else (LogLevel.read? (since k)).map fun level => { d with level := level }
    | .afterSpan => some d
    | _ => none

/-- Reads a directive. Blanks at the ends are passed over, but the parts are cut out of the text
at the positions that they would have without the blanks before them. -/
def read? (written : List Char) : Option LogDirective :=
  (scan written 0 (.start, ⟨none, none, [], .trace⟩) (Text.trim written)).bind (finish written)

end LogDirective

/-- Directives by falling specificity, first those that an event decides alone. -/
structure LogFilter where
  statics : List LogDirective
  dynamics : List LogDirective

namespace LogFilter

/-- Puts a directive in its place; an equally specific one gives way. -/
def place (d : LogDirective) : List LogDirective → List LogDirective
  | [] => [d]
  | e :: rest =>
    match d.specificity e with
    | .gt => d :: e :: rest
    | .eq => d :: rest
    | .lt => e :: place d rest

def arrange (ds : List LogDirective) : List LogDirective :=
  ds.foldl (fun sorted d => place d sorted) []

def ofDirectives (ds : List LogDirective) : LogFilter :=
  if ds.isEmpty then ⟨[⟨none, none, [], .error⟩], []⟩
  else ⟨arrange (ds.filter LogDirective.isStatic), arrange (ds.filter LogDirective.isDynamic)⟩

/-- Reads directives with commas between them. -/
def read? (written : String) : Option LogFilter :=
  (((Text.split (· == ',') written.toList).filter (· ≠ [])).mapM LogDirective.read?).map
    ofDirectives

def text (f : LogFilter) : String :=
  Text.joinWith "," ((f.statics ++ f.dynamics).map LogDirective.text)

end LogFilter
end VectorStore
