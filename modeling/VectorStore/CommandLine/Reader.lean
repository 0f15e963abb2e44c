import VectorStore.Command.Basic
import VectorStore.CommandLine.Help

/-!
Command lines read from their words. The words before the name of a command and those after it are
read alike, each with its own options; a shared option may stand on either side, and on both the
one after the name counts.
-/
namespace VectorStore.CommandLine

/-- What a command line asks for. -/
inductive Task
  | initSchema
  | add (file : String) (batched : Bool)
  | search (options : SearchOptions) (json : Bool)
  | explain (options : SearchOptions)
  | delete (ids : List String)
  | renderFilter (text : String)

/-- A command line that was understood. -/
structure Invocation where
  verbose : Bool
  config : Option String
  backend : Backend
  task : Task

/-- Why there is nothing to run. -/
inductive Stop
  /-- The line asks for a text. -/
  | print (text : String)
  /-- The line is not understood. -/
  | misuse

/-! ## Words -/

/-- What stands on one side of the name of a command. -/
structure Given where
  flags : List String
  values : List (String × String)
  arguments : List String

namespace Given

def nothing : Given := ⟨[], [], []⟩

def flag (g : Given) (long : String) : Bool := g.flags.contains long
def value? (g : Given) (long : String) : Option String := SortedMap.lookup long g.values

end Given

/-- The rules for the words on one side. -/
structure Side where
  options : List OptionSpec
  commands : List String
  arguments : Arguments
  help : String

namespace Side

/-- Turns a flag on, once. The flags for help and version end the reading. -/
def addFlag (s : Side) (g : Given) (long : String) : Except Stop Given :=
  if long = helpOption.long then .error (.print s.help)
  else if long = versionOption.long then .error (.print versionText)
  else if g.flag long then .error .misuse
  else .ok { g with flags := g.flags ++ [long] }

/-- Gives an option its value, once. -/
def addValue (g : Given) (o : OptionSpec) (value : String) : Except Stop Given :=
  match o.takes with
  | .nothing => .error .misuse
  | .value _ accepts =>
    if accepts value ∧ g.value? o.long = none then
      .ok { g with values := g.values ++ [(o.long, value)] }
    else .error .misuse

/-- Takes an argument, if there is room for it. -/
def addArgument (s : Side) (g : Given) (word : String) : Except Stop Given :=
  let room : Bool := match s.arguments with
    | .none => false
    | .one .. => g.arguments.isEmpty
    | .many .. => true
  if room then .ok { g with arguments := g.arguments ++ [word] } else .error .misuse

def addArguments (s : Side) : Given → List String → Except Stop Given
  | g, [] => .ok g
  | g, word :: rest =>
    match s.addArgument g word with
    | .error stop => .error stop
    | .ok g => s.addArguments g rest

/-- Reads a long option after its dashes; an option whose value is the next word is left over. -/
def readLong (s : Side) (g : Given) (written : List Char) :
    Except Stop (Given × Option OptionSpec) :=
  let name := String.ofList (written.takeWhile (· != '='))
  match s.options.find? (·.long = name), written.dropWhile (· != '=') with
  | none, _ => .error .misuse
  | some o, _ :: value => (addValue g o (String.ofList value)).map fun g => (g, none)
  | some o, [] =>
    match o.takes with
    | .nothing => (s.addFlag g o.long).map fun g => (g, none)
    | .value .. => .ok (g, some o)

/-- Reads letters after a dash: flags, and at last perhaps an option with the rest as its value or
with the next word left over. -/
def readLetters (s : Side) (g : Given) : List Char → Except Stop (Given × Option OptionSpec)
  | [] => .ok (g, none)
  | c :: rest =>
    match s.options.find? (·.short = some c) with
    | none => .error .misuse
    | some o =>
      match o.takes, rest with
      | .nothing, rest =>
        match s.addFlag g o.long with
        | .error stop => .error stop
        | .ok g => s.readLetters g rest
      | .value .., [] => .ok (g, some o)
      | .value .., '=' :: value => (addValue g o (String.ofList value)).map fun g => (g, none)
      | .value .., value => (addValue g o (String.ofList value)).map fun g => (g, none)

/-- Reads words up to the name of a command, which is left with the words after it. An option may
be waiting for its value, which does not look like an option. -/
def read (s : Side) (waiting : Option OptionSpec) (g : Given) :
    List String → Except Stop (Given × List String)
  | [] => if waiting.isSome then .error .misuse else .ok (g, [])
  | word :: rest =>
    match waiting, word.toList with
    | some _, '-' :: _ :: _ => .error .misuse
    | some o, _ =>
      match addValue g o word with
      | .error stop => .error stop
      | .ok g => s.read none g rest
    | none, cs =>
      if s.commands.contains word then .ok (g, word :: rest)
      else
        match cs with
        | ['-', '-'] => (s.addArguments g rest).map fun g => (g, [])
        | '-' :: '-' :: written =>
          match s.readLong g written with
          | .error stop => .error stop
          | .ok (g, waiting) => s.read waiting g rest
        | '-' :: c :: written =>
          match s.readLetters g (c :: written) with
          | .error stop => .error stop
          | .ok (g, waiting) => s.read waiting g rest
        | _ =>
          match s.addArgument g word with
          | .error stop => .error stop
          | .ok g => s.read none g rest

end Side

/-! ## Commands -/

/-- The options of a search with the standard ones for those that are missing. -/
def searchOptionsOf (g : Given) : SearchOptions where
  query := g.arguments.headD ""
  topK := ((g.value? "top-k").bind readSize?).getD SearchRequest.standardTopK
  threshold :=
    ((g.value? "threshold").bind fun text => readDouble? text.toList).getD SearchRequest.acceptAll
  filter := g.value? "filter"

/-- The task of a command by name. -/
def taskOf (g : Given) : String → Option Task
  | "init-schema" => some .initSchema
  | "add" => some (.add ((g.value? "file").getD "") (g.flag "batched"))
  | "search" => some (.search (searchOptionsOf g) (g.flag "json"))
  | "explain" => some (.explain (searchOptionsOf g))
  | "delete" => some (.delete g.arguments)
  | "render-filter" => some (.renderFilter (g.arguments.headD ""))
  | _ => none

/-- Whether all that a command requires is given. -/
def CommandSpec.satisfied (c : CommandSpec) (g : Given) : Bool :=
  (c.options.all fun o => !o.required || (g.value? o.long).isSome) &&
    match c.arguments with
    | .none => true
    | _ => !g.arguments.isEmpty

/-- The words for which help is asked for: a command, or none for the program. -/
def helpFor (env : Environment) : List String → Stop
  | [] => .print (programHelp env)
  | ["help"] => .print helpHelp
  | [name] =>
    match commands.find? (·.name = name) with
    | some c => .print (c.helpText env)
    | none => .misuse
  | _ => .misuse

/-- The path of the configuration file on one side: the variable stands in for a missing option,
but may not be empty. -/
def configOf (env : Environment) (g : Given) : Except Stop (Option String) :=
  match g.value? "config" with
  | some path => .ok (some path)
  | none =>
    match env configVariable with
    | some path => if isPath path then .ok (some path) else .error .misuse
    | none => .ok none

/-- Reads the words of a command line. -/
def read (env : Environment) (words : List String) : Except Stop Invocation := do
  let outer : Side :=
    ⟨sharedOptions ++ [helpOption, versionOption], commands.map (·.name) ++ ["help"], .none,
      programHelp env⟩
  match ← outer.read none .nothing words with
  | (_, []) => throw .misuse
  | (before, name :: rest) =>
    if name = "help" then
      throw (helpFor env rest)
    match commands.find? (·.name = name) with
    | none => throw .misuse
    | some c =>
      let inner : Side :=
        ⟨c.options ++ sharedOptions ++ [helpOption], [], c.arguments, c.helpText env⟩
      let (after, _) ← inner.read none .nothing rest
      let innerConfig ← configOf env after
      let outerConfig ← configOf env before
      match taskOf after name with
      | none => throw .misuse
      | some task =>
        if c.satisfied after then
          return {
            verbose := before.flag "verbose" || after.flag "verbose"
            config := if (after.value? "config").isSome then innerConfig else outerConfig
            backend :=
              if before.flag "in-memory" || after.flag "in-memory" then .memory else .remote
            task := task }
        else throw .misuse

end VectorStore.CommandLine
