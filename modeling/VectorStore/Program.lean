import VectorStore.CommandLine.Reader
import VectorStore.FileTree
import VectorStore.Log.Basic
import VectorStore.Settings.File
import VectorStore.Settings.Variables

/-!
One run of the program: variables from a file, the command line, the settings, the log, and then
the command. The machine it runs on is a parameter, so a run against files in memory is a pure
function.
-/
namespace VectorStore

/-- What a run needs of its machine. A failed access comes with its cause in words. -/
structure Host (μ : Type → Type) where
  readFile : String → μ (Except String String)
  /-- Makes a directory and those above it. -/
  makeDirectory : String → μ (Except String Unit)
  /-- Opens a file to write at its end. -/
  openLog : String → μ (Except String Unit)
  /-- An id that no document has yet. -/
  freshId : μ String

/-- What is left of a run. -/
structure Outcome where
  code : Nat
  output : String
  complaint : String

namespace Outcome

def success (output : String) : Outcome := ⟨0, output, ""⟩
def failure (message : String) : Outcome := ⟨1, "", message ++ "\n"⟩
def misuse : Outcome :=
  ⟨2, "", "error: the command line is not understood\n\nFor more information, try '--help'.\n"⟩

end Outcome

/-- A server without a way to it: every query fails. -/
def Executor.unreachable {σ : Type} (endpoint : String) : Executor σ := fun _ =>
  throw (.executionFailure "surrealdb_request"
    ("connect error: " ++ endpoint ++ " is out of reach"))

/-- What answers the queries of a command, over a database that starts empty. -/
def Backend.executor (c : Connection) : Backend → Executor Memory
  | remote => .unreachable c.baseEndpoint
  | memory => Memory.executor

/-- A file tree as a machine; it has no supply of ids. -/
def FileTree.host (freshId : String) : Host (StateM FileTree) where
  readFile path := do return ((← get).read path).mapError FileFault.message
  makeDirectory path := modifyGet fun t =>
    let (made, t) := t.makeDirectory path
    (made.mapError FileFault.message, t)
  openLog path := modifyGet fun t =>
    let (opened, t) := t.openToAppend path
    (opened.mapError FileFault.message, t)
  freshId := pure freshId

namespace Program
open CommandLine

variable {μ : Type → Type} [Monad μ]

/-- The file whose variables join the environment. -/
def variableFile : String := ".env"
def loadVariables (h : Host μ) (env : Environment) : μ Environment := do
  match ← h.readFile variableFile with
  | .ok text => return VariableFile.load env text
  | .error _ => return env

/-- Where settings are looked for if no file is named, in order. -/
def settingsPaths (env : Environment) : List String :=
  match env "HOME" with
  | none => []
  | some home =>
    let inside (directory : String) := directory ++ "/surrealvec/config.toml"
    let standard := home ++ "/.config"
    match env "XDG_CONFIG_HOME" with
    | some other =>
      if FileTree.isAbsolute other then [inside other, inside standard] else [inside standard]
    | none => [inside standard]

/-- The settings in the first of some files that holds any. -/
def firstSettings (h : Host μ) : List String → μ Settings
  | [] => return .standard
  | path :: rest => do
    match Settings.load path (← h.readFile path) with
    | .ok settings => return settings
    | .error _ => firstSettings h rest

/-- The settings of a run: those of the named file, which has to be readable, or else of the first
that is; and over them those of the environment. -/
def loadSettings (h : Host μ) (env : Environment) : Option String → μ (Except String Settings)
  | some path => do
    match Settings.load path (← h.readFile path) with
    | .ok settings => return .ok (settings.override env)
    | .error e => return .error ("cannot load " ++ path ++ ": " ++ e.message)
  | none => do return .ok ((← firstSettings h (settingsPaths env)).override env)

/-- Makes sure that the log can be written. -/
def startLog (h : Host μ) (log : LogConfig) : μ (Except Error Unit) := do
  match log.file with
  | none => return .ok ()
  | some path =>
    let made ← match FileTree.parent? path with
      | some directory => h.makeDirectory directory
      | none => pure (.ok ())
    match made with
    | .error cause => return .error (.executionFailure "create_log_dir" cause)
    | .ok () =>
      match ← h.openLog path with
      | .error cause => return .error (.executionFailure "open_log_file" (path ++ ": " ++ cause))
      | .ok () => return .ok ()

/-- The documents in a file; those without an id get a fresh one. -/
def loadDocuments (h : Host μ) (path : String) : μ (Except Error (List Document)) := do
  match Draft.load path (← h.readFile path) with
  | .error e => return .error e
  | .ok drafts => return .ok (← drafts.mapM fun d => return d.document (← h.freshId))

/-- What became of a command: its output, or its failure after what it was about. -/
def conclude (about : String) : Except Error String → Outcome
  | .ok output => .success output
  | .error e => .failure ("Error: " ++ about ++ e.message)

/-- Carries out a task on a store that is opened for it. -/
def perform (h : Host μ) (s : Settings) (backend : Backend) (task : Task) : μ Outcome := do
  let x := backend.executor s.connection
  let withStore (work : Store → Memory → μ Outcome) : μ Outcome :=
    match (Command.openStore s backend false x).runFrom .empty with
    | (.error e, _) => return conclude "" (.error e)
    | (.ok store, memory) => work store memory
  match task with
  | .initSchema =>
    return conclude "schema initialization failed: "
      ((Command.initSchema s backend x).runFrom .empty).1
  | .add file batched => withStore fun store memory => do
    let about := "failed to add documents from " ++ file ++ ": "
    match ← loadDocuments h file with
    | .error e => return conclude about (.error e)
    | .ok documents =>
      let (added, _) := (Command.add store x documents batched).runFrom memory
      return conclude about (added.map (·.2))
  | .search options json => withStore fun store memory =>
    let (found, _) := (Command.search store x options json).runFrom memory
    return conclude "search failed: " (found.map (·.2))
  | .explain options => withStore fun store _ => return conclude "" (Command.explain store options)
  | .delete ids => withStore fun store memory =>
    return conclude "delete failed: " ((Command.delete store x ids).runFrom memory).1
  | .renderFilter text => return conclude "" ((Command.renderFilter text).map (·.2))

/-- A run with the words of its command line. -/
def run (h : Host μ) (env : Environment) (words : List String) : μ Outcome := do
  let env ← loadVariables h env
  match CommandLine.read env words with
  | .error (.print text) => return .success text
  | .error .misuse => return .misuse
  | .ok invocation =>
    match ← loadSettings h env invocation.config with
    | .error message => return .failure ("Failed to load configuration: " ++ message)
    | .ok settings =>
      match ← startLog h (LogConfig.resolve settings.log invocation.verbose env) with
      | .error e => return .failure ("Failed to initialize observability: " ++ e.message)
      | .ok () => perform h settings invocation.backend invocation.task

end Program
end VectorStore
