import VectorStore.Log.Directive
import VectorStore.Settings.Basic
import VectorStore.Text.Lowercase

/-!
The log of a run: its format, its filter and its file, settled from the settings, the command line
and the environment.
-/
namespace VectorStore

inductive LogFormat
  | pretty
  | json
  deriving DecidableEq

namespace LogFormat

def text : LogFormat → String
  | pretty => "pretty"
  | json => "json"

/-- The format of a name; every name but that of JSON means the pretty one. -/
def ofName (name : String) : LogFormat :=
  if Text.lower (Text.trim name.toList) = "json".toList then json else pretty

end LogFormat

structure LogConfig where
  format : LogFormat
  filter : LogFilter
  /-- Where the log goes; to the standard error stream when absent. -/
  file : Option String

namespace LogConfig

/-- The filter where none is asked for, or where what is asked for cannot be read. -/
def standardFilter : String := "warn"
/-- The filter of verbose runs. -/
def verboseFilter : String := "surrealvec=debug,info"

/-- The filter in words: the first of the variables for it, verbosity, the settings and the
standard one. -/
def filterText (s : LogSettings) (verbose : Bool) (env : Environment) : String :=
  ((((env.value? "SURREALVEC_LOG").or (env.value? "RUST_LOG")).or
    (if verbose then some verboseFilter else none)).or s.level).getD standardFilter

/-- The log that the settings ask for. Variables come before settings. -/
def resolve (s : LogSettings) (verbose : Bool) (env : Environment) : LogConfig where
  format := (((env.value? "SURREALVEC_LOG_FORMAT").or s.format).map LogFormat.ofName).getD .pretty
  filter := (LogFilter.read? (filterText s verbose env)).getD
    (.ofDirectives [⟨none, none, [], .warn⟩])
  file := (env.value? "SURREALVEC_LOG_FILE").or s.file

end LogConfig
end VectorStore
