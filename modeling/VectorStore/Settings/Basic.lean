import VectorStore.Number.Reading
import VectorStore.Store.Config

/-!
The settings of the program: a store, a connection and a log. Variables of the environment
override them one by one.
-/
namespace VectorStore

/-- The variables of an environment. -/
abbrev Environment := String → Option String

/-- The value of a variable, unless it is blank. -/
def Environment.value? (env : Environment) (name : String) : Option String :=
  (env name).filter fun value => !Text.isBlankText value

/-- How to reach a server. -/
structure Connection where
  endpoint : String
  space : String
  database : String
  username : Option String
  password : Option String
  /-- The limit of a request in milliseconds; zero for none. -/
  timeout : Nat
  /-- The limit of connecting in milliseconds; zero for none. -/
  connectTimeout : Nat

namespace Connection

def standard : Connection where
  endpoint := "http://localhost:8000"
  space := "surrealvec"
  database := "surrealvec"
  username := none
  password := none
  timeout := 30000
  connectTimeout := 3000

/-- The endpoint to which paths are appended: the slashes at its end are dropped. -/
def baseEndpoint (c : Connection) : String :=
  String.ofList (c.endpoint.toList.reverse.dropWhile (· == '/')).reverse

end Connection

/-- The wishes for a log, not yet understood. -/
structure LogSettings where
  format : Option String
  level : Option String
  file : Option String

structure Settings where
  store : StoreConfig
  connection : Connection
  log : LogSettings

namespace Settings

def standard : Settings := ⟨.standard, .standard, ⟨none, none, none⟩⟩

/-- A change to the store of the settings. -/
def mapStore (change : StoreConfig → StoreConfig) (s : Settings) : Settings :=
  { s with store := change s.store }
/-- A change to the connection of the settings. -/
def mapConnection (change : Connection → Connection) (s : Settings) : Settings :=
  { s with connection := change s.connection }

/-- The value of a variable, the blanks at its ends left out; what cannot be read changes
nothing. -/
def parsed {α : Type} (read? : String → Option α) (set : α → Settings → Settings)
    (value : String) : Settings → Settings :=
  match read? (String.ofList (Text.trim value.toList)) with
  | some a => set a
  | none => id

def readBool? (text : String) : Option Bool :=
  if text = "true" then some true else if text = "false" then some false else none

/-- The variables that override settings, and what a value of each one sets. -/
def overrides : List (String × (String → Settings → Settings)) := [
  ("SURREALVEC_ENDPOINT", fun v => mapConnection fun c => { c with endpoint := v }),
  ("SURREALVEC_NAMESPACE", fun v => mapConnection fun c => { c with space := v }),
  ("SURREALVEC_DATABASE", fun v => mapConnection fun c => { c with database := v }),
  ("SURREALVEC_USERNAME", fun v => mapConnection fun c => { c with username := some v }),
  ("SURREALVEC_PASSWORD", fun v => mapConnection fun c => { c with password := some v }),
  ("SURREALVEC_INDEX_NAME", fun v => mapStore fun c => { c with indexName := v }),
  ("SURREALVEC_TABLE_NAME", fun v => mapStore fun c => { c with tableName := v }),
  ("SURREALVEC_DISTANCE",
    parsed Keyword.read? fun d => mapStore fun c => { c with distance := d }),
  ("SURREALVEC_ALGORITHM",
    parsed Keyword.read? fun a => mapStore fun c => { c with algorithm := a }),
  ("SURREALVEC_EF", parsed readSize? fun n => mapStore fun c => { c with searchBreadth := n }),
  ("SURREALVEC_INITIALIZE_SCHEMA",
    parsed readBool? fun b => mapStore fun c => { c with initializeSchema := b })]

/-- The settings with the overrides of an environment; blank variables override nothing. -/
def override (s : Settings) (env : Environment) : Settings :=
  overrides.foldl (fun s (name, set) => (env.value? name).elim s fun value => set value s) s

end Settings
end VectorStore
