import VectorStore.Document
import VectorStore.Number.Reading

/-!
The command line: options that every command shares, and the commands with their own options and
arguments.
-/
namespace VectorStore.CommandLine

/-- What an option takes. -/
inductive Takes
  /-- Nothing: it is on or off. -/
  | nothing
  /-- A value that passes a check, under the name that the help gives it. -/
  | value (name : String) (accepts : String → Bool)

/-- An option, written `--long` or with one letter. -/
structure OptionSpec where
  long : String
  short : Option Char
  takes : Takes
  required : Bool
  help : String
  /-- The value that stands in for a missing one, as the help shows it. -/
  standard : Option String
  /-- The variable that stands in for a missing value. -/
  source : Option String

namespace OptionSpec

def flag (long : String) (short : Option Char) (help : String) : OptionSpec :=
  ⟨long, short, .nothing, false, help, none, none⟩
def valued (long : String) (short : Option Char) (name : String) (accepts : String → Bool)
    (help : String) : OptionSpec :=
  ⟨long, short, .value name accepts, false, help, none, none⟩

end OptionSpec

/-- The arguments of a command besides its options. -/
inductive Arguments
  | none
  | one (name help : String)
  /-- At least one. -/
  | many (name help : String)

structure CommandSpec where
  name : String
  about : String
  options : List OptionSpec
  arguments : Arguments

def programName : String := "surrealvec"
def version : String := "0.3.1"
def about : String :=
  "A SurrealDB-backed vector store: filter compiler, vector query builder and index lifecycle"

/-- The variable that names the configuration file. -/
def configVariable : String := "SURREALVEC_CONFIG_PATH"

def anyText (_ : String) : Bool := true
/-- A path is not empty. -/
def isPath (text : String) : Bool := !text.isEmpty

/-- The options of the program and of every command. -/
def sharedOptions : List OptionSpec := [
  .flag "verbose" (some 'v') "Enable verbose output",
  { OptionSpec.valued "config" (some 'c') "CONFIG" isPath "Path to configuration file" with
    source := some configVariable },
  .flag "in-memory" none "Run against a throwaway in-process database instead of the server"]

/-- The options of a search. -/
def searchOptions : List OptionSpec := [
  { OptionSpec.valued "top-k" (some 'k') "TOP_K" (fun text => (readSize? text).isSome)
      "Maximum number of results" with
    standard := some (naturalText SearchRequest.standardTopK) },
  { OptionSpec.valued "threshold" (some 't') "THRESHOLD"
      (fun text => (readDouble? text.toList).isSome)
      "Minimum score (0.0 to 1.0) for a result to be returned" with
    standard := some (Layout.bare.double SearchRequest.acceptAll) },
  .valued "filter" (some 'f') "FILTER" anyText
    "Metadata filter, e.g. \"genre == 'drama' && year >= 2020\""]
def searchArguments : Arguments := .one "QUERY" "The search query"

def commands : List CommandSpec := [
  ⟨"init-schema", "Define the vector index if it does not exist", [], .none⟩,
  ⟨"add", "Add documents from a JSON file",
    [{ OptionSpec.valued "file" (some 'f') "FILE" isPath "JSON array of documents" with
        required := true },
      .flag "batched" none "Write all documents in one transaction"], .none⟩,
  ⟨"search", "Search for similar documents",
    searchOptions ++ [.flag "json" none "Print results as JSON"], searchArguments⟩,
  ⟨"explain", "Print the statements a search would send, without running it", searchOptions,
    searchArguments⟩,
  ⟨"delete", "Delete documents by id", [], .many "IDS" "Document ids"⟩,
  ⟨"render-filter", "Compile filter text to a SurrealQL condition", [],
    .one "FILTER" "Filter text, e.g. \"genre == 'drama' && year >= 2020\""⟩]

end VectorStore.CommandLine
