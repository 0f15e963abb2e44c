import VectorStore.CommandLine.Grammar
import VectorStore.Settings.Basic

/-!
The help of the program and of its commands: what it is about, its usage, and sections of entries
with their descriptions in a column.
-/
namespace VectorStore.CommandLine

/-- The columns of a line. -/
def lineWidth : Nat := 100

def spaces (n : Nat) : String := String.ofList (List.replicate n ' ')

/-- Words laid out on lines of a width; `used` columns of the first line are taken. A word that is
wider than a line has one of its own. -/
def wrapped (width used : Nat) : List (List Char) → List (List (List Char))
  | [] => [[]]
  | word :: rest =>
    if used ≠ 0 ∧ width < used + word.length then
      match wrapped width (word.length + 1) rest with
      | line :: lines => [] :: (word :: line) :: lines
      | [] => [[], [word]]
    else
      match wrapped width (used + word.length + 1) rest with
      | line :: lines => (word :: line) :: lines
      | [] => [[word]]

/-- A text on lines that begin at a column. -/
def column (start : Nat) (text : String) : String :=
  let lines := wrapped (lineWidth - start) 0 (Text.split (· == ' ') text.toList)
  Text.joinWith ("\n" ++ spaces start) (lines.map fun words => String.ofList (Text.unwords words))

/-- A section of entries with their descriptions. -/
def sectionText (title : String) (entries : List (String × String)) : String :=
  let longest := entries.foldl (fun n entry => max n entry.1.length) 0
  let line (entry : String × String) : String :=
    "  " ++ entry.1 ++ spaces (longest - entry.1.length + 2) ++ column (longest + 4) entry.2 ++ "\n"
  if entries.isEmpty then "" else "\n" ++ title ++ ":\n" ++ String.join (entries.map line)

namespace OptionSpec

def placeholder (o : OptionSpec) : String :=
  match o.takes with
  | .nothing => ""
  | .value name _ => " <" ++ name ++ ">"

/-- How an option is written. -/
def written (o : OptionSpec) : String :=
  let letter := match o.short with
    | some c => "-" ++ String.singleton c ++ ", "
    | none => spaces 4
  letter ++ "--" ++ o.long ++ o.placeholder

/-- What an option does, and what stands in for a missing value. -/
def description (env : Environment) (o : OptionSpec) : String :=
  let source := match o.source with
    | some name => " [env: " ++ name ++ "=" ++ (env name).getD "" ++ "]"
    | none => ""
  let standard := match o.standard with
    | some value => " [default: " ++ value ++ "]"
    | none => ""
  o.help ++ source ++ standard

/-- What sorts options of one place: the letter, or the name. -/
def sortText (o : OptionSpec) : String :=
  match o.short with
  | some c => String.singleton c
  | none => o.long

end OptionSpec

/-- The options of a command and the shared ones, by their place among their own kind and then by
letter. -/
def inHelpOrder (own shared : List OptionSpec) : List OptionSpec :=
  let before (a b : OptionSpec × Nat) : Bool :=
    a.2 < b.2 || (a.2 == b.2 && a.1.sortText < b.1.sortText)
  ((own.zipIdx ++ shared.zipIdx).mergeSort before).map (·.1)

def helpOption : OptionSpec := .flag "help" (some 'h') "Print help"
def versionOption : OptionSpec := .flag "version" (some 'V') "Print version"

def optionsText (env : Environment) (options : List OptionSpec) : String :=
  sectionText "Options" (options.map fun o => (o.written, o.description env))

namespace Arguments

def usage : Arguments → String
  | none => ""
  | one name _ => " <" ++ name ++ ">"
  | many name _ => " <" ++ name ++ ">..."

def entries : Arguments → List (String × String)
  | none => []
  | one name help => [("<" ++ name ++ ">", help)]
  | many name help => [("<" ++ name ++ ">...", help)]

end Arguments

/-- The help of a command. -/
def CommandSpec.helpText (env : Environment) (c : CommandSpec) : String :=
  let required := c.options.filter (·.required)
  let usage := programName ++ " " ++ c.name ++ " [OPTIONS]" ++
    String.join (required.map fun o => " --" ++ o.long ++ o.placeholder) ++ c.arguments.usage
  c.about ++ "\n\nUsage: " ++ usage ++ "\n" ++ sectionText "Arguments" c.arguments.entries ++
    optionsText env (inHelpOrder c.options sharedOptions ++ [helpOption])

def helpAbout : String := "Print this message or the help of the given subcommand(s)"

/-- The help of the program. -/
def programHelp (env : Environment) : String :=
  about ++ "\n\nUsage: " ++ programName ++ " [OPTIONS] <COMMAND>\n" ++
    sectionText "Commands" (commands.map (fun c => (c.name, c.about)) ++ [("help", helpAbout)]) ++
    optionsText env (sharedOptions ++ [helpOption, versionOption])

/-- The help of the command that shows help. -/
def helpHelp : String :=
  helpAbout ++ "\n\nUsage: " ++ programName ++ " help [COMMAND]...\n" ++
    sectionText "Arguments" [("[COMMAND]...", "Print help for the subcommand(s)")]

def versionText : String := programName ++ " " ++ version ++ "\n"

end VectorStore.CommandLine
