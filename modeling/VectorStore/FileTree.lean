import VectorStore.Text.Basic

/-!
A tree of text files in memory, with a working directory. Paths are read as a file system reads
them, and what fails, fails for the same cause.
-/
namespace VectorStore

/-- Why an access to a file fails. -/
inductive FileFault
  | missing
  | alreadyThere
  | notDirectory
  | isDirectory
  deriving DecidableEq

def FileFault.message : FileFault → String
  | missing => "No such file or directory (os error 2)"
  | alreadyThere => "File exists (os error 17)"
  | notDirectory => "Not a directory (os error 20)"
  | isDirectory => "Is a directory (os error 21)"

/-- The names on the way to a file, from the root. -/
abbrev FilePath := List String

/-- Files by path, and the directories that are there without a file in them. -/
structure FileTree where
  files : List (FilePath × String)
  directories : List FilePath
  current : FilePath

namespace FileTree

def names (path : String) : List String :=
  ((Text.split (· == '/') path.toList).filter (· ≠ [])).map String.ofList
def isAbsolute (path : String) : Bool := path.toList.head? == some '/'

def text? (t : FileTree) (p : FilePath) : Option String :=
  (t.files.find? fun file => file.1 = p).map (·.2)
/-- Whether a path is that of a directory: one that holds something, or one by itself. -/
def isDirectory (t : FileTree) (p : FilePath) : Bool :=
  p == [] || p == t.current ||
    (t.directories ++ t.files.map (·.1.dropLast)).any fun d => p.isPrefixOf d

/-- Follows names from a directory to where a last name would stand. -/
def follow (t : FileTree) (p : FilePath) : List String → Except FileFault FilePath
  | [] => .ok p
  | name :: rest =>
    if !t.isDirectory p then
      .error (if (t.text? p).isSome then .notDirectory else .missing)
    else if name = "." then t.follow p rest
    else if name = ".." then t.follow p.dropLast rest
    else t.follow (p ++ [name]) rest

/-- The path that a text names; nothing has to be there. -/
def resolve (t : FileTree) (path : String) : Except FileFault FilePath :=
  if path = "" then .error .missing
  else t.follow (if isAbsolute path then [] else t.current) (names path)

/-- Whether a path ends like that of a directory. -/
def endsAsDirectory (path : String) : Bool := path.toList.getLast? == some '/'

/-- The text of a file. -/
def read (t : FileTree) (path : String) : Except FileFault String :=
  match t.resolve path with
  | .error fault => .error fault
  | .ok p =>
    match t.text? p with
    | some text => if endsAsDirectory path then .error .notDirectory else .ok text
    | none => .error (if t.isDirectory p then .isDirectory else .missing)

/-- Opens a file to write at its end; a missing one comes about. -/
def openToAppend (t : FileTree) (path : String) : Except FileFault Unit × FileTree :=
  match t.resolve path with
  | .error fault => (.error fault, t)
  | .ok p =>
    if (t.text? p).isSome then
      (if endsAsDirectory path then .error .notDirectory else .ok (), t)
    else if t.isDirectory p || endsAsDirectory path then (.error .isDirectory, t)
    else if t.isDirectory p.dropLast then (.ok (), { t with files := t.files ++ [(p, "")] })
    else (.error .missing, t)

/-- Makes the directories that are missing on the way along names. -/
def makeAlong (t : FileTree) (p : FilePath) : List String → Except FileFault Unit × FileTree
  | [] => (.ok (), t)
  | name :: rest =>
    let next := if name = "." then p else if name = ".." then p.dropLast else p ++ [name]
    if (t.text? next).isSome then
      (.error (if rest = [] then .alreadyThere else .notDirectory), t)
    else if t.isDirectory next then t.makeAlong next rest
    else makeAlong { t with directories := t.directories ++ [next] } next rest

/-- Makes a directory and those above it that are missing. -/
def makeDirectory (t : FileTree) (path : String) : Except FileFault Unit × FileTree :=
  t.makeAlong (if isAbsolute path then [] else t.current) (names path)

/-- The path of the directory that a path stands in, unless it is the working directory. -/
def parent? (path : String) : Option String :=
  let written := names path
  let kept := (written.zipIdx.filter fun (name, i) =>
    name ≠ "." || (i == 0 && !isAbsolute path)).map (·.1)
  match kept.dropLast with
  | [] => if isAbsolute path && !kept.isEmpty then some "/" else none
  | above => some ((if isAbsolute path then "/" else "") ++ Text.joinWith "/" above)

end FileTree
end VectorStore
