import VectorStore.Program

/-!
The program on a real machine.
-/
namespace VectorStore

/-- A failed access in words. -/
def accessFault : IO.Error → String
  | .noFileOrDirectory .. => FileFault.missing.message
  | .alreadyExists .. => FileFault.alreadyThere.message
  | .inappropriateType _ code _ =>
    if code = 20 ∨ code = 0 - 20 then FileFault.notDirectory.message
    else FileFault.isDirectory.message
  | .permissionDenied .. => "Permission denied (os error 13)"
  | other => toString other

/-- What an access gives, or why it fails. -/
def attempt {α : Type} (access : IO α) : IO (Except String α) := do
  try
    return .ok (← access)
  catch e =>
    return .error (accessFault e)

/-- A random id: 32 hexadecimal digits in five groups, marked as version four. -/
def randomId : IO String := do
  let bytes ← IO.getRandomBytes 16
  let marked := bytes.toList.zipIdx.map fun (byte, i) =>
    if i = 6 then byte &&& 0x0F ||| 0x40 else if i = 8 then byte &&& 0x3F ||| 0x80 else byte
  let digits := marked.flatMap fun byte =>
    [Nat.digitChar (byte.toNat / 16), Nat.digitChar (byte.toNat % 16)]
  let group (start length : Nat) := String.ofList ((digits.drop start).take length)
  return Text.joinWith "-" [group 0 8, group 8 4, group 12 4, group 16 4, group 20 12]

def machine : Host IO where
  readFile path := attempt (IO.FS.readFile path)
  makeDirectory path := attempt (IO.FS.createDirAll path)
  openLog path := attempt do
    let _ ← IO.FS.Handle.mk path .append
    return ()
  freshId := randomId

/-- The variables of the process. -/
def processEnvironment : IO Environment := do
  let text := (← attempt (IO.FS.readFile "/proc/self/environ")).toOption.getD ""
  let entries := (Text.split (· == '\x00') text.toList).map fun entry =>
    (String.ofList (entry.takeWhile (· ≠ '=')), String.ofList ((entry.dropWhile (· ≠ '=')).drop 1))
  return fun name => SortedMap.lookup name entries

end VectorStore

def main (words : List String) : IO UInt32 := do
  let outcome ← VectorStore.Program.run VectorStore.machine (← VectorStore.processEnvironment) words
  (← IO.getStdout).putStr outcome.output
  (← IO.getStderr).putStr outcome.complaint
  return outcome.code.toUInt32
