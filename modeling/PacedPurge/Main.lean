import PacedPurge.CommandLine.Perform
import PacedPurge.Store.Archive

/-!
# The command

Runs the command line against a store in a file: the arguments and the variables go in, the store
is read before and written after, and what the command shows goes out.
-/

namespace PacedPurge.CommandLine

/-- The file of the store in a directory. -/
def storeFile (directory : String) : String := directory ++ "/records.json"

/-- The variables as they stand in the environment. -/
def readVariables : IO Variables := do
  let mut entries : List (Variable × String) := []
  for v in Variable.all do
    if let some text ← IO.getEnv v.name then
      entries := (v, text) :: entries
  return fun v => (entries.find? (·.1 == v)).map (·.2)

/-- Words of chance. -/
def readWords : Nat → IO (List UInt64)
  | 0 => return []
  | count + 1 => do
    let word ← IO.rand 0 (UInt64.size - 1)
    return UInt64.ofNat word :: (← readWords count)

/-- The store of a directory, none if its file is no archive. The directory and the file are made
if they are not there, and an empty file is an empty store. -/
def readStore (directory : String) : IO (Option KeyedStore) := do
  IO.FS.createDirAll directory
  IO.FS.withFile (storeFile directory) .append fun _ => return
  let text ← IO.FS.readFile (storeFile directory)
  return if text.isEmpty then some {} else KeyedStore.ofArchive? text

/-- Writes a store to its file. -/
def writeStore (file : String) : Store → IO Unit
  | .keyed k => IO.FS.writeFile file k.archive
  | .memory _ => return

/-- Shows an outcome. -/
def present (outcome : Outcome) : IO UInt32 := do
  IO.print outcome.output
  IO.eprint outcome.errors
  return outcome.exitCode

/-- What is shown when the store of a directory cannot be opened. -/
def notOpened (directory reason : String) : Outcome :=
  .failure [s!"open store at {directory}", reason]

/-- Opens the store of a directory, or says why it cannot be opened. -/
def openStore (directory : String) : IO (Except Outcome KeyedStore) := do
  try
    match ← readStore directory with
    | some k => return .ok k
    | none => return .error (notOpened directory "the archive cannot be read")
  catch e => return .error (notOpened directory (toString e))

/-- Performs an invocation on the store of its directory. -/
def execute (invocation : Invocation) : IO UInt32 := do
  match ← openStore invocation.dataDirectory with
  | .error outcome => present outcome
  | .ok k =>
    let site : Site := { store := .keyed k, chance := ⟨← readWords 1024, 0⟩ }
    let (outcome, after) := invocation.command.perform (1 <<< 60) (← readVariables) site
    writeStore (storeFile invocation.dataDirectory) after.store
    present outcome

end PacedPurge.CommandLine

/-- Runs the command line. -/
def main (arguments : List String) : IO UInt32 :=
  match PacedPurge.CommandLine.Invocation.ofArguments arguments with
  | .error stop => PacedPurge.CommandLine.present (.stopped stop)
  | .ok invocation => PacedPurge.CommandLine.execute invocation
