import ClientGen.Command.Run

/-!
# The program

The program answers a call with the files of the machine.
-/

namespace ClientGen

/-- What an access to files gives, or the reason for its failure. -/
def attempt {α : Type} (access : IO α) : IO (Except String α) :=
  tryCatch (access.map .ok) fun e => return .error (toString e)

/-- The kind of what a path leads to. -/
def machineKind (path : String) : IO (Option FileKind) := do
  let place := (← IO.currentDir) / path
  if path = "" then return none
  else if ← place.isDir then return some .directory
  else if ← place.pathExists then return some .file
  else return none

/-- The names in a directory. -/
def machineNames (path : String) : IO (List String) := do
  let entries ← ((← IO.currentDir) / path).readDir
  return entries.toList.map fun entry => entry.fileName

/-- Saves a file together with the directories it lies in. -/
def machineSave (path text : String) : IO Unit := do
  let place := (← IO.currentDir) / path
  match place.parent with
  | some directory => IO.FS.createDirAll directory
  | none => pure ()
  IO.FS.writeFile place text

/-- The files of the machine. -/
def machineFiles : FileSystem IO where
  kindOf := machineKind
  names path := attempt (machineNames path)
  read path := attempt (IO.FS.readFile path)
  save path text := attempt (machineSave path text)

end ClientGen

/-- Answers the call. -/
def main (arguments : List String) : IO UInt32 := do
  let outcome ← ClientGen.Call.run ClientGen.machineFiles arguments
  (← IO.getStdout).putStr outcome.output
  (← IO.getStderr).putStr outcome.errors
  return UInt32.ofNat outcome.status
