import ClientGen.Command.Generate

/-!
# Calls

What a call does and prints: `run` answers the arguments of a call with a status, which is
0 for success, 1 for a failure and 2 for misuse, and with what is printed. It does so with
whatever libraries it is given.
-/

namespace ClientGen

/-- What a call ends with. -/
structure Outcome where
  status : Nat
  output : String := ""
  errors : String := ""
deriving DecidableEq

namespace Call

variable {m : Type → Type} [Monad m]

/-- The lines with their ends. -/
def printed (lines : List String) : String :=
  String.join (lines.map fun line => line ++ "\n")

/-- A call that has failed at something. -/
def failed (what : String) (error : CommandError) : Outcome where
  status := 1
  errors := printed ["✗ " ++ what ++ " failed", "  Error: " ++ error.message]

/-- A text with spaces up to a width. -/
def padded (width : Nat) (text : String) : String :=
  String.ofList (text.toList ++ List.replicate (width - text.length) ' ')

/-- The line that tells the names of the files of a language. -/
def languageLine (lang : Language) : String :=
  "  " ++ padded 12 lang.name ++ " proxy: "
    ++ padded 16 (lang.filePath (lang.proxyModule "User"))
    ++ " stub: " ++ lang.filePath lang.stubModule

/-- Tells the languages. -/
def languages : Outcome where
  status := 0
  output := printed ("Supported languages:" :: Language.all.map languageLine)

/-- Writes libraries. -/
def generate (libraries : Libraries) (fs : FileSystem m) (flags : Flags) : m Outcome := do
  match ← (Generate.execute libraries fs flags).run with
  | .error error => return failed "SDK generation" error
  | .ok written =>
    return {
      status := 0
      output := printed (written.flatMap (fun (directory, output) =>
        Generate.summary directory output) ++ ["✓ SDK generated successfully"]) }

/-- Writes a completion script to a file, or prints it. -/
def completion (libraries : Libraries) (fs : FileSystem m) (shell : Shell)
    (path : Option String) : m Outcome := do
  match path with
  | none => return { status := 0, output := libraries.script shell }
  | some path =>
    match ← fs.save path (libraries.script shell) with
    | .error reason => return failed "Completion generation" (.access reason)
    | .ok _ =>
      return {
        status := 0
        output := printed ["✓ " ++ shell.name ++ " completion written to " ++ path] }

/-- Does what a command says. -/
def runCommand (libraries : Libraries) (fs : FileSystem m) : Command → m Outcome
  | .generate flags => generate libraries fs flags
  | .languages => return languages
  | .completion shell path => completion libraries fs shell path

/-- The version of the program. -/
def version : String := "0.1.0"

/-- Answers a call with the given arguments. -/
def run (fs : FileSystem m) (arguments : List String) (libraries : Libraries := {}) :
    m Outcome :=
  match Request.ofArguments arguments with
  | .run command => runCommand libraries fs command
  | .version => return { status := 0, output := printed ["callpath " ++ version] }
  | .help => return { status := 0, output := printed libraries.usage }
  | .misuse => return { status := 2, errors := printed libraries.usage }

end Call

end ClientGen
