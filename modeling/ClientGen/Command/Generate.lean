import ClientGen.Command.Arguments
import ClientGen.Command.Error
import ClientGen.Command.FileSystem
import ClientGen.Command.Libraries
import ClientGen.Generation.Run

/-!
# Writing libraries

The command that reads programs and writes libraries. What the arguments say goes before
what the settings say. Nothing is written until all programs have been read and all
libraries have been made, and no file is written outside of the directory of its library.
-/

namespace ClientGen.Generate

variable {m : Type → Type} [Monad m]

/-- A command in progress, which may fail. -/
abbrev Action (m : Type → Type) := ExceptT CommandError m

/-- Goes on with what has been reached, or fails for the given reason. -/
def orFail {α β : Type} (error : β → CommandError) : Except β α → Action m α
  | .ok a => return a
  | .error reason => throw (error reason)

/-! ### Settings -/

/-- The file of settings that is read if it is there. -/
def settingsPath : String := "callpath.yaml"

/-- The settings of a file, which has to be there only if it is asked for. -/
def readSettings (libraries : Libraries) (fs : FileSystem m) (path : Option String) :
    Action m Settings := do
  let place := path.getD settingsPath
  match ← fs.kindOf place, path with
  | none, some path => throw (.settingsNotFound path)
  | none, none => return {}
  | some _, _ =>
    let text ← orFail .settingsNotRead (← fs.read place)
    orFail .settingsInvalid (Settings.parse libraries.settings text)

/-! ### Languages -/

/-- The files by which the language of a project is told, in their order. -/
def languageMarks : List (String × Language) :=
  [("package.json", .typescript), ("tsconfig.json", .typescript),
    ("requirements.txt", .python), ("pyproject.toml", .python), ("pubspec.yaml", .dart)]

/-- The language of the first mark that is there. -/
def detectLanguage (fs : FileSystem m) : List (String × Language) → m Language
  | [] => return .typescript
  | (path, lang) :: marks => do
    if (← fs.kindOf path).isSome then return lang
    else detectLanguage fs marks

/-- The languages that texts name, each once. -/
def languagesNamed (names : List String) : Except Failure (List Language) :=
  names.foldlM
    (fun languages name =>
      match Language.ofText? name with
      | none => .error (.language name)
      | some lang => .ok (if languages.contains lang then languages else languages ++ [lang]))
    []

/-- The languages to write in: those of the arguments, else those of the settings, else
that of the project. -/
def chooseLanguages (fs : FileSystem m) (flags : Flags) (settings : Settings) :
    Action m (List Language) := do
  let names := if flags.languages.isEmpty then settings.languages else flags.languages
  if names.isEmpty then return [← liftM (detectLanguage fs languageMarks)]
  else orFail .generation (languagesNamed names)

/-! ### Options -/

/-- The channel of the arguments, else that of the settings. -/
def chooseChannel (flags : Flags) (settings : Settings) : Except CommandError Channel :=
  match flags.channel with
  | some name => (Channel.ofText name).mapError .channel
  | none => .ok (settings.channel.getD .jsonrpc)

/-- The directory that is written to if none is given. -/
def defaultOutput : String := "./sdk"

/-- The directory to write to. -/
def chooseOutput (flags : Flags) (settings : Settings) : String :=
  (flags.output.or settings.output).getD defaultOutput

/-- The paths of programs. -/
def chooseInputs (flags : Flags) (settings : Settings) : List String :=
  if flags.inputs.isEmpty then settings.inputs else flags.inputs

/-! ### Programs -/

/-- The endings of the files of programs in a directory. -/
def programExtensions : List String := ["json", "yaml", "yml"]

/-- What follows the last dot of a name, if anything stands before that dot. -/
def extension? (name : String) : Option String :=
  let cs := name.toList
  let ending := (cs.reverse.takeWhile (· ≠ '.')).reverse
  if ending.length + 1 < cs.length then some (String.ofList ending) else none

/-- Whether a file in a directory is a program. -/
def isProgramName (name : String) : Bool :=
  match extension? name with
  | none => false
  | some ending => programExtensions.contains (Text.lower ending)

/-- The paths that lead to files. -/
def keepFiles (fs : FileSystem m) (paths : List String) : m (List String) :=
  paths.filterM fun path => do return (← fs.kindOf path) = some .file

/-- The files of programs in a directory, in the order of their names. -/
def programFiles (fs : FileSystem m) (directory : String) : Action m (List String) := do
  let names ← orFail .access (← fs.names directory)
  let sorted := (names.filter isProgramName).mergeSort fun a b => !decide (b < a)
  liftM (keepFiles fs (sorted.map (joinPath directory)))

/-- The files of programs to which a path leads. -/
def filesOf (fs : FileSystem m) (path : String) : Action m (List String) := do
  match ← fs.kindOf path with
  | some .file => return [path]
  | some .directory => programFiles fs path
  | none => throw (.inputNotFound path)

/-- The files of programs to which paths lead. -/
def collectFiles (fs : FileSystem m) (paths : List String) : Action m (List String) := do
  if paths.isEmpty then throw .noInput
  else return (← paths.mapM (filesOf fs)).flatten

/-- The program of a file. -/
def readProgram (readers : Document.Readers) (fs : FileSystem m) (path : String) :
    Action m Program := do
  let text ← orFail (.inputNotRead path) (← fs.read path)
  orFail (.inputInvalid path) (Program.parse text (some path) readers)

/-! ### Files -/

/-- Whether a path leads to a place below the directory where it starts, by its names
alone. -/
def isContained (path : String) : Bool :=
  !"/".toList.isPrefixOf path.toList
    && (Text.split (· = '/') path.toList).all (· ≠ ['.', '.'])

/-- Writes a file below a directory. -/
def writeArtifact (fs : FileSystem m) (directory : String) (a : Artifact) :
    Action m Unit := do
  if isContained a.path then
    orFail .access (← fs.save (joinPath directory a.path) a.text)
  else
    throw (.outside a.path directory)

/-- Writes files below a directory, in their order. -/
def writeArtifacts (fs : FileSystem m) (directory : String) (artifacts : List Artifact) :
    Action m Unit :=
  artifacts.forM (writeArtifact fs directory)

/-- Libraries with the directories they are written to. Several libraries have directories
of their own. -/
def directories (directory : String) (outputs : List Output) : List (String × Output) :=
  outputs.map fun output =>
    if outputs.length > 1 then (joinPath directory output.language.name, output)
    else (directory, output)

/-! ### The command -/

/-- Writes the libraries, and gives them with their directories. -/
def execute (libraries : Libraries) (fs : FileSystem m) (flags : Flags) :
    Action m (List (String × Output)) := do
  let settings ← readSettings libraries fs flags.config
  let languages ← chooseLanguages fs flags settings
  let channel ← orFail id (chooseChannel flags settings)
  let files ← collectFiles fs (chooseInputs flags settings)
  let programs ← files.mapM (readProgram libraries.toReaders fs)
  let options : Options := {
    language := .typescript
    channel := channel
    package := settings.package.getD {}
    exposure := settings.exposure }
  let outputs ← orFail (fun e => .generation (.package e))
    (generateAll options languages programs)
  let written := directories (chooseOutput flags settings) outputs
  written.forM fun (directory, output) => writeArtifacts fs directory output.artifacts
  return written

/-- What is told of a library that has been written. -/
def summary (directory : String) (output : Output) : List String :=
  ("  " ++ output.language.name ++ ": " ++ Text.integerText output.artifacts.length
    ++ " file(s) in " ++ directory)
    :: output.diagnostics.map fun d => "    ! " ++ d.message

end ClientGen.Generate
