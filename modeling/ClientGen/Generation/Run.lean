import ClientGen.Generation.ClassFile
import ClientGen.Render.Language

/-!
# Runs

A run writes a library in one language for a list of programs: the files of the first
class of each program in the order of the programs, the files of types in the order of
their paths, and the file that carries calls to the server. A program without a class, a
class without methods to offer and a class whose file has been written already are left
out, and every such case is reported.
-/

namespace ClientGen

/-- A written file. -/
structure Artifact where
  path : String
  text : String
deriving DecidableEq

/-- The library that a run has written. -/
structure Output where
  language : Language
  artifacts : List Artifact
  diagnostics : List Diagnostic
deriving DecidableEq

/-- What a run has gathered from the programs so far. -/
structure Run where
  graph : ImportGraph := {}
  classFiles : List ClassFile := []
  diagnostics : List Diagnostic := []
deriving DecidableEq

namespace Run

/-- The run with further diagnostics. -/
def report (run : Run) (diagnostics : List Diagnostic) : Run :=
  { run with diagnostics := run.diagnostics ++ diagnostics }

/-- Whether the file of a class has been written. -/
def hasFile (run : Run) (path : String) : Bool :=
  run.classFiles.any fun f => f.path = path

/-- The run after a class that is offered. -/
def addClass (o : Options) (run : Run) (p : Program) (c : RemoteClass)
    (methods : List Method) : Run :=
  let request : ClassRequest := ⟨p, c.name, o.language.proxyModule c.name, methods⟩
  let graph := request.resolve o.language run.graph
  { graph := graph
    classFiles := run.classFiles
      ++ [o.classFile c methods (request.importsFrom o.language graph)]
    diagnostics := run.diagnostics ++ request.diagnostics run.graph
      ++ methodDiagnostics c.name methods }

/-- The run after the first class of a program. -/
def addFirst (o : Options) (run : Run) (p : Program) (c : RemoteClass) : Run :=
  if (o.qualifying c).isEmpty then
    run.report [.noQualifyingMethods c.name o.channel]
  else if run.hasFile (o.language.proxyModule c.name) then
    run.report [.extraClass c.name]
  else
    run.addClass o p c (o.qualifying c)

/-- The run after the program with the given index. -/
def addProgram (o : Options) (run : Run) (p : Program) (index : Nat) : Run :=
  match p.classes with
  | [] => run.report [.missingClass index]
  | c :: extra =>
    (run.report (extra.map fun e => .extraClass e.name)).addFirst o p c

/-- The run after all programs. -/
def ofPrograms (o : Options) (programs : List Program) : Run :=
  programs.zipIdx.foldl (fun run (p, index) => run.addProgram o p index) {}

/-- The last program is added to the run for the others. -/
theorem ofPrograms_append_singleton (o : Options) (programs : List Program) (p : Program) :
  ofPrograms o (programs ++ [p])
    = (ofPrograms o programs).addProgram o p programs.length
  := by simp [ofPrograms, List.zipIdx_append, List.foldl_append]

/-- The written files of classes. -/
def classArtifacts (o : Options) (run : Run) : List Artifact :=
  run.classFiles.map fun f => ⟨o.language.filePath f.path, f.text o.language⟩

/-- The written files of types. -/
def typeArtifacts (o : Options) (run : Run) : List Artifact :=
  ((run.graph.toTypeFiles o.language o.package).map fun f =>
    ⟨o.language.filePath f.path, f.text o.language⟩).mergeSort
      fun a b => !decide (b.path < a.path)

/-- The written file that carries calls to the server. -/
def stubArtifact (o : Options) : Artifact :=
  ⟨o.language.filePath o.language.stubModule, StubFile.text ⟨o.package⟩ o.language⟩

/-- The written library. -/
def output (o : Options) (run : Run) : Output where
  language := o.language
  artifacts := run.classArtifacts o ++ run.typeArtifacts o ++ [stubArtifact o]
  diagnostics := run.diagnostics

end Run

/-- The library for a list of programs. -/
def generate (o : Options) (programs : List Program) : Except Package.Error Output :=
  match o.package.check with
  | .ok _ => .ok ((Run.ofPrograms o programs).output o)
  | .error error => .error error

/-- The libraries in several languages, in their order. -/
def generateAll (o : Options) (languages : List Language) (programs : List Program) :
    Except Package.Error (List Output) :=
  languages.mapM fun language => generate { o with language := language } programs

end ClientGen
