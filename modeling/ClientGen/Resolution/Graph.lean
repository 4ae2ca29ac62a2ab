import ClientGen.File.Basic
import ClientGen.Resolution.Fresh
import ClientGen.Resolution.Scope

/-!
# The graph of imports

For the files of one run the graph tells which file takes which names from which other
file, what the files of types declare, and under which names the files of classes spell
declarations. Names are kept as the programs spell them: where a file has another
spelling, the import statement takes it into account.
-/

namespace ClientGen

/-- The names that a file takes, by the file that provides them. -/
abbrev Providers := List (String × List String)

/-- Adds a name that a file provides. -/
def Providers.add (providers : Providers) (provider name : String) : Providers :=
  Sorted.modify provider (fun names => Sorted.insert name (names.getD [])) providers

/-- The names that a file provides. -/
def Providers.namesOf (providers : Providers) (provider : String) : List String :=
  (providers.lookup provider).getD []

/-- The providers without the names that others give; a provider of no other names is
left out. -/
def Providers.without (providers others : Providers) : Providers :=
  (providers.map fun (provider, names) =>
    (provider, names.filter fun name => !(others.namesOf provider).contains name)).filter
      fun (_, names) => !names.isEmpty

/-- One file takes one name from another file. -/
structure Edge where
  consumer : String
  provider : String
  name : String
deriving DecidableEq

/-- The imports of all files, the contents of the files of types, and the spellings in
the files of classes. -/
structure ImportGraph where
  imports : List (String × Providers) := []
  typeFiles : List (String × List SpelledDeclaration) := []
  renames : List (String × Renames) := []
deriving DecidableEq, Inhabited

namespace ImportGraph

/-- What a file takes. -/
def providersOf (g : ImportGraph) (consumer : String) : Providers :=
  (g.imports.lookup consumer).getD []

/-- The graph with an edge. -/
def addEdge (g : ImportGraph) (e : Edge) : ImportGraph :=
  { g with
    imports := Sorted.modify e.consumer
      (fun providers => Providers.add (providers.getD []) e.provider e.name) g.imports }

/-- What a file of types declares. -/
def declarationsOf (g : ImportGraph) (path : String) : List SpelledDeclaration :=
  (g.typeFiles.lookup path).getD []

/-- Whether a file of types declares a name. -/
def declares (g : ImportGraph) (path name : String) : Bool :=
  (g.declarationsOf path).any fun d => d.name = name

/-- The graph with a declaration in a file of types. -/
def declare (g : ImportGraph) (path : String) (d : SpelledDeclaration) : ImportGraph :=
  { g with typeFiles := Sorted.modify path (fun ds => ds.getD [] ++ [d]) g.typeFiles }

/-- The graph with the spellings in a file of a class. -/
def setRenames (g : ImportGraph) (path : String) (renames : Renames) : ImportGraph :=
  { g with renames := Sorted.put path renames g.renames }

/-- The spelling of a name in a file. -/
def spelling (g : ImportGraph) (path name : String) : String :=
  Renames.apply ((g.renames.lookup path).getD []) name

/-- The statement by which a file takes names from another one. -/
def statement (g : ImportGraph) (lang : Language) (consumer provider : String)
    (names : List String) : ImportStatement :=
  ImportStatement.ofPairs (Module.importPath lang consumer provider)
    (names.map fun name => (g.spelling provider name, g.spelling consumer name))

/-- The statements by which a file takes names, in increasing order of their paths. -/
def statements (g : ImportGraph) (lang : Language) (consumer : String)
    (providers : Providers) : List ImportStatement :=
  (providers.map fun (provider, names) => g.statement lang consumer provider names).mergeSort
    fun s t => !decide (t.path < s.path)

/-- The import statements of a file. -/
def importsOf (g : ImportGraph) (lang : Language) (consumer : String) :
    List ImportStatement :=
  g.statements lang consumer (g.providersOf consumer)

/-- The files of types, in increasing order of their modules. -/
def toTypeFiles (g : ImportGraph) (lang : Language) (package : Package) : List TypeFile :=
  g.typeFiles.map fun (path, declarations) =>
    { path := path
      package := package
      imports := g.importsOf lang path
      declarations := declarations }

end ImportGraph

end ClientGen
