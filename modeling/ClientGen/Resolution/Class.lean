import ClientGen.Generation.Diagnostic
import ClientGen.Resolution.Graph

/-!
# The imports of a class

A declaration that a class needs belongs to the file of its home, or to the file of the
class if it has no home. The first declaration of a name in a file stays, and a later one
of another program adds nothing. Every reference from one file to another becomes an edge
of the graph, and so do the names that the signatures of the class use; the file of the
class exports the latter again.
-/

namespace ClientGen

/-- What the file of a class takes from the graph: import statements, those that
signatures alone need, those that are exported again, the declarations of its own, and
the names under which it spells declarations. -/
structure ClassImports where
  imports : List ImportStatement := []
  annotationImports : List ImportStatement := []
  reexports : List ImportStatement := []
  declarations : List SpelledDeclaration := []
  renames : Renames := []
deriving DecidableEq, Inhabited

/-- A class whose declarations are to be placed: the program it comes from, its name and
file, and the methods that are offered. -/
structure ClassRequest where
  program : Program
  className : String
  path : String
  methods : List Method

namespace ClassRequest

/-- The file that a declaration belongs to. -/
def homeOf (r : ClassRequest) (d : Declaration) : String :=
  d.homeIn r.path

/-- Whether a declaration belongs to the file of the class. -/
def isLocal (r : ClassRequest) (d : Declaration) : Bool :=
  r.homeOf d = r.path

/-- The declarations that the class needs. -/
def needed (r : ClassRequest) : List Declaration :=
  r.program.needed r.methods

/-- The needed declarations that belong to the file of the class. -/
def locals (r : ClassRequest) : List Declaration :=
  r.needed.filter r.isLocal

/-- The needed declarations that are not yet declared where they belong. -/
def placed (r : ClassRequest) (g : ImportGraph) : List Declaration :=
  r.needed.filter fun d => r.isLocal d || !g.declares (r.homeOf d) d.name

/-- The references from a file to declared names that belong to other files. -/
def edgesFrom (r : ClassRequest) (consumer : String) (names : List String) : List Edge :=
  ((names.filterMap r.program.declaration?).map fun d =>
    ⟨consumer, r.homeOf d, d.name⟩).filter fun e => e.provider ≠ consumer

/-- The references out of the file of a declaration by its definition. -/
def definitionEdges (r : ClassRequest) (d : Declaration) : List Edge :=
  r.edgesFrom (r.homeOf d) (r.program.namedBy d.innerTypes)

/-- The references out of the file of the class by its signatures. -/
def signatureEdges (r : ClassRequest) : List Edge :=
  r.edgesFrom r.path (r.program.directNames r.methods)

/-- The names that the file of the class exports again. -/
def exported (r : ClassRequest) : Providers :=
  r.signatureEdges.foldl (fun providers e => providers.add e.provider e.name) []

/-- What is reported of a declaration. -/
def declarationDiagnostics (d : Declaration) : List Diagnostic :=
  (if d.containsUnknown then [.unknownType d.name] else [])
    ++ (match d.home? with
      | none => []
      | some home => if Module.climbs home then [.unsafeHome d.name home] else [])

/-- What is reported of the declarations of a class. -/
def diagnostics (r : ClassRequest) (g : ImportGraph) : List Diagnostic :=
  r.program.duplicateNames.map Diagnostic.duplicateDeclaration
    ++ (r.placed g).flatMap declarationDiagnostics

/-- The graph with the declarations and the references of a class. -/
def place (r : ClassRequest) (lang : Language) (g : ImportGraph) : ImportGraph :=
  let declared := ((r.placed g).filter fun d => !r.isLocal d).foldl
    (fun g d => g.declare (r.homeOf d) (lang.spellDeclaration [] d)) g
  ((r.placed g).flatMap r.definitionEdges ++ r.signatureEdges).foldl ImportGraph.addEdge
    declared

/-- The names in the scope of the file of a class, in increasing order. -/
def scope (r : ClassRequest) (g : ImportGraph) : List String :=
  Sorted.ofTexts (r.locals.map DeclarationOf.name
    ++ (g.providersOf r.path).flatMap fun (_, names) => names)

/-- The graph after a class. -/
def resolve (r : ClassRequest) (lang : Language) (g : ImportGraph) : ImportGraph :=
  let placed := r.place lang g
  placed.setRenames r.path (Fresh.classRenames r.className (r.scope placed))

/-- What the file of a class takes from the graph after it. -/
def importsFrom (r : ClassRequest) (lang : Language) (g : ImportGraph) : ClassImports :=
  let renames := (g.renames.lookup r.path).getD []
  { imports := g.importsOf lang r.path
    annotationImports :=
      g.statements lang r.path ((g.providersOf r.path).without r.exported)
    reexports := g.statements lang r.path r.exported
    declarations := r.locals.map (lang.spellDeclaration renames)
    renames := renames }

end ClassRequest

end ClientGen
