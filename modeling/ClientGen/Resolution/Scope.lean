import ClientGen.Module.Path
import ClientGen.Resolution.Closure

/-!
# Declarations in scope

Within a program a name stands for the first declaration of that name. The declarations
that a class needs are those that the signatures of its methods name, and those that the
definitions of needed declarations name.
-/

namespace ClientGen

/-- The types in the signature of a method, in their order. -/
def Method.signatureTypes (m : Method) : List TypeNode :=
  m.parameters.map Parameter.type ++ [m.returnType]

/-- The file that a declaration belongs to, given the file of the class that uses it. A
home that names no file counts as none. -/
def DeclarationOf.homeIn {τ : Type} (classPath : String) (d : DeclarationOf τ) : String :=
  match d.home? with
  | none => classPath
  | some home => if Module.normalize home = "" then classPath else Module.normalize home

/-- Whether a definition contains a type of a kind that is not known. -/
def DeclarationOf.containsUnknown (d : Declaration) : Bool :=
  d.innerTypes.any TypeNode.containsUnknown

/-- The names that have occurred before, at each place where they do. -/
def repeatedNames (seen : List String) : List String → List String
  | [] => []
  | name :: names =>
    if seen.contains name then name :: repeatedNames seen names
    else repeatedNames (name :: seen) names

namespace Program

/-- The declaration that a name stands for. -/
def declaration? (p : Program) (name : String) : Option Declaration :=
  p.declarations.find? fun d => d.name = name

/-- The names of the declarations of a program, each once. -/
def declaredNames (p : Program) : List String :=
  (p.declarations.map DeclarationOf.name).eraseDups

/-- The names that are declared more than once, in the order of their repetition. -/
def duplicateNames (p : Program) : List String :=
  (repeatedNames [] (p.declarations.map DeclarationOf.name)).eraseDups

/-- The declared names that types refer to, each once. -/
def namedBy (p : Program) (types : List TypeNode) : List String :=
  (types.flatMap TypeNode.mentions).eraseDups.filter fun name =>
    (p.declaration? name).isSome

/-- The declared names that the definition of a name refers to. -/
def nextNames (p : Program) (name : String) : List String :=
  match p.declaration? name with
  | none => []
  | some d => p.namedBy d.innerTypes

/-- The declared names that the signatures of methods refer to. -/
def directNames (p : Program) (methods : List Method) : List String :=
  p.namedBy (methods.flatMap Method.signatureTypes)

/-- The names of the declarations that methods need, in the order of discovery. -/
def neededNames (p : Program) (methods : List Method) : List String :=
  Closure.closure p.nextNames p.declaredNames (p.directNames methods)

/-- The declarations that methods need. -/
def needed (p : Program) (methods : List Method) : List Declaration :=
  (p.neededNames methods).filterMap p.declaration?

end Program

end ClientGen
