/-!
# Programs

A program describes what can be called remotely in one source file: its classes with
their methods, and the type declarations that their signatures use, in the words of no
particular language. A declaration that stands in the place of a type refers to the
declaration of the same name.
-/

namespace ClientGen

/-- The types that have no parts. -/
inductive Primitive where
  | string
  | integer
  | float
  | double
  | boolean
  | bigInt
  | null
  | void
  | any
  | date
deriving DecidableEq, Inhabited

/-- How the text of a literal is to be spelled. A raw literal is spelled as it stands. -/
inductive LiteralKind where
  | string
  | number
  | boolean
  | null
  | raw
deriving DecidableEq, Inhabited

/-- The text of a literal value, and how to spell it. -/
structure Literal where
  text : String
  kind : LiteralKind := .string
deriving DecidableEq, Inhabited

/-- A case of an enumeration. -/
structure EnumCase where
  name : String
  value : Literal
deriving DecidableEq, Inhabited

/-- A property of an object type, with types `τ`. -/
structure Property (τ : Type) where
  name : String
  isOptional : Bool := false
  type : τ
deriving Inhabited

/-- A named type with its definition, with types `τ`. The home is the path of the file
that the declaration belongs to; without one it belongs to the class that uses it. -/
inductive DeclarationOf (τ : Type) where
  | struct (name : String) (properties : List (Property τ)) (home : Option String)
  | typeAlias (name : String) (target : τ) (home : Option String)
  | enumeration (name : String) (cases : List EnumCase) (home : Option String)

/-- A type. -/
inductive TypeNode where
  | primitive (p : Primitive)
  | array (element : TypeNode)
  | map (key value : TypeNode)
  | promise (result : TypeNode)
  | union (variants : List TypeNode)
  | object (properties : List (Property TypeNode))
  | declared (declaration : DeclarationOf TypeNode)
  | custom (text : String)
  | unknown
deriving Inhabited

/-- A named type with its definition. -/
abbrev Declaration := DeclarationOf TypeNode

namespace DeclarationOf

variable {τ : Type}

/-- The name of a declaration. -/
def name : DeclarationOf τ → String
  | .struct name _ _ => name
  | .typeAlias name _ _ => name
  | .enumeration name _ _ => name

/-- The path of the file that a declaration belongs to. -/
def home? : DeclarationOf τ → Option String
  | .struct _ _ home => home
  | .typeAlias _ _ home => home
  | .enumeration _ _ home => home

/-- The types within the definition. -/
def innerTypes : DeclarationOf τ → List τ
  | .struct _ properties _ => properties.map Property.type
  | .typeAlias _ target _ => [target]
  | .enumeration _ _ _ => []

end DeclarationOf

/-- The name of the declaration that a type refers to, if it refers to one. -/
def TypeNode.declarationName? : TypeNode → Option String
  | .declared d => some d.name
  | _ => none

/-- A parameter of a method. -/
structure Parameter where
  name : String
  type : TypeNode
  isOptional : Bool := false
  fallback : Option Literal := none
deriving Inhabited

/-- Whether a method is called on the class or makes an object of it. -/
inductive MethodKind where
  | method
  | constructor
deriving DecidableEq, Inhabited

/-- A method of a class. -/
structure Method where
  name : String
  parameters : List Parameter := []
  kind : MethodKind := .method
  isStatic : Bool := false
  doc : Option String := none
  returnType : TypeNode
deriving Inhabited

/-- A class whose methods can be called remotely. -/
structure RemoteClass where
  name : String
  methods : List Method := []
  doc : Option String := none
deriving Inhabited

/-- A top-level item of a program. -/
inductive BodyItem where
  | remoteClass (c : RemoteClass)
  | declaration (d : Declaration)
  | unknown
deriving Inhabited

/-- What one source file offers. -/
structure Program where
  originalLanguage : String := ""
  sourceType : String := ""
  body : List BodyItem := []
deriving Inhabited

namespace Program

/-- The classes of a program in their order. -/
def classes (p : Program) : List RemoteClass :=
  p.body.filterMap fun
    | .remoteClass c => some c
    | _ => none

/-- The declarations of a program in their order. -/
def declarations (p : Program) : List Declaration :=
  p.body.filterMap fun
    | .declaration d => some d
    | _ => none

end Program

end ClientGen
