import ClientGen.Program.Model

/-!
# Names in written programs

The names by which a written program marks the kinds of its types, items, literals and
methods, with the readings back.
-/

namespace ClientGen

/-- The tag of a primitive type. -/
def Primitive.tag : Primitive → String
  | .string => "StringLiteral"
  | .integer => "IntegerLiteral"
  | .float => "FloatLiteral"
  | .double => "DoubleLiteral"
  | .boolean => "BooleanLiteral"
  | .bigInt => "BigIntLiteral"
  | .null => "NullLiteral"
  | .void => "VoidLiteral"
  | .any => "AnyLiteral"
  | .date => "DateType"

/-- The primitive types. -/
def Primitive.all : List Primitive :=
  [.string, .integer, .float, .double, .boolean, .bigInt, .null, .void, .any, .date]

/-- The primitive type of a tag. -/
def Primitive.ofTag? (tag : String) : Option Primitive :=
  Primitive.all.find? fun p => p.tag = tag

/-- The tags of types with parts, of declarations and of raw types. -/
def compoundTags : List String :=
  ["ArrayType", "MapType", "PromiseType", "UnionType", "TypeLiteral", "StructLiteral",
    "TypeAlias", "Enum", "CustomNodeLiteral"]

/-- The tag of a type or an item of a kind that is not known. -/
def unknownTag : String := "Unknown"

/-- The tags of types. -/
def TypeNode.tags : List String :=
  Primitive.all.map Primitive.tag ++ compoundTags ++ [unknownTag]

/-- The tags of the items of a program. -/
def BodyItem.tags : List String :=
  ["ClassDefinition", "StructLiteral", "TypeAlias", "Enum", unknownTag]

/-- The tag of a declaration. -/
def DeclarationOf.tag {τ : Type} : DeclarationOf τ → String
  | .struct _ _ _ => "StructLiteral"
  | .typeAlias _ _ _ => "TypeAlias"
  | .enumeration _ _ _ => "Enum"

/-- The name of a kind of literals. -/
def LiteralKind.name : LiteralKind → String
  | .string => "string"
  | .number => "number"
  | .boolean => "boolean"
  | .null => "null"
  | .raw => "raw"

/-- The kinds of literals. -/
def LiteralKind.all : List LiteralKind :=
  [.string, .number, .boolean, .null, .raw]

/-- The kind of literals with a name. -/
def LiteralKind.ofName? (name : String) : Option LiteralKind :=
  LiteralKind.all.find? fun kind => kind.name = name

/-- The name of a kind of methods. -/
def MethodKind.name : MethodKind → String
  | .method => "method"
  | .constructor => "constructor"

/-- The kinds of methods. -/
def MethodKind.all : List MethodKind :=
  [.method, .constructor]

/-- The kind of methods with a name. -/
def MethodKind.ofName? (name : String) : Option MethodKind :=
  MethodKind.all.find? fun kind => kind.name = name

@[simp]
theorem Primitive.ofTag?_tag (p : Primitive) :
  Primitive.ofTag? p.tag = some p
  := by cases p <;> decide

@[simp]
theorem LiteralKind.ofName?_name (kind : LiteralKind) :
  LiteralKind.ofName? kind.name = some kind
  := by cases kind <;> decide

@[simp]
theorem MethodKind.ofName?_name (kind : MethodKind) :
  MethodKind.ofName? kind.name = some kind
  := by cases kind <;> decide

end ClientGen
