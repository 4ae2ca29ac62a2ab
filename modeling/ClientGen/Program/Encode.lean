import ClientGen.Document.Value
import ClientGen.Program.Tags

/-!
# Writing programs as values

The values that write types, declarations, classes and programs. Every field is written,
except those that are absent; a type or an item of a kind that is not known keeps its tag
alone.
-/

namespace ClientGen

/-- A tagged object. -/
def tagged (tag : String) (fields : List (String × Value)) : Value :=
  Value.ofFields (("type", .string tag) :: fields)

/-- A field that is written only if it is present. -/
def optionalField {α : Type} (key : String) (write : α → Value) :
    Option α → List (String × Value)
  | none => []
  | some a => [(key, write a)]

/-- The fields of a literal. -/
def Literal.fields (l : Literal) : List (String × Value) :=
  [("value", .string l.text), ("valueKind", .string l.kind.name)]

/-- The value that writes a literal. -/
def Literal.toValue (l : Literal) : Value :=
  Value.ofFields l.fields

/-- The value that writes a case of an enumeration. -/
def EnumCase.toValue (c : EnumCase) : Value :=
  Value.ofFields (("name", .string c.name) :: c.value.fields)

/-- The field of the home of a declaration. -/
def homeField (home : Option String) : List (String × Value) :=
  optionalField "homePath" Value.string home

mutual

/-- The value that writes a type. -/
def TypeNode.toValue : TypeNode → Value
  | .primitive p => tagged p.tag []
  | .array element => tagged "ArrayType" [("element", element.toValue)]
  | .map key value => tagged "MapType" [("key", key.toValue), ("value", value.toValue)]
  | .promise result => tagged "PromiseType" [("element", result.toValue)]
  | .union variants => tagged "UnionType" [("variants", .array (variantValues variants))]
  | .object properties =>
    tagged "TypeLiteral" [("properties", .array (propertyValues properties))]
  | .declared (.struct name properties home) =>
    tagged "StructLiteral" ([("name", .string name),
      ("typeLiteral", Value.ofFields [("properties", .array (propertyValues properties))])]
      ++ homeField home)
  | .declared (.typeAlias name target home) =>
    tagged "TypeAlias" ([("name", .string name), ("aliasType", target.toValue)]
      ++ homeField home)
  | .declared (.enumeration name cases home) =>
    tagged "Enum" ([("name", .string name), ("cases", .array (cases.map EnumCase.toValue))]
      ++ homeField home)
  | .custom text => tagged "CustomNodeLiteral" [("rawValue", .string text)]
  | .unknown => tagged unknownTag []

/-- The values that write the variants of a union. -/
def variantValues : List TypeNode → List Value
  | [] => []
  | variant :: variants => variant.toValue :: variantValues variants

/-- The values that write properties. -/
def propertyValues : List (Property TypeNode) → List Value
  | [] => []
  | ⟨name, isOptional, type⟩ :: properties =>
    Value.ofFields [("name", .string name), ("optional", .bool isOptional),
      ("type", type.toValue)] :: propertyValues properties

end

/-- The value that writes a parameter. -/
def Parameter.toValue (p : Parameter) : Value :=
  Value.ofFields ([("name", .string p.name), ("type", p.type.toValue),
    ("optional", .bool p.isOptional)]
    ++ optionalField "defaultValue" Literal.toValue p.fallback)

/-- The value that writes a method. -/
def Method.toValue (m : Method) : Value :=
  Value.ofFields ([("name", .string m.name),
    ("params", .array (m.parameters.map Parameter.toValue)),
    ("kind", .string m.kind.name), ("isStatic", .bool m.isStatic)]
    ++ optionalField "docString" Value.string m.doc
    ++ [("returnType", m.returnType.toValue)])

/-- The value that writes an item of a program. -/
def BodyItem.toValue : BodyItem → Value
  | .remoteClass c =>
    tagged "ClassDefinition" ([("name", .string c.name),
      ("methods", .array (c.methods.map Method.toValue))]
      ++ optionalField "docString" Value.string c.doc)
  | .declaration d => (TypeNode.declared d).toValue
  | .unknown => tagged unknownTag []

/-- The value that writes a program. -/
def Program.toValue (p : Program) : Value :=
  Value.ofFields [("originalLanguage", .string p.originalLanguage),
    ("sourceType", .string p.sourceType), ("body", .array (p.body.map BodyItem.toValue))]

end ClientGen
