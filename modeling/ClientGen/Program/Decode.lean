import ClientGen.Document.Record
import ClientGen.Program.Tags

/-!
# Reading programs out of values

The types, declarations, classes and programs that values write. A type or an item with
a tag that is not known is read as unknown, whatever else it holds, and fields without a
meaning are passed over.
-/

namespace ClientGen

/-- A kind of literals. -/
def LiteralKind.ofValue (reading : Reading) (v : Value) : Decoded LiteralKind :=
  (v.toVariant reading (LiteralKind.all.map LiteralKind.name)).map fun name =>
    (LiteralKind.ofName? name).getD .string

/-- A kind of methods. -/
def MethodKind.ofValue (reading : Reading) (v : Value) : Decoded MethodKind :=
  (v.toVariant reading (MethodKind.all.map MethodKind.name)).map fun name =>
    (MethodKind.ofName? name).getD .method

/-- The text of a literal: a string as it stands, and any other value as its compact
text. -/
def Value.literalText : Value → String
  | .string s => s
  | v => v.compactText

/-- A literal. -/
def Literal.ofValue (reading : Reading) (v : Value) : Decoded Literal := do
  let r ← v.toRecord reading "struct DefaultValue" ["value", "valueKind"]
  let text := r.field (fun v => .ok v.literalText) "value"
  let kind := r.field (LiteralKind.ofValue reading) "valueKind"
  r.settle [text.required "value", kind.optional "valueKind"]
  return { text := ← text.value "value", kind := ← kind.valueD .string }

/-- A case of an enumeration. -/
def EnumCase.ofValue (reading : Reading) (v : Value) : Decoded EnumCase := do
  let r ← v.toRecord reading "struct EnumCase" ["name", "value", "valueKind"]
  let name := r.field Value.toStr "name"
  let text := r.field (fun v => .ok v.literalText) "value"
  let kind := r.field (LiteralKind.ofValue reading) "valueKind"
  r.settle [name.required "name", text.required "value", kind.optional "valueKind"]
  return {
    name := ← name.value "name"
    value := { text := ← text.value "value", kind := ← kind.valueD .string } }

/-- An enumeration. -/
def enumerationOf {n : Nat} (content : Record.Content n) : Decoded Declaration := do
  let r := content.toRecord "struct EnumDeclaration" ["name", "cases", "homePath"]
  let name := r.field Value.toStr "name"
  let cases := r.field (Value.toList (EnumCase.ofValue .setAside)) "cases"
  let home := r.field (Value.toOption Value.toStr) "homePath"
  r.settle [name.required "name", cases.optional "cases", home.optional "homePath"]
  return .enumeration (← name.value "name") (← cases.valueD []) (← home.valueD none)

/-- A raw type. -/
def customOf {n : Nat} (content : Record.Content n) : Decoded TypeNode := do
  let r := content.toRecord "struct variant Node::CustomNodeLiteral" ["rawValue"]
  let text := r.field Value.toStr "rawValue"
  r.settle [text.required "rawValue"]
  return .custom (← text.value "rawValue")

/-- A node that has no content. -/
def bareOf {n : Nat} {α : Type} (content : Record.Content n) (node : α) : Decoded α := do
  (content.toRecord "unit" []).settle []
  return node

mutual

/-- A type. -/
def TypeNode.ofValue (reading : Reading) (v : Value) : Decoded TypeNode := do
  let (tag, content) ← v.toTagged reading "internally tagged enum Node" TypeNode.tags
  match Primitive.ofTag? tag with
  | some p => bareOf content (.primitive p)
  | none =>
    if tag = "ArrayType" then
      let r := content.toRecord "struct variant Node::ArrayType" ["element"]
      let element := (r.get? "element").map fun ⟨w, _⟩ => TypeNode.ofValue .setAside w
      r.settle [Field.required "element" element]
      return .array (← Field.value "element" element)
    else if tag = "MapType" then
      let r := content.toRecord "struct variant Node::MapType" ["key", "value"]
      let key := (r.get? "key").map fun ⟨w, _⟩ => TypeNode.ofValue .setAside w
      let value := (r.get? "value").map fun ⟨w, _⟩ => TypeNode.ofValue .setAside w
      r.settle [Field.required "key" key, Field.required "value" value]
      return .map (← Field.value "key" key) (← Field.value "value" value)
    else if tag = "PromiseType" then
      let r := content.toRecord "struct variant Node::PromiseType" ["element"]
      let result := (r.get? "element").map fun ⟨w, _⟩ => TypeNode.ofValue .setAside w
      r.settle [Field.required "element" result]
      return .promise (← Field.value "element" result)
    else if tag = "UnionType" then
      let r := content.toRecord "struct variant Node::UnionType" ["variants"]
      let variants := (r.get? "variants").map fun ⟨w, _⟩ => variantsOf w
      r.settle [Field.required "variants" variants]
      return .union (← Field.value "variants" variants)
    else if tag = "TypeLiteral" then
      return .object (← objectOf content)
    else if tag = "StructLiteral" || tag = "TypeAlias" || tag = "Enum" then
      return .declared (← declarationOf tag content)
    else if tag = "CustomNodeLiteral" then
      customOf content
    else
      bareOf content .unknown
termination_by (sizeOf v, 2)

/-- The variants of a union. -/
def variantsOf (v : Value) : Decoded (List TypeNode) :=
  match v with
  | .array items => variantItems items
  | v => .error (.wrongType v.found "a sequence")
termination_by (sizeOf v, 0)

/-- The variants that the items of an array write. -/
def variantItems (items : List Value) : Decoded (List TypeNode) :=
  match items with
  | [] => .ok []
  | v :: rest => do
    let variant ← TypeNode.ofValue .setAside v
    let variants ← variantItems rest
    return variant :: variants
termination_by (sizeOf items, 0)

/-- The properties of an object type. -/
def objectOf {n : Nat} (content : Record.Content n) :
    Decoded (List (Property TypeNode)) := do
  let r := content.toRecord "struct TypeLiteral" ["properties"]
  let properties := (r.get? "properties").map fun ⟨w, _⟩ => propertiesOf w
  r.settle [Field.optional "properties" properties]
  Field.valueD [] properties
termination_by (n, 1)

/-- The properties of an object type that is written without a tag. -/
def plainObjectOf (v : Value) : Decoded (List (Property TypeNode)) := do
  let r ← v.toRecord .setAside "struct TypeLiteral" ["properties"]
  objectOf r.content
termination_by (sizeOf v, 2)

/-- A list of properties. -/
def propertiesOf (v : Value) : Decoded (List (Property TypeNode)) :=
  match v with
  | .array items => propertyItems items
  | v => .error (.wrongType v.found "a sequence")
termination_by (sizeOf v, 0)

/-- The properties that the items of an array write. -/
def propertyItems (items : List Value) : Decoded (List (Property TypeNode)) :=
  match items with
  | [] => .ok []
  | v :: rest => do
    let property ← propertyOf v
    let properties ← propertyItems rest
    return property :: properties
termination_by (sizeOf items, 0)

/-- A property of an object type. -/
def propertyOf (v : Value) : Decoded (Property TypeNode) := do
  let r ← v.toRecord .setAside "struct PropertyDefinition" ["name", "optional", "type"]
  let name := r.field Value.toStr "name"
  let isOptional := r.field Value.toBool "optional"
  let type := (r.get? "type").map fun ⟨w, _⟩ => TypeNode.ofValue .setAside w
  r.settle [name.required "name", isOptional.optional "optional",
    Field.required "type" type]
  return {
    name := ← name.value "name"
    isOptional := ← isOptional.valueD false
    type := ← Field.value "type" type }
termination_by (sizeOf v, 1)

/-- A declaration with the given tag. -/
def declarationOf {n : Nat} (tag : String) (content : Record.Content n) :
    Decoded Declaration := do
  if tag = "StructLiteral" then
    let r := content.toRecord "struct StructLiteral" ["name", "typeLiteral", "homePath"]
    let name := r.field Value.toStr "name"
    let properties := (r.get? "typeLiteral").map fun ⟨w, _⟩ => plainObjectOf w
    let home := r.field (Value.toOption Value.toStr) "homePath"
    r.settle [name.required "name", Field.optional "typeLiteral" properties,
      home.optional "homePath"]
    return .struct (← name.value "name") (← Field.valueD [] properties) (← home.valueD none)
  else if tag = "TypeAlias" then
    let r := content.toRecord "struct TypeAlias" ["name", "aliasType", "homePath"]
    let name := r.field Value.toStr "name"
    let target := (r.get? "aliasType").map fun ⟨w, _⟩ => TypeNode.ofValue .setAside w
    let home := r.field (Value.toOption Value.toStr) "homePath"
    r.settle [name.required "name", Field.required "aliasType" target,
      home.optional "homePath"]
    return .typeAlias (← name.value "name") (← Field.value "aliasType" target)
      (← home.valueD none)
  else
    enumerationOf content
termination_by (n, 1)

end

/-- A parameter of a method. -/
def Parameter.ofValue (reading : Reading) (v : Value) : Decoded Parameter := do
  let r ← v.toRecord reading "struct ParameterDefinition"
    ["name", "type", "optional", "defaultValue"]
  let name := r.field Value.toStr "name"
  let type := r.field (TypeNode.ofValue reading) "type"
  let isOptional := r.field Value.toBool "optional"
  let fallback := r.field (Value.toOption (Literal.ofValue reading)) "defaultValue"
  r.settle [name.required "name", type.required "type", isOptional.optional "optional",
    fallback.optional "defaultValue"]
  return {
    name := ← name.value "name"
    type := ← type.value "type"
    isOptional := ← isOptional.valueD false
    fallback := ← fallback.valueD none }

/-- A method of a class. -/
def Method.ofValue (reading : Reading) (v : Value) : Decoded Method := do
  let r ← v.toRecord reading "struct MethodDefinition"
    ["name", "params", "kind", "isStatic", "docString", "returnType"]
  let name := r.field Value.toStr "name"
  let parameters := r.field (Value.toList (Parameter.ofValue reading)) "params"
  let kind := r.field (MethodKind.ofValue reading) "kind"
  let isStatic := r.field Value.toBool "isStatic"
  let doc := r.field (Value.toOption Value.toStr) "docString"
  let returnType := r.field (TypeNode.ofValue reading) "returnType"
  r.settle [name.required "name", parameters.optional "params", kind.optional "kind",
    isStatic.optional "isStatic", doc.optional "docString",
    returnType.required "returnType"]
  return {
    name := ← name.value "name"
    parameters := ← parameters.valueD []
    kind := ← kind.valueD .method
    isStatic := ← isStatic.valueD false
    doc := ← doc.valueD none
    returnType := ← returnType.value "returnType" }

/-- A class of which the fields are given. -/
def RemoteClass.ofRecord {n : Nat} (r : Record n) : Decoded RemoteClass := do
  let name := r.field Value.toStr "name"
  let methods := r.field (Value.toList (Method.ofValue r.reading)) "methods"
  let doc := r.field (Value.toOption Value.toStr) "docString"
  r.settle [name.required "name", methods.optional "methods", doc.optional "docString"]
  return {
    name := ← name.value "name"
    methods := ← methods.valueD []
    doc := ← doc.valueD none }

/-- The shape of a class, and its fields in their order. -/
def RemoteClass.shape : String × List String :=
  ("struct ClassDefinition", ["name", "methods", "docString"])

/-- A class. -/
def RemoteClass.ofValue (v : Value) : Decoded RemoteClass := do
  RemoteClass.ofRecord (← v.toRecord .direct RemoteClass.shape.1 RemoteClass.shape.2)

/-- An item of a program. -/
def BodyItem.ofValue (v : Value) : Decoded BodyItem := do
  let (tag, content) ← v.toTagged .direct "internally tagged enum BodyItem" BodyItem.tags
  if tag = "ClassDefinition" then
    let c ← RemoteClass.ofRecord
      (content.toRecord RemoteClass.shape.1 RemoteClass.shape.2)
    return .remoteClass c
  else if tag = "StructLiteral" || tag = "TypeAlias" || tag = "Enum" then
    return .declaration (← declarationOf tag content)
  else
    bareOf content .unknown

/-- A program, without regard to whether its body is there. -/
def Program.ofRecord {n : Nat} (r : Record n) : Decoded Program := do
  let originalLanguage := r.field Value.toStr "originalLanguage"
  let sourceType := r.field Value.toStr "sourceType"
  let body := r.field (Value.toList BodyItem.ofValue) "body"
  r.settle [originalLanguage.optional "originalLanguage", sourceType.optional "sourceType",
    body.optional "body"]
  return {
    originalLanguage := ← originalLanguage.valueD ""
    sourceType := ← sourceType.valueD ""
    body := ← body.valueD [] }

end ClientGen
