import ClientGen.Program.Model
import ClientGen.Target.Naming

/-!
# Types in target languages

The spelling of types. A declaration is spelled by its name and a raw type as it stands;
what a language cannot express, and what is not known, becomes its most permissive type.
-/

namespace ClientGen

/-- Whether a type is the type of null. -/
def TypeNode.isNull : TypeNode → Bool
  | .primitive .null => true
  | _ => false

/-- Whether a type is the type of null or of no value. -/
def TypeNode.isNothing : TypeNode → Bool
  | .primitive .null => true
  | .primitive .void => true
  | _ => false

/-! ### TypeScript -/

/-- A primitive type in TypeScript. -/
def Primitive.typescript : Primitive → String
  | .string => "string"
  | .integer | .float | .double => "number"
  | .boolean => "boolean"
  | .bigInt => "bigint"
  | .null => "null"
  | .void => "void"
  | .any => "any"
  | .date => "Date"

namespace TypeNode

mutual

/-- A type in TypeScript. -/
def typescript : TypeNode → String
  | .primitive p => p.typescript
  | .array element => "Array<" ++ typescript element ++ ">"
  | .map key value =>
    "\x7b[key: " ++ typescript key ++ "]: " ++ typescript value ++ "\x7d"
  | .promise result => "Promise<" ++ typescript result ++ ">"
  | .union [] => "any"
  | .union variants => " | ".intercalate (typescriptVariants variants)
  | .object properties =>
    "\x7b" ++ ", ".intercalate (typescriptProperties properties) ++ "\x7d"
  | .declared d => d.name
  | .custom text => text
  | .unknown => "any"

/-- Variants in TypeScript. -/
def typescriptVariants : List TypeNode → List String
  | [] => []
  | variant :: variants => typescript variant :: typescriptVariants variants

/-- Properties in TypeScript. -/
def typescriptProperties : List (Property TypeNode) → List String
  | [] => []
  | ⟨name, isOptional, type⟩ :: properties =>
    (Language.quoteIfNeeded name ++ (if isOptional then "?" else "") ++ ": "
      ++ typescript type) :: typescriptProperties properties

end

end TypeNode

/-! ### Python -/

/-- A primitive type in Python. -/
def Primitive.python : Primitive → String
  | .string => "str"
  | .integer | .bigInt => "int"
  | .float | .double => "float"
  | .boolean => "bool"
  | .null | .void => "None"
  | .any => "Any"
  | .date => "datetime"

/-- A union in Python, given whether a variant is the type of nothing, and the spellings
of the others. -/
def pythonUnion (nothing : Bool) : List String → String
  | [] => "None"
  | [single] => if nothing then "Optional[" ++ single ++ "]" else single
  | texts =>
    let joined := "Union[" ++ ", ".intercalate texts ++ "]"
    if nothing then "Optional[" ++ joined ++ "]" else joined

namespace TypeNode

mutual

/-- A type in Python. -/
def python : TypeNode → String
  | .primitive p => p.python
  | .array element => "List[" ++ python element ++ "]"
  | .map key value => "Dict[" ++ python key ++ ", " ++ python value ++ "]"
  | .promise result => "Awaitable[" ++ python result ++ "]"
  | .union [] => "Any"
  | .union variants => pythonUnion (variants.any isNothing) (pythonVariants variants)
  | .object _ => "Dict[str, Any]"
  | .declared d => d.name
  | .custom text => text
  | .unknown => "Any"

/-- The variants in Python that are not the type of nothing. -/
def pythonVariants : List TypeNode → List String
  | [] => []
  | variant :: variants =>
    if variant.isNothing then pythonVariants variants
    else python variant :: pythonVariants variants

end

end TypeNode

/-! ### Dart -/

/-- A primitive type in Dart. -/
def Primitive.dart : Primitive → String
  | .string => "String"
  | .integer => "int"
  | .float | .double => "double"
  | .boolean => "bool"
  | .bigInt => "BigInt"
  | .null => "Null"
  | .void => "void"
  | .any => "dynamic"
  | .date => "DateTime"

/-- A union in Dart, given whether a variant is the type of null, and the spellings of
the others. Only the union of a single type with null has a spelling of its own. -/
def dartUnion (nullable : Bool) : List String → String
  | [single] =>
    if nullable then (if single = "dynamic" then single else single ++ "?") else single
  | _ => "dynamic"

namespace TypeNode

mutual

/-- A type in Dart. -/
def dart : TypeNode → String
  | .primitive p => p.dart
  | .array element => "List<" ++ dart element ++ ">"
  | .map key value => "Map<" ++ dart key ++ ", " ++ dart value ++ ">"
  | .promise result => "Future<" ++ dart result ++ ">"
  | .union variants => dartUnion (variants.any isNull) (dartVariants variants)
  | .object _ => "Map<String, dynamic>"
  | .declared d => d.name
  | .custom text => text
  | .unknown => "dynamic"

/-- The variants in Dart that are not the type of null. -/
def dartVariants : List TypeNode → List String
  | [] => []
  | variant :: variants =>
    if variant.isNull then dartVariants variants
    else dart variant :: dartVariants variants

end

/-- The type that is left when a promise of it has been awaited. -/
def awaited : TypeNode → TypeNode
  | .promise result => result
  | t => t

end TypeNode

/-! ### All languages -/

namespace Language

/-- The spelling of a type. -/
def typeText : Language → TypeNode → String
  | .typescript => TypeNode.typescript
  | .python => TypeNode.python
  | .dart => TypeNode.dart

/-- The spelling of a type as the type of what a method returns. Methods are called
asynchronously; in Python the type is that of the awaited value. -/
def returnTypeText (lang : Language) (t : TypeNode) : String :=
  match lang with
  | .typescript => (TypeNode.promise t.awaited).typescript
  | .python => t.awaited.python
  | .dart => (TypeNode.promise t.awaited).dart

/-- The spelling of the type of a value that may be left out. TypeScript marks the name
instead. -/
def optionalType (lang : Language) (text : String) : String :=
  match lang with
  | .typescript => text
  | .python =>
    if "Optional[".toList.isPrefixOf text.toList || text = "Any" || text = "None" then text
    else "Optional[" ++ text ++ "]"
  | .dart =>
    if "?".toList.isSuffixOf text.toList || text = "dynamic" || text = "void"
        || text = "Null" then text
    else text ++ "?"

/-- The spelling of the type of a value that may be absent but has to be passed. -/
def nullableType (lang : Language) (text : String) : String :=
  match lang with
  | .typescript =>
    if text = "any" || text = "unknown"
        || "| undefined".toList.isSuffixOf text.toList then text
    else text ++ " | undefined"
  | .python | .dart => lang.optionalType text

end Language

end ClientGen
