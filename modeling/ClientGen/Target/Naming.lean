import ClientGen.Target.Literal
import ClientGen.Target.Reserved
import ClientGen.Text.Identifier

/-!
# Names of members

How the names of properties, cases, methods and classes are spelled in a target language.
TypeScript admits any text as the name of a property if it is quoted, and reserved words
as names of members; the other languages avoid their reserved words.
-/

namespace ClientGen.Language

/-- A name that TypeScript admits as the name of a property. -/
def quoteIfNeeded (name : String) : String :=
  if Text.isIdentifier name.toList then name else Language.typescript.quoteString name

/-- The name of a field. -/
def fieldName (lang : Language) (name : String) : String :=
  match lang with
  | .typescript => quoteIfNeeded name
  | .python | .dart => lang.sanitize name

/-- The name of a method. -/
def methodName (lang : Language) (name : String) : String :=
  match lang with
  | .typescript => name
  | .python | .dart => lang.sanitize name

/-- The members that an enumeration of Dart has beside its cases. -/
def dartEnumMembers : List String := ["values", "index", "value"]

/-- The name of a case. -/
def enumCaseName (lang : Language) (name : String) : String :=
  match lang with
  | .dart => if dartEnumMembers.contains name then name ++ "_" else lang.sanitize name
  | .typescript | .python => lang.fieldName name

/-- A name with its first character in lower case. -/
def lowerFirst (name : String) : String :=
  match name.toList with
  | [] => ""
  | c :: cs => String.ofList (Text.lowerChar c ++ cs)

/-- The module of the class with a name. -/
def proxyModule (lang : Language) (className : String) : String :=
  lowerFirst className ++ lang.proxySuffix

end ClientGen.Language
