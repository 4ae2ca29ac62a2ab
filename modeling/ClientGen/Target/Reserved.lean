import ClientGen.Target.Language

/-!
# Reserved words

The words of a language that no parameter may be named. A reserved word is given an
underscore, and any other name stays as it is.
-/

namespace ClientGen.Language

/-- The reserved words of a language. -/
def reservedWords : Language → List String
  | .typescript => [
    "arguments", "as", "async", "await", "break", "case", "catch", "class", "const",
    "continue", "debugger", "default", "delete", "do", "else", "enum", "eval", "export",
    "extends", "false", "finally", "for", "function", "if", "implements", "import", "in",
    "instanceof", "interface", "let", "new", "null", "package", "private", "protected",
    "public", "return", "static", "super", "switch", "this", "throw", "true", "try",
    "typeof", "var", "void", "while", "with", "yield"]
  | .python => [
    "False", "None", "True", "and", "as", "assert", "async", "await", "break", "class",
    "cls", "continue", "def", "del", "elif", "else", "except", "finally", "for", "from",
    "global", "if", "import", "in", "is", "lambda", "nonlocal", "not", "or", "pass",
    "raise", "return", "self", "try", "while", "with", "yield"]
  | .dart => [
    "abstract", "as", "assert", "async", "await", "base", "break", "case", "catch",
    "class", "const", "continue", "covariant", "default", "deferred", "do", "dynamic",
    "else", "enum", "export", "extends", "extension", "external", "factory", "false",
    "final", "finally", "for", "Function", "get", "hide", "if", "implements", "import",
    "in", "interface", "is", "late", "library", "mixin", "new", "null", "on", "operator",
    "part", "required", "rethrow", "return", "sealed", "set", "show", "static", "super",
    "switch", "sync", "this", "throw", "true", "try", "typedef", "var", "void", "when",
    "while", "with", "yield"]

/-- Whether a name is a reserved word. -/
def isReserved (lang : Language) (name : String) : Bool :=
  lang.reservedWords.contains name

/-- A name that is no reserved word. -/
def sanitize (lang : Language) (name : String) : String :=
  if lang.isReserved name then name ++ "_" else name

end ClientGen.Language
