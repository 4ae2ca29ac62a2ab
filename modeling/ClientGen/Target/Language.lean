import ClientGen.Text.LowerCase

/-!
# Target languages

The languages in which client libraries are written.
-/

namespace ClientGen

/-- The languages in which client libraries are written. -/
inductive Language where
  | typescript
  | python
  | dart
deriving DecidableEq, Inhabited

namespace Language

/-- The name of a language. -/
def name : Language → String
  | .typescript => "typescript"
  | .python => "python"
  | .dart => "dart"

/-- All languages. -/
def all : List Language :=
  [.typescript, .python, .dart]

/-- The language that a text names, in any case of letters. -/
def ofText? (text : String) : Option Language :=
  let low := Text.lower text
  if low = "typescript" || low = "ts" then some .typescript
  else if low = "python" || low = "py" then some .python
  else if low = "dart" then some .dart
  else none

/-- The wording for a text that names no language. -/
def unsupported (text : String) : String :=
  "Unsupported language: " ++ text ++ ". Supported languages: "
    ++ ", ".intercalate (all.map name)

/-- The ending of the files of a language. -/
def extension : Language → String
  | .typescript => "ts"
  | .python => "py"
  | .dart => "dart"

/-- What is appended to the name of a class to name its file. -/
def proxySuffix : Language → String
  | .typescript => ".sdk"
  | .python => "_sdk"
  | .dart => "_sdk"

/-- The module that carries calls to the server. -/
def stubModule (_ : Language) : String := "remote"

/-- The path of the file of a module. -/
def filePath (lang : Language) (path : String) : String :=
  path ++ "." ++ lang.extension

end Language

end ClientGen
