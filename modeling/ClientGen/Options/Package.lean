import ClientGen.Document.Record
import ClientGen.Options.Version

/-!
# Packages

The name and the version of the package that holds a client library. The name consists of
letters and digits of ASCII and of `-`, `_`, `.`, `@` and `/`, and the version is a
semantic version.
-/

namespace ClientGen

/-- The name and the version of a package. -/
structure Package where
  name : String := "callpath-sdk"
  version : String := "0.1.0"
deriving DecidableEq, Inhabited

namespace Package

/-- Why a package cannot be used. -/
inductive Error where
  | badName (name : String)
  | badVersion (version : String) (error : Version.Error)
deriving DecidableEq

/-- The wording of an error. -/
def Error.message : Error → String
  | .badName name => "Invalid package name: " ++ name
  | .badVersion version error =>
    "Invalid package version \"" ++ version ++ "\": " ++ error.message

/-- Whether a character may stand in the name of a package. -/
def isNameChar (c : Char) : Bool :=
  c.isAlphanum || ['-', '_', '.', '@', '/'].contains c

/-- Whether a text may name a package. -/
def isName (text : String) : Bool :=
  !text.isEmpty && text.toList.all isNameChar

/-- Checks the name, and then the version. -/
def check (p : Package) : Except Error Unit :=
  if isName p.name then
    match Version.parse p.version with
    | .ok _ => .ok ()
    | .error error => .error (.badVersion p.version error)
  else
    .error (.badName p.name)

/-- The package that a value writes. -/
def ofValue (v : Value) : Decoded Package := do
  let r ← v.toRecord .direct "struct PackageMetadata" ["name", "version"]
  let name := r.field Value.toStr "name"
  let version := r.field Value.toStr "version"
  r.settle [name.required "name", version.required "version"]
  return { name := ← name.value "name", version := ← version.value "version" }

end Package

end ClientGen
