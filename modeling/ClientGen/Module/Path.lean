import ClientGen.Target.Language
import ClientGen.Text.Whitespace

/-!
# Paths of modules

A module path is a list of names joined by slashes, relative to the directory of the
library. The home of a declaration is brought into that form: empty names and the names
`.` and `..` are left out, so that no module lies outside the directory.
-/

namespace ClientGen.Module

/-- Whether a character is a slash. -/
def isSlash (c : Char) : Bool := c = '/'

/-- The names between slashes. -/
def segments (path : String) : List (List Char) :=
  Text.split isSlash path.toList

/-- The path of names. -/
def ofSegments (names : List (List Char)) : String :=
  String.ofList (Text.join ['/'] names)

/-- Whether a name stands for a file or a directory below. -/
def isProper (name : List Char) : Bool :=
  name ≠ [] && name ≠ ['.'] && name ≠ ['.', '.']

/-- The text without leading pairs of a dot and a slash. -/
def dropHere : List Char → List Char
  | '.' :: '/' :: cs => dropHere cs
  | cs => cs

/-- The module path of the home of a declaration. White space around it is left out. -/
def normalize (home : String) : String :=
  let cs := (dropHere (Text.trim home.toList)).dropWhile isSlash
  ofSegments ((Text.split isSlash cs).filter isProper)

/-- Whether a home climbs out of a directory: one of its names, between slashes or
backslashes and without white space around it, is `..`. -/
def climbs (home : String) : Bool :=
  (Text.split (fun c => c = '/' || c = '\\') home.toList).any fun name =>
    Text.trim name = ['.', '.']

/-- The number of names that two lists have in common at their start. -/
def commonLength : List (List Char) → List (List Char) → Nat
  | a :: as, b :: bs => if a = b then commonLength as bs + 1 else 0
  | _, _ => 0

/-- The way from one module to another: how many directories up, and the names down. -/
structure Route where
  ups : Nat
  names : List (List Char)
deriving DecidableEq

/-- The way from one module to another. -/
def route (source target : String) : Route :=
  let sourceNames := (segments source).filter (· ≠ [])
  let targetNames := (segments target).filter (· ≠ [])
  let directory := sourceNames.dropLast
  let common := commonLength directory targetNames.dropLast
  ⟨directory.length - common, targetNames.drop common⟩

/-- The path down the names of a route. -/
def Route.rest (r : Route) : String :=
  ofSegments r.names

/-- A text repeated `n` times. -/
def repeated (n : Nat) (text : String) : String :=
  String.join (List.replicate n text)

/-- How a module names another one in an import. -/
def importPath (lang : Language) (source target : String) : String :=
  let r := route source target
  match lang with
  | .typescript => if r.ups = 0 then "./" ++ r.rest else repeated r.ups "../" ++ r.rest
  | .python =>
    repeated (r.ups + 1) "."
      ++ String.ofList (r.rest.toList.map fun c => if isSlash c then '.' else c)
  | .dart => repeated r.ups "../" ++ r.rest ++ ".dart"

end ClientGen.Module
