import ClientGen.File.Import
import ClientGen.File.Method
import ClientGen.Options.Package

/-!
# Files

What the files of a client library hold: the file of a class, the file of the types that
have it as their home, and the file that carries calls to the server.
-/

namespace ClientGen

/-- What the file of a class holds. The names of `reexports` are exported again, and those
of `annotationImports` are needed for the types of signatures only. -/
structure ClassFile where
  name : String
  doc : List String
  path : String
  package : Package
  stubPath : String
  imports : List ImportStatement
  annotationImports : List ImportStatement
  reexports : List ImportStatement
  declarations : List SpelledDeclaration
  methods : List SpelledMethod
deriving DecidableEq

/-- What a file of types holds. -/
structure TypeFile where
  path : String
  package : Package
  imports : List ImportStatement
  declarations : List SpelledDeclaration
deriving DecidableEq

/-- What the file that carries calls holds. -/
structure StubFile where
  package : Package
deriving DecidableEq

end ClientGen
