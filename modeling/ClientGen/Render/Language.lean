import ClientGen.Render.Dart
import ClientGen.Render.Python
import ClientGen.Render.Typescript

/-!
# Files in all languages

The text of a file in the language it is meant for.
-/

namespace ClientGen

/-- The text of the file of a class. -/
def ClassFile.text (f : ClassFile) : Language → String
  | .typescript => f.typescript
  | .python => f.python
  | .dart => f.dart

/-- The text of a file of types. -/
def TypeFile.text (f : TypeFile) : Language → String
  | .typescript => f.typescript
  | .python => f.python
  | .dart => f.dart

/-- The text of the file that carries calls to the server. -/
def StubFile.text (f : StubFile) : Language → String
  | .typescript => f.typescript
  | .python => f.python
  | .dart => f.dart

end ClientGen
