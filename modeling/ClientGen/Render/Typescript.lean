import ClientGen.Render.Basic

/-!
# TypeScript

The texts of files in TypeScript.
-/

namespace ClientGen

open Render

/-! ### Declarations -/

/-- A field. -/
def SpelledField.typescript (f : SpelledField) : String :=
  "\n  " ++ f.name ++ only f.isOptional "?" ++ ": " ++ f.type ++ ";"

/-- A case. -/
def SpelledCase.typescript (c : SpelledCase) : String :=
  "\n  " ++ c.name ++ " = " ++ c.value ++ ","

/-- A declaration. -/
def SpelledDeclaration.typescript : SpelledDeclaration → String
  | .struct name fields =>
    "export interface " ++ name ++ " \x7b" ++ each fields SpelledField.typescript
      ++ "\n\x7d"
  | .typeAlias name target => "export type " ++ name ++ " = " ++ target ++ ";"
  | .enumeration name _ _ cases =>
    "export enum " ++ name ++ " \x7b" ++ each cases SpelledCase.typescript ++ "\n\x7d"

/-- A declaration after an empty line. -/
def SpelledDeclaration.typescriptBlock (d : SpelledDeclaration) : String :=
  "\n\n" ++ d.typescript

/-! ### Statements -/

/-- A statement that starts with a given word. -/
def ImportStatement.typescript (word : String) (s : ImportStatement) : String :=
  "\n" ++ word ++ " \x7b " ++ s.namesText ++ " \x7d from \"" ++ s.path ++ "\";"

/-! ### Methods -/

/-- A documentation, each line of which stands after the given indentation. -/
def typescriptDoc (indent : String) (lines : List String) : String :=
  indent ++ "/**" ++ (each lines fun line => "\n" ++ indent ++ " * " ++ line)
    ++ "\n" ++ indent ++ " */"

/-- A parameter. One that may be left out and has no default is marked. -/
def SpelledParameter.typescript (p : SpelledParameter) : String :=
  p.name ++ only (p.isOptional && p.fallbackText?.isNone) "?" ++ ": " ++ p.type
    ++ p.fallbackText ++ separator ", " p.isLast

/-- A method of a class. -/
def SpelledMethod.typescript (className : String) (m : SpelledMethod) : String :=
  "\n" ++ only (!m.doc.isEmpty) ("\n" ++ typescriptDoc "  " m.doc)
    ++ "\n  static async " ++ m.name ++ "(" ++ each m.parameters SpelledParameter.typescript
    ++ "): " ++ m.returnType ++ " \x7b\n    return await " ++ className ++ ".remote.call("
    ++ m.qualifiedName ++ m.argumentsText ++ ");\n  \x7d"

/-! ### Files -/

/-- The file of a class. -/
def ClassFile.typescript (f : ClassFile) : String :=
  "// " ++ origin f.package
    ++ "\nimport \x7b Remote \x7d from \"" ++ f.stubPath ++ "\";"
    ++ each f.imports (ImportStatement.typescript "import")
    ++ only (!f.reexports.isEmpty)
      ("\n" ++ each f.reexports (ImportStatement.typescript "export"))
    ++ each f.declarations SpelledDeclaration.typescriptBlock
    ++ "\n\n" ++ only (!f.doc.isEmpty) (typescriptDoc "" f.doc ++ "\n")
    ++ "export class " ++ f.name ++ " \x7b\n  private static readonly remote = new Remote(\""
    ++ f.name ++ "\");" ++ each f.methods (SpelledMethod.typescript f.name) ++ "\n\x7d\n"

/-- A file of types. -/
def TypeFile.typescript (f : TypeFile) : String :=
  "// " ++ origin f.package
    ++ each f.imports (ImportStatement.typescript "import")
    ++ each f.declarations SpelledDeclaration.typescriptBlock ++ "\n"

/-- The lines of the file that carries calls to the server. -/
def StubFile.typescriptLines (f : StubFile) : List String := [
  "// " ++ origin f.package,
  "const ENDPOINT = \"" ++ endpoint ++ "\";",
  "",
  "export class RemoteError extends Error \x7b",
  "  constructor(message: string, readonly code?: number) \x7b",
  "    super(message);",
  "    this.name = \"RemoteError\";",
  "  \x7d",
  "\x7d",
  "",
  "export class Remote \x7b",
  "  private nextId = 0;",
  "",
  "  constructor(private readonly service: string) \x7b\x7d",
  "",
  "  async call(method: string, ...params: unknown[]): Promise<any> \x7b",
  "    const response = await fetch(ENDPOINT, \x7b",
  "      method: \"POST\",",
  "      headers: \x7b \"Content-Type\": \"application/json\" \x7d,",
  "      body: JSON.stringify(\x7b jsonrpc: \"2.0\", id: ++this.nextId, method, params \x7d),",
  "    \x7d);",
  "    if (!response.ok) \x7b",
  "      throw new RemoteError(\x60$\x7bthis.service\x7d: $\x7bmethod\x7d failed with HTTP "
    ++ "$\x7bresponse.status\x7d\x60);",
  "    \x7d",
  "    const payload = await response.json();",
  "    if (payload.error) \x7b",
  "      throw new RemoteError(\x60$\x7bthis.service\x7d: $\x7bpayload.error.message\x7d\x60, "
    ++ "payload.error.code);",
  "    \x7d",
  "    return payload.result;",
  "  \x7d",
  "\x7d"]

/-- The file that carries calls to the server. -/
def StubFile.typescript (f : StubFile) : String :=
  linesText f.typescriptLines

end ClientGen
