import ClientGen.Render.Basic

/-!
# Python

The texts of files in Python. The types in signatures are not evaluated, so what only they
need is imported for type checkers alone.
-/

namespace ClientGen

open Render

/-! ### Declarations -/

/-- A field. One that may be left out has the default `None`. -/
def SpelledField.python (f : SpelledField) : String :=
  "\n    " ++ f.name ++ ": " ++ f.type ++ only f.isOptional " = None"

/-- A case. -/
def SpelledCase.python (c : SpelledCase) : String :=
  "\n    " ++ c.name ++ " = " ++ c.value

/-- The body of a class, which may not be empty. -/
def pythonBody (text : String) (isEmpty : Bool) : String :=
  if isEmpty then "\n    pass" else text

/-- A declaration. -/
def SpelledDeclaration.python : SpelledDeclaration → String
  | .struct name fields =>
    "@dataclass(kw_only=True)\nclass " ++ name ++ ":"
      ++ pythonBody (each fields SpelledField.python) fields.isEmpty
  | .typeAlias name target => name ++ ": TypeAlias = \"" ++ target ++ "\""
  | .enumeration name _ _ cases =>
    "class " ++ name ++ "(Enum):"
      ++ pythonBody (each cases SpelledCase.python) cases.isEmpty

/-- A declaration after two empty lines. -/
def SpelledDeclaration.pythonBlock (d : SpelledDeclaration) : String :=
  "\n\n\n" ++ d.python

/-! ### Statements -/

/-- An import. -/
def ImportStatement.python (s : ImportStatement) : String :=
  "from " ++ s.path ++ " import " ++ s.namesText

/-- An import that exports its names again, which an alias of the same name tells. -/
def ImportStatement.pythonExport (s : ImportStatement) : String :=
  "\nfrom " ++ s.path ++ " import "
    ++ (each s.plain fun i => i.name ++ " as " ++ i.name ++ s.plainSeparator i)
    ++ s.aliasedText

/-- Imports for type checkers. -/
def pythonAnnotationImports (statements : List ImportStatement) : String :=
  only (!statements.isEmpty)
    ("\n\nif TYPE_CHECKING:" ++ each statements fun s => "\n    " ++ s.python)

/-! ### Methods -/

/-- A documentation, each line of which stands after the given indentation. -/
def pythonDoc (indent : String) (lines : List String) : String :=
  only (!lines.isEmpty)
    ("\n" ++ indent ++ "\"\"\"" ++ (each lines fun line => "\n" ++ indent ++ line)
      ++ "\n" ++ indent ++ "\"\"\"")

/-- A parameter. One that may be left out and has no default has the default `None`. -/
def SpelledParameter.python (p : SpelledParameter) : String :=
  ", " ++ p.name ++ ": " ++ p.type ++ p.fallbackText
    ++ only (p.isOptional && p.fallbackText?.isNone) " = None"

/-- A method of a class. -/
def SpelledMethod.python (m : SpelledMethod) : String :=
  "\n\n    @classmethod\n    async def " ++ m.name ++ "(cls"
    ++ each m.parameters SpelledParameter.python ++ ") -> " ++ m.returnType ++ ":"
    ++ pythonDoc "        " m.doc
    ++ "\n        return await cls._remote.call(" ++ m.qualifiedName ++ m.argumentsText
    ++ ")"

/-! ### Files -/

/-- The start of a file that declares types. -/
def pythonPreamble (package : Package) : String :=
  "\n".intercalate [
    "# " ++ origin package,
    "from __future__ import annotations",
    "",
    "from dataclasses import dataclass",
    "from datetime import datetime",
    "from enum import Enum",
    "from typing import TYPE_CHECKING, Any, Awaitable, Dict, List, Optional, TypeAlias, Union"]

/-- The file of a class. -/
def ClassFile.python (f : ClassFile) : String :=
  pythonPreamble f.package ++ "\n\nfrom " ++ f.stubPath ++ " import Remote"
    ++ each f.reexports ImportStatement.pythonExport
    ++ pythonAnnotationImports f.annotationImports
    ++ each f.declarations SpelledDeclaration.pythonBlock
    ++ "\n\n\nclass " ++ f.name ++ ":" ++ pythonDoc "    " f.doc
    ++ "\n\n    _remote = Remote(\"" ++ f.name ++ "\")"
    ++ each f.methods SpelledMethod.python ++ "\n"

/-- A file of types. -/
def TypeFile.python (f : TypeFile) : String :=
  pythonPreamble f.package ++ pythonAnnotationImports f.imports
    ++ each f.declarations SpelledDeclaration.pythonBlock ++ "\n"

/-- The lines of the file that carries calls to the server. -/
def StubFile.pythonLines (f : StubFile) : List String := [
  "# " ++ origin f.package,
  "from __future__ import annotations",
  "",
  "import asyncio",
  "import itertools",
  "import json",
  "import urllib.request",
  "from typing import Any",
  "",
  "ENDPOINT = \"" ++ endpoint ++ "\"",
  "",
  "",
  "class RemoteError(Exception):",
  "    def __init__(self, message: str, code: int | None = None) -> None:",
  "        super().__init__(message)",
  "        self.code = code",
  "",
  "",
  "class Remote:",
  "    def __init__(self, service: str) -> None:",
  "        self._service = service",
  "        self._ids = itertools.count(1)",
  "",
  "    async def call(self, method: str, *params: Any) -> Any:",
  "        body = json.dumps(",
  "            \x7b\"jsonrpc\": \"2.0\", \"id\": next(self._ids), "
    ++ "\"method\": method, \"params\": list(params)\x7d",
  "        ).encode(\"utf-8\")",
  "        payload = await asyncio.to_thread(self._post, body)",
  "        error = payload.get(\"error\")",
  "        if error:",
  "            raise RemoteError(f\"\x7bself._service\x7d: \x7berror.get('message')\x7d\", "
    ++ "error.get(\"code\"))",
  "        return payload.get(\"result\")",
  "",
  "    @staticmethod",
  "    def _post(body: bytes) -> dict:",
  "        request = urllib.request.Request(",
  "            ENDPOINT, data=body, "
    ++ "headers=\x7b\"Content-Type\": \"application/json\"\x7d, method=\"POST\"",
  "        )",
  "        with urllib.request.urlopen(request) as response:",
  "            return json.loads(response.read().decode(\"utf-8\"))"]

/-- The file that carries calls to the server. -/
def StubFile.python (f : StubFile) : String :=
  linesText f.pythonLines

end ClientGen
