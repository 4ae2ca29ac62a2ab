import ClientGen.Render.Language
import ClientGen.Resolution.Graph

/-!
# Statements of Python files

A Python file is a list of statements at its top: comments, imports from the library of the
language, imports from other written files, imports that type checkers alone read, and
definitions. The texts of the files of classes, of the files of types and of the stub are
those of their statements, so the imports that run when a file is loaded can be told from
the statements.
-/

namespace ClientGen

open Render

/-- An import from the library of the language. -/
inductive PythonLibrary where
  | annotations
  | dataclass
  | datetime
  | enum
  | types
  | anyType
  | asyncio
  | itertools
  | json
  | request

/-- The text of an import from the library. -/
def PythonLibrary.text : PythonLibrary → String
  | .annotations => "from __future__ import annotations"
  | .dataclass => "from dataclasses import dataclass"
  | .datetime => "from datetime import datetime"
  | .enum => "from enum import Enum"
  | .types =>
    "from typing import TYPE_CHECKING, Any, Awaitable, Dict, List, Optional, TypeAlias, Union"
  | .anyType => "from typing import Any"
  | .asyncio => "import asyncio"
  | .itertools => "import itertools"
  | .json => "import json"
  | .request => "import urllib.request"

/-- A statement at the top of a Python file. A written file is told by its module, and a
block for type checkers by the modules and the names that it takes. -/
inductive PythonStatement where
  | comment (text : String)
  | library (name : PythonLibrary)
  | sibling (provider names : String)
  | checked (imports : List (String × String))
  | definition (text : String)

namespace PythonStatement

/-- An import of names from the module of a written file, as the module at `path` writes it. -/
def importText (path provider names : String) : String :=
  "from " ++ Module.importPath .python path provider ++ " import " ++ names

/-- The block of imports for type checkers, as the module at `path` writes it. -/
def checkedText (path : String) (imports : List (String × String)) : String :=
  "if TYPE_CHECKING:"
    ++ each imports fun (provider, names) => "\n    " ++ importText path provider names

/-- The text of a statement in the module at `path`. -/
def text (path : String) : PythonStatement → String
  | comment text => text
  | library name => name.text
  | sibling provider names => importText path provider names
  | checked imports => checkedText path imports
  | definition text => text

end PythonStatement

/-- A Python file: its module, and its statements, each with the gap before it. -/
structure PythonModule where
  path : String
  statements : List (String × PythonStatement)

namespace PythonModule

/-- The text of a file. -/
def text (m : PythonModule) : String :=
  (each m.statements fun (gap, s) => gap ++ s.text m.path) ++ "\n"

end PythonModule

namespace Render

theorem linesText_cons (line : String) (lines : List String) :
  linesText (line :: lines) = (line ++ each lines fun line => "\n" ++ line) ++ "\n"
  := by
  induction lines generalizing line with
  | nil => simp [linesText, each_cons, each_nil]
  | cons next lines ih =>
    have hnext : linesText (line :: next :: lines)
        = (line ++ "\n") ++ linesText (next :: lines) := each_cons _ _ _
    rw [hnext, ih, each_cons]
    simp only [String.append_assoc]

end Render

/-! ### Statements of files -/

/-- The statements at the start of a file that declares types. -/
def pythonPreambleStatements (package : Package) : List (String × PythonStatement) := [
  ("", .comment ("# " ++ origin package)),
  ("\n", .library .annotations),
  ("\n\n", .library .dataclass),
  ("\n", .library .datetime),
  ("\n", .library .enum),
  ("\n", .library .types)]

/-- The names of a statement that exports them again. -/
def ImportStatement.exportsText (s : ImportStatement) : String :=
  (each s.plain fun i => i.name ++ " as " ++ i.name ++ s.plainSeparator i) ++ s.aliasedText

/-- The block for type checkers, if there is anything in it. -/
def checkedStatements (imports : List (String × ImportStatement)) :
    List (String × PythonStatement) :=
  if imports.isEmpty then []
  else [("\n\n", .checked (imports.map fun (provider, s) => (provider, s.namesText)))]

/-- The definitions of declarations. -/
def definitionStatements (declarations : List SpelledDeclaration) :
    List (String × PythonStatement) :=
  declarations.map fun d => ("\n\n\n", .definition d.python)

/-- The definition of a class. -/
def ClassFile.pythonClass (f : ClassFile) : String :=
  "class " ++ f.name ++ ":" ++ pythonDoc "    " f.doc
    ++ "\n\n    _remote = Remote(\"" ++ f.name ++ "\")"
    ++ each f.methods SpelledMethod.python

/-- The file of a class, the exports and the imports of which are given with their
providers. -/
def ClassFile.pythonModule (f : ClassFile)
    (reexports annotationImports : List (String × ImportStatement)) : PythonModule where
  path := f.path
  statements := pythonPreambleStatements f.package
    ++ [("\n\n", .sibling Language.python.stubModule "Remote")]
    ++ reexports.map (fun (provider, s) => ("\n", .sibling provider s.exportsText))
    ++ checkedStatements annotationImports
    ++ definitionStatements f.declarations
    ++ [("\n\n\n", .definition f.pythonClass)]

/-- A file of types, the imports of which are given with their providers. -/
def TypeFile.pythonModule (f : TypeFile) (imports : List (String × ImportStatement)) :
    PythonModule where
  path := f.path
  statements := pythonPreambleStatements f.package ++ checkedStatements imports
    ++ definitionStatements f.declarations

/-- The file that carries calls to the server. -/
def StubFile.pythonModule (f : StubFile) : PythonModule where
  path := Language.python.stubModule
  statements := [
    ("", .comment ("# " ++ origin f.package)),
    ("\n", .library .annotations),
    ("\n\n", .library .asyncio),
    ("\n", .library .itertools),
    ("\n", .library .json),
    ("\n", .library .request),
    ("\n", .library .anyType)]
    ++ (f.pythonLines.drop 8).map fun line => ("\n", .definition line)

/-! ### Texts of files -/

/-- The statements name the modules of their providers as the module at `path` does. -/
def NamesProviders (path : String) (statements : List (String × ImportStatement)) : Prop :=
  ∀ p ∈ statements, p.2.path = Module.importPath .python path p.1

section Texts

variable {path : String}

theorem each_preambleStatements (package : Package) :
  (each (pythonPreambleStatements package) fun (gap, s) => gap ++ s.text path)
    = pythonPreamble package
  := by
  have hgap : "\n\n" = "\n" ++ "\n" := rfl
  rw [pythonPreamble, intercalate_cons]
  simp only [pythonPreambleStatements, each_cons, each_nil, PythonStatement.text,
    PythonLibrary.text, hgap, String.append_assoc, String.empty_append, String.append_empty]

theorem each_checkedStatements {imports : List (String × ImportStatement)}
    (h : NamesProviders path imports) :
  (each (checkedStatements imports) fun (gap, s) => gap ++ s.text path)
    = pythonAnnotationImports (imports.map Prod.snd)
  := by
  cases imports with
  | nil => rfl
  | cons p imports =>
    have himports : ∀ q ∈ p :: imports, PythonStatement.importText path q.1 q.2.namesText
        = q.2.python := by
      intro q hq
      rw [PythonStatement.importText, ← h q hq, ImportStatement.python]
    rw [checkedStatements, if_neg (by simp), each_cons, each_nil, String.append_empty]
    dsimp only
    have hhead : "\n\nif TYPE_CHECKING:" = "\n\n" ++ "if TYPE_CHECKING:" := rfl
    rw [PythonStatement.text]
    unfold PythonStatement.checkedText
    rw [each_map, pythonAnnotationImports, only, if_pos (by simp), each_map, hhead,
      String.append_assoc]
    apply congrArg (fun rest => "\n\n" ++ ("if TYPE_CHECKING:" ++ rest))
    apply each_congr
    intro q hq
    exact congrArg ("\n    " ++ ·) (himports q hq)

theorem each_exports {reexports : List (String × ImportStatement)}
    (h : NamesProviders path reexports) :
  (each (reexports.map fun (provider, s) =>
      ("\n", PythonStatement.sibling provider s.exportsText)) fun (gap, s) =>
        gap ++ s.text path)
    = each (reexports.map Prod.snd) ImportStatement.pythonExport
  := by
  rw [each_map, each_map]
  apply each_congr
  intro p hp
  dsimp only
  rw [PythonStatement.text, PythonStatement.importText, ← h p hp, ImportStatement.pythonExport]
  simp only [ImportStatement.exportsText, String.append_assoc]
  rfl

theorem each_definitionStatements (declarations : List SpelledDeclaration) :
  (each (definitionStatements declarations) fun (gap, s) => gap ++ s.text path)
    = each declarations SpelledDeclaration.pythonBlock
  := by
  rw [definitionStatements, each_map]
  rfl

end Texts

/-- The text of the file of a class is that of its statements. -/
theorem ClassFile.python_eq_text {f : ClassFile}
    {reexports annotationImports : List (String × ImportStatement)}
    (hstub : f.stubPath = Module.importPath .python f.path Language.python.stubModule)
    (hreexports : reexports.map Prod.snd = f.reexports)
    (hexports : NamesProviders f.path reexports)
    (hannotations : annotationImports.map Prod.snd = f.annotationImports)
    (himports : NamesProviders f.path annotationImports) :
  f.python = (f.pythonModule reexports annotationImports).text
  := by
  have hfrom : "\n\nfrom " = "\n\n" ++ "from " := rfl
  have hremote : " import Remote" = " import " ++ "Remote" := rfl
  have hclass : "\n\n\nclass " = "\n\n\n" ++ "class " := rfl
  unfold python
  rw [PythonModule.text, pythonModule]
  simp only [each_append]
  rw [each_preambleStatements, each_exports hexports, each_checkedStatements himports,
    each_definitionStatements, hreexports, hannotations]
  unfold pythonClass
  simp only [each_cons, each_nil, PythonStatement.text, PythonStatement.importText, ← hstub,
    hfrom, hremote, hclass, String.append_assoc, String.append_empty]

/-- The text of a file of types is that of its statements. -/
theorem TypeFile.python_eq_text {f : TypeFile} {imports : List (String × ImportStatement)}
    (himports : imports.map Prod.snd = f.imports) (h : NamesProviders f.path imports) :
  f.python = (f.pythonModule imports).text
  := by
  rw [PythonModule.text, pythonModule]
  simp only [each_append]
  rw [each_preambleStatements, each_checkedStatements h, each_definitionStatements, himports,
    python]

/-- The text of the stub is that of its statements. -/
theorem StubFile.python_eq_text (f : StubFile) :
  f.python = f.pythonModule.text
  := by
  have hlines : f.pythonLines = ("# " ++ origin f.package) :: ([
      "from __future__ import annotations", "", "import asyncio", "import itertools",
      "import json", "import urllib.request", "from typing import Any"]
      ++ f.pythonLines.drop 8) := rfl
  have hgap : "\n\n" = "\n" ++ "\n" := rfl
  conv => lhs; rw [python, hlines, linesText_cons, each_append]
  rw [PythonModule.text, pythonModule, each_append, each_map]
  simp only [each_cons, each_nil, PythonStatement.text, PythonLibrary.text, hgap,
    String.append_assoc, String.append_empty, String.empty_append]

/-! ### What is loaded -/

end ClientGen
