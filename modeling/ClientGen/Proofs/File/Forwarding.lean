import ClientGen.Generation.ClassFile
import ClientGen.Proofs.File.Parameters
import ClientGen.Proofs.Target.Spelling
import ClientGen.Render.Language
import ClientGen.Resolution.Fresh
import Mathlib.Tactic.Use

/-!
# Calls of the transport

Each method of a class calls a member of the class that holds the transport, an object of the
stub. It gets at the member by the name of the class in TypeScript, by the first parameter in
Python, and by the name of the member alone in Dart. The templates fix these names, while a
program chooses those of the class, of its methods and of their parameters. So a program may
give the names that a call relies on another meaning, and exactly those programs are told that
do not.
-/

namespace ClientGen

open Render

/-! ### The names that a call relies on -/

namespace Language

/-- The member of a class that holds the transport. -/
def transport : Language → String
  | .typescript => "remote"
  | .python | .dart => "_remote"

/-- The name with which the expression for the transport starts. -/
def receiver (lang : Language) (className : String) : String :=
  match lang with
  | .typescript => className
  | .python => "cls"
  | .dart => lang.transport

/-- The expression for the transport within a method. -/
def transportText (lang : Language) (className : String) : String :=
  match lang with
  | .typescript | .python => lang.receiver className ++ "." ++ lang.transport
  | .dart => lang.receiver className

/-- The definition of the transport in the body of a class. -/
def transportDefinition (lang : Language) (className : String) : String :=
  match lang with
  | .typescript =>
    "private static readonly " ++ lang.transport ++ " = new " ++ Fresh.stubName ++ "(\""
      ++ className ++ "\");"
  | .python => lang.transport ++ " = " ++ Fresh.stubName ++ "(\"" ++ className ++ "\")"
  | .dart =>
    "static final " ++ Fresh.stubName ++ " " ++ lang.transport ++ " = " ++ Fresh.stubName
      ++ "('" ++ className ++ "');"

/-- What follows the methods of a class. -/
def classEnd : Language → String
  | .typescript | .dart => "\n\x7d\n"
  | .python => "\n"

end Language

namespace SpelledMethod

/-- The text of a method of a class. -/
def text (m : SpelledMethod) (className : String) : Language → String
  | .typescript => m.typescript className
  | .python => m.python
  | .dart => m.dart

/-- The call of the transport up to the name of the method. -/
def callText (m : SpelledMethod) (className : String) (lang : Language) : String :=
  "await " ++ lang.transportText className ++ ".call(" ++ m.qualifiedName

/-- The arguments of the call after the name of the method, and what follows the call. -/
def callEnd (m : SpelledMethod) : Language → String
  | .typescript => m.argumentsText ++ ");\n  \x7d"
  | .python => m.argumentsText ++ ")"
  | .dart =>
    ", [" ++ (each m.arguments fun a => a.name ++ separator ", " a.isLast) ++ "]);\n  \x7d"

/-- A method ends with the call of the transport. -/
theorem exists_text_eq (m : SpelledMethod) (className : String) (lang : Language) :
  ∃ head, m.text className lang = head ++ m.callText className lang ++ m.callEnd lang
  := by
  cases lang with
  | typescript =>
    refine ⟨"\n" ++ only (!m.doc.isEmpty) ("\n" ++ typescriptDoc "  " m.doc)
      ++ "\n  static async " ++ m.name ++ "(" ++ each m.parameters SpelledParameter.typescript
      ++ "): " ++ m.returnType ++ " \x7b\n    return ", ?_⟩
    have hreturn : " \x7b\n    return await " = " \x7b\n    return " ++ "await " := by decide
    have hcall : ".remote.call(" = "." ++ Language.typescript.transport ++ ".call(" := by decide
    unfold text typescript callText callEnd Language.transportText Language.receiver
    rw [hreturn, hcall]
    simp only [String.append_assoc]
  | python =>
    refine ⟨"\n\n    @classmethod\n    async def " ++ m.name ++ "(cls"
      ++ each m.parameters SpelledParameter.python ++ ") -> " ++ m.returnType ++ ":"
      ++ pythonDoc "        " m.doc ++ "\n        return ", ?_⟩
    have hcall : "\n        return await cls._remote.call("
        = "\n        return " ++ ("await " ++ ("cls" ++ "." ++ Language.python.transport)
          ++ ".call(") := by decide
    unfold text python callText callEnd Language.transportText Language.receiver
    rw [hcall]
    simp only [String.append_assoc]
  | dart =>
    refine ⟨"\n" ++ dartDoc "  " m.doc ++ "\n  static " ++ m.returnType ++ " " ++ m.name ++ "("
      ++ each m.parameters (SpelledParameter.dart m.hasOptional) ++ ") async \x7b\n    "
      ++ only m.returnsValue "return ", ?_⟩
    have hcall : "await _remote.call(" = "await " ++ Language.dart.transport ++ ".call(" := by
      decide
    have hend : "]);\n  \x7d" = "]);" ++ "\n  \x7d" := by decide
    unfold text dart dartCall callText callEnd Language.transportText Language.receiver
    rw [hcall, hend]
    simp only [String.append_assoc]

end SpelledMethod

/-- The body of a class is the definition of the transport and then the methods. -/
theorem ClassFile.exists_text_eq_body (f : ClassFile) (lang : Language) :
  ∃ head, f.text lang
    = head ++ lang.transportDefinition f.name
      ++ (each f.methods fun m => m.text f.name lang) ++ lang.classEnd
  := by
  cases lang with
  | typescript =>
    refine ⟨"// " ++ origin f.package ++ "\nimport \x7b Remote \x7d from \"" ++ f.stubPath ++ "\";"
      ++ each f.imports (ImportStatement.typescript "import")
      ++ only (!f.reexports.isEmpty)
        ("\n" ++ each f.reexports (ImportStatement.typescript "export"))
      ++ each f.declarations SpelledDeclaration.typescriptBlock
      ++ "\n\n" ++ only (!f.doc.isEmpty) (typescriptDoc "" f.doc ++ "\n")
      ++ "export class " ++ f.name ++ " \x7b\n  ", ?_⟩
    have hdefinition : " \x7b\n  private static readonly remote = new Remote(\""
        = " \x7b\n  " ++ ("private static readonly " ++ Language.typescript.transport
          ++ " = new " ++ Fresh.stubName ++ "(\"") := by decide
    unfold text ClassFile.typescript Language.transportDefinition Language.classEnd
    rw [hdefinition]
    simp only [String.append_assoc]
    rfl
  | python =>
    refine ⟨pythonPreamble f.package ++ "\n\nfrom " ++ f.stubPath ++ " import Remote"
      ++ each f.reexports ImportStatement.pythonExport
      ++ pythonAnnotationImports f.annotationImports
      ++ each f.declarations SpelledDeclaration.pythonBlock
      ++ "\n\n\nclass " ++ f.name ++ ":" ++ pythonDoc "    " f.doc ++ "\n\n    ", ?_⟩
    have hdefinition : "\n\n    _remote = Remote(\""
        = "\n\n    " ++ (Language.python.transport ++ " = " ++ Fresh.stubName ++ "(\"") := by
      decide
    unfold text ClassFile.python Language.transportDefinition Language.classEnd
    rw [hdefinition]
    simp only [String.append_assoc]
    rfl
  | dart =>
    refine ⟨"// " ++ origin f.package ++ "\nimport '" ++ f.stubPath ++ "';"
      ++ each f.imports ImportStatement.dart
      ++ each f.reexports (ImportStatement.dartShow "export")
      ++ each f.imports ImportStatement.dartTypedefs
      ++ each f.declarations SpelledDeclaration.dartBlock
      ++ "\n" ++ dartDoc "" f.doc ++ "\nclass " ++ f.name ++ " \x7b\n  ", ?_⟩
    have hdefinition : " \x7b\n  static final Remote _remote = Remote('"
        = " \x7b\n  " ++ ("static final " ++ Fresh.stubName ++ " " ++ Language.dart.transport
          ++ " = " ++ Fresh.stubName ++ "('") := by decide
    unfold text ClassFile.dart Language.transportDefinition Language.classEnd
    rw [hdefinition]
    simp only [String.append_assoc]
    rfl

/-! ### Names with another meaning -/

/-- The names that the calls of a class rely on keep their meaning in its file: no parameter is
spelled like the receiver, no method like the member that holds the transport, and the class is
not called like the stub. -/
structure ClassFile.KeepsTransport (f : ClassFile) (lang : Language) : Prop where
  receiver : ∀ m ∈ f.methods, ∀ p ∈ m.parameters, p.name ≠ lang.receiver f.name
  transport : ∀ m ∈ f.methods, m.name ≠ lang.transport
  stub : f.name ≠ Fresh.stubName

namespace Language

/-- Whether a parameter hides the receiver of the calls of a class. In Python the receiver is a
reserved word. -/
def hidesReceiver (lang : Language) (className parameter : String) : Prop :=
  match lang with
  | .typescript =>
    (parameter ∈ lang.reservedWords ∧ className = parameter ++ "_")
      ∨ (parameter ∉ lang.reservedWords ∧ className = parameter)
  | .python => False
  | .dart => parameter = lang.transport

theorem sanitize_eq_receiver_iff (lang : Language) (className parameter : String) :
  lang.sanitize parameter = lang.receiver className ↔ lang.hidesReceiver className parameter
  := by
  rw [sanitize_eq]
  cases lang with
  | typescript =>
    rw [hidesReceiver, receiver, avoid]
    by_cases hword : parameter ∈ Language.typescript.reservedWords <;>
      simp [hword, eq_comm (a := className)]
  | python =>
    have hcls : "cls" ∈ Language.python.reservedWords := by decide
    rw [hidesReceiver, receiver, avoid_eq_iff (by decide)]
    simp [hcls]
  | dart =>
    have hfree : Language.dart.transport ∉ Language.dart.reservedWords := by decide
    rw [hidesReceiver, receiver, avoid_eq_iff (by decide)]
    simp [hfree]

theorem methodName_eq_transport_iff (lang : Language) (name : String) :
  lang.methodName name = lang.transport ↔ name = lang.transport
  := by
  have hfree : lang.transport ∉ lang.reservedWords := by cases lang <;> decide
  have hlast : lang.transport.toList.getLast? ≠ some '_' := by cases lang <;> decide
  cases lang with
  | typescript => rfl
  | python | dart => rw [methodName, sanitize_eq, avoid_eq_iff hlast, and_iff_left hfree]

end Language

/-- No parameter of a spelled method is the receiver exactly when none of the method hides it. -/
theorem Language.forall_name_ne_receiver_iff (lang : Language) (renames : Renames)
    (className : String) (m : Method) :
  (∀ p ∈ (lang.spellMethod renames className m).parameters, p.name ≠ lang.receiver className)
    ↔ ∀ p ∈ m.parameters, ¬ lang.hidesReceiver className p.name
  := by
  have hnames : (lang.spellMethod renames className m).parameters.map SpelledParameter.name
      = m.parameters.map fun p => lang.sanitize p.name :=
    lang.map_name_spellParameters renames m.parameters
  have hspelled := List.forall_mem_map (f := SpelledParameter.name)
    (l := (lang.spellMethod renames className m).parameters)
    (P := fun name => name ≠ lang.receiver className)
  rw [← hspelled, hnames, List.forall_mem_map]
  apply forall₂_congr
  intro p _
  rw [Ne, lang.sanitize_eq_receiver_iff]

/-- The file of a class defines the transport by an object of the stub, and each of its methods
ends with a call of the transport. The names that these calls rely on keep their meaning exactly
when the class is not called like the stub, no method is called like the transport, and no
parameter hides the receiver. -/
theorem Options.keepsTransport_iff (o : Options) (c : RemoteClass) (methods : List Method)
    (imports : ClassImports) :
  let f := o.classFile c methods imports
  (∃ head, f.text o.language
      = head ++ o.language.transportDefinition c.name
        ++ (each f.methods fun m => m.text c.name o.language) ++ o.language.classEnd)
    ∧ (∀ m ∈ f.methods, ∃ head, m.text c.name o.language
      = head ++ m.callText c.name o.language ++ m.callEnd o.language)
    ∧ (f.KeepsTransport o.language
      ↔ c.name ≠ Fresh.stubName
        ∧ ∀ m ∈ methods, m.name ≠ o.language.transport
          ∧ ∀ p ∈ m.parameters, ¬ o.language.hidesReceiver c.name p.name)
  := by
  intro f
  have hmethods : f.methods = methods.map (o.language.spellMethod imports.renames c.name) := rfl
  have hname : ∀ m, (o.language.spellMethod imports.renames c.name m).name
      ≠ o.language.transport ↔ m.name ≠ o.language.transport := fun m =>
    not_congr (o.language.methodName_eq_transport_iff m.name)
  have hparameters := o.language.forall_name_ne_receiver_iff imports.renames c.name
  use f.exists_text_eq_body o.language
  use fun m _ => m.exists_text_eq c.name o.language
  constructor
  · rintro ⟨hreceiver, htransport, hstub⟩
    rw [hmethods, List.forall_mem_map] at hreceiver htransport
    use hstub
    intro m hm
    exact ⟨(hname m).mp (htransport m hm), (hparameters m).mp (hreceiver m hm)⟩
  · rintro ⟨hstub, hfree⟩
    constructor
    · rw [hmethods, List.forall_mem_map]
      intro m hm
      apply (hparameters m).mpr (hfree m hm).2
    · rw [hmethods, List.forall_mem_map]
      intro m hm
      apply (hname m).mpr (hfree m hm).1
    · apply hstub

namespace Example

/-- A class with a method that is called like the transport, and a parameter of it that is called
like the class. -/
def remoteDevices : RemoteClass where
  name := "Devices"
  methods := [{
    name := "remote"
    parameters := [{ name := "Devices", type := .primitive .string }]
    returnType := .primitive .void }]

end Example

/-- The names that the calls of a class rely on can have another meaning in its file. -/
theorem Options.not_keepsTransport_remoteDevices :
  ¬ ∀ (o : Options) (c : RemoteClass) (methods : List Method) (imports : ClassImports),
      (o.classFile c methods imports).KeepsTransport o.language
  := by
  intro h
  have hkeeps := h { language := .typescript } Example.remoteDevices Example.remoteDevices.methods {}
  apply hkeeps.transport _ List.mem_cons_self
  decide

end ClientGen
