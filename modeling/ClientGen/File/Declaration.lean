import ClientGen.File.Mark
import ClientGen.Program.References
import ClientGen.Target.TypeText
import ClientGen.Text.Digits

/-!
# Spelled declarations

A declaration as it stands in a file of a target language: its names and types are
spelled, under the names that the file gives to declarations. An enumeration whose cases
are all numbers is one of numbers, and any other one is one of strings.
-/

namespace ClientGen

/-- A field as it is spelled. -/
structure SpelledField where
  name : String
  type : String
  isOptional : Bool
  isLast : Bool
deriving DecidableEq

/-- A case as it is spelled. -/
structure SpelledCase where
  name : String
  value : String
  isLast : Bool
deriving DecidableEq

/-- A declaration as it is spelled. -/
inductive SpelledDeclaration where
  | struct (name : String) (fields : List SpelledField)
  | typeAlias (name target : String)
  | enumeration (name valueType : String) (ofStrings : Bool) (cases : List SpelledCase)
deriving DecidableEq

/-- The name of a declaration. -/
def SpelledDeclaration.name : SpelledDeclaration → String
  | .struct name _ => name
  | .typeAlias name _ => name
  | .enumeration name _ _ _ => name

/-- Whether the cases of an enumeration are numbers. -/
def areNumbers (cases : List EnumCase) : Bool :=
  !cases.isEmpty && cases.all fun c => c.value.kind = .number

/-- The type of the values of cases. -/
def caseType (cases : List EnumCase) : Primitive :=
  if !areNumbers cases then .string
  else if cases.all fun c => (Text.int64? 10 c.value.text.toList).isSome then .integer
  else .double

namespace Language

/-- The spelling of a type in a file that gives other names to declarations. -/
def renamedText (lang : Language) (renames : Renames) (t : TypeNode) : String :=
  lang.typeText (t.rename renames)

/-- A property as a field. -/
def spellField (lang : Language) (renames : Renames) (p : Property TypeNode)
    (isLast : Bool) : SpelledField :=
  let text := lang.renamedText renames p.type
  { name := lang.fieldName p.name
    type := if p.isOptional then lang.optionalType text else text
    isOptional := p.isOptional
    isLast := isLast }

/-- A case of an enumeration, of numbers or of strings. -/
def spellCase (lang : Language) (ofNumbers : Bool) (c : EnumCase) (isLast : Bool) :
    SpelledCase :=
  { name := lang.enumCaseName c.name
    value := lang.literal ⟨c.value.text, if ofNumbers then .number else .string⟩
    isLast := isLast }

/-- A declaration in a file that gives other names to declarations. -/
def spellDeclaration (lang : Language) (renames : Renames) :
    Declaration → SpelledDeclaration
  | .struct name properties _ =>
    .struct (renames.apply name) (mapLast (lang.spellField renames) properties)
  | .typeAlias name target _ =>
    .typeAlias (renames.apply name) (lang.renamedText renames target)
  | .enumeration name cases _ =>
    .enumeration (renames.apply name) (lang.typeText (.primitive (caseType cases)))
      (!areNumbers cases) (mapLast (lang.spellCase (areNumbers cases)) cases)

end Language

@[simp]
theorem name_spellDeclaration (lang : Language) (renames : Renames) (d : Declaration) :
  (lang.spellDeclaration renames d).name = renames.apply d.name
  := by cases d <;> rfl

end ClientGen
