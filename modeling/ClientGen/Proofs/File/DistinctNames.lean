import ClientGen.Generation.ClassFile
import ClientGen.Proofs.File.Parameters
import ClientGen.Proofs.Target.Spelling

/-!
# Distinct names of members

The parameters of a method, the fields of a declaration, the cases of an enumeration and the
methods of a class have different names exactly when the names that they are spelled from are
different, and none of these is a word that the language keeps for itself, beside which the
word with an underscore stands.
-/

namespace ClientGen

/-- The names of the fields or of the cases of a declaration. -/
def SpelledDeclaration.memberNames : SpelledDeclaration → List String
  | .struct _ fields => fields.map SpelledField.name
  | .typeAlias _ _ => []
  | .enumeration _ _ _ cases => cases.map SpelledCase.name

namespace Language

variable (lang : Language) (renames : Renames)

theorem map_name_parameters_spellMethod (className : String) (m : Method) :
  (lang.spellMethod renames className m).parameters.map SpelledParameter.name
    = (m.parameters.map Parameter.name).map (lang.spellName .parameter)
  := by
  rw [List.map_map]
  apply lang.map_name_spellParameters renames m.parameters

theorem memberNames_struct (name : String) (properties : List (Property TypeNode))
    (home : Option String) :
  (lang.spellDeclaration renames (.struct name properties home)).memberNames
    = (properties.map Property.name).map (lang.spellName .field)
  := by
  rw [spellDeclaration, SpelledDeclaration.memberNames, map_mapLast, List.map_map]
  apply mapLast_const

theorem memberNames_enumeration (name : String) (cases : List EnumCase)
    (home : Option String) :
  (lang.spellDeclaration renames (.enumeration name cases home)).memberNames
    = (cases.map EnumCase.name).map (lang.spellName .enumCase)
  := by
  rw [spellDeclaration, SpelledDeclaration.memberNames, map_mapLast, List.map_map]
  apply mapLast_const

end Language

theorem Options.map_name_methods_classFile (o : Options) (c : RemoteClass)
    (methods : List Method) (imports : ClassImports) :
  (o.classFile c methods imports).methods.map SpelledMethod.name
    = (methods.map Method.name).map (o.language.spellName .method)
  := by
  rw [classFile, List.map_map, List.map_map]
  rfl

/-- In every language and under all names of declarations, the parameters of a method, the
fields of a declaration, the cases of an enumeration and the methods of the file of a class
have different names exactly when the names they are spelled from are apart: when these are
different, and no word that is given an underscore stands beside the word with an underscore. -/
theorem Options.nodup_spelledNames_iff (o : Options) (renames : Renames) :
  (∀ className m,
      ((o.language.spellMethod renames className m).parameters.map SpelledParameter.name).Nodup
        ↔ o.language.Apart .parameter (m.parameters.map Parameter.name))
    ∧ (∀ name properties home,
      (o.language.spellDeclaration renames (.struct name properties home)).memberNames.Nodup
        ↔ o.language.Apart .field (properties.map Property.name))
    ∧ (∀ name cases home,
      (o.language.spellDeclaration renames (.enumeration name cases home)).memberNames.Nodup
        ↔ o.language.Apart .enumCase (cases.map EnumCase.name))
    ∧ ∀ c methods imports,
      ((o.classFile c methods imports).methods.map SpelledMethod.name).Nodup
        ↔ o.language.Apart .method (methods.map Method.name)
  := by
  and_intros
  · intro className m
    rw [o.language.map_name_parameters_spellMethod]
    apply o.language.nodup_map_spellName_iff
  · intro name properties home
    rw [o.language.memberNames_struct]
    apply o.language.nodup_map_spellName_iff
  · intro name cases home
    rw [o.language.memberNames_enumeration]
    apply o.language.nodup_map_spellName_iff
  · intro c methods imports
    rw [o.map_name_methods_classFile]
    apply o.language.nodup_map_spellName_iff

namespace Example

/-- A method with a parameter that is a reserved word in every language, and one that is the
word with an underscore. -/
def enroll : Method where
  name := "enroll"
  parameters := [
    { name := "class", type := .primitive .string },
    { name := "class_", type := .primitive .string }]
  returnType := .primitive .void

end Example

/-- Different parameters of a method have the same name once they are spelled. -/
theorem Language.not_nodup_spelledNames_enroll :
  ¬ ∀ (lang : Language) (renames : Renames) (className : String) (m : Method),
      (m.parameters.map Parameter.name).Nodup →
      ((lang.spellMethod renames className m).parameters.map SpelledParameter.name).Nodup
  := by
  intro h
  have hnodup := h .typescript [] "Pupils" Example.enroll (by decide)
  revert hnodup
  decide

end ClientGen
