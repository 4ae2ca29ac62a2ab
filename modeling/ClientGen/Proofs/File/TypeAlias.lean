import ClientGen.Proofs.Target.Identifiers
import ClientGen.Proofs.Target.PythonString
import ClientGen.Proofs.Text.Separators
import ClientGen.Render.Python

/-!
# Type aliases in Python

The type of an alias stands between quotation marks as it is spelled. What a program gives of it are
the names of declarations and raw types, and the rest is brackets, commas, spaces and names of the
language. So what alters the value of the string stands in one of these words, but for a backslash
at the end of the type.
-/

namespace ClientGen

open Text

namespace TypeNode

mutual

/-- What a program gives of a type in Python: the names of declarations and raw types. -/
def pythonWords : TypeNode → List String
  | .array element => pythonWords element
  | .map key value => pythonWords key ++ pythonWords value
  | .promise result => pythonWords result
  | .union variants => variantPythonWords variants
  | .declared d => [d.name]
  | .custom text => [text]
  | .primitive _ | .object _ | .unknown => []

/-- What a program gives of variants in Python. -/
def variantPythonWords : List TypeNode → List String
  | [] => []
  | variant :: variants => pythonWords variant ++ variantPythonWords variants

end

end TypeNode

/-- Whether a character stands between the words of a type in Python. -/
def isPythonSeparator (c : Char) : Bool :=
  ['[', ']', ',', ' '].contains c

/-! ### Words of spelled types -/

namespace TypeNode

section

variable {P : List Char → Prop} (h : SplitsAt isPythonSeparator P)
  (hbuiltin : ∀ name ∈ Language.python.builtinNames, ¬ P name.toList)

include h hbuiltin

theorem enclosed_python_iff {opening : String} (name : String)
    (hname : name ∈ Language.python.builtinNames) (hopening : opening = name ++ "[")
    (text : String) :
  P (opening ++ text ++ "]").toList ↔ P text.toList
  := by
  have hlist : (opening ++ text ++ "]").toList = name.toList ++ '[' :: (text.toList ++ [']']) := by
    simp [hopening]
  have hend : [']'].all isPythonSeparator := by decide
  rw [hlist, h.append_cons_iff _ (by decide), or_iff_right (hbuiltin name hname),
    h.append_separators_iff hend]

theorem pair_python_iff (key value : String) :
  P ("Dict[" ++ key ++ ", " ++ value ++ "]").toList ↔ P key.toList ∨ P value.toList
  := by
  have hlist : ("Dict[" ++ key ++ ", " ++ value ++ "]").toList
      = "Dict".toList ++ '[' :: (key.toList ++ ',' :: ' ' :: (value.toList ++ [']'])) := by
    have hopening : "Dict[" = "Dict" ++ "[" := by decide
    simp [hopening]
  have hend : [']'].all isPythonSeparator := by decide
  rw [hlist, h.append_cons_iff _ (by decide), or_iff_right (hbuiltin "Dict" (by decide)),
    h.append_cons_iff _ (by decide), h.cons_iff (by decide), h.append_separators_iff hend]

theorem pythonUnion_iff (nothing : Bool) (texts : List String) :
  P (pythonUnion nothing texts).toList ↔ ∃ text ∈ texts, P text.toList
  := by
  have hoptional : ∀ text : String, P (if nothing then "Optional[" ++ text ++ "]" else text).toList
      ↔ P text.toList := by
    intro text
    cases nothing with
    | false => rfl
    | true => apply enclosed_python_iff h hbuiltin "Optional" (by decide) (by decide)
  have hne : ", ".toList ≠ [] := by decide
  have hcomma : ", ".toList.all isPythonSeparator := by decide
  match texts with
  | [] => simpa [pythonUnion] using hbuiltin "None" (by decide)
  | [single] => simpa [pythonUnion] using hoptional single
  | first :: second :: texts =>
    rw [pythonUnion, hoptional, enclosed_python_iff h hbuiltin "Union" (by decide) (by decide),
      String.toList_intercalate, h.intercalate_iff hne hcomma]
    · simp
    · nofun
    · nofun

omit h in
/-- Types without parts are spelled by names of the language. -/
theorem not_python_primitive (p : Primitive) :
  ¬ P p.python.toList
  := by
  apply hbuiltin
  cases p <;> decide

omit h in
/-- The types that are left out of unions are without parts. -/
theorem exists_pythonVariants_iff (variants : List TypeNode) :
  (∃ text ∈ pythonVariants variants, P text.toList) ↔ ∃ variant ∈ variants, P variant.python.toList
  := by
  rw [pythonVariants_eq_map]
  constructor
  · rintro ⟨text, htext, hP⟩
    obtain ⟨variant, hvariant, rfl⟩ := List.mem_map.mp htext
    exact ⟨variant, List.mem_of_mem_filter hvariant, hP⟩
  · rintro ⟨variant, hvariant, hP⟩
    refine ⟨_, List.mem_map_of_mem (List.mem_filter.mpr ⟨hvariant, ?_⟩), hP⟩
    cases variant with
    | primitive p => cases not_python_primitive hbuiltin p hP
    | _ => rfl

end

mutual

/-- What splits at the separators of types holds of a spelled type exactly if it holds of one of the
words that a program gives. -/
theorem python_iff_exists_pythonWords {P : List Char → Prop} (h : SplitsAt isPythonSeparator P)
    (hbuiltin : ∀ name ∈ Language.python.builtinNames, ¬ P name.toList) :
  ∀ t : TypeNode, P t.python.toList ↔ ∃ word ∈ t.pythonWords, P word.toList
  | .primitive p => by simpa [python, pythonWords] using not_python_primitive hbuiltin p
  | .array element => by
      rw [python, enclosed_python_iff h hbuiltin "List" (by decide) (by decide)]
      apply python_iff_exists_pythonWords h hbuiltin element
  | .map key value => by
      rw [python, pair_python_iff h hbuiltin, python_iff_exists_pythonWords h hbuiltin key,
        python_iff_exists_pythonWords h hbuiltin value, pythonWords]
      simp only [List.mem_append, or_and_right, exists_or]
  | .promise result => by
      rw [python, enclosed_python_iff h hbuiltin "Awaitable" (by decide) (by decide)]
      apply python_iff_exists_pythonWords h hbuiltin result
  | .union [] => by
      simpa [python, pythonWords, variantPythonWords] using hbuiltin "Any" (by decide)
  | .union (variant :: variants) => by
      rw [python, pythonUnion_iff h hbuiltin, exists_pythonVariants_iff hbuiltin]
      · apply exists_python_iff_exists_variantPythonWords h hbuiltin
      · nofun
  | .object _ => by
      have hparts : "Dict[str, Any]" = "Dict[" ++ "str" ++ ", " ++ "Any" ++ "]" := by decide
      rw [python, hparts, pair_python_iff h hbuiltin]
      simpa [pythonWords] using ⟨hbuiltin "str" (by decide), hbuiltin "Any" (by decide)⟩
  | .declared d => by simp [python, pythonWords]
  | .custom text => by simp [python, pythonWords]
  | .unknown => by simpa [python, pythonWords] using hbuiltin "Any" (by decide)

theorem exists_python_iff_exists_variantPythonWords {P : List Char → Prop}
    (h : SplitsAt isPythonSeparator P)
    (hbuiltin : ∀ name ∈ Language.python.builtinNames, ¬ P name.toList) :
  ∀ variants : List TypeNode, (∃ variant ∈ variants, P variant.python.toList)
    ↔ ∃ word ∈ variantPythonWords variants, P word.toList
  | [] => by simp [variantPythonWords]
  | variant :: variants => by
      rw [List.exists_mem_cons_iff, python_iff_exists_pythonWords h hbuiltin variant,
        exists_python_iff_exists_variantPythonWords h hbuiltin variants, variantPythonWords]
      simp only [List.mem_append, or_and_right, exists_or]

end

end TypeNode

/-! ### The string of an alias -/

namespace PythonString

/-- No part that alters the value of a string has a separator of types in it. -/
theorem splitsAt_of_mem_altered {part : List Char} (h : part ∈ altered) :
  SplitsAt isPythonSeparator fun cs => part <:+: cs
  := by
  have haltered : ∀ part ∈ altered, part ≠ [] ∧ part.any isPythonSeparator = false := by decide
  obtain ⟨hne, hfree⟩ := haltered part h
  apply splitsAt_infix hne hfree

/-- No part that alters the value of a string stands in a name that the language gives to types. -/
theorem not_infix_of_mem_altered {part : List Char} (h : part ∈ altered) :
  ∀ name ∈ Language.python.builtinNames, ¬ part <:+: name.toList
  := by
  revert part
  decide

/-- A spelled type between two quotation marks is a string with the type as its value exactly if no
part that alters the value stands in a word that a program gives, and no backslash stands at the end
of the type. -/
theorem read?_python_iff (named : List Char → Option Char) (t : TypeNode) :
  read? named ("\"" ++ t.python ++ "\"").toList = some (t.python.toList.map Char.toNat, [])
    ↔ (∀ word ∈ t.pythonWords, ∀ part ∈ altered, ¬ part <:+: word.toList)
      ∧ t.python.toList.getLast? ≠ some '\\'
  := by
  have hlist : ("\"" ++ t.python ++ "\"").toList = '"' :: t.python.toList ++ ['"'] := by simp
  rw [hlist, read?_eq_some_iff]
  apply and_congr_left'
  rw [forall₂_comm]
  apply forall₂_congr
  intro part hpart
  have hwords := TypeNode.python_iff_exists_pythonWords (splitsAt_of_mem_altered hpart)
    (not_infix_of_mem_altered hpart) t
  rw [hwords]
  push Not
  rfl

end PythonString

/-- An alias in Python is its name and then a text that is a string with the spelled type as its
value, exactly if no part that alters the value stands in a word of the type that the program gives,
and no backslash stands at the end of the type. -/
theorem Language.exists_typeAlias_python (named : List Char → Option Char) (renames : Renames)
    (name : String) (target : TypeNode) (home : Option String) :
  let text := Language.python.renamedText renames target
  ∃ literal, (Language.python.spellDeclaration renames (.typeAlias name target home)).python
      = renames.apply name ++ ": TypeAlias = " ++ literal
    ∧ (PythonString.read? named literal.toList = some (text.toList.map Char.toNat, [])
      ↔ (∀ word ∈ (target.rename renames).pythonWords,
          ∀ part ∈ PythonString.altered, ¬ part <:+: word.toList)
        ∧ text.toList.getLast? ≠ some '\\')
  := by
  intro text
  use "\"" ++ text ++ "\""
  constructor
  · have hequals : ": TypeAlias = \"" = ": TypeAlias = " ++ "\"" := by decide
    have htext : (Language.python.spellDeclaration renames (.typeAlias name target home)).python
        = renames.apply name ++ ": TypeAlias = \"" ++ text ++ "\"" := rfl
    rw [htext, hequals]
    simp only [String.append_assoc]
  · apply PythonString.read?_python_iff named (target.rename renames)

namespace Example

/-- A raw type with quotation marks. -/
def switchType : TypeNode :=
  .custom "Literal[\"on\"]"

end Example

/-- A raw type with quotation marks is not the value of the text of an alias. -/
theorem Language.not_read?_typeAlias_python :
  let text := Language.python.renamedText [] Example.switchType
  let literal := "\"Literal[\"on\"]\""
  (Language.python.spellDeclaration [] (.typeAlias "Switch" Example.switchType none)).python
      = "Switch: TypeAlias = " ++ literal
    ∧ PythonString.read? (fun _ => none) literal.toList ≠ some (text.toList.map Char.toNat, [])
  := by
  constructor
  · decide +kernel
  · decide +kernel

end ClientGen
