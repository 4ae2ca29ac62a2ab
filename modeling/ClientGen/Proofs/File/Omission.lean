import ClientGen.Proofs.File.Signatures
import ClientGen.Proofs.Target.Nullable
import ClientGen.Render.Dart

/-!
# Omission in Dart

What a caller leaves out in Dart has its default, or is null if it has none. So the default is a
value, or the type has to admit null. The type of a parameter is chosen to do so if the
parameter has no default at all, while the text of a default may also be empty or that of null.
-/

namespace ClientGen

open Render

/-! ### Defaults -/

/-- A literal that is no value in Dart: its text is that of null, or is empty. -/
def Literal.IsAbsent (l : Literal) : Prop :=
  match l.kind with
  | .null => True
  | .number | .raw => l.text ∈ ["", "null"]
  | .string | .boolean => False

theorem Language.head?_quoteString (lang : Language) (text : String) :
  (lang.quoteString text).toList.head? = some lang.quoting.quote
  := by
  rw [quoteString, String.toList_ofList]
  rfl

theorem Language.literal_dart_mem_iff (l : Literal) :
  Language.dart.literal l ∈ ["", "null"] ↔ l.IsAbsent
  := by
  obtain ⟨text, kind⟩ := l
  cases kind with
  | number | raw => rfl
  | null => simp [literal, nullLiteral, Literal.IsAbsent]
  | boolean =>
    simp only [literal, Literal.IsAbsent, iff_false]
    cases meansTrue text <;> decide
  | string =>
    simp only [literal, Literal.IsAbsent, iff_false]
    intro hmem
    have hhead : ∀ word ∈ ["", "null"], word.toList.head? ≠ some '\'' := by decide
    apply hhead _ hmem
    apply Language.dart.head?_quoteString

/-- A spelled parameter that Dart lets a caller leave out: it has a default other than null, or
a type that admits null. -/
def SpelledParameter.AllowsOmission (p : SpelledParameter) : Prop :=
  (∃ text, p.fallbackText? = some text ∧ text ≠ "null") ∨ AdmitsNull p.type

/-- A parameter that Dart lets a caller leave out once it is spelled: where its default is no
value, its type admits null. -/
def Parameter.AllowsOmission (p : Parameter) (renames : Renames) : Prop :=
  ∀ l ∈ p.fallback, l.IsAbsent → (p.type.rename renames).dartType.Ends AdmitsNull

theorem SpelledParameter.allowsOmission_iff (p : SpelledParameter) :
  p.AllowsOmission ↔ (∃ text ∈ p.fallback, text ∉ ["", "null"]) ∨ AdmitsNull p.type
  := by
  apply or_congr_left
  apply exists_congr
  intro text
  simp [fallbackText?, and_assoc]

namespace Language

variable (renames : Renames)

theorem allowsOmission_spellOmittable {p : Parameter} (h : p.isOptional ∨ p.fallback.isSome) :
  (Language.dart.spellOmittable renames p).AllowsOmission ↔ p.AllowsOmission renames
  := by
  rw [SpelledParameter.allowsOmission_iff, Parameter.AllowsOmission, spellOmittable]
  -- Only without a default the type is made to admit null.
  cases hfallback : p.fallback with
  | none =>
    have hoptional : p.isOptional := by simpa [hfallback] using h
    simp [hoptional, admitsNull_optionalType_dart]
  | some l =>
    have htype : AdmitsNull (Language.dart.renamedText renames p.type)
        ↔ (p.type.rename renames).dartType.Ends AdmitsNull := by
      rw [← DartType.admitsNull_text_iff, TypeNode.text_dartType]
      rfl
    have hliteral := literal_dart_mem_iff l
    simp only [Option.isNone_some, Bool.and_false, Bool.false_eq_true, if_false, Option.map_some,
      Option.mem_some_iff, exists_eq_left', forall_eq', htype, hliteral]
    rw [imp_iff_not_or]

/-- A spelled parameter that may be left out allows for this exactly if the parameter does. -/
theorem allowsOmission_spellParameters {parameters : List Parameter} {i : Nat}
    {p : SpelledParameter} {q : Parameter}
    (hp : (Language.dart.spellParameters renames parameters)[i]? = some p)
    (hq : parameters[i]? = some q) (hoptional : p.isOptional) :
  p.AllowsOmission ↔ q.AllowsOmission renames
  := by
  rw [getElem?_spellParameters, hq, Option.map_some, Option.some_inj] at hp
  subst hp
  split at hoptional
  case isTrue => cases hoptional
  case isFalse hle =>
    rw [if_neg hle]
    apply allowsOmission_spellOmittable
    apply (length_requiredPart_le_iff parameters i).mp (Nat.not_lt.mp hle)
    apply List.mem_of_getElem? (i := 0)
    rw [List.getElem?_drop]
    apply hq

end Language

/-! ### Fields -/

/-- The fields of a declaration. -/
def SpelledDeclaration.fields : SpelledDeclaration → List SpelledField
  | .struct _ fields => fields
  | .typeAlias _ _ => []
  | .enumeration _ _ _ _ => []

theorem SpelledField.startsRequired_iff (f : SpelledField) :
  "required ".toList <+: f.dartParameter.toList ↔ ¬ f.isOptional
  := by
  rw [dartParameter]
  cases f.isOptional <;> simp [only]

namespace Language

variable (renames : Renames)

/-- A field that need not be given has a type that admits null. -/
theorem required_or_admitsNull (d : Declaration) :
  ∀ f ∈ (Language.dart.spellDeclaration renames d).fields,
    "required ".toList <+: f.dartParameter.toList ∨ AdmitsNull f.type
  := by
  intro f hf
  cases d with
  | struct name properties home =>
    obtain ⟨property, -, isLast, rfl⟩ := mem_mapLast hf
    rw [SpelledField.startsRequired_iff, spellField]
    cases property.isOptional with
    | false => simp
    | true =>
      right
      apply admitsNull_optionalType_dart
  | typeAlias | enumeration => cases hf

/-! ### What may be left out -/

/-- In Dart a method declares those parameters between brackets that may be left out. Each of
these allows for it, by a default other than null or by a type that admits null, exactly if the
parameter that it is spelled from does: if its type admits null where its default is no value. A
field of a declaration is required, or its type admits null. -/
theorem omission_dart :
  (∀ className m,
      let s := Language.dart.spellMethod renames className m
      (∃ required run, s.parameters = required ++ run
        ∧ (∀ p ∈ required, ¬ p.isOptional) ∧ (∀ p ∈ run, p.isOptional)
        ∧ s.dart = s.dartWith (parameterItems required run .dart))
      ∧ ∀ (i : Nat) (p : SpelledParameter) (q : Parameter),
          s.parameters[i]? = some p → m.parameters[i]? = some q → p.isOptional →
            (p.AllowsOmission ↔ q.AllowsOmission renames))
    ∧ ∀ d, ∀ f ∈ (Language.dart.spellDeclaration renames d).fields,
        "required ".toList <+: f.dartParameter.toList ∨ AdmitsNull f.type
  := by
  constructor
  · intro className m s
    have h : ListsParameters .dart m s :=
      Language.dart.listsParameters_spellMethod renames className m
    obtain ⟨required, run, happend, hrequired, hrun⟩ := h.exists_append
    constructor
    · use required, run, happend, hrequired, hrun
      apply h.dart_eq happend hrequired hrun
    · intro i p q hp hq hoptional
      apply allowsOmission_spellParameters renames hp hq hoptional
  · apply required_or_admitsNull

end Language

namespace Example

/-- A method with a parameter that has the default null, but a type without null. -/
def listing : Method where
  name := "list"
  parameters := [{
    name := "limit"
    type := .primitive .integer
    isOptional := true
    fallback := some { text := "null", kind := .null } }]
  returnType := .primitive .void

end Example

theorem Language.omission_dart_listing :
  ∃ p q, (Language.dart.spellMethod [] "Users" Example.listing).parameters[0]? = some p
    ∧ Example.listing.parameters[0]? = some q ∧ p.isOptional
    ∧ (p.AllowsOmission ↔ q.AllowsOmission [])
  := by
  have hmethod := (Language.omission_dart []).1 "Users" Example.listing
  exact ⟨_, _, rfl, rfl, rfl, hmethod.2 0 _ _ rfl rfl rfl⟩

/-- A parameter between brackets may have the default null and a type without null. -/
theorem Language.not_omission_dart_listing :
  ¬ ∀ (renames : Renames) (className : String) (m : Method),
      ∀ p ∈ (Language.dart.spellMethod renames className m).parameters, p.isOptional →
        p.AllowsOmission
  := by
  intro h
  have hallows := h [] "Users" Example.listing _ List.mem_cons_self rfl
  rcases hallows with ⟨text, htext, hne⟩ | hnull
  · cases htext
    apply hne
    decide
  · revert hnull
    decide

end ClientGen
