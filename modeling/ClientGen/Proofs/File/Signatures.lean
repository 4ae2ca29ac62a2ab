import ClientGen.Proofs.File.Parameters
import ClientGen.Render.Language
import Mathlib.Tactic.Use

/-!
# Signatures

The signature of a method declares the parameters that have to be passed and after them the
run of those that may be left out, with a comma between any two of them. In TypeScript each
of the run is marked or has a default, in Python each of the run has a default, and in Dart
one pair of brackets encloses the run. The arguments of the call are separated likewise.
-/

namespace ClientGen

open Render

/-! ### Separated items -/

/-- Items of which only the final one is marked are separated, and closed at the end. -/
theorem Render.each_marked {α : Type} (isLast : α → Bool) (text : α → String)
    (sep close : String) {items : List α}
    (h : ∀ i a, items[i]? = some a → (isLast a ↔ i + 1 = items.length)) :
  (each items fun a => text a ++ if isLast a then close else sep)
    = sep.intercalate (items.map text) ++ if items.isEmpty then "" else close
  := by
  induction items with
  | nil => simp [each_nil]
  | cons a rest ih =>
    have hfirst := h 0 a rfl
    cases rest with
    | nil =>
      have hlast : isLast a := hfirst.mpr rfl
      simp [each_cons, each_nil, hlast]
    | cons b rest =>
      have hnot : ¬ isLast a := by
        rw [hfirst]
        simp
      have htail : ∀ i c, (b :: rest)[i]? = some c → (isLast c ↔ i + 1 = (b :: rest).length) := by
        intro i c hc
        rw [h (i + 1) c hc, List.length_cons, Nat.succ_inj]
      rw [each_cons, ih htail]
      simp [hnot, String.append_assoc]

/-- A text before the first of the last items and one after all items enclose the last
items. -/
theorem intercalate_enclosed (sep opening closing item : String) (before after : List String) :
  sep.intercalate (before ++ (opening ++ item) :: after) ++ closing
    = sep.intercalate (before ++ [opening ++ sep.intercalate (item :: after) ++ closing])
  := by
  cases before with
  | nil => simp
  | cons first before =>
    rw [String.intercalate_append_of_ne_nil (List.cons_ne_nil _ _) (List.cons_ne_nil _ _),
      String.intercalate_append_of_ne_nil (List.cons_ne_nil _ _) (List.cons_ne_nil _ _)]
    simp [String.append_assoc]

/-! ### The run of a list -/

namespace ListsParameters

variable {lang : Language} {m : Method} {s : SpelledMethod} (h : ListsParameters lang m s)

include h

theorem length_parameters :
  s.parameters.length = m.parameters.length
  := by simpa using congrArg List.length h.names

/-- A parameter that has to be passed has no default. -/
theorem fallback_eq_none {p : SpelledParameter} (hp : p ∈ s.parameters)
    (hoptional : ¬ p.isOptional) :
  p.fallback = none
  := by
  obtain ⟨i, hget⟩ := List.mem_iff_getElem?.mp hp
  have hbound := (List.getElem?_eq_some_iff.mp hget).1
  rw [h.length_parameters] at hbound
  rw [h.fallback i p _ hget (List.getElem?_eq_getElem hbound), if_neg hoptional]

theorem fallbackText?_eq_none {p : SpelledParameter} (hp : p ∈ s.parameters)
    (hoptional : ¬ p.isOptional) :
  p.fallbackText? = none
  := by
  rw [SpelledParameter.fallbackText?, h.fallback_eq_none hp hoptional]
  rfl

/-- A parameter opens the run if it may be left out and all before it have to be passed. -/
theorem opensRun_iff {p : SpelledParameter} {before after : List SpelledParameter}
    (happend : s.parameters = before ++ p :: after) :
  p.opensRun ↔ p.isOptional ∧ ∀ q ∈ before, ¬ q.isOptional
  := by
  have hget : s.parameters[before.length]? = some p := by simp [happend]
  have hbefore : s.parameters.take before.length = before := by simp [happend]
  rw [h.opensRun _ p hget, hbefore]

theorem not_opensRun {p : SpelledParameter} (hp : p ∈ s.parameters)
    (hoptional : ¬ p.isOptional) :
  ¬ p.opensRun
  := by
  obtain ⟨before, after, happend⟩ := List.append_of_mem hp
  rw [h.opensRun_iff happend]
  apply not_and_of_not_left _ hoptional

/-- The first of the parameters that may be left out opens the run, and no other one does. -/
theorem opensRun_run {p : SpelledParameter} {required rest : List SpelledParameter}
    (happend : s.parameters = required ++ p :: rest)
    (hrequired : ∀ q ∈ required, ¬ q.isOptional) (hp : p.isOptional) :
  p.opensRun ∧ ∀ q ∈ rest, ¬ q.opensRun
  := by
  constructor
  · apply (h.opensRun_iff happend).mpr ⟨hp, hrequired⟩
  · intro q hq
    obtain ⟨before, after, rfl⟩ := List.append_of_mem hq
    have hsplit : s.parameters = (required ++ p :: before) ++ q :: after := by
      rw [happend, List.append_assoc, List.cons_append]
    rw [h.opensRun_iff hsplit]
    rintro ⟨-, hbefore⟩
    apply hbefore p _ hp
    apply List.mem_append_right required List.mem_cons_self

/-- The parameters that may be left out come after those that have to be passed. -/
theorem exists_append :
  ∃ required run, s.parameters = required ++ run
    ∧ (∀ p ∈ required, ¬ p.isOptional) ∧ ∀ p ∈ run, p.isOptional
  := by
  have hplace : ∀ i p, s.parameters[i]? = some p →
      (p.isOptional ↔ (requiredPart m.parameters).length ≤ i) := by
    intro i p hget
    apply (h.isOptional i p hget).trans (length_requiredPart_le_iff m.parameters i).symm
  use s.parameters.take (requiredPart m.parameters).length
  use s.parameters.drop (requiredPart m.parameters).length
  and_intros
  · rw [List.take_append_drop]
  · intro p hp
    obtain ⟨i, hlt, hget⟩ := mem_take_iff_getElem?.mp hp
    rw [hplace i p hget]
    apply Nat.not_le.mpr hlt
  · intro p hp
    obtain ⟨i, hget⟩ := List.mem_iff_getElem?.mp hp
    rw [List.getElem?_drop] at hget
    apply (hplace _ p hget).mpr (Nat.le_add_right _ _)

end ListsParameters

/-! ### Texts of lists -/

/-- The text of a parameter that has to be passed. -/
def SpelledParameter.requiredText (p : SpelledParameter) : Language → String
  | .typescript | .python => p.name ++ ": " ++ p.type
  | .dart => p.type ++ " " ++ p.name

/-- The text of a parameter that may be left out. One without a default is marked in
TypeScript, has the default `None` in Python, and has none in Dart. -/
def SpelledParameter.omittableText (p : SpelledParameter) : Language → String
  | .typescript =>
    match p.fallbackText? with
    | none => p.name ++ "?: " ++ p.type
    | some text => p.name ++ ": " ++ p.type ++ " = " ++ text
  | .python => p.name ++ ": " ++ p.type ++ " = " ++ p.fallbackText?.getD "None"
  | .dart =>
    match p.fallbackText? with
    | none => p.type ++ " " ++ p.name
    | some text => p.type ++ " " ++ p.name ++ " = " ++ text

/-- Texts between brackets, if there are any. -/
def bracketed (texts : List String) : List String :=
  if texts.isEmpty then [] else ["[" ++ ", ".intercalate texts ++ "]"]

/-- The items of a list of parameters. In Python the class is the first one. -/
def parameterItems (required run : List SpelledParameter) (lang : Language) : List String :=
  let requiredTexts := required.map fun p => p.requiredText lang
  let runTexts := run.map fun p => p.omittableText lang
  match lang with
  | .typescript => requiredTexts ++ runTexts
  | .python => "cls" :: requiredTexts ++ runTexts
  | .dart => requiredTexts ++ bracketed runTexts

namespace ListsParameters

variable {lang : Language} {m : Method} {s : SpelledMethod} (h : ListsParameters lang m s)
  {required run : List SpelledParameter}

section

variable (happend : s.parameters = required ++ run)
  (hrequired : ∀ p ∈ required, ¬ p.isOptional) (hrun : ∀ p ∈ run, p.isOptional)

include h happend hrequired hrun

/-- Texts of parameters are those of the two kinds. -/
theorem map_parameters {text requiredText runText : SpelledParameter → String}
    (heach : ∀ p ∈ s.parameters, ¬ p.isOptional → p.fallbackText? = none →
      text p = requiredText p)
    (hrunText : ∀ p ∈ s.parameters, p.isOptional → text p = runText p) :
  s.parameters.map text = required.map requiredText ++ run.map runText
  := by
  rw [happend] at heach hrunText ⊢
  rw [List.map_append]
  congr 1
  · apply List.map_congr_left
    intro p hp
    have hmem := List.mem_append_left run hp
    apply heach p hmem (hrequired p hp)
    rw [← happend] at hmem
    apply h.fallbackText?_eq_none hmem (hrequired p hp)
  · apply List.map_congr_left
    intro p hp
    apply hrunText p (List.mem_append_right required hp) (hrun p hp)

theorem parameters_typescript :
  each s.parameters SpelledParameter.typescript
    = ", ".intercalate (parameterItems required run .typescript)
  := by
  have htext := each_marked SpelledParameter.isLast
    (fun p => p.name ++ only (p.isOptional && p.fallbackText?.isNone) "?" ++ ": " ++ p.type
      ++ p.fallbackText) ", " "" h.isLast
  rw [ite_self, String.append_empty] at htext
  apply htext.trans
  congr 1
  apply h.map_parameters happend hrequired hrun
  · intro p _ hoptional hnone
    simp [SpelledParameter.requiredText, SpelledParameter.fallbackText, only, hoptional, hnone]
  · intro p _ hoptional
    cases htext : p.fallbackText? <;>
      simp [SpelledParameter.omittableText, SpelledParameter.fallbackText, only, hoptional, htext,
        String.append_assoc]

theorem parameters_python :
  "cls" ++ each s.parameters SpelledParameter.python
    = ", ".intercalate (parameterItems required run .python)
  := by
  have hitems : s.parameters.map (fun p => p.name ++ ": " ++ p.type ++ p.fallbackText
        ++ only (p.isOptional && p.fallbackText?.isNone) " = None")
      = required.map (fun p => p.requiredText .python)
        ++ run.map (fun p => p.omittableText .python) := by
    apply h.map_parameters happend hrequired hrun
    · intro p _ hoptional hnone
      simp [SpelledParameter.requiredText, SpelledParameter.fallbackText, only, hoptional, hnone]
    · intro p _ hoptional
      cases htext : p.fallbackText? <;>
        simp [SpelledParameter.omittableText, SpelledParameter.fallbackText, only, hoptional,
          htext, String.append_assoc]
  rw [parameterItems, List.cons_append, intercalate_cons, ← hitems, each_map]
  congr 1

theorem parameters_dart :
  each s.parameters (SpelledParameter.dart s.hasOptional)
    = ", ".intercalate (parameterItems required run .dart)
  := by
  have htext := each_marked SpelledParameter.isLast
    (fun p => only p.opensRun "[" ++ p.type ++ " " ++ p.name ++ p.fallbackText) ", "
    (only s.hasOptional "]") h.isLast
  have hitems : s.parameters.map
        (fun p => only p.opensRun "[" ++ p.type ++ " " ++ p.name ++ p.fallbackText)
      = required.map (fun p => p.requiredText .dart)
        ++ run.map (fun p => only p.opensRun "[" ++ p.omittableText .dart) := by
    apply h.map_parameters happend hrequired hrun
    · intro p hp hoptional hnone
      simp [SpelledParameter.requiredText, SpelledParameter.fallbackText, only,
        h.not_opensRun hp hoptional, hnone]
    · intro p _ _
      cases htext : p.fallbackText? <;>
        simp [SpelledParameter.omittableText, SpelledParameter.fallbackText, htext,
          String.append_assoc]
  apply htext.trans
  rw [hitems, parameterItems]
  -- The closing bracket stands after the last parameter, so it closes the run only because
  -- nothing comes after the run.
  cases run with
  | nil =>
    have hnone : s.hasOptional = false := by
      rw [← Bool.not_eq_true, h.hasOptional, happend, List.append_nil]
      rintro ⟨p, hp, hoptional⟩
      apply hrequired p hp hoptional
    simp [bracketed, hnone, only]
  | cons p rest =>
    have hsome : s.hasOptional := by
      rw [h.hasOptional]
      use p
      simp [happend, hrun]
    obtain ⟨hopens, hothers⟩ := h.opensRun_run happend hrequired (hrun p List.mem_cons_self)
    have hrest : rest.map (fun q => only q.opensRun "[" ++ q.omittableText .dart)
        = rest.map fun q => q.omittableText .dart := by
      apply List.map_congr_left
      intro q hq
      simp [only, hothers q hq]
    have hempty : s.parameters.isEmpty = false := by simp [happend]
    rw [List.map_cons, hrest, hempty, hsome, hopens]
    simp only [only, if_true, Bool.false_eq_true, if_false]
    rw [intercalate_enclosed]
    rfl

end

end ListsParameters

theorem SpelledMethod.qualifiedName_append_argumentsText (s : SpelledMethod) :
  s.qualifiedName ++ s.argumentsText
    = ", ".intercalate (s.qualifiedName :: s.arguments.map Argument.name)
  := by
  rw [intercalate_cons, each_map]
  rfl

theorem ListsParameters.arguments_dart {lang : Language} {m : Method} {s : SpelledMethod}
    (h : ListsParameters lang m s) :
  (each s.arguments fun a => a.name ++ separator ", " a.isLast)
    = ", ".intercalate (s.arguments.map Argument.name)
  := by
  have htext := each_marked Argument.isLast Argument.name ", " "" h.isLastArgument
  rw [ite_self, String.append_empty] at htext
  apply htext

/-! ### Texts of methods -/

namespace SpelledMethod

/-- The text of a method that declares the given items and passes on its arguments, with
commas between them. -/
def typescriptWith (className : String) (s : SpelledMethod) (items : List String) : String :=
  "\n" ++ only (!s.doc.isEmpty) ("\n" ++ typescriptDoc "  " s.doc)
    ++ "\n  static async " ++ s.name ++ "(" ++ ", ".intercalate items
    ++ "): " ++ s.returnType ++ " \x7b\n    return await " ++ className ++ ".remote.call("
    ++ ", ".intercalate (s.qualifiedName :: s.arguments.map Argument.name) ++ ");\n  \x7d"

@[inherit_doc typescriptWith]
def pythonWith (s : SpelledMethod) (items : List String) : String :=
  "\n\n    @classmethod\n    async def " ++ s.name ++ "(" ++ ", ".intercalate items
    ++ ") -> " ++ s.returnType ++ ":" ++ pythonDoc "        " s.doc
    ++ "\n        return await cls._remote.call("
    ++ ", ".intercalate (s.qualifiedName :: s.arguments.map Argument.name) ++ ")"

@[inherit_doc typescriptWith]
def dartWith (s : SpelledMethod) (items : List String) : String :=
  "\n" ++ dartDoc "  " s.doc ++ "\n  static " ++ s.returnType ++ " " ++ s.name ++ "("
    ++ ", ".intercalate items ++ ") async \x7b\n    " ++ only s.returnsValue "return "
    ++ ("await _remote.call(" ++ s.qualifiedName ++ ", ["
      ++ ", ".intercalate (s.arguments.map Argument.name) ++ "]);") ++ "\n  \x7d"

end SpelledMethod

namespace ListsParameters

variable {lang : Language} {m : Method} {s : SpelledMethod} (h : ListsParameters lang m s)
  {required run : List SpelledParameter} (happend : s.parameters = required ++ run)
  (hrequired : ∀ p ∈ required, ¬ p.isOptional) (hrun : ∀ p ∈ run, p.isOptional)

include h happend hrequired hrun

theorem typescript_eq (className : String) :
  s.typescript className
    = s.typescriptWith className (parameterItems required run .typescript)
  := by
  unfold SpelledMethod.typescript SpelledMethod.typescriptWith
  rw [h.parameters_typescript happend hrequired hrun, ← s.qualifiedName_append_argumentsText]
  simp only [String.append_assoc]

theorem python_eq :
  s.python = s.pythonWith (parameterItems required run .python)
  := by
  have hopening : "(cls" = "(" ++ "cls" := by decide
  unfold SpelledMethod.python SpelledMethod.pythonWith
  rw [← h.parameters_python happend hrequired hrun, ← s.qualifiedName_append_argumentsText,
    hopening]
  simp only [String.append_assoc]

theorem dart_eq :
  s.dart = s.dartWith (parameterItems required run .dart)
  := by
  unfold SpelledMethod.dart SpelledMethod.dartCall SpelledMethod.dartWith
  rw [h.parameters_dart happend hrequired hrun, h.arguments_dart]

end ListsParameters

/-- A method is spelled with the parameters of the method, of which the last run may be left
out. Its text in each language declares those that have to be passed and after them those of
the run, and it passes all of them on, with a comma between any two of them. In TypeScript
and in Python those of the run alone are marked or have a default, and in Dart one pair of
brackets encloses exactly the run. -/
theorem Language.parameters_spellMethod (lang : Language) (renames : Renames)
    (className : String) (m : Method) :
  let s := lang.spellMethod renames className m
  ListsParameters lang m s
    ∧ ∃ required run, s.parameters = required ++ run
      ∧ (∀ p ∈ required, ¬ p.isOptional) ∧ (∀ p ∈ run, p.isOptional)
      ∧ s.typescript className
        = s.typescriptWith className (parameterItems required run .typescript)
      ∧ s.python = s.pythonWith (parameterItems required run .python)
      ∧ s.dart = s.dartWith (parameterItems required run .dart)
  := by
  intro s
  have h : ListsParameters lang m s := lang.listsParameters_spellMethod renames className m
  obtain ⟨required, run, happend, hrequired, hrun⟩ := h.exists_append
  use h, required, run, happend, hrequired, hrun
  and_intros
  · apply h.typescript_eq happend hrequired hrun
  · apply h.python_eq happend hrequired hrun
  · apply h.dart_eq happend hrequired hrun

end ClientGen
