import ClientGen.Proofs.File.ImportLine
import ClientGen.Proofs.Resolution.Names
import ClientGen.Render.Language

/-!
# The text of imports

The imports of a file of types stand in its text between its opening and its definitions. They are
lines of imports, in which names have a comma between them and no comma at either end, whether they
are used under themselves, under other names, or some of them each way.
-/

namespace ClientGen

open Render

/-! ### Separators -/

section

variable {α β : Type}

theorem isEmpty_mapLast (f : α → Bool → β) (items : List α) :
  (mapLast f items).isEmpty = items.isEmpty
  := by fun_cases mapLast f items <;> rfl

namespace Render

theorem each_append_intercalate (sep : String) (text : α → String) (items : List α)
    {texts : List String} (hne : texts ≠ []) :
  (each items fun a => text a ++ sep) ++ sep.intercalate texts
    = sep.intercalate (items.map text ++ texts)
  := by
  induction items with
  | nil => simp [each_nil]
  | cons a items ih =>
    obtain ⟨next, others, heq⟩ :=
      List.exists_cons_of_ne_nil (List.append_ne_nil_of_right_ne_nil (items.map text) hne)
    rw [each_cons, String.append_assoc, ih, List.map_cons, List.cons_append, heq,
      String.intercalate_cons_cons]

/-- Items with a separator after each of them but the last one have it between them. -/
theorem each_mapLast (sep : String) (base : α → String) {f : α → Bool → β} {text : β → String}
    (h : ∀ a isLast, text (f a isLast) = base a ++ separator sep isLast) (items : List α) :
  each (mapLast f items) text = sep.intercalate (items.map base)
  := by
  fun_induction mapLast f items with
  | case1 => rfl
  | case2 a => simp [each_cons, each_nil, h, separator]
  | case3 a b rest ih =>
    rw [each_cons, ih, h, List.map_cons, List.map_cons, List.map_cons, String.intercalate_cons_cons]
    rfl

/-- What does not depend on the mark is written item by item. -/
theorem each_mapLast_eq {f : α → Bool → β} {text : β → String} {base : α → String}
    (h : ∀ a isLast, text (f a isLast) = base a) (items : List α) :
  each (mapLast f items) text = each items base
  := by
  rw [each, map_mapLast]
  simp only [h]
  rw [mapLast_const, each]

theorem each_flatMap (f : α → List β) (items : List α) (text : β → String) :
  each (items.flatMap f) text = each items fun a => each (f a) text
  := by
  induction items with
  | nil => rfl
  | cons a items ih => rw [List.flatMap_cons, each_append, ih, each_cons]

end Render

end

namespace ImportStatement

variable (path : String) (taken : List (String × String))

/-- The pairs of a statement with one name. -/
def keptOf (taken : List (String × String)) : List (String × String) :=
  taken.filter fun pair => pair.1 = pair.2

/-- The pairs of a statement with two names. -/
def renamedOf (taken : List (String × String)) : List (String × String) :=
  taken.filter fun pair => pair.1 ≠ pair.2

theorem map_pairText_keptOf :
  (keptOf taken).map ImportLine.pairText = (keptOf taken).map Prod.fst
  := by
  apply List.map_congr_left
  intro pair hpair
  rw [ImportLine.pairText, if_pos (by simpa using (List.mem_filter.mp hpair).2)]

theorem map_pairText_renamedOf :
  (renamedOf taken).map ImportLine.pairText
    = (renamedOf taken).map fun pair => pair.1 ++ " as " ++ pair.2
  := by
  apply List.map_congr_left
  intro pair hpair
  rw [ImportLine.pairText, if_neg (by simpa using (List.mem_filter.mp hpair).2)]

theorem plain_ofPairs :
  (ofPairs path taken).plain = mapLast (fun pair isLast => ⟨pair.1, isLast⟩) (keptOf taken)
  := rfl

theorem aliased_ofPairs :
  (ofPairs path taken).aliased
    = mapLast (fun pair isLast => ⟨pair.1, pair.2, qualifierOf pair.2, isLast⟩) (renamedOf taken)
  := rfl

theorem pairs_ofPairs_eq_append :
  (ofPairs path taken).pairs = keptOf taken ++ renamedOf taken
  := by simp [pairs_ofPairs, keptOf, renamedOf]

theorem perm_keptOf_renamedOf :
  (keptOf taken ++ renamedOf taken).Perm taken
  := by simpa [keptOf, renamedOf] using taken.filter_append_perm fun pair => pair.1 = pair.2

theorem plainText_ofPairs :
  (ofPairs path taken).plainText = ImportLine.pairsText (keptOf taken)
  := by
  rw [plainText, plain_ofPairs, ImportLine.pairsText, map_pairText_keptOf]
  apply each_mapLast ", " Prod.fst
  intro pair isLast
  rfl

theorem aliasedText_ofPairs :
  (ofPairs path taken).aliasedText = ImportLine.pairsText (renamedOf taken)
  := by
  rw [aliasedText, aliased_ofPairs, ImportLine.pairsText, map_pairText_renamedOf]
  apply each_mapLast ", " fun pair : String × String => pair.1 ++ " as " ++ pair.2
  intro pair isLast
  rfl

/-- All names of a statement stand side by side, whichever of them are used under other names. -/
theorem namesText_ofPairs :
  (ofPairs path taken).namesText = ImportLine.pairsText (ofPairs path taken).pairs
  := by
  rw [namesText, aliasedText_ofPairs, pairs_ofPairs_eq_append]
  by_cases hnone : renamedOf taken = []
  · -- No comma follows the last name that is used under itself.
    have haliased : (ofPairs path taken).aliased.isEmpty := by
      rw [aliased_ofPairs, isEmpty_mapLast, hnone]
      rfl
    have hseparator : (each (ofPairs path taken).plain fun i =>
          i.name ++ (ofPairs path taken).plainSeparator i)
        = (ofPairs path taken).plainText := by
      apply each_congr
      intro i _
      rw [plainSeparator, haliased]
      cases i.isLast <;> rfl
    rw [hseparator, plainText_ofPairs, hnone]
    simp [ImportLine.pairsText]
  · -- A comma follows each of these names.
    have haliased : (ofPairs path taken).aliased.isEmpty = false := by
      rw [aliased_ofPairs, isEmpty_mapLast, List.isEmpty_eq_false_iff]
      exact hnone
    have hseparator : (each (ofPairs path taken).plain fun i =>
          i.name ++ (ofPairs path taken).plainSeparator i)
        = each (keptOf taken) fun pair => pair.1 ++ ", " := by
      rw [plain_ofPairs]
      apply each_mapLast_eq
      intro pair isLast
      simp [plainSeparator, haliased, only]
    have hne : (renamedOf taken).map ImportLine.pairText ≠ [] := by simpa using hnone
    rw [hseparator, ImportLine.pairsText, each_append_intercalate ", " Prod.fst _ hne,
      ← map_pairText_keptOf, ← List.map_append, ImportLine.pairsText]

/-! ### The lines of statements -/

/-- The lines in which a statement takes names from the file at a path. -/
def takingLines (lang : Language) (path : String) (taken : List (String × String)) :
    List ImportLine :=
  match lang with
  | .typescript | .python => [.names path (keptOf taken ++ renamedOf taken)]
  | .dart => (if (keptOf taken).isEmpty then [] else [.names path (keptOf taken)])
      ++ (renamedOf taken).map fun pair => .qualifier path (qualifierOf pair.2)

/-- The lines in which the other names of a statement are defined. -/
def definingLines (lang : Language) (taken : List (String × String)) : List ImportLine :=
  match lang with
  | .typescript | .python => []
  | .dart => (renamedOf taken).map fun pair => .definition pair.2 (qualifierOf pair.2) pair.1

section

variable {lang : Language} {path : String} {taken : List (String × String)} {l : ImportLine}

/-- A statement takes names from the file at its path in lines with names, in Dart those that are
used under themselves, and in Dart in lines that give qualifiers for the others to the file. -/
theorem cases_of_mem_takingLines (hl : l ∈ takingLines lang path taken) :
  (∃ pairs ⊆ taken, (taken ≠ [] → pairs ≠ []) ∧ (lang = .dart → ∀ pair ∈ pairs, pair.1 = pair.2)
      ∧ l = .names path pairs)
    ∨ lang = .dart ∧ ∃ pair ∈ renamedOf taken, l = .qualifier path (qualifierOf pair.2)
  := by
  have hperm := perm_keptOf_renamedOf taken
  cases lang with
  | typescript | python =>
    left
    refine ⟨_, hperm.subset, ?_, (nomatch ·), List.mem_singleton.mp hl⟩
    intro hne hnil
    rw [hnil] at hperm
    apply hne (List.nil_perm.mp hperm)
  | dart =>
    rcases List.mem_append.mp hl with hl | hl
    · left
      split at hl
      case isTrue => cases hl
      case isFalse hkept =>
        refine ⟨_, List.filter_subset_self _, fun _ hnil => hkept (List.isEmpty_iff.mpr hnil), ?_,
          List.mem_singleton.mp hl⟩
        intro _ pair hpair
        simpa using (List.mem_filter.mp hpair).2
    · right
      obtain ⟨pair, hpair, rfl⟩ := List.mem_map.mp hl
      exact ⟨rfl, pair, hpair, rfl⟩

theorem mem_definingLines_iff :
  l ∈ definingLines lang taken
    ↔ lang = .dart ∧ ∃ pair ∈ renamedOf taken, l = .definition pair.2 (qualifierOf pair.2) pair.1
  := by cases lang <;> simp [definingLines, eq_comm]

theorem path?_of_mem_takingLines (hl : l ∈ takingLines lang path taken) :
  l.path? = some path
  := by rcases cases_of_mem_takingLines hl with ⟨_, _, _, _, rfl⟩ | ⟨_, _, _, rfl⟩ <;> rfl

theorem path?_of_mem_definingLines (hl : l ∈ definingLines lang taken) :
  l.path? = none
  := by
  obtain ⟨_, _, _, rfl⟩ := mem_definingLines_iff.mp hl
  rfl

end

/-- A line of imports after the end of the line before it. -/
def lineText (lang : Language) (l : ImportLine) : String :=
  "\n" ++ l.text lang

theorem typescript_ofPairs :
  (ofPairs path taken).typescript "import"
    = each (takingLines .typescript path taken) (lineText .typescript)
  := by
  rw [typescript, namesText_ofPairs, pairs_ofPairs_eq_append]
  simp [takingLines, each_cons, each_nil, lineText, ofPairs, ← String.append_assoc]

theorem python_ofPairs :
  "\n    " ++ (ofPairs path taken).python = each (takingLines .python path taken) (lineText .python)
  := by
  rw [python, namesText_ofPairs, pairs_ofPairs_eq_append]
  simp [takingLines, each_cons, each_nil, lineText, ofPairs, ← String.append_assoc]

theorem dart_ofPairs :
  (ofPairs path taken).dart = each (takingLines .dart path taken) (lineText .dart)
  := by
  have hshow : (ofPairs path taken).dartShow "import"
      = each (if (keptOf taken).isEmpty then [] else [.names path (keptOf taken)])
          (lineText .dart) := by
    rw [dartShow, plainText_ofPairs, plain_ofPairs, isEmpty_mapLast]
    cases (keptOf taken).isEmpty
    · simp [each_cons, each_nil, lineText, ofPairs, only, ← String.append_assoc]
    · rfl
  have haliased : (each (ofPairs path taken).aliased fun i =>
        "\nimport '" ++ (ofPairs path taken).path ++ "' as " ++ i.qualifier ++ ";")
      = each ((renamedOf taken).map fun pair => .qualifier path (qualifierOf pair.2))
          (lineText .dart) := by
    rw [aliased_ofPairs, each_map]
    apply each_mapLast_eq
    intro pair isLast
    simp [lineText, ofPairs, ← String.append_assoc]
  rw [dart, hshow, haliased, ← each_append]
  rfl

theorem dartTypedefs_ofPairs :
  (ofPairs path taken).dartTypedefs = each (definingLines .dart taken) (lineText .dart)
  := by
  rw [dartTypedefs, aliased_ofPairs, definingLines, each_map]
  apply each_mapLast_eq
  intro pair isLast
  simp [lineText, ← String.append_assoc]

end ImportStatement

open ImportStatement

/-! ### The text of statements -/

/-- The imports of a file of types. -/
def Language.importText (lang : Language) (statements : List ImportStatement) : String :=
  match lang with
  | .typescript => each statements (ImportStatement.typescript "import")
  | .python => pythonAnnotationImports statements
  | .dart => each statements ImportStatement.dart ++ each statements dartTypedefs

/-- What stands before the lines of imports, if there are any. -/
def Language.importHeading : Language → String
  | .python => "\n\nif TYPE_CHECKING:"
  | .typescript | .dart => ""

/-- The lines of statements for paths and the pairs that are taken from there. -/
def Language.linesOf (lang : Language) (groups : List (String × List (String × String))) :
    List ImportLine :=
  groups.flatMap (fun g => takingLines lang g.1 g.2)
    ++ groups.flatMap fun g => definingLines lang g.2

/-- The imports of a file of types are lines. -/
theorem Language.importText_ofPairs (lang : Language)
    (groups : List (String × List (String × String))) :
  lang.importText (groups.map fun g => ofPairs g.1 g.2)
    = only (!groups.isEmpty) lang.importHeading ++ each (lang.linesOf groups) (lineText lang)
  := by
  cases lang with
  | typescript =>
    have hnone : (groups.flatMap fun g => definingLines .typescript g.2) = [] :=
      List.flatMap_eq_nil_iff.mpr fun _ _ => rfl
    rw [linesOf, hnone, List.append_nil, each_flatMap, importText, each_map]
    simp only [typescript_ofPairs]
    cases groups.isEmpty <;> simp [only, importHeading]
  | python =>
    have hnone : (groups.flatMap fun g => definingLines .python g.2) = [] :=
      List.flatMap_eq_nil_iff.mpr fun _ _ => rfl
    rw [linesOf, hnone, List.append_nil, each_flatMap, importText, pythonAnnotationImports,
      each_map, List.isEmpty_map]
    simp only [python_ofPairs]
    cases groups <;> rfl
  | dart =>
    rw [linesOf, each_append, each_flatMap, each_flatMap, importText, each_map, each_map]
    simp only [dart_ofPairs, dartTypedefs_ofPairs]
    cases groups.isEmpty <;> simp [only, importHeading]

/-- What stands before the imports of a file of types. -/
def TypeFile.opening (f : TypeFile) : Language → String
  | .python => pythonPreamble f.package
  | .typescript | .dart => "// " ++ origin f.package

/-- What stands after the imports of a file of types. -/
def TypeFile.definitions (f : TypeFile) : Language → String
  | .typescript => each f.declarations SpelledDeclaration.typescriptBlock ++ "\n"
  | .python => each f.declarations SpelledDeclaration.pythonBlock ++ "\n"
  | .dart => each f.declarations SpelledDeclaration.dartBlock ++ "\n"

theorem TypeFile.text_eq (f : TypeFile) (lang : Language) :
  f.text lang = f.opening lang ++ lang.importText f.imports ++ f.definitions lang
  := by
  cases lang <;>
    simp [text, typescript, python, dart, opening, definitions, Language.importText,
      String.append_assoc]

end ClientGen
