import ClientGen.Proofs.Module.Normal
import Mathlib.Data.List.Basic

/-!
# Normal forms that climb

The normal form of a home leaves out the name `..` between slashes. What is said to climb are also
names that hold `..` between backslashes or next to white space, and those the normal form keeps.
So it climbs exactly if one of them stands between the slashes of the home.
-/

namespace ClientGen.Module

/-- Whether a character stands between the names by which a home climbs. -/
def isDivider (c : Char) : Bool := c = '/' || c = '\\'

/-- Whether a text has `..` between slashes or backslashes, white space around it aside. -/
def Climbs (cs : List Char) : Prop :=
  ∃ part ∈ Text.split isDivider cs, Text.trim part = ['.', '.']

theorem climbs_iff (home : String) :
  climbs home ↔ Climbs home.toList
  := by
  rw [climbs, List.any_eq_true]
  simp only [decide_eq_true_eq]
  rfl

theorem not_climbs_nil :
  ¬ Climbs []
  := by
  simp only [Climbs]
  decide

theorem climbs_append_slash (cs ds : List Char) :
  Climbs (cs ++ '/' :: ds) ↔ Climbs cs ∨ Climbs ds
  := by
  have hslash : isDivider '/' := by decide
  simp only [Climbs, Text.split_append_cons hslash, List.mem_append, or_and_right, exists_or]

/-- A path climbs exactly if one of its names does. -/
theorem climbs_ofSegments_iff (names : List (List Char)) :
  climbs (ofSegments names) ↔ ∃ name ∈ names, Climbs name
  := by
  rw [climbs_iff, ofSegments, String.toList_ofList]
  induction names with
  | nil => simpa [Text.join] using not_climbs_nil
  | cons name names ih =>
    cases names with
    | nil => simp [Text.join]
    | cons next names =>
      rw [Text.join, List.append_assoc, List.singleton_append, climbs_append_slash, ih,
        List.exists_mem_cons_iff _ name]
      apply List.cons_ne_nil

/-! ### The names of a home -/

theorem filter_split_dropHere (cs : List Char) :
  (Text.split isSlash (dropHere cs)).filter isProper = (Text.split isSlash cs).filter isProper
  := by
  fun_induction dropHere cs with
  | case1 cs ih =>
    have hslash : isSlash '/' := by decide
    have hdot : isProper ['.'] = false := by decide
    have hsplit : Text.split isSlash ('.' :: '/' :: cs) = ['.'] :: Text.split isSlash cs :=
      Text.split_append_cons hslash ['.'] cs
    rw [ih, hsplit, List.filter_cons_of_neg (by simp [hdot])]
  | case2 => rfl

theorem filter_split_dropWhile (cs : List Char) :
  (Text.split isSlash (cs.dropWhile isSlash)).filter isProper
    = (Text.split isSlash cs).filter isProper
  := by
  induction cs with
  | nil => rfl
  | cons c cs ih =>
    by_cases hc : isSlash c
    · have hempty : isProper [] = false := by decide
      rw [List.dropWhile_cons_of_pos hc, ih, Text.split, if_pos hc,
        List.filter_cons_of_neg (by simp [hempty])]
    · rw [List.dropWhile_cons_of_neg hc]

/-- The names of the normal form of a home are the proper names between its slashes. -/
theorem namesOf_eq (home : String) :
  namesOf home = (Text.split isSlash (Text.trim home.toList)).filter isProper
  := by rw [namesOf, filter_split_dropWhile, filter_split_dropHere]

/-- A name that climbs is left out only if it is `..`. -/
theorem isProper_iff_of_climbs {name : List Char} (h : Climbs name) :
  isProper name ↔ name ≠ ['.', '.']
  := by
  have hdot : ¬ Climbs ['.'] := by
    simp only [Climbs]
    decide
  have hempty : name ≠ [] := fun heq => not_climbs_nil (heq ▸ h)
  have hhere : name ≠ ['.'] := fun heq => hdot (heq ▸ h)
  simp [isProper, hempty, hhere]

/-- A name between slashes climbs exactly if one of its parts between backslashes is `..`, white
space around it aside. -/
theorem climbs_iff_of_slash_not_mem {name : List Char} (h : '/' ∉ name) :
  Climbs name ↔ ∃ part ∈ Text.split (· = '\\') name, Text.trim part = ['.', '.']
  := by
  have hsame : ∀ c ∈ name, isDivider c = decide (c = '\\') := by
    intro c hc
    have hne : c ≠ '/' := fun heq => h (heq ▸ hc)
    simp [isDivider, hne]
  have hsplit : ∀ cs : List Char, (∀ c ∈ cs, isDivider c = decide (c = '\\')) →
      Text.split isDivider cs = Text.split (· = '\\') cs := by
    intro cs hcs
    induction cs with
    | nil => rfl
    | cons c cs ih =>
      obtain ⟨hc, hcs⟩ := List.forall_mem_cons.mp hcs
      rw [Text.split, Text.split, hc, ih hcs]
  rw [Climbs, hsplit name hsame]

/-- The normal form of a home climbs exactly if one of the names between the slashes of the home is
not `..` itself but has `..` between backslashes, white space around it aside. -/
theorem climbs_normalize_iff (home : String) :
  climbs (normalize home)
    ↔ ∃ name ∈ Text.split isSlash (Text.trim home.toList), name ≠ ['.', '.']
      ∧ ∃ part ∈ Text.split (· = '\\') name, Text.trim part = ['.', '.']
  := by
  rw [normalize_eq, climbs_ofSegments_iff, namesOf_eq]
  apply exists_congr
  intro name
  rw [List.mem_filter, and_assoc]
  apply and_congr_right
  intro hname
  have hslash : '/' ∉ name := by
    intro hmem
    have := Text.not_of_mem_split hname hmem
    simp [isSlash] at this
  rw [← climbs_iff_of_slash_not_mem hslash]
  apply and_congr_left
  apply isProper_iff_of_climbs

/-- A home with `..` between backslashes is its own normal form, and climbs. So does the normal form
of a home with `..` next to white space. -/
theorem climbs_normalize_backslashes :
  normalize "models\\..\\foo" = "models\\..\\foo"
    ∧ climbs (normalize "models\\..\\foo")
    ∧ climbs (normalize "models/ .. /foo")
  := by decide

end ClientGen.Module
