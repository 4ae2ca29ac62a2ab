import ClientGen.Proofs.Text.Separators
import ClientGen.Proofs.Text.Split
import Mathlib.Data.List.DropRight
import Mathlib.Data.List.TakeWhile

/-!
# Texts without white space at their ends

White space keeps words apart, so what holds of a text because of words in it holds of one of its
lines, without the white space at the ends of the line. White space stands in a text that is
stripped of it at both ends exactly if other characters stand before it and after it.
-/

namespace ClientGen.Text

namespace SplitsAt

variable {P : List Char → Prop} (h : SplitsAt isBlank P)

include h

theorem trim_iff (cs : List Char) :
  P (trim cs) ↔ P cs
  := by
  have hstart : cs.takeWhile isBlank ++ cs.dropWhile isBlank = cs :=
    List.takeWhile_append_dropWhile
  have hend : trim cs ++ (cs.dropWhile isBlank).rtakeWhile isBlank = cs.dropWhile isBlank :=
    List.rdropWhile_append_rtakeWhile
  have hblank : (cs.takeWhile isBlank).all isBlank := List.all_takeWhile
  have hblank' : ((cs.dropWhile isBlank).rtakeWhile isBlank).all isBlank :=
    List.all_eq_true.mpr fun _ => List.mem_rtakeWhile_imp
  rw [← h.append_separators_iff hblank' (trim cs), hend,
    ← h.separators_append_iff hblank (cs.dropWhile isBlank), hstart]

/-- A property that splits at white space holds of a text exactly if it holds of one of its
lines. -/
theorem exists_mem_split_iff (cs : List Char) :
  (∃ line ∈ split (· = '\n') cs, P line) ↔ P cs
  := by
  have hjoin : ['\n'].intercalate (split (· = '\n') cs) = cs := by
    rw [split_eq_splitOnP]
    apply List.intercalate_splitOn '\n'
  have hblank : ['\n'].all isBlank := by decide
  rw [← h.intercalate_iff (List.cons_ne_nil _ _) hblank, hjoin]

end SplitsAt

/-! ### White space within a text -/

/-- White space is left before the end of a text if another character stands before it. -/
theorem exists_dropWhile_eq_iff {p : Char → Bool} {c : Char} (hc : p c) (cs bs : List Char) :
  (∃ as, cs.dropWhile p = as ++ c :: bs) ↔ ∃ as, cs = as ++ c :: bs ∧ ∃ d ∈ as, p d = false
  := by
  constructor
  · rintro ⟨as, heq⟩
    have hhead := List.head?_dropWhile_not p cs
    cases as with
    | nil =>
      rw [heq, List.nil_append, List.head?_cons] at hhead
      simp [hc] at hhead
    | cons a as =>
      refine ⟨cs.takeWhile p ++ a :: as, ?_, a, by simp, ?_⟩
      · rw [List.append_assoc, ← heq, List.takeWhile_append_dropWhile]
      · simpa [heq] using hhead
  · rintro ⟨as, rfl, d, hd, hp⟩
    use as.dropWhile p
    rw [List.dropWhile_append, if_neg]
    intro hempty
    rw [List.isEmpty_iff, List.dropWhile_eq_nil_iff] at hempty
    simp [hempty d hd] at hp

/-- White space is left in a text that is stripped of it at both ends if other characters stand
before it and after it. -/
theorem mem_trim_iff {c : Char} (hc : isBlank c) (cs : List Char) :
  c ∈ trim cs ↔ ∃ before after, cs = before ++ c :: after
    ∧ (∃ d ∈ before, isBlank d = false) ∧ ∃ d ∈ after, isBlank d = false
  := by
  rw [trim, trimEnd, List.mem_reverse]
  constructor
  · intro hmem
    obtain ⟨back, front, hstripped⟩ := List.append_of_mem hmem
    obtain ⟨rest, hreverse, hrest⟩ := (exists_dropWhile_eq_iff hc _ front).mp ⟨back, hstripped⟩
    have hdrop : cs.dropWhile isBlank = front.reverse ++ c :: rest.reverse := by
      simpa using congrArg List.reverse hreverse
    obtain ⟨before, heq, hbefore⟩ := (exists_dropWhile_eq_iff hc cs _).mp ⟨_, hdrop⟩
    exact ⟨before, rest.reverse, heq, hbefore, by simpa using hrest⟩
  · rintro ⟨before, after, heq, hbefore, hafter⟩
    obtain ⟨front, hdrop⟩ := (exists_dropWhile_eq_iff hc cs after).mpr ⟨before, heq, hbefore⟩
    have hreverse : (cs.dropWhile isBlank).reverse = after.reverse ++ c :: front.reverse := by
      simp [hdrop]
    obtain ⟨back, hstripped⟩ := (exists_dropWhile_eq_iff hc _ front.reverse).mpr
      ⟨after.reverse, hreverse, by simpa using hafter⟩
    rw [hstripped]
    apply List.mem_append_right _ List.mem_cons_self

end ClientGen.Text
