import ClientGen.Proofs.Text.Symbols

/-!
# Characters that keep words apart

A word that lacks certain characters occurs in a text with such a character in it exactly if it
occurs before the character or after it.
-/

namespace ClientGen.Text

/-- A property of texts that holds of a text with a separator in it exactly if it holds of the text
before the separator or of the text after it. -/
structure SplitsAt (p : Char → Bool) (P : List Char → Prop) : Prop where
  nil : ¬ P []
  append_cons_iff : ∀ c, p c → ∀ as bs, P (as ++ c :: bs) ↔ P as ∨ P bs

variable {p : Char → Bool}

/-- Whether a word occurs in a text splits at separators, if the word has none. -/
theorem splitsAt_infix {word : List Char} (hne : word ≠ []) (hword : word.any p = false) :
  SplitsAt p fun cs => word <:+: cs
  where
  nil := mt List.infix_nil.mp hne
  append_cons_iff := by
    intro c hc
    apply infix_append_cons_iff hne
    intro hmem
    apply List.any_eq_false.mp hword c hmem hc

/-- Whether a word occurs barely in a text splits at separators, if the word has none. -/
theorem splitsAt_bare {word : List Char} (hne : word ≠ []) (hbackslash : '\\' ∉ word)
    (hword : word.any p = false) (hp : p '\\' = false) :
  SplitsAt p (Bare word)
  where
  nil := by simp [Bare, symbols, hne]
  append_cons_iff := by
    intro c hc
    apply bare_append_cons_iff hne hbackslash
    · intro hmem
      apply List.any_eq_false.mp hword c hmem hc
    · rintro rfl
      rw [hp] at hc
      cases hc

namespace SplitsAt

variable {P : List Char → Prop} (h : SplitsAt p P)

include h

theorem cons_iff {c : Char} (hc : p c) (cs : List Char) :
  P (c :: cs) ↔ P cs
  := by
  rw [← List.nil_append (c :: cs), h.append_cons_iff c hc, or_iff_right h.nil]

theorem separators_append_iff {separators : List Char} (hp : separators.all p)
    (cs : List Char) :
  P (separators ++ cs) ↔ P cs
  := by
  induction separators with
  | nil => rfl
  | cons c separators ih =>
    rw [List.all_cons, Bool.and_eq_true] at hp
    rw [List.cons_append, h.cons_iff hp.1, ih hp.2]

theorem append_separators_iff {separators : List Char} (hp : separators.all p)
    (cs : List Char) :
  P (cs ++ separators) ↔ P cs
  := by
  cases separators with
  | nil => rw [List.append_nil]
  | cons c separators =>
    rw [List.all_cons, Bool.and_eq_true] at hp
    have hnot : ¬ P separators := by
      rw [← List.append_nil separators, h.separators_append_iff hp.2]
      apply h.nil
    rw [h.append_cons_iff c hp.1, or_iff_left hnot]

/-- A property that splits at separators holds of texts with separators between them exactly if it
holds of one of them. -/
theorem intercalate_iff {separators : List Char} (hne : separators ≠ [])
    (hp : separators.all p) (texts : List (List Char)) :
  P (separators.intercalate texts) ↔ ∃ text ∈ texts, P text
  := by
  obtain ⟨c, separators, rfl⟩ := List.exists_cons_of_ne_nil hne
  rw [List.all_cons, Bool.and_eq_true] at hp
  induction texts with
  | nil => simpa using h.nil
  | cons text texts ih =>
    cases texts with
    | nil => simp
    | cons next texts =>
      rw [List.intercalate_cons_cons, List.append_assoc, List.cons_append,
        h.append_cons_iff c hp.1, h.separators_append_iff hp.2, ih, List.exists_mem_cons_iff _ text]

end SplitsAt

end ClientGen.Text
