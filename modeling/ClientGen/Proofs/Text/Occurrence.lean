import Mathlib.Data.List.Infix
import Mathlib.Tactic.Use

/-!
# Words that occur in a text

A word that lacks the character at a border does not occur across it, so it occurs in two texts
side by side only if it occurs in one of them. What stands before a word is all that stands before
its first occurrence if the word does not occur in it, and no beginning of the word stands at its
end.
-/

namespace ClientGen

variable {α : Type} {word as bs : List α}

/-- What occurs in two texts side by side, the first of which ends or the second of which starts
with a character that it does not have, occurs in one of them. -/
theorem infix_append_iff_of_not_mem {c : α} (hc : c ∉ word)
    (h : as.getLast? = some c ∨ bs.head? = some c) :
  word <:+: as ++ bs ↔ word <:+: as ∨ word <:+: bs
  := by
  rw [List.infix_append_iff_ne_nil, ← or_assoc, or_iff_left]
  -- Otherwise it would occur across the border, and so have the character there.
  rintro ⟨front, back, hfront, hback, rfl, ⟨before, rfl⟩, ⟨after, rfl⟩⟩
  apply hc
  rcases h with hlast | hhead
  · rw [List.getLast?_append_of_ne_nil _ hfront] at hlast
    apply List.mem_append_left _ (List.mem_of_getLast? hlast)
  · rw [List.head?_append_of_ne_nil _ hback] at hhead
    apply List.mem_append_right _ (List.mem_of_head? hhead)

/-- A character that a word does not have keeps its occurrences apart. -/
theorem infix_append_cons_iff {c : α} (hne : word ≠ []) (hc : c ∉ word) (as bs : List α) :
  word <:+: as ++ c :: bs ↔ word <:+: as ∨ word <:+: bs
  := by
  have hnot : ¬ word <:+: [c] := by
    intro h
    apply hc
    cases word with
    | nil => cases hne rfl
    | cons d ds =>
      obtain rfl := List.mem_singleton.mp (h.subset List.mem_cons_self)
      apply List.mem_cons_self
  rw [infix_append_iff_of_not_mem hc (.inr rfl), ← List.singleton_append,
    infix_append_iff_of_not_mem hc (.inl rfl), or_iff_right hnot]

variable [BEq α] [LawfulBEq α]

/-- The first occurrence of a word stands right after a text exactly if the word does not occur in
the text, given that no part of the word at the end of the text is the beginning of one. -/
theorem dropInfix?_append_iff (hne : word ≠ [])
    (hborder : ∀ part, part ≠ [] → part <:+ as → part <+: word → part = word) :
  (as ++ word ++ bs).dropInfix? word = some (as, bs) ↔ ¬ word <:+: as
  := by
  rw [List.dropInfix?_eq_some_iff]
  constructor
  · rintro ⟨-, hfirst⟩ ⟨before, after, rfl⟩
    have hlength := hfirst before word (after ++ word ++ bs) (by simp) (beq_self_eq_true word)
    have hpos : 0 < word.length := List.length_pos_of_ne_nil hne
    simp only [List.length_append] at hlength
    omega
  · intro hnot
    use ⟨word, rfl, beq_self_eq_true word⟩
    intro before other after heq hother
    obtain rfl := eq_of_beq hother
    by_contra! hlt
    rw [List.append_assoc, List.append_assoc, List.append_eq_append_iff] at heq
    rcases heq with ⟨more, rfl, -⟩ | ⟨more, rfl, heq⟩
    · rw [List.length_append] at hlt
      omega
    · -- The earlier occurrence starts within the text, and `more` is the rest of the text there.
      apply hnot
      rcases List.append_eq_append_iff.mp heq with ⟨rest, rfl, -⟩ | ⟨rest, hword, -⟩
      · use before, rest
        simp
      · have hmore : more = other := by
          apply hborder more _ (List.suffix_append before more)
          · use rest, hword.symm
          · rintro rfl
            simp at hlt
        rw [hmore]
        apply (List.suffix_append before other).isInfix

/-- The same for a text that ends with a character that the word does not have. -/
theorem dropInfix?_append_iff_of_getLast? {c : α} (hne : word ≠ []) (hlast : as.getLast? = some c)
    (hc : c ∉ word) :
  (as ++ word ++ bs).dropInfix? word = some (as, bs) ↔ ¬ word <:+: as
  := by
  apply dropInfix?_append_iff hne
  rintro part hpart ⟨before, rfl⟩ hbegins
  rw [List.getLast?_append_of_ne_nil _ hpart] at hlast
  cases hc (hbegins.subset (List.mem_of_getLast? hlast))

end ClientGen
