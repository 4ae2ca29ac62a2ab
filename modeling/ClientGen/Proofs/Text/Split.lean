import ClientGen.Text.Whitespace

/-!
# Splitting and joining

Texts are split at separators and joined again. Both functions are those of the library of
lists, so their laws come from there.
-/

namespace ClientGen

namespace Text

theorem split_eq_splitOnP (p : Char → Bool) (cs : List Char) :
  split p cs = cs.splitOnP p
  := by
  induction cs with
  | nil => simp [split]
  | cons c cs ih =>
    rw [split, List.splitOnP_cons_eq_if_modifyHead, ih]
    split
    · rfl
    · obtain ⟨segment, segments, h⟩ := List.exists_cons_of_ne_nil (List.splitOnP_ne_nil p cs)
      simp [h]

theorem join_eq_intercalate (separator : List Char) (names : List (List Char)) :
  join separator names = separator.intercalate names
  := by
  induction names with
  | nil => simp [join]
  | cons name names ih =>
    cases names with
    | nil => simp [join]
    | cons next names => simp [join, ih, List.intercalate_cons_cons]

/-- A separator keeps the segments before it and those after it apart. -/
theorem split_append_cons {p : Char → Bool} {c : Char} (hc : p c) (cs ds : List Char) :
  split p (cs ++ c :: ds) = split p cs ++ split p ds
  := by simp only [split_eq_splitOnP, List.splitOnP_append_cons _ _ hc]

/-- What stands in a segment stands in the text, and is no separator. -/
theorem mem_and_not_of_mem_split {p : Char → Bool} {cs segment : List Char}
    (hsegment : segment ∈ split p cs) {c : Char} (hc : c ∈ segment) :
  c ∈ cs ∧ p c = false
  := by
  induction cs generalizing segment with
  | nil =>
    obtain rfl : segment = [] := by simpa [split] using hsegment
    cases hc
  | cons d cs ih =>
    have hlater : ∀ later ∈ split p cs, c ∈ later → c ∈ d :: cs ∧ p c = false :=
      fun later hlater hc => (ih hlater hc).imp_left (List.mem_cons_of_mem d)
    rw [split] at hsegment
    obtain ⟨first, rest, hsplit⟩ := List.exists_cons_of_ne_nil (split_ne_nil p cs)
    rw [hsplit] at hsegment hlater
    by_cases hd : p d
    · rw [if_pos hd, List.mem_cons] at hsegment
      rcases hsegment with rfl | hsegment
      · cases hc
      · apply hlater segment hsegment hc
    · rw [if_neg hd, List.mem_cons] at hsegment
      rcases hsegment with rfl | hsegment
      · rcases List.mem_cons.mp hc with rfl | hc
        · exact ⟨List.mem_cons_self, by simpa using hd⟩
        · apply hlater first List.mem_cons_self hc
      · apply hlater segment (List.mem_cons_of_mem first hsegment) hc

/-- No segment holds a separator. -/
theorem not_of_mem_split {p : Char → Bool} {cs segment : List Char}
    (hsegment : segment ∈ split p cs) {c : Char} (hc : c ∈ segment) :
  p c = false
  := (mem_and_not_of_mem_split hsegment hc).2

/-- What stands in a joined text stands in the separator or in a name. -/
theorem mem_join {separator : List Char} {names : List (List Char)} {c : Char}
    (h : c ∈ join separator names) :
  c ∈ separator ∨ ∃ name ∈ names, c ∈ name
  := by
  rw [join_eq_intercalate] at h
  induction names with
  | nil => simp at h
  | cons name names ih =>
    cases names with
    | nil =>
      right
      simpa using h
    | cons next names =>
      rw [List.intercalate_cons_cons, List.mem_append, List.mem_append] at h
      rcases h with (hname | hseparator) | hnames
      · right
        exact ⟨name, List.mem_cons_self, hname⟩
      · left
        apply hseparator
      · apply (ih hnames).imp_right
        rintro ⟨other, hother, hc⟩
        exact ⟨other, List.mem_cons_of_mem name hother, hc⟩

end Text

end ClientGen
