import ClientGen.Proofs.Text.Occurrence
import ClientGen.Proofs.Text.Split
import Mathlib.Data.List.Basic
import Mathlib.Data.List.Infix

/-!
# Items of a text

Items with a comma and a space between them are read one by one. They are read back if each of them
is, and a text that is read consists of items with nothing but a comma and a space between them. Of
texts side by side, the first segment begins with a text that has no separator, and the last one
ends with such a text.
-/

namespace ClientGen.Text

/-! ### Segments of texts side by side -/

section

variable {c : Char}

theorem split_eq_singleton {cs : List Char} (h : c ∉ cs) :
  split (· = c) cs = [cs]
  := by
  rw [split_eq_splitOnP]
  apply List.splitOnP_eq_singleton
  intro d hd
  simpa using ne_of_mem_of_not_mem hd h

/-- The first segment is what stands at the beginning of the text. -/
theorem prefix_of_split_eq_cons {p : Char → Bool} {cs first : List Char} {rest : List (List Char)}
    (h : split p cs = first :: rest) :
  first <+: cs
  := by
  induction cs generalizing first rest with
  | nil =>
    obtain ⟨rfl, -⟩ := List.cons.inj h
    apply List.nil_prefix
  | cons d cs ih =>
    obtain ⟨next, others, hsplit⟩ := List.exists_cons_of_ne_nil (split_ne_nil p cs)
    rw [split, hsplit] at h
    split at h
    · obtain ⟨rfl, -⟩ := List.cons.inj h
      apply List.nil_prefix
    · obtain ⟨rfl, -⟩ := List.cons.inj h
      apply List.cons_prefix_cons.mpr ⟨rfl, ih hsplit⟩

/-- A text without separators begins the first segment. -/
theorem exists_append_mem_split {as : List Char} (h : c ∉ as) (bs : List Char) :
  ∃ first, first <+: bs ∧ as ++ first ∈ split (· = c) (as ++ bs)
  := by
  obtain ⟨first, rest, hsplit⟩ := List.exists_cons_of_ne_nil (split_ne_nil (· = c) bs)
  have hfirst : split (· = c) (as ++ bs) = (as ++ first) :: rest := by
    induction as with
    | nil => exact hsplit
    | cons a as ih =>
      obtain ⟨ha, has⟩ := List.ne_and_not_mem_of_not_mem_cons h
      rw [List.cons_append, split, if_neg (by simpa using ha.symm), ih has]
      rfl
  refine ⟨first, prefix_of_split_eq_cons hsplit, ?_⟩
  rw [hfirst]
  apply List.mem_cons_self

/-- A text without separators ends the last segment. -/
theorem exists_mem_split_append {bs : List Char} (h : c ∉ bs) (as : List Char) :
  ∃ last, last <:+ as ∧ last ++ bs ∈ split (· = c) (as ++ bs)
  := by
  induction as using List.reverseRecOn generalizing bs with
  | nil => exact ⟨[], List.suffix_rfl, by simp [split_eq_singleton h]⟩
  | append_singleton as a ih =>
    rw [List.append_assoc, List.singleton_append]
    by_cases ha : a = c
    · refine ⟨[], List.nil_suffix, ?_⟩
      rw [split_append_cons (decide_eq_true ha), split_eq_singleton h]
      simp
    · have hbs : c ∉ a :: bs := List.not_mem_cons_of_ne_of_not_mem (Ne.symm ha) h
      obtain ⟨last, ⟨before, rfl⟩, hmem⟩ := ih hbs
      refine ⟨last ++ [a], ⟨before, by simp⟩, by simpa using hmem⟩

/-- The segments with the separator between them make up the text. -/
theorem intercalate_split (c : Char) (cs : List Char) :
  [c].intercalate (split (· = c) cs) = cs
  := by
  rw [split_eq_splitOnP]
  apply List.intercalate_splitOn c

theorem eq_of_split_eq {cs ds : List Char} (h : split (· = c) cs = split (· = c) ds) :
  cs = ds
  := by rw [← intercalate_split c cs, h, intercalate_split]

/-- What stands in a text and is no separator stands in a segment. -/
theorem exists_mem_split_of_mem {d : Char} {cs : List Char} (hd : d ∈ cs) (hne : d ≠ c) :
  ∃ segment ∈ split (· = c) cs, d ∈ segment
  := by
  rw [← intercalate_split c cs, ← join_eq_intercalate] at hd
  apply (mem_join hd).resolve_left
  simpa using hne

end

/-! ### Occurrences of a separator -/

section

/-- A text is cut at the first occurrence of a character. -/
theorem dropInfix?_singleton_eq_some_iff {c : Char} {cs as bs : List Char} :
  cs.dropInfix? [c] = some (as, bs) ↔ cs = as ++ c :: bs ∧ c ∉ as
  := by
  have hborder : ∀ part, part ≠ [] → part <:+ as → part <+: [c] → part = [c] := by
    intro part hne _ hbegins
    rcases List.prefix_cons_iff.mp hbegins with rfl | ⟨rest, rfl, hrest⟩
    · cases hne rfl
    · rw [List.prefix_nil.mp hrest]
  have hiff : (as ++ [c] ++ bs).dropInfix? [c] = some (as, bs) ↔ ¬ [c] <:+: as :=
    dropInfix?_append_iff (List.cons_ne_nil c []) hborder
  rw [List.singleton_infix_iff, List.append_assoc, List.singleton_append] at hiff
  constructor
  · intro h
    obtain ⟨⟨_, rfl, heq⟩, -⟩ := List.dropInfix?_eq_some_iff.mp h
    obtain rfl := eq_of_beq heq
    rw [List.append_assoc, List.singleton_append] at h
    exact ⟨by simp, hiff.mp h⟩
  · rintro ⟨rfl, hc⟩
    apply hiff.mpr hc

/-- A text tells what stands before the first occurrence of a character in it, and what follows. -/
theorem eq_of_append_cons_eq_of_first {as bs cs ds : List Char} {c : Char} (has : c ∉ as)
    (hcs : c ∉ cs) (h : as ++ c :: bs = cs ++ c :: ds) :
  as = cs ∧ bs = ds
  := by
  have hcut := dropInfix?_singleton_eq_some_iff.mpr ⟨h, hcs⟩
  rw [dropInfix?_singleton_eq_some_iff.mpr ⟨rfl, has⟩] at hcut
  simpa using hcut

/-- A list tells what follows the last occurrence of an item in it, and what stands before. -/
theorem eq_of_append_cons_eq {α : Type} {as bs cs ds : List α} {c : α} (hbs : c ∉ bs) (hds : c ∉ ds)
    (h : as ++ c :: bs = cs ++ c :: ds) :
  as = cs ∧ bs = ds
  := by
  rcases List.append_eq_append_iff.mp h with ⟨more, rfl, heq⟩ | ⟨more, rfl, heq⟩
  all_goals
    cases more with
    | nil => simp_all
    | cons d more =>
      obtain ⟨rfl, rfl⟩ := List.cons.inj heq
      simp at hbs hds

end

/-! ### Reading items -/

section

variable {α : Type}

/-- What texts read as, if each of them reads as something. -/
def readAll (read : List Char → Option α) (texts : List (List Char)) : Option (List α) :=
  if texts.all fun text => (read text).isSome then some (texts.filterMap read) else none

/-- An item after a space. -/
def readSpaced (read : List Char → Option α) (cs : List Char) : Option α :=
  (cs.dropPrefix? [' ']).bind read

/-- Items with a comma and a space between them. There is at least one. -/
def readItems (read : List Char → Option α) (cs : List Char) : Option (List α) :=
  readAll (readSpaced read) (split (· = ',') (' ' :: cs))

variable {read : List Char → Option α}

theorem readAll_eq_some_iff {texts : List (List Char)} {as : List α} :
  readAll read texts = some as
    ↔ (∀ text ∈ texts, (read text).isSome) ∧ texts.filterMap read = as
  := by simp [readAll]

theorem readSpaced_eq_some_iff {cs : List Char} {a : α} :
  readSpaced read cs = some a ↔ ∃ item, cs = ' ' :: item ∧ read item = some a
  := by simp [readSpaced, Option.bind_eq_some_iff, List.dropPrefix?_eq_some_iff]

theorem readAll_map {text : α → List Char} {as : List α}
    (h : ∀ a ∈ as, read (text a) = some a) :
  readAll read (as.map text) = some as
  := by
  apply readAll_eq_some_iff.mpr
  constructor
  · simpa using fun a ha => by simp [h a ha]
  · rw [List.filterMap_map]
    apply Eq.trans (List.filterMap_congr h) List.filterMap_some

/-- Items with a space before each of them. -/
theorem cons_intercalate {texts : List (List Char)} (hne : texts ≠ []) :
  ' ' :: [',', ' '].intercalate texts = [','].intercalate (texts.map (' ' :: ·))
  := by
  induction texts with
  | nil => cases hne rfl
  | cons text texts ih =>
    cases texts with
    | nil => simp
    | cons next texts =>
      have ih := ih (List.cons_ne_nil _ _)
      rw [List.intercalate_cons_cons, List.map_cons, List.map_cons, List.intercalate_cons_cons,
        ← List.map_cons, ← ih]
      simp

/-- Items are read back if each of them is and has no comma. -/
theorem readItems_intercalate {text : α → List Char} {items : List α} (hne : items ≠ [])
    (hcomma : ∀ a ∈ items, ',' ∉ text a) (h : ∀ a ∈ items, read (text a) = some a) :
  readItems read ([',', ' '].intercalate (items.map text)) = some items
  := by
  have hsplit : split (· = ',') (' ' :: [',', ' '].intercalate (items.map text))
      = items.map fun a => ' ' :: text a := by
    rw [cons_intercalate (by simpa using hne), split_eq_splitOnP, List.map_map]
    apply List.splitOn_intercalate
    · simpa using hcomma
    · simpa using hne
  rw [readItems, hsplit]
  apply readAll_map
  intro a ha
  apply readSpaced_eq_some_iff.mpr ⟨_, rfl, h a ha⟩

/-- A text that reads as items has a comma and a space between them. -/
theorem exists_eq_intercalate_of_readItems {cs : List Char} {as : List α}
    (h : readItems read cs = some as) :
  ∃ texts, texts ≠ [] ∧ cs = [',', ' '].intercalate texts
    ∧ ∀ text ∈ texts, ∃ a, read text = some a
  := by
  obtain ⟨hread, -⟩ := readAll_eq_some_iff.mp h
  have hspaced : ∀ piece ∈ split (· = ',') (' ' :: cs), piece = ' ' :: piece.tail
      ∧ ∃ a, read piece.tail = some a := by
    intro piece hpiece
    obtain ⟨a, ha⟩ := Option.isSome_iff_exists.mp (hread piece hpiece)
    obtain ⟨item, rfl, hitem⟩ := readSpaced_eq_some_iff.mp ha
    exact ⟨rfl, a, hitem⟩
  have hne : (split (· = ',') (' ' :: cs)).map List.tail ≠ [] := by
    simpa using split_ne_nil _ _
  refine ⟨_, hne, ?_, ?_⟩
  · have hjoin := intercalate_split ',' (' ' :: cs)
    have hpieces : ((split (· = ',') (' ' :: cs)).map List.tail).map (' ' :: ·)
        = split (· = ',') (' ' :: cs) := by
      rw [List.map_map]
      apply Eq.trans _ (List.map_id _)
      apply List.map_congr_left
      intro piece hpiece
      apply (hspaced piece hpiece).1.symm
    rw [← hpieces, ← cons_intercalate hne] at hjoin
    apply (List.cons.inj hjoin).2.symm
  · intro text htext
    obtain ⟨piece, hpiece, rfl⟩ := List.mem_map.mp htext
    apply (hspaced piece hpiece).2

end

end ClientGen.Text
