import ClientGen.Proofs.Text.Occurrence

/-!
# Symbols of a text

Many languages give a backslash and the character after it a meaning of their own. So a text falls
into symbols, each a character or a backslash and a character. A word occurs barely in a text if
all its characters are symbols by themselves there.
-/

namespace ClientGen.Text

/-- A character by itself, or a character after a backslash. -/
inductive Symbol where
  | plain (c : Char)
  | escaped (c : Char)
deriving DecidableEq

/-- The characters of a symbol. -/
def Symbol.chars : Symbol → List Char
  | .plain c => [c]
  | .escaped c => ['\\', c]

/-- The symbols of a text. A backslash at the end is one by itself. -/
def symbols : List Char → List Symbol
  | [] => []
  | c :: cs =>
    if c = '\\' then
      match cs with
      | [] => [.plain c]
      | d :: ds => .escaped d :: symbols ds
    else .plain c :: symbols cs

theorem symbols_escaped (c : Char) (cs : List Char) :
  symbols ('\\' :: c :: cs) = .escaped c :: symbols cs
  := by rw [symbols, if_pos rfl]

theorem symbols_plain {c : Char} (hc : c ≠ '\\') (cs : List Char) :
  symbols (c :: cs) = .plain c :: symbols cs
  := by cases cs <;> simp [symbols, hc]

/-- The symbols of a text make up the text. -/
theorem flatMap_chars_symbols (cs : List Char) :
  (symbols cs).flatMap Symbol.chars = cs
  := by
  fun_induction symbols cs with
  | case1 => rfl
  | case2 => rfl
  | case3 d ds ih => simp [Symbol.chars, ih]
  | case4 c cs hc ih => simp [Symbol.chars, ih]

/-- Each character of a text is that of a symbol, or is a backslash before one. -/
theorem mem_iff_exists_mem_symbols {c : Char} {cs : List Char} :
  c ∈ cs ↔ ∃ s ∈ symbols cs, c ∈ s.chars
  := by rw [← List.mem_flatMap, flatMap_chars_symbols]

/-- What follows a text whose last symbol is no lone backslash has symbols of its own. -/
theorem symbols_append {as : List Char} (h : .plain '\\' ∉ symbols as) (bs : List Char) :
  symbols (as ++ bs) = symbols as ++ symbols bs
  := by
  fun_induction symbols as with
  | case1 => rfl
  | case2 => cases h List.mem_cons_self
  | case3 d ds ih =>
    rw [List.cons_append, List.cons_append, symbols_escaped, ih (List.not_mem_of_not_mem_cons h)]
    rfl
  | case4 c cs hc ih =>
    rw [List.cons_append, symbols_plain hc, ih (List.not_mem_of_not_mem_cons h)]
    rfl

/-- Only the last character of a text can be a lone backslash. -/
theorem backslash_not_mem_symbols {cs : List Char} (h : cs.getLast? ≠ some '\\') :
  .plain '\\' ∉ symbols cs
  := by
  fun_induction symbols cs with
  | case1 => apply List.not_mem_nil
  | case2 => cases h rfl
  | case3 d ds ih =>
    cases ds with
    | nil => simp [symbols]
    | cons e es => simpa using ih (by simpa using h)
  | case4 c cs hc ih =>
    cases cs with
    | nil => simpa [symbols] using Ne.symm hc
    | cons d ds => simpa [Ne.symm hc] using ih (by simpa using h)

/-- A text up to some symbol of it tells the symbols up to that one. -/
theorem eq_of_flatMap_chars_eq {as bs ss : List Symbol} (has : as <+: ss) (hbs : bs <+: ss)
    (h : as.flatMap Symbol.chars = bs.flatMap Symbol.chars) :
  as = bs
  := by
  have hempty : ∀ more : List Symbol, more.flatMap Symbol.chars = [] → more = [] := by
    rintro (_ | ⟨s, more⟩) hmore
    · rfl
    · cases s <;> cases hmore
  rcases List.prefix_or_prefix_of_prefix has hbs with ⟨more, rfl⟩ | ⟨more, rfl⟩
  · rw [List.flatMap_append, List.self_eq_append_right] at h
    rw [hempty more h, List.append_nil]
  · rw [List.flatMap_append, List.append_right_eq_self] at h
    rw [hempty more h, List.append_nil]

/-! ### Bare words -/

/-- A word that occurs in a text with no backslash before any of its characters. -/
def Bare (word cs : List Char) : Prop :=
  word.map .plain <:+: symbols cs

instance (word cs : List Char) : Decidable (Bare word cs) :=
  inferInstanceAs (Decidable (_ <:+: _))

/-- A character that is no backslash ends a symbol. The symbols before it are those of the text
before it, less a lone backslash, which is then the beginning of the symbol. -/
theorem symbols_append_cons {c : Char} (hc : c ≠ '\\') (as bs : List Char) :
  ∃ front s, s ∈ [.plain c, .escaped c]
    ∧ symbols (as ++ c :: bs) = front ++ s :: symbols bs
    ∧ symbols as ∈ [front, front ++ [.plain '\\']]
  := by
  fun_induction symbols as with
  | case1 => exact ⟨[], .plain c, by simp, symbols_plain hc bs, by simp⟩
  | case2 => exact ⟨[], .escaped c, by simp, symbols_escaped c bs, by simp⟩
  | case3 d ds ih =>
    obtain ⟨front, s, hs, hsymbols, hfront⟩ := ih
    refine ⟨.escaped d :: front, s, hs, ?_, by simpa using hfront⟩
    rw [List.cons_append, List.cons_append, symbols_escaped, hsymbols]
    rfl
  | case4 d ds hd ih =>
    obtain ⟨front, s, hs, hsymbols, hfront⟩ := ih
    refine ⟨.plain d :: front, s, hs, ?_, by simpa using hfront⟩
    rw [List.cons_append, symbols_plain hd, hsymbols]
    rfl

/-- A character that is neither in a word nor a backslash keeps its bare occurrences apart. -/
theorem bare_append_cons_iff {word : List Char} (hne : word ≠ []) (hbackslash : '\\' ∉ word)
    {c : Char} (hword : c ∉ word) (hc : c ≠ '\\') (as bs : List Char) :
  Bare word (as ++ c :: bs) ↔ Bare word as ∨ Bare word bs
  := by
  obtain ⟨front, s, hs, hsymbols, hfront⟩ := symbols_append_cons hc as bs
  have hnonempty : word.map Symbol.plain ≠ [] := mt List.map_eq_nil_iff.mp hne
  have hplain : ∀ d, d ∉ word → Symbol.plain d ∉ word.map .plain := by simp
  have hnot : s ∉ word.map .plain := by
    rcases List.mem_pair.mp hs with rfl | rfl
    · apply hplain c hword
    · simp
  rw [Bare, hsymbols, infix_append_cons_iff hnonempty hnot]
  apply or_congr_left
  rw [Bare]
  rcases List.mem_pair.mp hfront with heq | heq
  · rw [heq]
  · rw [heq, infix_append_cons_iff hnonempty (hplain _ hbackslash)]
    simp [hne]

/-- What stands in a text before the first bare occurrence of a word, and what follows it. -/
def cutBare (word cs : List Char) : Option (List Char × List Char) :=
  ((symbols cs).dropInfix? (word.map .plain)).map fun (before, after) =>
    (before.flatMap Symbol.chars, after.flatMap Symbol.chars)

/-- A text is what stands before the first bare occurrence of a word, the word, and the rest. -/
theorem eq_of_cutBare_eq_some {word cs before after : List Char}
    (h : cutBare word cs = some (before, after)) :
  cs = before ++ word ++ after
  := by
  obtain ⟨⟨front, back⟩, hcut, heq⟩ := Option.map_eq_some_iff.mp h
  obtain ⟨rfl, rfl⟩ := Prod.mk.inj heq
  obtain ⟨⟨other, hsymbols, hother⟩, -⟩ := List.dropInfix?_eq_some_iff.mp hcut
  obtain rfl := eq_of_beq hother
  have hword : (word.map Symbol.plain).flatMap Symbol.chars = word := by
    rw [List.flatMap_map]
    apply List.flatMap_singleton'
  rw [← flatMap_chars_symbols cs, hsymbols, List.flatMap_append, List.flatMap_append, hword]

theorem symbols_append_of_not_mem {word : List Char} (h : '\\' ∉ word) (bs : List Char) :
  symbols (word ++ bs) = word.map .plain ++ symbols bs
  := by
  induction word with
  | nil => rfl
  | cons c word ih =>
    have hc : c ≠ '\\' := (List.ne_of_not_mem_cons h).symm
    rw [List.cons_append, symbols_plain hc, ih (List.not_mem_of_not_mem_cons h)]
    rfl

section

variable {word as : List Char} (hne : word ≠ []) (hbackslash : '\\' ∉ word)
  (hclosed : .plain '\\' ∉ symbols as)

include hne hbackslash hclosed

/-- The first bare occurrence of a word stands right after a text exactly if the word does not occur
barely in the text, given that no part of the word stands barely at the end of the text. -/
theorem cutBare_append_iff (bs : List Char)
    (hborder : ∀ part, part ≠ [] → part <:+ symbols as → part <+: word.map .plain →
      part = word.map .plain) :
  cutBare word (as ++ word ++ bs) = some (as, bs) ↔ ¬ Bare word as
  := by
  have hsymbols : symbols (as ++ word ++ bs) = symbols as ++ word.map .plain ++ symbols bs := by
    rw [List.append_assoc, symbols_append hclosed, symbols_append_of_not_mem hbackslash,
      List.append_assoc]
  have hcut : (symbols as ++ word.map Symbol.plain ++ symbols bs).dropInfix? (word.map .plain)
      = some (symbols as, symbols bs) ↔ ¬ word.map .plain <:+: symbols as :=
    dropInfix?_append_iff (mt List.map_eq_nil_iff.mp hne) hborder
  rw [Bare, ← hcut, cutBare, hsymbols, Option.map_eq_some_iff]
  constructor
  · rintro ⟨⟨before, after⟩, heq, hchars⟩
    obtain ⟨hbefore, hafter⟩ := Prod.mk.inj hchars
    obtain ⟨⟨other, happend, hother⟩, -⟩ := List.dropInfix?_eq_some_iff.mp heq
    obtain rfl := eq_of_beq hother
    -- What stands before the word has the characters of the text, so it is its symbols.
    have hbegins : before <+: symbols as ++ word.map .plain ++ symbols bs := by
      rw [happend, List.append_assoc]
      apply List.prefix_append
    have hleft : before = symbols as := by
      apply eq_of_flatMap_chars_eq hbegins
      · rw [List.append_assoc]
        apply List.prefix_append
      · rw [hbefore, flatMap_chars_symbols]
    subst hleft
    rw [List.append_cancel_left happend] at heq ⊢
    rw [heq]
  · intro heq
    refine ⟨_, heq, ?_⟩
    simp only [flatMap_chars_symbols]

/-- The same for a text that ends with a character that the word does not have. -/
theorem cutBare_append_iff_of_getLast? {c : Char} (hlast : as.getLast? = some c) (hc : c ∉ word)
    (bs : List Char) :
  cutBare word (as ++ word ++ bs) = some (as, bs) ↔ ¬ Bare word as
  := by
  apply cutBare_append_iff hne hbackslash hclosed
  rintro part hpart ⟨before, hsuffix⟩ hbegins
  -- The last symbol of the text would be a character of the word.
  obtain ⟨s, hs⟩ := Option.isSome_iff_exists.mp (List.getLast?_isSome.mpr hpart)
  obtain ⟨d, hd, rfl⟩ := List.mem_map.mp (hbegins.subset (List.mem_of_getLast? hs))
  obtain ⟨front, rfl⟩ := List.getLast?_eq_some_iff.mp hs
  have has : as = (before ++ front).flatMap Symbol.chars ++ [d] := by
    rw [← flatMap_chars_symbols as, ← hsuffix, ← List.append_assoc, List.flatMap_append]
    rfl
  rw [has, List.getLast?_concat] at hlast
  rw [← Option.some.inj hlast] at hc
  cases hc hd

end

end ClientGen.Text
