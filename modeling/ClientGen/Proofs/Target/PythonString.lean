import ClientGen.Proofs.Text.Symbols
import ClientGen.Text.Digits

/-!
# Strings of Python between quotation marks

Between quotation marks a backslash and what follows it stand for other characters in Python, unless
the language gives the two no meaning. So the value of a string is at most as long as the text
between the quotation marks, and it is this text exactly if all symbols of it stand for themselves.
-/

namespace ClientGen

open Text

namespace PythonString

/-! ### Reading a string -/

/-- A text with line feeds as its only line ends. -/
def unifyLineEnds : List Char → List Char
  | [] => []
  | '\r' :: '\n' :: cs => '\n' :: unifyLineEnds cs
  | '\r' :: cs => '\n' :: unifyLineEnds cs
  | c :: cs => c :: unifyLineEnds cs

/-- The characters that a backslash and a character stand for. -/
def marks : List (Char × Char) := [
  ('\\', '\\'), ('\'', '\''), ('"', '"'), ('a', '\x07'), ('b', '\x08'), ('t', '\t'), ('n', '\n'),
  ('v', '\x0b'), ('f', '\x0c'), ('r', '\r')]

/-- The octal digits. -/
def octalDigits : List Char :=
  ['0', '1', '2', '3', '4', '5', '6', '7']

/-- The characters that stand before as many hexadecimal digits. -/
def hexadecimalMarks : List (Char × Nat) :=
  [('x', 2), ('u', 4), ('U', 8)]

/-- The characters with a meaning after a backslash. -/
def meanings : List Char :=
  ['\n', 'N'] ++ octalDigits ++ hexadecimalMarks.map Prod.fst ++ marks.map Prod.fst

/-- The code point that a text starts with in hexadecimal digits. -/
def codePoint? (digits : Nat) (cs : List Char) : Option Nat :=
  if digits ≤ cs.length then (natural? 16 (cs.take digits)).filter (· ≤ 0x10FFFF) else none

/-- The name between curly brackets that a text starts with. -/
def characterName? : List Char → Option (List Char)
  | '\x7b' :: cs => if '\x7d' ∈ cs then some (cs.takeWhile (· ≠ '\x7d')) else none
  | _ => none

/-- What the text after a backslash stands for there, and how many characters of it do so. The
characters with names are a parameter. -/
def escape? (named : List Char → Option Char) : List Char → Option (List Nat × Nat)
  | [] => none
  | c :: cs =>
    if c = '\n' then some ([], 1)
    else if c = 'N' then
      (characterName? cs).bind fun name => (named name).map fun d => ([d.toNat], name.length + 3)
    else if c ∈ octalDigits then
      let digits := c :: (cs.take 2).takeWhile octalDigits.contains
      (natural? 8 digits).map fun n => ([n], digits.length)
    else match hexadecimalMarks.lookup c, marks.lookup c with
      | some digits, _ => (codePoint? digits cs).map fun n => ([n], digits + 1)
      | none, some d => some ([d.toNat], 1)
      | none, none => some (['\\'.toNat, c.toNat], 1)

/-- The code points that a text between quotation marks stands for, after as many characters as are
taken already. -/
def decode (named : List Char → Option Char) : Nat → List Char → Option (List Nat)
  | _, [] => some []
  | taken + 1, _ :: cs => decode named taken cs
  | 0, c :: cs =>
    if c = '\\' then
      (escape? named cs).bind fun (value, count) => (decode named count cs).map (value ++ ·)
    else (decode named 0 cs).map (c.toNat :: ·)

/-- The value of the string that a text starts with, and what follows it. Three quotation marks
begin a string of several lines. -/
def read? (named : List Char → Option Char) (text : List Char) : Option (List Nat × List Char) :=
  let text := unifyLineEnds text
  if '\x00' ∈ text then none
  else if "\"\"\"".toList <+: text then
    (cutBare "\"\"\"".toList (text.drop 3)).bind fun (body, rest) =>
      (decode named 0 body).map fun value => (value, rest)
  else if text.head? = some '"' then
    (cutBare ['"'] text.tail).bind fun (body, rest) =>
      if .plain '\n' ∈ symbols body then none
      else (decode named 0 body).map fun value => (value, rest)
  else none

/-- Whether a symbol is kept by the rules for backslashes. -/
def isKept : Symbol → Bool
  | .plain c => c ≠ '\\'
  | .escaped c => c ∉ meanings

/-- The characters that cannot stand by themselves between two quotation marks. -/
def barred : List Char :=
  ['"', '\n', '\r', '\x00']

variable {named : List Char → Option Char}

/-! ### Line ends -/

theorem carriageReturn_not_mem_unifyLineEnds (cs : List Char) :
  '\r' ∉ unifyLineEnds cs
  := by
  fun_induction unifyLineEnds cs with
  | case1 => apply List.not_mem_nil
  | case2 cs ih => simpa using ih
  | case3 cs _ ih => simpa using ih
  | case4 c cs _ hc ih =>
    rw [List.mem_cons, not_or]
    exact ⟨fun h => hc h.symm, ih⟩

theorem unifyLineEnds_of_not_mem {cs : List Char} (h : '\r' ∉ cs) :
  unifyLineEnds cs = cs
  := by
  fun_induction unifyLineEnds cs with
  | case1 => rfl
  | case2 => cases h List.mem_cons_self
  | case3 => cases h List.mem_cons_self
  | case4 c cs _ hc ih => rw [ih (List.not_mem_of_not_mem_cons h)]

theorem length_unifyLineEnds_le (cs : List Char) :
  (unifyLineEnds cs).length ≤ cs.length
  := by
  fun_induction unifyLineEnds cs <;> grind

/-! ### Escapes -/

/-- A character has no pair exactly if it is not among the keys. -/
theorem lookup_eq_none_iff_not_mem {β : Type} {c : Char} {pairs : List (Char × β)} :
  pairs.lookup c = none ↔ c ∉ pairs.map Prod.fst
  := by
  rw [List.lookup_eq_none_iff]
  constructor
  · intro h hmem
    obtain ⟨pair, hpair, rfl⟩ := List.mem_map.mp hmem
    simpa using h pair hpair
  · intro h pair hpair
    rw [bne_iff_ne]
    rintro rfl
    apply h (List.mem_map_of_mem hpair)

/-- A backslash and a character without a meaning after it stand for themselves. -/
theorem escape?_of_not_mem {c : Char} (hc : c ∉ meanings) (cs : List Char) :
  escape? named (c :: cs) = some (['\\'.toNat, c.toNat], 1)
  := by
  simp only [meanings, List.mem_append, not_or] at hc
  obtain ⟨⟨⟨hletter, hdigit⟩, hhexadecimal⟩, hmark⟩ := hc
  obtain ⟨hline, hname⟩ : c ≠ '\n' ∧ c ≠ 'N' := by simpa using hletter
  rw [← lookup_eq_none_iff_not_mem] at hhexadecimal hmark
  rw [escape?, if_neg hline, if_neg hname, if_neg hdigit, hhexadecimal, hmark]

/-- A backslash and a character with a meaning after it stand for a single character at most. -/
theorem length_escape?_le {c : Char} (hc : c ∈ meanings) {cs : List Char} {value : List Nat}
    {count : Nat} (h : escape? named (c :: cs) = some (value, count)) :
  value.length ≤ 1 ∧ 1 ≤ count
  := by
  rw [escape?] at h
  split_ifs at h with hline hname hdigit
  · cases h
    simp
  · obtain ⟨name, -, hname⟩ := Option.bind_eq_some_iff.mp h
    obtain ⟨d, -, ⟨⟩⟩ := Option.map_eq_some_iff.mp hname
    simp
  · obtain ⟨n, -, ⟨⟩⟩ := Option.map_eq_some_iff.mp h
    simp
  · split at h
    case h_1 =>
      obtain ⟨n, -, ⟨⟩⟩ := Option.map_eq_some_iff.mp h
      simp
    case h_2 =>
      cases h
      simp
    case h_3 hhexadecimal hmark =>
      rw [lookup_eq_none_iff_not_mem] at hhexadecimal hmark
      simp [meanings, hline, hname, hdigit, hhexadecimal, hmark] at hc

/-! ### Values -/

theorem decode_plain {c : Char} (hc : c ≠ '\\') (cs : List Char) :
  decode named 0 (c :: cs) = (decode named 0 cs).map (c.toNat :: ·)
  := by rw [decode, if_neg hc]

theorem decode_backslash (cs : List Char) :
  decode named 0 ('\\' :: cs)
    = (escape? named cs).bind fun (value, count) => (decode named count cs).map (value ++ ·)
  := by rw [decode, if_pos rfl]

theorem decode_of_not_mem {c : Char} (hc : c ∉ meanings) (cs : List Char) :
  decode named 0 ('\\' :: c :: cs)
    = (decode named 0 cs).map fun value => '\\'.toNat :: c.toNat :: value
  := by
  rw [decode_backslash, escape?_of_not_mem hc]
  rfl

/-- The value of a string is at most as long as the text between the quotation marks. -/
theorem length_decode_le {taken : Nat} {cs : List Char} {value : List Nat}
    (h : decode named taken cs = some value) :
  value.length ≤ cs.length - taken
  := by
  induction cs generalizing taken value with
  | nil =>
    rw [decode] at h
    cases h
    apply Nat.zero_le
  | cons c cs ih =>
    rw [List.length_cons]
    cases taken with
    | succ taken =>
      rw [Nat.add_sub_add_right]
      apply ih h
    | zero =>
      by_cases hc : c = '\\'
      · rw [hc, decode_backslash] at h
        obtain ⟨⟨first, count⟩, hescape, hrest⟩ := Option.bind_eq_some_iff.mp h
        obtain ⟨rest, hdecode, rfl⟩ := Option.map_eq_some_iff.mp hrest
        have hlength := ih hdecode
        obtain ⟨d, ds, rfl⟩ := List.exists_cons_of_ne_nil (l := cs) (by rintro rfl; cases hescape)
        rw [List.length_cons] at hlength ⊢
        by_cases hd : d ∈ meanings
        · have hfirst := length_escape?_le hd hescape
          rw [List.length_append]
          omega
        · rw [escape?_of_not_mem hd] at hescape
          cases hescape
          simp only [List.length_append, List.length_cons, List.length_nil]
          omega
      · rw [decode_plain hc] at h
        obtain ⟨rest, hdecode, rfl⟩ := Option.map_eq_some_iff.mp h
        have hlength := ih hdecode
        rw [List.length_cons]
        omega

/-- A character with a meaning after a backslash makes the value shorter than the text. -/
theorem length_decode_lt {c : Char} (hc : c ∈ meanings) {cs : List Char} {value : List Nat}
    (h : decode named 0 ('\\' :: c :: cs) = some value) :
  value.length < cs.length + 2
  := by
  rw [decode_backslash] at h
  obtain ⟨⟨first, count⟩, hescape, hrest⟩ := Option.bind_eq_some_iff.mp h
  obtain ⟨rest, hdecode, rfl⟩ := Option.map_eq_some_iff.mp hrest
  have hfirst := length_escape?_le hc hescape
  have hlength := length_decode_le hdecode
  rw [List.length_cons] at hlength
  rw [List.length_append]
  omega

/-- The value of a string is as long as the text between the quotation marks exactly if it is the
text, and then all symbols of the text are kept. -/
theorem decode_eq_some_iff {cs : List Char} {value : List Nat} :
  decode named 0 cs = some value ∧ cs.length ≤ value.length
    ↔ value = cs.map Char.toNat ∧ ∀ s ∈ symbols cs, isKept s
  := by
  fun_induction symbols cs generalizing value with
  | case1 =>
    rw [decode, Option.some_inj]
    constructor
    · rintro ⟨rfl, -⟩
      exact ⟨rfl, List.forall_mem_nil _⟩
    · rintro ⟨rfl, -⟩
      exact ⟨rfl, Nat.zero_le _⟩
  | case2 => simp [decode, escape?, isKept]
  | case3 d ds ih =>
    rw [List.forall_mem_cons, isKept, decide_eq_true_iff]
    by_cases hd : d ∈ meanings
    · constructor
      · rintro ⟨hdecode, hlength⟩
        have hshorter := length_decode_lt hd hdecode
        rw [List.length_cons, List.length_cons] at hlength
        omega
      · rintro ⟨-, hkept, -⟩
        cases hkept hd
    · rw [decode_of_not_mem hd, Option.map_eq_some_iff]
      constructor
      · rintro ⟨⟨rest, hdecode, rfl⟩, hlength⟩
        obtain ⟨rfl, hkept⟩ := ih.mp ⟨hdecode, by simpa using hlength⟩
        exact ⟨rfl, hd, hkept⟩
      · rintro ⟨rfl, -, hkept⟩
        obtain ⟨hdecode, -⟩ := ih.mpr ⟨rfl, hkept⟩
        exact ⟨⟨_, hdecode, rfl⟩, by simp⟩
  | case4 c cs hc ih =>
    rw [List.forall_mem_cons, isKept, decide_eq_true_iff, decode_plain hc, Option.map_eq_some_iff]
    constructor
    · rintro ⟨⟨rest, hdecode, rfl⟩, hlength⟩
      obtain ⟨rfl, hkept⟩ := ih.mp ⟨hdecode, by simpa using hlength⟩
      exact ⟨rfl, hc, hkept⟩
    · rintro ⟨rfl, -, hkept⟩
      obtain ⟨hdecode, -⟩ := ih.mpr ⟨rfl, hkept⟩
      exact ⟨⟨_, hdecode, rfl⟩, by simp⟩

/-! ### Texts that are their own values -/

/-- A string stands between two quotation marks, on a single line, or between two runs of three. -/
theorem exists_of_read?_eq_some {text rest : List Char} {value : List Nat}
    (h : read? named text = some (value, rest)) :
  ∃ delimiter body, unifyLineEnds text = delimiter ++ (body ++ delimiter ++ rest)
    ∧ '\x00' ∉ unifyLineEnds text
    ∧ cutBare delimiter (body ++ delimiter ++ rest) = some (body, rest)
    ∧ decode named 0 body = some value
    ∧ (delimiter = "\"\"\"".toList ∨ delimiter = ['"'] ∧ .plain '\n' ∉ symbols body)
  := by
  rw [read?] at h
  split_ifs at h with hnull hthree hone
  · obtain ⟨⟨body, after⟩, hcut, hdecode⟩ := Option.bind_eq_some_iff.mp h
    obtain ⟨_, hvalue, ⟨⟩⟩ := Option.map_eq_some_iff.mp hdecode
    have heq := eq_of_cutBare_eq_some hcut
    rw [heq] at hcut
    refine ⟨_, body, ?_, hnull, hcut, hvalue, .inl rfl⟩
    rw [← heq]
    apply (List.prefix_iff_eq_append.mp hthree).symm
  · obtain ⟨⟨body, after⟩, hcut, hbody⟩ := Option.bind_eq_some_iff.mp h
    dsimp only at hbody
    split_ifs at hbody with hline
    obtain ⟨_, hvalue, ⟨⟩⟩ := Option.map_eq_some_iff.mp hbody
    have heq := eq_of_cutBare_eq_some hcut
    rw [heq] at hcut
    refine ⟨_, body, ?_, hnull, hcut, hvalue, .inr ⟨rfl, hline⟩⟩
    rw [← heq]
    apply List.eq_cons_of_mem_head? hone

/-- A text whose symbols are kept is cut at the quotation mark after it exactly if none stands by
itself in the text. -/
theorem cutBare_quotationMark_iff {cs : List Char} (h : ∀ s ∈ symbols cs, isKept s) :
  cutBare ['"'] (cs ++ ['"'] ++ []) = some (cs, []) ↔ .plain '"' ∉ symbols cs
  := by
  have hclosed : .plain '\\' ∉ symbols cs := by
    intro hmem
    cases h _ hmem
  rw [cutBare_append_iff (List.cons_ne_nil _ _) (by decide) hclosed, Bare, List.map_singleton,
    List.singleton_infix_iff]
  rintro part hpart - hbegins
  rcases List.prefix_cons_iff.mp hbegins with rfl | ⟨rest, rfl, hrest⟩
  · cases hpart rfl
  · rw [List.prefix_nil.mp hrest]
    rfl

/-- A character with a meaning after a backslash stands only by itself in a text whose symbols are
kept. -/
theorem not_mem_of_isKept {cs : List Char} (h : ∀ s ∈ symbols cs, isKept s) {c : Char}
    (hc : c ∈ meanings) (hbackslash : c ≠ '\\') (hplain : .plain c ∉ symbols cs) :
  c ∉ cs
  := by
  intro hmem
  obtain ⟨s, hs, hchar⟩ := mem_iff_exists_mem_symbols.mp hmem
  cases s with
  | plain d =>
    obtain rfl := List.mem_singleton.mp hchar
    apply hplain hs
  | escaped d =>
    rcases List.mem_pair.mp hchar with rfl | rfl
    · apply hbackslash rfl
    · have hkept := h _ hs
      rw [isKept, decide_eq_true_iff] at hkept
      apply hkept hc

theorem read?_of_isKept {cs : List Char} (hbarred : ∀ c ∈ barred, c ∉ cs)
    (hkept : ∀ s ∈ symbols cs, isKept s) :
  read? named ('"' :: cs ++ ['"']) = some (cs.map Char.toNat, [])
  := by
  simp only [barred, List.forall_mem_cons] at hbarred
  obtain ⟨hquote, hlineFeed, hreturn, hnull, -⟩ := hbarred
  have hplain : ∀ c, c ∉ cs → .plain c ∉ symbols cs := by
    intro c hc hmem
    apply hc (mem_iff_exists_mem_symbols.mpr ⟨_, hmem, List.mem_singleton_self c⟩)
  have hthree : ¬ "\"\"\"".toList <+: '"' :: cs ++ ['"'] := by
    intro hbegins
    have hmarks : ['"', '"'] <+: cs ++ ['"'] := (List.cons_prefix_cons.mp hbegins).2
    cases cs with
    | nil => simp at hmarks
    | cons c cs =>
      rw [List.cons_append, List.cons_prefix_cons] at hmarks
      apply hquote
      rw [hmarks.1]
      apply List.mem_cons_self
  have hhead : ('"' :: cs ++ ['"']).head? = some '"' := rfl
  have htail : ('"' :: cs ++ ['"']).tail = cs ++ ['"'] ++ [] := by simp
  have hdecode : decode named 0 cs = some (cs.map Char.toNat) :=
    (decode_eq_some_iff.mpr ⟨rfl, hkept⟩).1
  rw [read?, unifyLineEnds_of_not_mem (by simpa using hreturn)]
  rw [if_neg (by simpa using hnull), if_neg hthree, if_pos hhead, htail,
    (cutBare_quotationMark_iff hkept).mpr (hplain _ hquote), Option.bind_some]
  dsimp only
  rw [if_neg (hplain _ hlineFeed), hdecode]
  rfl

/-- A text between two quotation marks is a string with the text as its value exactly if no
quotation mark, line end or null character stands in it and all its symbols are kept. -/
theorem read?_eq_some_iff_isKept (cs : List Char) :
  read? named ('"' :: cs ++ ['"']) = some (cs.map Char.toNat, [])
    ↔ (∀ c ∈ barred, c ∉ cs) ∧ ∀ s ∈ symbols cs, isKept s
  := by
  constructor
  · intro h
    obtain ⟨delimiter, body, heq, hnull, hcut, hvalue, hdelimiter⟩ := exists_of_read?_eq_some h
    -- No text between delimiters is shorter than its value.
    have hlength := length_decode_le hvalue
    have htotal := length_unifyLineEnds_le ('"' :: cs ++ ['"'])
    rw [heq] at htotal
    simp only [List.length_append, List.length_cons, List.length_nil, List.length_map]
      at hlength htotal
    rcases hdelimiter with rfl | ⟨rfl, hline⟩
    · have hthree : "\"\"\"".toList.length = 3 := by decide
      omega
    · simp only [List.length_cons, List.length_nil] at htotal
      obtain ⟨hbody, hkept⟩ := decode_eq_some_iff.mp ⟨hvalue, by rw [List.length_map]; omega⟩
      obtain rfl : cs = body := List.map_injective_iff.mpr (fun _ _ => Char.toNat_inj.mp) hbody
      rw [cutBare_quotationMark_iff hkept] at hcut
      have hreturn := carriageReturn_not_mem_unifyLineEnds ('"' :: cs ++ ['"'])
      rw [heq] at hreturn hnull
      have hquote := not_mem_of_isKept hkept (by decide) (by decide) hcut
      have hlineFeed := not_mem_of_isKept hkept (by decide) (by decide) hline
      refine ⟨?_, hkept⟩
      simp only [barred, List.forall_mem_cons]
      exact ⟨hquote, hlineFeed, by simpa using hreturn, by simpa using hnull, List.forall_mem_nil _⟩
  · rintro ⟨hbarred, hkept⟩
    apply read?_of_isKept hbarred hkept

/-! ### Parts that alter the value -/

/-- The texts that cannot stand between two quotation marks if they are to stand for themselves. -/
def altered : List (List Char) :=
  barred.map (fun c => [c]) ++ meanings.map fun c => ['\\', c]

/-- All symbols are kept exactly if no backslash stands before a character with a meaning or at the
end. -/
theorem forall_isKept_iff (cs : List Char) :
  (∀ s ∈ symbols cs, isKept s)
    ↔ (∀ c ∈ meanings, ¬ ['\\', c] <:+: cs) ∧ cs.getLast? ≠ some '\\'
  := by
  have hcons : ∀ c cs, c ≠ '\\' →
      (((∀ d ∈ meanings, ¬ ['\\', d] <:+: c :: cs) ∧ (c :: cs).getLast? ≠ some '\\')
        ↔ (∀ d ∈ meanings, ¬ ['\\', d] <:+: cs) ∧ cs.getLast? ≠ some '\\') := by
    intro c cs hc
    apply and_congr
    · simp [List.infix_cons_iff, Ne.symm hc]
    · cases cs with
      | nil => simpa using hc
      | cons d ds => rw [List.getLast?_cons_cons]
  fun_induction symbols cs with
  | case1 => simp
  | case2 => simp [isKept]
  | case3 d ds ih =>
    rw [List.forall_mem_cons, isKept, decide_eq_true_iff, and_congr_right_iff.mpr fun _ => ih]
    constructor
    · rintro ⟨hd, hrest⟩
      have hne : d ≠ '\\' := by
        rintro rfl
        apply hd (by decide)
      rw [← hcons d ds hne] at hrest
      refine ⟨?_, by simpa using hrest.2⟩
      intro c hc hinfix
      rcases List.infix_cons_iff.mp hinfix with hbegins | hinfix
      · simp only [List.cons_prefix_cons, List.nil_prefix, true_and, and_true] at hbegins
        apply hd
        rwa [← hbegins]
      · apply hrest.1 c hc hinfix
    · rintro ⟨hfree, hlast⟩
      have hd : d ∉ meanings := fun hd => hfree d hd (List.prefix_append ['\\', d] ds).isInfix
      have hne : d ≠ '\\' := by
        rintro rfl
        apply hd (by decide)
      rw [← hcons d ds hne]
      refine ⟨hd, ?_, by simpa using hlast⟩
      intro c hc hinfix
      apply hfree c hc (List.infix_cons hinfix)
  | case4 c cs hc ih =>
    rw [List.forall_mem_cons, isKept, decide_eq_true_iff, and_iff_right hc]
    apply Iff.trans ih (hcons c cs hc).symm

/-- A text between two quotation marks is a string with the text as its value exactly if no part of
it alters the value, and no backslash stands at its end. -/
theorem read?_eq_some_iff (cs : List Char) :
  read? named ('"' :: cs ++ ['"']) = some (cs.map Char.toNat, [])
    ↔ (∀ part ∈ altered, ¬ part <:+: cs) ∧ cs.getLast? ≠ some '\\'
  := by
  rw [read?_eq_some_iff_isKept, forall_isKept_iff, altered, List.forall_mem_append,
    List.forall_mem_map, List.forall_mem_map, and_assoc]
  simp only [List.singleton_infix_iff]

example :
  read? (fun _ => none) "\"\\x2d\\\"\"".toList = some ("-\"".toList.map Char.toNat, [])
  := by decide +kernel

end PythonString

end ClientGen
