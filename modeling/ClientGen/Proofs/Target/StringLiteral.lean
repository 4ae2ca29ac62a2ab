import ClientGen.Proofs.Target.Quoting
import ClientGen.Proofs.Text.Symbols

/-!
# String literals

A string literal of a language holds a text if reading it as a whole gives the text, and if it
keeps to the rules of the language: only certain characters stand after a backslash, and neither
the end of a line nor a character that the language treats specially stands in it by itself. The
rules are those of the languages, to which the way that strings are written keeps. So the spelling
of each text as a string is a literal that holds the text.
-/

namespace ClientGen

open Text

namespace Quoting

/-- The characters that may stand after a backslash. -/
def marks (q : Quoting) : List Char :=
  ['n', 'r', 't', '\\', q.quote] ++ q.escaped

/-- The characters that are written with a backslash. -/
def marked (q : Quoting) : List Char :=
  ['\n', '\r', '\t', '\\', q.quote] ++ q.escaped

/-- A text is a string literal that holds a value. -/
structure Holds (q : Quoting) (text value : List Char) : Prop where
  read : q.readQuoted text = some (value, [])
  marks : ∀ c, .escaped c ∈ symbols text → c ∈ q.marks
  lineFeed : '\n' ∉ text
  carriageReturn : '\r' ∉ text
  bare : ∀ c ∈ q.escaped, .plain c ∉ symbols text

variable {q : Quoting}

/-- A character is written by one symbol: itself, or a mark after a backslash. -/
theorem symbols_escapeChar (q : Quoting) (c : Char) :
  (∃ mark ∈ q.marks, symbols (q.escapeChar c) = [.escaped mark])
    ∨ c ∉ q.marked ∧ symbols (q.escapeChar c) = [.plain c]
  := by
  rw [escapeChar]
  split_ifs with hbackslash hline hreturn htab hquoted
  · left
    exact ⟨'\\', by simp [marks], rfl⟩
  · left
    exact ⟨'n', by simp [marks], rfl⟩
  · left
    exact ⟨'r', by simp [marks], rfl⟩
  · left
    exact ⟨'t', by simp [marks], rfl⟩
  · left
    refine ⟨c, ?_, symbols_escaped c []⟩
    rcases Bool.or_eq_true_iff.mp hquoted with hquote | hescaped
    · simp [marks, of_decide_eq_true hquote]
    · simp [marks, List.contains_iff_mem.mp hescaped]
  · right
    constructor
    · simpa [marked, hbackslash, hline, hreturn, htab] using hquoted
    · apply symbols_plain hbackslash

/-- A text is written by a symbol for each of its characters. -/
theorem symbols_escape (q : Quoting) (cs : List Char) :
  symbols (q.escape cs) = cs.flatMap fun c => symbols (q.escapeChar c)
  := by
  induction cs with
  | nil => rfl
  | cons c cs ih =>
    have hclosed : .plain '\\' ∉ symbols (q.escapeChar c) := by
      rcases q.symbols_escapeChar c with ⟨mark, -, heq⟩ | ⟨hc, heq⟩
      · simp [heq]
      · rw [heq, List.mem_singleton]
        rintro ⟨rfl⟩
        simp [marked] at hc
    have hcons : q.escape (c :: cs) = q.escapeChar c ++ q.escape cs := List.flatMap_cons
    rw [hcons, symbols_append hclosed, ih, List.flatMap_cons]

/-- The symbols of a text between delimiters are the delimiters, marks after a backslash, and
characters that need no backslash. -/
theorem mem_symbols_quoteChars (hquote : q.quote ≠ '\\') {cs : List Char} {s : Symbol}
    (hs : s ∈ symbols (q.quoteChars cs)) :
  s = .plain q.quote ∨ (∃ mark ∈ q.marks, s = .escaped mark) ∨ ∃ c, c ∉ q.marked ∧ s = .plain c
  := by
  have hbody : ∀ s ∈ symbols (q.escape cs),
      (∃ mark ∈ q.marks, s = .escaped mark) ∨ ∃ c, c ∉ q.marked ∧ s = .plain c := by
    intro s hs
    rw [symbols_escape] at hs
    obtain ⟨c, -, hc⟩ := List.mem_flatMap.mp hs
    rcases q.symbols_escapeChar c with ⟨mark, hmark, heq⟩ | ⟨hfree, heq⟩
    · left
      exact ⟨mark, hmark, by simpa [heq] using hc⟩
    · right
      exact ⟨c, hfree, by simpa [heq] using hc⟩
  have hclosed : .plain '\\' ∉ symbols (q.escape cs) := by
    intro hmem
    rcases hbody _ hmem with ⟨mark, -, heq⟩ | ⟨c, hc, heq⟩
    · cases heq
    · obtain rfl := Symbol.plain.inj heq
      simp [marked] at hc
  have hend : symbols [q.quote] = [.plain q.quote] := symbols_plain hquote []
  rw [quoteChars, List.cons_append, symbols_plain hquote, symbols_append hclosed, hend,
    List.mem_cons, List.mem_append, List.mem_singleton] at hs
  rcases hs with hs | hs | hs
  · left
    apply hs
  · right
    apply hbody s hs
  · left
    apply hs

end Quoting

/-- The rules of a language for string literals: the delimiter, and what the language treats
specially within a literal. In Dart a dollar sign inserts a value. -/
def Language.literalRules : Language → Quoting
  | .typescript | .python => { quote := '"', escaped := [] }
  | .dart => { quote := '\'', escaped := ['$'] }

/-- Strings are written by the rules of the language. -/
theorem Language.quoting_eq_literalRules (lang : Language) :
  lang.quoting = lang.literalRules
  := by cases lang <;> rfl

/-- A line end is neither a delimiter nor a mark. -/
theorem Language.lineEnd_not_mem (lang : Language) {c : Char} (hc : c ∈ ['\n', '\r']) :
  c ≠ lang.quoting.quote ∧ c ∉ lang.quoting.marks ∧ c ∈ lang.quoting.marked
  := by rcases List.mem_pair.mp hc with rfl | rfl <;> cases lang <;> decide

/-- A text between the delimiters of a language is a literal that holds the text. -/
theorem Language.holds_quoteChars (lang : Language) (cs : List Char) :
  lang.literalRules.Holds (lang.quoting.quoteChars cs) cs
  := by
  rw [← lang.quoting_eq_literalRules]
  have hproper := Quoting.proper_quoting lang
  have hsymbols : ∀ symbol ∈ symbols (lang.quoting.quoteChars cs), _ := fun _ =>
    Quoting.mem_symbols_quoteChars hproper.quote.1
  have hline : ∀ c ∈ ['\n', '\r'], c ∉ lang.quoting.quoteChars cs := by
    intro c hc hmem
    obtain ⟨hquote, hmarks, hmarked⟩ := lang.lineEnd_not_mem hc
    have hbackslash : c ≠ '\\' := by
      rintro rfl
      revert hc
      decide
    obtain ⟨symbol, hsymbol, hchar⟩ := mem_iff_exists_mem_symbols.mp hmem
    rcases hsymbols symbol hsymbol with rfl | ⟨mark, hmark, rfl⟩ | ⟨d, hd, rfl⟩
    · apply hquote (List.mem_singleton.mp hchar)
    · rcases List.mem_pair.mp hchar with rfl | rfl
      · apply hbackslash rfl
      · apply hmarks hmark
    · obtain rfl := List.mem_singleton.mp hchar
      apply hd hmarked
  constructor
  · simpa using hproper.readQuoted_quoteChars cs []
  · intro c hc
    rcases hsymbols _ hc with heq | ⟨mark, hmark, heq⟩ | ⟨d, -, heq⟩
    · cases heq
    · rw [Symbol.escaped.inj heq]
      apply hmark
    · cases heq
  · apply hline _ (by simp)
  · apply hline _ (by simp)
  · intro c hc hmem
    have hquote : lang.quoting.quote ∉ lang.quoting.escaped := by cases lang <;> decide
    rcases hsymbols _ hmem with heq | ⟨mark, -, heq⟩ | ⟨d, hd, heq⟩
    · apply hquote
      rw [← Symbol.plain.inj heq]
      apply hc
    · cases heq
    · obtain rfl := Symbol.plain.inj heq
      apply hd (List.mem_append_right _ hc)

/-- A text is spelled as a string by a literal that holds the text. -/
theorem Language.holds_quoteString (lang : Language) (s : String) :
  lang.literalRules.Holds (lang.quoteString s).toList s.toList
  := by
  rw [quoteString, String.toList_ofList]
  apply lang.holds_quoteChars

example :
  (Language.dart.quoteString "it's $5\\").toList = "'it\\'s \\$5\\\\'".toList
  := by decide

end ClientGen
