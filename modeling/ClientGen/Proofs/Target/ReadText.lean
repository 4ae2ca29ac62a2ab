import ClientGen.Proofs.Target.Alternative
import ClientGen.Proofs.Target.Quoting
import Mathlib.Data.List.Basic

/-!
# Reading the pieces of a type

A type within another one is followed by a bracket, a comma or nothing, and an alternative
within a type by the bar before the next one. A reader that takes the longest word at each
place, and a separator where one stands, gets back words, names of properties and joined
texts.
-/

namespace ClientGen

/-! ### What follows -/

/-- The rest of a text after a type within another one, or after a type alone. -/
def EndsType (rest : List Char) : Prop :=
  ∀ c ∈ rest.head?, c ∈ ['>', ']', '\x7d', ',']

/-- The rest of a text after an alternative. -/
def EndsAlternative (rest : List Char) : Prop :=
  ∀ c ∈ rest.head?, Text.isIdentifierPart c = false ∧ c ≠ '<'

theorem endsType_nil :
  EndsType []
  := by
  intro c hc
  cases hc

theorem endsType_cons {c : Char} (h : c ∈ ['>', ']', '\x7d', ',']) (rest : List Char) :
  EndsType (c :: rest)
  := by
  intro d hd
  obtain rfl := Option.some.inj hd
  apply h

theorem EndsType.ne {rest : List Char} (h : EndsType rest) {c d : Char}
    (hc : c ∈ rest.head?) (hd : d ∉ ['>', ']', '\x7d', ',']) :
  c ≠ d
  := by
  rintro rfl
  apply hd (h c hc)

theorem EndsType.endsAlternative {rest : List Char} (h : EndsType rest) :
  EndsAlternative rest
  := by
  intro c hc
  have hclosing := h c hc
  simp only [List.mem_cons, List.not_mem_nil, or_false] at hclosing
  rcases hclosing with rfl | rfl | rfl | rfl <;> decide

/-- A text that starts with another character has no prefix that starts with a given
one. -/
theorem dropPrefix?_eq_none {rest : List Char} {c : Char} (h : ∀ d ∈ rest.head?, d ≠ c)
    (cs : List Char) :
  rest.dropPrefix? (c :: cs) = none
  := by
  cases rest with
  | nil => rfl
  | cons d rest =>
    have hne : d ≠ c := h d rfl
    simp [List.dropPrefix?, hne]

@[simp]
theorem dropPrefix?_append (cs rest : List Char) :
  (cs ++ rest).dropPrefix? cs = some rest
  := List.dropPrefix?_append_of_beq rest (beq_self_eq_true cs)

/-! ### Joined texts -/

section Joined

variable {α : Type}

/-- Reads items as long as a separator follows and there is an item, at most as many as the
number says. -/
def readJoined (separator : String) (read : List Char → Option (α × List Char)) :
    Nat → List Char → List α × List Char
  | 0, cs => ([], cs)
  | n + 1, cs =>
    match read cs with
    | none => ([], cs)
    | some (item, rest) =>
      match rest.dropPrefix? separator.toList with
      | none => ([item], rest)
      | some rest =>
        let (items, rest) := readJoined separator read n rest
        (item :: items, rest)

variable {separator : String} {read : List Char → Option (α × List Char)}
  {text : α → String} {follows : List Char → Prop}

/-- Joined texts are read back if each of them is, before a separator and before what
follows them all, and that is neither a separator nor an item. -/
theorem readJoined_intercalate
    (hseparator : ∀ cs, follows (separator.toList ++ cs))
    {rest : List Char} (hrest : follows rest)
    (hend : rest.dropPrefix? separator.toList = none) (hnone : read rest = none)
    {items : List α}
    (hread : ∀ item ∈ items, ∀ cs, follows cs →
      read ((text item).toList ++ cs) = some (item, cs))
    {n : Nat} (hlength : items.length ≤ n) :
  readJoined separator read n ((separator.intercalate (items.map text)).toList ++ rest)
    = (items, rest)
  := by
  induction items generalizing n with
  | nil =>
    cases n with
    | zero => simp [readJoined]
    | succ n => simp [readJoined, hnone]
  | cons item items ih =>
    obtain ⟨n, rfl⟩ := Nat.exists_eq_add_of_le' (Nat.one_le_of_lt hlength)
    have hitem := hread item List.mem_cons_self
    cases items with
    | nil => simp [readJoined, hitem rest hrest, hend]
    | cons next items =>
      have hnext := ih (fun i hi => hread i (List.mem_cons_of_mem _ hi))
        (Nat.le_of_succ_le_succ hlength)
      rw [List.map_cons] at hnext
      rw [List.map_cons, List.map_cons, String.intercalate_cons_cons, String.toList_append,
        String.toList_append, List.append_assoc, List.append_assoc, readJoined,
        hitem _ (hseparator _)]
      dsimp only
      rw [dropPrefix?_append]
      dsimp only
      rw [hnext]

end Joined

/-! ### Words and names -/

/-- A word is read up to a character that does not belong to it. -/
theorem takeWhile_word {word rest : List Char} (hword : word.all Text.isIdentifierPart)
    (hrest : ∀ c ∈ rest.head?, Text.isIdentifierPart c = false) :
  (word ++ rest).takeWhile Text.isIdentifierPart = word
    ∧ (word ++ rest).dropWhile Text.isIdentifierPart = rest
  := by
  have hend : rest.takeWhile Text.isIdentifierPart = []
      ∧ rest.dropWhile Text.isIdentifierPart = rest := by
    cases rest with
    | nil => exact ⟨rfl, rfl⟩
    | cons c rest => simp [hrest c rfl]
  have hall : ∀ c ∈ word, Text.isIdentifierPart c := List.all_eq_true.mp hword
  rw [List.takeWhile_append_of_pos hall, List.dropWhile_append_of_pos hall, hend.1, hend.2]
  exact ⟨List.append_nil word, rfl⟩

theorem all_of_isIdentifier {cs : List Char} (h : Text.isIdentifier cs) :
  cs.all Text.isIdentifierPart
  := by
  cases cs with
  | nil => rfl
  | cons c cs =>
    obtain ⟨hstart, hrest⟩ := Bool.and_eq_true_iff.mp h
    rw [List.all_cons, hrest, Text.isIdentifierPart, hstart]
    rfl

/-- The name of a property, quoted or not, and what follows it. -/
def readName (cs : List Char) : List Char × List Char :=
  match Language.typescript.quoting.readQuoted cs with
  | some (name, rest) => (name, rest)
  | none =>
    (cs.takeWhile Text.isIdentifierPart, cs.dropWhile Text.isIdentifierPart)

/-- The name of a property is read back, quoted or not. -/
theorem readName_quoteIfNeeded (name : String) {rest : List Char}
    (hrest : ∀ c ∈ rest.head?, Text.isIdentifierPart c = false) :
  readName ((Language.quoteIfNeeded name).toList ++ rest) = (name.toList, rest)
  := by
  rw [Language.quoteIfNeeded]
  split
  case isTrue hname =>
    obtain ⟨hword, hnext⟩ := takeWhile_word (all_of_isIdentifier hname) hrest
    -- A quote does not start an identifier.
    have hquoted : Language.typescript.quoting.readQuoted (name.toList ++ rest) = none := by
      cases hcs : name.toList with
      | nil => simp [hcs, Text.isIdentifier] at hname
      | cons c cs =>
        rw [hcs] at hname
        have hstart := (Bool.and_eq_true_iff.mp hname).1
        rw [List.cons_append, Quoting.readQuoted, if_neg]
        rintro rfl
        revert hstart
        decide
    rw [readName, hquoted, hword, hnext]
  case isFalse =>
    rw [Language.quoteString, String.toList_ofList, readName,
      (Quoting.proper_quoting .typescript).readQuoted_quoteChars]

/-- A property does not start with a bracket. -/
theorem head?_quoteIfNeeded_ne (name : String) (rest : List Char) :
  ∀ c ∈ ((Language.quoteIfNeeded name).toList ++ rest).head?, c ≠ '['
  := by
  rw [Language.quoteIfNeeded]
  split
  case isTrue hname =>
    cases hcs : name.toList with
    | nil => simp [hcs, Text.isIdentifier] at hname
    | cons c cs =>
      rw [hcs] at hname
      have hstart := (Bool.and_eq_true_iff.mp hname).1
      rintro _ hc rfl
      obtain rfl := Option.some.inj hc
      revert hstart
      decide
  case isFalse =>
    rw [Language.quoteString, String.toList_ofList]
    rintro _ hc rfl
    have := Option.some.inj hc
    revert this
    decide

/-- The type that a word names. -/
def ofWord (word : String) : Alternative :=
  match Builtin.all.find? fun b => b.text = word with
  | some b => .builtin b
  | none => .named word

theorem ofWord_builtin (b : Builtin) :
  ofWord b.text = .builtin b
  := by cases b <;> rfl

theorem ofWord_named {name : String} (h : name ∉ Builtin.all.map Builtin.text) :
  ofWord name = .named name
  := by
  have hfind : (Builtin.all.find? fun b => b.text = name) = none := by
    apply List.find?_eq_none.mpr
    intro b hb heq
    apply h
    rw [← of_decide_eq_true heq]
    apply List.mem_map_of_mem hb
  rw [ofWord, hfind]

end ClientGen
