import ClientGen.Proofs.Target.ReadText
import ClientGen.Target.Naming
import Mathlib.Data.List.Nodup

/-!
# Names that are spelled alike

A word that a language keeps for itself is given an underscore, and no such word ends with
one. So a spelling tells a name except for one case: such a word is spelled like the name that
is the word with the underscore. Names that are different from each other are spelled
differently exactly when no such word stands beside that name.
-/

namespace ClientGen

/-! ### Words with an underscore -/

/-- A name, or the name with an underscore if it is one of the given words. -/
def avoid (words : List String) (name : String) : String :=
  if name ∈ words then name ++ "_" else name

/-- A text that does not end with an underscore is given only to itself, if it is no word. -/
theorem avoid_eq_iff {words : List String} {text : String}
    (htext : text.toList.getLast? ≠ some '_') (name : String) :
  avoid words name = text ↔ name = text ∧ text ∉ words
  := by
  rw [avoid]
  split
  case isTrue hword =>
    constructor
    · rintro rfl
      cases htext (by simp)
    · rintro ⟨rfl, hnot⟩
      cases hnot hword
  case isFalse hword =>
    constructor
    · rintro rfl
      exact ⟨rfl, hword⟩
    · apply And.left

/-- Names are avoided alike if they are the same, or if one is a word and the other one is the
word with an underscore. -/
theorem avoid_eq_avoid_iff {words : List String} (h : ∀ word ∈ words, word ++ "_" ∉ words)
    (a b : String) :
  avoid words a = avoid words b
    ↔ a = b ∨ (a ∈ words ∧ b = a ++ "_") ∨ (b ∈ words ∧ a = b ++ "_")
  := by
  -- A word with an underscore is no word, so at most one of two names alike is a word.
  have hword : ∀ {word name}, word ∈ words → name = word ++ "_" → name ∉ words := by
    rintro word _ hword rfl
    apply h word hword
  by_cases ha : a ∈ words <;> by_cases hb : b ∈ words <;>
    simp only [avoid, ha, hb, if_true, if_false, true_and, false_and, or_false, false_or]
  · rw [String.append_left_inj]
    constructor
    · apply Or.inl
    · rintro (heq | heq | heq)
      · apply heq
      · cases hword ha heq hb
      · cases hword hb heq ha
  · constructor
    · intro heq
      apply Or.inr heq.symm
    · rintro (rfl | heq)
      · cases hb ha
      · apply heq.symm
  · constructor
    · apply Or.inr
    · rintro (rfl | heq)
      · cases ha hb
      · apply heq

/-! ### Kinds of names -/

/-- What a name within a class or a declaration is the name of. -/
inductive NameKind where
  | parameter
  | field
  | enumCase
  | method
deriving DecidableEq

namespace Language

/-- The spelling of a name of a kind. -/
def spellName (lang : Language) : NameKind → String → String
  | .parameter => lang.sanitize
  | .field => lang.fieldName
  | .enumCase => lang.enumCaseName
  | .method => lang.methodName

/-- The words that are given an underscore as names of a kind. In TypeScript members may have
any name. -/
def avoidedWords (lang : Language) (kind : NameKind) : List String :=
  match lang, kind with
  | .typescript, .parameter => Language.typescript.reservedWords
  | .typescript, _ => []
  | .dart, .enumCase => dartEnumMembers ++ Language.dart.reservedWords
  | lang, _ => lang.reservedWords

/-- A name as it is quoted, if it is. -/
def quoteName (lang : Language) (kind : NameKind) : String → String :=
  match lang, kind with
  | .typescript, .field | .typescript, .enumCase => quoteIfNeeded
  | _, _ => id

theorem sanitize_eq (lang : Language) (name : String) :
  lang.sanitize name = avoid lang.reservedWords name
  := by simp [sanitize, isReserved, avoid]

theorem enumCaseName_dart (name : String) :
  Language.dart.enumCaseName name
    = avoid (dartEnumMembers ++ Language.dart.reservedWords) name
  := by
  rw [enumCaseName, sanitize_eq, avoid, avoid]
  by_cases hmember : name ∈ dartEnumMembers <;> simp [hmember]

/-- A name is spelled in two steps: with an underscore where it is one of certain words, and
then between quotes where it has to be. -/
theorem spellName_eq (lang : Language) (kind : NameKind) (name : String) :
  lang.spellName kind name = lang.quoteName kind (avoid (lang.avoidedWords kind) name)
  := by
  cases lang with
  | typescript =>
    cases kind with
    | parameter => apply sanitize_eq
    | field => simp [spellName, fieldName, quoteName, avoidedWords, avoid]
    | enumCase => simp [spellName, enumCaseName, fieldName, quoteName, avoidedWords, avoid]
    | method => simp [spellName, methodName, quoteName, avoidedWords, avoid]
  | python => cases kind <;> apply sanitize_eq
  | dart =>
    cases kind with
    | enumCase => apply enumCaseName_dart
    | parameter | field | method => apply sanitize_eq

theorem quoteIfNeeded_injective :
  Function.Injective quoteIfNeeded
  := by
  intro a b heq
  have hnil : ∀ c ∈ ([] : List Char).head?, Text.isIdentifierPart c = false := by
    rintro c ⟨⟩
  have ha := readName_quoteIfNeeded a hnil
  rw [heq, readName_quoteIfNeeded b hnil] at ha
  apply String.toList_inj.mp (Prod.mk.inj ha).1.symm

theorem quoteName_injective (lang : Language) (kind : NameKind) :
  Function.Injective (lang.quoteName kind)
  := by
  cases lang with
  | typescript =>
    cases kind with
    | field | enumCase => apply quoteIfNeeded_injective
    | parameter | method => apply Function.injective_id
  | python | dart => cases kind <;> apply Function.injective_id

/-- No avoided word ends with an underscore. -/
theorem getLast?_of_mem_avoidedWords (lang : Language) (kind : NameKind) :
  ∀ word ∈ lang.avoidedWords kind, word.toList.getLast? ≠ some '_'
  := by
  cases lang <;> cases kind <;> decide

theorem append_not_mem_avoidedWords (lang : Language) (kind : NameKind) :
  ∀ word ∈ lang.avoidedWords kind, word ++ "_" ∉ lang.avoidedWords kind
  := by
  intro word _ hmem
  apply lang.getLast?_of_mem_avoidedWords kind _ hmem
  simp

/-- Two names of a kind are spelled alike exactly when they are the same, or one is an avoided
word and the other one is the word with an underscore. -/
theorem spellName_eq_spellName_iff (lang : Language) (kind : NameKind) (a b : String) :
  lang.spellName kind a = lang.spellName kind b
    ↔ a = b ∨ (a ∈ lang.avoidedWords kind ∧ b = a ++ "_")
      ∨ (b ∈ lang.avoidedWords kind ∧ a = b ++ "_")
  := by
  rw [spellName_eq, spellName_eq, (lang.quoteName_injective kind).eq_iff]
  apply avoid_eq_avoid_iff (lang.append_not_mem_avoidedWords kind)

/-- Names of a kind are different, and none of them is an avoided word that stands beside the
word with an underscore. -/
structure Apart (lang : Language) (kind : NameKind) (names : List String) : Prop where
  nodup : names.Nodup
  beside : ∀ word ∈ lang.avoidedWords kind, word ∈ names → word ++ "_" ∉ names

/-- Names of a kind are spelled differently from each other exactly when they are apart. -/
theorem nodup_map_spellName_iff (lang : Language) (kind : NameKind) (names : List String) :
  (names.map (lang.spellName kind)).Nodup ↔ lang.Apart kind names
  := by
  constructor
  · intro hnodup
    refine ⟨hnodup.of_map _, ?_⟩
    intro word hword hname hbeside
    have halike := (lang.spellName_eq_spellName_iff kind word (word ++ "_")).mpr
      (.inr (.inl ⟨hword, rfl⟩))
    have heq := List.inj_on_of_nodup_map hnodup hname hbeside halike
    apply lang.append_not_mem_avoidedWords kind word hword
    rw [← heq]
    apply hword
  · rintro ⟨hnodup, hbeside⟩
    apply hnodup.map_on
    intro a ha b hb heq
    rcases (lang.spellName_eq_spellName_iff kind a b).mp heq with
      rfl | ⟨hword, rfl⟩ | ⟨hword, rfl⟩
    · rfl
    · cases hbeside a hword ha hb
    · cases hbeside b hword hb ha

end Language

end ClientGen
