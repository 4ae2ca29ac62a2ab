import ClientGen.Proofs.Target.Spelling
import ClientGen.Proofs.Target.StringLiteral

/-!
# Names of members are well formed

A member of a declaration is named by an identifier that is no reserved word, and in TypeScript by
any identifier or by a string that holds the name. An underscore keeps reserved words away, but only
TypeScript quotes what is no identifier. So the spelling of a name is well formed exactly if the
language is TypeScript or the name is an identifier already.
-/

namespace ClientGen

/-- Characters beyond ASCII that may start an identifier, and those that may follow. -/
structure WideLetters where
  start : Char → Bool
  part : Char → Bool

namespace Language

/-- Whether a character may start an identifier. Dart keeps to ASCII, and only Python has no dollar
sign. -/
def startsIdentifier (lang : Language) (wide : WideLetters) (c : Char) : Bool :=
  c.isAlpha || c = '_' || (lang ≠ .python && c = '$')
    || (lang ≠ .dart && 128 ≤ c.toNat && wide.start c)

/-- Whether a character may follow within an identifier. -/
def continuesIdentifier (lang : Language) (wide : WideLetters) (c : Char) : Bool :=
  lang.startsIdentifier wide c || c.isDigit || (lang ≠ .dart && 128 ≤ c.toNat && wide.part c)

/-- Whether a text is an identifier of a language. -/
def isIdentifier (lang : Language) (wide : WideLetters) : List Char → Bool
  | [] => false
  | c :: cs => lang.startsIdentifier wide c && cs.all (lang.continuesIdentifier wide)

/-- A text names a member that is called `name`. Without quotes it is the name, to which an
underscore may be added where the language has words that no member is named. -/
def IsMemberName (lang : Language) (wide : WideLetters) (name text : String) : Prop :=
  match lang with
  | .typescript => (Language.typescript.isIdentifier wide text.toList ∧ text = name)
    ∨ Language.typescript.literalRules.Holds text.toList name.toList
  | .python | .dart => lang.isIdentifier wide text.toList
    ∧ text ∉ lang.reservedWords ∧ text ∈ [name, name ++ "_"]

variable {lang : Language} {wide : WideLetters}

/-- A text with an underscore is an identifier if the text is one. -/
theorem isIdentifier_append_underscore {cs : List Char} (hne : cs ≠ []) :
  lang.isIdentifier wide (cs ++ ['_']) = lang.isIdentifier wide cs
  := by
  have hunderscore : lang.continuesIdentifier wide '_' := by
    simp [continuesIdentifier, startsIdentifier]
  cases cs with
  | nil => cases hne rfl
  | cons c cs => simp [isIdentifier, hunderscore]

theorem isIdentifier_avoid {words : List String} (hwords : "" ∉ words) (name : String) :
  lang.isIdentifier wide (avoid words name).toList = lang.isIdentifier wide name.toList
  := by
  rw [avoid]
  split
  case isTrue hword =>
    have hunderscore : "_".toList = ['_'] := by decide
    rw [String.toList_append, hunderscore]
    apply isIdentifier_append_underscore
    intro hnil
    apply hwords
    rwa [← String.toList_eq_nil_iff.mp hnil]
  case isFalse => rfl

theorem avoid_mem (words : List String) (name : String) :
  avoid words name ∈ [name, name ++ "_"]
  := by
  rw [avoid]
  split <;> simp

theorem empty_not_mem_avoidedWords (lang : Language) (kind : NameKind) :
  "" ∉ lang.avoidedWords kind
  := by cases lang <;> cases kind <;> decide

/-- A name that has been kept away from words is none of them. -/
theorem avoid_not_mem_avoidedWords (lang : Language) (kind : NameKind) (name : String) :
  avoid (lang.avoidedWords kind) name ∉ lang.avoidedWords kind
  := by
  rw [avoid]
  split
  case isTrue hword => apply lang.append_not_mem_avoidedWords kind name hword
  case isFalse hword => apply hword

/-- What TypeScript takes for an identifier without quoting it is one. -/
theorem isIdentifier_typescript {cs : List Char} (h : Text.isIdentifier cs) :
  Language.typescript.isIdentifier wide cs
  := by
  have hstart : ∀ c, Text.isIdentifierStart c → Language.typescript.startsIdentifier wide c := by
    intro c hc
    simp only [Text.isIdentifierStart, startsIdentifier, Bool.or_eq_true] at hc ⊢
    tauto
  have hpart : ∀ c, Text.isIdentifierPart c → Language.typescript.continuesIdentifier wide c := by
    intro c hc
    simp only [Text.isIdentifierPart, continuesIdentifier, Bool.or_eq_true] at hc ⊢
    left
    apply hc.imp_left (hstart c)
  cases cs with
  | nil => cases h
  | cons c cs =>
    rw [Text.isIdentifier, Bool.and_eq_true, List.all_eq_true] at h
    rw [isIdentifier, Bool.and_eq_true, List.all_eq_true]
    exact ⟨hstart c h.1, fun d hd => hpart d (h.2 d hd)⟩

theorem isMemberName_quoteIfNeeded (name : String) :
  Language.typescript.IsMemberName wide name (quoteIfNeeded name)
  := by
  rw [IsMemberName, quoteIfNeeded]
  split
  case isTrue h =>
    left
    exact ⟨isIdentifier_typescript h, rfl⟩
  case isFalse =>
    right
    rw [quoteString, String.toList_ofList]
    apply holds_quoteChars

/-- Where reserved words are kept away, a name is well formed exactly if it is an identifier. -/
theorem isMemberName_avoid_iff {kind : NameKind} (hlang : lang ≠ .typescript)
    (hreserved : lang.reservedWords ⊆ lang.avoidedWords kind) (name : String) :
  lang.IsMemberName wide name (avoid (lang.avoidedWords kind) name)
    ↔ lang.isIdentifier wide name.toList
  := by
  have hnot : avoid (lang.avoidedWords kind) name ∉ lang.reservedWords := fun hmem =>
    lang.avoid_not_mem_avoidedWords kind name (hreserved hmem)
  have hname := avoid_mem (lang.avoidedWords kind) name
  cases lang with
  | typescript => cases hlang rfl
  | python | dart =>
    rw [IsMemberName, and_iff_left ⟨hnot, hname⟩,
      isIdentifier_avoid (empty_not_mem_avoidedWords _ kind)]

theorem isMemberName_spellName_iff (kind : NameKind) (hkind : kind ∈ [.field, .enumCase])
    (name : String) :
  lang.IsMemberName wide name (lang.spellName kind name)
    ↔ lang = .typescript ∨ lang.isIdentifier wide name.toList
  := by
  rw [spellName_eq]
  cases lang with
  | typescript =>
    rw [iff_true_intro (Or.inl rfl), iff_true]
    rcases List.mem_pair.mp hkind with rfl | rfl <;> apply isMemberName_quoteIfNeeded
  | python =>
    rw [or_iff_right (by decide)]
    apply isMemberName_avoid_iff (by decide)
    rcases List.mem_pair.mp hkind with rfl | rfl <;> apply List.Subset.refl
  | dart =>
    rw [or_iff_right (by decide)]
    apply isMemberName_avoid_iff (by decide)
    rcases List.mem_pair.mp hkind with rfl | rfl
    · apply List.Subset.refl
    · apply List.subset_append_right

/-- The spelling of the name of a field or of a case is well formed exactly if the language is
TypeScript or the name is an identifier. -/
theorem isMemberName_iff (lang : Language) (wide : WideLetters) (name : String) :
  (lang.IsMemberName wide name (lang.fieldName name)
      ↔ lang = .typescript ∨ lang.isIdentifier wide name.toList)
    ∧ (lang.IsMemberName wide name (lang.enumCaseName name)
      ↔ lang = .typescript ∨ lang.isIdentifier wide name.toList)
  := by
  constructor
  · apply isMemberName_spellName_iff .field (by decide)
  · apply isMemberName_spellName_iff .enumCase (by decide)

/-- A name with a hyphen is no identifier of Python and of Dart, whatever letters there are. -/
theorem not_isMemberName_hyphen :
  ¬ Language.python.IsMemberName ⟨fun _ => true, fun _ => true⟩ "display-name"
      (Language.python.fieldName "display-name")
    ∧ ¬ Language.dart.IsMemberName ⟨fun _ => true, fun _ => true⟩ "in-review"
      (Language.dart.enumCaseName "in-review")
  := by
  constructor
  · rintro ⟨hidentifier, -⟩
    revert hidentifier
    decide
  · rintro ⟨hidentifier, -⟩
    revert hidentifier
    decide

end Language

end ClientGen
