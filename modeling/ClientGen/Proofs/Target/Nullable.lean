import ClientGen.Program.References
import ClientGen.Proofs.Text.Occurrence
import ClientGen.Target.TypeText
import Mathlib.Data.List.Basic
import Mathlib.Tactic.Use

/-!
# Nullable types in Dart

A type in Dart is a name, is made of others, or is another type with a mark that admits null.
There are two ways to a mark: a union of null with one other type has it, and so has the type of
what may be left out. The second way looks at the text and leaves alone a type that admits null
already, while the first one leaves alone only the type `dynamic`. So the two agree exactly if
the type does not admit null yet, or is this one.
-/

namespace ClientGen

/-! ### Types of Dart -/

/-- A type as Dart has it. -/
inductive DartType where
  | name (text : String)
  | list (element : DartType)
  | map (key value : DartType)
  | future (result : DartType)
  | nullable (type : DartType)
deriving DecidableEq

namespace DartType

/-- The text of a type. -/
def text : DartType → String
  | .name text => text
  | .list element => "List<" ++ element.text ++ ">"
  | .map key value => "Map<" ++ key.text ++ ", " ++ value.text ++ ">"
  | .future result => "Future<" ++ result.text ++ ">"
  | .nullable type => type.text ++ "?"

/-- A type or null. Null is in the type `dynamic` already. -/
def orNull (type : DartType) : DartType :=
  if type = .name "dynamic" then type else .nullable type

/-- A union, given whether a variant is the type of null, and the others. -/
def union (nullable : Bool) : List DartType → DartType
  | [single] => if nullable then single.orNull else single
  | _ => .name "dynamic"

end DartType

namespace TypeNode

mutual

/-- A type as one of Dart. -/
def dartType : TypeNode → DartType
  | .primitive p => .name p.dart
  | .array element => .list (dartType element)
  | .map key value => .map (dartType key) (dartType value)
  | .promise result => .future (dartType result)
  | .union variants => .union (variants.any isNull) (dartVariantTypes variants)
  | .object _ => .map (.name "String") (.name "dynamic")
  | .declared d => .name d.name
  | .custom text => .name text
  | .unknown => .name "dynamic"

/-- The variants that are not the type of null, as types of Dart. -/
def dartVariantTypes : List TypeNode → List DartType
  | [] => []
  | variant :: variants =>
    if variant.isNull then dartVariantTypes variants
    else dartType variant :: dartVariantTypes variants

end

end TypeNode

namespace DartType

/-- The character that the text of a type ends with. -/
def last? : DartType → Option Char
  | .name text => text.toList.getLast?
  | .list _ | .map _ _ | .future _ => some '>'
  | .nullable _ => some '?'

theorem getLast?_text (type : DartType) :
  type.text.toList.getLast? = type.last?
  := by
  cases type with
  | name => rfl
  | list | map | future | nullable =>
    rw [text, String.toList_append]
    apply List.getLast?_concat

/-- A text that does not end like a composed type is only that of the name. -/
theorem text_eq_iff {text : String} (h : text.toList.getLast? ∉ [some '>', some '?'])
    (type : DartType) :
  type.text = text ↔ type = .name text
  := by
  constructor
  · rintro rfl
    rw [getLast?_text] at h
    cases type with
    | name => rfl
    | list | map | future | nullable => simp [last?] at h
  · rintro rfl
    rfl

/-- A property of texts as one of types, for a property that each text with a mark at its end has
and no text with a bracket there. -/
def Ends (P : String → Prop) : DartType → Prop
  | .name text => P text
  | .nullable _ => True
  | .list _ | .map _ _ | .future _ => False

theorem text_iff_ends {P : String → Prop}
    (hmark : ∀ text : String, text.toList.getLast? = some '?' → P text)
    (hbracket : ∀ text : String, P text → text.toList.getLast? ≠ some '>') (type : DartType) :
  P type.text ↔ type.Ends P
  := by
  cases type with
  | name => rfl
  | nullable =>
    simp only [Ends, iff_true]
    apply hmark
    apply getLast?_text
  | list | map | future =>
    simp only [Ends, iff_false]
    intro h
    apply hbracket _ h
    apply getLast?_text

theorem text_union (nullable : Bool) (types : List DartType) :
  (union nullable types).text = dartUnion nullable (types.map text)
  := by
  match types with
  | [] => rfl
  | _ :: _ :: _ => rfl
  | [single] =>
    have hdynamic : single.text = "dynamic" ↔ single = .name "dynamic" :=
      text_eq_iff (by decide) single
    cases nullable with
    | false => rfl
    | true =>
      simp only [union, dartUnion, orNull, List.map_cons, List.map_nil, if_true, hdynamic]
      split <;> rfl

end DartType

namespace TypeNode

mutual

/-- A type is spelled by the text of its type of Dart. -/
@[simp]
theorem text_dartType :
  ∀ t : TypeNode, t.dartType.text = t.dart
  | .primitive _ => rfl
  | .array element => by
      rw [dartType, DartType.text, dart, text_dartType element]
  | .map key value => by
      rw [dartType, DartType.text, dart, text_dartType key, text_dartType value]
  | .promise result => by
      rw [dartType, DartType.text, dart, text_dartType result]
  | .union variants => by
      rw [dartType, DartType.text_union, dart, map_text_dartVariantTypes variants]
  | .object _ => by
      rw [dartType, dart]
      decide
  | .declared _ => rfl
  | .custom _ => rfl
  | .unknown => rfl

theorem map_text_dartVariantTypes :
  ∀ variants : List TypeNode, (dartVariantTypes variants).map DartType.text = dartVariants variants
  | [] => rfl
  | variant :: variants => by
      rw [dartVariantTypes, dartVariants, apply_ite (List.map DartType.text), List.map_cons,
        text_dartType variant, map_text_dartVariantTypes variants]

end

end TypeNode

/-! ### Types that admit null -/

/-- A text that is taken for a type that admits null. -/
def AdmitsNull (text : String) : Prop :=
  text.toList.getLast? = some '?' ∨ text ∈ ["dynamic", "void", "Null"]

instance (text : String) : Decidable (AdmitsNull text) :=
  inferInstanceAs (Decidable (_ ∨ _))

/-- What may be left out has the type itself if that is taken to admit null, and else the type
with a mark. -/
theorem Language.optionalType_dart (text : String) :
  Language.dart.optionalType text = if AdmitsNull text then text else text ++ "?"
  := by
  have hmark : "?".toList.isSuffixOf text.toList ↔ text.toList.getLast? = some '?' := by
    rw [List.isSuffixOf_iff_suffix]
    apply List.singleton_suffix_iff_getLast?_eq_some
  simp only [Language.optionalType, AdmitsNull, Bool.or_eq_true, decide_eq_true_eq, hmark,
    List.mem_cons, List.not_mem_nil, or_false, or_assoc]

theorem Language.admitsNull_optionalType_dart (text : String) :
  AdmitsNull (Language.dart.optionalType text)
  := by
  rw [optionalType_dart]
  split
  case isTrue h => apply h
  case isFalse =>
    left
    simp

theorem AdmitsNull.getLast?_ne {text : String} (h : AdmitsNull text) :
  text.toList.getLast? ≠ some '>'
  := by
  rcases h with hmark | hname
  · rw [hmark]
    decide
  · revert text
    decide

namespace DartType

theorem admitsNull_text_iff (type : DartType) :
  AdmitsNull type.text ↔ type.Ends AdmitsNull
  := type.text_iff_ends (fun _ => Or.inl) fun _ => AdmitsNull.getLast?_ne

instance (type : DartType) : Decidable (type.Ends AdmitsNull) :=
  decidable_of_iff _ type.admitsNull_text_iff

/-- The type or null is spelled like what may be left out exactly if the type does not admit
null already, or is `dynamic`. -/
theorem text_orNull_eq_iff (type : DartType) :
  type.orNull.text = Language.dart.optionalType type.text
    ↔ type = .name "dynamic" ∨ ¬ type.Ends AdmitsNull
  := by
  rw [Language.optionalType_dart, orNull]
  by_cases hdynamic : type = .name "dynamic"
  · subst hdynamic
    simp only [if_true, true_or, iff_true]
    decide
  · rw [if_neg hdynamic, ← admitsNull_text_iff, DartType.text]
    by_cases hnull : AdmitsNull type.text <;> simp [hdynamic, hnull]

end DartType

namespace TypeNode

theorem isNull_iff (t : TypeNode) :
  t.isNull ↔ t = .primitive .null
  := by
  constructor
  · intro h
    unfold isNull at h
    split at h
    · rfl
    · cases h
  · rintro rfl
    rfl

theorem dart_union_null (t : TypeNode) :
  (union [t, .primitive .null]).dart = if t.isNull then "dynamic" else t.dartType.orNull.text
  := by
  have hnull : isNull (.primitive .null) = true := rfl
  rw [← text_dartType]
  cases h : t.isNull <;> simp [dartType, dartVariantTypes, DartType.union, DartType.text, hnull, h]

theorem dart_union_null_comm (t : TypeNode) :
  (union [.primitive .null, t]).dart = (union [t, .primitive .null]).dart
  := by
  have hnull : isNull (.primitive .null) = true := rfl
  cases h : t.isNull <;> simp [dart, dartVariants, hnull, h]

/-- The union of a type and null is spelled like what may be left out exactly if the type does
not admit null already, or is `dynamic`. -/
theorem dart_union_null_eq_iff (t : TypeNode) :
  (union [t, .primitive .null]).dart = Language.dart.optionalType t.dart
    ↔ t.dartType = .name "dynamic" ∨ ¬ t.dartType.Ends AdmitsNull
  := by
  rw [dart_union_null]
  cases hnull : t.isNull with
  | false =>
    rw [← t.text_dartType]
    apply t.dartType.text_orNull_eq_iff
  | true =>
    obtain rfl := t.isNull_iff.mp hnull
    decide

end TypeNode

/-! ### Marks after words that take none -/

/-- The words after which no mark may stand. -/
def unmarkable : List String := ["?", "void", "dynamic"]

/-- A text in which a mark stands after such a word. -/
def Overmarked (text : String) : Prop :=
  ∃ word ∈ unmarkable, word.toList ++ ['?'] <:+: text.toList

/-- A text that ends with such a word. -/
def EndsUnmarkable (text : String) : Prop :=
  ∃ word ∈ unmarkable, word.toList <:+ text.toList

theorem EndsUnmarkable.of_mark {text : String} (h : text.toList.getLast? = some '?') :
  EndsUnmarkable text
  := by
  use "?", by decide
  apply List.singleton_suffix_iff_getLast?_eq_some.mpr h

theorem EndsUnmarkable.getLast?_ne {text : String} (h : EndsUnmarkable text) :
  text.toList.getLast? ≠ some '>'
  := by
  obtain ⟨word, hword, before, heq⟩ := h
  have hlast : ∀ word ∈ unmarkable, word.toList ≠ [] ∧ word.toList.getLast? ≠ some '>' := by
    simp [unmarkable]
  obtain ⟨hne, hlast⟩ := hlast word hword
  rw [← heq, List.getLast?_append_of_ne_nil _ hne]
  apply hlast

theorem Overmarked.mem {text : String} (h : Overmarked text) :
  '?' ∈ text.toList
  := by
  obtain ⟨word, -, hinfix⟩ := h
  apply hinfix.subset
  apply List.mem_append_right _ (List.mem_singleton_self _)

/-- A mark is one too many in a text with one more mark if it was so before, or if it is the
last one. -/
theorem overmarked_mark_iff (text : String) :
  Overmarked (text ++ "?") ↔ Overmarked text ∨ EndsUnmarkable text
  := by
  have hword : ∀ word : String, word.toList ++ ['?'] <:+: (text ++ "?").toList
      ↔ word.toList <:+ text.toList ∨ word.toList ++ ['?'] <:+: text.toList := by
    intro word
    have hmark : "?".toList = ['?'] := by decide
    rw [String.toList_append, hmark, List.infix_concat_iff, List.suffix_append_self_iff]
  simp only [Overmarked, EndsUnmarkable, hword, and_or_left, exists_or]
  apply or_comm

/-- The characters that stand around the types that a type is made of. -/
def dartPunctuation : List Char := ['<', '>', ',', ' ']

theorem overmarked_append_iff {a b : String} {c : Char} (hc : c ∈ dartPunctuation)
    (h : a.toList.getLast? = some c ∨ b.toList.head? = some c) :
  Overmarked (a ++ b) ↔ Overmarked a ∨ Overmarked b
  := by
  have hfree : ∀ word ∈ unmarkable, ∀ c ∈ dartPunctuation, c ∉ word.toList ++ ['?'] := by
    simp [unmarkable, dartPunctuation]
  have hword : ∀ word ∈ unmarkable, word.toList ++ ['?'] <:+: (a ++ b).toList
      ↔ word.toList ++ ['?'] <:+: a.toList ∨ word.toList ++ ['?'] <:+: b.toList := by
    intro word hword
    have happend : (a ++ b).toList = a.toList ++ b.toList := String.toList_append
    rw [happend]
    apply infix_append_iff_of_not_mem (hfree word hword c hc) h
  constructor
  · rintro ⟨word, hmem, hinfix⟩
    rcases (hword word hmem).mp hinfix with hinfix | hinfix
    · exact .inl ⟨word, hmem, hinfix⟩
    · exact .inr ⟨word, hmem, hinfix⟩
  · rintro (⟨word, hmem, hinfix⟩ | ⟨word, hmem, hinfix⟩)
    · exact ⟨word, hmem, (hword word hmem).mpr (.inl hinfix)⟩
    · exact ⟨word, hmem, (hword word hmem).mpr (.inr hinfix)⟩

theorem overmarked_open_iff {opening : String} (hlast : opening.toList.getLast? = some '<')
    (hfree : '?' ∉ opening.toList) (text : String) :
  Overmarked (opening ++ text) ↔ Overmarked text
  := by rw [overmarked_append_iff (by decide) (.inl hlast), or_iff_right (mt Overmarked.mem hfree)]

theorem overmarked_close_iff (text : String) :
  Overmarked (text ++ ">") ↔ Overmarked text
  := by
  have hfree : ¬ Overmarked ">" := mt Overmarked.mem (by decide)
  have hhead : ">".toList.head? = some '>' := by decide
  rw [overmarked_append_iff (by decide) (.inr hhead), or_iff_left hfree]

theorem overmarked_separated_iff (a b : String) :
  Overmarked (a ++ ", " ++ b) ↔ Overmarked a ∨ Overmarked b
  := by
  have hfree : ¬ Overmarked ", " := mt Overmarked.mem (by decide)
  have hhead : ", ".toList.head? = some ',' := by decide
  have hlast : (a ++ ", ").toList.getLast? = some ' ' := by
    rw [String.toList_append, List.getLast?_append]
    rfl
  rw [overmarked_append_iff (by decide) (.inl hlast),
    overmarked_append_iff (by decide) (.inr hhead), or_iff_left hfree]

namespace DartType

theorem endsUnmarkable_text_iff (type : DartType) :
  EndsUnmarkable type.text ↔ type.Ends EndsUnmarkable
  := type.text_iff_ends (fun _ => EndsUnmarkable.of_mark) fun _ => EndsUnmarkable.getLast?_ne

/-- A type with a mark where none may stand: within a name, or after a type that takes none. -/
def Overmarks : DartType → Prop
  | .name text => Overmarked text
  | .list element => element.Overmarks
  | .map key value => key.Overmarks ∨ value.Overmarks
  | .future result => result.Overmarks
  | .nullable type => type.Overmarks ∨ type.Ends EndsUnmarkable

theorem overmarked_text_iff (type : DartType) :
  Overmarked type.text ↔ type.Overmarks
  := by
  induction type with
  | name => rfl
  | list element ih =>
    rw [text, overmarked_close_iff, overmarked_open_iff (by decide) (by decide)]
    apply ih
  | map key value ihkey ihvalue =>
    rw [text, overmarked_close_iff, overmarked_separated_iff,
      overmarked_open_iff (by decide) (by decide)]
    apply or_congr ihkey ihvalue
  | future result ih =>
    rw [text, overmarked_close_iff, overmarked_open_iff (by decide) (by decide)]
    apply ih
  | nullable type ih =>
    rw [text, overmarked_mark_iff, endsUnmarkable_text_iff]
    apply or_congr_left ih

end DartType

/-! ### Two ways to a mark -/

/-- A type is spelled by its type of Dart. The union of it and null is spelled alike in either
order of the two, and like the type of what may be left out exactly if the type does not admit
null already or is `dynamic`; and a mark stands after a mark, after `void` or after `dynamic`
exactly if some type within it takes no mark and has one, or if some name has one there. -/
theorem TypeNode.dart_nullable (t : TypeNode) :
  t.dart = t.dartType.text
    ∧ (union [.primitive .null, t]).dart = (union [t, .primitive .null]).dart
    ∧ ((union [t, .primitive .null]).dart = Language.dart.optionalType t.dart
      ↔ t.dartType = .name "dynamic" ∨ ¬ t.dartType.Ends AdmitsNull)
    ∧ (Overmarked t.dart ↔ t.dartType.Overmarks)
  := by
  and_intros
  · apply t.text_dartType.symm
  · apply t.dart_union_null_comm
  · apply t.dart_union_null_eq_iff
  · rw [← t.text_dartType]
    apply t.dartType.overmarked_text_iff

/-- The two ways to a mark differ for a union that has one. -/
theorem TypeNode.not_dart_nullable_integer :
  ¬ ∀ t : TypeNode, t.isNull = false → t.mentions = [] →
      (union [t, .primitive .null]).dart = Language.dart.optionalType t.dart
        ∧ ¬ Overmarked (union [t, .primitive .null]).dart
  := by
  intro h
  have heq := (h (.union [.primitive .integer, .primitive .null]) rfl rfl).1
  revert heq
  decide

end ClientGen
