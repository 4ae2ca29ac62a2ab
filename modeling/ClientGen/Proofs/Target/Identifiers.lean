import ClientGen.Program.References
import ClientGen.Proofs.Text.Pieces
import ClientGen.Target.TypeText
import Mathlib.Tactic.Use

/-!
# Identifiers of spelled types

What a type is spelled with is known without the text: the names that the type refers to,
names that the language itself gives to types, and in TypeScript the names of properties and
of the keys of maps. So a file that has the names that its types refer to has all names that
it needs, and in TypeScript it needs each of them.
-/

namespace ClientGen

/-- The names that a language has in spelled types, whatever a program declares. In TypeScript
`key` stands for the keys of a map. -/
def Language.builtinNames : Language → List String
  | .typescript => [
    "string", "number", "boolean", "bigint", "null", "void", "any", "Date", "Array", "Promise",
    "key"]
  | .python => [
    "str", "int", "float", "bool", "None", "Any", "datetime", "List", "Dict", "Awaitable",
    "Optional", "Union"]
  | .dart => [
    "String", "int", "double", "bool", "BigInt", "Null", "void", "dynamic", "DateTime", "List",
    "Map", "Future"]

/-- A language needs each of these names for some type that refers to nothing. -/
theorem Language.exists_mem_identifiers_of_mem_builtinNames (lang : Language) :
  ∀ name ∈ lang.builtinNames,
    ∃ t : TypeNode, t.mentions = [] ∧ name ∈ Text.identifiers (lang.typeText t)
  := by
  let primitives : List Primitive :=
    [.string, .integer, .float, .boolean, .bigInt, .null, .void, .any, .date]
  let composed : List TypeNode := [
    .array .unknown, .map .unknown .unknown, .promise .unknown,
    .union [.primitive .null, .primitive .string, .unknown]]
  have hspelled : ∀ name ∈ lang.builtinNames, ∃ t ∈ primitives.map .primitive ++ composed,
      t.mentions = [] ∧ name ∈ Text.identifiers (lang.typeText t) := by
    cases lang <;> decide +kernel
  intro name hname
  obtain ⟨t, -, ht⟩ := hspelled name hname
  use t

namespace TypeNode

mutual

/-- The names of the declarations that stand in the place of types. -/
def declaredNames : TypeNode → List String
  | .array element => declaredNames element
  | .map key value => declaredNames key ++ declaredNames value
  | .promise result => declaredNames result
  | .union variants => variantDeclaredNames variants
  | .object properties => propertyDeclaredNames properties
  | .declared d => [d.name]
  | .primitive _ | .custom _ | .unknown => []

/-- The names of the declarations in variants. -/
def variantDeclaredNames : List TypeNode → List String
  | [] => []
  | variant :: variants => declaredNames variant ++ variantDeclaredNames variants

/-- The names of the declarations in the types of properties. -/
def propertyDeclaredNames : List (Property TypeNode) → List String
  | [] => []
  | ⟨_, _, type⟩ :: properties => declaredNames type ++ propertyDeclaredNames properties

end

mutual

/-- The identifiers in the names of properties, as TypeScript spells these names. -/
def propertyWords : TypeNode → List String
  | .array element => propertyWords element
  | .map key value => propertyWords key ++ propertyWords value
  | .promise result => propertyWords result
  | .union variants => variantPropertyWords variants
  | .object properties => objectPropertyWords properties
  | .declared _ | .primitive _ | .custom _ | .unknown => []

/-- The identifiers in the names of properties in variants. -/
def variantPropertyWords : List TypeNode → List String
  | [] => []
  | variant :: variants => propertyWords variant ++ variantPropertyWords variants

/-- The identifiers in the names of the properties of an object. -/
def objectPropertyWords : List (Property TypeNode) → List String
  | [] => []
  | ⟨name, _, type⟩ :: properties =>
    Text.identifiers (Language.quoteIfNeeded name) ++ propertyWords type
      ++ objectPropertyWords properties

end

end TypeNode

/-! ### Identifiers of composed texts -/

namespace Text

/-- A text without identifiers that keeps what stands before it and after it apart. -/
structure IsGap (text : String) : Prop where
  starts : startsApart text
  ends : endsApart text
  empty : identifiers text = []

instance (text : String) : Decidable (IsGap text) :=
  decidable_of_iff (startsApart text ∧ endsApart text ∧ identifiers text = [])
    ⟨fun ⟨hstarts, hends, hempty⟩ => ⟨hstarts, hends, hempty⟩,
      fun h => ⟨h.starts, h.ends, h.empty⟩⟩

theorem IsGap.identifiers_between {gap : String} (h : IsGap gap) (a b : String) :
  identifiers (a ++ gap ++ b) = identifiers a ++ identifiers b
  := by
  rw [String.append_assoc, identifiers_append (.inr (startsApart_append h.starts b)),
    identifiers_append (.inl h.ends), h.empty, List.nil_append]

theorem IsGap.identifiers_before {gap : String} (h : IsGap gap) (a : String) :
  identifiers (a ++ gap) = identifiers a
  := by rw [identifiers_append (.inr h.starts), h.empty, List.append_nil]

/-- The identifiers of a text within brackets. -/
theorem identifiers_enclosed {before after : String} (hbefore : endsApart before)
    (hafter : IsGap after) (text : String) :
  identifiers (before ++ text ++ after) = identifiers before ++ identifiers text
  := by rw [hafter.identifiers_before, identifiers_append (.inl hbefore)]

/-- The identifiers of two texts within brackets, with a separator between them. -/
theorem identifiers_pair {before separator after : String} (hbefore : endsApart before)
    (hseparator : IsGap separator) (hafter : IsGap after) (first second : String) :
  identifiers (before ++ first ++ separator ++ second ++ after)
    = identifiers before ++ (identifiers first ++ identifiers second)
  := by
  rw [hafter.identifiers_before, hseparator.identifiers_between,
    identifiers_append (.inl hbefore), List.append_assoc]

/-- The identifiers of joined texts are those of the texts. -/
theorem IsGap.identifiers_intercalate {gap : String} (h : IsGap gap) (texts : List String) :
  identifiers (gap.intercalate texts) = texts.flatMap identifiers
  := by
  induction texts with
  | nil => rfl
  | cons text texts ih =>
    cases texts with
    | nil => simp
    | cons next texts =>
      rw [String.intercalate_cons_cons, h.identifiers_between, ih]
      rfl

end Text

/-! ### Variants and properties -/

namespace TypeNode

theorem typescriptVariants_eq_map (variants : List TypeNode) :
  typescriptVariants variants = variants.map typescript
  := by
  induction variants with
  | nil => rfl
  | cons variant variants ih => rw [typescriptVariants, ih, List.map_cons]

theorem pythonVariants_eq_map (variants : List TypeNode) :
  pythonVariants variants = (variants.filter fun v => !v.isNothing).map python
  := by
  induction variants with
  | nil => rfl
  | cons variant variants ih =>
    cases h : variant.isNothing <;> simp [pythonVariants, h, ih]

theorem dartVariants_eq_map (variants : List TypeNode) :
  dartVariants variants = (variants.filter fun v => !v.isNull).map dart
  := by
  induction variants with
  | nil => rfl
  | cons variant variants ih =>
    cases h : variant.isNull <;> simp [dartVariants, h, ih]

/-- A property of an object in TypeScript. -/
def typescriptProperty (p : Property TypeNode) : String :=
  Language.quoteIfNeeded p.name ++ (if p.isOptional then "?" else "") ++ ": "
    ++ p.type.typescript

theorem typescriptProperties_eq_map (properties : List (Property TypeNode)) :
  typescriptProperties properties = properties.map typescriptProperty
  := by
  induction properties with
  | nil => rfl
  | cons p properties ih => rw [typescriptProperties, ih, List.map_cons, typescriptProperty]

theorem identifiers_typescriptProperty (p : Property TypeNode) :
  Text.identifiers (typescriptProperty p)
    = Text.identifiers (Language.quoteIfNeeded p.name) ++ Text.identifiers p.type.typescript
  := by
  have hmark : Text.IsGap "?" := by decide
  have hcolon : Text.IsGap ": " := by decide
  rw [typescriptProperty, hcolon.identifiers_between]
  split
  case isTrue => rw [hmark.identifiers_before]
  case isFalse => rw [String.append_empty]

theorem propertyWords_subset {names : List String} (properties : List (Property TypeNode))
    (h : objectPropertyWords properties ⊆ names) :
  ∀ p ∈ properties, Text.identifiers (Language.quoteIfNeeded p.name) ⊆ names
  := by
  induction properties with
  | nil => rintro _ ⟨⟩
  | cons p properties ih =>
    obtain ⟨hfirst, hrest⟩ := List.append_subset.mp h
    rw [List.forall_mem_cons]
    exact ⟨(List.append_subset.mp hfirst).1, ih hrest⟩

end TypeNode

/-! ### Single steps

Where what a type is made of is spelled with certain names, among them those of the language,
the type is spelled with these names, too.
-/

namespace Language

section

variable {lang : Language} {names : List String}

theorem identifiers_enclosed_subset (hbuiltin : lang.builtinNames ⊆ names) {before after : String}
    (hbefore : Text.endsApart before) (hafter : Text.IsGap after)
    (hown : Text.identifiers before ⊆ lang.builtinNames) {text : String}
    (h : Text.identifiers text ⊆ names) :
  Text.identifiers (before ++ text ++ after) ⊆ names
  := by
  rw [Text.identifiers_enclosed hbefore hafter, List.append_subset]
  exact ⟨List.Subset.trans hown hbuiltin, h⟩

theorem identifiers_pair_subset (hbuiltin : lang.builtinNames ⊆ names)
    {before separator after : String} (hbefore : Text.endsApart before)
    (hseparator : Text.IsGap separator) (hafter : Text.IsGap after)
    (hown : Text.identifiers before ⊆ lang.builtinNames) {first second : String}
    (hfirst : Text.identifiers first ⊆ names) (hsecond : Text.identifiers second ⊆ names) :
  Text.identifiers (before ++ first ++ separator ++ second ++ after) ⊆ names
  := by
  rw [Text.identifiers_pair hbefore hseparator hafter, List.append_subset, List.append_subset]
  exact ⟨List.Subset.trans hown hbuiltin, hfirst, hsecond⟩

theorem identifiers_intercalate_subset {gap : String} (hgap : Text.IsGap gap)
    {texts : List String} (h : ∀ text ∈ texts, Text.identifiers text ⊆ names) :
  Text.identifiers (gap.intercalate texts) ⊆ names
  := by
  rw [hgap.identifiers_intercalate]
  intro name hname
  obtain ⟨text, htext, hname⟩ := List.mem_flatMap.mp hname
  apply h text htext hname

theorem identifiers_primitive_subset (hbuiltin : lang.builtinNames ⊆ names) (p : Primitive) :
  Text.identifiers (lang.typeText (.primitive p)) ⊆ names
  := by
  apply List.Subset.trans _ hbuiltin
  cases lang <;> cases p <;> decide

theorem identifiers_unknown_subset (hbuiltin : lang.builtinNames ⊆ names) :
  Text.identifiers (lang.typeText .unknown) ⊆ names
  := by
  apply List.Subset.trans _ hbuiltin
  cases lang <;> decide

theorem identifiers_array_subset (hbuiltin : lang.builtinNames ⊆ names) {element : TypeNode}
    (h : Text.identifiers (lang.typeText element) ⊆ names) :
  Text.identifiers (lang.typeText (.array element)) ⊆ names
  := by
  cases lang <;>
    apply identifiers_enclosed_subset hbuiltin (by decide) (by decide) (by decide) h

theorem identifiers_map_subset (hbuiltin : lang.builtinNames ⊆ names) {key value : TypeNode}
    (hkey : Text.identifiers (lang.typeText key) ⊆ names)
    (hvalue : Text.identifiers (lang.typeText value) ⊆ names) :
  Text.identifiers (lang.typeText (.map key value)) ⊆ names
  := by
  cases lang <;>
    apply identifiers_pair_subset hbuiltin (by decide) (by decide) (by decide) (by decide) hkey
      hvalue

theorem identifiers_promise_subset (hbuiltin : lang.builtinNames ⊆ names) {result : TypeNode}
    (h : Text.identifiers (lang.typeText result) ⊆ names) :
  Text.identifiers (lang.typeText (.promise result)) ⊆ names
  := by
  cases lang <;>
    apply identifiers_enclosed_subset hbuiltin (by decide) (by decide) (by decide) h

/-- A text or the optional type of it. -/
theorem identifiers_optional_subset (hbuiltin : Language.python.builtinNames ⊆ names)
    (nothing : Bool) {text : String} (h : Text.identifiers text ⊆ names) :
  Text.identifiers (if nothing then "Optional[" ++ text ++ "]" else text) ⊆ names
  := by
  cases nothing with
  | false => apply h
  | true => apply identifiers_enclosed_subset hbuiltin (by decide) (by decide) (by decide) h

theorem identifiers_pythonUnion_subset (hbuiltin : Language.python.builtinNames ⊆ names)
    (nothing : Bool) {texts : List String} (h : ∀ text ∈ texts, Text.identifiers text ⊆ names) :
  Text.identifiers (pythonUnion nothing texts) ⊆ names
  := by
  match texts with
  | [] => apply identifiers_primitive_subset hbuiltin .void
  | [single] => apply identifiers_optional_subset hbuiltin nothing (h single (by simp))
  | _ :: _ :: _ =>
    apply identifiers_optional_subset hbuiltin
    apply identifiers_enclosed_subset hbuiltin (by decide) (by decide) (by decide)
    apply identifiers_intercalate_subset (by decide) h

theorem identifiers_dartUnion_subset (hbuiltin : Language.dart.builtinNames ⊆ names)
    (nullable : Bool) {texts : List String} (h : ∀ text ∈ texts, Text.identifiers text ⊆ names) :
  Text.identifiers (dartUnion nullable texts) ⊆ names
  := by
  have hmark : Text.IsGap "?" := by decide
  match texts with
  | [single] =>
    have hsingle := h single (by simp)
    rw [dartUnion]
    split
    case isTrue =>
      split
      case isTrue => apply hsingle
      case isFalse =>
        rw [hmark.identifiers_before]
        apply hsingle
    case isFalse => apply hsingle
  | [] => apply identifiers_unknown_subset hbuiltin
  | _ :: _ :: _ => apply identifiers_unknown_subset hbuiltin

theorem identifiers_union_subset (hbuiltin : lang.builtinNames ⊆ names) {variants : List TypeNode}
    (h : ∀ variant ∈ variants, Text.identifiers (lang.typeText variant) ⊆ names) :
  Text.identifiers (lang.typeText (.union variants)) ⊆ names
  := by
  -- Python and Dart leave out variants, so this is said of any that are kept.
  have htexts : ∀ kept ⊆ variants, ∀ text ∈ kept.map lang.typeText,
      Text.identifiers text ⊆ names := by
    intro kept hkept
    rw [List.forall_mem_map]
    intro variant hvariant
    apply h variant (hkept hvariant)
  cases variants with
  | nil => cases lang <;> apply identifiers_unknown_subset hbuiltin
  | cons variant variants =>
    cases lang with
    | typescript =>
      rw [typeText, TypeNode.typescript, TypeNode.typescriptVariants_eq_map]
      · apply identifiers_intercalate_subset (by decide)
        apply htexts _ (List.Subset.refl _)
      · rintro ⟨⟩
    | python =>
      rw [typeText, TypeNode.python, TypeNode.pythonVariants_eq_map]
      · apply identifiers_pythonUnion_subset hbuiltin
        apply htexts _ List.filter_sublist.subset
      · rintro ⟨⟩
    | dart =>
      rw [typeText, TypeNode.dart, TypeNode.dartVariants_eq_map]
      apply identifiers_dartUnion_subset hbuiltin
      apply htexts _ List.filter_sublist.subset

/-- Only TypeScript spells the properties of an object. -/
theorem identifiers_object_subset (hbuiltin : lang.builtinNames ⊆ names)
    {properties : List (Property TypeNode)}
    (hwords : lang = .typescript →
      ∀ p ∈ properties, Text.identifiers (quoteIfNeeded p.name) ⊆ names)
    (h : ∀ p ∈ properties, Text.identifiers (lang.typeText p.type) ⊆ names) :
  Text.identifiers (lang.typeText (.object properties)) ⊆ names
  := by
  cases lang with
  | typescript =>
    rw [typeText, TypeNode.typescript, TypeNode.typescriptProperties_eq_map]
    apply identifiers_enclosed_subset hbuiltin (by decide) (by decide) (by decide)
    apply identifiers_intercalate_subset (by decide)
    rw [List.forall_mem_map]
    intro p hp
    rw [TypeNode.identifiers_typescriptProperty, List.append_subset]
    exact ⟨hwords rfl p hp, h p hp⟩
  | python =>
    have hmap : Text.identifiers "Dict[str, Any]" ⊆ python.builtinNames := by decide
    apply List.Subset.trans hmap hbuiltin
  | dart =>
    have hmap : Text.identifiers "Map<String, dynamic>" ⊆ dart.builtinNames := by decide
    apply List.Subset.trans hmap hbuiltin

theorem identifiers_declared {d : Declaration} (h : Text.isIdentifier d.name.toList) :
  Text.identifiers (lang.typeText (.declared d)) = [d.name]
  := by
  rw [← Text.identifiers_of_isIdentifier h]
  cases lang <;> rfl

theorem identifiers_custom (text : String) :
  Text.identifiers (lang.typeText (.custom text)) = Text.identifiers text
  := by cases lang <;> rfl

/-! ### Whole types -/

mutual

/-- A type is spelled with names that it refers to and names of the language, and in TypeScript
with names of properties. -/
theorem identifiers_typeText_subset (hbuiltin : lang.builtinNames ⊆ names) :
  ∀ t : TypeNode, (∀ name ∈ t.declaredNames, Text.isIdentifier name.toList) →
    t.mentions ⊆ names → (lang = .typescript → t.propertyWords ⊆ names) →
    Text.identifiers (lang.typeText t) ⊆ names
  | .primitive p, _, _, _ => identifiers_primitive_subset hbuiltin p
  | .array element, h, hmentions, hwords => by
      apply identifiers_array_subset hbuiltin
      apply identifiers_typeText_subset hbuiltin element h hmentions hwords
  | .map key value, h, hmentions, hwords => by
      obtain ⟨hkey, hvalue⟩ := List.forall_mem_append.mp h
      obtain ⟨hkey', hvalue'⟩ := List.append_subset.mp hmentions
      apply identifiers_map_subset hbuiltin
      · apply identifiers_typeText_subset hbuiltin key hkey hkey'
        intro hlang
        apply (List.append_subset.mp (hwords hlang)).1
      · apply identifiers_typeText_subset hbuiltin value hvalue hvalue'
        intro hlang
        apply (List.append_subset.mp (hwords hlang)).2
  | .promise result, h, hmentions, hwords => by
      apply identifiers_promise_subset hbuiltin
      apply identifiers_typeText_subset hbuiltin result h hmentions hwords
  | .union variants, h, hmentions, hwords => by
      apply identifiers_union_subset hbuiltin
      apply identifiers_variants_subset hbuiltin variants h hmentions hwords
  | .object properties, h, hmentions, hwords => by
      apply identifiers_object_subset hbuiltin
      · intro hlang
        apply TypeNode.propertyWords_subset properties (hwords hlang)
      · apply identifiers_properties_subset hbuiltin properties h hmentions hwords
  | .declared d, h, hmentions, _ => by
      rw [identifiers_declared (h d.name (List.mem_singleton_self _))]
      apply hmentions
  | .custom text, _, hmentions, _ => by
      rw [identifiers_custom]
      apply hmentions
  | .unknown, _, _, _ => identifiers_unknown_subset hbuiltin

theorem identifiers_variants_subset (hbuiltin : lang.builtinNames ⊆ names) :
  ∀ variants : List TypeNode,
    (∀ name ∈ TypeNode.variantDeclaredNames variants, Text.isIdentifier name.toList) →
    TypeNode.variantMentions variants ⊆ names →
    (lang = .typescript → TypeNode.variantPropertyWords variants ⊆ names) →
    ∀ variant ∈ variants, Text.identifiers (lang.typeText variant) ⊆ names
  | [], _, _, _ => fun _ hmem => nomatch hmem
  | variant :: variants, h, hmentions, hwords => by
      obtain ⟨hfirst, hrest⟩ := List.forall_mem_append.mp h
      obtain ⟨hfirst', hrest'⟩ := List.append_subset.mp hmentions
      rw [List.forall_mem_cons]
      constructor
      · apply identifiers_typeText_subset hbuiltin variant hfirst hfirst'
        intro hlang
        apply (List.append_subset.mp (hwords hlang)).1
      · apply identifiers_variants_subset hbuiltin variants hrest hrest'
        intro hlang
        apply (List.append_subset.mp (hwords hlang)).2

theorem identifiers_properties_subset (hbuiltin : lang.builtinNames ⊆ names) :
  ∀ properties : List (Property TypeNode),
    (∀ name ∈ TypeNode.propertyDeclaredNames properties, Text.isIdentifier name.toList) →
    TypeNode.propertyMentions properties ⊆ names →
    (lang = .typescript → TypeNode.objectPropertyWords properties ⊆ names) →
    ∀ p ∈ properties, Text.identifiers (lang.typeText p.type) ⊆ names
  | [], _, _, _ => fun _ hmem => nomatch hmem
  | ⟨name, isOptional, type⟩ :: properties, h, hmentions, hwords => by
      obtain ⟨hfirst, hrest⟩ := List.forall_mem_append.mp h
      obtain ⟨hfirst', hrest'⟩ := List.append_subset.mp hmentions
      rw [List.forall_mem_cons]
      constructor
      · apply identifiers_typeText_subset hbuiltin type hfirst hfirst'
        intro hlang
        apply (List.append_subset.mp (List.append_subset.mp (hwords hlang)).1).2
      · apply identifiers_properties_subset hbuiltin properties hrest hrest'
        intro hlang
        apply (List.append_subset.mp (hwords hlang)).2

end

end

end Language

/-! ### Names that have to be there -/

theorem append_subset_append {α : Type} {as as' bs bs' : List α} (h : as ⊆ as') (h' : bs ⊆ bs') :
  as ++ bs ⊆ as' ++ bs'
  := by
  apply List.append_subset.mpr
  constructor
  · apply List.subset_append_of_subset_left _ h
  · apply List.subset_append_of_subset_right _ h'

namespace TypeNode

theorem identifiers_typescript_union (variant : TypeNode) (variants : List TypeNode) :
  Text.identifiers (typescript (.union (variant :: variants)))
    = (variant :: variants).flatMap fun v => Text.identifiers v.typescript
  := by
  have hbar : Text.IsGap " | " := by decide
  rw [typescript, hbar.identifiers_intercalate, typescriptVariants_eq_map, List.flatMap_map]
  rintro ⟨⟩

theorem identifiers_typescript_object (properties : List (Property TypeNode)) :
  Text.identifiers (typescript (.object properties))
    = properties.flatMap fun p =>
        Text.identifiers (Language.quoteIfNeeded p.name) ++ Text.identifiers p.type.typescript
  := by
  have hcomma : Text.IsGap ", " := by decide
  rw [typescript, Text.identifiers_enclosed (by decide) (by decide),
    hcomma.identifiers_intercalate, typescriptProperties_eq_map, List.flatMap_map]
  simp only [identifiers_typescriptProperty]
  rfl

mutual

/-- In TypeScript a type is spelled with every name that it refers to. -/
theorem mentions_subset_typescript :
  ∀ t : TypeNode, (∀ name ∈ declaredNames t, Text.isIdentifier name.toList) →
    mentions t ⊆ Text.identifiers t.typescript
  | .primitive _, _ => List.nil_subset _
  | .array element, h => by
      rw [typescript, Text.identifiers_enclosed (by decide) (by decide)]
      apply List.subset_append_of_subset_right
      apply mentions_subset_typescript element h
  | .map key value, h => by
      obtain ⟨hkey, hvalue⟩ := List.forall_mem_append.mp h
      rw [typescript, Text.identifiers_pair (by decide) (by decide) (by decide)]
      apply List.subset_append_of_subset_right
      apply append_subset_append
      · apply mentions_subset_typescript key hkey
      · apply mentions_subset_typescript value hvalue
  | .promise result, h => by
      rw [typescript, Text.identifiers_enclosed (by decide) (by decide)]
      apply List.subset_append_of_subset_right
      apply mentions_subset_typescript result h
  | .union [], _ => List.nil_subset _
  | .union (variant :: variants), h => by
      rw [identifiers_typescript_union]
      apply variantMentions_subset_typescript (variant :: variants) h
  | .object properties, h => by
      rw [identifiers_typescript_object]
      apply propertyMentions_subset_typescript properties h
  | .declared d, h => by
      rw [typescript, Text.identifiers_of_isIdentifier (h d.name (List.mem_singleton_self _))]
      apply List.Subset.refl
  | .custom _, _ => List.Subset.refl _
  | .unknown, _ => List.nil_subset _

theorem variantMentions_subset_typescript :
  ∀ variants : List TypeNode,
    (∀ name ∈ variantDeclaredNames variants, Text.isIdentifier name.toList) →
    variantMentions variants ⊆ variants.flatMap fun v => Text.identifiers v.typescript
  | [], _ => List.nil_subset _
  | variant :: variants, h => by
      obtain ⟨hfirst, hrest⟩ := List.forall_mem_append.mp h
      apply append_subset_append
      · apply mentions_subset_typescript variant hfirst
      · apply variantMentions_subset_typescript variants hrest

theorem propertyMentions_subset_typescript :
  ∀ properties : List (Property TypeNode),
    (∀ name ∈ propertyDeclaredNames properties, Text.isIdentifier name.toList) →
    propertyMentions properties ⊆ properties.flatMap fun p =>
      Text.identifiers (Language.quoteIfNeeded p.name) ++ Text.identifiers p.type.typescript
  | [], _ => List.nil_subset _
  | ⟨name, isOptional, type⟩ :: properties, h => by
      obtain ⟨hfirst, hrest⟩ := List.forall_mem_append.mp h
      apply append_subset_append
      · apply List.subset_append_of_subset_right
        apply mentions_subset_typescript type hfirst
      · apply propertyMentions_subset_typescript properties hrest

end

end TypeNode

/-! ### All languages -/

namespace Language

/-- The names that a type may be spelled with besides those that it refers to. -/
def ownNames (lang : Language) (t : TypeNode) : List String :=
  match lang with
  | .typescript => lang.builtinNames ++ t.propertyWords
  | .python | .dart => lang.builtinNames

theorem builtinNames_subset_ownNames (lang : Language) (t : TypeNode) :
  lang.builtinNames ⊆ lang.ownNames t
  := by
  cases lang with
  | typescript => apply List.subset_append_left
  | python => apply List.Subset.refl
  | dart => apply List.Subset.refl

/-- What a method returns is spelled as a type that has the same names. -/
theorem returnTypeText_eq_typeText (lang : Language) (t : TypeNode) :
  ∃ u : TypeNode, lang.returnTypeText t = lang.typeText u ∧ u.declaredNames = t.declaredNames ∧
    u.mentions = t.mentions ∧ u.propertyWords = t.propertyWords
  := by
  have hawaited : t.awaited.declaredNames = t.declaredNames ∧ t.awaited.mentions = t.mentions ∧
      t.awaited.propertyWords = t.propertyWords := by
    cases t <;> exact ⟨rfl, rfl, rfl⟩
  cases lang with
  | typescript => exact ⟨.promise t.awaited, rfl, hawaited⟩
  | python => exact ⟨t.awaited, rfl, hawaited⟩
  | dart => exact ⟨.promise t.awaited, rfl, hawaited⟩

/-- The names of a spelled type are names that the type refers to and names that the language
has; and in TypeScript each name that the type refers to is one of them. -/
theorem identifiers_typeText {t : TypeNode}
    (h : ∀ name ∈ t.declaredNames, Text.isIdentifier name.toList) :
  (∀ lang : Language,
    Text.identifiers (lang.typeText t) ⊆ t.referencedNames ++ lang.ownNames t ∧
      Text.identifiers (lang.returnTypeText t) ⊆ t.referencedNames ++ lang.ownNames t) ∧
    t.referencedNames ⊆ Text.identifiers (Language.typescript.typeText t)
  := by
  have hmentions : t.mentions ⊆ t.referencedNames := fun _ => List.mem_eraseDups.mpr
  constructor
  · intro lang
    have hown : lang.ownNames t ⊆ t.referencedNames ++ lang.ownNames t :=
      List.subset_append_right _ _
    have hbuiltin := List.Subset.trans (builtinNames_subset_ownNames lang t) hown
    have hreferenced : t.mentions ⊆ t.referencedNames ++ lang.ownNames t :=
      List.subset_append_of_subset_left _ hmentions
    have hwords : lang = .typescript → t.propertyWords ⊆ t.referencedNames ++ lang.ownNames t := by
      rintro rfl
      apply (List.append_subset.mp hown).2
    constructor
    · apply identifiers_typeText_subset hbuiltin t h hreferenced hwords
    · -- The names are told apart for `t`, but what is spelled is `u`.
      obtain ⟨u, htext, hdeclared, hmentions, hpropertyWords⟩ := returnTypeText_eq_typeText lang t
      rw [htext]
      apply identifiers_typeText_subset hbuiltin u
      · rwa [hdeclared]
      · rwa [hmentions]
      · rwa [hpropertyWords]
  · intro name hname
    apply TypeNode.mentions_subset_typescript t h (List.mem_eraseDups.mp hname)

end Language

namespace Example

/-- For each group a profile, a page of users or nothing. -/
def groupEntries : TypeNode :=
  .map (.declared (.enumeration "Group" [] none)) (.union [
    .object [⟨"user-name", true, .primitive .string⟩], .custom "Page<User>", .primitive .null])

end Example

theorem Language.identifiers_typeText_groupEntries :
  (∀ name ∈ Example.groupEntries.declaredNames, Text.isIdentifier name.toList)
    ∧ Text.identifiers (Language.python.returnTypeText Example.groupEntries)
      ⊆ ["Group", "Page", "User"] ++ Language.python.builtinNames
    ∧ Text.identifiers (Language.typescript.typeText Example.groupEntries)
      ⊆ ["Group", "Page", "User"] ++ (Language.typescript.builtinNames ++ ["user", "name"])
    ∧ ["Group", "Page", "User"]
      ⊆ Text.identifiers (Language.typescript.typeText Example.groupEntries)
  := by
  have hdeclared : ∀ name ∈ Example.groupEntries.declaredNames,
      Text.isIdentifier name.toList := by decide
  have hnames : Example.groupEntries.referencedNames = ["Group", "Page", "User"] := by decide
  have hwords : Example.groupEntries.propertyWords = ["user", "name"] := by decide
  obtain ⟨hspelled, hreferenced⟩ := identifiers_typeText hdeclared
  rw [hnames] at hreferenced
  rw [hnames] at hspelled
  use hdeclared, (hspelled .python).2
  constructor
  · rw [← hwords]
    apply (hspelled .typescript).1
  · apply hreferenced

end ClientGen
