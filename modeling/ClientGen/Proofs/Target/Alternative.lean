import ClientGen.Program.References
import ClientGen.Target.TypeText

/-!
# What TypeScript tells apart

In TypeScript there is one type of numbers and one permissive type, a declaration is known
by its name, and the parts of a union may themselves be unions. So a type amounts to the
list of its alternatives: those of a union are the alternatives of its variants, and any
other type is its only alternative. The text of a type is made of those of its
alternatives.
-/

namespace ClientGen

/-- The types that have names of their own in TypeScript. -/
inductive Builtin where
  | string
  | number
  | boolean
  | bigInt
  | null
  | void
  | any
  | date
deriving DecidableEq

namespace Builtin

/-- All types that have names of their own. -/
def all : List Builtin :=
  [.string, .number, .boolean, .bigInt, .null, .void, .any, .date]

/-- The name of a type that has one. -/
def text : Builtin → String
  | .string => "string"
  | .number => "number"
  | .boolean => "boolean"
  | .bigInt => "bigint"
  | .null => "null"
  | .void => "void"
  | .any => "any"
  | .date => "Date"

end Builtin

/-- A primitive type in TypeScript. -/
def Primitive.builtin : Primitive → Builtin
  | .string => .string
  | .integer | .float | .double => .number
  | .boolean => .boolean
  | .bigInt => .bigInt
  | .null => .null
  | .void => .void
  | .any => .any
  | .date => .date

theorem Primitive.text_builtin (p : Primitive) :
  p.builtin.text = p.typescript
  := by cases p <;> rfl

/-- A type that is not a union, where each type within it is the list of its alternatives. -/
inductive Alternative where
  | builtin (b : Builtin)
  | named (name : String)
  | array (element : List Alternative)
  | map (key value : List Alternative)
  | promise (result : List Alternative)
  | object (properties : List (Property (List Alternative)))

namespace Alternative

mutual

/-- The text of an alternative. -/
def text : Alternative → String
  | .builtin b => b.text
  | .named name => name
  | .array element => "Array<" ++ " | ".intercalate (texts element) ++ ">"
  | .map key value =>
    "\x7b[key: " ++ " | ".intercalate (texts key) ++ "]: "
      ++ " | ".intercalate (texts value) ++ "\x7d"
  | .promise result => "Promise<" ++ " | ".intercalate (texts result) ++ ">"
  | .object properties => "\x7b" ++ ", ".intercalate (propertyTexts properties) ++ "\x7d"

/-- The texts of alternatives. -/
def texts : List Alternative → List String
  | [] => []
  | a :: as => text a :: texts as

/-- The texts of properties. -/
def propertyTexts : List (Property (List Alternative)) → List String
  | [] => []
  | ⟨name, isOptional, as⟩ :: properties =>
    (Language.quoteIfNeeded name ++ (if isOptional then "?" else "") ++ ": "
      ++ " | ".intercalate (texts as)) :: propertyTexts properties

end

mutual

/-- The names of declarations in an alternative, in their order. -/
def names : Alternative → List String
  | .builtin _ => []
  | .named name => [name]
  | .array element => unionNames element
  | .map key value => unionNames key ++ unionNames value
  | .promise result => unionNames result
  | .object properties => propertyNames properties

/-- The names of declarations in alternatives. -/
def unionNames : List Alternative → List String
  | [] => []
  | a :: as => names a ++ unionNames as

/-- The names of declarations in the types of properties. -/
def propertyNames : List (Property (List Alternative)) → List String
  | [] => []
  | ⟨_, _, as⟩ :: properties => unionNames as ++ propertyNames properties

end

/-- The text of a union of alternatives. -/
def unionText (as : List Alternative) : String :=
  " | ".intercalate (texts as)

theorem texts_eq_map (as : List Alternative) :
  texts as = as.map text
  := by
  induction as with
  | nil => rfl
  | cons a as ih => rw [texts, ih, List.map_cons]

theorem unionText_singleton (a : Alternative) :
  unionText [a] = a.text
  := String.intercalate_singleton

theorem unionNames_append (as bs : List Alternative) :
  unionNames (as ++ bs) = unionNames as ++ unionNames bs
  := by
  induction as with
  | nil => rfl
  | cons a as ih => rw [List.cons_append, unionNames, unionNames, ih, List.append_assoc]

theorem mem_unionNames (name : String) (as : List Alternative) :
  name ∈ unionNames as ↔ ∃ a ∈ as, name ∈ a.names
  := by
  induction as with
  | nil => simp [unionNames]
  | cons a as ih => simp [unionNames, ih]

theorem mem_propertyNames (name : String) (properties : List (Property (List Alternative))) :
  name ∈ propertyNames properties ↔ ∃ p ∈ properties, name ∈ unionNames p.type
  := by
  induction properties with
  | nil => simp [propertyNames]
  | cons p properties ih =>
    obtain ⟨_, _, as⟩ := p
    simp [propertyNames, ih]

/-- The text of a property. -/
def propertyText (p : Property (List Alternative)) : String :=
  Language.quoteIfNeeded p.name ++ (if p.isOptional then "?" else "") ++ ": "
    ++ unionText p.type

theorem propertyTexts_eq_map (properties : List (Property (List Alternative))) :
  propertyTexts properties = properties.map propertyText
  := by
  induction properties with
  | nil => rfl
  | cons p properties ih =>
    obtain ⟨_, _, as⟩ := p
    rw [propertyTexts, ih]
    rfl

/-- The text of a union of unions is that of their alternatives. -/
theorem unionText_append {as bs : List Alternative} (has : as ≠ []) (hbs : bs ≠ []) :
  unionText (as ++ bs) = unionText as ++ " | " ++ unionText bs
  := by
  simp only [unionText, texts_eq_map, List.map_append]
  apply String.intercalate_append_of_ne_nil
  · simpa using has
  · simpa using hbs

end Alternative

namespace TypeNode

mutual

/-- The alternatives of a type. -/
def alternatives : TypeNode → List Alternative
  | .primitive p => [.builtin p.builtin]
  | .array element => [.array (alternatives element)]
  | .map key value => [.map (alternatives key) (alternatives value)]
  | .promise result => [.promise (alternatives result)]
  | .union [] => [.builtin .any]
  | .union variants => variantAlternatives variants
  | .object properties => [.object (propertyAlternatives properties)]
  | .declared d => [.named d.name]
  | .custom text => [.named text]
  | .unknown => [.builtin .any]

/-- The alternatives of variants. -/
def variantAlternatives : List TypeNode → List Alternative
  | [] => []
  | variant :: variants => alternatives variant ++ variantAlternatives variants

/-- Properties with the alternatives of their types. -/
def propertyAlternatives : List (Property TypeNode) → List (Property (List Alternative))
  | [] => []
  | ⟨name, isOptional, type⟩ :: properties =>
    ⟨name, isOptional, alternatives type⟩ :: propertyAlternatives properties

end

mutual

/-- A type has an alternative. -/
theorem alternatives_ne_nil :
  ∀ t : TypeNode, t.alternatives ≠ []
  | .primitive _ | .array _ | .map _ _ | .promise _ | .object _ | .declared _ | .custom _
  | .unknown | .union [] => List.cons_ne_nil _ _
  | .union (variant :: variants) =>
      variantAlternatives_ne_nil (variant :: variants) (List.cons_ne_nil _ _)

theorem variantAlternatives_ne_nil :
  ∀ variants : List TypeNode, variants ≠ [] → variantAlternatives variants ≠ []
  | [], h => absurd rfl h
  | variant :: _, _ => List.append_ne_nil_of_left_ne_nil (alternatives_ne_nil variant) _

end

mutual

/-- The text of a type is that of its alternatives. -/
theorem typescript_eq :
  ∀ t : TypeNode, t.typescript = Alternative.unionText t.alternatives
  | .primitive p => by
      rw [alternatives, Alternative.unionText_singleton]
      apply p.text_builtin.symm
  | .array element => by
      rw [alternatives, Alternative.unionText_singleton, typescript, typescript_eq element]
      rfl
  | .map key value => by
      rw [alternatives, Alternative.unionText_singleton, typescript, typescript_eq key,
        typescript_eq value]
      rfl
  | .promise result => by
      rw [alternatives, Alternative.unionText_singleton, typescript, typescript_eq result]
      rfl
  | .union [] => rfl
  | .union (variant :: variants) =>
      typescriptVariants_eq (variant :: variants) (List.cons_ne_nil _ _)
  | .object properties => by
      rw [alternatives, Alternative.unionText_singleton, typescript,
        typescriptProperties_eq properties]
      rfl
  | .declared _ => rfl
  | .custom _ => rfl
  | .unknown => rfl

theorem typescriptVariants_eq :
  ∀ variants : List TypeNode, variants ≠ [] →
    " | ".intercalate (typescriptVariants variants)
      = Alternative.unionText (variantAlternatives variants)
  | [], h => absurd rfl h
  | [variant], _ => by
      rw [variantAlternatives, variantAlternatives, List.append_nil, ← typescript_eq variant]
      apply String.intercalate_singleton
  | variant :: next :: variants, _ => by
      rw [variantAlternatives, Alternative.unionText_append (alternatives_ne_nil variant)
        (variantAlternatives_ne_nil _ (List.cons_ne_nil next variants)),
        ← typescript_eq variant,
        ← typescriptVariants_eq (next :: variants) (List.cons_ne_nil _ _)]
      apply String.intercalate_cons_cons

theorem typescriptProperties_eq :
  ∀ properties : List (Property TypeNode),
    typescriptProperties properties
      = Alternative.propertyTexts (propertyAlternatives properties)
  | [] => rfl
  | ⟨name, isOptional, type⟩ :: properties => by
      rw [propertyAlternatives, typescriptProperties, Alternative.propertyTexts,
        typescript_eq type, typescriptProperties_eq properties]
      rfl

end

mutual

/-- Whether a raw type occurs in a type. -/
def containsCustom : TypeNode → Bool
  | .custom _ => true
  | .array element => containsCustom element
  | .map key value => containsCustom key || containsCustom value
  | .promise result => containsCustom result
  | .union variants => anyCustom variants
  | .object properties => anyPropertyCustom properties
  | .primitive _ | .declared _ | .unknown => false

/-- Whether a raw type occurs in one of the variants. -/
def anyCustom : List TypeNode → Bool
  | [] => false
  | variant :: variants => containsCustom variant || anyCustom variants

/-- Whether a raw type occurs in the type of one of the properties. -/
def anyPropertyCustom : List (Property TypeNode) → Bool
  | [] => false
  | ⟨_, _, type⟩ :: properties => containsCustom type || anyPropertyCustom properties

end

mutual

/-- Without raw types, the names in the alternatives of a type are those that it refers
to. -/
theorem unionNames_alternatives :
  ∀ t : TypeNode, t.containsCustom = false →
    Alternative.unionNames t.alternatives = t.mentions
  | .primitive _, _ => rfl
  | .array element, h => by
      rw [alternatives, mentions, ← unionNames_alternatives element h]
      apply List.append_nil
  | .map key value, h => by
      obtain ⟨hkey, hvalue⟩ := Bool.or_eq_false_iff.mp h
      rw [alternatives, mentions, ← unionNames_alternatives key hkey,
        ← unionNames_alternatives value hvalue]
      apply List.append_nil
  | .promise result, h => by
      rw [alternatives, mentions, ← unionNames_alternatives result h]
      apply List.append_nil
  | .union [], _ => rfl
  | .union (variant :: variants), h => unionNames_variantAlternatives (variant :: variants) h
  | .object properties, h => by
      rw [alternatives, mentions, ← propertyNames_propertyAlternatives properties h]
      apply List.append_nil
  | .declared _, _ => rfl
  | .custom _, h => nomatch h
  | .unknown, _ => rfl

theorem unionNames_variantAlternatives :
  ∀ variants : List TypeNode, anyCustom variants = false →
    Alternative.unionNames (variantAlternatives variants) = variantMentions variants
  | [], _ => rfl
  | variant :: variants, h => by
      obtain ⟨hvariant, hvariants⟩ := Bool.or_eq_false_iff.mp h
      rw [variantAlternatives, variantMentions, ← unionNames_alternatives variant hvariant,
        ← unionNames_variantAlternatives variants hvariants]
      apply Alternative.unionNames_append

theorem propertyNames_propertyAlternatives :
  ∀ properties : List (Property TypeNode), anyPropertyCustom properties = false →
    Alternative.propertyNames (propertyAlternatives properties) = propertyMentions properties
  | [], _ => rfl
  | ⟨_, _, type⟩ :: properties, h => by
      obtain ⟨htype, hproperties⟩ := Bool.or_eq_false_iff.mp h
      rw [propertyAlternatives, Alternative.propertyNames, propertyMentions,
        unionNames_alternatives type htype,
        propertyNames_propertyAlternatives properties hproperties]

end

end TypeNode

end ClientGen
