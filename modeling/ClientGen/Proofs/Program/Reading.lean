import ClientGen.Program.Reader
import ClientGen.Proofs.Program.RoundTrip
import ClientGen.Proofs.Program.Slots

/-!
# How programs and their parts are read

A part of a program is read exactly when its value has room for its fields alone and the
slot of each field is read; the result is made of the results of the fields. There is one
such law for each kind of part, and for types and items one for each tag.
-/

namespace ClientGen

open Record

/-! ### Literals -/

section

variable {reading : Reading} {v : Value}

/-- The fields of a literal, in their order. -/
abbrev Literal.layout : List String := ["value", "valueKind"]

theorem Literal.ofValue_eq_ok_iff {l : Literal} :
  Literal.ofValue reading v = .ok l
    ↔ v.Fits Literal.layout
      ∧ v.Gives Literal.layout "value" (fun w => .ok w.literalText) l.text
      ∧ v.GivesOr Literal.layout "valueKind" (LiteralKind.ofValue reading) .string l.kind
  := by
  rw [Literal.ofValue]
  apply Value.toRecord_bind_eq_ok_iff And.left
  intro r hreading hkeys h
  dsimp only
  rw [h.field_eq (by simp [hkeys]), h.field_eq (by simp [hkeys])]
  rw [settle_bind_eq_ok_iff, h.fits]
  simp only [bind_eq_ok_iff, Field.value_eq_ok_iff]
  constructor
  · rintro ⟨-, fits, text, htext, kind, hkind, hl⟩
    obtain rfl := Except.ok.inj hl
    exact ⟨fits, htext, hkind⟩
  · rintro ⟨fits, htext, hkind⟩
    refine ⟨?_, fits, _, htext, _, hkind, rfl⟩
    simp [htext.fine, hkind.fine]

/-- The fields of a case of an enumeration, in their order. -/
abbrev EnumCase.layout : List String := ["name", "value", "valueKind"]

theorem EnumCase.ofValue_eq_ok_iff {c : EnumCase} :
  EnumCase.ofValue reading v = .ok c
    ↔ v.Fits EnumCase.layout
      ∧ v.Gives EnumCase.layout "name" Value.toStr c.name
      ∧ v.Gives EnumCase.layout "value" (fun w => .ok w.literalText) c.value.text
      ∧ v.GivesOr EnumCase.layout "valueKind" (LiteralKind.ofValue reading) .string c.value.kind
  := by
  rw [EnumCase.ofValue]
  apply Value.toRecord_bind_eq_ok_iff And.left
  intro r hreading hkeys h
  dsimp only
  rw [h.field_eq (by simp [hkeys]), h.field_eq (by simp [hkeys]), h.field_eq (by simp [hkeys])]
  rw [settle_bind_eq_ok_iff, h.fits]
  simp only [bind_eq_ok_iff, Field.value_eq_ok_iff]
  constructor
  · rintro ⟨-, fits, name, hname, text, htext, kind, hkind, hc⟩
    obtain rfl := Except.ok.inj hc
    exact ⟨fits, hname, htext, hkind⟩
  · rintro ⟨fits, hname, htext, hkind⟩
    refine ⟨?_, fits, _, hname, _, htext, _, hkind, rfl⟩
    simp [hname.fine, htext.fine, hkind.fine]

end

/-! ### Contents -/

/-- What is made of the only field of a record. -/
theorem Record.Mirrors.single_eq_ok_iff {n : Nat} {r : Record n} {layout : List String}
    {v : Value} (h : r.Mirrors layout v) {key : String} (hkey : key ∈ r.keys) {α β : Type}
    {readBelow : Value.Below n → Decoded α} {read : Value → Decoded α}
    (hread : ∀ v, readBelow v = read v.1) {make : α → β} {b : β} :
  (r.settle [Field.required key ((r.get? key).map readBelow)] >>= fun _ =>
      Field.value key ((r.get? key).map readBelow) >>= fun a => pure (make a)) = .ok b
    ↔ v.Fits layout ∧ ∃ a, v.Gives layout key read a ∧ b = make a
  := by
  rw [h.map_get? hkey read hread, settle_bind_eq_ok_iff, h.fits]
  simp only [bind_eq_ok_iff, Field.value_eq_ok_iff]
  constructor
  · rintro ⟨-, fits, a, ha, hb⟩
    exact ⟨fits, a, ha, (Except.ok.inj hb).symm⟩
  · rintro ⟨fits, a, ha, rfl⟩
    refine ⟨?_, fits, a, ha, rfl⟩
    simp [Value.Gives.fine ha]

section

variable {n : Nat} {content : Content n} {layout : List String} {v : Value}

theorem bareOf_eq_ok_iff {α : Type} {node result : α}
    (h : (content.toRecord "unit" []).Mirrors layout v) :
  bareOf content node = .ok result ↔ v.Fits layout ∧ node = result
  := by
  rw [bareOf, settle_bind_eq_ok_iff, h.fits]
  simp [pure, Except.pure]

theorem customOf_eq_ok_iff {t : TypeNode}
    (h : (content.toRecord "struct variant Node::CustomNodeLiteral" ["rawValue"]).Mirrors
      layout v) :
  customOf content = .ok t
    ↔ v.Fits layout ∧ ∃ text, v.Gives layout "rawValue" Value.toStr text ∧ t = .custom text
  := by
  rw [customOf]
  apply h.single_eq_ok_iff (List.mem_singleton_self _) fun _ => rfl

/-- The tags of declarations. -/
def declarationTags : List String := ["StructLiteral", "TypeAlias", "Enum"]

/-- The fields of an enumeration, in their order. -/
abbrev enumerationFields : List String := ["name", "cases", "homePath"]

theorem enumerationOf_eq_ok_iff {d : Declaration}
    (h : (content.toRecord "struct EnumDeclaration" enumerationFields).Mirrors layout v) :
  enumerationOf content = .ok d
    ↔ v.Fits layout ∧ ∃ name cases home,
      v.Gives layout "name" Value.toStr name
        ∧ v.GivesOr layout "cases" (Value.toList (EnumCase.ofValue .setAside)) [] cases
        ∧ v.GivesOr layout "homePath" (Value.toOption Value.toStr) none home
        ∧ d = .enumeration name cases home
  := by
  rw [enumerationOf]
  rw [h.field_eq (by simp [Content.toRecord]), h.field_eq (by simp [Content.toRecord]),
    h.field_eq (by simp [Content.toRecord])]
  rw [settle_bind_eq_ok_iff, h.fits]
  simp only [bind_eq_ok_iff, Field.value_eq_ok_iff]
  constructor
  · rintro ⟨-, fits, name, hname, cases, hcases, home, hhome, hd⟩
    exact ⟨fits, name, cases, home, hname, hcases, hhome, (Except.ok.inj hd).symm⟩
  · rintro ⟨fits, name, cases, home, hname, hcases, hhome, rfl⟩
    refine ⟨?_, fits, name, hname, cases, hcases, home, hhome, rfl⟩
    simp [hname.fine, hcases.fine, hhome.fine]

theorem objectOf_eq_ok_iff {properties : List (Property TypeNode)}
    (h : (content.toRecord "struct TypeLiteral" ["properties"]).Mirrors layout v) :
  objectOf content = .ok properties
    ↔ v.Fits layout ∧ v.GivesOr layout "properties" propertiesOf [] properties
  := by
  rw [objectOf]
  rw [h.map_get? (List.mem_singleton_self _) propertiesOf fun _ => rfl]
  rw [settle_bind_eq_ok_iff, h.fits]
  constructor
  · rintro ⟨-, fits, hproperties⟩
    exact ⟨fits, hproperties⟩
  · rintro ⟨fits, hproperties⟩
    refine ⟨?_, fits, hproperties⟩
    simp [hproperties.fine]

/-- The fields of a structure, in their order. -/
abbrev structFields : List String := ["name", "typeLiteral", "homePath"]

theorem declarationOf_struct_eq_ok_iff {d : Declaration}
    (h : (content.toRecord "struct StructLiteral" structFields).Mirrors layout v) :
  declarationOf "StructLiteral" content = .ok d
    ↔ v.Fits layout ∧ ∃ name properties home,
      v.Gives layout "name" Value.toStr name
        ∧ v.GivesOr layout "typeLiteral" plainObjectOf [] properties
        ∧ v.GivesOr layout "homePath" (Value.toOption Value.toStr) none home
        ∧ d = .struct name properties home
  := by
  rw [declarationOf, if_pos rfl]
  dsimp only
  rw [h.field_eq (by simp [Content.toRecord]), h.field_eq (by simp [Content.toRecord]),
    h.map_get? (by simp [Content.toRecord]) plainObjectOf fun _ => rfl]
  rw [settle_bind_eq_ok_iff, h.fits]
  simp only [bind_eq_ok_iff, Field.value_eq_ok_iff]
  constructor
  · rintro ⟨-, fits, name, hname, properties, hproperties, home, hhome, hd⟩
    exact ⟨fits, name, properties, home, hname, hproperties, hhome, (Except.ok.inj hd).symm⟩
  · rintro ⟨fits, name, properties, home, hname, hproperties, hhome, rfl⟩
    refine ⟨?_, fits, name, hname, properties, hproperties, home, hhome, rfl⟩
    simp [hname.fine, hproperties.fine, hhome.fine]

/-- The fields of an alias, in their order. -/
abbrev aliasFields : List String := ["name", "aliasType", "homePath"]

theorem declarationOf_alias_eq_ok_iff {d : Declaration}
    (h : (content.toRecord "struct TypeAlias" aliasFields).Mirrors layout v) :
  declarationOf "TypeAlias" content = .ok d
    ↔ v.Fits layout ∧ ∃ name target home,
      v.Gives layout "name" Value.toStr name
        ∧ v.Gives layout "aliasType" (TypeNode.ofValue .setAside) target
        ∧ v.GivesOr layout "homePath" (Value.toOption Value.toStr) none home
        ∧ d = .typeAlias name target home
  := by
  rw [declarationOf, if_neg (by decide), if_pos rfl]
  dsimp only
  rw [h.field_eq (by simp [Content.toRecord]), h.field_eq (by simp [Content.toRecord]),
    h.map_get? (by simp [Content.toRecord]) (TypeNode.ofValue .setAside) fun _ => rfl]
  rw [settle_bind_eq_ok_iff, h.fits]
  simp only [bind_eq_ok_iff, Field.value_eq_ok_iff]
  constructor
  · rintro ⟨-, fits, name, hname, target, htarget, home, hhome, hd⟩
    exact ⟨fits, name, target, home, hname, htarget, hhome, (Except.ok.inj hd).symm⟩
  · rintro ⟨fits, name, target, home, hname, htarget, hhome, rfl⟩
    refine ⟨?_, fits, name, hname, target, htarget, home, hhome, rfl⟩
    simp [hname.fine, htarget.fine, hhome.fine]

theorem declarationOf_enum_eq {n : Nat} (content : Content n) :
  declarationOf "Enum" content = enumerationOf content
  := by rw [declarationOf, if_neg (by decide), if_neg (by decide)]

end

/-! ### Object types -/

section

variable {v : Value}

theorem variantItems_eq_mapM (items : List Value) :
  variantItems items = items.mapM (TypeNode.ofValue .setAside)
  := by
  induction items with
  | nil =>
    rw [variantItems, List.mapM_nil]
    rfl
  | cons v items ih => rw [variantItems, List.mapM_cons, ih]

/-- The variants of a union are the items of an array. -/
theorem variantsOf_eq_toList :
  variantsOf v = v.toList (TypeNode.ofValue .setAside)
  := by
  rw [variantsOf.eq_def]
  cases v with
  | array items => apply variantItems_eq_mapM
  | _ => rfl

theorem propertyItems_eq_mapM (items : List Value) :
  propertyItems items = items.mapM propertyOf
  := by
  induction items with
  | nil =>
    rw [propertyItems, List.mapM_nil]
    rfl
  | cons v items ih => rw [propertyItems, List.mapM_cons, ih]

/-- The properties of an object type are the items of an array. -/
theorem propertiesOf_eq_toList :
  propertiesOf v = v.toList propertyOf
  := by
  rw [propertiesOf.eq_def]
  cases v with
  | array items => apply propertyItems_eq_mapM
  | _ => rfl

theorem plainObjectOf_eq_ok_iff {properties : List (Property TypeNode)} :
  plainObjectOf v = .ok properties
    ↔ v.Fits ["properties"] ∧ v.GivesOr ["properties"] "properties" propertiesOf [] properties
  := by
  rw [plainObjectOf]
  apply Value.toRecord_bind_eq_ok_iff And.left
  intro r hreading hkeys h
  apply objectOf_eq_ok_iff
  obtain ⟨reading, shape, keys, content⟩ := r
  obtain rfl : keys = ["properties"] := hkeys
  exact ⟨h.get, h.fits⟩

/-- The fields of a property, in their order. -/
abbrev propertyLayout : List String := ["name", "optional", "type"]

theorem propertyOf_eq_ok_iff {p : Property TypeNode} :
  propertyOf v = .ok p
    ↔ v.Fits propertyLayout
      ∧ v.Gives propertyLayout "name" Value.toStr p.name
      ∧ v.GivesOr propertyLayout "optional" Value.toBool false p.isOptional
      ∧ v.Gives propertyLayout "type" (TypeNode.ofValue .setAside) p.type
  := by
  rw [propertyOf]
  apply Value.toRecord_bind_eq_ok_iff And.left
  intro r hreading hkeys h
  dsimp only
  rw [h.field_eq (by simp [hkeys]), h.field_eq (by simp [hkeys]),
    h.map_get? (by simp [hkeys]) (TypeNode.ofValue .setAside) fun _ => rfl]
  rw [settle_bind_eq_ok_iff, h.fits]
  simp only [bind_eq_ok_iff, Field.value_eq_ok_iff]
  constructor
  · rintro ⟨-, fits, name, hname, isOptional, hoptional, type, htype, hp⟩
    obtain rfl := Except.ok.inj hp
    exact ⟨fits, hname, hoptional, htype⟩
  · rintro ⟨fits, hname, hoptional, htype⟩
    refine ⟨?_, fits, _, hname, _, hoptional, _, htype, rfl⟩
    simp [hname.fine, hoptional.fine, htype.fine]

end

/-! ### Types -/

namespace TypeNode

section

variable {reading : Reading} {v : Value} {t : TypeNode} {tag : String}

/-- A type is read only if it has a tag. -/
theorem exists_tag_of_ofValue (h : TypeNode.ofValue reading v = .ok t) :
  ∃ tag, v.tagOf? reading TypeNode.tags = some tag
  := by
  rw [TypeNode.ofValue] at h
  apply Value.exists_tag_of_toTagged_bind h

theorem ofValue_primitive_eq_ok_iff {p : Primitive}
    (htag : v.tagOf? reading TypeNode.tags = some p.tag) :
  TypeNode.ofValue reading v = .ok t ↔ v.Fits [tagKey] ∧ t = .primitive p
  := by
  rw [TypeNode.ofValue, Value.toTagged_bind_eq htag]
  dsimp only
  rw [Primitive.ofTag?_tag]
  dsimp only
  rw [bareOf_eq_ok_iff (Value.mirrors_content htag (by simp))]
  simp only [eq_comm]

theorem ofValue_array_eq_ok_iff (htag : v.tagOf? reading TypeNode.tags = some "ArrayType") :
  TypeNode.ofValue reading v = .ok t
    ↔ v.Fits [tagKey, "element"] ∧ ∃ element,
      v.Gives [tagKey, "element"] "element" (TypeNode.ofValue .setAside) element
        ∧ t = .array element
  := by
  have h : (v.content.toRecord "struct variant Node::ArrayType" ["element"]).Mirrors
      [tagKey, "element"] v := Value.mirrors_content htag (by simp [tagKey])
  rw [TypeNode.ofValue, Value.toTagged_bind_eq htag]
  dsimp only
  rw [ofTag?_eq_none _ (by decide)]
  simp only [reduceIte, String.reduceEq]
  apply h.single_eq_ok_iff (List.mem_singleton_self _) fun _ => rfl

theorem ofValue_promise_eq_ok_iff (htag : v.tagOf? reading TypeNode.tags = some "PromiseType") :
  TypeNode.ofValue reading v = .ok t
    ↔ v.Fits [tagKey, "element"] ∧ ∃ result,
      v.Gives [tagKey, "element"] "element" (TypeNode.ofValue .setAside) result
        ∧ t = .promise result
  := by
  have h : (v.content.toRecord "struct variant Node::PromiseType" ["element"]).Mirrors
      [tagKey, "element"] v := Value.mirrors_content htag (by simp [tagKey])
  rw [TypeNode.ofValue, Value.toTagged_bind_eq htag]
  dsimp only
  rw [ofTag?_eq_none _ (by decide)]
  simp only [reduceIte, String.reduceEq]
  apply h.single_eq_ok_iff (List.mem_singleton_self _) fun _ => rfl

theorem ofValue_union_eq_ok_iff (htag : v.tagOf? reading TypeNode.tags = some "UnionType") :
  TypeNode.ofValue reading v = .ok t
    ↔ v.Fits [tagKey, "variants"] ∧ ∃ variants,
      v.Gives [tagKey, "variants"] "variants" variantsOf variants
        ∧ t = .union variants
  := by
  have h : (v.content.toRecord "struct variant Node::UnionType" ["variants"]).Mirrors
      [tagKey, "variants"] v := Value.mirrors_content htag (by simp [tagKey])
  rw [TypeNode.ofValue, Value.toTagged_bind_eq htag]
  dsimp only
  rw [ofTag?_eq_none _ (by decide)]
  simp only [reduceIte, String.reduceEq]
  apply h.single_eq_ok_iff (List.mem_singleton_self _) fun _ => rfl

theorem ofValue_map_eq_ok_iff (htag : v.tagOf? reading TypeNode.tags = some "MapType") :
  TypeNode.ofValue reading v = .ok t
    ↔ v.Fits [tagKey, "key", "value"] ∧ ∃ key value,
      v.Gives [tagKey, "key", "value"] "key" (TypeNode.ofValue .setAside) key
        ∧ v.Gives [tagKey, "key", "value"] "value" (TypeNode.ofValue .setAside) value
        ∧ t = .map key value
  := by
  have h : (v.content.toRecord "struct variant Node::MapType" ["key", "value"]).Mirrors
      [tagKey, "key", "value"] v := Value.mirrors_content htag (by simp [tagKey])
  rw [TypeNode.ofValue, Value.toTagged_bind_eq htag]
  dsimp only
  rw [ofTag?_eq_none _ (by decide)]
  simp only [reduceIte, String.reduceEq]
  rw [h.map_get? (by simp [Content.toRecord]) (TypeNode.ofValue .setAside) fun _ => rfl,
    h.map_get? (by simp [Content.toRecord]) (TypeNode.ofValue .setAside) fun _ => rfl]
  rw [settle_bind_eq_ok_iff, h.fits]
  simp only [bind_eq_ok_iff, Field.value_eq_ok_iff]
  constructor
  · rintro ⟨-, fits, key, hkey, value, hvalue, ht⟩
    exact ⟨fits, key, value, hkey, hvalue, (Except.ok.inj ht).symm⟩
  · rintro ⟨fits, key, value, hkey, hvalue, rfl⟩
    refine ⟨?_, fits, key, hkey, value, hvalue, rfl⟩
    simp [hkey.fine, hvalue.fine]

theorem ofValue_object_eq_ok_iff (htag : v.tagOf? reading TypeNode.tags = some "TypeLiteral") :
  TypeNode.ofValue reading v = .ok t
    ↔ v.Fits [tagKey, "properties"] ∧ ∃ properties,
      v.GivesOr [tagKey, "properties"] "properties" propertiesOf [] properties
        ∧ t = .object properties
  := by
  rw [TypeNode.ofValue, Value.toTagged_bind_eq htag]
  dsimp only
  rw [ofTag?_eq_none _ (by decide)]
  simp only [reduceIte, String.reduceEq]
  simp only [bind_eq_ok_iff,
    objectOf_eq_ok_iff (Value.mirrors_content htag (by simp [tagKey]))]
  constructor
  · rintro ⟨properties, ⟨fits, hproperties⟩, ht⟩
    exact ⟨fits, properties, hproperties, (Except.ok.inj ht).symm⟩
  · rintro ⟨fits, properties, hproperties, rfl⟩
    exact ⟨properties, ⟨fits, hproperties⟩, rfl⟩

theorem ofValue_custom_eq_ok_iff
    (htag : v.tagOf? reading TypeNode.tags = some "CustomNodeLiteral") :
  TypeNode.ofValue reading v = .ok t
    ↔ v.Fits [tagKey, "rawValue"] ∧ ∃ text,
      v.Gives [tagKey, "rawValue"] "rawValue" Value.toStr text ∧ t = .custom text
  := by
  rw [TypeNode.ofValue, Value.toTagged_bind_eq htag]
  dsimp only
  rw [ofTag?_eq_none _ (by decide)]
  apply customOf_eq_ok_iff (Value.mirrors_content htag (by simp [tagKey]))

theorem ofValue_declared_eq_ok_iff (htag : v.tagOf? reading TypeNode.tags = some tag)
    (hdeclaration : tag ∈ declarationTags) :
  TypeNode.ofValue reading v = .ok t
    ↔ ∃ d, declarationOf tag v.content = .ok d ∧ t = .declared d
  := by
  simp only [declarationTags, List.mem_cons, List.not_mem_nil, or_false] at hdeclaration
  rcases hdeclaration with rfl | rfl | rfl
  all_goals
    rw [TypeNode.ofValue, Value.toTagged_bind_eq htag]
    dsimp only
    rw [ofTag?_eq_none _ (by decide)]
    simp only [reduceIte, String.reduceEq, decide_true, Bool.true_or, Bool.or_true,
      bind_eq_ok_iff]
    constructor
    · rintro ⟨d, hd, ht⟩
      exact ⟨d, hd, (Except.ok.inj ht).symm⟩
    · rintro ⟨d, hd, rfl⟩
      exact ⟨d, hd, rfl⟩

/-- A type with a tag that is not known is read as unknown if nothing but an object or the tag
alone is written. -/
theorem ofValue_unknown_eq_ok_iff (htag : v.tagOf? reading TypeNode.tags = some tag)
    (hprimitive : Primitive.ofTag? tag = none) (hcompound : tag ∉ compoundTags) :
  TypeNode.ofValue reading v = .ok t ↔ v.Fits [tagKey] ∧ t = .unknown
  := by
  have h : (v.content.toRecord "unit" []).Mirrors [tagKey] v :=
    Value.mirrors_content htag (by simp)
  simp only [compoundTags, List.mem_cons, List.not_mem_nil, or_false, not_or] at hcompound
  rw [TypeNode.ofValue, Value.toTagged_bind_eq htag]
  dsimp only
  rw [hprimitive]
  simp only [hcompound, decide_false, Bool.or_self, Bool.false_eq_true, if_false]
  rw [bareOf_eq_ok_iff h]
  simp only [eq_comm]

end

end TypeNode

/-! ### Classes -/

section

variable {reading : Reading} {v : Value}

/-- The fields of a parameter, in their order. -/
abbrev Parameter.layout : List String := ["name", "type", "optional", "defaultValue"]

theorem Parameter.ofValue_eq_ok_iff {p : Parameter} :
  Parameter.ofValue reading v = .ok p
    ↔ v.Fits Parameter.layout
      ∧ v.Gives Parameter.layout "name" Value.toStr p.name
      ∧ v.Gives Parameter.layout "type" (TypeNode.ofValue reading) p.type
      ∧ v.GivesOr Parameter.layout "optional" Value.toBool false p.isOptional
      ∧ v.GivesOr Parameter.layout "defaultValue" (Value.toOption (Literal.ofValue reading)) none
        p.fallback
  := by
  rw [Parameter.ofValue]
  apply Value.toRecord_bind_eq_ok_iff And.left
  intro r hreading hkeys h
  dsimp only
  rw [h.field_eq (by simp [hkeys]), h.field_eq (by simp [hkeys]), h.field_eq (by simp [hkeys]),
    h.field_eq (by simp [hkeys])]
  rw [settle_bind_eq_ok_iff, h.fits]
  simp only [bind_eq_ok_iff, Field.value_eq_ok_iff]
  constructor
  · rintro ⟨-, fits, name, hname, type, htype, isOptional, hoptional, fallback, hfallback, hp⟩
    obtain rfl := Except.ok.inj hp
    exact ⟨fits, hname, htype, hoptional, hfallback⟩
  · rintro ⟨fits, hname, htype, hoptional, hfallback⟩
    refine ⟨?_, fits, _, hname, _, htype, _, hoptional, _, hfallback, rfl⟩
    simp [hname.fine, htype.fine, hoptional.fine, hfallback.fine]

/-- The fields of a method, in their order. -/
abbrev Method.layout : List String :=
  ["name", "params", "kind", "isStatic", "docString", "returnType"]

theorem Method.ofValue_eq_ok_iff {m : Method} :
  Method.ofValue reading v = .ok m
    ↔ v.Fits Method.layout
      ∧ v.Gives Method.layout "name" Value.toStr m.name
      ∧ v.GivesOr Method.layout "params" (Value.toList (Parameter.ofValue reading)) []
        m.parameters
      ∧ v.GivesOr Method.layout "kind" (MethodKind.ofValue reading) .method m.kind
      ∧ v.GivesOr Method.layout "isStatic" Value.toBool false m.isStatic
      ∧ v.GivesOr Method.layout "docString" (Value.toOption Value.toStr) none m.doc
      ∧ v.Gives Method.layout "returnType" (TypeNode.ofValue reading) m.returnType
  := by
  rw [Method.ofValue]
  apply Value.toRecord_bind_eq_ok_iff And.left
  intro r hreading hkeys h
  dsimp only
  rw [h.field_eq (by simp [hkeys]), h.field_eq (by simp [hkeys]), h.field_eq (by simp [hkeys]),
    h.field_eq (by simp [hkeys]), h.field_eq (by simp [hkeys]), h.field_eq (by simp [hkeys])]
  rw [settle_bind_eq_ok_iff, h.fits]
  simp only [bind_eq_ok_iff, Field.value_eq_ok_iff]
  constructor
  · rintro ⟨-, fits, name, hname, parameters, hparameters, kind, hkind, isStatic, hstatic, doc,
      hdoc, returnType, hreturn, hm⟩
    obtain rfl := Except.ok.inj hm
    exact ⟨fits, hname, hparameters, hkind, hstatic, hdoc, hreturn⟩
  · rintro ⟨fits, hname, hparameters, hkind, hstatic, hdoc, hreturn⟩
    refine ⟨?_, fits, _, hname, _, hparameters, _, hkind, _, hstatic, _, hdoc, _, hreturn, rfl⟩
    simp [hname.fine, hparameters.fine, hkind.fine, hstatic.fine, hdoc.fine, hreturn.fine]

theorem RemoteClass.ofRecord_eq_ok_iff {n : Nat} {r : Record n} {layout : List String}
    (hkeys : r.keys = RemoteClass.shape.2) (h : r.Mirrors layout v) {c : RemoteClass} :
  RemoteClass.ofRecord r = .ok c
    ↔ v.Fits layout
      ∧ v.Gives layout "name" Value.toStr c.name
      ∧ v.GivesOr layout "methods" (Value.toList (Method.ofValue r.reading)) [] c.methods
      ∧ v.GivesOr layout "docString" (Value.toOption Value.toStr) none c.doc
  := by
  rw [RemoteClass.ofRecord]
  rw [h.field_eq (by simp [hkeys, RemoteClass.shape]),
    h.field_eq (by simp [hkeys, RemoteClass.shape]),
    h.field_eq (by simp [hkeys, RemoteClass.shape])]
  rw [settle_bind_eq_ok_iff, h.fits]
  simp only [bind_eq_ok_iff, Field.value_eq_ok_iff]
  constructor
  · rintro ⟨-, fits, name, hname, methods, hmethods, doc, hdoc, hc⟩
    obtain rfl := Except.ok.inj hc
    exact ⟨fits, hname, hmethods, hdoc⟩
  · rintro ⟨fits, hname, hmethods, hdoc⟩
    refine ⟨?_, fits, _, hname, _, hmethods, _, hdoc, rfl⟩
    simp [hname.fine, hmethods.fine, hdoc.fine]

end

/-! ### Items -/

namespace BodyItem

variable {v : Value} {item : BodyItem} {tag : String}

/-- An item is read only if it has a tag. -/
theorem exists_tag_of_ofValue (h : BodyItem.ofValue v = .ok item) :
  ∃ tag, v.tagOf? .direct BodyItem.tags = some tag
  := by
  rw [BodyItem.ofValue] at h
  apply Value.exists_tag_of_toTagged_bind h

/-- The slots of a class, the first of which holds the tag. -/
abbrev classLayout : List String := tagKey :: RemoteClass.shape.2

theorem ofValue_class_eq_ok_iff
    (htag : v.tagOf? .direct BodyItem.tags = some "ClassDefinition") :
  BodyItem.ofValue v = .ok item
    ↔ v.Fits classLayout ∧ ∃ c : RemoteClass,
      v.Gives classLayout "name" Value.toStr c.name
        ∧ v.GivesOr classLayout "methods" (Value.toList (Method.ofValue .setAside)) [] c.methods
        ∧ v.GivesOr classLayout "docString" (Value.toOption Value.toStr) none c.doc
        ∧ item = .remoteClass c
  := by
  have h : (v.content.toRecord RemoteClass.shape.1 RemoteClass.shape.2).Mirrors classLayout v :=
    Value.mirrors_content htag (by simp [tagKey, RemoteClass.shape])
  rw [BodyItem.ofValue, Value.toTagged_bind_eq htag]
  dsimp only
  rw [if_pos rfl]
  simp only [bind_eq_ok_iff, RemoteClass.ofRecord_eq_ok_iff rfl h]
  constructor
  · rintro ⟨c, ⟨fits, hname, hmethods, hdoc⟩, hitem⟩
    exact ⟨fits, c, hname, hmethods, hdoc, (Except.ok.inj hitem).symm⟩
  · rintro ⟨fits, c, hname, hmethods, hdoc, rfl⟩
    exact ⟨c, ⟨fits, hname, hmethods, hdoc⟩, rfl⟩

theorem ofValue_declaration_eq_ok_iff (htag : v.tagOf? .direct BodyItem.tags = some tag)
    (hdeclaration : tag ∈ declarationTags) :
  BodyItem.ofValue v = .ok item
    ↔ ∃ d, declarationOf tag v.content = .ok d ∧ item = .declaration d
  := by
  simp only [declarationTags, List.mem_cons, List.not_mem_nil, or_false] at hdeclaration
  rcases hdeclaration with rfl | rfl | rfl
  all_goals
    rw [BodyItem.ofValue, Value.toTagged_bind_eq htag]
    dsimp only
    simp only [reduceIte, String.reduceEq, decide_true, Bool.true_or, Bool.or_true,
      bind_eq_ok_iff]
    constructor
    · rintro ⟨d, hd, hitem⟩
      exact ⟨d, hd, (Except.ok.inj hitem).symm⟩
    · rintro ⟨d, hd, rfl⟩
      exact ⟨d, hd, rfl⟩

theorem ofValue_unknown_eq_ok_iff (htag : v.tagOf? .direct BodyItem.tags = some tag)
    (hclass : tag ≠ "ClassDefinition") (hdeclaration : tag ∉ declarationTags) :
  BodyItem.ofValue v = .ok item ↔ v.Fits [tagKey] ∧ item = .unknown
  := by
  have h : (v.content.toRecord "unit" []).Mirrors [tagKey] v :=
    Value.mirrors_content htag (by simp)
  simp only [declarationTags, List.mem_cons, List.not_mem_nil, or_false, not_or] at hdeclaration
  rw [BodyItem.ofValue, Value.toTagged_bind_eq htag]
  dsimp only
  simp only [hclass, hdeclaration, decide_false, Bool.or_self, Bool.false_eq_true, if_false]
  rw [bareOf_eq_ok_iff h]
  simp only [eq_comm]

end BodyItem

/-! ### Programs -/

namespace Program

variable {v : Value} {p : Program}

/-- The fields of a program, in their order. -/
abbrev layout : List String := ["originalLanguage", "sourceType", "body"]

theorem ofRecord_eq_ok_iff :
  (v.toRecord .direct "struct Program" layout >>= ofRecord) = .ok p
    ↔ v.Fits layout
      ∧ v.GivesOr layout "originalLanguage" Value.toStr "" p.originalLanguage
      ∧ v.GivesOr layout "sourceType" Value.toStr "" p.sourceType
      ∧ v.GivesOr layout "body" (Value.toList BodyItem.ofValue) [] p.body
  := by
  apply Value.toRecord_bind_eq_ok_iff And.left
  intro r hreading hkeys h
  rw [ofRecord]
  rw [h.field_eq (by simp [hkeys]), h.field_eq (by simp [hkeys]), h.field_eq (by simp [hkeys])]
  rw [settle_bind_eq_ok_iff, h.fits]
  simp only [bind_eq_ok_iff]
  constructor
  · rintro ⟨-, fits, language, hlanguage, sourceType, hsource, body, hbody, hp⟩
    obtain rfl := Except.ok.inj hp
    exact ⟨fits, hlanguage, hsource, hbody⟩
  · rintro ⟨fits, hlanguage, hsource, hbody⟩
    refine ⟨?_, fits, _, hlanguage, _, hsource, _, hbody, rfl⟩
    simp [hlanguage.fine, hsource.fine, hbody.fine]

/-- A program is read out of an object that has a body. -/
theorem ofValue_eq_ok_iff :
  Program.ofValue v = .ok p
    ↔ (∃ fields, v = .object fields ∧ (fields.lookup "body").isSome)
      ∧ (v.toRecord .direct "struct Program" layout >>= ofRecord) = .ok p
  := by
  cases v with
  | object fields =>
    have hmap (x : Decoded Program) : x.mapError Error.wrongForm = .ok p ↔ x = .ok p := by
      cases x <;> simp [Except.mapError]
    rw [Program.ofValue]
    cases hbody : fields.lookup "body" with
    | none =>
      constructor
      · intro h
        cases h
      · rintro ⟨⟨_, hfields, hsome⟩, -⟩
        obtain rfl := Value.object.inj hfields
        rw [hbody] at hsome
        cases hsome
    | some body =>
      dsimp only
      by_cases harray : body.isArray
      · rw [if_pos harray, hmap]
        constructor
        · intro h
          exact ⟨⟨fields, rfl, Option.isSome_of_eq_some hbody⟩, h⟩
        · apply And.right
      · rw [if_neg harray]
        simp only [reduceCtorEq, false_iff]
        rintro ⟨-, hread⟩
        -- A body that is read is an array.
        obtain ⟨-, -, -, hgives⟩ := ofRecord_eq_ok_iff.mp hread
        rcases Value.givesOr_iff.mp hgives with ⟨hnone, -⟩ | hgives
        · cases hbody.symm.trans hnone
        · obtain ⟨u, hu, hitems⟩ := Value.gives_iff.mp hgives
          obtain rfl := Option.some.inj (hbody.symm.trans hu)
          cases body with
          | array items => exact harray rfl
          | _ => cases hitems
  | _ => simp [Program.ofValue]

end Program

end ClientGen
