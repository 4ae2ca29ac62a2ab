import ClientGen.Program.Reader
import ClientGen.Proofs.Program.Record

/-!
# Written programs are read back

What writes a program as a value and what reads programs out of values are inverse to each
other on every program. The same holds of all its parts: of types of every kind, which may
be nested in any way, of declarations, literals, methods and classes.
-/

namespace ClientGen

open Record

/-! ### Literals -/

theorem LiteralKind.ofValue_name (reading : Reading) (kind : LiteralKind) :
  LiteralKind.ofValue reading (.string kind.name) = .ok kind
  := by cases kind <;> rfl

theorem Literal.ofValue_toValue (reading : Reading) (l : Literal) :
  Literal.ofValue reading l.toValue = .ok l
  := by
  rw [Literal.ofValue, Literal.toValue]
  apply toRecord_ofFields_bind (by simp [Literal.fields])
  intro r h
  have hkind := LiteralKind.ofValue_name reading l.kind
  dsimp only
  rw [h.field_eq "value" (fun v => .ok v.literalText) rfl rfl,
    h.field_eq "valueKind" (LiteralKind.ofValue reading) rfl hkind, h.settle_eq (by simp)]
  rfl

theorem EnumCase.ofValue_toValue (reading : Reading) (c : EnumCase) :
  EnumCase.ofValue reading c.toValue = .ok c
  := by
  rw [EnumCase.ofValue, EnumCase.toValue]
  apply toRecord_ofFields_bind (by simp [Literal.fields])
  intro r h
  have hkind := LiteralKind.ofValue_name reading c.value.kind
  dsimp only
  rw [h.field_eq "name" Value.toStr rfl rfl,
    h.field_eq "value" (fun v => .ok v.literalText) rfl rfl,
    h.field_eq "valueKind" (LiteralKind.ofValue reading) rfl hkind, h.settle_eq (by simp)]
  rfl

/-! ### Contents -/

section

variable {n : Nat} {content : Content n} {fields : List (String × Value)}

theorem bareOf_eq {α : Type} (h : content.Holds fields) (node : α) :
  bareOf content node = .ok node
  := by
  rw [bareOf, (h.toRecord "unit" []).settle_eq (by simp)]
  rfl

theorem customOf_eq {text : String} (h : content.Holds fields)
    (htext : fields.lookup "rawValue" = some (.string text)) :
  customOf content = .ok (.custom text)
  := by
  have h := h.toRecord "struct variant Node::CustomNodeLiteral" ["rawValue"]
  rw [customOf]
  rw [h.field_eq "rawValue" Value.toStr htext rfl, h.settle_eq (by simp)]
  rfl

end

section

variable {n : Nat} {content : Content n} {name : String} {home : Option String}

theorem enumerationOf_eq {cases : List EnumCase}
    (h : content.Holds ((tagKey, .string "Enum") :: ([("name", .string name),
      ("cases", .array (cases.map EnumCase.toValue))] ++ homeField home))) :
  enumerationOf content = .ok (.enumeration name cases home)
  := by
  have h := h.toRecord "struct EnumDeclaration" ["name", "cases", "homePath"]
  have hcases := Value.toList_array (EnumCase.ofValue_toValue .setAside) cases
  rw [enumerationOf]
  rw [h.field_eq "name" Value.toStr rfl rfl, h.field_eq "cases" _ rfl hcases,
    h.field_eq_map "homePath" Value.string (Value.toOption Value.toStr) home
      (by cases home <;> rfl) fun _ => rfl,
    h.settle_eq (by simp), Field.valueD_map]
  rfl

theorem objectOf_eq {fields : List (String × Value)} (h : content.Holds fields)
    {properties : List (Property TypeNode)} {v : Value}
    (hv : fields.lookup "properties" = some v) (hproperties : propertiesOf v = .ok properties) :
  objectOf content = .ok properties
  := by
  have h := h.toRecord "struct TypeLiteral" ["properties"]
  rw [objectOf]
  rw [h.map_get?_eq "properties" propertiesOf hv hproperties fun _ => rfl,
    h.settle_eq (by simp)]
  rfl

end

theorem plainObjectOf_eq {properties : List (Property TypeNode)} {v : Value}
    (hproperties : propertiesOf v = .ok properties) :
  plainObjectOf (Value.ofFields [("properties", v)]) = .ok properties
  := by
  rw [plainObjectOf]
  apply toRecord_ofFields_bind (by simp)
  intro r h
  apply objectOf_eq h rfl hproperties

theorem propertyOf_eq (name : String) (isOptional : Bool) {type : TypeNode} {v : Value}
    (htype : TypeNode.ofValue .setAside v = .ok type) :
  propertyOf (Value.ofFields [("name", .string name), ("optional", .bool isOptional),
      ("type", v)])
    = .ok ⟨name, isOptional, type⟩
  := by
  rw [propertyOf]
  apply toRecord_ofFields_bind (by simp)
  intro r h
  dsimp only
  rw [h.field_eq "name" Value.toStr rfl rfl, h.field_eq "optional" Value.toBool rfl rfl,
    h.map_get?_eq "type" (TypeNode.ofValue .setAside) rfl htype fun _ => rfl,
    h.settle_eq (by simp)]
  rfl

/-! ### Types -/

theorem ofTag?_eq_none : ∀ tag ∈ compoundTags, Primitive.ofTag? tag = none
  := by decide

namespace DeclarationOf

variable {τ : Type} (d : DeclarationOf τ)

theorem tag_mem :
  d.tag ∈ compoundTags
  := by cases d <;> simp [tag, compoundTags]

theorem isDeclarationTag_tag :
  (d.tag = "StructLiteral" || d.tag = "TypeAlias" || d.tag = "Enum") = true
  := by cases d <;> rfl

/-- The tag of a declaration is not the tag of anything else with parts. -/
theorem tag_ne :
  d.tag ≠ "ArrayType" ∧ d.tag ≠ "MapType" ∧ d.tag ≠ "PromiseType" ∧ d.tag ≠ "UnionType"
    ∧ d.tag ≠ "TypeLiteral" ∧ d.tag ≠ "ClassDefinition"
  := by cases d <;> simp [tag]

end DeclarationOf

mutual

/-- A written type is read back. -/
theorem TypeNode.ofValue_toValue (reading : Reading) :
  ∀ t : TypeNode, TypeNode.ofValue reading t.toValue = .ok t
  | .primitive p => by
      rw [TypeNode.ofValue, TypeNode.toValue]
      apply toTagged_tagged_bind (by simp)
      intro content h
      dsimp only
      rw [Primitive.ofTag?_tag]
      apply bareOf_eq h
  | .array element => by
      rw [TypeNode.ofValue, TypeNode.toValue]
      apply toTagged_tagged_bind (by simp [tagKey])
      intro content h
      have h := h.toRecord "struct variant Node::ArrayType" ["element"]
      have ih := TypeNode.ofValue_toValue .setAside element
      dsimp only
      rw [ofTag?_eq_none _ (by decide)]
      simp only [if_true]
      rw [h.map_get?_eq "element" (TypeNode.ofValue .setAside) rfl ih fun _ => rfl,
        h.settle_eq (by simp)]
      rfl
  | .map key value => by
      rw [TypeNode.ofValue, TypeNode.toValue]
      apply toTagged_tagged_bind (by simp [tagKey])
      intro content h
      have h := h.toRecord "struct variant Node::MapType" ["key", "value"]
      have ihKey := TypeNode.ofValue_toValue .setAside key
      have ihValue := TypeNode.ofValue_toValue .setAside value
      dsimp only
      rw [ofTag?_eq_none _ (by decide)]
      simp only [if_true, reduceIte, String.reduceEq]
      rw [h.map_get?_eq "key" (TypeNode.ofValue .setAside) rfl ihKey fun _ => rfl,
        h.map_get?_eq "value" (TypeNode.ofValue .setAside) rfl ihValue fun _ => rfl,
        h.settle_eq (by simp)]
      rfl
  | .promise result => by
      rw [TypeNode.ofValue, TypeNode.toValue]
      apply toTagged_tagged_bind (by simp [tagKey])
      intro content h
      have h := h.toRecord "struct variant Node::PromiseType" ["element"]
      have ih := TypeNode.ofValue_toValue .setAside result
      dsimp only
      rw [ofTag?_eq_none _ (by decide)]
      simp only [if_true, reduceIte, String.reduceEq]
      rw [h.map_get?_eq "element" (TypeNode.ofValue .setAside) rfl ih fun _ => rfl,
        h.settle_eq (by simp)]
      rfl
  | .union variants => by
      rw [TypeNode.ofValue, TypeNode.toValue]
      apply toTagged_tagged_bind (by simp [tagKey])
      intro content h
      have h := h.toRecord "struct variant Node::UnionType" ["variants"]
      have ih := variantsOf_variantValues variants
      dsimp only
      rw [ofTag?_eq_none _ (by decide)]
      simp only [if_true, reduceIte, String.reduceEq]
      rw [h.map_get?_eq "variants" variantsOf rfl ih fun _ => rfl, h.settle_eq (by simp)]
      rfl
  | .object properties => by
      rw [TypeNode.ofValue, TypeNode.toValue]
      apply toTagged_tagged_bind (by simp [tagKey])
      intro content h
      dsimp only
      rw [ofTag?_eq_none _ (by decide)]
      simp only [if_true, reduceIte, String.reduceEq]
      rw [objectOf_eq h rfl (propertiesOf_propertyValues properties)]
      rfl
  | .declared d => by
      obtain ⟨fields, hfields, distinct, hread⟩ := exists_fields_declared d
      rw [TypeNode.ofValue, hfields]
      apply toTagged_tagged_bind distinct
      intro content h
      have ih := hread content h
      dsimp only
      rw [ofTag?_eq_none _ d.tag_mem]
      simp only [d.tag_ne, d.isDeclarationTag_tag, reduceIte]
      rw [ih]
      rfl
  | .custom text => by
      rw [TypeNode.ofValue, TypeNode.toValue]
      apply toTagged_tagged_bind (by simp [tagKey])
      intro content h
      dsimp only
      rw [ofTag?_eq_none _ (by decide)]
      apply customOf_eq h rfl
  | .unknown => by
      rw [TypeNode.ofValue, TypeNode.toValue]
      apply toTagged_tagged_bind (by simp)
      intro content h
      apply bareOf_eq h

/-- A written declaration is tagged, and is read back from its content. -/
theorem exists_fields_declared :
  ∀ d : Declaration, ∃ fields, (TypeNode.declared d).toValue = tagged d.tag fields
    ∧ (tagKey :: fields.map Prod.fst).Nodup
    ∧ ∀ {n : Nat} (content : Content n), content.Holds ((tagKey, .string d.tag) :: fields) →
      declarationOf d.tag content = .ok d
  | .struct name properties home => by
      refine ⟨_, by rw [TypeNode.toValue]; rfl, ?_, ?_⟩
      · cases home <;> simp [tagKey, homeField, optionalField]
      · intro n content h
        have h := h.toRecord "struct StructLiteral" ["name", "typeLiteral", "homePath"]
        have ih := propertiesOf_propertyValues properties
        rw [DeclarationOf.tag, declarationOf, if_pos rfl]
        dsimp only
        rw [h.field_eq "name" Value.toStr rfl rfl,
          h.map_get?_eq "typeLiteral" plainObjectOf rfl (plainObjectOf_eq ih) fun _ => rfl,
          h.field_eq_map "homePath" Value.string (Value.toOption Value.toStr) home
            (by cases home <;> rfl) fun _ => rfl,
          h.settle_eq (by simp), Field.valueD_map]
        rfl
  | .typeAlias name target home => by
      refine ⟨_, by rw [TypeNode.toValue]; rfl, ?_, ?_⟩
      · cases home <;> simp [tagKey, homeField, optionalField]
      · intro n content h
        have h := h.toRecord "struct TypeAlias" ["name", "aliasType", "homePath"]
        have ih := TypeNode.ofValue_toValue .setAside target
        rw [DeclarationOf.tag, declarationOf, if_neg (by decide), if_pos rfl]
        dsimp only
        rw [h.field_eq "name" Value.toStr rfl rfl,
          h.map_get?_eq "aliasType" (TypeNode.ofValue .setAside) rfl ih fun _ => rfl,
          h.field_eq_map "homePath" Value.string (Value.toOption Value.toStr) home
            (by cases home <;> rfl) fun _ => rfl,
          h.settle_eq (by simp), Field.valueD_map]
        rfl
  | .enumeration name cases home => by
      refine ⟨_, by rw [TypeNode.toValue]; rfl, ?_, ?_⟩
      · cases home <;> simp [tagKey, homeField, optionalField]
      · intro n content h
        rw [DeclarationOf.tag, declarationOf, if_neg (by decide), if_neg (by decide)]
        apply enumerationOf_eq h

theorem variantsOf_variantValues :
  ∀ variants : List TypeNode, variantsOf (.array (variantValues variants)) = .ok variants
  | [] => by rw [variantsOf, variantValues, variantItems]
  | variant :: variants => by
      have ih := variantsOf_variantValues variants
      rw [variantsOf] at ih ⊢
      rw [variantValues, variantItems, TypeNode.ofValue_toValue .setAside variant, ih]
      rfl

theorem propertiesOf_propertyValues :
  ∀ properties : List (Property TypeNode),
    propertiesOf (.array (propertyValues properties)) = .ok properties
  | [] => by rw [propertiesOf, propertyValues, propertyItems]
  | ⟨name, isOptional, type⟩ :: properties => by
      have ih := propertiesOf_propertyValues properties
      have htype := TypeNode.ofValue_toValue .setAside type
      rw [propertiesOf] at ih ⊢
      rw [propertyValues, propertyItems, propertyOf_eq name isOptional htype, ih]
      rfl

end

/-! ### Methods and classes -/

theorem MethodKind.ofValue_name (reading : Reading) (kind : MethodKind) :
  MethodKind.ofValue reading (.string kind.name) = .ok kind
  := by cases kind <;> rfl

theorem Parameter.ofValue_toValue (reading : Reading) (p : Parameter) :
  Parameter.ofValue reading p.toValue = .ok p
  := by
  obtain ⟨name, type, isOptional, fallback⟩ := p
  have htype := TypeNode.ofValue_toValue reading type
  have hfallback (l : Literal) :
      Value.toOption (Literal.ofValue reading) l.toValue = .ok (some l) := by
    have hread := Literal.ofValue_toValue reading l
    rw [Literal.toValue, Value.ofFields] at hread ⊢
    rw [Value.toOption, hread]
    · rfl
    · rintro ⟨⟩
  rw [Parameter.ofValue, Parameter.toValue]
  apply toRecord_ofFields_bind (by cases fallback <;> simp [optionalField])
  intro r h
  dsimp only
  rw [h.field_eq "name" Value.toStr rfl rfl,
    h.field_eq "type" (TypeNode.ofValue reading) rfl htype,
    h.field_eq "optional" Value.toBool rfl rfl,
    h.field_eq_map "defaultValue" Literal.toValue _ fallback (by cases fallback <;> rfl)
      hfallback,
    h.settle_eq (by simp), Field.valueD_map]
  rfl

theorem Method.ofValue_toValue (reading : Reading) (m : Method) :
  Method.ofValue reading m.toValue = .ok m
  := by
  obtain ⟨name, parameters, kind, isStatic, doc, returnType⟩ := m
  have hparameters := Value.toList_array (Parameter.ofValue_toValue reading) parameters
  have hkind := MethodKind.ofValue_name reading kind
  have hreturn := TypeNode.ofValue_toValue reading returnType
  rw [Method.ofValue, Method.toValue]
  apply toRecord_ofFields_bind (by cases doc <;> simp [optionalField])
  intro r h
  dsimp only
  rw [h.field_eq "name" Value.toStr rfl rfl, h.field_eq "params" _ rfl hparameters,
    h.field_eq "kind" (MethodKind.ofValue reading) rfl hkind,
    h.field_eq "isStatic" Value.toBool rfl rfl,
    h.field_eq_map "docString" Value.string (Value.toOption Value.toStr) doc
      (by cases doc <;> rfl) fun _ => rfl,
    h.field_eq "returnType" (TypeNode.ofValue reading) (by cases doc <;> rfl) hreturn,
    h.settle_eq (by simp), Field.valueD_map]
  rfl

/-- A class is read back from a record that gives its fields. -/
theorem RemoteClass.ofRecord_eq {n : Nat} {r : Record n} (c : RemoteClass)
    {fields : List (String × Value)} (h : r.content.Holds fields)
    (hname : fields.lookup "name" = some (.string c.name))
    (hmethods : fields.lookup "methods" = some (.array (c.methods.map Method.toValue)))
    (hdoc : fields.lookup "docString" = c.doc.map Value.string) :
  RemoteClass.ofRecord r = .ok c
  := by
  have hread := Value.toList_array (Method.ofValue_toValue r.reading) c.methods
  rw [RemoteClass.ofRecord]
  rw [h.field_eq "name" Value.toStr hname rfl, h.field_eq "methods" _ hmethods hread,
    h.field_eq_map "docString" Value.string (Value.toOption Value.toStr) c.doc hdoc
      fun _ => rfl,
    h.settle_eq (by simp), Field.valueD_map]
  rfl

/-! ### Programs -/

theorem BodyItem.ofValue_toValue (item : BodyItem) :
  BodyItem.ofValue item.toValue = .ok item
  := by
  cases item with
  | remoteClass c =>
    rw [BodyItem.ofValue, BodyItem.toValue]
    apply toTagged_tagged_bind (by cases c.doc <;> simp [tagKey, optionalField])
    intro content h
    have h := h.toRecord RemoteClass.shape.1 RemoteClass.shape.2
    dsimp only
    rw [if_pos rfl, RemoteClass.ofRecord_eq c h rfl rfl (by cases c.doc <;> rfl)]
    rfl
  | declaration d =>
    obtain ⟨fields, hfields, distinct, hread⟩ := exists_fields_declared d
    rw [BodyItem.ofValue, BodyItem.toValue, hfields]
    apply toTagged_tagged_bind distinct
    intro content h
    have hd := hread content h
    dsimp only
    simp only [d.tag_ne, d.isDeclarationTag_tag, reduceIte]
    rw [hd]
    rfl
  | unknown =>
    rw [BodyItem.ofValue, BodyItem.toValue]
    apply toTagged_tagged_bind (by simp)
    intro content h
    apply bareOf_eq h

namespace Program

theorem ofRecord_eq {n : Nat} {r : Record n} (p : Program)
    (h : r.content.Holds [("originalLanguage", .string p.originalLanguage),
      ("sourceType", .string p.sourceType), ("body", .array (p.body.map BodyItem.toValue))]) :
  Program.ofRecord r = .ok p
  := by
  have hbody := Value.toList_array BodyItem.ofValue_toValue p.body
  rw [Program.ofRecord]
  rw [h.field_eq "originalLanguage" Value.toStr rfl rfl,
    h.field_eq "sourceType" Value.toStr rfl rfl, h.field_eq "body" _ rfl hbody,
    h.settle_eq (by simp)]
  rfl

/-- A written program is read back. -/
theorem ofValue_toValue_eq_ok (p : Program) :
  Program.ofValue p.toValue = .ok p
  := by
  have distinct : ([("originalLanguage", Value.string p.originalLanguage),
      ("sourceType", .string p.sourceType),
      ("body", .array (p.body.map BodyItem.toValue))].map Prod.fst).Nodup := by simp
  have hread : (p.toValue.toRecord .direct "struct Program"
      ["originalLanguage", "sourceType", "body"]).bind ofRecord = .ok p := by
    apply toRecord_ofFields_bind distinct
    intro r h
    apply ofRecord_eq p h
  have hbody : (Sorted.ofPairs [("originalLanguage", Value.string p.originalLanguage),
      ("sourceType", .string p.sourceType),
      ("body", .array (p.body.map BodyItem.toValue))]).lookup "body"
      = some (.array (p.body.map BodyItem.toValue)) := Sorted.lookup_ofPairs distinct "body"
  rw [Program.toValue, Value.ofFields] at hread ⊢
  simp only [Program.ofValue, hbody, Value.isArray, reduceIte]
  rw [hread]
  rfl

end Program

end ClientGen
