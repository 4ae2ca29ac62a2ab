import ClientGen.Proofs.Program.Parts

/-!
# Paths from a part to the parts within it

The parts of a part stand in slots, or are the items of a list. A path leads through slots and
items, in the value that is read and in what is read of it alike: what is found in the value at
the end of a path is read as what stands there in the result, and when another value is set in
its place, the result has in that place what is read of the other value.
-/

namespace ClientGen

/-- A way from a part to a part of it: in values, where the latter may be found and be set to
another value, and in what is read, where it stands amid the rest of the former. -/
structure Focus (P Q : Part) where
  find? : Value → Option Value
  set : Value → Value → Value
  split? : P.Result → Option (Q.Result × (Q.Result → P.Result))

namespace Focus

variable {P Q R : Part}

/-- The slot of a key, which is there only under the given tag. -/
def slot (tag? : Option String) (key : String)
    (split? : P.Result → Option (Q.Result × (Q.Result → P.Result))) : Focus P Q where
  find? v := if P.tag? v = tag? then v.slot? (P.keys tag?) key else none
  set v w := v.setSlot (P.keys tag?) key w
  split? := split?

/-- An item of a list. -/
def item (i : Nat) : Focus (.list P) P where
  find?
    | .array items => items[i]?
    | _ => none
  set
    | .array items, w => .array (items.set i w)
    | v, _ => v
  split? xs := xs[i]?.map fun x => (x, fun y => xs.set i y)

/-- The whole part. -/
def whole : Focus P P where
  find? := some
  set _ w := w
  split? x := some (x, id)

/-- One way after another. -/
def comp (f : Focus P Q) (g : Focus Q R) : Focus P R where
  find? v := (f.find? v).bind g.find?
  set v w :=
    match f.find? v with
    | some u => f.set v (g.set u w)
    | none => v
  split? x :=
    (f.split? x).bind fun (y, around) =>
      (g.split? y).map fun (z, within) => (z, around ∘ within)

/-- What is found of a value is read as what stands there, and what is read of another value
stands there once that value has been set. -/
def Lawful (f : Focus P Q) : Prop :=
  ∀ ⦃v u x⦄, P.read v = .ok x → f.find? v = some u →
    ∃ y around, f.split? x = some (y, around) ∧ around y = x ∧ Q.read u = .ok y
      ∧ ∀ w z, Q.read w = .ok z → P.read (f.set v w) = .ok (around z)

/-- A slot of a part without a tag is lawful if the part is read slot by slot. -/
theorem lawful_slot {key : String}
    {split? : P.Result → Option (Q.Result × (Q.Result → P.Result))} (layout : List String)
    (hlayout : P.keys none = layout)
    (h : ∀ ⦃v u x⦄, P.read v = .ok x → v.slot? layout key = some u →
      ∃ y around, split? x = some (y, around) ∧ around y = x ∧ Q.read u = .ok y
        ∧ ∀ w z, Q.read w = .ok z → P.read (v.setSlot layout key w) = .ok (around z)) :
  (slot none key split?).Lawful
  := by
  subst hlayout
  intro v u x hx hu
  rw [slot, Option.ite_none_right_eq_some] at hu
  apply h hx hu.2

/-- A slot of a node is lawful if the nodes with its tag are read slot by slot. -/
theorem lawful_slot_node {place : Place} {tag key : String}
    {split? : place.Node → Option (Q.Result × (Q.Result → place.Node))} (fields : List String)
    (hfields : place.fields tag = fields) (hkey : key ≠ tagKey)
    (h : ∀ ⦃v u x⦄, place.read v = .ok x → place.tagOf? v = some tag →
      v.slot? (tagKey :: fields) key = some u →
      ∃ y around, split? x = some (y, around) ∧ around y = x ∧ Q.read u = .ok y
        ∧ ∀ w z, Q.read w = .ok z →
          place.tagOf? (v.setSlot (tagKey :: fields) key w) = some tag →
          place.read (v.setSlot (tagKey :: fields) key w) = .ok (around z)) :
  (slot (some tag) key split? : Focus (.node place) Q).Lawful
  := by
  subst hfields
  intro v u x hx hu
  rw [slot, Option.ite_none_right_eq_some] at hu
  obtain ⟨htag, hu⟩ := hu
  obtain ⟨y, around, hsplit, hself, hread, hset⟩ := h hx htag hu
  refine ⟨y, around, hsplit, hself, hread, ?_⟩
  intro w z hw
  -- The tag stands in a slot of its own, which is not filled anew.
  apply hset w z hw
  apply (Value.tagOf?_setSlot hu hkey w).trans htag

end Focus

/-- The slots that hold parts. -/
inductive Slot : Part → Part → Type where
  | body : Slot .program (.list (.node .item))
  | methods : Slot (.node .item) (.list .method)
  | parameters : Slot .method (.list .parameter)
  | returnType : Slot .method (.node .type)
  | parameterType : Slot .parameter (.node .type)
  | fallback : Slot .parameter .fallback
  | element : Slot (.node .type) (.node .type)
  | promised : Slot (.node .type) (.node .type)
  | key : Slot (.node .type) (.node .type)
  | value : Slot (.node .type) (.node .type)
  | variants : Slot (.node .type) (.list (.node .type))
  | properties : Slot (.node .type) (.list .property)
  | members (place : Place) : Slot (.node place) .members
  | target (place : Place) : Slot (.node place) (.node .type)
  | cases (place : Place) : Slot (.node place) (.list .enumCase)
  | memberProperties : Slot .members (.list .property)
  | propertyType : Slot .property (.node .type)

/-- The way into a slot. -/
def Focus.ofSlot : {P Q : Part} → Slot P Q → Focus P Q
  | _, _, .body => .slot none "body" fun p => some (p.body, fun body => { p with body })
  | _, _, .methods =>
    .slot (some "ClassDefinition") "methods" fun
      | .remoteClass c => some (c.methods, fun methods => .remoteClass { c with methods })
      | _ => none
  | _, _, .parameters =>
    .slot none "params" fun m => some (m.parameters, fun parameters => { m with parameters })
  | _, _, .returnType =>
    .slot none "returnType" fun m => some (m.returnType, fun returnType => { m with returnType })
  | _, _, .parameterType => .slot none "type" fun p => some (p.type, fun type => { p with type })
  | _, _, .fallback =>
    .slot none "defaultValue" fun p => some (p.fallback, fun fallback => { p with fallback })
  | _, _, .element =>
    .slot (some "ArrayType") "element" fun
      | .array element => some (element, .array)
      | _ => none
  | _, _, .promised =>
    .slot (some "PromiseType") "element" fun
      | .promise result => some (result, .promise)
      | _ => none
  | _, _, .key =>
    .slot (some "MapType") "key" fun
      | .map key value => some (key, fun key => .map key value)
      | _ => none
  | _, _, .value =>
    .slot (some "MapType") "value" fun
      | .map key value => some (value, fun value => .map key value)
      | _ => none
  | _, _, .variants =>
    .slot (some "UnionType") "variants" fun
      | .union variants => some (variants, .union)
      | _ => none
  | _, _, .properties =>
    .slot (some "TypeLiteral") "properties" fun
      | .object properties => some (properties, .object)
      | _ => none
  | _, _, .members place =>
    .slot (some "StructLiteral") "typeLiteral" fun x =>
      match place.declaration? x with
      | some (.struct name properties home) =>
        some (properties, fun properties => place.declare (.struct name properties home))
      | _ => none
  | _, _, .target place =>
    .slot (some "TypeAlias") "aliasType" fun x =>
      match place.declaration? x with
      | some (.typeAlias name target home) =>
        some (target, fun target => place.declare (.typeAlias name target home))
      | _ => none
  | _, _, .cases place =>
    .slot (some "Enum") "cases" fun x =>
      match place.declaration? x with
      | some (.enumeration name cases home) =>
        some (cases, fun cases => place.declare (.enumeration name cases home))
      | _ => none
  | _, _, .memberProperties =>
    .slot none "properties" fun properties => some (properties, id)
  | _, _, .propertyType => .slot none "type" fun p => some (p.type, fun type => { p with type })

/-! ### Laws -/

section

variable {α : Type} {R : Value → α → Prop}

/-- Lists that are related item by item have related items at each index, and stay related when
other related items take their place. -/
theorem exists_getElem?_of_forall₂ {items : List Value} {results : List α}
    (h : List.Forall₂ R items results) {i : Nat} {u : Value} (hu : items[i]? = some u) :
  ∃ y, results[i]? = some y ∧ results.set i y = results ∧ R u y
    ∧ ∀ w z, R w z → List.Forall₂ R (items.set i w) (results.set i z)
  := by
  induction h generalizing i with
  | nil => cases hu
  | @cons v a items results ha hrest ih =>
    cases i with
    | zero =>
      obtain rfl := Option.some.inj hu
      refine ⟨a, rfl, rfl, ha, ?_⟩
      intro w z hwz
      apply List.Forall₂.cons hwz hrest
    | succ i =>
      obtain ⟨y, hy, hself, hread, hset⟩ := ih hu
      refine ⟨y, hy, ?_, hread, ?_⟩
      · rw [List.set_cons_succ, hself]
      · intro w z hwz
        apply List.Forall₂.cons ha (hset w z hwz)

end

namespace Focus

open Value

theorem lawful_body :
  (ofSlot .body).Lawful
  := by
  apply lawful_slot Program.layout rfl
  intro v u p hp hu
  obtain ⟨fits, hlanguage, hsource, hbody⟩ := Program.ofRecord_eq_ok_iff.mp hp
  refine ⟨p.body, _, rfl, rfl, hbody.read_eq hu, ?_⟩
  intro w body hw
  apply Program.ofRecord_eq_ok_iff.mpr
  exact ⟨fits.setSlot _ _, hlanguage.setSlot hu (by simp), hsource.setSlot hu (by simp),
    givesOr_setSlot_self hu hw []⟩

theorem lawful_methods :
  (ofSlot .methods).Lawful
  := by
  apply lawful_slot_node RemoteClass.shape.2 rfl (by simp [tagKey])
  intro v u item hitem htag hu
  obtain ⟨fits, c, hname, hmethods, hdoc, rfl⟩ := (BodyItem.ofValue_class_eq_ok_iff htag).mp hitem
  refine ⟨c.methods, _, rfl, rfl, hmethods.read_eq hu, ?_⟩
  intro w methods hw htag
  apply (BodyItem.ofValue_class_eq_ok_iff htag).mpr
  exact ⟨fits.setSlot _ _, { c with methods }, hname.setSlot hu (by simp),
    givesOr_setSlot_self hu hw [], hdoc.setSlot hu (by simp), rfl⟩

theorem lawful_parameters :
  (ofSlot .parameters).Lawful
  := by
  apply lawful_slot Method.layout rfl
  intro v u m hm hu
  have h := Method.ofValue_eq_ok_iff.mp hm
  obtain ⟨fits, hname, hparameters, hkind, hstatic, hdoc, hreturn⟩ := h
  refine ⟨m.parameters, _, rfl, rfl, hparameters.read_eq hu, ?_⟩
  intro w parameters hw
  apply Method.ofValue_eq_ok_iff.mpr
  exact ⟨fits.setSlot _ _, hname.setSlot hu (by simp), givesOr_setSlot_self hu hw [],
    hkind.setSlot hu (by simp), hstatic.setSlot hu (by simp), hdoc.setSlot hu (by simp),
    hreturn.setSlot hu (by simp)⟩

theorem lawful_returnType :
  (ofSlot .returnType).Lawful
  := by
  apply lawful_slot Method.layout rfl
  intro v u m hm hu
  have h := Method.ofValue_eq_ok_iff.mp hm
  obtain ⟨fits, hname, hparameters, hkind, hstatic, hdoc, hreturn⟩ := h
  refine ⟨m.returnType, _, rfl, rfl, hreturn.read_eq hu, ?_⟩
  intro w returnType hw
  apply Method.ofValue_eq_ok_iff.mpr
  exact ⟨fits.setSlot _ _, hname.setSlot hu (by simp), hparameters.setSlot hu (by simp),
    hkind.setSlot hu (by simp), hstatic.setSlot hu (by simp), hdoc.setSlot hu (by simp),
    gives_setSlot_self hu hw⟩

theorem lawful_parameterType :
  (ofSlot .parameterType).Lawful
  := by
  apply lawful_slot Parameter.layout rfl
  intro v u p hp hu
  obtain ⟨fits, hname, htype, hoptional, hfallback⟩ := Parameter.ofValue_eq_ok_iff.mp hp
  refine ⟨p.type, _, rfl, rfl, htype.read_eq hu, ?_⟩
  intro w type hw
  apply Parameter.ofValue_eq_ok_iff.mpr
  exact ⟨fits.setSlot _ _, hname.setSlot hu (by simp), gives_setSlot_self hu hw,
    hoptional.setSlot hu (by simp), hfallback.setSlot hu (by simp)⟩

theorem lawful_fallback :
  (ofSlot .fallback).Lawful
  := by
  apply lawful_slot Parameter.layout rfl
  intro v u p hp hu
  obtain ⟨fits, hname, htype, hoptional, hfallback⟩ := Parameter.ofValue_eq_ok_iff.mp hp
  refine ⟨p.fallback, _, rfl, rfl, hfallback.read_eq hu, ?_⟩
  intro w fallback hw
  apply Parameter.ofValue_eq_ok_iff.mpr
  exact ⟨fits.setSlot _ _, hname.setSlot hu (by simp), htype.setSlot hu (by simp),
    hoptional.setSlot hu (by simp), givesOr_setSlot_self hu hw none⟩

theorem lawful_element :
  (ofSlot .element).Lawful
  := by
  apply lawful_slot_node ["element"] rfl (by simp [tagKey])
  intro v u t ht htag hu
  obtain ⟨fits, element, helement, rfl⟩ := (TypeNode.ofValue_array_eq_ok_iff htag).mp ht
  refine ⟨element, _, rfl, rfl, helement.read_eq hu, ?_⟩
  intro w element hw htag
  apply (TypeNode.ofValue_array_eq_ok_iff htag).mpr
  exact ⟨fits.setSlot _ _, element, gives_setSlot_self hu hw, rfl⟩

theorem lawful_promised :
  (ofSlot .promised).Lawful
  := by
  apply lawful_slot_node ["element"] rfl (by simp [tagKey])
  intro v u t ht htag hu
  obtain ⟨fits, result, hresult, rfl⟩ := (TypeNode.ofValue_promise_eq_ok_iff htag).mp ht
  refine ⟨result, _, rfl, rfl, hresult.read_eq hu, ?_⟩
  intro w result hw htag
  apply (TypeNode.ofValue_promise_eq_ok_iff htag).mpr
  exact ⟨fits.setSlot _ _, result, gives_setSlot_self hu hw, rfl⟩

theorem lawful_key :
  (ofSlot .key).Lawful
  := by
  apply lawful_slot_node ["key", "value"] rfl (by simp [tagKey])
  intro v u t ht htag hu
  obtain ⟨fits, key, value, hkey, hvalue, rfl⟩ := (TypeNode.ofValue_map_eq_ok_iff htag).mp ht
  refine ⟨key, _, rfl, rfl, hkey.read_eq hu, ?_⟩
  intro w key hw htag
  apply (TypeNode.ofValue_map_eq_ok_iff htag).mpr
  exact ⟨fits.setSlot _ _, key, value, gives_setSlot_self hu hw, hvalue.setSlot hu (by simp), rfl⟩

theorem lawful_value :
  (ofSlot .value).Lawful
  := by
  apply lawful_slot_node ["key", "value"] rfl (by simp [tagKey])
  intro v u t ht htag hu
  obtain ⟨fits, key, value, hkey, hvalue, rfl⟩ := (TypeNode.ofValue_map_eq_ok_iff htag).mp ht
  refine ⟨value, _, rfl, rfl, hvalue.read_eq hu, ?_⟩
  intro w value hw htag
  apply (TypeNode.ofValue_map_eq_ok_iff htag).mpr
  exact ⟨fits.setSlot _ _, key, value, hkey.setSlot hu (by simp), gives_setSlot_self hu hw, rfl⟩

theorem lawful_variants :
  (ofSlot .variants).Lawful
  := by
  apply lawful_slot_node ["variants"] rfl (by simp [tagKey])
  intro v u t ht htag hu
  obtain ⟨fits, variants, hvariants, rfl⟩ := (TypeNode.ofValue_union_eq_ok_iff htag).mp ht
  refine ⟨variants, _, rfl, rfl, variantsOf_eq_toList.symm.trans (hvariants.read_eq hu), ?_⟩
  intro w variants hw htag
  apply (TypeNode.ofValue_union_eq_ok_iff htag).mpr
  have hvariants := variantsOf_eq_toList.trans hw
  exact ⟨fits.setSlot _ _, variants, gives_setSlot_self hu hvariants, rfl⟩

theorem lawful_properties :
  (ofSlot .properties).Lawful
  := by
  apply lawful_slot_node ["properties"] rfl (by simp [tagKey])
  intro v u t ht htag hu
  obtain ⟨fits, properties, hproperties, rfl⟩ := (TypeNode.ofValue_object_eq_ok_iff htag).mp ht
  refine ⟨properties, _, rfl, rfl, propertiesOf_eq_toList.symm.trans (hproperties.read_eq hu), ?_⟩
  intro w properties hw htag
  apply (TypeNode.ofValue_object_eq_ok_iff htag).mpr
  have hproperties := propertiesOf_eq_toList.trans hw
  exact ⟨fits.setSlot _ _, properties, givesOr_setSlot_self hu hproperties [], rfl⟩

theorem lawful_members (place : Place) :
  (ofSlot (.members place)).Lawful
  := by
  apply lawful_slot_node structFields rfl (by simp [tagKey])
  intro v u x hx htag hu
  have h := (Place.read_struct_eq_ok_iff htag).mp hx
  obtain ⟨fits, name, properties, home, hname, hproperties, hhome, rfl⟩ := h
  refine ⟨properties, _, by rw [Place.declaration?_declare], rfl, hproperties.read_eq hu, ?_⟩
  intro w properties hw htag
  apply (Place.read_struct_eq_ok_iff htag).mpr
  exact ⟨fits.setSlot _ _, name, properties, home, hname.setSlot hu (by simp),
    givesOr_setSlot_self hu hw [], hhome.setSlot hu (by simp), rfl⟩

theorem lawful_target (place : Place) :
  (ofSlot (.target place)).Lawful
  := by
  apply lawful_slot_node aliasFields rfl (by simp [tagKey])
  intro v u x hx htag hu
  have h := (Place.read_alias_eq_ok_iff htag).mp hx
  obtain ⟨fits, name, target, home, hname, htarget, hhome, rfl⟩ := h
  refine ⟨target, _, by rw [Place.declaration?_declare], rfl, htarget.read_eq hu, ?_⟩
  intro w target hw htag
  apply (Place.read_alias_eq_ok_iff htag).mpr
  exact ⟨fits.setSlot _ _, name, target, home, hname.setSlot hu (by simp),
    gives_setSlot_self hu hw, hhome.setSlot hu (by simp), rfl⟩

theorem lawful_cases (place : Place) :
  (ofSlot (.cases place)).Lawful
  := by
  apply lawful_slot_node enumerationFields rfl (by simp [tagKey])
  intro v u x hx htag hu
  have h := (Place.read_enumeration_eq_ok_iff htag).mp hx
  obtain ⟨fits, name, cases, home, hname, hcases, hhome, rfl⟩ := h
  refine ⟨cases, _, by rw [Place.declaration?_declare], rfl, hcases.read_eq hu, ?_⟩
  intro w cases hw htag
  apply (Place.read_enumeration_eq_ok_iff htag).mpr
  exact ⟨fits.setSlot _ _, name, cases, home, hname.setSlot hu (by simp),
    givesOr_setSlot_self hu hw [], hhome.setSlot hu (by simp), rfl⟩

theorem lawful_memberProperties :
  (ofSlot .memberProperties).Lawful
  := by
  apply lawful_slot ["properties"] rfl
  intro v u members hmembers hu
  obtain ⟨fits, hproperties⟩ := plainObjectOf_eq_ok_iff.mp hmembers
  refine ⟨members, _, rfl, rfl, propertiesOf_eq_toList.symm.trans (hproperties.read_eq hu), ?_⟩
  intro w properties hw
  apply plainObjectOf_eq_ok_iff.mpr
  have hproperties := propertiesOf_eq_toList.trans hw
  exact ⟨fits.setSlot _ _, givesOr_setSlot_self hu hproperties []⟩

theorem lawful_propertyType :
  (ofSlot .propertyType).Lawful
  := by
  apply lawful_slot propertyLayout rfl
  intro v u p hp hu
  obtain ⟨fits, hname, hoptional, htype⟩ := propertyOf_eq_ok_iff.mp hp
  refine ⟨p.type, _, rfl, rfl, htype.read_eq hu, ?_⟩
  intro w type hw
  apply propertyOf_eq_ok_iff.mpr
  exact ⟨fits.setSlot _ _, hname.setSlot hu (by simp), hoptional.setSlot hu (by simp),
    gives_setSlot_self hu hw⟩

/-- Every slot is read as what stands in it. -/
theorem lawful_ofSlot {P Q : Part} (s : Slot P Q) :
  (ofSlot s).Lawful
  := by
  cases s with
  | body => exact lawful_body
  | methods => exact lawful_methods
  | parameters => exact lawful_parameters
  | returnType => exact lawful_returnType
  | parameterType => exact lawful_parameterType
  | fallback => exact lawful_fallback
  | element => exact lawful_element
  | promised => exact lawful_promised
  | key => exact lawful_key
  | value => exact lawful_value
  | variants => exact lawful_variants
  | properties => exact lawful_properties
  | members place => exact lawful_members place
  | target place => exact lawful_target place
  | cases place => exact lawful_cases place
  | memberProperties => exact lawful_memberProperties
  | propertyType => exact lawful_propertyType

/-- The items of a list are read as the items of the result. -/
theorem lawful_item {P : Part} (i : Nat) :
  (item i : Focus (.list P) P).Lawful
  := by
  intro v u xs hxs hu
  cases v with
  | array items =>
    have hitems := mapM_eq_ok_iff.mp hxs
    obtain ⟨y, hy, hself, hread, hset⟩ := exists_getElem?_of_forall₂ hitems hu
    have hsplit : (item i).split? xs = some (y, fun z => List.set xs i z) := by simp [item, hy]
    refine ⟨y, _, hsplit, hself, hread, ?_⟩
    intro w z hw
    apply mapM_eq_ok_iff.mpr (hset w z hw)
  | _ => cases hu

theorem lawful_whole {P : Part} :
  (whole : Focus P P).Lawful
  := by
  intro v u x hx hu
  obtain rfl := Option.some.inj hu
  refine ⟨x, id, rfl, rfl, hx, ?_⟩
  intro w z hw
  apply hw

theorem Lawful.comp {P Q R : Part} {f : Focus P Q} {g : Focus Q R} (hf : f.Lawful)
    (hg : g.Lawful) :
  (f.comp g).Lawful
  := by
  intro v u x hx hu
  obtain ⟨v', hv', hu'⟩ := Option.bind_eq_some_iff.mp hu
  obtain ⟨y, around, hy, hself, hread, hset⟩ := hf hx hv'
  obtain ⟨z, within, hz, hself', hread', hset'⟩ := hg hread hu'
  refine ⟨z, around ∘ within, ?_, ?_, hread', ?_⟩
  · simp [Focus.comp, hy, hz]
  · rw [Function.comp_apply, hself', hself]
  · intro w z hw
    simp only [Focus.comp, hv']
    apply hset _ _ (hset' w z hw)

end Focus

/-! ### Paths -/

/-- A path from a part to a part within it, which leads through slots and items of lists. -/
inductive Path : Part → Part → Type where
  | here {P : Part} : Path P P
  | slot {P Q R : Part} (s : Slot P Q) (rest : Path Q R) : Path P R
  | item {P R : Part} (i : Nat) (rest : Path P R) : Path (.list P) R

namespace Path

/-- The way along a path. -/
def focus : {P Q : Part} → Path P Q → Focus P Q
  | _, _, .here => .whole
  | _, _, .slot s rest => (Focus.ofSlot s).comp rest.focus
  | _, _, .item i rest => (Focus.item i).comp rest.focus

/-- What is found at the end of a path is read as what stands there, and what is read of another
value stands there once that value has been set. -/
theorem lawful_focus {P Q : Part} (path : Path P Q) :
  path.focus.Lawful
  := by
  induction path with
  | here => exact Focus.lawful_whole
  | slot s _ ih => exact (Focus.lawful_ofSlot s).comp ih
  | item i _ ih => exact (Focus.lawful_item i).comp ih

end Path

end ClientGen
