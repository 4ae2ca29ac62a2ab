import ClientGen.Proofs.Program.Reading

/-!
# The parts of a program and their keys

Programs, the nodes of which they consist, and what these consist of are parts: each is read
out of a value of its own. A part knows certain keys, for a node they depend on its tag. What
an object has under other keys is passed over: the part is read as it is from any object that
has the same under the keys that it knows.
-/

namespace ClientGen

/-! ### Nodes -/

/-- Where a node stands: among the items of a program, or where a type is. Declarations stand
in both places. -/
inductive Place where
  | item
  | type

namespace Place

/-- A node. -/
abbrev Node : Place → Type
  | .item => BodyItem
  | .type => TypeNode

/-- How the tags in a place are read. -/
abbrev reading : Place → Reading
  | .item => .direct
  | .type => .setAside

/-- The tags in a place. -/
abbrev tags : Place → List String
  | .item => BodyItem.tags
  | .type => TypeNode.tags

/-- The tag of a value in a place. -/
abbrev tagOf? (place : Place) (v : Value) : Option String :=
  v.tagOf? place.reading place.tags

/-- Reads a node. -/
def read : (place : Place) → Value → Decoded place.Node
  | .item => BodyItem.ofValue
  | .type => TypeNode.ofValue .setAside

/-- A declaration as a node. -/
def declare : (place : Place) → Declaration → place.Node
  | .item => .declaration
  | .type => .declared

/-- The declaration that is a node. -/
def declaration? : (place : Place) → place.Node → Option Declaration
  | .item, .declaration d => some d
  | .type, .declared d => some d
  | _, _ => none

@[simp]
theorem declaration?_declare (place : Place) (d : Declaration) :
  place.declaration? (place.declare d) = some d
  := by cases place <;> rfl

/-- The fields of the declarations, by their tags. -/
def declarationFields : List (String × List String) :=
  [("StructLiteral", structFields), ("TypeAlias", aliasFields), ("Enum", enumerationFields)]

/-- The fields of the other nodes, by their tags. -/
def ownFields : Place → List (String × List String)
  | .item => [("ClassDefinition", RemoteClass.shape.2)]
  | .type =>
    [("ArrayType", ["element"]), ("MapType", ["key", "value"]), ("PromiseType", ["element"]),
      ("UnionType", ["variants"]), ("TypeLiteral", ["properties"]),
      ("CustomNodeLiteral", ["rawValue"])]

/-- The fields of the nodes with a tag. -/
def fields (place : Place) (tag : String) : List String :=
  ((declarationFields.lookup tag).or (place.ownFields.lookup tag)).getD []

variable {place : Place} {v : Value} {x : place.Node} {tag : String}

/-- A node is read only if it has a tag. -/
theorem exists_tag_of_read (h : place.read v = .ok x) :
  ∃ tag, place.tagOf? v = some tag
  := by
  cases place with
  | item => apply BodyItem.exists_tag_of_ofValue h
  | type => apply TypeNode.exists_tag_of_ofValue h

theorem read_declaration_eq_ok_iff (htag : place.tagOf? v = some tag)
    (hdeclaration : tag ∈ declarationTags) :
  place.read v = .ok x ↔ ∃ d, declarationOf tag v.content = .ok d ∧ x = place.declare d
  := by
  cases place with
  | item => apply BodyItem.ofValue_declaration_eq_ok_iff htag hdeclaration
  | type => apply TypeNode.ofValue_declared_eq_ok_iff htag hdeclaration

theorem read_struct_eq_ok_iff (htag : place.tagOf? v = some "StructLiteral") :
  place.read v = .ok x
    ↔ v.Fits (tagKey :: structFields) ∧ ∃ name properties home,
      v.Gives (tagKey :: structFields) "name" Value.toStr name
        ∧ v.GivesOr (tagKey :: structFields) "typeLiteral" plainObjectOf [] properties
        ∧ v.GivesOr (tagKey :: structFields) "homePath" (Value.toOption Value.toStr) none home
        ∧ x = place.declare (.struct name properties home)
  := by
  rw [read_declaration_eq_ok_iff htag (by simp [declarationTags])]
  simp only [declarationOf_struct_eq_ok_iff (Value.mirrors_content htag (by simp [tagKey]))]
  constructor
  · rintro ⟨_, ⟨fits, name, properties, home, hname, hproperties, hhome, rfl⟩, hx⟩
    exact ⟨fits, name, properties, home, hname, hproperties, hhome, hx⟩
  · rintro ⟨fits, name, properties, home, hname, hproperties, hhome, hx⟩
    exact ⟨_, ⟨fits, name, properties, home, hname, hproperties, hhome, rfl⟩, hx⟩

theorem read_alias_eq_ok_iff (htag : place.tagOf? v = some "TypeAlias") :
  place.read v = .ok x
    ↔ v.Fits (tagKey :: aliasFields) ∧ ∃ name target home,
      v.Gives (tagKey :: aliasFields) "name" Value.toStr name
        ∧ v.Gives (tagKey :: aliasFields) "aliasType" (TypeNode.ofValue .setAside) target
        ∧ v.GivesOr (tagKey :: aliasFields) "homePath" (Value.toOption Value.toStr) none home
        ∧ x = place.declare (.typeAlias name target home)
  := by
  rw [read_declaration_eq_ok_iff htag (by simp [declarationTags])]
  simp only [declarationOf_alias_eq_ok_iff (Value.mirrors_content htag (by simp [tagKey]))]
  constructor
  · rintro ⟨_, ⟨fits, name, target, home, hname, htarget, hhome, rfl⟩, hx⟩
    exact ⟨fits, name, target, home, hname, htarget, hhome, hx⟩
  · rintro ⟨fits, name, target, home, hname, htarget, hhome, hx⟩
    exact ⟨_, ⟨fits, name, target, home, hname, htarget, hhome, rfl⟩, hx⟩

theorem read_enumeration_eq_ok_iff (htag : place.tagOf? v = some "Enum") :
  place.read v = .ok x
    ↔ v.Fits (tagKey :: enumerationFields) ∧ ∃ name cases home,
      v.Gives (tagKey :: enumerationFields) "name" Value.toStr name
        ∧ v.GivesOr (tagKey :: enumerationFields) "cases"
          (Value.toList (EnumCase.ofValue .setAside)) [] cases
        ∧ v.GivesOr (tagKey :: enumerationFields) "homePath" (Value.toOption Value.toStr) none
          home
        ∧ x = place.declare (.enumeration name cases home)
  := by
  rw [read_declaration_eq_ok_iff htag (by simp [declarationTags])]
  simp only [declarationOf_enum_eq,
    enumerationOf_eq_ok_iff (Value.mirrors_content htag (by simp [tagKey]))]
  constructor
  · rintro ⟨_, ⟨fits, name, cases, home, hname, hcases, hhome, rfl⟩, hx⟩
    exact ⟨fits, name, cases, home, hname, hcases, hhome, hx⟩
  · rintro ⟨fits, name, cases, home, hname, hcases, hhome, hx⟩
    exact ⟨_, ⟨fits, name, cases, home, hname, hcases, hhome, rfl⟩, hx⟩

end Place

/-! ### Parts -/

/-- The kinds of parts. -/
inductive Part where
  | program
  | node (place : Place)
  | method
  | parameter
  | fallback
  | members
  | property
  | enumCase
  | list (part : Part)

namespace Part

/-- What a part is read as. -/
abbrev Result : Part → Type
  | .program => Program
  | .node place => place.Node
  | .method => Method
  | .parameter => Parameter
  | .fallback => Option Literal
  | .members => List (Property TypeNode)
  | .property => Property TypeNode
  | .enumCase => EnumCase
  | .list P => List P.Result

/-- Reads a part. -/
def read : (P : Part) → Value → Decoded P.Result
  | .program => fun v => v.toRecord .direct "struct Program" Program.layout >>= Program.ofRecord
  | .node place => place.read
  | .method => Method.ofValue .setAside
  | .parameter => Parameter.ofValue .setAside
  | .fallback => Value.toOption (Literal.ofValue .setAside)
  | .members => plainObjectOf
  | .property => propertyOf
  | .enumCase => EnumCase.ofValue .setAside
  | .list P => Value.toList P.read

/-- The tag of a part, if it is a node. -/
def tag? : Part → Value → Option String
  | .node place, v => place.tagOf? v
  | _, _ => none

/-- The keys that a part knows, given its tag, in the order of their fields. -/
def keys : Part → Option String → List String
  | .program, _ => Program.layout
  | .node place, some tag => tagKey :: place.fields tag
  | .node _, none => [tagKey]
  | .method, _ => Method.layout
  | .parameter, _ => Parameter.layout
  | .fallback, _ => Literal.layout
  | .members, _ => ["properties"]
  | .property, _ => propertyLayout
  | .enumCase, _ => EnumCase.layout
  | .list _, _ => []

end Part

/-! ### Agreement -/

/-- Objects have the same under each of the keys. -/
def AgreeOn (keys : List String) (fields fields' : List (String × Value)) : Prop :=
  ∀ key ∈ keys, fields'.lookup key = fields.lookup key

section

variable {keys layout : List String} {key : String} {fields fields' : List (String × Value)}
  {α : Type} {read : Value → Decoded α} {instead a : α}

theorem AgreeOn.gives_iff (h : AgreeOn keys fields fields') (hkey : key ∈ keys) :
  (Value.object fields').Gives layout key read a ↔ (Value.object fields).Gives layout key read a
  := by rw [Value.Gives, Value.Gives, Value.slot?, Value.slot?, h key hkey]

theorem AgreeOn.givesOr_iff (h : AgreeOn keys fields fields') (hkey : key ∈ keys) :
  (Value.object fields').GivesOr layout key read instead a
    ↔ (Value.object fields).GivesOr layout key read instead a
  := by rw [Value.GivesOr, Value.GivesOr, Value.slot?, Value.slot?, h key hkey]

theorem AgreeOn.tagOf?_eq (h : AgreeOn keys fields fields') (hkey : tagKey ∈ keys)
    (reading : Reading) (names : List String) :
  (Value.object fields').tagOf? reading names = (Value.object fields).tagOf? reading names
  := by rw [Value.tagOf?, Value.tagOf?, Value.slot?, Value.slot?, h tagKey hkey]

end

/-- A tag of a type is that of a primitive type, that of a type of another kind, or not
known. -/
theorem TypeNode.tag_cases (tag : String) :
  (∃ p : Primitive, tag = p.tag) ∨ tag ∈ compoundTags
    ∨ Primitive.ofTag? tag = none ∧ tag ∉ compoundTags
  := by
  cases hp : Primitive.ofTag? tag with
  | some p =>
    left
    have htag := List.find?_some hp
    exact ⟨p, (of_decide_eq_true htag).symm⟩
  | none =>
    right
    by_cases htag : tag ∈ compoundTags
    · exact Or.inl htag
    · exact Or.inr ⟨rfl, htag⟩

section

variable {fields fields' : List (String × Value)} {tag : String}

/-- An item knows the keys that come with its tag alone. -/
theorem BodyItem.ofValue_object_of_agreeOn {item : BodyItem}
    (h : BodyItem.ofValue (.object fields) = .ok item)
    (htag : Place.item.tagOf? (.object fields) = some tag) (hdeclaration : tag ∉ declarationTags)
    (agree : AgreeOn (tagKey :: Place.item.fields tag) fields fields') :
  BodyItem.ofValue (.object fields') = .ok item
  := by
  have htag' := (agree.tagOf?_eq List.mem_cons_self .direct BodyItem.tags).trans htag
  by_cases hclass : tag = "ClassDefinition"
  · subst hclass
    replace agree : AgreeOn classLayout fields fields' := agree
    rw [ofValue_class_eq_ok_iff htag] at h
    rw [ofValue_class_eq_ok_iff htag']
    simpa [Value.Fits, RemoteClass.shape, agree.gives_iff, agree.givesOr_iff] using h
  · rw [ofValue_unknown_eq_ok_iff htag hclass hdeclaration] at h
    rw [ofValue_unknown_eq_ok_iff htag' hclass hdeclaration]
    exact ⟨trivial, h.2⟩

/-- A type knows the keys that come with its tag alone. -/
theorem TypeNode.ofValue_object_of_agreeOn {t : TypeNode}
    (h : TypeNode.ofValue .setAside (.object fields) = .ok t)
    (htag : Place.type.tagOf? (.object fields) = some tag) (hdeclaration : tag ∉ declarationTags)
    (agree : AgreeOn (tagKey :: Place.type.fields tag) fields fields') :
  TypeNode.ofValue .setAside (.object fields') = .ok t
  := by
  have htag' := (agree.tagOf?_eq List.mem_cons_self .setAside TypeNode.tags).trans htag
  rcases tag_cases tag with ⟨p, rfl⟩ | hcompound | ⟨hprimitive, hcompound⟩
  · rw [ofValue_primitive_eq_ok_iff htag] at h
    rw [ofValue_primitive_eq_ok_iff htag']
    exact ⟨trivial, h.2⟩
  · simp only [compoundTags, List.mem_cons, List.not_mem_nil, or_false] at hcompound
    rcases hcompound with rfl | rfl | rfl | rfl | rfl | rfl | rfl | rfl | rfl
    · replace agree : AgreeOn [tagKey, "element"] fields fields' := agree
      rw [ofValue_array_eq_ok_iff htag] at h
      rw [ofValue_array_eq_ok_iff htag']
      simpa [Value.Fits, agree.gives_iff, agree.givesOr_iff] using h
    · replace agree : AgreeOn [tagKey, "key", "value"] fields fields' := agree
      rw [ofValue_map_eq_ok_iff htag] at h
      rw [ofValue_map_eq_ok_iff htag']
      simpa [Value.Fits, agree.gives_iff, agree.givesOr_iff] using h
    · replace agree : AgreeOn [tagKey, "element"] fields fields' := agree
      rw [ofValue_promise_eq_ok_iff htag] at h
      rw [ofValue_promise_eq_ok_iff htag']
      simpa [Value.Fits, agree.gives_iff, agree.givesOr_iff] using h
    · replace agree : AgreeOn [tagKey, "variants"] fields fields' := agree
      rw [ofValue_union_eq_ok_iff htag] at h
      rw [ofValue_union_eq_ok_iff htag']
      simpa [Value.Fits, agree.gives_iff, agree.givesOr_iff] using h
    · replace agree : AgreeOn [tagKey, "properties"] fields fields' := agree
      rw [ofValue_object_eq_ok_iff htag] at h
      rw [ofValue_object_eq_ok_iff htag']
      simpa [Value.Fits, agree.gives_iff, agree.givesOr_iff] using h
    · apply absurd (by decide) hdeclaration
    · apply absurd (by decide) hdeclaration
    · apply absurd (by decide) hdeclaration
    · replace agree : AgreeOn [tagKey, "rawValue"] fields fields' := agree
      rw [ofValue_custom_eq_ok_iff htag] at h
      rw [ofValue_custom_eq_ok_iff htag']
      simpa [Value.Fits, agree.gives_iff, agree.givesOr_iff] using h
  · rw [ofValue_unknown_eq_ok_iff htag hprimitive hcompound] at h
    rw [ofValue_unknown_eq_ok_iff htag' hprimitive hcompound]
    exact ⟨trivial, h.2⟩

theorem Place.read_object_of_agreeOn {place : Place} {x : place.Node}
    (h : place.read (.object fields) = .ok x) (htag : place.tagOf? (.object fields) = some tag)
    (agree : AgreeOn (tagKey :: place.fields tag) fields fields') :
  place.read (.object fields') = .ok x
  := by
  have htag' := (agree.tagOf?_eq List.mem_cons_self place.reading place.tags).trans htag
  -- Declarations are read alike in both places; of the other nodes each place has its own.
  by_cases hdeclaration : tag ∈ declarationTags
  · simp only [declarationTags, List.mem_cons, List.not_mem_nil, or_false] at hdeclaration
    rcases hdeclaration with rfl | rfl | rfl
    · replace agree : AgreeOn (tagKey :: structFields) fields fields' := agree
      rw [read_struct_eq_ok_iff htag] at h
      rw [read_struct_eq_ok_iff htag']
      simpa [Value.Fits, agree.gives_iff, agree.givesOr_iff] using h
    · replace agree : AgreeOn (tagKey :: aliasFields) fields fields' := agree
      rw [read_alias_eq_ok_iff htag] at h
      rw [read_alias_eq_ok_iff htag']
      simpa [Value.Fits, agree.gives_iff, agree.givesOr_iff] using h
    · replace agree : AgreeOn (tagKey :: enumerationFields) fields fields' := agree
      rw [read_enumeration_eq_ok_iff htag] at h
      rw [read_enumeration_eq_ok_iff htag']
      simpa [Value.Fits, agree.gives_iff, agree.givesOr_iff] using h
  · cases place with
    | item => apply BodyItem.ofValue_object_of_agreeOn h htag hdeclaration agree
    | type => apply TypeNode.ofValue_object_of_agreeOn h htag hdeclaration agree

end

/-- A part is read as it is from any object that has the same under the keys that it knows. -/
theorem Part.read_object_of_agreeOn {P : Part} {fields fields' : List (String × Value)}
    {x : P.Result} (h : P.read (.object fields) = .ok x)
    (agree : AgreeOn (P.keys (P.tag? (.object fields))) fields fields') :
  P.read (.object fields') = .ok x
  := by
  cases P with
  | program =>
    replace agree : AgreeOn Program.layout fields fields' := agree
    rw [read, Program.ofRecord_eq_ok_iff] at h ⊢
    simpa [Value.Fits, agree.gives_iff, agree.givesOr_iff] using h
  | node place =>
    obtain ⟨tag, htag⟩ := Place.exists_tag_of_read h
    rw [tag?, htag] at agree
    apply Place.read_object_of_agreeOn h htag agree
  | method =>
    replace agree : AgreeOn Method.layout fields fields' := agree
    rw [read, Method.ofValue_eq_ok_iff] at h ⊢
    simpa [Value.Fits, agree.gives_iff, agree.givesOr_iff] using h
  | parameter =>
    replace agree : AgreeOn Parameter.layout fields fields' := agree
    rw [read, Parameter.ofValue_eq_ok_iff] at h ⊢
    simpa [Value.Fits, agree.gives_iff, agree.givesOr_iff] using h
  | fallback =>
    replace agree : AgreeOn Literal.layout fields fields' := agree
    simp only [read, Value.toOption, map_eq_ok_iff, Literal.ofValue_eq_ok_iff] at h ⊢
    simpa [Value.Fits, agree.gives_iff, agree.givesOr_iff] using h
  | members =>
    replace agree : AgreeOn ["properties"] fields fields' := agree
    rw [read, plainObjectOf_eq_ok_iff] at h ⊢
    simpa [Value.Fits, agree.gives_iff, agree.givesOr_iff] using h
  | property =>
    replace agree : AgreeOn propertyLayout fields fields' := agree
    rw [read, propertyOf_eq_ok_iff] at h ⊢
    simpa [Value.Fits, agree.gives_iff, agree.givesOr_iff] using h
  | enumCase =>
    replace agree : AgreeOn EnumCase.layout fields fields' := agree
    rw [read, EnumCase.ofValue_eq_ok_iff] at h ⊢
    simpa [Value.Fits, agree.gives_iff, agree.givesOr_iff] using h
  | list P => cases h

end ClientGen
