import ClientGen.Proofs.Program.Focus

/-!
# What is not known is tolerated

A program that is read stays readable when what writes it knows more than its reader. An object
with the tag of no type may stand wherever a type stands, and is read as the unknown type in
that place. Any object within the document may have more keys than the part that is read out of
it knows. There is one exception: a kind may be written as an object with the name of the kind
as its only key, and such an object does not admit another key.
-/

namespace ClientGen

/-! ### Foreign types -/

/-- The tags of the types that are known. -/
def TypeNode.knownTags : List String :=
  Primitive.all.map Primitive.tag ++ compoundTags

/-- An object has the tag of no type that is known, whatever else it has. -/
def Foreign (fields : List (String × Value)) : Prop :=
  ∃ tag, fields.lookup tagKey = some (.string tag) ∧ tag ∉ TypeNode.knownTags

theorem TypeNode.ofValue_foreign {fields : List (String × Value)} (h : Foreign fields) :
  TypeNode.ofValue .setAside (.object fields) = .ok .unknown
  := by
  obtain ⟨tag, htag, hknown⟩ := h
  rw [knownTags, List.mem_append, not_or] at hknown
  have hprimitive : Primitive.ofTag? tag = none := by
    apply List.find?_eq_none.mpr
    intro p hp hptag
    apply hknown.1
    exact List.mem_map.mpr ⟨p, hp, of_decide_eq_true hptag⟩
  have hread : (Value.object fields).tagOf? .setAside TypeNode.tags = some tag := by
    rw [Value.tagOf?, Value.slot?, htag]
    rfl
  apply (ofValue_unknown_eq_ok_iff hread hprimitive hknown.2).mpr
  exact ⟨trivial, rfl⟩

/-! ### Programs -/

namespace Program

variable {v : Value} {p : Program}

/-- A document has a body. -/
def Bodied (v : Value) : Prop :=
  ∃ fields, v = .object fields ∧ (fields.lookup "body").isSome

/-- A document has a body still when a value within it is set to another one. -/
theorem Bodied.set (h : Bodied v) {Q : Part} (path : Path .program Q) {u : Value}
    (hu : path.focus.find? v = some u) {w : Value} (hw : Q = .program → Bodied u → Bodied w) :
  Bodied (path.focus.set v w)
  := by
  -- A path that does not end at once leads through the body, which keeps its key.
  cases path with
  | here =>
    obtain rfl := Option.some.inj hu
    exact hw rfl h
  | slot s rest =>
    cases s with
    | body =>
      obtain ⟨fields, rfl, hbody⟩ := h
      obtain ⟨body, hfound, -⟩ := Option.bind_eq_some_iff.mp hu
      simp only [Path.focus, Focus.comp, hfound]
      refine ⟨_, rfl, ?_⟩
      rw [Value.lookup_map_set, Option.isSome_map]
      exact hbody

/-- What is found along a path is read as what stands there, and what is read of another value
stands there once that value has been set. -/
theorem exists_split_of_ofValue (h : Program.ofValue v = .ok p) {Q : Part} (path : Path .program Q)
    {u : Value} (hu : path.focus.find? v = some u) :
  ∃ y around, path.focus.split? p = some (y, around) ∧ around y = p ∧ Q.read u = .ok y
    ∧ ∀ w z, Q.read w = .ok z → (Q = .program → Bodied u → Bodied w) →
      Program.ofValue (path.focus.set v w) = .ok (around z)
  := by
  obtain ⟨hbody, hp⟩ := ofValue_eq_ok_iff.mp h
  obtain ⟨y, around, hsplit, hself, hread, hset⟩ := path.lawful_focus hp hu
  refine ⟨y, around, hsplit, hself, hread, ?_⟩
  intro w z hz hw
  apply ofValue_eq_ok_iff.mpr
  exact ⟨Bodied.set hbody path hu hw, hset w z hz⟩

/-- A document with one method, of which the kind and the result are given. -/
def pinger (kind returnType : Value) : Value :=
  .object [("body", .array [.object [
    ("methods", .array [.object [
      ("kind", kind), ("name", .string "ping"), ("returnType", returnType)]]),
    ("name", .string "Pinger"), ("type", .string "ClassDefinition")]])]

/-- The program that such a document writes. -/
def pinging (kind : MethodKind) (returnType : TypeNode) : Program :=
  { body := [.remoteClass { name := "Pinger", methods := [{ name := "ping", kind, returnType }] }] }

theorem ofValue_pinger {kind returnType : Value} {k : MethodKind} {t : TypeNode}
    (hkind : MethodKind.ofValue .setAside kind = .ok k)
    (hreturn : TypeNode.ofValue .setAside returnType = .ok t) :
  Program.ofValue (pinger kind returnType) = .ok (pinging k t)
  := by
  apply ofValue_eq_ok_iff.mpr
  refine ⟨⟨_, rfl, rfl⟩, ofRecord_eq_ok_iff.mpr ⟨trivial, rfl, rfl, ?_⟩⟩
  apply mapM_eq_ok_iff.mpr
  refine .cons ?_ .nil
  apply (BodyItem.ofValue_class_eq_ok_iff rfl).mpr
  refine ⟨trivial, { name := "Pinger", methods := [_] }, rfl, ?_, rfl, rfl⟩
  apply mapM_eq_ok_iff.mpr
  refine .cons ?_ .nil
  apply Method.ofValue_eq_ok_iff.mpr
  exact ⟨trivial, rfl, rfl, hkind, rfl, rfl, congrArg some hreturn⟩

/-- The path to the method. -/
def pingerMethod : Path .program .method :=
  .slot .body (.item 0 (.slot .methods (.item 0 .here)))

/-- The path to the result. -/
def pingerReturn : Path .program (.node .type) :=
  .slot .body (.item 0 (.slot .methods (.item 0 (.slot .returnType .here))))

/-- The path to the type of the items of the result. -/
def pingerElement : Path .program (.node .type) :=
  .slot .body (.item 0 (.slot .methods (.item 0 (.slot .returnType (.slot .element .here)))))

/-- What is not known is tolerated. A foreign object in the place of a type is read as the
unknown type amid the rest of the program. An object may have other keys than those that the part
known, and anything under them, which does not change the program. -/
theorem ofValue_tolerates (h : Program.ofValue v = .ok p) :
  (∀ (path : Path .program (.node .type)) (u : Value), path.focus.find? v = some u →
      ∃ t around, path.focus.split? p = some (t, around) ∧ around t = p
        ∧ TypeNode.ofValue .setAside u = .ok t
        ∧ ∀ fields, Foreign fields →
          Program.ofValue (path.focus.set v (.object fields)) = .ok (around .unknown))
    ∧ ∀ (Q : Part) (path : Path .program Q) (fields fields' : List (String × Value)),
      path.focus.find? v = some (.object fields) →
      AgreeOn (Q.keys (Q.tag? (.object fields))) fields fields' →
      Program.ofValue (path.focus.set v (.object fields')) = .ok p
  := by
  constructor
  · intro path u hu
    obtain ⟨t, around, hsplit, hself, hread, hset⟩ := exists_split_of_ofValue h path hu
    refine ⟨t, around, hsplit, hself, hread, ?_⟩
    intro fields hforeign
    apply hset _ _ (TypeNode.ofValue_foreign hforeign)
    rintro ⟨⟩
  · intro Q path fields fields' hu agree
    obtain ⟨y, around, -, rfl, hread, hset⟩ := exists_split_of_ofValue h path hu
    apply hset _ _ (Part.read_object_of_agreeOn hread agree)
    rintro rfl ⟨_, hfields, hbody⟩
    obtain rfl := Value.object.inj hfields
    refine ⟨fields', rfl, ?_⟩
    rw [agree "body" (by simp [Part.keys])]
    exact hbody

theorem ofValue_tolerates_pinger :
  Program.ofValue (pinger (.string "method") (.object [
      ("element", .object [("type", .string "DateType")]), ("type", .string "ArrayType")]))
    = .ok (pinging .method (.array (.primitive .date)))
  ∧ Program.ofValue (pinger (.string "method") (.object [
      ("element", .object [("items", .array []), ("type", .string "TupleType")]),
      ("type", .string "ArrayType")]))
    = .ok (pinging .method (.array .unknown))
  ∧ Program.ofValue (pinger (.string "method") (.object [
      ("element", .object [("type", .string "DateType")]), ("homePath", .string "days.ts"),
      ("type", .string "ArrayType")]))
    = .ok (pinging .method (.array (.primitive .date)))
  := by
  have hkind : MethodKind.ofValue .setAside (.string "method") = .ok .method := rfl
  have hdate : TypeNode.ofValue .setAside (.object [("type", .string "DateType")])
      = .ok (.primitive .date) :=
    (TypeNode.ofValue_primitive_eq_ok_iff rfl).mpr ⟨trivial, rfl⟩
  have hdates : TypeNode.ofValue .setAside (.object [
      ("element", .object [("type", .string "DateType")]), ("type", .string "ArrayType")])
      = .ok (.array (.primitive .date)) :=
    (TypeNode.ofValue_array_eq_ok_iff rfl).mpr ⟨trivial, _, congrArg some hdate, rfl⟩
  have h := ofValue_pinger hkind hdates
  obtain ⟨hforeign, hkeys⟩ := ofValue_tolerates h
  refine ⟨h, ?_, ?_⟩
  · obtain ⟨t, around, hsplit, -, -, hset⟩ := hforeign pingerElement _ rfl
    obtain ⟨rfl, rfl⟩ := Prod.mk.inj (Option.some.inj hsplit)
    apply hset
    exact ⟨"TupleType", rfl, by decide⟩
  · apply hkeys _ pingerReturn _ _ rfl
    intro key hkey
    have hkey : key ∈ [tagKey, "element"] := hkey
    rcases List.mem_pair.mp hkey with rfl | rfl
    · rfl
    · rfl

/-- The kind of a method may be written as an object with its name as the only key. With
another key it is not read. -/
theorem not_tolerates_kind :
  Program.ofValue (pinger (.object [("method", .null)]) (.object [("type", .string "VoidLiteral")]))
    = .ok (pinging .method (.primitive .void))
  ∧ ∀ p, Program.ofValue (pinger (.object [("method", .null), ("x", .integer 1)])
      (.object [("type", .string "VoidLiteral")])) ≠ .ok p
  := by
  have hvoid : TypeNode.ofValue .setAside (.object [("type", .string "VoidLiteral")])
      = .ok (.primitive .void) :=
    (TypeNode.ofValue_primitive_eq_ok_iff rfl).mpr ⟨trivial, rfl⟩
  constructor
  · apply ofValue_pinger rfl hvoid
  · intro p h
    obtain ⟨m, -, -, -, hmethod, -⟩ := exists_split_of_ofValue h pingerMethod rfl
    obtain ⟨-, -, -, hkind, -⟩ := Method.ofValue_eq_ok_iff.mp hmethod
    cases hkind

end Program

end ClientGen
