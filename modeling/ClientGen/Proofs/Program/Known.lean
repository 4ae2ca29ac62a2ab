import ClientGen.File.Method
import ClientGen.Resolution.Scope

/-!
# Unknown types as the permissive type

A type that is not known may be replaced by the most permissive type, at any depth of types
and declarations. Nothing that is spelled, and no reference between declarations, tells the
two apart.
-/

namespace ClientGen

/-! ### Types -/

mutual

/-- A type with the most permissive type in place of all types that are not known. -/
def TypeNode.known : TypeNode → TypeNode
  | .primitive p => .primitive p
  | .array element => .array element.known
  | .map key value => .map key.known value.known
  | .promise result => .promise result.known
  | .union variants => .union (knownVariants variants)
  | .object properties => .object (knownProperties properties)
  | .declared d => .declared (knownDeclaration d)
  | .custom text => .custom text
  | .unknown => .primitive .any

/-- Variants with the most permissive type in place of types that are not known. -/
def knownVariants : List TypeNode → List TypeNode
  | [] => []
  | variant :: variants => variant.known :: knownVariants variants

/-- Properties with the most permissive type in place of types that are not known. -/
def knownProperties : List (Property TypeNode) → List (Property TypeNode)
  | [] => []
  | ⟨name, isOptional, type⟩ :: properties =>
    ⟨name, isOptional, type.known⟩ :: knownProperties properties

/-- A declaration with the most permissive type in place of types that are not known. -/
def knownDeclaration : Declaration → Declaration
  | .struct name properties home => .struct name (knownProperties properties) home
  | .typeAlias name target home => .typeAlias name target.known home
  | .enumeration name cases home => .enumeration name cases home

end

theorem knownProperties_eq_map (properties : List (Property TypeNode)) :
  knownProperties properties = properties.map fun p => { p with type := p.type.known }
  := by
  induction properties with
  | nil => rw [knownProperties, List.map_nil]
  | cons p properties ih => rw [knownProperties, List.map_cons, ih]

namespace TypeNode

@[simp]
theorem isNothing_known (t : TypeNode) :
  t.known.isNothing = t.isNothing
  := by cases t <;> simp [known, isNothing]

@[simp]
theorem isNull_known (t : TypeNode) :
  t.known.isNull = t.isNull
  := by cases t <;> simp [known, isNull]

@[simp]
theorem isVoid_known (t : TypeNode) :
  t.known.isVoid = t.isVoid
  := by cases t <;> simp [known, isVoid]

theorem awaited_known (t : TypeNode) :
  t.known.awaited = t.awaited.known
  := by cases t <;> simp [known, awaited]

end TypeNode

@[simp]
theorem name_knownDeclaration (d : Declaration) :
  (knownDeclaration d).name = d.name
  := by cases d <;> rfl

@[simp]
theorem home?_knownDeclaration (d : Declaration) :
  (knownDeclaration d).home? = d.home?
  := by cases d <;> rfl

theorem innerTypes_knownDeclaration (d : Declaration) :
  (knownDeclaration d).innerTypes = d.innerTypes.map TypeNode.known
  := by
  cases d with
  | struct name properties home =>
    simp [knownDeclaration, DeclarationOf.innerTypes, knownProperties_eq_map]
  | typeAlias => rfl
  | enumeration => rfl

/-! ### Texts -/

namespace TypeNode

mutual

theorem typescript_known :
  ∀ t : TypeNode, t.known.typescript = t.typescript
  | .primitive p => rfl
  | .array element => by
      rw [known, typescript, typescript, typescript_known element]
  | .map key value => by
      rw [known, typescript, typescript, typescript_known key, typescript_known value]
  | .promise result => by
      rw [known, typescript, typescript, typescript_known result]
  | .union [] => rfl
  | .union (variant :: variants) => by
      have ih := typescriptVariants_known (variant :: variants)
      rw [knownVariants] at ih
      rw [known, knownVariants, typescript, typescript, ih]
      · rintro ⟨⟩
      · rintro ⟨⟩
  | .object properties => by
      rw [known, typescript, typescript, typescriptProperties_known properties]
  | .declared d => by
      rw [known, typescript, typescript, name_knownDeclaration]
  | .custom text => rfl
  | .unknown => rfl

theorem typescriptVariants_known :
  ∀ variants : List TypeNode,
    typescriptVariants (knownVariants variants) = typescriptVariants variants
  | [] => rfl
  | variant :: variants => by
      rw [knownVariants, typescriptVariants, typescriptVariants, typescript_known variant,
        typescriptVariants_known variants]

theorem typescriptProperties_known :
  ∀ properties : List (Property TypeNode),
    typescriptProperties (knownProperties properties) = typescriptProperties properties
  | [] => rfl
  | ⟨name, isOptional, type⟩ :: properties => by
      rw [knownProperties, typescriptProperties, typescriptProperties, typescript_known type,
        typescriptProperties_known properties]

end

/-- A test that does not tell types from their replacements does not tell variants from
theirs. -/
theorem any_knownVariants {test : TypeNode → Bool} (htest : ∀ t, test t.known = test t)
    (variants : List TypeNode) :
  (knownVariants variants).any test = variants.any test
  := by
  induction variants with
  | nil => rfl
  | cons variant variants ih =>
    rw [knownVariants, List.any_cons, List.any_cons, htest, ih]

mutual

theorem python_known :
  ∀ t : TypeNode, t.known.python = t.python
  | .primitive p => rfl
  | .array element => by
      rw [known, python, python, python_known element]
  | .map key value => by
      rw [known, python, python, python_known key, python_known value]
  | .promise result => by
      rw [known, python, python, python_known result]
  | .union [] => rfl
  | .union (variant :: variants) => by
      have ih := pythonVariants_known (variant :: variants)
      have hnothing := any_knownVariants isNothing_known (variant :: variants)
      rw [knownVariants] at ih hnothing
      rw [known, knownVariants, python, python, ih, hnothing]
      · rintro ⟨⟩
      · rintro ⟨⟩
  | .object properties => by
      rw [known, python, python]
  | .declared d => by
      rw [known, python, python, name_knownDeclaration]
  | .custom text => rfl
  | .unknown => rfl

theorem pythonVariants_known :
  ∀ variants : List TypeNode,
    pythonVariants (knownVariants variants) = pythonVariants variants
  | [] => rfl
  | variant :: variants => by
      rw [knownVariants, pythonVariants, pythonVariants, isNothing_known,
        python_known variant, pythonVariants_known variants]

end

mutual

theorem dart_known :
  ∀ t : TypeNode, t.known.dart = t.dart
  | .primitive p => rfl
  | .array element => by
      rw [known, dart, dart, dart_known element]
  | .map key value => by
      rw [known, dart, dart, dart_known key, dart_known value]
  | .promise result => by
      rw [known, dart, dart, dart_known result]
  | .union variants => by
      rw [known, dart, dart, any_knownVariants isNull_known, dartVariants_known variants]
  | .object properties => by
      rw [known, dart, dart]
  | .declared d => by
      rw [known, dart, dart, name_knownDeclaration]
  | .custom text => rfl
  | .unknown => rfl

theorem dartVariants_known :
  ∀ variants : List TypeNode, dartVariants (knownVariants variants) = dartVariants variants
  | [] => rfl
  | variant :: variants => by
      rw [knownVariants, dartVariants, dartVariants, isNull_known, dart_known variant,
        dartVariants_known variants]

end

end TypeNode

@[simp]
theorem typeText_known (lang : Language) (t : TypeNode) :
  lang.typeText t.known = lang.typeText t
  := by
  cases lang with
  | typescript => apply t.typescript_known
  | python => apply t.python_known
  | dart => apply t.dart_known

@[simp]
theorem returnTypeText_known (lang : Language) (t : TypeNode) :
  lang.returnTypeText t.known = lang.returnTypeText t
  := by
  cases lang with
  | typescript =>
    dsimp only [Language.returnTypeText]
    rw [t.awaited_known]
    apply (TypeNode.promise t.awaited).typescript_known
  | python =>
    dsimp only [Language.returnTypeText]
    rw [t.awaited_known]
    apply t.awaited.python_known
  | dart =>
    dsimp only [Language.returnTypeText]
    rw [t.awaited_known]
    apply (TypeNode.promise t.awaited).dart_known

/-! ### References -/

namespace TypeNode

mutual

@[simp]
theorem mentions_known :
  ∀ t : TypeNode, mentions t.known = mentions t
  | .primitive p => rfl
  | .array element => by
      rw [known, mentions, mentions, mentions_known element]
  | .map key value => by
      rw [known, mentions, mentions, mentions_known key, mentions_known value]
  | .promise result => by
      rw [known, mentions, mentions, mentions_known result]
  | .union variants => by
      rw [known, mentions, mentions, variantMentions_known variants]
  | .object properties => by
      rw [known, mentions, mentions, propertyMentions_known properties]
  | .declared d => by
      rw [known, mentions, mentions, name_knownDeclaration]
  | .custom text => rfl
  | .unknown => rfl

theorem variantMentions_known :
  ∀ variants : List TypeNode,
    variantMentions (knownVariants variants) = variantMentions variants
  | [] => rfl
  | variant :: variants => by
      rw [knownVariants, variantMentions, variantMentions, mentions_known variant,
        variantMentions_known variants]

theorem propertyMentions_known :
  ∀ properties : List (Property TypeNode),
    propertyMentions (knownProperties properties) = propertyMentions properties
  | [] => rfl
  | ⟨name, isOptional, type⟩ :: properties => by
      rw [knownProperties, propertyMentions, propertyMentions, mentions_known type,
        propertyMentions_known properties]

end

mutual

@[simp]
theorem containsUnknown_known :
  ∀ t : TypeNode, containsUnknown t.known = false
  | .primitive p => rfl
  | .array element => by
      rw [known, containsUnknown, containsUnknown_known element]
  | .map key value => by
      rw [known, containsUnknown, containsUnknown_known key, containsUnknown_known value]
      rfl
  | .promise result => by
      rw [known, containsUnknown, containsUnknown_known result]
  | .union variants => by
      rw [known, containsUnknown, anyUnknown_known variants]
  | .object properties => by
      rw [known, containsUnknown, anyPropertyUnknown_known properties]
  | .declared d => rfl
  | .custom text => rfl
  | .unknown => rfl

theorem anyUnknown_known :
  ∀ variants : List TypeNode, anyUnknown (knownVariants variants) = false
  | [] => rfl
  | variant :: variants => by
      rw [knownVariants, anyUnknown, containsUnknown_known variant, anyUnknown_known variants]
      rfl

theorem anyPropertyUnknown_known :
  ∀ properties : List (Property TypeNode),
    anyPropertyUnknown (knownProperties properties) = false
  | [] => rfl
  | ⟨name, isOptional, type⟩ :: properties => by
      rw [knownProperties, anyPropertyUnknown, containsUnknown_known type,
        anyPropertyUnknown_known properties]
      rfl

end

theorem known_withName (newName : String) (d : Declaration) :
  (knownDeclaration d).withName newName = knownDeclaration (d.withName newName)
  := by cases d <;> rfl

mutual

theorem rename_known (renames : Renames) :
  ∀ t : TypeNode, t.known.rename renames = (t.rename renames).known
  | .primitive p => rfl
  | .array element => by
      rw [known, rename, rename, known, rename_known renames element]
  | .map key value => by
      rw [known, rename, rename, known, rename_known renames key, rename_known renames value]
  | .promise result => by
      rw [known, rename, rename, known, rename_known renames result]
  | .union variants => by
      rw [known, rename, rename, known, renameVariants_known renames variants]
  | .object properties => by
      rw [known, rename, rename, known, renameProperties_known renames properties]
  | .declared d => by
      rw [known, rename, rename, known, name_knownDeclaration, known_withName]
  | .custom text => rfl
  | .unknown => rfl

theorem renameVariants_known (renames : Renames) :
  ∀ variants : List TypeNode,
    renameVariants renames (knownVariants variants)
      = knownVariants (renameVariants renames variants)
  | [] => rfl
  | variant :: variants => by
      rw [knownVariants, renameVariants, renameVariants, knownVariants,
        rename_known renames variant, renameVariants_known renames variants]

theorem renameProperties_known (renames : Renames) :
  ∀ properties : List (Property TypeNode),
    renameProperties renames (knownProperties properties)
      = knownProperties (renameProperties renames properties)
  | [] => rfl
  | ⟨name, isOptional, type⟩ :: properties => by
      rw [knownProperties, renameProperties, renameProperties, knownProperties,
        rename_known renames type, renameProperties_known renames properties]

end

end TypeNode

/-! ### Declarations and methods -/

theorem containsUnknown_knownDeclaration (d : Declaration) :
  (knownDeclaration d).containsUnknown = false
  := by
  rw [DeclarationOf.containsUnknown, innerTypes_knownDeclaration, List.any_map]
  simp

@[simp]
theorem renamedText_known (lang : Language) (renames : Renames) (t : TypeNode) :
  lang.renamedText renames t.known = lang.renamedText renames t
  := by rw [Language.renamedText, TypeNode.rename_known, typeText_known, Language.renamedText]

theorem mapLast_map {α β γ : Type} (f : β → Bool → γ) (g : α → β) (items : List α) :
  mapLast f (items.map g) = mapLast (fun a => f (g a)) items
  := by
  fun_induction mapLast (fun a => f (g a)) items with
  | case1 => rfl
  | case2 => rfl
  | case3 a b rest ih => simpa [mapLast] using ih

@[simp]
theorem spellDeclaration_known (lang : Language) (renames : Renames) (d : Declaration) :
  lang.spellDeclaration renames (knownDeclaration d) = lang.spellDeclaration renames d
  := by
  cases d with
  | struct name properties home =>
    rw [knownDeclaration, knownProperties_eq_map, Language.spellDeclaration, mapLast_map,
      Language.spellDeclaration]
    congr 2
    funext p isLast
    simp [Language.spellField]
  | typeAlias name target home =>
    rw [knownDeclaration, Language.spellDeclaration, renamedText_known,
      Language.spellDeclaration]
  | enumeration => rfl

/-- A parameter with the most permissive type in place of types that are not known. -/
def Parameter.known (p : Parameter) : Parameter :=
  { p with type := p.type.known }

/-- A method with the most permissive type in place of types that are not known. -/
def Method.known (m : Method) : Method :=
  { m with parameters := m.parameters.map Parameter.known, returnType := m.returnType.known }

theorem Method.containsUnknown_known (m : Method) :
  m.known.containsUnknown = false
  := by simp [Method.containsUnknown, Method.known, Parameter.known]

theorem Method.signatureTypes_known (m : Method) :
  m.known.signatureTypes = m.signatureTypes.map TypeNode.known
  := by simp [Method.signatureTypes, Method.known, Parameter.known]

section

variable (lang : Language) (renames : Renames)

theorem requiredPart_known (parameters : List Parameter) :
  requiredPart (parameters.map Parameter.known)
    = (requiredPart parameters).map Parameter.known
  := by
  have homittable : Parameter.isOmittable ∘ Parameter.known = Parameter.isOmittable := rfl
  rw [requiredPart, requiredPart, ← List.map_reverse, List.dropWhile_map, homittable,
    List.map_reverse]

theorem omittablePart_known (parameters : List Parameter) :
  omittablePart (parameters.map Parameter.known)
    = (omittablePart parameters).map Parameter.known
  := by
  have homittable : Parameter.isOmittable ∘ Parameter.known = Parameter.isOmittable := rfl
  rw [omittablePart, omittablePart, ← List.map_reverse, List.takeWhile_map, homittable,
    List.map_reverse]

theorem spellRun_known (parameters : List Parameter) :
  lang.spellRun renames (parameters.map Parameter.known) = lang.spellRun renames parameters
  := by
  cases parameters with
  | nil => rfl
  | cons p parameters =>
    simp [Language.spellRun, Language.spellOmittable, Parameter.known]

theorem spellParameters_known (parameters : List Parameter) :
  lang.spellParameters renames (parameters.map Parameter.known)
    = lang.spellParameters renames parameters
  := by
  have hrequired : lang.spellRequired renames ∘ Parameter.known
      = lang.spellRequired renames := by
    funext p
    simp [Language.spellRequired, Parameter.known]
  rw [Language.spellParameters, requiredPart_known, omittablePart_known, spellRun_known,
    List.map_map, hrequired, Language.spellParameters]

theorem spellMethod_known (className : String) (m : Method) :
  lang.spellMethod renames className m.known = lang.spellMethod renames className m
  := by
  simp [Language.spellMethod, Method.known, spellParameters_known, omittablePart_known,
    TypeNode.rename_known, TypeNode.awaited_known, mapLast_map, Parameter.known]

end

/-! ### Programs -/

/-- A class with the most permissive type in place of types that are not known. -/
def RemoteClass.known (c : RemoteClass) : RemoteClass :=
  { c with methods := c.methods.map Method.known }

/-- An item with the most permissive type in place of types that are not known. -/
def BodyItem.known : BodyItem → BodyItem
  | .remoteClass c => .remoteClass c.known
  | .declaration d => .declaration (knownDeclaration d)
  | .unknown => .unknown

namespace Program

/-- A program with the most permissive type in place of all types that are not known. -/
def known (p : Program) : Program :=
  { p with body := p.body.map BodyItem.known }

theorem classes_known (p : Program) :
  p.known.classes = p.classes.map RemoteClass.known
  := by
  rw [classes, classes, known, List.filterMap_map, List.map_filterMap]
  congr 1
  funext item
  cases item <;> rfl

theorem declarations_known (p : Program) :
  p.known.declarations = p.declarations.map knownDeclaration
  := by
  rw [declarations, declarations, known, List.filterMap_map, List.map_filterMap]
  congr 1
  funext item
  cases item <;> rfl

theorem declaration?_known (p : Program) (name : String) :
  p.known.declaration? name = (p.declaration? name).map knownDeclaration
  := by
  rw [declaration?, declarations_known, List.find?_map, declaration?]
  simp only [Function.comp_def, name_knownDeclaration]

theorem map_name_declarations_known (p : Program) :
  p.known.declarations.map DeclarationOf.name = p.declarations.map DeclarationOf.name
  := by simp [declarations_known]

theorem namedBy_known (p : Program) (types : List TypeNode) :
  p.known.namedBy (types.map TypeNode.known) = p.namedBy types
  := by simp [namedBy, List.flatMap_map, declaration?_known]

theorem nextNames_known (p : Program) :
  p.known.nextNames = p.nextNames
  := by
  funext name
  rw [nextNames, nextNames, declaration?_known]
  cases p.declaration? name with
  | none => rfl
  | some d =>
    dsimp only [Option.map_some]
    rw [innerTypes_knownDeclaration, namedBy_known]

theorem directNames_known (p : Program) (methods : List Method) :
  p.known.directNames (methods.map Method.known) = p.directNames methods
  := by
  have htypes : (methods.map Method.known).flatMap Method.signatureTypes
      = (methods.flatMap Method.signatureTypes).map TypeNode.known := by
    rw [List.flatMap_map, List.map_flatMap]
    congr 1
    funext m
    apply m.signatureTypes_known
  rw [directNames, htypes, namedBy_known, directNames]

theorem needed_known (p : Program) (methods : List Method) :
  p.known.needed (methods.map Method.known) = (p.needed methods).map knownDeclaration
  := by
  have hneeded : p.known.neededNames (methods.map Method.known) = p.neededNames methods := by
    rw [neededNames, neededNames, nextNames_known, directNames_known, declaredNames,
      declaredNames, map_name_declarations_known]
  rw [needed, needed, hneeded, List.map_filterMap]
  congr 1
  funext name
  apply p.declaration?_known

end Program

end ClientGen
