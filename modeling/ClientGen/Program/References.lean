import ClientGen.Program.Model
import ClientGen.Text.Identifier

/-!
# References between declarations

A type refers to declarations by name: where a declaration stands in its place, and by
the identifiers of a raw type. The definition of a declaration that stands in the place
of a type belongs to that declaration and is not looked into.
-/

namespace ClientGen

namespace TypeNode

mutual

/-- All names that a type refers to, in their order. -/
def mentions : TypeNode → List String
  | .array element => mentions element
  | .map key value => mentions key ++ mentions value
  | .promise result => mentions result
  | .union variants => variantMentions variants
  | .object properties => propertyMentions properties
  | .declared d => [d.name]
  | .custom text => Text.identifiers text
  | .primitive _ | .unknown => []

/-- All names that variants refer to. -/
def variantMentions : List TypeNode → List String
  | [] => []
  | variant :: variants => mentions variant ++ variantMentions variants

/-- All names that the types of properties refer to. -/
def propertyMentions : List (Property TypeNode) → List String
  | [] => []
  | ⟨_, _, type⟩ :: properties => mentions type ++ propertyMentions properties

end

/-- The names that a type refers to, each once, in the order of first occurrence. -/
def referencedNames (t : TypeNode) : List String :=
  (mentions t).eraseDups

mutual

/-- Whether a type of a kind that is not known occurs in a type. -/
def containsUnknown : TypeNode → Bool
  | .unknown => true
  | .array element => containsUnknown element
  | .map key value => containsUnknown key || containsUnknown value
  | .promise result => containsUnknown result
  | .union variants => anyUnknown variants
  | .object properties => anyPropertyUnknown properties
  | .primitive _ | .declared _ | .custom _ => false

/-- Whether a type that is not known occurs in one of the variants. -/
def anyUnknown : List TypeNode → Bool
  | [] => false
  | variant :: variants => containsUnknown variant || anyUnknown variants

/-- Whether a type that is not known occurs in one of the properties. -/
def anyPropertyUnknown : List (Property TypeNode) → Bool
  | [] => false
  | ⟨_, _, type⟩ :: properties => containsUnknown type || anyPropertyUnknown properties

end

end TypeNode

/-- New names for declarations: pairs of a name and its new spelling. -/
abbrev Renames := List (String × String)

/-- The spelling of a name. -/
def Renames.apply (renames : Renames) (name : String) : String :=
  (renames.lookup name).getD name

/-- A declaration under another name. -/
def DeclarationOf.withName {τ : Type} (newName : String) :
    DeclarationOf τ → DeclarationOf τ
  | .struct _ properties home => .struct newName properties home
  | .typeAlias _ target home => .typeAlias newName target home
  | .enumeration _ cases home => .enumeration newName cases home

namespace TypeNode

mutual

/-- A type with the names it refers to respelled. -/
def rename (renames : Renames) : TypeNode → TypeNode
  | .array element => .array (rename renames element)
  | .map key value => .map (rename renames key) (rename renames value)
  | .promise result => .promise (rename renames result)
  | .union variants => .union (renameVariants renames variants)
  | .object properties => .object (renameProperties renames properties)
  | .declared d => .declared (d.withName (renames.apply d.name))
  | .custom text => .custom (Text.mapIdentifiers renames.apply text)
  | .primitive p => .primitive p
  | .unknown => .unknown

/-- Variants with the names they refer to respelled. -/
def renameVariants (renames : Renames) : List TypeNode → List TypeNode
  | [] => []
  | variant :: variants => rename renames variant :: renameVariants renames variants

/-- Properties with the names that their types refer to respelled. -/
def renameProperties (renames : Renames) :
    List (Property TypeNode) → List (Property TypeNode)
  | [] => []
  | ⟨name, isOptional, type⟩ :: properties =>
    ⟨name, isOptional, rename renames type⟩ :: renameProperties renames properties

end

end TypeNode

@[simp]
theorem DeclarationOf.name_withName {τ : Type} (newName : String) (d : DeclarationOf τ) :
  (d.withName newName).name = newName
  := by cases d <;> rfl

end ClientGen
