import ClientGen.Proofs.Resolution.Fresh
import ClientGen.Proofs.Text.Pieces
import Mathlib.Data.List.Induction

/-!
# Types under other names

A type with its names respelled refers to the respelled names, in the order of the names that
it referred to, if the new names are identifiers: within a raw type they are then read as the
identifiers that they replace were. Where new names do not collide with each other or with
names of the type, the old names can be put back.
-/

namespace ClientGen

/-! ### Names without duplicates -/

section

variable {α β : Type} [DecidableEq α] [DecidableEq β]

theorem eraseDups_concat (items : List α) (item : α) :
  (items ++ [item]).eraseDups
    = if item ∈ items then items.eraseDups else items.eraseDups ++ [item]
  := by
  rw [List.eraseDups_append]
  split
  case isTrue h => simp [List.removeAll, h]
  case isFalse h => simp [List.removeAll, h, List.eraseDups_cons]

/-- Duplicates may be left out before a function is applied, too. -/
theorem eraseDups_map_eraseDups (f : α → β) (items : List α) :
  (items.eraseDups.map f).eraseDups = (items.map f).eraseDups
  := by
  induction items using List.reverseRecOn with
  | nil => rfl
  | append_singleton items item ih =>
    rw [List.map_append, List.map_singleton, eraseDups_concat, eraseDups_concat, ← ih]
    split
    case isTrue h => rw [if_pos (List.mem_map_of_mem h)]
    case isFalse =>
      rw [List.map_append, List.map_singleton, eraseDups_concat]
      simp only [List.mem_map, List.mem_eraseDups]

end

/-! ### New names -/

namespace Renames

/-- New names for which the old ones are put back. -/
def inverse (renames : Renames) : Renames :=
  renames.map Prod.swap

/-- Whether different names get different new names. -/
def Injective (renames : Renames) : Prop :=
  ∀ p ∈ renames, ∀ q ∈ renames, p.2 = q.2 → p.1 = q.1

/-- Whether the new names are identifiers. -/
def IntoIdentifiers (renames : Renames) : Prop :=
  ∀ pair ∈ renames, Text.isIdentifier pair.2.toList

instance (renames : Renames) : Decidable renames.Injective :=
  inferInstanceAs (Decidable (∀ p ∈ renames, ∀ q ∈ renames, p.2 = q.2 → p.1 = q.1))

instance (renames : Renames) : Decidable renames.IntoIdentifiers :=
  inferInstanceAs (Decidable (∀ pair ∈ renames, Text.isIdentifier pair.2.toList))

variable {renames : Renames}

/-- Identifiers are spelled by identifiers if the new names are identifiers. -/
theorem IntoIdentifiers.isIdentifier_apply (h : renames.IntoIdentifiers)
    (name : String) (hname : Text.isIdentifier name.toList) :
  Text.isIdentifier (renames.apply name).toList
  := by
  rcases Fresh.mem_or_apply_eq renames name with hpair | ⟨-, heq⟩
  · apply h _ hpair
  · rwa [heq]

/-- A name that is not a new one is put back. -/
theorem apply_inverse_apply (h : renames.Injective) {name : String}
    (hfree : ∀ pair ∈ renames, pair.2 ≠ name) :
  renames.inverse.apply (renames.apply name) = name
  := by
  have hinverse : ∀ old new, (new, old) ∈ renames.inverse → (old, new) ∈ renames := by
    intro old new hmem
    obtain ⟨⟨_, _⟩, hpair, heq⟩ := List.mem_map.mp hmem
    obtain ⟨rfl, rfl⟩ := Prod.mk.inj heq
    apply hpair
  rcases Fresh.mem_or_apply_eq renames.inverse (renames.apply name) with hback | ⟨hkey, heq⟩
  · rcases Fresh.mem_or_apply_eq renames name with hpair | ⟨-, heq⟩
    · apply h _ (hinverse _ _ hback) _ hpair rfl
    · rw [heq] at hback
      apply absurd rfl (hfree _ (hinverse _ _ hback))
  · rcases Fresh.mem_or_apply_eq renames name with hpair | ⟨-, heq'⟩
    · apply absurd _ hkey
      rw [inverse, List.map_map]
      apply List.mem_map_of_mem hpair
    · rw [heq, heq']

end Renames

/-! ### Types under new names -/

theorem DeclarationOf.withName_withName_name {τ : Type} (d : DeclarationOf τ)
    (newName : String) :
  (d.withName newName).withName d.name = d
  := by cases d <;> rfl

namespace TypeNode

mutual

/-- A type refers to the new names in the order of the old ones. -/
theorem mentions_rename {renames : Renames} (h : renames.IntoIdentifiers) :
  ∀ t : TypeNode, mentions (rename renames t) = (mentions t).map renames.apply
  | .primitive _ => rfl
  | .array element => by
      rw [rename, mentions, mentions, mentions_rename h element]
  | .map key value => by
      rw [rename, mentions, mentions, mentions_rename h key, mentions_rename h value,
        List.map_append]
  | .promise result => by
      rw [rename, mentions, mentions, mentions_rename h result]
  | .union variants => by
      rw [rename, mentions, mentions, variantMentions_rename h variants]
  | .object properties => by
      rw [rename, mentions, mentions, propertyMentions_rename h properties]
  | .declared d => by
      rw [rename, mentions, mentions, DeclarationOf.name_withName, List.map_singleton]
  | .custom text => by
      rw [rename, mentions, mentions,
        Text.identifiers_mapIdentifiers (h.isIdentifier_apply)]
  | .unknown => rfl

theorem variantMentions_rename {renames : Renames} (h : renames.IntoIdentifiers) :
  ∀ variants : List TypeNode,
    variantMentions (renameVariants renames variants)
      = (variantMentions variants).map renames.apply
  | [] => rfl
  | variant :: variants => by
      rw [renameVariants, variantMentions, variantMentions, mentions_rename h variant,
        variantMentions_rename h variants, List.map_append]

theorem propertyMentions_rename {renames : Renames} (h : renames.IntoIdentifiers) :
  ∀ properties : List (Property TypeNode),
    propertyMentions (renameProperties renames properties)
      = (propertyMentions properties).map renames.apply
  | [] => rfl
  | ⟨_, _, type⟩ :: properties => by
      rw [renameProperties, propertyMentions, propertyMentions, mentions_rename h type,
        propertyMentions_rename h properties, List.map_append]

end

mutual

/-- Under new names a type of an unknown kind is of an unknown kind, and no other one is. -/
theorem containsUnknown_rename (renames : Renames) :
  ∀ t : TypeNode, containsUnknown (rename renames t) = containsUnknown t
  | .primitive _ => rfl
  | .array element => by
      rw [rename, containsUnknown, containsUnknown, containsUnknown_rename renames element]
  | .map key value => by
      rw [rename, containsUnknown, containsUnknown, containsUnknown_rename renames key,
        containsUnknown_rename renames value]
  | .promise result => by
      rw [rename, containsUnknown, containsUnknown, containsUnknown_rename renames result]
  | .union variants => by
      rw [rename, containsUnknown, containsUnknown, anyUnknown_rename renames variants]
  | .object properties => by
      rw [rename, containsUnknown, containsUnknown, anyPropertyUnknown_rename renames properties]
  | .declared _ => rfl
  | .custom _ => rfl
  | .unknown => rfl

theorem anyUnknown_rename (renames : Renames) :
  ∀ variants : List TypeNode, anyUnknown (renameVariants renames variants) = anyUnknown variants
  | [] => rfl
  | variant :: variants => by
      rw [renameVariants, anyUnknown, anyUnknown, containsUnknown_rename renames variant,
        anyUnknown_rename renames variants]

theorem anyPropertyUnknown_rename (renames : Renames) :
  ∀ properties : List (Property TypeNode),
    anyPropertyUnknown (renameProperties renames properties) = anyPropertyUnknown properties
  | [] => rfl
  | ⟨_, _, type⟩ :: properties => by
      rw [renameProperties, anyPropertyUnknown, anyPropertyUnknown,
        containsUnknown_rename renames type, anyPropertyUnknown_rename renames properties]

end

mutual

/-- A type is got back when all of its names are put back. -/
theorem rename_rename {renames back : Renames} (h : renames.IntoIdentifiers) :
  ∀ t : TypeNode, (∀ name ∈ mentions t, back.apply (renames.apply name) = name) →
    rename back (rename renames t) = t
  | .primitive _, _ => rfl
  | .array element, hback => by
      rw [rename, rename, rename_rename h element hback]
  | .map key value, hback => by
      obtain ⟨hkey, hvalue⟩ := List.forall_mem_append.mp hback
      rw [rename, rename, rename_rename h key hkey, rename_rename h value hvalue]
  | .promise result, hback => by
      rw [rename, rename, rename_rename h result hback]
  | .union variants, hback => by
      rw [rename, rename, renameVariants_renameVariants h variants hback]
  | .object properties, hback => by
      rw [rename, rename, renameProperties_renameProperties h properties hback]
  | .declared d, hback => by
      rw [rename, rename, DeclarationOf.name_withName, hback d.name (List.mem_singleton_self _),
        DeclarationOf.withName_withName_name]
  | .custom text, hback => by
      rw [rename, rename, Text.mapIdentifiers_mapIdentifiers h.isIdentifier_apply hback]
  | .unknown, _ => rfl

theorem renameVariants_renameVariants {renames back : Renames} (h : renames.IntoIdentifiers) :
  ∀ variants : List TypeNode,
    (∀ name ∈ variantMentions variants, back.apply (renames.apply name) = name) →
    renameVariants back (renameVariants renames variants) = variants
  | [], _ => rfl
  | variant :: variants, hback => by
      obtain ⟨hvariant, hvariants⟩ := List.forall_mem_append.mp hback
      rw [renameVariants, renameVariants, rename_rename h variant hvariant,
        renameVariants_renameVariants h variants hvariants]

theorem renameProperties_renameProperties {renames back : Renames}
    (h : renames.IntoIdentifiers) :
  ∀ properties : List (Property TypeNode),
    (∀ name ∈ propertyMentions properties, back.apply (renames.apply name) = name) →
    renameProperties back (renameProperties renames properties) = properties
  | [], _ => rfl
  | ⟨_, _, type⟩ :: properties, hback => by
      obtain ⟨htype, hproperties⟩ := List.forall_mem_append.mp hback
      rw [renameProperties, renameProperties, rename_rename h type htype,
        renameProperties_renameProperties h properties hproperties]

end

/-- When names are respelled by identifiers, a type refers to the new names of the names that
it referred to, and a type of an unknown kind occurs in it if one did. If different names have
different new names, none of which the type refers to, the type is got back by putting back
the old names. -/
theorem rename_inverse_rename (t : TypeNode) {renames : Renames}
    (h : renames.IntoIdentifiers) :
  (t.rename renames).referencedNames = (t.referencedNames.map renames.apply).eraseDups
    ∧ (t.rename renames).containsUnknown = t.containsUnknown
    ∧ (renames.Injective → (∀ pair ∈ renames, pair.2 ∉ t.referencedNames) →
        (t.rename renames).rename renames.inverse = t)
  := by
  refine ⟨?_, containsUnknown_rename renames t, ?_⟩
  · rw [referencedNames, mentions_rename h, referencedNames, eraseDups_map_eraseDups]
  · intro hinjective hfree
    apply rename_rename h
    intro name hname
    apply Renames.apply_inverse_apply hinjective
    rintro pair hpair rfl
    apply hfree pair hpair
    apply List.mem_eraseDups.mpr hname

end TypeNode

namespace Example

/-- A page of members or of members that are told by their groups. -/
def members : TypeNode :=
  .union [
    .custom "Page<User, 2User>",
    .map (.declared (.enumeration "Group" [] none)) (.array (.custom "User[]"))]

/-- New names for two of the names. -/
def memberRenames : Renames :=
  [("Group", "GroupModel"), ("User", "UserModel")]

end Example

theorem TypeNode.rename_inverse_rename_members :
  (Example.members.rename Example.memberRenames).referencedNames
      = ["Page", "UserModel", "GroupModel"]
    ∧ (Example.members.rename Example.memberRenames).rename Example.memberRenames.inverse
      = Example.members
  := by
  have hidentifiers : Example.memberRenames.IntoIdentifiers := by decide
  obtain ⟨hnames, -, hback⟩ := rename_inverse_rename Example.members hidentifiers
  constructor
  · rw [hnames]
    decide
  · apply hback
    · decide
    · decide

end ClientGen
