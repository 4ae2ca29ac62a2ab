import ClientGen.File.Method
import Mathlib.Data.List.DropRight

/-!
# Lists of parameters

A spelled method has the parameters of the method in their order, and it passes them on in
the same order. A parameter may be left out if a caller could do without it and without all
parameters after it. The first one that may be left out opens the run of these, and those
before the run have no default. The final parameter is marked as the last one.
-/

namespace ClientGen

section

variable {α β : Type}

/-- Each item is mapped by itself, and the final one is marked. -/
theorem getElem?_mapLast (f : α → Bool → β) (items : List α) (i : Nat) :
  (mapLast f items)[i]? = items[i]?.map fun a => f a (i + 1 = items.length)
  := by
  fun_induction mapLast f items generalizing i with
  | case1 => simp
  | case2 a => cases i <;> simp
  | case3 a b rest ih =>
    cases i with
    | zero => simp
    | succ i => simp [ih]

theorem mem_mapLast {f : α → Bool → β} {items : List α} {b : β} (h : b ∈ mapLast f items) :
  ∃ a ∈ items, ∃ isLast, b = f a isLast
  := by
  obtain ⟨i, hget⟩ := List.mem_iff_getElem?.mp h
  rw [getElem?_mapLast, Option.map_eq_some_iff] at hget
  obtain ⟨a, ha, rfl⟩ := hget
  exact ⟨a, List.mem_of_getElem? ha, _, rfl⟩

theorem mem_take_iff_getElem? {items : List α} {n : Nat} {a : α} :
  a ∈ items.take n ↔ ∃ i < n, items[i]? = some a
  := by
  rw [List.mem_iff_getElem?]
  simp only [List.getElem?_take]
  grind

/-- A place does not come before the last run of items with a property exactly when all items
from there on have the property. -/
theorem length_rdropWhile_le_iff (p : α → Bool) (items : List α) (i : Nat) :
  (items.rdropWhile p).length ≤ i ↔ ∀ a ∈ items.drop i, p a
  := by
  induction items using List.reverseRecOn with
  | nil => simp
  | append_singleton items last ih =>
    rw [List.rdropWhile_concat, List.drop_append, List.forall_mem_append]
    split
    case isTrue hlast =>
      rw [ih, iff_self_and]
      intro _ a ha
      obtain rfl := List.mem_singleton.mp (List.mem_of_mem_drop ha)
      apply hlast
    case isFalse hlast =>
      rw [List.length_append, List.length_singleton]
      constructor
      · intro hle
        rw [List.drop_eq_nil_of_le (by omega), List.drop_eq_nil_of_le (by simp; omega)]
        simp
      · rintro ⟨-, hdrop⟩
        by_contra hlt
        have hzero : i - items.length = 0 := by omega
        apply hlast
        apply hdrop
        rw [hzero]
        apply List.mem_singleton_self

end

/-- A parameter belongs to the last run exactly when all from there on are optional or have a
default. -/
theorem length_requiredPart_le_iff (parameters : List Parameter) (i : Nat) :
  (requiredPart parameters).length ≤ i
    ↔ ∀ p ∈ parameters.drop i, p.isOptional ∨ p.fallback.isSome
  := by
  have hrun := length_rdropWhile_le_iff Parameter.isOmittable parameters i
  simp only [Parameter.isOmittable, Bool.or_eq_true] at hrun
  apply hrun

/-! ### The parameters of a spelled method -/

/-- A spelled method lists the parameters of a method: of each its name, whether it may be left
out, which it may if all parameters from there on are optional or have a default, whether it
opens the run of these, whether it is the last one, and its default if it may be left out. -/
structure ListsParameters (lang : Language) (m : Method) (s : SpelledMethod) : Prop where
  names : s.parameters.map SpelledParameter.name
    = m.parameters.map fun p => lang.sanitize p.name
  arguments : s.arguments.map Argument.name = s.parameters.map SpelledParameter.name
  isOptional : ∀ i p, s.parameters[i]? = some p →
    (p.isOptional ↔ ∀ q ∈ m.parameters.drop i, q.isOptional ∨ q.fallback.isSome)
  hasOptional : s.hasOptional ↔ ∃ p ∈ s.parameters, p.isOptional
  opensRun : ∀ i p, s.parameters[i]? = some p →
    (p.opensRun ↔ p.isOptional ∧ ∀ q ∈ s.parameters.take i, ¬ q.isOptional)
  isLast : ∀ i p, s.parameters[i]? = some p → (p.isLast ↔ i + 1 = s.parameters.length)
  isLastArgument : ∀ i a, s.arguments[i]? = some a → (a.isLast ↔ i + 1 = s.arguments.length)
  fallback : ∀ (i : Nat) (p : SpelledParameter) (q : Parameter),
    s.parameters[i]? = some p → m.parameters[i]? = some q →
      p.fallback = if p.isOptional then q.fallback.map lang.literal else none

namespace Language

variable (lang : Language) (renames : Renames)

theorem length_spellRun (parameters : List Parameter) :
  (lang.spellRun renames parameters).length = parameters.length
  := by cases parameters <;> simp [spellRun]

theorem getElem?_spellRun (parameters : List Parameter) (i : Nat) :
  (lang.spellRun renames parameters)[i]?
    = parameters[i]?.map fun p =>
      { lang.spellOmittable renames p with opensRun := decide (i = 0) }
  := by
  cases parameters with
  | nil => simp [spellRun]
  | cons p rest =>
    cases i with
    | zero => rfl
    | succ i =>
      simp only [spellRun, List.getElem?_cons_succ, List.getElem?_map]
      rfl

/-- Each parameter is spelled by itself: as one that has to be passed if it stands before the
last run, and as one that may be left out if it belongs to the run. -/
theorem getElem?_spellParameters (parameters : List Parameter) (i : Nat) :
  (lang.spellParameters renames parameters)[i]?
    = parameters[i]?.map fun p =>
      if i < (requiredPart parameters).length then
        { lang.spellRequired renames p with isLast := decide (i + 1 = parameters.length) }
      else
        { lang.spellOmittable renames p with
          opensRun := decide (i = (requiredPart parameters).length)
          isLast := decide (i + 1 = parameters.length) }
  := by
  have happend := requiredPart_append_omittablePart parameters
  have hlength : ((requiredPart parameters).map (lang.spellRequired renames)
      ++ lang.spellRun renames (omittablePart parameters)).length = parameters.length := by
    rw [List.length_append, List.length_map, length_spellRun, ← List.length_append, happend]
  rw [spellParameters, getElem?_mapLast, hlength]
  by_cases hlt : i < (requiredPart parameters).length
  · have hget : parameters[i]? = (requiredPart parameters)[i]? := by
      rw [← List.getElem?_append_left hlt, happend]
    rw [List.getElem?_append_left (by simpa using hlt), List.getElem?_map, hget]
    simp [hlt]
  · have hle := Nat.not_lt.mp hlt
    have hget : parameters[i]?
        = (omittablePart parameters)[i - (requiredPart parameters).length]? := by
      rw [← List.getElem?_append_right hle, happend]
    have hfirst : i - (requiredPart parameters).length = 0
        ↔ i = (requiredPart parameters).length := by omega
    rw [List.getElem?_append_right (by simpa using hle), List.length_map, getElem?_spellRun, hget]
    simp only [hlt, hfirst, if_false, Option.map_map]
    rfl

theorem map_name_spellParameters (parameters : List Parameter) :
  (lang.spellParameters renames parameters).map SpelledParameter.name
    = parameters.map fun p => lang.sanitize p.name
  := by
  apply List.ext_getElem?
  intro i
  rw [List.getElem?_map, getElem?_spellParameters, List.getElem?_map, Option.map_map]
  congr 1
  funext p
  rw [Function.comp_apply]
  split <;> rfl

theorem length_spellParameters (parameters : List Parameter) :
  (lang.spellParameters renames parameters).length = parameters.length
  := by simpa using congrArg List.length (lang.map_name_spellParameters renames parameters)

/-- What is known of a spelled parameter by its place. -/
theorem spellParameters_spec {parameters : List Parameter} {i : Nat} {p : SpelledParameter}
    (hp : (lang.spellParameters renames parameters)[i]? = some p) :
  ∃ q, parameters[i]? = some q
    ∧ (p.isOptional ↔ (requiredPart parameters).length ≤ i)
    ∧ (p.opensRun ↔ i = (requiredPart parameters).length)
    ∧ (p.isLast ↔ i + 1 = parameters.length)
    ∧ p.fallback = if p.isOptional then q.fallback.map lang.literal else none
  := by
  rw [getElem?_spellParameters, Option.map_eq_some_iff] at hp
  obtain ⟨q, hq, rfl⟩ := hp
  use q, hq
  split
  case isTrue hlt =>
    simp [spellRequired]
    omega
  case isFalse hle =>
    simp [spellOmittable]
    omega

/-- A method is spelled with its parameters. -/
theorem listsParameters_spellMethod (className : String) (m : Method) :
  ListsParameters lang m (lang.spellMethod renames className m)
  where
  names := lang.map_name_spellParameters renames m.parameters
  arguments := by
    have harguments : (lang.spellMethod renames className m).arguments.map Argument.name
        = m.parameters.map fun p => lang.sanitize p.name := by
      rw [spellMethod, map_mapLast, mapLast_const]
    rw [harguments]
    apply (lang.map_name_spellParameters renames m.parameters).symm
  isOptional := by
    intro i p hp
    obtain ⟨_, -, hoptional, -⟩ := lang.spellParameters_spec renames hp
    apply hoptional.trans (length_requiredPart_le_iff m.parameters i)
  hasOptional := by
    have hlength : (lang.spellParameters renames m.parameters).length
        = (requiredPart m.parameters).length + (omittablePart m.parameters).length := by
      rw [length_spellParameters, ← List.length_append, requiredPart_append_omittablePart]
    rw [spellMethod, Bool.not_eq_true', List.isEmpty_eq_false_iff, ← List.length_pos_iff]
    constructor
    · intro hpos
      have hget := List.getElem?_eq_getElem
        (by omega : (requiredPart m.parameters).length
          < (lang.spellParameters renames m.parameters).length)
      obtain ⟨_, -, hoptional, -⟩ := lang.spellParameters_spec renames hget
      exact ⟨_, List.mem_of_getElem? hget, hoptional.mpr (Nat.le_refl _)⟩
    · rintro ⟨p, hp, hp'⟩
      obtain ⟨i, hget⟩ := List.mem_iff_getElem?.mp hp
      obtain ⟨_, -, hoptional, -⟩ := lang.spellParameters_spec renames hget
      have hle := hoptional.mp hp'
      have hbound : i < (lang.spellParameters renames m.parameters).length :=
        (List.getElem?_eq_some_iff.mp hget).1
      omega
  opensRun := by
    intro i p hp
    obtain ⟨_, -, hoptional, hopens, -⟩ := lang.spellParameters_spec renames hp
    rw [hopens, hoptional]
    constructor
    · rintro rfl
      use Nat.le_refl _
      intro q hq hq'
      obtain ⟨j, hj, hget⟩ := mem_take_iff_getElem?.mp hq
      obtain ⟨_, -, hoptional', -⟩ := lang.spellParameters_spec renames hget
      have hle := hoptional'.mp hq'
      omega
    · rintro ⟨hle, hnone⟩
      -- Otherwise the parameter where the run starts would come before and may be left out.
      by_contra hne
      have hlt : (requiredPart m.parameters).length < i := by omega
      have hbound : i < (lang.spellParameters renames m.parameters).length :=
        (List.getElem?_eq_some_iff.mp hp).1
      have hget := List.getElem?_eq_getElem (Nat.lt_trans hlt hbound)
      obtain ⟨_, -, hoptional', -⟩ := lang.spellParameters_spec renames hget
      apply hnone _ (mem_take_iff_getElem?.mpr ⟨_, hlt, hget⟩)
      apply hoptional'.mpr (Nat.le_refl _)
  isLast := by
    intro i p hp
    obtain ⟨_, -, -, -, hlast, -⟩ := lang.spellParameters_spec renames hp
    rw [hlast, ← lang.length_spellParameters renames]
    rfl
  isLastArgument := by
    intro i a ha
    rw [spellMethod, getElem?_mapLast, Option.map_eq_some_iff] at ha
    obtain ⟨p, -, rfl⟩ := ha
    simp [spellMethod]
  fallback := by
    intro i p q hp hq
    obtain ⟨q', hq', -, -, -, hfallback⟩ := lang.spellParameters_spec renames hp
    obtain rfl := Option.some.inj (hq.symm.trans hq')
    apply hfallback

end Language

end ClientGen
