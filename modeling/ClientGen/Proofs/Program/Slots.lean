import ClientGen.Proofs.Program.Record
import Mathlib.Data.List.Forall2

/-!
# What the fields of a record are read from

A record is written as an object or as an array of its fields in their order. Either way its
fields stand in slots, and a record is read exactly when its value has room for the fields
alone and each field is read from its slot. A slot may be filled anew: then the other slots
hold what they have held.
-/

namespace ClientGen

/-! ### Reading -/

theorem bind_eq_ok_iff {α β : Type} {x : Decoded α} {f : α → Decoded β} {b : β} :
  x >>= f = .ok b ↔ ∃ a, x = .ok a ∧ f a = .ok b
  := by
  cases x with
  | error e =>
    constructor
    · intro h
      cases h
    · rintro ⟨a, h, -⟩
      cases h
  | ok a =>
    constructor
    · intro h
      exact ⟨a, rfl, h⟩
    · rintro ⟨a', h, hf⟩
      obtain rfl := Except.ok.inj h
      apply hf

theorem map_eq_ok_iff {α β : Type} {x : Decoded α} {f : α → β} {b : β} :
  x.map f = .ok b ↔ ∃ a, x = .ok a ∧ f a = b
  := by cases x <;> simp [Except.map]

/-- The items of a list are read exactly when each of them is. -/
theorem mapM_eq_ok_iff {α : Type} {read : Value → Decoded α} {items : List Value}
    {results : List α} :
  items.mapM read = .ok results ↔ List.Forall₂ (fun v a => read v = .ok a) items results
  := by
  induction items generalizing results with
  | nil =>
    rw [List.mapM_nil, List.forall₂_nil_left_iff]
    constructor
    · intro h
      apply (Except.ok.inj h).symm
    · rintro rfl
      rfl
  | cons v items ih =>
    rw [List.mapM_cons, bind_eq_ok_iff, List.forall₂_cons_left_iff]
    simp only [bind_eq_ok_iff, ih]
    constructor
    · rintro ⟨a, ha, rest, hrest, h⟩
      obtain rfl := Except.ok.inj h
      exact ⟨a, rest, ha, hrest, rfl⟩
    · rintro ⟨a, rest, ha, hrest, rfl⟩
      exact ⟨a, ha, rest, hrest, rfl⟩

namespace Field

variable {α : Type} {key : String} {field : Field α} {a d : α}

@[simp]
theorem value_eq_ok_iff :
  field.value key = .ok a ↔ field = some (.ok a)
  := by
  cases field with
  | none => simp [value]
  | some x => simp [value]

end Field

/-! ### Slots -/

namespace Value

/-- What stands in the slot of a field, given the keys of the fields in their order. -/
def slot? (layout : List String) (key : String) : Value → Option Value
  | .object fields => fields.lookup key
  | .array items => (layout.idxOf? key).bind fun i => items[i]?
  | _ => none

/-- Whether a value can be a record with the given fields: an object, which may have further
fields, or an array that is not too long. -/
def Fits (layout : List String) : Value → Prop
  | .object _ => True
  | .array items => items.length ≤ layout.length
  | _ => False

/-- The slot of a required field is read as a result. -/
def Gives {α : Type} (v : Value) (layout : List String) (key : String)
    (read : Value → Decoded α) (a : α) : Prop :=
  (v.slot? layout key).map read = some (.ok a)

/-- The slot of an optional field is read as a result, which is the given one if the slot is
empty. -/
def GivesOr {α : Type} (v : Value) (layout : List String) (key : String)
    (read : Value → Decoded α) (instead a : α) : Prop :=
  Field.valueD instead ((v.slot? layout key).map read) = .ok a

/-- The value with another value in the slot of a field. -/
def setSlot (layout : List String) (key : String) : Value → Value → Value
  | .object fields, w => .object (fields.map fun (k, v) => (k, if k = key then w else v))
  | .array items, w =>
    match layout.idxOf? key with
    | some i => .array (items.set i w)
    | none => .array items
  | v, _ => v

variable {layout : List String} {key : String} {u v w : Value}

section

variable {α : Type} {read : Value → Decoded α} {instead a : α}

theorem gives_iff :
  v.Gives layout key read a ↔ ∃ u, v.slot? layout key = some u ∧ read u = .ok a
  := Option.map_eq_some_iff

theorem givesOr_iff :
  v.GivesOr layout key read instead a
    ↔ v.slot? layout key = none ∧ instead = a ∨ v.Gives layout key read a
  := by
  rw [GivesOr, Gives]
  cases v.slot? layout key with
  | none => simp [Field.valueD]
  | some u => simp [Field.valueD]

theorem Gives.read_eq (h : v.Gives layout key read a) (hu : v.slot? layout key = some u) :
  read u = .ok a
  := by
  rw [Gives, hu] at h
  apply Option.some.inj h

theorem GivesOr.read_eq (h : v.GivesOr layout key read instead a)
    (hu : v.slot? layout key = some u) :
  read u = .ok a
  := by
  rw [GivesOr, hu] at h
  exact h

/-- A required field that gives a result is not at fault. -/
theorem Gives.fine (h : v.Gives layout key read a) (name : String) :
  (Field.required name ((v.slot? layout key).map read)).Fine
  := by
  rw [Gives] at h
  rw [h]
  apply Field.fine_required

/-- An optional field that gives a result is not at fault. -/
theorem GivesOr.fine (h : v.GivesOr layout key read instead a) (name : String) :
  (Field.optional name ((v.slot? layout key).map read)).Fine
  := by
  rcases givesOr_iff.mp h with ⟨hnone, -⟩ | hsome
  · rw [hnone]
    exact ⟨rfl, rfl⟩
  · rw [Gives] at hsome
    rw [hsome]
    apply Field.fine_optional

end

theorem Fits.setSlot (h : v.Fits layout) (key : String) (w : Value) :
  (v.setSlot layout key w).Fits layout
  := by
  cases v with
  | array items =>
    rw [Value.setSlot]
    cases layout.idxOf? key with
    | some i => simpa [Fits] using h
    | none => exact h
  | _ => exact h

theorem lookup_map_set (fields : List (String × Value)) (other : String) :
  (fields.map fun (k, v) => (k, if k = key then w else v)).lookup other
    = (fields.lookup other).map fun v => if other = key then w else v
  := by
  induction fields with
  | nil => rfl
  | cons f fields ih =>
    obtain ⟨k, v⟩ := f
    rw [List.map_cons, Sorted.lookup_pair, Sorted.lookup_pair, ih]
    by_cases hother : other = k
    · subst hother
      simp
    · simp [hother]

theorem idxOf?_inj {i : Nat} {other : String} (h : layout.idxOf? key = some i)
    (hother : layout.idxOf? other = some i) :
  other = key
  := by
  obtain ⟨_, rfl, -⟩ := List.idxOf?_eq_some_iff.mp h
  obtain ⟨_, rfl, -⟩ := List.idxOf?_eq_some_iff.mp hother
  rfl

/-- A slot that is filled anew holds the new value, and the other slots what they have
held. -/
theorem slot?_setSlot (h : v.slot? layout key = some u) (other : String) :
  (v.setSlot layout key w).slot? layout other
    = if other = key then some w else v.slot? layout other
  := by
  cases v with
  | object fields =>
    rw [slot?] at h
    rw [setSlot, slot?, slot?, lookup_map_set]
    by_cases hother : other = key
    · simp [hother, h]
    · simp [hother]
  | array items =>
    rw [slot?] at h
    obtain ⟨i, hi, hu⟩ := Option.bind_eq_some_iff.mp h
    rw [setSlot, hi]
    dsimp only
    rw [slot?, slot?]
    by_cases hother : other = key
    · have hlt : i < items.length := (List.getElem?_eq_some_iff.mp hu).1
      simp [hother, hi, hlt]
    · rw [if_neg hother]
      cases hj : layout.idxOf? other with
      | none => rfl
      | some j =>
        have hne : i ≠ j := by
          rintro rfl
          apply hother (idxOf?_inj hi hj)
        simp [hne]
  | _ => cases h

section

variable {α : Type} {read : Value → Decoded α} {instead a : α} {other : String}

theorem gives_setSlot_self (h : v.slot? layout key = some u) (hread : read w = .ok a) :
  (v.setSlot layout key w).Gives layout key read a
  := by rw [Gives, slot?_setSlot h, if_pos rfl, Option.map_some, hread]

theorem givesOr_setSlot_self (h : v.slot? layout key = some u) (hread : read w = .ok a)
    (instead : α) :
  (v.setSlot layout key w).GivesOr layout key read instead a
  := givesOr_iff.mpr (Or.inr (gives_setSlot_self h hread))

theorem Gives.setSlot (h : v.Gives layout other read a) (hu : v.slot? layout key = some u)
    (hother : other ≠ key) :
  (v.setSlot layout key w).Gives layout other read a
  := by
  rw [Gives, slot?_setSlot hu, if_neg hother]
  exact h

theorem GivesOr.setSlot (h : v.GivesOr layout other read instead a)
    (hu : v.slot? layout key = some u) (hother : other ≠ key) :
  (v.setSlot layout key w).GivesOr layout other read instead a
  := by
  rw [GivesOr, slot?_setSlot hu, if_neg hother]
  exact h

end

end Value

/-! ### Records -/

namespace Record

variable {n : Nat}

/-- Whether a record has room for its fields alone. -/
def Fits (r : Record n) : Prop :=
  match r.content with
  | .named _ => True
  | .listed items => items.length ≤ r.keys.length

theorem firstFault_eq_none_iff {reports : List Report} :
  firstFault reports = none ↔ ∀ report ∈ reports, report.fault = none
  := by
  induction reports with
  | nil => simp [firstFault]
  | cons report reports ih =>
    rw [List.forall_mem_cons, ← ih, firstFault]
    cases report.fault with
    | none => simp
    | some e =>
      cases firstFault reports with
      | none => simp
      | some later =>
        dsimp only
        split <;> simp

theorem listedFault_eq_none_iff {shape : String} {count i : Nat} {reports : List Report} :
  listedFault shape count i reports = none ↔ ∀ report ∈ reports, report.Fine
  := by
  induction reports generalizing i with
  | nil => simp [listedFault]
  | cons report reports ih =>
    rw [List.forall_mem_cons, listedFault, Report.Fine]
    cases report.missing with
    | true => simp
    | false =>
      cases report.fault with
      | none => simp [ih]
      | some e => simp

/-- No fault is reported exactly when no field is missing or at fault and there are no values
beyond the fields. -/
theorem settle_eq_ok_iff {r : Record n} {reports : List Report} :
  r.settle reports = .ok () ↔ (∀ report ∈ reports, report.Fine) ∧ r.Fits
  := by
  have hsettle : r.settle reports = .ok () ↔ r.fault? reports = none := by
    rw [settle]
    cases r.fault? reports <;> simp
  rw [hsettle]
  obtain ⟨reading, shape, keys, content⟩ := r
  cases content with
  | named fields =>
    simp only [fault?, Fits, and_true]
    cases hfault : firstFault reports with
    | some e =>
      have hsome : ¬ ∀ report ∈ reports, report.fault = none := by
        rw [← firstFault_eq_none_iff, hfault]
        simp
      simp only [reduceCtorEq, false_iff]
      intro fine
      apply hsome
      intro report hreport
      apply (fine report hreport).2
    | none =>
      have hnone := firstFault_eq_none_iff.mp hfault
      simp only [Option.map_eq_none_iff, List.find?_eq_none, Bool.not_eq_true]
      constructor
      · intro hmissing report hreport
        exact ⟨hmissing report hreport, hnone report hreport⟩
      · intro fine report hreport
        apply (fine report hreport).1
  | listed items =>
    have hsurplus : surplusFault reading keys.length items.length = none
        ↔ items.length ≤ keys.length := by
      unfold surplusFault
      split
      case isTrue hle => simp [hle]
      case isFalse hlt => cases reading <;> simp [hlt]
    simp only [fault?, Fits, Option.or_eq_none_iff, listedFault_eq_none_iff, hsurplus]

/-- What is read once the fields have been settled. -/
theorem settle_bind_eq_ok_iff {r : Record n} {reports : List Report} {α : Type} {x : Decoded α}
    {a : α} :
  (r.settle reports >>= fun _ => x) = .ok a
    ↔ (∀ report ∈ reports, report.Fine) ∧ r.Fits ∧ x = .ok a
  := by
  rw [bind_eq_ok_iff, ← and_assoc, ← settle_eq_ok_iff]
  constructor
  · rintro ⟨_, hsettle, hx⟩
    exact ⟨hsettle, hx⟩
  · rintro ⟨hsettle, hx⟩
    exact ⟨(), hsettle, hx⟩

/-- A record stands for a value with the given layout: its fields are what stands in the
slots. -/
structure Mirrors (r : Record n) (layout : List String) (v : Value) : Prop where
  get : ∀ key ∈ r.keys, (r.get? key).map Subtype.val = v.slot? layout key
  fits : r.Fits ↔ v.Fits layout

section

variable {r : Record n} {layout : List String} {v : Value} {α : Type}

/-- What is read of a field is what is read of its slot. -/
theorem Mirrors.map_get? (h : r.Mirrors layout v) {key : String} (hkey : key ∈ r.keys)
    {readBelow : Value.Below n → α} (read : Value → α) (hread : ∀ v, readBelow v = read v.1) :
  (r.get? key).map readBelow = (v.slot? layout key).map read
  := by
  rw [← h.get key hkey, Option.map_map]
  congr 1
  funext v
  apply hread

theorem Mirrors.field_eq (h : r.Mirrors layout v) {key : String} (hkey : key ∈ r.keys)
    (read : Value → Decoded α) :
  r.field read key = (v.slot? layout key).map read
  := h.map_get? hkey read fun _ => rfl

end

end Record

namespace Value

variable {reading : Reading} {shape : String} {keys layout names : List String} {v u : Value}
  {tag : String}

theorem belowFields_lookup (fields : List (String × Value)) (key : String) :
  ((belowFields fields).lookup key).map Subtype.val = fields.lookup key
  := by
  have hval : (belowFields fields).map (fun f => (f.1, f.2.1)) = fields := by
    rw [belowFields, List.map_map]
    apply List.attach_map_subtype_val
  rw [Record.lookup_map_val, hval]

theorem belowItems_getElem? (items : List Value) (i : Nat) :
  (belowItems items)[i]?.map Subtype.val = items[i]?
  := by
  have hval : (belowItems items).map Subtype.val = items := by
    rw [belowItems, List.map_map]
    apply List.attach_map_subtype_val
  rw [← List.getElem?_map, hval]

/-- A record that is read from a value stands for the value. -/
theorem mirrors_of_toRecord {r : Record (sizeOf v)} (h : v.toRecord reading shape keys = .ok r) :
  r.reading = reading ∧ r.keys = keys ∧ r.Mirrors keys v
  := by
  cases v with
  | object fields =>
    obtain rfl := Except.ok.inj h
    refine ⟨rfl, rfl, ?_, Iff.rfl⟩
    intro key _
    apply belowFields_lookup
  | array items =>
    obtain rfl := Except.ok.inj h
    refine ⟨rfl, rfl, ?_, ?_⟩
    · intro key _
      simp only [Record.get?, slot?, Option.map_bind]
      congr 1
      funext i
      apply belowItems_getElem?
    · simp [Record.Fits, Fits, belowItems]
  | _ => cases h

/-- What has room for fields is read as a record. -/
theorem exists_toRecord_eq_ok (h : v.Fits layout) :
  ∃ r, v.toRecord reading shape keys = .ok r
  := by
  cases v with
  | object fields => exact ⟨_, rfl⟩
  | array items => exact ⟨_, rfl⟩
  | _ => cases h

/-- What is read from a value by way of a record. -/
theorem toRecord_bind_eq_ok_iff {α : Type} {read : Record (sizeOf v) → Decoded α} {a : α}
    {P : Prop} (fits : P → v.Fits keys)
    (h : ∀ r : Record (sizeOf v), r.reading = reading → r.keys = keys → r.Mirrors keys v →
      (read r = .ok a ↔ P)) :
  (v.toRecord reading shape keys >>= read) = .ok a ↔ P
  := by
  rw [bind_eq_ok_iff]
  constructor
  · rintro ⟨r, hr, hread⟩
    obtain ⟨hreading, hkeys, hmirrors⟩ := mirrors_of_toRecord hr
    apply (h r hreading hkeys hmirrors).mp hread
  · intro hP
    obtain ⟨r, hr⟩ := exists_toRecord_eq_ok (fits hP)
    obtain ⟨hreading, hkeys, hmirrors⟩ := mirrors_of_toRecord hr
    exact ⟨r, hr, (h r hreading hkeys hmirrors).mpr hP⟩

/-! ### Tags -/

/-- The tag of a value, which stands in the first slot. -/
def tagOf? (reading : Reading) (names : List String) (v : Value) : Option String :=
  (v.slot? [tagKey] tagKey).bind fun u =>
    match u.toTag reading names with
    | .ok tag => some tag
    | .error _ => none

/-- The tag of a value stays as it is when another slot is filled anew. -/
theorem tagOf?_setSlot {key : String} (h : v.slot? (tagKey :: layout) key = some u)
    (hkey : key ≠ tagKey) (w : Value) :
  (v.setSlot (tagKey :: layout) key w).tagOf? reading names = v.tagOf? reading names
  := by
  have hslot (v : Value) : v.slot? (tagKey :: layout) tagKey = v.slot? [tagKey] tagKey := by
    cases v <;> simp [slot?, List.idxOf?_cons]
  rw [tagOf?, tagOf?, ← hslot, ← hslot, slot?_setSlot h, if_neg hkey.symm]

/-- The content of a tagged record. -/
def content : (v : Value) → Record.Content (sizeOf v)
  | .object fields => .named (belowFields fields)
  | .array items => .listed ((belowItems items).drop 1)
  | _ => .listed []

theorem toTagged_eq_ok_iff {content' : Record.Content (sizeOf v)} :
  v.toTagged reading shape names = .ok (tag, content')
    ↔ v.tagOf? reading names = some tag ∧ content' = v.content
  := by
  cases v with
  | object fields =>
    rw [toTagged, tagOf?, slot?]
    cases fields.lookup tagKey with
    | none => simp
    | some u =>
      simp only [Option.bind_some]
      cases u.toTag reading names with
      | error e => simp [bind, Except.bind]
      | ok name =>
        simp [bind, Except.bind, pure, Except.pure, content]
        grind
  | array items =>
    have hslot : (array items).slot? [tagKey] tagKey = items.head? := by
      simp [slot?, List.head?_eq_getElem?]
    rw [toTagged, tagOf?, hslot]
    cases items.head? with
    | none => simp
    | some u =>
      simp only [Option.bind_some]
      cases u.toTag reading names with
      | error e => simp [bind, Except.bind]
      | ok name =>
        simp [bind, Except.bind, pure, Except.pure, content]
        grind
  | _ => simp [toTagged, tagOf?, slot?]

/-- The record of the content of a tagged value stands for the value, in whose first slot is
the tag. -/
theorem mirrors_content (h : v.tagOf? reading names = some tag) (hkeys : tagKey ∉ keys) :
  (v.content.toRecord shape keys).Mirrors (tagKey :: keys) v
  := by
  cases v with
  | object fields =>
    refine ⟨?_, Iff.rfl⟩
    intro key _
    apply belowFields_lookup
  | array items =>
    constructor
    · intro key hkey
      have hne : tagKey ≠ key := by
        rintro rfl
        apply hkeys hkey
      have hidx : (tagKey :: keys).idxOf? key = (keys.idxOf? key).map (· + 1) := by
        simp [List.idxOf?_cons, hne]
      rw [slot?, hidx]
      simp only [Record.get?, Record.Content.toRecord, content, Option.map_bind,
        Option.bind_map]
      congr 1
      funext i
      rw [Function.comp_apply, Function.comp_apply, List.getElem?_drop, Nat.add_comm,
        belowItems_getElem?]
    · simp [Record.Fits, Fits, Record.Content.toRecord, content, belowItems]
  | _ => cases h

theorem toTagged_bind_eq (h : v.tagOf? reading names = some tag) {α : Type}
    {read : String × Record.Content (sizeOf v) → Decoded α} :
  (v.toTagged reading shape names >>= read) = read (tag, v.content)
  := by
  rw [toTagged_eq_ok_iff.mpr ⟨h, rfl⟩]
  rfl

theorem exists_tag_of_toTagged_bind {α : Type}
    {read : String × Record.Content (sizeOf v) → Decoded α} {a : α}
    (h : (v.toTagged reading shape names >>= read) = .ok a) :
  ∃ tag, v.tagOf? reading names = some tag
  := by
  obtain ⟨⟨tag, _⟩, htagged, -⟩ := bind_eq_ok_iff.mp h
  exact ⟨tag, (toTagged_eq_ok_iff.mp htagged).1⟩

end Value

end ClientGen
