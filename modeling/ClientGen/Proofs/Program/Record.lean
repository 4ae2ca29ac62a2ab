import ClientGen.Document.Record
import ClientGen.Program.Encode
import ClientGen.Proofs.Sorted
import Mathlib.Data.List.Nodup

/-!
# Records that are written by their keys

An object that is made of fields with different keys is read as a record that holds these
fields: it gives each of them by its key. Such a record has no fault if none of its fields
is missing or at fault.
-/

namespace ClientGen

namespace Record

/-! ### Contents -/

/-- A content that gives fields by their keys. -/
inductive Content.Holds {n : Nat} (fields : List (String × Value)) : Content n → Prop where
  | named {below : List (String × Value.Below n)} :
      (∀ key, (below.lookup key).map Subtype.val = fields.lookup key) →
      Holds fields (.named below)

theorem lookup_map_val {n : Nat} (fields : List (String × Value.Below n)) (key : String) :
  (fields.lookup key).map Subtype.val
    = (fields.map fun f => (f.1, f.2.1)).lookup key
  := by
  induction fields with
  | nil => rfl
  | cons f rest ih =>
    rw [List.map_cons, Sorted.lookup_pair, Sorted.lookup_pair, ← ih]
    split
    · rfl
    · rfl

/-- Fields with different keys are what the content of their object gives. -/
theorem holds_belowFields {fields : List (String × Value)}
    (distinct : (fields.map Prod.fst).Nodup) :
  Content.Holds fields (.named (Value.belowFields (Sorted.ofPairs fields)))
  := by
  apply Content.Holds.named
  intro key
  have hval : (Value.belowFields (Sorted.ofPairs fields)).map (fun f => (f.1, f.2.1))
      = Sorted.ofPairs fields := by
    rw [Value.belowFields, List.map_map]
    apply List.attach_map_subtype_val
  rw [lookup_map_val, hval, Sorted.lookup_ofPairs distinct]

section

variable {α : Type} {a : α} {fields : List (String × Value)}

/-- An object of fields with different keys is read as a record that holds them. -/
theorem toRecord_ofFields_bind (distinct : (fields.map Prod.fst).Nodup) (reading : Reading)
    (shape : String) (keys : List String)
    {read : Record (sizeOf (Value.ofFields fields)) → Decoded α}
    (h : ∀ r, r.content.Holds fields → read r = .ok a) :
  ((Value.ofFields fields).toRecord reading shape keys >>= read) = .ok a
  := by
  apply h ⟨reading, shape, keys, .named (Value.belowFields (Sorted.ofPairs fields))⟩
  apply holds_belowFields distinct

/-- A tagged object of fields with different keys is read as its tag and a content that holds
the fields. -/
theorem toTagged_tagged_bind {tag : String} (distinct : (tagKey :: fields.map Prod.fst).Nodup)
    (reading : Reading) (shape : String) (names : List String)
    {read : String × Content (sizeOf (tagged tag fields)) → Decoded α}
    (h : ∀ content, content.Holds ((tagKey, .string tag) :: fields) →
      read (tag, content) = .ok a) :
  ((tagged tag fields).toTagged reading shape names >>= read) = .ok a
  := by
  have hkeys : (((tagKey, Value.string tag) :: fields).map Prod.fst).Nodup := distinct
  have htag : (Sorted.ofPairs ((tagKey, Value.string tag) :: fields)).lookup tagKey
      = some (.string tag) := by
    rw [Sorted.lookup_ofPairs hkeys]
    rfl
  have htagged : (tagged tag fields).toTagged reading shape names = .ok (tag,
      .named (Value.belowFields (Sorted.ofPairs ((tagKey, .string tag) :: fields)))) := by
    change (Value.object (Sorted.ofPairs ((tagKey, .string tag) :: fields))).toTagged _ _ _ = _
    rw [Value.toTagged, htag]
    rfl
  rw [htagged]
  apply h
  apply holds_belowFields hkeys

end

/-! ### Fields -/

section

variable {n : Nat} {α : Type} {r : Record n} {fields : List (String × Value)}

theorem Content.Holds.toRecord {content : Content n} (h : content.Holds fields)
    (shape : String) (keys : List String) :
  (content.toRecord shape keys).content.Holds fields
  := h

/-- What is read of a field is what is read of the value that the content gives. -/
theorem Content.Holds.map_get? (h : r.content.Holds fields) (key : String)
    {readBelow : Value.Below n → α} (read : Value → α) (hread : ∀ v, readBelow v = read v.1) :
  (r.get? key).map readBelow = (fields.lookup key).map read
  := by
  obtain ⟨reading, shape, keys, content⟩ := r
  cases h with
  | named hbelow =>
    rw [← hbelow, Option.map_map]
    congr 1
    funext v
    apply hread

theorem Content.Holds.map_get?_eq (h : r.content.Holds fields) (key : String)
    (read : Value → Decoded α) {v : Value} {a : α} (hv : fields.lookup key = some v)
    (hread : read v = .ok a) {readBelow : Value.Below n → Decoded α}
    (hbelow : ∀ v, readBelow v = read v.1) :
  (r.get? key).map readBelow = some (.ok a)
  := by rw [h.map_get? key read hbelow, hv, Option.map_some, hread]

/-- A field that the content gives is read. -/
theorem Content.Holds.field_eq (h : r.content.Holds fields) (key : String)
    (read : Value → Decoded α) {v : Value} {a : α} (hv : fields.lookup key = some v)
    (hread : read v = .ok a) :
  r.field read key = some (.ok a)
  := h.map_get?_eq key read hv hread fun _ => rfl

/-- A field that is given only if it is present is read. -/
theorem Content.Holds.field_eq_map (h : r.content.Holds fields) (key : String)
    (write : α → Value) (read : Value → Decoded (Option α)) (a : Option α)
    (ha : fields.lookup key = a.map write) (hread : ∀ a, read (write a) = .ok (some a)) :
  r.field read key = a.map fun a => .ok (some a)
  := by
  rw [Record.field, h.map_get? key read fun _ => rfl, ha, Option.map_map]
  congr 1
  funext a
  apply hread

/-- A report of a field that is neither missing nor at fault. -/
def Report.Fine (report : Report) : Prop :=
  report.missing = false ∧ report.fault = none

/-- No fault is reported if no field is missing or at fault. -/
theorem Content.Holds.settle_eq (h : r.content.Holds fields) {reports : List Report}
    (fine : ∀ report ∈ reports, report.Fine) :
  r.settle reports = .ok ()
  := by
  have hfault : firstFault reports = none := by
    induction reports with
    | nil => rfl
    | cons report reports ih =>
      obtain ⟨hreport, hrest⟩ := List.forall_mem_cons.mp fine
      rw [firstFault, hreport.2, ih hrest]
  have hmissing : reports.find? Report.missing = none := by
    apply List.find?_eq_none.mpr
    intro report hreport
    simp [(fine report hreport).1]
  obtain ⟨reading, shape, keys, content⟩ := r
  cases h with
  | named => simp [settle, fault?, hfault, hmissing]

end

end Record

namespace Field

variable {α : Type}

@[simp]
theorem fine_required (key : String) (a : α) :
  (Field.required key (some (.ok a))).Fine
  := ⟨rfl, rfl⟩

@[simp]
theorem fine_optional (key : String) (a : α) :
  (Field.optional key (some (.ok a))).Fine
  := ⟨rfl, rfl⟩

@[simp]
theorem fine_optional_map (key : String) (a : Option α) :
  (Field.optional key (a.map fun a => .ok (some a))).Fine
  := by cases a <;> exact ⟨rfl, rfl⟩

theorem valueD_map (a : Option α) :
  Field.valueD none (a.map fun a => .ok (some a)) = .ok a
  := by cases a <;> rfl

end Field

/-- The written items of an array are read back. -/
theorem Value.toList_array {α : Type} {read : Value → Decoded α} {write : α → Value}
    (h : ∀ a, read (write a) = .ok a) (items : List α) :
  (Value.array (items.map write)).toList read = .ok items
  := by
  have hitems : (items.map write).mapM read = .ok items := by
    induction items with
    | nil => rfl
    | cons a items ih =>
      rw [List.map_cons, List.mapM_cons, h, ih]
      rfl
  apply hitems

end ClientGen
