import ClientGen.Document.Value
import ClientGen.Text.Quoted

/-!
# Reading records out of values

A record is written as an object, or as an array of its fields in their order. Of the
faults of an object the one of the smallest key is reported, and a missing field only
when no field is at fault; the faults of an array are reported in the order of its items.
A tagged record is an object with the field `type`, or an array that starts with the tag.
-/

namespace ClientGen

/-- The kind of a value that was found. -/
inductive Found where
  | null
  | bool (b : Bool)
  | integer (n : Int)
  | double (x : Double)
  | string (s : String)
  | sequence
  | map
deriving DecidableEq

/-- The wording of what was found. -/
def Found.message : Found → String
  | .null => "null"
  | .bool b => "boolean \x60" ++ (if b then "true" else "false") ++ "\x60"
  | .integer n => "integer \x60" ++ Text.integerText n ++ "\x60"
  | .double x => "floating point \x60" ++ x.text ++ "\x60"
  | .string s => "string " ++ Text.quoted s
  | .sequence => "sequence"
  | .map => "map"

/-- The kind of a value. -/
def Value.found : Value → Found
  | .null => .null
  | .bool b => .bool b
  | .integer n => .integer n
  | .double x => .double x
  | .string s => .string s
  | .array _ => .sequence
  | .object _ => .map

/-- Why a value has not the demanded form. -/
inductive DecodeError where
  | wrongType (found : Found) (expected : String)
  | wrongValue (found : Found) (expected : String)
  | wrongLength (length : Nat) (expected : String)
  | missingField (name : String)
  | unknownVariant (name : String) (expected : List String)
deriving DecidableEq

namespace DecodeError

/-- A name between back quotes. -/
def ticked (name : String) : String :=
  "\x60" ++ name ++ "\x60"

/-- The names that are admitted. -/
def oneOf : List String → String
  | [] => "nothing"
  | [a] => ticked a
  | [a, b] => ticked a ++ " or " ++ ticked b
  | names => "one of " ++ ", ".intercalate (names.map ticked)

/-- The wording of an error. -/
def message : DecodeError → String
  | .wrongType found expected =>
    "invalid type: " ++ found.message ++ ", expected " ++ expected
  | .wrongValue found expected =>
    "invalid value: " ++ found.message ++ ", expected " ++ expected
  | .wrongLength length expected =>
    "invalid length " ++ Text.integerText length ++ ", expected " ++ expected
  | .missingField name => "missing field " ++ ticked name
  | .unknownVariant name expected =>
    "unknown variant " ++ ticked name ++ ", expected " ++ oneOf expected

end DecodeError

/-- What reading gives. -/
abbrev Decoded := Except DecodeError

/-- Whether a value is read out of a document, or out of a tagged record whose content
was set aside while its tag was looked for. The two word some faults differently. -/
inductive Reading where
  | direct
  | setAside
deriving DecidableEq

/-! ### Plain values -/

namespace Value

/-- A string. -/
def toStr : Value → Decoded String
  | .string s => .ok s
  | v => .error (.wrongType v.found "a string")

/-- A boolean. -/
def toBool : Value → Decoded Bool
  | .bool b => .ok b
  | v => .error (.wrongType v.found "a boolean")

/-- A value that may be null. -/
def toOption {α : Type} (read : Value → Decoded α) : Value → Decoded (Option α)
  | .null => .ok none
  | v => (read v).map some

/-- The items of an array. -/
def toItems : Value → Decoded (List Value)
  | .array items => .ok items
  | v => .error (.wrongType v.found "a sequence")

/-- The items of an array, each read in turn. -/
def toList {α : Type} (read : Value → Decoded α) (v : Value) : Decoded (List α) :=
  v.toItems.bind fun items => items.mapM read

/-- The fields of an object, the values of which are read in turn. -/
def toMap {α : Type} (read : Value → Decoded α) : Value → Decoded (List (String × α))
  | .object fields => fields.mapM fun (key, v) => (read v).map fun a => (key, a)
  | v => .error (.wrongType v.found "a map")

/-- Two items. -/
def toPair {α : Type} (read : Value → Decoded α) : Value → Decoded (α × α)
  | .array [] => .error (.wrongLength 0 "a tuple of size 2")
  | .array [v] => do
    let _ ← read v
    throw (.wrongLength 1 "a tuple of size 2")
  | .array (v :: w :: rest) => do
    let a ← read v
    let b ← read w
    if rest.isEmpty then return (a, b)
    else throw (.wrongLength (rest.length + 2) "fewer elements in array")
  | v => .error (.wrongType v.found "a tuple of size 2")

/-- Whether a value stands for the absence of content. -/
def isUnit (reading : Reading) : Value → Bool
  | .null => true
  | .object [] => reading = .setAside
  | _ => false

/-- One of several names: a string, or an object with the name as its only key and no
content. -/
def toVariant (reading : Reading) (names : List String) : Value → Decoded String
  | .string s => if names.contains s then .ok s else .error (.unknownVariant s names)
  | .object [(s, content)] =>
    if !names.contains s then .error (.unknownVariant s names)
    else if content.isUnit reading then .ok s
    else .error (.wrongType content.found "unit")
  | .object _ => .error (.wrongValue .map "map with a single key")
  | v => .error (.wrongType v.found "string or map")

/-- A value that is smaller than `n`. -/
abbrev Below (n : Nat) := { v : Value // sizeOf v < n }

theorem sizeOf_lt_of_mem_array
    {v : Value} {items : List Value} (h : v ∈ items) :
  sizeOf v < sizeOf (Value.array items)
  := by
  have := List.sizeOf_lt_of_mem h
  simp only [Value.array.sizeOf_spec]
  omega

theorem sizeOf_lt_of_mem_object
    {k : String} {v : Value} {fields : List (String × Value)} (h : (k, v) ∈ fields) :
  sizeOf v < sizeOf (Value.object fields)
  := by
  have := List.sizeOf_lt_of_mem h
  simp only [Value.object.sizeOf_spec, Prod.mk.sizeOf_spec] at this ⊢
  omega

/-- The items of an array, which are smaller than it. -/
def belowItems (items : List Value) : List (Below (sizeOf (Value.array items))) :=
  items.attach.map fun v => ⟨v.1, sizeOf_lt_of_mem_array v.2⟩

/-- The fields of an object, whose values are smaller than it. -/
def belowFields (fields : List (String × Value)) :
    List (String × Below (sizeOf (Value.object fields))) :=
  fields.attach.map fun f => (f.1.1, ⟨f.1.2, sizeOf_lt_of_mem_object f.2⟩)

end Value

/-! ### Records -/

/-- The fields of a record: by their keys, or in their order. -/
inductive Record.Content (n : Nat) where
  | named (fields : List (String × Value.Below n))
  | listed (items : List (Value.Below n))

/-- A record of which the fields remain to be read. Its values are smaller than `n`. -/
structure Record (n : Nat) where
  reading : Reading
  shape : String
  keys : List String
  content : Record.Content n

namespace Record

variable {n : Nat}

/-- The value of a field, if it is present. -/
def get? (r : Record n) (key : String) : Option (Value.Below n) :=
  match r.content with
  | .named fields => fields.lookup key
  | .listed items => (r.keys.idxOf? key).bind fun i => items[i]?

/-- What is noted of a field once it has been read: whether it is required but missing,
and whether it is at fault. -/
structure Report where
  key : String
  missing : Bool
  fault : Option DecodeError

/-- The fault of the smallest key. -/
def firstFault : List Report → Option (String × DecodeError)
  | [] => none
  | report :: reports =>
    match report.fault, firstFault reports with
    | none, later => later
    | some e, none => some (report.key, e)
    | some e, some (key, later) =>
      if key < report.key then some (key, later) else some (report.key, e)

/-- A number of elements. -/
def elements (n : Nat) : String :=
  Text.integerText n ++ (if n = 1 then " element" else " elements")

/-- The first fault of the items of an array, from the item `i` on. -/
def listedFault (shape : String) (count i : Nat) : List Report → Option DecodeError
  | [] => none
  | report :: reports =>
    if report.missing then some (.wrongLength i (shape ++ " with " ++ elements count))
    else
      match report.fault with
      | some e => some e
      | none => listedFault shape count (i + 1) reports

/-- The fault of items beyond the fields. -/
def surplusFault (reading : Reading) (count length : Nat) : Option DecodeError :=
  if length ≤ count then none
  else
    match reading with
    | .direct => some (.wrongLength length "fewer elements in array")
    | .setAside => some (.wrongLength length (elements count ++ " in sequence"))

/-- The fault to report, given the reports of the fields in their order. -/
def fault? (r : Record n) (reports : List Report) : Option DecodeError :=
  match r.content with
  | .named _ =>
    match firstFault reports with
    | some (_, e) => some e
    | none => (reports.find? Report.missing).map fun report => .missingField report.key
  | .listed items =>
    (listedFault r.shape r.keys.length 0 reports).or
      (surplusFault r.reading r.keys.length items.length)

/-- Reports the first fault. -/
def settle (r : Record n) (reports : List Report) : Decoded Unit :=
  match r.fault? reports with
  | some e => .error e
  | none => .ok ()

end Record

/-- A field of a record as read: absent, at fault, or of a value. -/
abbrev Field (α : Type) := Option (Decoded α)

namespace Field

variable {α : Type}

/-- The fault of a field. -/
def fault : Field α → Option DecodeError
  | some (.error e) => some e
  | _ => none

/-- The report of a field that may be absent. -/
def optional (key : String) (field : Field α) : Record.Report :=
  ⟨key, false, field.fault⟩

/-- The report of a field that may not be absent. -/
def required (key : String) (field : Field α) : Record.Report :=
  ⟨key, field.isNone, field.fault⟩

/-- The value of a required field. -/
def value (key : String) : Field α → Decoded α
  | none => .error (.missingField key)
  | some x => x

/-- The value of a field, or the given one if it is absent. -/
def valueD (instead : α) : Field α → Decoded α
  | none => .ok instead
  | some x => x

end Field

/-- Reads a field by a function on values. -/
def Record.field {n : Nat} {α : Type} (r : Record n) (read : Value → Decoded α)
    (key : String) : Field α :=
  (r.get? key).map fun v => read v.1

/-- The record that a value writes. -/
def Value.toRecord (reading : Reading) (shape : String) (keys : List String) :
    (v : Value) → Decoded (Record (sizeOf v))
  | .object fields => .ok ⟨reading, shape, keys, .named (belowFields fields)⟩
  | .array items => .ok ⟨reading, shape, keys, .listed (belowItems items)⟩
  | v => .error (.wrongType v.found shape)

/-! ### Tagged records -/

/-- The name of the field that holds the tag. -/
def tagKey : String := "type"

/-- The tag that a value writes: a string, or, in what was set aside, the index of one of
the names. -/
def Value.toTag (reading : Reading) (names : List String) : Value → Decoded String
  | .string s => .ok s
  | .integer n =>
    if reading = .setAside && 0 ≤ n then .ok (names.getD n.toNat "")
    else .error (.wrongType (.integer n) "variant identifier")
  | v => .error (.wrongType v.found "variant identifier")

/-- The tag of a tagged record together with its content. -/
def Value.toTagged (reading : Reading) (shape : String) (names : List String) :
    (v : Value) → Decoded (String × Record.Content (sizeOf v))
  | .object fields =>
    match fields.lookup tagKey with
    | none => .error (.missingField tagKey)
    | some tag => do
      let name ← tag.toTag reading names
      return (name, .named (belowFields fields))
  | .array items =>
    match items.head? with
    | none => .error (.missingField tagKey)
    | some tag => do
      let name ← tag.toTag reading names
      return (name, .listed ((belowItems items).drop 1))
  | v => .error (.wrongType v.found shape)

/-- The record of the content of a tagged record. -/
def Record.Content.toRecord {n : Nat} (content : Record.Content n) (shape : String)
    (keys : List String) : Record n :=
  ⟨.setAside, shape, keys, content⟩

end ClientGen
