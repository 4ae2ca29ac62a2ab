import ClientGen.Document.Value
import ClientGen.Document.Yaml.Datum

/-!
# Reading YAML texts

`Yaml.data?` reads the documents of a YAML text into data, and `Yaml.firstValue` gives the value
of the first of them. A real that no finite double is near to is kept as a string. The keys of a
mapping are strings, booleans, integers or reals; a key is written as its text.
-/

namespace ClientGen.Yaml

/-- Why a text gives no value. -/
inductive Error where
  | notYaml
  | noDocument
  | invalidValue
  | unsupportedKey (key : Datum)

/-- The wording of an error. -/
def Error.message : Error → String
  | .notYaml => "YAML parse error: the text is not well formed"
  | .noDocument => "YAML document is empty"
  | .invalidValue => "YAML document contains an invalid value"
  | .unsupportedKey key => "unsupported YAML mapping key: " ++ key.messageText

namespace Datum

/-- The text of a key of a mapping. -/
def keyText : Datum → Except Error String
  | .string text => .ok text
  | .real text => .ok text
  | .integer n => .ok (Text.integerText n)
  | .bool b => .ok (if b then "true" else "false")
  | key => .error (.unsupportedKey key)

/-- The value of a real: the nearest double, or its text if that is not finite. -/
def realValue (text : String) : Value :=
  match (Decimal.ofText? text).bind Decimal.toDouble? with
  | some x => .double x
  | none => .string text

mutual

/-- The value of a datum. -/
def toValue : Datum → Except Error Value
  | .null => .ok .null
  | .bool b => .ok (.bool b)
  | .integer n => .ok (.integer n)
  | .real text => .ok (realValue text)
  | .string text => .ok (.string text)
  | .list items => (itemValues items).map .array
  | .table entries => (entryValues entries).map Value.ofFields
  | .invalid => .error .invalidValue

/-- The values of the items of a list. -/
def itemValues : List Datum → Except Error (List Value)
  | [] => .ok []
  | d :: ds => do
    let v ← toValue d
    let vs ← itemValues ds
    return v :: vs

/-- The fields of the entries of a table. -/
def entryValues : List (Datum × Datum) → Except Error (List (String × Value))
  | [] => .ok []
  | (key, value) :: entries => do
    let k ← keyText key
    let v ← toValue value
    let fields ← entryValues entries
    return (k, v) :: fields

end

end Datum

/-- The data of the documents of a text, or none where it is no YAML. -/
def data? (text : String) : Option (List Datum) :=
  (Node.ofText? .loose text).map fun nodes => nodes.map Datum.ofNode

/-- The value of the first of the documents that have been read. -/
def firstValue : Option (List Datum) → Except Error Value
  | none => .error .notYaml
  | some [] => .error .noDocument
  | some (d :: _) => d.toValue

end ClientGen.Yaml
