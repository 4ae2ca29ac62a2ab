import ClientGen.Document.Json.Reader
import ClientGen.Document.Yaml.Reader

/-!
# Reading documents

A document is a JSON or a YAML text. The ending of its path decides which, in any case of
letters; without a telling path it is read as JSON, and as YAML if that fails. The readers of the
two notations may be any; if none are given, they are those of this library.
-/

namespace ClientGen.Document

/-- The readers of the two notations: that of JSON gives a value or the reason why the text has
none, and that of YAML the data of all documents. -/
structure Readers where
  json : String → Except String Value := fun text => (Json.parse text).mapError Json.Error.message
  yaml : String → Option (List Yaml.Datum) := Yaml.data?

/-- Why a text is no document. -/
inductive Error where
  | json (reason : String)
  | yaml (error : Yaml.Error)

/-- The wording of an error. -/
def Error.message : Error → String
  | .json reason => "Invalid JSON: JSON parse error: " ++ reason
  | .yaml error => "Invalid YAML: " ++ error.message

/-- The two dialects of documents. -/
inductive Dialect where
  | json
  | yaml
deriving DecidableEq

/-- The dialect that the ending of a path tells. -/
def dialectOf? (path : String) : Option Dialect :=
  let ends (suffix : String) : Bool :=
    suffix.toList.isSuffixOf (path.toList.map Char.toLower)
  if ends ".json" then some .json
  else if ends ".yaml" || ends ".yml" then some .yaml
  else none

/-- The value of a document in a known dialect. -/
def parseAs (readers : Readers) : Dialect → String → Except Error Value
  | .json, text => (readers.json text).mapError .json
  | .yaml, text => (Yaml.firstValue (readers.yaml text)).mapError .yaml

/-- The value of a document. -/
def parse (text : String) (path : Option String) (readers : Readers := {}) :
    Except Error Value :=
  match path.bind dialectOf? with
  | some n => parseAs readers n text
  | none =>
    match readers.json text with
    | .ok v => .ok v
    | .error _ => parseAs readers .yaml text

end ClientGen.Document
