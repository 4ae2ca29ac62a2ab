import ClientGen.Document.Yaml.Node
import ClientGen.Options.Exposure
import ClientGen.Options.Package
import ClientGen.Text.Whitespace

/-!
# Settings

The settings of a project are written in a YAML text, in which every setting may be left
out, and which is read by the strict rules. A text is expected where a scalar stands,
whatever it looks like, so that the version `1.0` need not be quoted. Settings that are not
known are passed over.
-/

namespace ClientGen

/-- The settings of a project. -/
structure Settings where
  inputs : List String := []
  languages : List String := []
  output : Option String := none
  channel : Option Channel := none
  package : Option Package := none
  exposure : Exposure := {}
deriving DecidableEq, Inhabited

namespace Settings

/-- Why a text gives no settings. -/
inductive Error where
  | notYaml
  | severalDocuments
  | wrongForm (expected : String)
  | repeatedField (name : String)
  | missingField (name : String)
deriving DecidableEq

/-- The wording of an error. -/
def Error.message : Error → String
  | .notYaml => "the text is not well formed"
  | .severalDocuments => "there is more than one document"
  | .wrongForm expected => "expected " ++ expected
  | .repeatedField name => "duplicate field \x60" ++ name ++ "\x60"
  | .missingField name => "missing field \x60" ++ name ++ "\x60"

/-- What reading a node gives. -/
abbrev Read (α : Type) := Except Error α

open Yaml (Node Tag)

/-! ### Scalars -/

/-- The tag of what is null. -/
def nullTag : String := "tag:yaml.org,2002:null"

/-- The name that a tag of the document's own writes after its exclamation mark. -/
def ownName? (tag : Tag) : Option String :=
  match tag.fullText.toList with
  | '!' :: name => some (String.ofList name)
  | _ => none

/-- The texts of null. -/
def isNullText (text : String) : Bool :=
  ["null", "Null", "NULL", "~"].contains text

/-- Whether a node is a scalar that is left empty. -/
def isEmptyScalar : Node → Bool
  | .absent => true
  | .scalar true _ "" => true
  | _ => false

/-- A text. -/
def readText : Node → Read String
  | .absent => .ok ""
  | .scalar _ _ text => .ok text
  | _ => .error (.wrongForm "a string")

/-- Whether a node stands for no value. -/
def isNone : Node → Read Bool
  | .absent => .ok true
  | .scalar true none text => .ok (text = "" || isNullText text)
  | .scalar true (some tag) text =>
    if tag.fullText ≠ nullTag then .ok false
    else if isNullText text then .ok true
    else .error (.wrongForm "null")
  | _ => .ok false

/-- A value that may be left out. -/
def readOption {α : Type} (read : Node → Read α) (node : Node) : Read (Option α) := do
  if ← isNone node then return none
  else return some (← read node)

/-- A channel with a name. -/
def channelNamed (name : String) : Read Channel :=
  match Channel.ofName? name with
  | some channel => .ok channel
  | none => .error (.wrongForm "a channel")

/-- A channel: its name, or its name as a tag of nothing. -/
def readChannel : Node → Read Channel
  | .scalar plain (some tag) text =>
    match ownName? tag with
    | none => channelNamed text
    | some name =>
      if plain && (text = "" || isNullText text) then channelNamed name
      else .error (.wrongForm "null")
  | node => (readText node).bind channelNamed

/-! ### Collections -/

/-- The items of a sequence. -/
def readList {α : Type} (read : Node → Read α) : Node → Read (List α)
  | .sequence items => items.mapM read
  | node => if isEmptyScalar node then .ok [] else .error (.wrongForm "a sequence")

/-- The fields of a mapping. -/
def readFields : Node → Read (List (String × Node))
  | .mapping entries => entries.mapM fun (key, value) => (readText key).map (·, value)
  | node => if isEmptyScalar node then .ok [] else .error (.wrongForm "a mapping")

/-- The value of a field that occurs at most once. -/
def fieldOf {α : Type} (fields : List (String × Node)) (name : String)
    (read : Node → Read α) : Read (Option α) :=
  match fields.filter fun field => field.1 = name with
  | [] => .ok none
  | [(_, node)] => (read node).map some
  | _ => .error (.repeatedField name)

/-- The value of a field that occurs once. -/
def requiredField {α : Type} (fields : List (String × Node)) (name : String)
    (read : Node → Read α) : Read α := do
  match ← fieldOf fields name read with
  | some a => return a
  | none => throw (.missingField name)

/-! ### Settings -/

/-- A package. -/
def readPackage (node : Node) : Read Package := do
  let fields ← readFields node
  let name ← requiredField fields "name" readText
  let version ← requiredField fields "version" readText
  return { name := name, version := version }

/-- The channel of a method. -/
def readMethod (node : Node) : Read MethodExposure := do
  let fields ← readFields node
  let name ← requiredField fields "name" readText
  let channel ← requiredField fields "type" readChannel
  return { name := name, channel := channel }

/-- The exposure of a class. -/
def readClass (node : Node) : Read ClassExposure := do
  let fields ← readFields node
  let name ← requiredField fields "name" readText
  let channel ← fieldOf fields "type" (readOption readChannel)
  let methods ← fieldOf fields "methods" (readList readMethod)
  return { name := name, channel := channel.join, methods := methods.getD [] }

/-- An exposure. -/
def readExposure (node : Node) : Read Exposure := do
  let fields ← readFields node
  let classes ← fieldOf fields "classes" (readList readClass)
  return { classes := classes.getD [] }

/-- The settings that a node writes. -/
def ofNode (node : Node) : Read Settings := do
  let fields ← readFields node
  let inputs ← fieldOf fields "input" (readList readText)
  let languages ← fieldOf fields "languages" (readList readText)
  let output ← fieldOf fields "output" (readOption readText)
  let channel ← fieldOf fields "channel" (readOption readChannel)
  let package ← fieldOf fields "package" (readOption readPackage)
  let exposure ← fieldOf fields "exposure" readExposure
  return {
    inputs := inputs.getD []
    languages := languages.getD []
    output := output.join
    channel := channel.join
    package := package.join
    exposure := exposure.getD {} }

/-- Whether a character may stand in the text of settings. -/
def isTextChar (c : Char) : Bool :=
  let n := c.toNat
  n = 0x09 || n = 0x0A || n = 0x0D || (0x20 ≤ n && n ≤ 0x7E) || n = 0x85
    || (0xA0 ≤ n && n ≤ 0xFFFD) || 0x10000 ≤ n

/-- The settings that a YAML text writes. -/
def ofText (text : String) : Read Settings :=
  if !text.toList.all isTextChar then .error .notYaml
  else
    match Node.ofText? .strict text with
    | none => .error .notYaml
    | some [] => .ok {}
    | some [node] => ofNode node
    | some _ => .error .severalDocuments

/-- The settings of a text, which has none if it is blank and else is read by `read`. -/
def parse (read : String → Except String Settings) (text : String) : Except String Settings :=
  if text.toList.all Text.isBlank then .ok {} else read text

end Settings

end ClientGen
