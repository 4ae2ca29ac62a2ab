import ClientGen.Document.Yaml.Node
import ClientGen.Number.Decimal
import ClientGen.Text.Quoted

/-!
# Data of a YAML document

A datum is a node whose scalars have been given their kind. A plain scalar without a tag
is null, a boolean, an integer of 64 bits, a real, or else a string; a real keeps the
text that writes it. The tags `!!bool`, `!!int`, `!!float` and `!!null` on a plain scalar
demand their kind, and any other tag makes it a string.
-/

namespace ClientGen.Yaml

/-- The data of a YAML document. -/
inductive Datum where
  | null
  | bool (b : Bool)
  | integer (n : Int)
  | real (text : String)
  | string (text : String)
  | list (items : List Datum)
  | table (entries : List (Datum × Datum))
  | invalid
deriving BEq, Inhabited

namespace Datum

/-! ### Scalars -/

/-- The words that stand for reals which are not finite. -/
def realWords : List String :=
  [".inf", ".Inf", ".INF", "+.inf", "+.Inf", "+.INF", "-.inf", "-.Inf", "-.INF",
    ".nan", "NaN", ".NAN"]

/-- Whether a text writes a real. -/
def isReal (text : String) : Bool :=
  realWords.contains text || (Decimal.ofText? text).isSome

/-- An integer in base sixteen or eight after its mark, or one in base ten. -/
def integer? (text : String) : Option Int :=
  match text.toList with
  | '0' :: 'x' :: cs => Text.int64? 16 cs
  | '0' :: 'o' :: cs => Text.int64? 8 cs
  | '+' :: cs => Text.int64? 10 cs
  | cs => Text.int64? 10 cs

/-- The datum of a plain scalar without a tag. -/
def ofPlain (text : String) : Datum :=
  match integer? text with
  | some n => .integer n
  | none =>
    if text = "~" || text = "null" then .null
    else if text = "true" then .bool true
    else if text = "false" then .bool false
    else if isReal text then .real text
    else .string text

/-- The datum of a plain scalar with a tag. -/
def ofTagged (tag : Tag) (text : String) : Datum :=
  if tag.handle ≠ "!!" then .string text
  else if tag.suffix = "bool" then
    if text = "true" then .bool true else if text = "false" then .bool false else .invalid
  else if tag.suffix = "int" then
    match Text.int64? 10 text.toList with
    | some n => .integer n
    | none => .invalid
  else if tag.suffix = "float" then
    if isReal text then .real text else .invalid
  else if tag.suffix = "null" then
    if text = "~" || text = "null" then .null else .invalid
  else .string text

/-! ### Collections -/

/-- Sets the value of a key; the entry becomes the last one. -/
def setEntry (entries : List (Datum × Datum)) (key value : Datum) : List (Datum × Datum) :=
  entries.filter (fun entry => !(entry.1 == key)) ++ [(key, value)]

/-- Pairs the keys and values of a mapping, given one after the other. A datum that is
invalid is passed over where a key is expected. -/
def pairUp (entries : List (Datum × Datum)) :
    Option Datum → List Datum → List (Datum × Datum)
  | _, [] => entries
  | none, d :: ds =>
    if d == .invalid then pairUp entries none ds else pairUp entries (some d) ds
  | some key, d :: ds => pairUp (setEntry entries key d) none ds

mutual

/-- The datum of a node. -/
def ofNode : Node → Datum
  | .absent => .null
  | .scalar plain tag text =>
    if plain then
      match tag with
      | none => ofPlain text
      | some tag => ofTagged tag text
    else
      .string text
  | .sequence items => .list (ofNodes items)
  | .mapping entries => .table (pairUp [] none (ofEntries entries))
  | .unfinished => .invalid

/-- The data of nodes. -/
def ofNodes : List Node → List Datum
  | [] => []
  | node :: nodes => ofNode node :: ofNodes nodes

/-- The data of keys and values, one after the other. -/
def ofEntries : List (Node × Node) → List Datum
  | [] => []
  | (key, value) :: entries => ofNode key :: ofNode value :: ofEntries entries

end

/-! ### Text in messages -/

/-- The name of a kind of datum together with its content. -/
def labelled (label content : String) : String :=
  label ++ "(" ++ content ++ ")"

mutual

/-- The text of a datum in messages. -/
def messageText : Datum → String
  | .null => "Null"
  | .bool b => labelled "Boolean" (if b then "true" else "false")
  | .integer n => labelled "Integer" (Text.integerText n)
  | .real text => labelled "Real" (Text.quoted text)
  | .string text => labelled "String" (Text.quoted text)
  | .list items => labelled "Array" ("[" ++ ", ".intercalate (itemTexts items) ++ "]")
  | .table entries =>
    labelled "Hash" ("\x7b" ++ ", ".intercalate (entryTexts entries) ++ "\x7d")
  | .invalid => "BadValue"

/-- The texts of the items of a list. -/
def itemTexts : List Datum → List String
  | [] => []
  | d :: ds => messageText d :: itemTexts ds

/-- The texts of the entries of a table. -/
def entryTexts : List (Datum × Datum) → List String
  | [] => []
  | (key, value) :: entries =>
    (messageText key ++ ": " ++ messageText value) :: entryTexts entries

end

end Datum

end ClientGen.Yaml
