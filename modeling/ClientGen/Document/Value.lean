import ClientGen.Number.Shortest
import ClientGen.Sorted
import ClientGen.Text.Digits

/-!
# Document values

The data of a document: null, booleans, integers, finite doubles, strings, arrays, and
objects. The fields of an object are kept in increasing order of their keys, each key
once; `Value.ofFields` brings fields into that form, where of two fields with one key
the later wins.
-/

namespace ClientGen

/-- The data of a document. -/
inductive Value where
  | null
  | bool (b : Bool)
  | integer (n : Int)
  | double (x : Double)
  | string (s : String)
  | array (items : List Value)
  | object (fields : List (String × Value))
deriving BEq, Inhabited

namespace Value

/-- The object with the given fields. -/
def ofFields (fields : List (String × Value)) : Value :=
  .object (Sorted.ofPairs fields)

/-- The value of a key of an object. -/
def field? (key : String) : Value → Option Value
  | .object fields => fields.lookup key
  | _ => none

/-- Whether the value is an array. -/
def isArray : Value → Bool
  | .array _ => true
  | _ => false

/-! ### Compact text -/

/-- A character as it stands in a string of the compact text. -/
def escapeChar (c : Char) : List Char :=
  if c = '"' || c = '\\' then ['\\', c]
  else if c = '\n' then ['\\', 'n']
  else if c = '\r' then ['\\', 'r']
  else if c = '\t' then ['\\', 't']
  else if c.toNat = 8 then ['\\', 'b']
  else if c.toNat = 12 then ['\\', 'f']
  else if c.toNat < 0x10 then ['\\', 'u', '0', '0', '0'] ++ Nat.toDigits 16 c.toNat
  else if c.toNat < 0x20 then ['\\', 'u', '0', '0'] ++ Nat.toDigits 16 c.toNat
  else [c]

/-- The text of a string between quotes. -/
def stringText (s : String) : String :=
  String.ofList ('"' :: s.toList.flatMap escapeChar ++ ['"'])

mutual

/-- The text of a value without spaces. -/
def compactText : Value → String
  | .null => "null"
  | .bool b => if b then "true" else "false"
  | .integer n => Text.integerText n
  | .double x => x.text
  | .string s => stringText s
  | .array items => "[" ++ ",".intercalate (itemTexts items) ++ "]"
  | .object fields => "\x7b" ++ ",".intercalate (fieldTexts fields) ++ "\x7d"

/-- The texts of the items of an array. -/
def itemTexts : List Value → List String
  | [] => []
  | v :: rest => compactText v :: itemTexts rest

/-- The texts of the fields of an object. -/
def fieldTexts : List (String × Value) → List String
  | [] => []
  | (k, v) :: rest => (stringText k ++ ":" ++ compactText v) :: fieldTexts rest

end

end Value

end ClientGen
