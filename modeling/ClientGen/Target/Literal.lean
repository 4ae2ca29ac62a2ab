import ClientGen.Program.Model
import ClientGen.Target.Language
import ClientGen.Text.Whitespace

/-!
# Literals

The spelling of strings and other literal values in a target language. A string stands
between delimiters; the backslash, the delimiter, line feed, carriage return and tab are
written with a backslash, and in Dart the dollar sign too. `readQuoted` reads such a text
back.
-/

namespace ClientGen

/-- How a language delimits strings: by a quote, with further characters that are
written with a backslash. -/
structure Quoting where
  quote : Char
  escaped : List Char

/-- The quoting of a language. -/
def Language.quoting : Language → Quoting
  | .typescript => ⟨'"', []⟩
  | .python => ⟨'"', []⟩
  | .dart => ⟨'\'', ['$']⟩

namespace Quoting

/-- A character as it stands between the delimiters. -/
def escapeChar (q : Quoting) (c : Char) : List Char :=
  if c = '\\' then ['\\', '\\']
  else if c = '\n' then ['\\', 'n']
  else if c = '\r' then ['\\', 'r']
  else if c = '\t' then ['\\', 't']
  else if c = q.quote || q.escaped.contains c then ['\\', c]
  else [c]

/-- The text between the delimiters. -/
def escape (q : Quoting) (cs : List Char) : List Char :=
  cs.flatMap q.escapeChar

/-- A text with its delimiters. -/
def quoteChars (q : Quoting) (cs : List Char) : List Char :=
  q.quote :: q.escape cs ++ [q.quote]

/-- The character that a backslash and a character stand for. -/
def unescapeChar (c : Char) : Char :=
  if c = 'n' then '\n' else if c = 'r' then '\r' else if c = 't' then '\t' else c

/-- The text up to the first delimiter without a backslash, and what follows it. -/
def readBody (q : Quoting) : List Char → Option (List Char × List Char)
  | [] => none
  | '\\' :: [] => none
  | '\\' :: c :: cs => (readBody q cs).map fun (read, rest) => (unescapeChar c :: read, rest)
  | c :: cs =>
    if c = q.quote then some ([], cs)
    else (readBody q cs).map fun (read, rest) => (c :: read, rest)

/-- The text that a delimited text writes, and what follows it. -/
def readQuoted (q : Quoting) : List Char → Option (List Char × List Char)
  | [] => none
  | c :: cs => if c = q.quote then readBody q cs else none

end Quoting

namespace Language

/-- A string literal. -/
def quoteString (lang : Language) (s : String) : String :=
  String.ofList (lang.quoting.quoteChars s.toList)

/-- A boolean literal. -/
def booleanLiteral (lang : Language) (b : Bool) : String :=
  match lang with
  | .python => if b then "True" else "False"
  | .typescript | .dart => if b then "true" else "false"

/-- The literal for the absence of a value. -/
def nullLiteral : Language → String
  | .python => "None"
  | .typescript | .dart => "null"

/-- Whether the text of a boolean literal says that it holds. -/
def meansTrue (text : String) : Bool :=
  (Text.trim text.toList).map Char.toLower = "true".toList

/-- The spelling of a literal. -/
def literal (lang : Language) (l : Literal) : String :=
  match l.kind with
  | .string => lang.quoteString l.text
  | .boolean => lang.booleanLiteral (meansTrue l.text)
  | .null => lang.nullLiteral
  | .number | .raw => l.text

end Language

end ClientGen
