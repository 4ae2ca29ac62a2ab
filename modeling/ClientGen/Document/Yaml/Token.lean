/-!
# Tokens of a YAML text
-/

namespace ClientGen.Yaml

/-- A tag: its handle and its suffix. -/
structure Tag where
  handle : String
  suffix : String
deriving DecidableEq

/-- The text that a tag stands for. The handle `!!` is short for a longer text. -/
def Tag.fullText (t : Tag) : String :=
  (if t.handle = "!!" then "tag:yaml.org,2002:" else t.handle) ++ t.suffix

/-- A line before a document: the version of its notation, a handle of tags with the text for
which it stands, or something else. -/
inductive Directive where
  | version (major minor : Nat)
  | tagHandle (handle text : String)
  | other
deriving DecidableEq

/-- A token of a YAML text. Block collections start and end where the indentation
says so; `key` and `value` stand before a key and before its value. -/
inductive Token where
  | directive (d : Directive)
  | documentStart
  | documentEnd
  | blockSequenceStart
  | blockMappingStart
  | blockEnd
  | flowSequenceStart
  | flowSequenceEnd
  | flowMappingStart
  | flowMappingEnd
  | blockEntry
  | flowEntry
  | key
  | value
  | anchor (name : String)
  | recall (name : String)
  | tag (tag : Tag)
  | scalar (plain : Bool) (text : String)
deriving DecidableEq

/-- Whether a token is a directive. -/
def Token.isDirective : Token → Bool
  | .directive _ => true
  | _ => false

end ClientGen.Yaml
