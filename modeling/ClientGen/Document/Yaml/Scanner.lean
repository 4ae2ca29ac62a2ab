import ClientGen.Document.Yaml.Property
import ClientGen.Document.Yaml.Scalar

/-!
# The tokens of a YAML text

`tokens?` gives the tokens of a text, or none where it is no YAML. Indentation opens and
closes block collections. A token that a colon may follow is remembered as a possible
key of its flow level, and the colon puts the `key` token before it. A key must stand on
one line, within 1024 characters of its colon.
-/

namespace ClientGen.Yaml

/-- A place where a key may start: the index of its first token, and its mark. A
required key has to be followed by a colon. -/
structure KeyPlace where
  possible : Bool := false
  required : Bool := false
  token : Nat := 0
  mark : Mark := {}

/-- What has been scanned so far. The flow levels are given by their possible keys, the
innermost first; the last one belongs to the block context. `adjacent` is the index at
which a colon may directly follow a quoted key. -/
structure Scan where
  cursor : Cursor
  tokens : Array Token := #[]
  keyAllowed : Bool := true
  keys : List KeyPlace := [{}]
  indent : Int := -1
  outer : List Int := []
  adjacent : Option Nat := none

namespace Scan

/-- The rules by which the text is scanned. -/
def rules (s : Scan) : Rules :=
  s.cursor.rules

/-- Whether the scan stands within a flow collection. -/
def inFlow (s : Scan) : Bool :=
  1 < s.keys.length

/-- Adds a token. -/
def push (s : Scan) (t : Token) : Scan :=
  { s with tokens := s.tokens.push t }

/-- Adds a token and passes over its `n` characters. -/
def pushOver (s : Scan) (t : Token) (n : Nat) : Scan :=
  { s with tokens := s.tokens.push t, cursor := s.cursor.skip n }

/-- Inserts a token before the token of index `n`. -/
def insert (s : Scan) (n : Nat) (t : Token) : Scan :=
  { s with tokens := s.tokens.insertIdxIfInBounds n t }

/-! ### Indentation -/

/-- Opens a block collection at a column that is indented further, its token standing
before the token of index `n`. -/
def openBlock (s : Scan) (column n : Nat) (t : Token) : Scan :=
  if !s.inFlow && s.indent < column then
    { s.insert n t with indent := column, outer := s.indent :: s.outer }
  else
    s

/-- The number of the open blocks that are indented further than `column`, and what is
left of them. -/
def closing (column : Int) (indent : Int) : List Int → Nat × Int × List Int
  | [] => (0, indent, [])
  | previous :: outer =>
    if column < indent then
      let (n, rest) := closing column previous outer
      (n + 1, rest)
    else
      (0, indent, previous :: outer)

/-- Closes the blocks that are indented further than `column`. -/
def closeBlocks (s : Scan) (column : Int) : Scan :=
  if s.inFlow then
    s
  else
    let (n, indent, outer) := closing column s.indent s.outer
    { s with
      tokens := s.tokens ++ Array.replicate n Token.blockEnd
      indent := indent
      outer := outer }

/-! ### Possible keys -/

/-- Gives up the possible keys that lie too far back; none if one of them is required. -/
def dropStale (s : Scan) : Option Scan :=
  let here := s.cursor.mark
  let stale (k : KeyPlace) : Bool :=
    k.possible && (k.mark.line < here.line || k.mark.index + 1024 < here.index)
  if s.keys.any fun k => stale k && k.required then none
  else some { s with
    keys := s.keys.map fun k => if stale k then { k with possible := false } else k }

/-- Gives up the possible key of the current flow level; none if it is required. -/
def dropKey (s : Scan) : Option Scan :=
  match s.keys with
  | [] => some s
  | k :: keys =>
    if k.possible && k.required then none
    else some { s with keys := { k with possible := false } :: keys }

/-- Whether a key has to stand where it is no further indented than the block around it: within
flow collections by the loose rules, and outside of them by the strict ones. -/
def requiresKey (s : Scan) : Bool :=
  match s.rules with
  | .loose => s.inFlow
  | .strict => !s.inFlow

/-- Remembers that the next token may start a key. -/
def saveKey (s : Scan) : Option Scan :=
  if s.keyAllowed then
    s.dropKey.map fun s =>
      let mark := s.cursor.mark
      let place : KeyPlace :=
        { possible := true
          required := s.requiresKey && decide (s.indent = (mark.column : Int))
          token := s.tokens.size
          mark := mark }
      { s with keys := place :: s.keys.drop 1 }
  else
    some s

/-! ### Tokens -/

/-- Adds what a reader gives at the cursor, as a token that may start a key. -/
def property (s : Scan) {α : Type} (read : Cursor → Option (α × Cursor))
    (token : α → Token) : Option Scan := do
  let s ← s.saveKey
  let (a, past) ← read s.cursor
  return { s.push (token a) with cursor := past, keyAllowed := false }

/-- The deepest nesting of flow collections by the loose rules. -/
def flowLimit : Nat := 255

/-- An opening bracket. -/
def openFlow (s : Scan) (t : Token) : Option Scan := do
  let s ← s.saveKey
  guard (s.rules = .strict || s.keys.length ≤ flowLimit)
  return { s.pushOver t 1 with keys := {} :: s.keys, keyAllowed := true }

/-- A closing bracket. -/
def closeFlow (s : Scan) (t : Token) : Option Scan := do
  let s ← s.dropKey
  let keys := if s.inFlow then s.keys.drop 1 else s.keys
  return { s.pushOver t 1 with keys := keys, keyAllowed := false }

/-- A comma of a flow collection. -/
def flowEntry (s : Scan) : Option Scan := do
  let s ← s.dropKey
  return { s.pushOver .flowEntry 1 with keyAllowed := true }

/-- A dash of a block sequence. -/
def blockEntry (s : Scan) : Option Scan := do
  guard (!s.inFlow && s.keyAllowed)
  let s := s.openBlock s.cursor.mark.column s.tokens.size .blockSequenceStart
  let s ← s.dropKey
  return { s.pushOver .blockEntry 1 with keyAllowed := true }

/-- A question mark before a key. -/
def explicitKey (s : Scan) : Option Scan := do
  guard (s.inFlow || s.keyAllowed)
  let s := s.openBlock s.cursor.mark.column s.tokens.size .blockMappingStart
  let s ← s.dropKey
  return { s.pushOver .key 1 with keyAllowed := !s.inFlow }

/-- A colon before a value. -/
def mappingValue (s : Scan) : Option Scan :=
  match s.keys with
  | [] => none
  | k :: keys =>
    if k.possible then
      let s := s.insert k.token .key
      let s := s.openBlock k.mark.column k.token .blockMappingStart
      some { s.pushOver .value 1 with
        keys := { k with possible := false } :: keys, keyAllowed := false }
    else if s.inFlow then
      some { s.pushOver .value 1 with keyAllowed := false }
    else if s.keyAllowed then
      let s := s.openBlock s.cursor.mark.column s.tokens.size .blockMappingStart
      some { s.pushOver .value 1 with keyAllowed := true }
    else
      none

/-- A block scalar, which by the strict rules is no key. -/
def blockScalar (s : Scan) (literal : Bool) : Option Scan := do
  let s ← match s.rules with
    | .loose => s.saveKey
    | .strict => s.dropKey
  let (text, past) ← block literal s.indent s.cursor
  return { s.push (.scalar false text) with cursor := past, keyAllowed := true }

/-- A quoted scalar. -/
def quotedScalar (s : Scan) (single : Bool) : Option Scan := do
  let s ← s.saveKey
  let (text, past) ← quoted single s.cursor
  return { s.push (.scalar false text) with
    cursor := past, keyAllowed := false, adjacent := some past.mark.index }

/-- A plain scalar. -/
def plainScalar (s : Scan) : Option Scan := do
  let s ← s.saveKey
  let (text, ended, past) ← plain s.inFlow s.indent s.cursor
  return { s.push (.scalar true text) with cursor := past, keyAllowed := ended }

/-- A line of a directive. -/
def directiveLine (s : Scan) : Option Scan := do
  let s ← (s.closeBlocks (-1)).dropKey
  let (d, past) ← directive s.cursor
  return { s.push (.directive d) with cursor := past, keyAllowed := false }

/-- The marker of the start or the end of a document. -/
def documentMarker (s : Scan) (t : Token) : Option Scan := do
  let s ← (s.closeBlocks (-1)).dropKey
  return { s.pushOver t 3 with keyAllowed := false }

/-- Whether a mark of the encoding may be passed over: by the strict rules at the start of a
line. -/
def atEncodingMark (s : Scan) : Bool :=
  s.rules = .strict && s.cursor.mark.column = 0 && s.cursor.head = '\uFEFF'

/-- Passes over white space and comments. A tab is passed over where no key may start,
and outside flow collections a key may start on a new line. -/
def skipGaps (s : Scan) : Nat → Scan
  | 0 => s
  | steps + 1 =>
    let x := s.cursor.head
    if x = ' ' || (x = '\t' && (s.inFlow || !s.keyAllowed)) || s.atEncodingMark then
      { s with cursor := s.cursor.next }.skipGaps steps
    else if s.rules.isBreak x then
      { s with cursor := s.cursor.skipBreak, keyAllowed := s.keyAllowed || !s.inFlow }.skipGaps
        steps
    else if x = '#' then
      { s with cursor := s.cursor.skipWhile fun y => !s.rules.endsLine y }.skipGaps steps
    else
      s

/-- Whether the question mark at the cursor stands before a key. -/
def atKey (s : Scan) : Bool :=
  s.rules.isGap (s.cursor.peek 1) || (s.rules = .strict && s.inFlow)

/-- Whether the colon at the cursor stands before a value. -/
def atValue (s : Scan) : Bool :=
  let following := s.cursor.peek 1
  s.rules.isGap following || (s.inFlow && (s.rules = .strict || isFlowIndicator following
    || s.adjacent = some s.cursor.mark.index))

/-- Whether a plain scalar may start with the character at the cursor, which stands before no
other token. -/
def atPlain (s : Scan) : Bool :=
  let x := s.cursor.head
  match s.rules with
  | .loose => x ≠ '%' && x ≠ '@' && x ≠ '\x60'
  | .strict =>
    !isSpace x && !"|>%@".toList.contains x && x ≠ '\x60'

/-- Adds the token at the cursor, which stands at no end and no marker of a document. -/
def token (s : Scan) : Option Scan :=
  let x := s.cursor.head
  if x = '[' then s.openFlow .flowSequenceStart
  else if x = '\x7b' then s.openFlow .flowMappingStart
  else if x = ']' then s.closeFlow .flowSequenceEnd
  else if x = '\x7d' then s.closeFlow .flowMappingEnd
  else if x = ',' then s.flowEntry
  else if x = '-' && s.rules.isGap (s.cursor.peek 1) then s.blockEntry
  else if x = '?' && s.atKey then s.explicitKey
  else if x = ':' && s.atValue then s.mappingValue
  else if x = '*' then s.property anchorName .recall
  else if x = '&' then s.property anchorName .anchor
  else if x = '!' then s.property (tag s.inFlow) .tag
  else if x = '|' && !s.inFlow then s.blockScalar true
  else if x = '>' && !s.inFlow then s.blockScalar false
  else if x = '\'' then s.quotedScalar true
  else if x = '"' then s.quotedScalar false
  else if s.atPlain then s.plainScalar
  else none

/-- The tokens from the cursor to the end of the text. -/
def run (s : Scan) : Nat → Option (List Token)
  | 0 => none
  | steps + 1 => do
    let s ← (s.skipGaps steps).dropStale
    let s := s.closeBlocks s.cursor.mark.column
    if isEnd s.cursor.head then
      let s ← (s.closeBlocks (-1)).dropKey
      return s.tokens.toList
    else
      let s ←
        if s.cursor.mark.column = 0 && s.cursor.head = '%' then s.directiveLine
        else if s.cursor.atTriple '-' then s.documentMarker .documentStart
        else if s.cursor.atTriple '.' then s.documentMarker .documentEnd
        else s.token
      s.run steps

end Scan

/-- The tokens of a text, or none where it is no YAML by the given rules. -/
def tokens? (rules : Rules) (text : String) : Option (List Token) :=
  let cursor := Cursor.ofText rules text
  Scan.run { cursor := cursor } (cursor.rest.length + 1)

end ClientGen.Yaml
