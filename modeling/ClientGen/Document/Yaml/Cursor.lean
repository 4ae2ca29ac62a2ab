/-!
# Cursors in a YAML text

A cursor is what remains of a YAML text together with its mark: the number of characters
behind it, the number of lines behind it, and the number of characters behind it
since the last line ended. A text ends at its first null character, so the null character
stands for the end. With the cursor go the rules by which the text is read: programs are
read by the loose ones and settings by the strict ones.
-/

namespace ClientGen.Yaml

/-- The rules by which a text is read. The strict rules know more characters that break a
line, and refuse texts that the loose rules let pass. -/
inductive Rules where
  | loose
  | strict
deriving DecidableEq

/-- Whether a character ends the text. -/
def isEnd (c : Char) : Bool :=
  c = '\x00'

/-- Whether a character is a space or a tab. -/
def isSpace (c : Char) : Bool :=
  c = ' ' || c = '\t'

namespace Rules

/-- Whether a character breaks a line. -/
def isBreak (rules : Rules) (c : Char) : Bool :=
  c = '\n' || c = '\r'
    || (rules = .strict && (c = '\u0085' || c = '\u2028' || c = '\u2029'))

/-- The character for which a break of a line stands in a scalar. -/
def breakChar (c : Char) : Char :=
  if c = '\u2028' || c = '\u2029' then c else '\n'

/-- Whether a line ends at a character. -/
def endsLine (rules : Rules) (c : Char) : Bool :=
  rules.isBreak c || isEnd c

/-- Whether a character separates tokens. -/
def isGap (rules : Rules) (c : Char) : Bool :=
  isSpace c || rules.endsLine c

end Rules

/-- Whether a character may be part of the name of an anchor, a directive or a tag
handle. -/
def isWordChar (c : Char) : Bool :=
  c.isAlphanum || c = '_' || c = '-'

/-- Whether a character is an indicator within flow collections. -/
def isFlowIndicator (c : Char) : Bool :=
  c = ',' || c = '[' || c = ']' || c = '\x7b' || c = '\x7d'

/-- A place in a YAML text. -/
structure Mark where
  index : Nat := 0
  line : Nat := 0
  column : Nat := 0
deriving DecidableEq

/-- The mark after a character. By the loose rules only a line feed ends a line. -/
def Mark.after (rules : Rules) (m : Mark) (c : Char) : Mark :=
  if c = '\n' || (rules = .strict && rules.isBreak c) then ⟨m.index + 1, m.line + 1, 0⟩
  else ⟨m.index + 1, m.line, m.column + 1⟩

/-- What remains of a YAML text, where it starts, and the rules by which it is read. -/
structure Cursor where
  rules : Rules
  rest : List Char
  mark : Mark := {}

namespace Cursor

/-- The cursor at the start of a text. -/
def ofText (rules : Rules) (text : String) : Cursor :=
  ⟨rules, text.toList.takeWhile fun c => !isEnd c, {}⟩

/-- The character `n` places further on. -/
def peek (c : Cursor) (n : Nat) : Char :=
  c.rest.getD n '\x00'

/-- The next character. -/
def head (c : Cursor) : Char :=
  c.rest.headD '\x00'

/-- The cursor past the next character. -/
def next (c : Cursor) : Cursor :=
  match c.rest with
  | [] => c
  | x :: rest => { c with rest := rest, mark := c.mark.after c.rules x }

/-- The cursor past the next `n` characters. -/
def skip (c : Cursor) : Nat → Cursor
  | 0 => c
  | n + 1 => c.next.skip n

/-- The cursor past the next line break, for which a carriage return together with a
line feed counts as one. -/
def skipBreak (c : Cursor) : Cursor :=
  match c.rest with
  | '\r' :: '\n' :: _ => c.next.next
  | x :: _ => if c.rules.isBreak x then c.next else c
  | [] => c

/-- The leading characters at which `p` holds, and the cursor past them. -/
def spanFrom (rules : Rules) (p : Char → Bool) (m : Mark) : List Char → List Char × Cursor
  | [] => ([], ⟨rules, [], m⟩)
  | x :: rest =>
    if p x then
      let (run, past) := spanFrom rules p (m.after rules x) rest
      (x :: run, past)
    else
      ([], ⟨rules, x :: rest, m⟩)

/-- The leading characters at which `p` holds, and the cursor past them. -/
def span (p : Char → Bool) (c : Cursor) : List Char × Cursor :=
  spanFrom c.rules p c.mark c.rest

/-- The cursor past the leading characters at which `p` holds. -/
def skipWhile (p : Char → Bool) (c : Cursor) : Cursor :=
  (c.span p).2

/-- The cursor past spaces and tabs and a comment, at the end of the line; none if
something else follows. -/
def skipLineEnd (c : Cursor) : Option Cursor :=
  let c := c.skipWhile isSpace
  let c := if c.head = '#' then c.skipWhile fun x => !c.rules.endsLine x else c
  if c.rules.endsLine c.head then some c.skipBreak else none

/-- Whether a line starts here with three characters `x` that stand alone. -/
def atTriple (c : Cursor) (x : Char) : Bool :=
  c.mark.column = 0 && c.head = x && c.peek 1 = x && c.peek 2 = x && c.rules.isGap (c.peek 3)

/-- Whether a marker of the start or the end of a document stands here. -/
def atDocumentMarker (c : Cursor) : Bool :=
  c.atTriple '-' || c.atTriple '.'

end Cursor

end ClientGen.Yaml
