/-!
# Cursors in a text

A cursor is what remains of a text together with the line and column reached. Lines
count from one, and columns count the bytes of the line that lie behind the cursor.
-/

namespace ClientGen.Json

/-- A place in a text: a line, and the number of bytes of it that lie before. -/
structure Position where
  line : Nat := 1
  column : Nat := 0
deriving DecidableEq

/-- The position after a character. -/
def Position.after (p : Position) (c : Char) : Position :=
  if c = '\n' then ⟨p.line + 1, 0⟩ else ⟨p.line, p.column + c.utf8Size⟩

/-- The position after the first byte of a character. -/
def Position.afterByte (p : Position) (c : Char) : Position :=
  if c = '\n' then ⟨p.line + 1, 0⟩ else ⟨p.line, p.column + 1⟩

/-- The position `n` bytes further in a text, or at the end of it. -/
def Position.afterBytes (p : Position) : Nat → List Char → Position
  | _, [] => p
  | n, c :: cs =>
    if c.utf8Size ≤ n then (p.after c).afterBytes (n - c.utf8Size) cs
    else ⟨p.line, p.column + n⟩

/-- The number of bytes of a text. -/
def byteLength (cs : List Char) : Nat :=
  cs.foldl (fun n c => n + c.utf8Size) 0

/-- What remains of a text, and where it starts. -/
structure Cursor where
  rest : List Char
  position : Position := {}

namespace Cursor

/-- The cursor past the next character. -/
def next (c : Cursor) : Cursor :=
  match c.rest with
  | [] => c
  | x :: rest => ⟨rest, c.position.after x⟩

/-- The position past the first byte of the next character, or that of the end. -/
def peekPosition (c : Cursor) : Position :=
  match c.rest with
  | [] => c.position
  | x :: _ => c.position.afterByte x

/-- Whether a character may stand between the tokens of a document. -/
def isGap (c : Char) : Bool :=
  c = ' ' || c = '\n' || c = '\t' || c = '\r'

/-- The cursor past the leading characters at which `p` holds. -/
def skipFrom (p : Char → Bool) (position : Position) : List Char → Cursor
  | [] => ⟨[], position⟩
  | c :: cs => if p c then skipFrom p (position.after c) cs else ⟨c :: cs, position⟩

/-- The cursor past the leading characters at which `p` holds. -/
def skipWhile (p : Char → Bool) (c : Cursor) : Cursor :=
  skipFrom p c.position c.rest

/-- The cursor past the characters that may stand between tokens. -/
def skipGaps (c : Cursor) : Cursor :=
  c.skipWhile isGap

end Cursor

end ClientGen.Json
