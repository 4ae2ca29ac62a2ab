/-!
# Identifiers in a text

An identifier starts with a letter of ASCII, an underscore or a dollar sign and goes on
with these and with digits. A text falls into its identifiers, each as long as possible,
and the characters between them.
-/

namespace ClientGen.Text

/-- Whether a character may start an identifier. -/
def isIdentifierStart (c : Char) : Bool :=
  c.isAlpha || c = '_' || c = '$'

/-- Whether a character may follow within an identifier. -/
def isIdentifierPart (c : Char) : Bool :=
  isIdentifierStart c || c.isDigit

/-- Whether a text is an identifier. -/
def isIdentifier : List Char → Bool
  | [] => false
  | c :: cs => isIdentifierStart c && cs.all isIdentifierPart

/-- A part of a text: an identifier, or a character between identifiers. -/
inductive Piece where
  | identifier (cs : List Char)
  | between (c : Char)
deriving DecidableEq

/-- The characters of a part. -/
def Piece.chars : Piece → List Char
  | .identifier cs => cs
  | .between c => [c]

/-- The identifier that has been read, if one has. -/
def flush : List Char → List Piece
  | [] => []
  | c :: cs => [.identifier (c :: cs)]

/-- The parts of a text, of which the identifier `current` has been read. -/
def piecesFrom (current : List Char) : List Char → List Piece
  | [] => flush current
  | c :: cs =>
    if isIdentifierStart c || (!current.isEmpty && c.isDigit) then
      piecesFrom (current ++ [c]) cs
    else
      flush current ++ .between c :: piecesFrom [] cs

/-- The parts of a text. -/
def pieces (cs : List Char) : List Piece :=
  piecesFrom [] cs

theorem flush_chars (current : List Char) :
  (flush current).flatMap Piece.chars = current
  := by cases current <;> simp [flush, Piece.chars]

theorem piecesFrom_chars (current cs : List Char) :
  (piecesFrom current cs).flatMap Piece.chars = current ++ cs
  := by
  induction cs generalizing current with
  | nil => simp [piecesFrom, flush_chars]
  | cons c cs ih =>
    rw [piecesFrom]
    split
    · simp [ih]
    · simp [List.flatMap_append, flush_chars, ih, Piece.chars]

/-- The parts of a text make up the text. -/
theorem pieces_chars (cs : List Char) :
  (pieces cs).flatMap Piece.chars = cs
  := piecesFrom_chars [] cs

/-- The identifiers of a text in their order. -/
def identifiers (text : String) : List String :=
  (pieces text.toList).filterMap fun
    | .identifier cs => some (String.ofList cs)
    | .between _ => none

/-- A text with each identifier replaced. -/
def mapIdentifiers (f : String → String) (text : String) : String :=
  String.ofList ((pieces text.toList).flatMap fun
    | .identifier cs => (f (String.ofList cs)).toList
    | .between c => [c])

end ClientGen.Text
