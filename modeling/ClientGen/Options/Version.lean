import ClientGen.Text.Digits
import ClientGen.Text.Quoted
import ClientGen.Text.Whitespace

/-!
# Semantic versions

A version is written as three numbers with dots between them, such as `1.20.3`. A dash
and the identifiers of a pre-release may follow, and then a plus sign and the identifiers
of a build, such as in `1.0.0-rc.1+20240101`. Identifiers are letters of ASCII, digits and
dashes with dots between them. The numbers fit into 64 bits, and neither they nor the
identifiers of a pre-release that consist of digits start with a zero that could be left
out.
-/

namespace ClientGen

/-- A semantic version. -/
structure Version where
  major : Nat
  minor : Nat
  patch : Nat
  preRelease : List String := []
  build : List String := []
deriving DecidableEq

namespace Version

/-- The parts of a version. -/
inductive Part where
  | major
  | minor
  | patch
  | preRelease
  | build
deriving DecidableEq

/-- The wording of a part. -/
def Part.message : Part → String
  | .major => "major version number"
  | .minor => "minor version number"
  | .patch => "patch version number"
  | .preRelease => "pre-release identifier"
  | .build => "build metadata"

/-- Why a text is no version. -/
inductive Error where
  | noText
  | leadingZero (part : Part)
  | tooLarge (part : Part)
  | noIdentifier (part : Part)
  | endOfText (part : Part)
  | charWithin (part : Part) (c : Char)
  | charAfter (part : Part) (c : Char)
deriving DecidableEq

/-- The wording of an error. -/
def Error.message : Error → String
  | .noText => "empty string, expected a semver version"
  | .leadingZero part => "invalid leading zero in " ++ part.message
  | .tooLarge part => "value of " ++ part.message ++ " exceeds u64::MAX"
  | .noIdentifier part => "empty identifier segment in " ++ part.message
  | .endOfText part => "unexpected end of input while parsing " ++ part.message
  | .charWithin part c =>
    "unexpected character " ++ Text.quotedChar c ++ " while parsing " ++ part.message
  | .charAfter part c =>
    "unexpected character " ++ Text.quotedChar c ++ " after " ++ part.message

/-- A number that is read, and what follows it. -/
abbrev Read (α : Type) := Except Error (α × List Char)

/-- Whether digits start with a zero that could be left out. -/
def hasLeadingZero : List Char → Bool
  | '0' :: _ :: _ => true
  | _ => false

/-- Reads a number. -/
def readNumber (part : Part) (cs : List Char) : Read Nat :=
  let digits := cs.takeWhile Char.isDigit
  let rest := cs.dropWhile Char.isDigit
  match Text.natural? 10 digits, rest with
  | none, [] => .error (.endOfText part)
  | none, c :: _ => .error (.charWithin part c)
  | some n, rest =>
    if hasLeadingZero digits then .error (.leadingZero part)
    else if Text.maxNat64 < n then .error (.tooLarge part)
    else .ok (n, rest)

/-- Passes over the dot that follows a part. -/
def skipDot (part : Part) : List Char → Except Error (List Char)
  | [] => .error (.endOfText part)
  | '.' :: rest => .ok rest
  | c :: _ => .error (.charAfter part c)

/-- Whether a character stands in identifiers. -/
def isIdentifierChar (c : Char) : Bool :=
  c.isAlphanum || c = '-'

/-- Checks an identifier. -/
def checkIdentifier (part : Part) (identifier : List Char) : Except Error Unit :=
  if identifier.isEmpty then .error (.noIdentifier part)
  else if part = .preRelease && identifier.all Char.isDigit && hasLeadingZero identifier then
    .error (.leadingZero part)
  else .ok ()

/-- Whether a character stands in identifiers or between them. -/
def isIdentifiersChar (c : Char) : Bool :=
  isIdentifierChar c || c = '.'

/-- Reads identifiers with dots between them. -/
def readIdentifiers (part : Part) (cs : List Char) : Read (List String) :=
  let identifiers := Text.split (· = '.') (cs.takeWhile isIdentifiersChar)
  match identifiers.forM (checkIdentifier part) with
  | .ok _ => .ok (identifiers.map String.ofList, cs.dropWhile isIdentifiersChar)
  | .error error => .error error

/-- Reads the identifiers that follow a mark, if the mark is there. -/
def readMarked (mark : Char) (part : Part) : List Char → Read (Option (List String))
  | [] => .ok (none, [])
  | c :: cs =>
    if c = mark then (readIdentifiers part cs).map fun (read, rest) => (some read, rest)
    else .ok (none, c :: cs)

/-- The last part that has been read. -/
def lastPart (preRelease build : Option (List String)) : Part :=
  if build.isSome then .build else if preRelease.isSome then .preRelease else .patch

/-- The version that a text writes. -/
def parse (text : String) : Except Error Version :=
  if text.isEmpty then .error .noText
  else do
    let (major, cs) ← readNumber .major text.toList
    let cs ← skipDot .major cs
    let (minor, cs) ← readNumber .minor cs
    let cs ← skipDot .minor cs
    let (patch, cs) ← readNumber .patch cs
    let (preRelease, cs) ← readMarked '-' .preRelease cs
    let (build, cs) ← readMarked '+' .build cs
    match cs with
    | [] => return ⟨major, minor, patch, preRelease.getD [], build.getD []⟩
    | c :: _ => throw (.charAfter (lastPart preRelease build) c)

end Version

end ClientGen
