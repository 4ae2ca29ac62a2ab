import ClientGen.Text.Whitespace

/-!
# Documentation

The lines of a documentation text, each without white space at its ends. Empty lines
before the first line with text and after the last one are left out.
-/

namespace ClientGen

/-- The lines without the empty ones at the start. -/
def dropEmpty (lines : List (List Char)) : List (List Char) :=
  lines.dropWhile List.isEmpty

/-- The lines of a documentation text. -/
def docLines : Option String → List String
  | none => []
  | some text =>
    let lines := (Text.split (· = '\n') text.toList).map Text.trim
    (dropEmpty (dropEmpty lines).reverse).reverse.map String.ofList

end ClientGen
