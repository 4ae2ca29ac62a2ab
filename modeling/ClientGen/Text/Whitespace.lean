/-!
# White space

The characters with the Unicode property `White_Space`, and texts stripped of them at
both ends.
-/

namespace ClientGen.Text

/-- Whether a character has the property `White_Space`. -/
def isBlank (c : Char) : Bool :=
  let n := c.toNat
  (9 ≤ n && n ≤ 13) || n = 0x20 || n = 0x85 || n = 0xA0 || n = 0x1680
    || (0x2000 ≤ n && n ≤ 0x200A) || n = 0x2028 || n = 0x2029 || n = 0x202F
    || n = 0x205F || n = 0x3000

/-- The characters without the white space at the end. -/
def trimEnd (cs : List Char) : List Char :=
  (cs.reverse.dropWhile isBlank).reverse

/-- The characters without the white space at either end. -/
def trim (cs : List Char) : List Char :=
  trimEnd (cs.dropWhile isBlank)

/-- The segments of `cs` between the characters at which `p` holds. There is always one
more segment than there are such characters. -/
def split (p : Char → Bool) : List Char → List (List Char)
  | [] => [[]]
  | c :: cs =>
    if p c then
      [] :: split p cs
    else
      match split p cs with
      | [] => [[c]]
      | segment :: segments => (c :: segment) :: segments

theorem split_ne_nil
    (p : Char → Bool) (cs : List Char) :
  split p cs ≠ []
  := by
  cases cs with
  | nil => simp [split]
  | cons c cs =>
    rw [split]
    split
    · simp
    · split <;> simp

/-- The segments joined by `separator`. -/
def join (separator : List Char) : List (List Char) → List Char
  | [] => []
  | [segment] => segment
  | segment :: segments => segment ++ separator ++ join separator segments

end ClientGen.Text
