import ClientGen.Document.Yaml.Cursor
import ClientGen.Document.Yaml.Token
import ClientGen.Text.Digits

/-!
# Anchors, tags and directives of a YAML text

Readers for what may stand before a node, and for the lines that may stand before a
document. They give none where the text has another form.
-/

namespace ClientGen.Yaml

/-- The name after `&` or `*`. -/
def anchorName (c : Cursor) : Option (String × Cursor) :=
  let (name, past) := c.next.span isWordChar
  let x := past.head
  if !name.isEmpty && (c.rules.isGap x || x = '?' || x = ':' || x = ',' || x = ']' || x = '\x7d'
      || x = '%' || x = '@' || x = '\x60') then
    some (String.ofList name, past)
  else
    none

/-! ### Tags -/

/-- The handle of a tag, from its exclamation mark on. A directive names a handle that is
a lone exclamation mark or ends in one. -/
def tagHandle (inDirective : Bool) (c : Cursor) : Option (String × Cursor) :=
  if c.head ≠ '!' then
    none
  else
    let (name, past) := c.next.span isWordChar
    if past.head = '!' then some (String.ofList ('!' :: name ++ ['!']), past.next)
    else if inDirective && !name.isEmpty then none
    else some (String.ofList ('!' :: name), past)

/-- Whether a character may be part of a tag. By the strict rules some may be only where the
whole tag is written. -/
def isTagChar (rules : Rules) (whole : Bool) (c : Char) : Bool :=
  isWordChar c || ";/?:@&=+$.!~*'()%".toList.contains c
    || ((rules = .loose || whole) && ",[]".toList.contains c)

/-- The number of octets of the character whose first octet is given. -/
def octetCount? (octet : Nat) : Option Nat :=
  if octet < 0x80 then some 1
  else if octet / 0x20 = 0x06 then some 2
  else if octet / 0x10 = 0x0E then some 3
  else if octet / 0x08 = 0x1E then some 4
  else none

/-- An octet written as a percent sign and two digits. -/
def percentOctet (c : Cursor) : Option (Nat × Cursor) := do
  guard (c.head = '%')
  let high ← Text.digit? 16 (c.peek 1)
  let low ← Text.digit? 16 (c.peek 2)
  return (16 * high + low, c.skip 3)

/-- The code that `left` further octets append to `code`. By the loose rules the octets are
digits in base 256. -/
def moreOctets (code : Nat) (c : Cursor) : Nat → Option (Nat × Cursor)
  | 0 => some (code, c)
  | left + 1 => do
    let (octet, past) ← percentOctet c
    guard (octet / 0x40 = 2)
    let code := match c.rules with
      | .loose => 0x100 * code + octet
      | .strict => 0x40 * code + octet % 0x40
    moreOctets code past left

/-- The part of a code that the first of `count` octets writes. -/
def firstOctet (rules : Rules) (octet count : Nat) : Nat :=
  match rules with
  | .loose => octet
  | .strict => if count = 1 then octet else octet % (128 >>> count)

/-- A character written as octets. By the strict rules octets that write no character stand
for the replacement character. -/
def percentChar (c : Cursor) : Option (Char × Cursor) := do
  let (octet, past) ← percentOctet c
  let count ← octetCount? octet
  let (code, past) ← moreOctets (firstOctet c.rules octet count) past (count - 1)
  match c.rules with
  | .loose =>
    guard (code % 0x100000000).isValidChar
    return (Char.ofNat (code % 0x100000000), past)
  | .strict => return (if code.isValidChar then Char.ofNat code else '\uFFFD', past)

/-- The characters of the suffix of a tag. -/
def tagSuffixFrom (whole : Bool) (read : List Char) (c : Cursor) :
    Nat → Option (List Char × Cursor)
  | 0 => some (read, c)
  | steps + 1 =>
    if !isTagChar c.rules whole c.head then
      some (read, c)
    else if c.head = '%' then
      (percentChar c).bind fun (x, c) => tagSuffixFrom whole (read ++ [x]) c steps
    else
      tagSuffixFrom whole (read ++ [c.head]) c.next steps

/-- The suffix of a tag that follows the characters `start`, of which `start` and the
suffix are not both empty. -/
def tagSuffix (whole : Bool) (start : List Char) (c : Cursor) : Option (String × Cursor) :=
  (tagSuffixFrom whole [] c c.rest.length).bind fun (read, past) =>
    if start.isEmpty && read.isEmpty then none
    else some (String.ofList (start.drop 1 ++ read), past)

/-- A tag from its exclamation mark on: `!<suffix>`, `!handle!suffix` or `!suffix`. By the
strict rules a comma may follow it within a flow collection. -/
def tag (inFlow : Bool) (c : Cursor) : Option (Tag × Cursor) := do
  let (t, past) ←
    if c.peek 1 = '<' then do
      let (suffix, past) ← tagSuffix true [] (c.skip 2)
      guard (past.head = '>')
      pure (Tag.mk "" suffix, past.next)
    else do
      let (handle, past) ← tagHandle false c
      if 2 ≤ handle.length && handle.endsWith "!" then
        let (suffix, past) ← tagSuffix false [] past
        pure (Tag.mk handle suffix, past)
      else
        let (suffix, past) ← tagSuffix false handle.toList past
        pure (if suffix.isEmpty then Tag.mk "" "!" else Tag.mk "!" suffix, past)
  guard (c.rules.isGap past.head || (c.rules = .strict && inFlow && past.head = ','))
  return (t, past)

/-! ### Directives -/

/-- A number of a version: at most nine digits. -/
def versionNumber (c : Cursor) : Option (Nat × Cursor) := do
  let (ds, past) := c.span Char.isDigit
  guard (ds.length ≤ 9)
  let n ← Text.natural? 10 ds
  return (n, past)

/-- The version of a `%YAML` line. -/
def versionDirective (c : Cursor) : Option (Directive × Cursor) := do
  let (major, c) ← versionNumber (c.skipWhile isSpace)
  guard (c.head = '.')
  let (minor, c) ← versionNumber c.next
  return (.version major minor, c)

/-- The handle and the suffix of a `%TAG` line. -/
def tagDirective (c : Cursor) : Option (Directive × Cursor) := do
  let (handle, c) ← tagHandle true (c.skipWhile isSpace)
  guard (c.rules = .loose || isSpace c.head)
  let (text, c) ← tagSuffix true [] (c.skipWhile isSpace)
  guard (c.rules.isGap c.head)
  return (.tagHandle handle text, c)

/-- A directive from its percent sign to the end of its line. By the loose rules a directive
other than `%YAML` and `%TAG` may hold anything; by the strict rules there is none. -/
def directive (c : Cursor) : Option (Directive × Cursor) := do
  let (name, c) := c.next.span isWordChar
  guard (!name.isEmpty && c.rules.isGap c.head)
  let (d, c) ←
    if name = "YAML".toList then versionDirective c
    else if name = "TAG".toList then tagDirective c
    else if c.rules = .loose then some (.other, c.skipWhile fun x => !c.rules.endsLine x)
    else none
  return (d, ← c.skipLineEnd)

end ClientGen.Yaml
