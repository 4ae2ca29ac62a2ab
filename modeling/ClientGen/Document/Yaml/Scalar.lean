import ClientGen.Document.Yaml.Cursor
import ClientGen.Text.Digits

/-!
# Scalars of a YAML text

Readers for plain, quoted and block scalars. A line break within a plain or quoted
scalar is folded: a single break becomes a space, and of more the first is dropped. Breaks
that stand for themselves are kept. The readers give none where the text is no scalar. The
readers that run over several lines take a bound on the number of their steps, which the
length of the text provides.
-/

namespace ClientGen.Yaml

/-- White space between the parts of a scalar: the characters for which its line breaks stand,
and the spaces if there is no break. -/
structure Gap where
  breaks : List Char := []
  spaces : List Char := []

/-- The text that folded line breaks stand for. -/
def foldBreaks : List Char → List Char
  | ['\n'] => [' ']
  | '\n' :: breaks => breaks
  | breaks => breaks

/-- The text that folded white space stands for. -/
def Gap.text (g : Gap) : List Char :=
  if g.breaks.isEmpty then g.spaces else foldBreaks g.breaks

/-- A further line break. -/
def Gap.break (g : Gap) (c : Char) : Gap :=
  ⟨g.breaks ++ [Rules.breakChar c], []⟩

/-- White space from here on. Past a line break a tab is refused in a column before
`indent`. -/
def gapFrom (rules : Rules) (indent : Int) (g : Gap) (m : Mark) :
    List Char → Option (Gap × Cursor)
  | '\r' :: '\n' :: rest =>
    gapFrom rules indent (g.break '\n') ((m.after rules '\r').after rules '\n') rest
  | x :: rest =>
    if rules.isBreak x then
      gapFrom rules indent (g.break x) (m.after rules x) rest
    else if isSpace x then
      if g.breaks.isEmpty then
        gapFrom rules indent { g with spaces := g.spaces ++ [x] } (m.after rules x) rest
      else if (m.column : Int) < indent && x = '\t' then
        none
      else
        gapFrom rules indent g (m.after rules x) rest
    else
      some (g, ⟨rules, x :: rest, m⟩)
  | [] => some (g, ⟨rules, [], m⟩)

/-- White space from a cursor on, some of which has been read. -/
def Cursor.gap (c : Cursor) (indent : Int) (g : Gap) : Option (Gap × Cursor) :=
  gapFrom c.rules indent g c.mark c.rest

/-! ### Plain scalars -/

/-- The characters of a plain scalar up to white space or an indicator that ends it. By the
strict rules no indicator of flow collections may follow a colon in them. -/
def plainRun (rules : Rules) (inFlow : Bool) (m : Mark) :
    List Char → Option (List Char × Cursor)
  | [] => some ([], ⟨rules, [], m⟩)
  | x :: rest =>
    let following := rest.headD '\x00'
    if rules = .strict && inFlow && x = ':' && (isFlowIndicator following || following = '?') then
      none
    else if rules.isGap x
        || (x = ':' && (rules.isGap following || (inFlow && isFlowIndicator following)))
        || (inFlow && isFlowIndicator x) then
      some ([], ⟨rules, x :: rest, m⟩)
    else
      (plainRun rules inFlow (m.after rules x) rest).map fun (run, past) => (x :: run, past)

/-- A plain scalar of which `read` has been read and `gap` follows it. The flag of the
result says whether it ends after a line break. -/
def plainFrom (inFlow : Bool) (indent : Int) (read : List Char) (gap : Gap)
    (c : Cursor) : Nat → Option (List Char × Bool × Cursor)
  | 0 => none
  | steps + 1 =>
    if c.atDocumentMarker || c.head = '#' then
      some (read, !gap.breaks.isEmpty, c)
    else
      (plainRun c.rules inFlow c.mark c.rest).bind fun (run, past) =>
        let ended := run.isEmpty && !gap.breaks.isEmpty
        let read := if run.isEmpty then read else read ++ gap.text ++ run
        let pending := if run.isEmpty then gap else {}
        if !(isSpace past.head || c.rules.isBreak past.head) then
          some (read, ended, past)
        else
          (past.gap indent pending).bind fun (gap, past) =>
            if !inFlow && (past.mark.column : Int) < indent then
              some (read, !gap.breaks.isEmpty, past)
            else
              plainFrom inFlow indent read gap past steps

/-- A plain scalar within a collection that is indented by `parent`. -/
def plain (inFlow : Bool) (parent : Int) (c : Cursor) :
    Option (String × Bool × Cursor) :=
  (plainFrom inFlow (parent + 1) [] {} c (c.rest.length + 1)).map
    fun (read, ended, past) => (String.ofList read, ended, past)

/-! ### Quoted scalars -/

/-- The character that a one-letter escape stands for. The loose rules know that of a single
quote, the strict ones that of a slash. -/
def escapeLetter? (rules : Rules) (c : Char) : Option Char :=
  match c with
  | '0' => some '\x00'
  | 'a' => some '\x07'
  | 'b' => some '\x08'
  | 't' | '\t' => some '\t'
  | 'n' => some '\n'
  | 'v' => some '\x0b'
  | 'f' => some '\x0c'
  | 'r' => some '\r'
  | 'e' => some '\x1b'
  | ' ' => some ' '
  | '"' => some '"'
  | '\'' => if rules = .loose then some '\'' else none
  | '/' => if rules = .strict then some '/' else none
  | '\\' => some '\\'
  | 'N' => some (Char.ofNat 0x85)
  | '_' => some (Char.ofNat 0xA0)
  | 'L' => some (Char.ofNat 0x2028)
  | 'P' => some (Char.ofNat 0x2029)
  | _ => none

/-- The number of digits of an escape by code point. -/
def escapeDigits? (c : Char) : Option Nat :=
  match c with
  | 'x' => some 2
  | 'u' => some 4
  | 'U' => some 8
  | _ => none

/-- The character with a code point, if there is one. -/
def charOfPoint? (n : Nat) : Option Char :=
  if n.isValidChar then some (Char.ofNat n) else none

/-- Where the reader of a quoted run stands: between characters, after a backslash, or
within the digits of a code point. -/
inductive RunState where
  | between
  | escape
  | digits (left value : Nat)

/-- Why a quoted run ended. -/
inductive RunEnd where
  | quote
  | foldedBreak
  | gap
deriving DecidableEq

/-- The characters of a quoted scalar up to white space, the closing quote, or a
backslash before a line break. The cursor stands before what ended the run. -/
def quotedRun (rules : Rules) (single : Bool) (state : RunState) (read : List Char) (m : Mark) :
    List Char → Option (List Char × RunEnd × Cursor)
  | [] =>
    match state with
    | .between => some (read.reverse, .gap, ⟨rules, [], m⟩)
    | _ => none
  | x :: rest =>
    let after := m.after rules x
    match state with
    | .between =>
      if rules.isGap x then
        some (read.reverse, .gap, ⟨rules, x :: rest, m⟩)
      else if single then
        if x = '\'' then
          match rest with
          | '\'' :: rest =>
            quotedRun rules single .between ('\'' :: read) (after.after rules x) rest
          | _ => some (read.reverse, .quote, ⟨rules, x :: rest, m⟩)
        else
          quotedRun rules single .between (x :: read) after rest
      else if x = '"' then
        some (read.reverse, .quote, ⟨rules, x :: rest, m⟩)
      else if x = '\\' then
        if rules.isBreak (rest.headD '\x00') then
          some (read.reverse, .foldedBreak, ⟨rules, x :: rest, m⟩)
        else
          quotedRun rules single .escape read after rest
      else
        quotedRun rules single .between (x :: read) after rest
    | .escape =>
      match escapeLetter? rules x, escapeDigits? x with
      | some c, _ => quotedRun rules single .between (c :: read) after rest
      | none, some n => quotedRun rules single (.digits n 0) read after rest
      | none, none => none
    | .digits left value =>
      (Text.digit? 16 x).bind fun d =>
        let value := 16 * value + d
        if left ≤ 1 then
          (charOfPoint? value).bind fun c =>
            quotedRun rules single .between (c :: read) after rest
        else
          quotedRun rules single (.digits (left - 1) value) read after rest

/-- A quoted scalar of which `read` has been read, up to its closing quote. -/
def quotedFrom (single : Bool) (read : List Char) (c : Cursor) :
    Nat → Option (List Char × Cursor)
  | 0 => none
  | steps + 1 =>
    if c.atDocumentMarker || isEnd c.head then
      none
    else
      (quotedRun c.rules single .between [] c.mark c.rest).bind fun (run, reason, past) =>
        let read := read ++ run
        match reason with
        | .quote => some (read, past.next)
        | .gap =>
          (past.gap 0 {}).bind fun (gap, past) =>
            quotedFrom single (read ++ gap.text) past steps
        | .foldedBreak =>
          let past := past.next.skipBreak
          if past.head = '"' then
            some (read, past.next)
          else
            -- The break itself stands for nothing, and those after it are kept.
            (past.gap 0 ⟨['\n'], []⟩).bind fun (gap, past) =>
              quotedFrom single (read ++ gap.breaks.drop 1) past steps

/-- A quoted scalar from its opening quote on. -/
def quoted (single : Bool) (c : Cursor) : Option (String × Cursor) :=
  (quotedFrom single [] c.next (c.rest.length + 1)).map
    fun (read, past) => (String.ofList read, past)

/-! ### Block scalars -/

/-- What happens to the line breaks at the end of a block scalar. -/
inductive Chomping where
  | clip
  | strip
  | keep
deriving DecidableEq

/-- The chomping that an indicator stands for. -/
def chomping? (c : Char) : Option Chomping :=
  if c = '+' then some .keep else if c = '-' then some .strip else none

/-- An indentation indicator, if the digit is not zero. -/
def increment? (c : Char) : Option Nat :=
  if c = '0' then none else Text.digit? 10 c

/-- The indicators after `|` or `>`, in either order: chomping and indentation. -/
def blockHeader (c : Cursor) : Option (Chomping × Nat × Cursor) :=
  match chomping? c.head with
  | some chomping =>
    let c := c.next
    if c.head.isDigit then (increment? c.head).map fun n => (chomping, n, c.next)
    else some (chomping, 0, c)
  | none =>
    if c.head.isDigit then
      (increment? c.head).map fun n =>
        match chomping? c.next.head with
        | some chomping => (chomping, n, c.next.next)
        | none => (.clip, n, c.next)
    else
      some (.clip, 0, c)

/-- Passes over empty lines and the indentation of the next line. Gives the characters for
which the line breaks stand, and the widest indentation seen. An indentation of zero is yet
unknown. -/
def blockBreaksFrom (rules : Rules) (indent : Nat) (breaks : List Char) (widest : Nat) (m : Mark) :
    List Char → Option (List Char × Nat × Cursor)
  | '\r' :: '\n' :: rest =>
    blockBreaksFrom rules indent (breaks ++ ['\n']) (max widest m.column)
      ((m.after rules '\r').after rules '\n') rest
  | x :: rest =>
    let inside := indent = 0 || m.column < indent
    if inside && x = ' ' then
      blockBreaksFrom rules indent breaks widest (m.after rules x) rest
    else if inside && x = '\t' then
      none
    else if rules.isBreak x then
      blockBreaksFrom rules indent (breaks ++ [Rules.breakChar x]) (max widest m.column)
        (m.after rules x) rest
    else
      some (breaks, max widest m.column, ⟨rules, x :: rest, m⟩)
  | [] => some (breaks, max widest m.column, ⟨rules, [], m⟩)

/-- The lines of a block scalar that is indented by `indent`. `ended` holds the character for
the end of the line before, if there is one, `breaks` those for the empty lines after it, and
`spaced` says whether that line began with white space. -/
def blockLines (literal : Bool) (chomping : Chomping) (indent : Nat) (read : List Char)
    (ended breaks : List Char) (spaced : Bool) (c : Cursor) : Nat → Option (List Char × Cursor)
  | 0 => none
  | steps + 1 =>
    if c.mark.column = indent && !isEnd c.head then
      let spacedHere := isSpace c.head
      let separator : List Char :=
        if !literal && ended = ['\n'] && !spaced && !spacedHere then
          if breaks.isEmpty then [' '] else []
        else ended
      let (run, past) := c.span fun x => !c.rules.endsLine x
      let read := read ++ separator ++ breaks ++ run
      if isEnd past.head then
        some (read, past)
      else
        let ended := [Rules.breakChar past.head]
        let past := past.skipBreak
        (blockBreaksFrom c.rules indent [] 0 past.mark past.rest).bind fun (breaks, _, past) =>
          blockLines literal chomping indent read ended breaks spacedHere past steps
    else
      let last := if chomping ≠ .strip then ended else []
      let kept := if chomping = .keep then breaks else []
      some (read ++ last ++ kept, c)

/-- A block scalar from its indicator on, within a collection that is indented by
`parent`. -/
def block (literal : Bool) (parent : Int) (c : Cursor) : Option (String × Cursor) := do
  let (chomping, increment, c) ← blockHeader c.next
  let c ← c.skipLineEnd
  let given :=
    if increment = 0 then 0
    else if 0 ≤ parent then (parent + increment).toNat else increment
  let (breaks, widest, c) ← blockBreaksFrom c.rules given [] 0 c.mark c.rest
  let indent := if given = 0 then max (max widest (parent + 1).toNat) 1 else given
  let (read, c) ←
    blockLines literal chomping indent [] [] breaks false c (c.rest.length + 1)
  return (String.ofList read, c)

end ClientGen.Yaml
