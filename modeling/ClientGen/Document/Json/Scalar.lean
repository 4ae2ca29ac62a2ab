import ClientGen.Document.Json.Error
import ClientGen.Document.Value

/-!
# Scalars of a JSON text

Readers for the words, numbers and strings of a JSON text. Each takes the cursor past
what it reads. An integer that fits 64 bits, signed or unsigned, stays an integer; every
other number, and a negated zero, becomes a double. That is not always the nearest one: the
digits that fit 64 bits are rounded to a double, which is then multiplied or divided by a
power of ten.
-/

namespace ClientGen.Json

/-- What a reader gives: a result and the cursor past it, or an error. -/
abbrev Read (α : Type) := Except Error (α × Cursor)

/-- The rest of a word whose first letter has been read. -/
def word (letters : List Char) (value : Value) (c : Cursor) : Read Value :=
  match letters with
  | [] => .ok (value, c)
  | letter :: letters =>
    match c.rest with
    | [] => .error ⟨.endInValue, c.position⟩
    | x :: _ =>
      if x = letter then word letters value c.next
      else .error ⟨.expectedWord, c.peekPosition⟩

/-! ### Numbers -/

/-- The leading decimal digits, and the cursor past them. -/
def digitRun (c : Cursor) : List Char × Cursor :=
  (c.rest.takeWhile Char.isDigit, c.skipWhile Char.isDigit)

/-- The number that a text of digits writes. -/
def digitsValue (ds : List Char) : Nat :=
  (Text.natural? 10 ds).getD 0

/-- The number that digits after those of `n` write, up to the first digit at which it would
no longer fit 64 bits, and the digits from that one on. -/
def significand (n : Nat) : List Char → Nat × List Char
  | [] => (n, [])
  | d :: ds =>
    let m := 10 * n + (Text.digit? 10 d).getD 0
    if Text.maxNat64 < m then (n, d :: ds) else significand m ds

/-- The largest power of ten by which a double is multiplied or divided at once. -/
def maxPower : Nat := 308

/-- The double nearest to a power of ten. -/
def power? (n : Nat) : Option Double :=
  Double.ofRatio? false (Double.tenPow n) 1

/-- A double multiplied or divided by a power of ten. It is divided in several steps if
the power is too large for one. -/
def scale? (x : Double) (exponent : Int) : Option Double :=
  if x.significand = 0 then some x
  else if maxPower < exponent then none
  else if 0 ≤ exponent then (power? exponent.toNat).bind x.mul?
  else if -exponent ≤ maxPower then (power? (-exponent).toNat).bind x.div?
  else ((power? maxPower).bind x.div?).bind fun y => scale? y (exponent + maxPower)
termination_by (-exponent).toNat
decreasing_by simp only [maxPower] at *; omega

/-- The double for `significand * 10 ^ exponent`, read up to the cursor. -/
def double (negative : Bool) (significand : Nat) (exponent : Int) (c : Cursor) :
    Read Value :=
  match (Double.ofRatio? negative significand 1).bind (scale? · exponent) with
  | some x => .ok (.double x, c)
  | none => .error ⟨.numberOutOfRange, c.position⟩

/-- The largest exponent that is added up; a larger one is settled at the digit that
makes it so. -/
def maxExponent : Nat := 2147483647

/-- The cursor past the first digits that write more than `maxExponent`, if any do. -/
def exponentOverflow? (n : Nat) (c : Cursor) : List Char → Option Cursor
  | [] => none
  | d :: ds =>
    let n := 10 * n + (Text.digit? 10 d).getD 0
    if maxExponent < n then some c.next else exponentOverflow? n c.next ds

/-- The exponent of a number after the letter `e`; the number so far is
`digits * 10 ^ shift`. -/
def exponent (negative : Bool) (digits : Nat) (shift : Int) (c : Cursor) : Read Value :=
  let (down, c) :=
    match c.rest with
    | '+' :: _ => (false, c.next)
    | '-' :: _ => (true, c.next)
    | _ => (false, c)
  match c.rest with
  | [] => .error ⟨.endInValue, c.position⟩
  | x :: _ =>
    if !x.isDigit then
      .error ⟨.invalidNumber, c.peekPosition⟩
    else
      let (ds, past) := digitRun c
      match exponentOverflow? 0 c ds with
      | some seen =>
        if digits ≠ 0 && !down then .error ⟨.numberOutOfRange, seen.position⟩
        else .ok (.double (Double.zero negative), past)
      | none =>
        let e : Int := digitsValue ds
        double negative digits (if down then shift - e else shift + e) past

/-- The part of a number after the digits `ds`, which stand before its point. A digit that no
longer fits counts for its place alone if it stands before the point, and not at all if it
stands after it. -/
def numberTail (negative : Bool) (ds : List Char) (c : Cursor) : Read Value :=
  let (n, left) := significand 0 ds
  let places : Int := left.length
  match c.rest with
  | '.' :: _ =>
    let (fraction, past) := digitRun c.next
    if fraction.isEmpty then
      match past.rest with
      | [] => .error ⟨.endInValue, past.position⟩
      | _ :: _ => .error ⟨.invalidNumber, past.peekPosition⟩
    else
      let (digits, unused) := significand n fraction
      let shift : Int := places - (fraction.length - unused.length : Nat)
      match past.rest with
      | 'e' :: _ | 'E' :: _ => exponent negative digits shift past.next
      | _ => double negative digits shift past
  | 'e' :: _ | 'E' :: _ => exponent negative n places c.next
  | _ =>
    if !left.isEmpty then double negative n places c
    else if negative then
      if n = 0 || Text.maxInt64 + 1 < n then double true n 0 c
      else .ok (.integer (-n), c)
    else .ok (.integer n, c)

/-- A number after its sign. Only a lone zero may come first. -/
def number (negative : Bool) (c : Cursor) : Read Value :=
  match c.rest with
  | [] => .error ⟨.endInValue, c.position⟩
  | '0' :: x :: _ =>
    if x.isDigit then .error ⟨.invalidNumber, c.next.peekPosition⟩
    else numberTail negative ['0'] c.next
  | x :: _ =>
    if x.isDigit then
      let (ds, past) := digitRun c
      numberTail negative ds past
    else
      .error ⟨.invalidNumber, c.peekPosition⟩

/-! ### Strings -/

/-- Where the reader of a string stands: between characters, after a backslash, within
the four digits of a code unit, or before the second half of a surrogate pair. -/
inductive StringState where
  | plain
  | escape
  | digits (count value : Nat) (first : Option Nat) (start : Cursor)
  | pairBackslash (first : Nat)
  | pairLetter (first : Nat)

/-- The character that a one-letter escape stands for. -/
def escapeLetter? : Char → Option Char
  | '"' => some '"'
  | '\\' => some '\\'
  | '/' => some '/'
  | 'b' => some '\x08'
  | 'f' => some '\x0c'
  | 'n' => some '\n'
  | 'r' => some '\r'
  | 't' => some '\t'
  | _ => none

/-- The error of four bytes that are no hexadecimal digits. -/
def badDigits (start : Cursor) : Error :=
  let window := start.position.afterBytes 4 start.rest
  if byteLength start.rest < 4 then ⟨.endInString, window⟩ else ⟨.invalidEscape, window⟩

/-- What a completed code unit means: a character, the first half of a pair, or an
error. -/
def unit (n : Nat) (first : Option Nat) : Except Fault (Char ⊕ Nat) :=
  match first with
  | none =>
    if 0xDC00 ≤ n && n ≤ 0xDFFF then .error .loneSurrogate
    else if 0xD800 ≤ n && n ≤ 0xDBFF then .ok (.inr n)
    else .ok (.inl (Char.ofNat n))
  | some high =>
    if 0xDC00 ≤ n && n ≤ 0xDFFF then
      .ok (.inl (Char.ofNat (0x10000 + (high - 0xD800) * 0x400 + (n - 0xDC00))))
    else
      .error .loneSurrogate

/-- The characters of a string after its opening quote, `read` holding those already
read, the last first. -/
def stringBody (state : StringState) (read : List Char) (position : Position) :
    List Char → Read String
  | [] => .error ⟨.endInString, position⟩
  | x :: rest =>
    let after := position.after x
    match state with
    | .plain =>
      if x = '"' then .ok (String.ofList read.reverse, ⟨rest, after⟩)
      else if x = '\\' then stringBody .escape read after rest
      else if x.toNat < 0x20 then .error ⟨.controlCharacter, after⟩
      else stringBody .plain (x :: read) after rest
    | .escape =>
      if x = 'u' then
        stringBody (.digits 0 0 none ⟨rest, after⟩) read after rest
      else
        match escapeLetter? x with
        | some c => stringBody .plain (c :: read) after rest
        | none => .error ⟨.invalidEscape, position.afterByte x⟩
    | .digits count value first start =>
      match Text.digit? 16 x with
      | none => .error (badDigits start)
      | some d =>
        let value := 16 * value + d
        if count < 3 then
          stringBody (.digits (count + 1) value first start) read after rest
        else
          match unit value first with
          | .error fault => .error ⟨fault, after⟩
          | .ok (.inl c) => stringBody .plain (c :: read) after rest
          | .ok (.inr high) => stringBody (.pairBackslash high) read after rest
    | .pairBackslash high =>
      if x = '\\' then stringBody (.pairLetter high) read after rest
      else .error ⟨.halfSurrogatePair, position.afterByte x⟩
    | .pairLetter high =>
      if x = 'u' then
        stringBody (.digits 0 0 (some high) ⟨rest, after⟩) read after rest
      else
        .error ⟨.halfSurrogatePair, position.afterByte x⟩

/-- The string after an opening quote. -/
def string (c : Cursor) : Read String :=
  stringBody .plain [] c.position c.rest

end ClientGen.Json
