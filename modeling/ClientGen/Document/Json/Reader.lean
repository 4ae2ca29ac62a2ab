import ClientGen.Document.Json.Scalar

/-!
# Reading JSON texts

`Json.parse` reads a JSON text into a value or gives the first error with its position.
Lists and objects may be nested at most 127 deep. The readers of nested values take a
bound on the number of steps, never reached from twice the length of the text.
-/

namespace ClientGen.Json

/-- The number of brackets at which a text counts as nested too deep. -/
def depthLimit : Nat := 128

mutual

/-- A value, of which `depth` brackets may still be opened. -/
def value (depth : Nat) (c : Cursor) : Nat → Except Error (Value × Cursor)
  | 0 => .error ⟨.endInValue, c.position⟩
  | steps + 1 =>
    let c := c.skipGaps
    match c.rest with
    | [] => .error ⟨.endInValue, c.position⟩
    | 'n' :: _ => word ['u', 'l', 'l'] .null c.next
    | 't' :: _ => word ['r', 'u', 'e'] (.bool true) c.next
    | 'f' :: _ => word ['a', 'l', 's', 'e'] (.bool false) c.next
    | '-' :: _ => number true c.next
    | '"' :: _ => do
      let (s, c) ← string c.next
      .ok (.string s, c)
    | '[' :: _ =>
      if depth ≤ 1 then .error ⟨.tooDeep, c.peekPosition⟩ else
      let inside := c.next.skipGaps
      match inside.rest with
      | ']' :: _ => .ok (.array [], inside.next)
      | [] => .error ⟨.endInList, inside.position⟩
      | _ => do
        let (items, c) ← items (depth - 1) inside steps
        .ok (.array items, c)
    | '\x7b' :: _ =>
      if depth ≤ 1 then .error ⟨.tooDeep, c.peekPosition⟩ else
      let inside := c.next.skipGaps
      match inside.rest with
      | '\x7d' :: _ => .ok (.object [], inside.next)
      | [] => .error ⟨.endInObject, inside.position⟩
      | _ => do
        let (fields, c) ← fields (depth - 1) inside steps
        .ok (Value.ofFields fields, c)
    | x :: _ =>
      if x.isDigit then number false c else .error ⟨.expectedValue, c.peekPosition⟩

/-- The items of a list from the next one on, up to the closing bracket. -/
def items (depth : Nat) (c : Cursor) : Nat → Except Error (List Value × Cursor)
  | 0 => .error ⟨.endInList, c.position⟩
  | steps + 1 => do
    let (item, c) ← value depth c steps
    let c := c.skipGaps
    match c.rest with
    | [] => .error ⟨.endInList, c.position⟩
    | ']' :: _ => .ok ([item], c.next)
    | ',' :: _ =>
      let c := c.next.skipGaps
      match c.rest with
      | [] => .error ⟨.endInValue, c.position⟩
      | ']' :: _ => .error ⟨.trailingComma, c.peekPosition⟩
      | _ => do
        let (rest, c) ← items depth c steps
        .ok (item :: rest, c)
    | _ => .error ⟨.expectedListEnd, c.peekPosition⟩

/-- The fields of an object from the next one on, up to the closing brace. -/
def fields (depth : Nat) (c : Cursor) : Nat → Except Error (List (String × Value) × Cursor)
  | 0 => .error ⟨.endInObject, c.position⟩
  | steps + 1 =>
    match c.rest with
    | '"' :: _ => do
      let (key, c) ← string c.next
      let c := c.skipGaps
      match c.rest with
      | [] => .error ⟨.endInObject, c.position⟩
      | ':' :: _ => do
        let (item, c) ← value depth c.next steps
        let c := c.skipGaps
        match c.rest with
        | [] => .error ⟨.endInObject, c.position⟩
        | '\x7d' :: _ => .ok ([(key, item)], c.next)
        | ',' :: _ =>
          let c := c.next.skipGaps
          match c.rest with
          | [] => .error ⟨.endInValue, c.position⟩
          | '\x7d' :: _ => .error ⟨.trailingComma, c.peekPosition⟩
          | _ => do
            let (rest, c) ← fields depth c steps
            .ok ((key, item) :: rest, c)
        | _ => .error ⟨.expectedObjectEnd, c.peekPosition⟩
      | _ => .error ⟨.expectedColon, c.peekPosition⟩
    | _ => .error ⟨.keyNotString, c.peekPosition⟩

end

/-- The value that a JSON text writes. -/
def parse (text : String) : Except Error Value := do
  let (v, c) ← value depthLimit ⟨text.toList, {}⟩ (2 * text.length + 2)
  let c := c.skipGaps
  match c.rest with
  | [] => .ok v
  | _ => .error ⟨.trailingCharacters, c.peekPosition⟩

end ClientGen.Json
