import ClientGen.Document.Yaml.Scanner

/-!
# Nodes of a YAML text

`Node.ofText?` gives the nodes that the documents of a YAML text hold. Every anchor names
the node that follows it, and a recalled name stands for that node; a name that is
recalled within its own node stands for no value. The readers of collections take a
bound on the number of steps, which the number of tokens provides.
-/

namespace ClientGen.Yaml

/-- A node of a document. The keys and values of a mapping are kept in their order. A node
that is left out, such as that of a key without a value, is `absent`. -/
inductive Node where
  | absent
  | scalar (plain : Bool) (tag : Option Tag) (text : String)
  | sequence (items : List Node)
  | mapping (entries : List (Node × Node))
  | unfinished

namespace Node

/-- The anchors of a document, the latest first: a name, and its node once that is
complete. -/
abbrev Anchors := List (String × Option Node)

/-- Completes the anchor before which `n` others were met. -/
def Anchors.complete (anchors : Anchors) (n : Nat) (node : Node) : Anchors :=
  anchors.modify (anchors.length - 1 - n) fun (name, _) => (name, some node)

/-- What remains to be read: the tokens, the anchors met so far, and what the handles of tags
stand for. -/
structure Rest where
  rules : Rules
  tokens : List Token
  anchors : Anchors := []
  handles : List (String × String) := []

namespace Rest

/-- The next token. -/
def head? (r : Rest) : Option Token :=
  r.tokens.head?

/-- What remains after the next token. -/
def next (r : Rest) : Rest :=
  { r with tokens := r.tokens.drop 1 }

/-- The name of an anchor, if one comes next. -/
def anchor (r : Rest) : Option String × Rest :=
  match r.tokens with
  | .anchor name :: _ => (some name, { r.next with anchors := (name, none) :: r.anchors })
  | _ => (none, r)

/-- A tag, if one comes next. -/
def tag (r : Rest) : Option Tag × Rest :=
  match r.tokens with
  | .tag t :: _ => (some t, r.next)
  | _ => (none, r)

/-- An anchor and a tag in either order, or one of them, or neither. -/
def properties (r : Rest) : Option String × Option Tag × Rest :=
  match r.tokens with
  | .tag t :: _ =>
    let (name, r) := r.next.anchor
    (name, some t, r)
  | _ =>
    let (name, r) := r.anchor
    if name.isSome then
      let (t, r) := r.tag
      (name, t, r)
    else
      (none, none, r)

/-- A tag as a node bears it. By the strict rules its handle has to be known, and the tag is
written in full. -/
def resolve (r : Rest) (t : Tag) : Option Tag :=
  match r.rules with
  | .loose => some t
  | .strict =>
    if t.handle = "" then some t
    else (r.handles.lookup t.handle).map fun text => Tag.mk "" (text ++ t.suffix)

/-- Whether one of the given tokens comes next. -/
def isAt (r : Rest) (tokens : List Token) : Bool :=
  match r.head? with
  | some t => tokens.contains t
  | none => false

end Rest

mutual

/-- A node. Block collections are admitted when `inBlock` holds, and a sequence whose
dashes are not indented when `indentless` holds. -/
def read (inBlock indentless : Bool) (r : Rest) : Nat → Option (Node × Rest)
  | 0 => none
  | steps + 1 =>
    match r.head? with
    | some (.recall name) =>
      (r.anchors.lookup name).map fun node => (node.getD .unfinished, r.next)
    | _ => do
      let before := r.anchors.length
      let (name, written, r) := r.properties
      let tag ← match written with
        | none => some none
        | some t => (r.resolve t).map some
      let left : Option (Node × Rest) :=
        if name.isSome || tag.isSome then some (.scalar true tag "", r) else none
      let (node, r) ← match r.head? with
        | some .blockEntry =>
          if indentless then
            (indentlessItems r steps).map fun (items, r) => (.sequence items, r)
          else left
        | some (.scalar plain text) => some (.scalar plain tag text, r.next)
        | some .flowSequenceStart =>
          (flowItems true r.next steps).map fun (items, r) => (.sequence items, r)
        | some .flowMappingStart =>
          (flowEntries true r.next steps).map fun (entries, r) => (.mapping entries, r)
        | some .blockSequenceStart =>
          if inBlock then
            (blockItems r.next steps).map fun (items, r) => (.sequence items, r)
          else left
        | some .blockMappingStart =>
          if inBlock then
            (blockEntries r.next steps).map fun (entries, r) => (.mapping entries, r)
          else left
        | _ => left
      if name.isSome then return (node, { r with anchors := r.anchors.complete before node })
      else return (node, r)

/-- A node, or the absent one if one of the tokens in `ends` comes next. -/
def readUnless (ends : List Token) (inBlock indentless : Bool) (r : Rest) :
    Nat → Option (Node × Rest)
  | 0 => none
  | steps + 1 => if r.isAt ends then some (absent, r) else read inBlock indentless r steps

/-- The items of a block sequence up to its end. -/
def blockItems (r : Rest) : Nat → Option (List Node × Rest)
  | 0 => none
  | steps + 1 =>
    match r.head? with
    | some .blockEnd => some ([], r.next)
    | some .blockEntry => do
      let (item, r) ← readUnless [.blockEntry, .blockEnd] true false r.next steps
      let (items, r) ← blockItems r steps
      return (item :: items, r)
    | _ => none

/-- The items of a sequence whose dashes are not indented. -/
def indentlessItems (r : Rest) : Nat → Option (List Node × Rest)
  | 0 => none
  | steps + 1 =>
    match r.head? with
    | some .blockEntry => do
      let (item, r) ←
        readUnless [.blockEntry, .key, .value, .blockEnd] true false r.next steps
      let (items, r) ← indentlessItems r steps
      return (item :: items, r)
    | _ => some ([], r)

/-- The entries of a block mapping up to its end. By the strict rules a key stands in each. -/
def blockEntries (r : Rest) : Nat → Option (List (Node × Node) × Rest)
  | 0 => none
  | steps + 1 =>
    match r.head? with
    | some .blockEnd => some ([], r.next)
    | some .key => do
      let (k, r) ← readUnless [.key, .value, .blockEnd] true true r.next steps
      let (v, r) ← blockValue r steps
      let (entries, r) ← blockEntries r steps
      return ((k, v) :: entries, r)
    | some .value => do
      guard (r.rules = .loose)
      let (v, r) ← blockValue r steps
      let (entries, r) ← blockEntries r steps
      return ((absent, v) :: entries, r)
    | _ => none

/-- The value of an entry of a block mapping. -/
def blockValue (r : Rest) : Nat → Option (Node × Rest)
  | 0 => none
  | steps + 1 =>
    match r.head? with
    | some .value => readUnless [.key, .value, .blockEnd] true true r.next steps
    | _ => some (absent, r)

/-- The entries of a flow mapping up to its end; a comma stands before each entry but the
first. By the strict rules a key stands in each. -/
def flowEntries (first : Bool) (r : Rest) : Nat → Option (List (Node × Node) × Rest)
  | 0 => none
  | steps + 1 =>
    if r.head? = some .flowMappingEnd then
      some ([], r.next)
    else if !first && r.head? ≠ some .flowEntry then
      none
    else
      let r := if first then r else r.next
      match r.head? with
      | some .flowMappingEnd => some ([], r.next)
      | some .key => do
        let (k, r) ←
          readUnless [.value, .flowEntry, .flowMappingEnd] false false r.next steps
        let (v, r) ← flowValue [.flowEntry, .flowMappingEnd] r steps
        let (entries, r) ← flowEntries false r steps
        return ((k, v) :: entries, r)
      | some .value => do
        guard (r.rules = .loose)
        let (v, r) ← flowValue [.flowEntry, .flowMappingEnd] r steps
        let (entries, r) ← flowEntries false r steps
        return ((absent, v) :: entries, r)
      | _ => do
        let (k, r) ← read false false r steps
        let (entries, r) ← flowEntries false r steps
        return ((k, absent) :: entries, r)

/-- The value of an entry of a flow collection. -/
def flowValue (ends : List Token) (r : Rest) : Nat → Option (Node × Rest)
  | 0 => none
  | steps + 1 =>
    match r.head? with
    | some .value => readUnless ends false false r.next steps
    | _ => some (absent, r)

/-- The items of a flow sequence up to its end; a comma stands before each item but the
first. An entry of a mapping may stand for an item; where its key is left out, the token
after the question mark is passed over. -/
def flowItems (first : Bool) (r : Rest) : Nat → Option (List Node × Rest)
  | 0 => none
  | steps + 1 =>
    if r.head? = some .flowSequenceEnd then
      some ([], r.next)
    else if !first && r.head? ≠ some .flowEntry then
      none
    else
      let r := if first then r else r.next
      match r.head? with
      | some .flowSequenceEnd => some ([], r.next)
      | some .key => do
        let r := r.next
        let (k, r) ←
          if r.isAt [.value, .flowEntry, .flowSequenceEnd] then some (absent, r.next)
          else read false false r steps
        let (v, r) ← flowValue [.flowEntry, .flowSequenceEnd] r steps
        let (items, r) ← flowItems false r steps
        return (.mapping [(k, v)] :: items, r)
      | _ => do
        let (item, r) ← read false false r steps
        let (items, r) ← flowItems false r steps
        return (item :: items, r)

end

/-- The tokens after the markers of the end of a document. -/
def afterEnds (tokens : List Token) : List Token :=
  tokens.dropWhile (· = .documentEnd)

/-! ### Directives -/

/-- The handles that stand for a text without a directive. -/
def knownHandles : List (String × String) :=
  [("!", "!"), ("!!", "tag:yaml.org,2002:")]

/-- The versions that directives name. -/
def versionsOf (tokens : List Token) : List (Nat × Nat) :=
  tokens.filterMap fun
    | .directive (.version major minor) => some (major, minor)
    | _ => none

/-- The handles for which directives give a text. -/
def handlesOf (tokens : List Token) : List (String × String) :=
  tokens.filterMap fun
    | .directive (.tagHandle handle text) => some (handle, text)
    | _ => none

/-- Whether directives may stand before a document. By the strict rules at most one names a
version, which is 1.1 or 1.2, and no two give a text for one handle. -/
def admits (rules : Rules) (directives : List Token) : Bool :=
  rules = .loose
    || ([[], [(1, 1)], [(1, 2)]].contains (versionsOf directives)
      && decide ((handlesOf directives).map Prod.fst).Nodup)

/-! ### Documents -/

/-- The node of a document whose tokens come next. -/
def content (rules : Rules) (directives tokens : List Token) : Option (Node × List Token) :=
  (read true false ⟨rules, tokens, [], handlesOf directives ++ knownHandles⟩
    (4 * tokens.length + 4)).map fun (node, r) => (node, r.tokens)

/-- The nodes of the documents from here on. Only the first document may start without a
marker. -/
def documents (rules : Rules) (first : Bool) (tokens : List Token) : Nat → Option (List Node)
  | 0 => none
  | steps + 1 =>
    let tokens := if first then tokens else afterEnds tokens
    let following (node : Node) (tokens : List Token) : Option (List Node) :=
      let tokens := if tokens.head? = some .documentEnd then tokens.drop 1 else tokens
      (documents rules false tokens steps).map (node :: ·)
    match tokens with
    | [] => some []
    | t :: _ =>
      if first && !t.isDirective && t ≠ .documentStart then
        (content rules [] tokens).bind fun (node, tokens) => following node tokens
      else
        let directives := tokens.takeWhile Token.isDirective
        match tokens.dropWhile Token.isDirective with
        | .documentStart :: tokens =>
          if !admits rules directives then none
          else
            match tokens with
            | [] => following absent []
            | t :: _ =>
              if t.isDirective || t = .documentStart || t = .documentEnd then
                following absent tokens
              else
                (content rules directives tokens).bind fun (node, tokens) =>
                  following node tokens
        | _ => none

/-- The nodes of the documents of a text, or none where it is no YAML by the given rules. -/
def ofText? (rules : Rules) (text : String) : Option (List Node) :=
  (tokens? rules text).bind fun tokens => documents rules true tokens (tokens.length + 1)

end Node

end ClientGen.Yaml
