import ClientGen.Proofs.Target.ReadText

/-!
# Types in TypeScript can be read back

What starts with a word is a type that the word names, or one that is applied to another
type; what starts with a brace is a map or an object. So a reader gets back the
alternatives of a type from its text, provided that no declaration has a name that
TypeScript gives to a type, and types with different alternatives have different texts.
-/

namespace ClientGen

/-! ### Alternatives -/

section Read

/-- What reads a type: its alternatives and what follows them. -/
abbrev TypeReader := List Char → List Alternative × List Char

variable (read : TypeReader)

/-- The alternative that starts with a word: a type applied to another one, or the type
that the word names. -/
def readApplied (word : String) (rest : List Char) : Option (Alternative × List Char) :=
  match rest.dropPrefix? "<".toList with
  | none => some (ofWord word, rest)
  | some rest => do
    let (as, rest) := read rest
    let rest ← rest.dropPrefix? ">".toList
    if word = "Array" then some (.array as, rest)
    else if word = "Promise" then some (.promise as, rest)
    else none

/-- A property: its name, its mark and its type. -/
def readProperty (cs : List Char) : Option (Property (List Alternative) × List Char) := do
  let (name, rest) := readName cs
  let (isOptional, rest) :=
    match rest.dropPrefix? "?".toList with
    | some rest => (true, rest)
    | none => (false, rest)
  let rest ← rest.dropPrefix? ": ".toList
  let (as, rest) := read rest
  return (⟨String.ofList name, isOptional, as⟩, rest)

/-- The alternative that starts with a brace: a map, or an object with at most as many
properties as the number says. -/
def readBraced (n : Nat) (cs : List Char) : Option (Alternative × List Char) :=
  match cs.dropPrefix? "\x7b[key: ".toList with
  | some rest => do
    let (key, rest) := read rest
    let rest ← rest.dropPrefix? "]: ".toList
    let (value, rest) := read rest
    let rest ← rest.dropPrefix? "\x7d".toList
    return (.map key value, rest)
  | none => do
    let rest ← cs.dropPrefix? "\x7b".toList
    let (properties, rest) := readJoined ", " (readProperty read) n rest
    let rest ← rest.dropPrefix? "\x7d".toList
    return (.object properties, rest)

end Read

/-- An alternative and what follows it, where types lie within each other at most as deep
as the number says. -/
def readAlternative : Nat → List Char → Option (Alternative × List Char)
  | 0, _ => none
  | n + 1, cs =>
    let read := readJoined " | " (readAlternative n) n
    let word := cs.takeWhile Text.isIdentifierPart
    let rest := cs.dropWhile Text.isIdentifierPart
    if word = [] then readBraced read n rest
    else readApplied read (String.ofList word) rest

/-- The alternatives of a type and what follows it. -/
def readType (n : Nat) : TypeReader :=
  readJoined " | " (readAlternative n) n

section Laws

variable {read : TypeReader} {rest : List Char}

theorem readApplied_ofWord (word : String) (h : EndsAlternative rest) :
  readApplied read word rest = some (ofWord word, rest)
  := by
  have hnone : rest.dropPrefix? "<".toList = none :=
    dropPrefix?_eq_none (fun c hc => (h c hc).2) []
  rw [readApplied, hnone]

/-- A type applied to another one is read back if the reader gets back the latter. -/
theorem readApplied_append (word : String) {as : List Alternative} {cs : List Char}
    (hread : read (cs ++ (">".toList ++ rest)) = (as, ">".toList ++ rest)) :
  readApplied read word ("<".toList ++ (cs ++ (">".toList ++ rest)))
    = if word = "Array" then some (.array as, rest)
      else if word = "Promise" then some (.promise as, rest)
      else none
  := by
  rw [readApplied, dropPrefix?_append]
  dsimp only
  rw [hread]
  dsimp only
  rw [dropPrefix?_append]
  rfl

/-- A map is read back if the reader gets back its types. -/
theorem readBraced_map (n : Nat) {key value : List Alternative} {ks vs : List Char}
    (hkey : read (ks ++ ("]: ".toList ++ (vs ++ ("\x7d".toList ++ rest))))
      = (key, "]: ".toList ++ (vs ++ ("\x7d".toList ++ rest))))
    (hvalue : read (vs ++ ("\x7d".toList ++ rest)) = (value, "\x7d".toList ++ rest)) :
  readBraced read n
      ("\x7b[key: ".toList ++ (ks ++ ("]: ".toList ++ (vs ++ ("\x7d".toList ++ rest)))))
    = some (.map key value, rest)
  := by
  rw [readBraced, dropPrefix?_append]
  dsimp only
  rw [hkey]
  dsimp only
  rw [dropPrefix?_append]
  dsimp only [bind, Option.bind]
  rw [hvalue]
  dsimp only
  rw [dropPrefix?_append]
  rfl

/-- An object is read back if the reader gets back its properties. -/
theorem readBraced_object {n : Nat} {properties : List (Property (List Alternative))}
    {ps : List Char} (hhead : ∀ c ∈ (ps ++ ("\x7d".toList ++ rest)).head?, c ≠ '[')
    (hread : readJoined ", " (readProperty read) n (ps ++ ("\x7d".toList ++ rest))
      = (properties, "\x7d".toList ++ rest)) :
  readBraced read n ("\x7b".toList ++ (ps ++ ("\x7d".toList ++ rest)))
    = some (.object properties, rest)
  := by
  have hmap : ("\x7b".toList ++ (ps ++ ("\x7d".toList ++ rest))).dropPrefix?
      "\x7b[key: ".toList = none :=
    dropPrefix?_eq_none hhead "key: ".toList
  rw [readBraced, hmap]
  dsimp only
  rw [dropPrefix?_append]
  dsimp only [bind, Option.bind]
  rw [hread]
  dsimp only
  rw [dropPrefix?_append]
  rfl

theorem readBraced_eq_none {n : Nat} (h : ∀ c ∈ rest.head?, c ≠ '\x7b') :
  readBraced read n rest = none
  := by
  have hmap : rest.dropPrefix? "\x7b[key: ".toList = none := dropPrefix?_eq_none h _
  have hobject : rest.dropPrefix? "\x7b".toList = none := dropPrefix?_eq_none h _
  rw [readBraced, hmap, hobject]
  rfl

/-- A property is read back if the reader gets back its type. -/
theorem readProperty_propertyText {p : Property (List Alternative)}
    (hread : read ((Alternative.unionText p.type).toList ++ rest) = (p.type, rest)) :
  readProperty read ((Alternative.propertyText p).toList ++ rest) = some (p, rest)
  := by
  obtain ⟨name, isOptional, as⟩ := p
  cases isOptional with
  | false =>
    have htext : (Alternative.propertyText ⟨name, false, as⟩).toList ++ rest
        = (Language.quoteIfNeeded name).toList
          ++ (": ".toList ++ ((Alternative.unionText as).toList ++ rest)) := by
      simp [Alternative.propertyText]
    have hmark : (": ".toList ++ ((Alternative.unionText as).toList ++ rest)).dropPrefix?
        "?".toList = none := dropPrefix?_eq_none (c := '?') (by simp) []
    rw [htext, readProperty, readName_quoteIfNeeded name (by simp; decide)]
    dsimp only
    rw [hmark, dropPrefix?_append]
    dsimp only [bind, Option.bind]
    rw [hread, String.ofList_toList]
    rfl
  | true =>
    have htext : (Alternative.propertyText ⟨name, true, as⟩).toList ++ rest
        = (Language.quoteIfNeeded name).toList
          ++ ("?".toList ++ (": ".toList ++ ((Alternative.unionText as).toList ++ rest))) := by
      simp [Alternative.propertyText]
    rw [htext, readProperty, readName_quoteIfNeeded name (by simp; decide)]
    dsimp only
    rw [dropPrefix?_append]
    dsimp only
    rw [dropPrefix?_append]
    dsimp only [bind, Option.bind]
    rw [hread, String.ofList_toList]
    rfl

end Laws

/-! ### Reading back -/

theorem readAlternative_word (n : Nat) {word rest : List Char}
    (hword : word.all Text.isIdentifierPart) (hne : word ≠ [])
    (hrest : ∀ c ∈ rest.head?, Text.isIdentifierPart c = false) :
  readAlternative (n + 1) (word ++ rest)
    = readApplied (readType n) (String.ofList word) rest
  := by
  obtain ⟨htake, hdrop⟩ := takeWhile_word hword hrest
  rw [readAlternative, htake, hdrop, if_neg hne]
  rfl

theorem readAlternative_of_head (n : Nat) {cs : List Char}
    (hcs : ∀ c ∈ cs.head?, Text.isIdentifierPart c = false) :
  readAlternative (n + 1) cs = readBraced (readType n) n cs
  := by
  obtain ⟨htake, hdrop⟩ := @takeWhile_word [] cs rfl hcs
  rw [List.nil_append] at htake hdrop
  rw [readAlternative, htake, hdrop, if_pos rfl]
  rfl

theorem readAlternative_eq_none (n : Nat) {rest : List Char} (h : EndsType rest) :
  readAlternative n rest = none
  := by
  cases n with
  | zero => rfl
  | succ n =>
    rw [readAlternative_of_head n fun c hc => (h.endsAlternative c hc).1]
    apply readBraced_eq_none
    intro c hc
    apply h.ne hc
    decide

/-- An identifier that is not the name of a type in TypeScript. -/
def IsTypeName (name : String) : Prop :=
  Text.isIdentifier name.toList ∧ name ∉ Builtin.all.map Builtin.text

instance (name : String) : Decidable (IsTypeName name) :=
  inferInstanceAs (Decidable (Text.isIdentifier name.toList ∧ _))

theorem length_le_sizeOf {α : Type} [SizeOf α] (items : List α) :
  items.length ≤ sizeOf items
  := by
  induction items with
  | nil => simp
  | cons item items ih =>
    simp
    omega

/-- A type is read back if alternatives that are not larger are. -/
theorem readType_unionText {n : Nat}
    (hread : ∀ a : Alternative, sizeOf a ≤ n → (∀ name ∈ a.names, IsTypeName name) →
      ∀ rest, EndsAlternative rest →
        readAlternative n (a.text.toList ++ rest) = some (a, rest))
    {as : List Alternative} (hsize : sizeOf as ≤ n)
    (hnames : ∀ name ∈ Alternative.unionNames as, IsTypeName name)
    {rest : List Char} (hrest : EndsType rest) :
  readType n ((Alternative.unionText as).toList ++ rest) = (as, rest)
  := by
  rw [readType, Alternative.unionText, Alternative.texts_eq_map]
  apply readJoined_intercalate _ hrest.endsAlternative _ (readAlternative_eq_none n hrest)
  · intro a ha
    apply hread
    · have := List.sizeOf_lt_of_mem ha
      omega
    · intro name hname
      apply hnames
      apply (Alternative.mem_unionNames name as).mpr
      use a
  · apply Nat.le_trans (length_le_sizeOf as) hsize
  · intro cs c hc
    obtain rfl := Option.some.inj hc
    decide
  · apply dropPrefix?_eq_none
    intro c hc
    apply hrest.ne hc
    decide

/-- The properties of an object are read back if their types are. -/
theorem readJoined_propertyTexts {read : TypeReader} {n : Nat}
    {properties : List (Property (List Alternative))}
    (hread : ∀ p ∈ properties, ∀ cs, EndsType cs →
      read ((Alternative.unionText p.type).toList ++ cs) = (p.type, cs))
    (hlength : properties.length ≤ n) (rest : List Char) :
  readJoined ", " (readProperty read) n
      ((", ".intercalate (properties.map Alternative.propertyText)).toList
        ++ ("\x7d".toList ++ rest))
    = (properties, "\x7d".toList ++ rest)
  := by
  have hitems : ∀ p ∈ properties, ∀ cs, EndsType cs →
      readProperty read ((Alternative.propertyText p).toList ++ cs) = some (p, cs) :=
    fun p hp cs hcs => readProperty_propertyText (hread p hp cs hcs)
  apply readJoined_intercalate _ _ _ _ hitems hlength
  · intro cs
    apply endsType_cons (by decide)
  · apply endsType_cons (by decide)
  · apply dropPrefix?_eq_none (c := ',')
    simp
  · rfl

/-- The properties of an object do not start with a bracket, nor does the brace after
them. -/
theorem head?_propertyTexts_ne (properties : List (Property (List Alternative)))
    (rest : List Char) :
  ∀ c ∈ ((", ".intercalate (properties.map Alternative.propertyText)).toList
    ++ ("\x7d".toList ++ rest)).head?, c ≠ '['
  := by
  cases properties with
  | nil => simp
  | cons p properties =>
    have hstart : ∃ cs, (", ".intercalate
          ((p :: properties).map Alternative.propertyText)).toList
        = (Language.quoteIfNeeded p.name).toList ++ cs := by
      rw [List.map_cons, Alternative.propertyText, String.append_assoc, String.append_assoc,
        String.intercalate_cons_append, String.toList_append]
      exact ⟨_, rfl⟩
    obtain ⟨cs, hcs⟩ := hstart
    rw [hcs, List.append_assoc]
    apply head?_quoteIfNeeded_ne

/-- A word that is not applied to a type is read as what it names. -/
theorem readAlternative_ofWord (n : Nat) {word : String} {rest : List Char}
    (hword : word.toList.all Text.isIdentifierPart) (hne : word.toList ≠ [])
    (hrest : EndsAlternative rest) :
  readAlternative (n + 1) (word.toList ++ rest) = some (ofWord word, rest)
  := by
  rw [readAlternative_word n hword hne fun c hc => (hrest c hc).1, String.ofList_toList]
  apply readApplied_ofWord word hrest

/-- A type applied to another one is read back if the latter is. -/
theorem readAlternative_applied {n : Nat} {word : String} {as : List Alternative}
    {rest : List Char} (hword : word.toList.all Text.isIdentifierPart)
    (hne : word.toList ≠ [])
    (hread : ∀ cs, EndsType cs →
      readType n ((Alternative.unionText as).toList ++ cs) = (as, cs)) :
  readAlternative (n + 1) ((word ++ ("<" ++ Alternative.unionText as ++ ">")).toList ++ rest)
    = if word = "Array" then some (.array as, rest)
      else if word = "Promise" then some (.promise as, rest)
      else none
  := by
  have htext : (word ++ ("<" ++ Alternative.unionText as ++ ">")).toList ++ rest
      = word.toList
        ++ ("<".toList ++ ((Alternative.unionText as).toList ++ (">".toList ++ rest))) := by
    simp
  rw [htext, readAlternative_word n hword hne (by simp; decide), String.ofList_toList]
  apply readApplied_append
  apply hread
  apply endsType_cons (by decide)

/-- An alternative is read back. -/
theorem readAlternative_text {n : Nat} {a : Alternative} (hsize : sizeOf a ≤ n)
    (hnames : ∀ name ∈ a.names, IsTypeName name) {rest : List Char}
    (hrest : EndsAlternative rest) :
  readAlternative n (a.text.toList ++ rest) = some (a, rest)
  := by
  induction n generalizing a rest with
  | zero =>
    cases a with
    | _ => simp at hsize
  | succ n ih =>
    have hunion : ∀ as : List Alternative, sizeOf as ≤ n →
        (∀ name ∈ Alternative.unionNames as, IsTypeName name) →
        ∀ cs, EndsType cs → readType n ((Alternative.unionText as).toList ++ cs) = (as, cs) := by
      intro as has hnames cs hcs
      apply readType_unionText _ has hnames hcs
      intro a ha hnames rest hrest
      apply ih ha hnames hrest
    cases a with
    | builtin b =>
      have hword : b.text.toList.all Text.isIdentifierPart := by cases b <;> decide
      have hne : b.text.toList ≠ [] := by cases b <;> decide
      rw [Alternative.text, readAlternative_ofWord n hword hne hrest, ofWord_builtin]
    | named name =>
      obtain ⟨hname, hother⟩ := hnames name (List.mem_singleton_self _)
      have hne : name.toList ≠ [] := by
        intro h
        rw [h] at hname
        cases hname
      rw [Alternative.text, readAlternative_ofWord n (all_of_isIdentifier hname) hne hrest,
        ofWord_named hother]
    | array element =>
      have htext : (Alternative.array element).text
          = "Array" ++ ("<" ++ Alternative.unionText element ++ ">") := by
        simp [Alternative.text, Alternative.unionText, ← String.append_assoc]
      have hsize' : sizeOf element ≤ n := by
        simp at hsize
        omega
      rw [htext, readAlternative_applied (by decide) (by decide) (hunion element hsize' hnames)]
      rfl
    | map key value =>
      have htext : (Alternative.map key value).text.toList ++ rest
          = "\x7b[key: ".toList ++ ((Alternative.unionText key).toList
            ++ ("]: ".toList
              ++ ((Alternative.unionText value).toList ++ ("\x7d".toList ++ rest)))) := by
        simp [Alternative.text, Alternative.unionText]
      have hsizes : sizeOf key ≤ n ∧ sizeOf value ≤ n := by
        simp at hsize
        omega
      have hkey : ∀ name ∈ Alternative.unionNames key, IsTypeName name :=
        fun name hname => hnames name (List.mem_append_left _ hname)
      have hvalue : ∀ name ∈ Alternative.unionNames value, IsTypeName name :=
        fun name hname => hnames name (List.mem_append_right _ hname)
      rw [htext, readAlternative_of_head n (by simp; decide), readBraced_map]
      · apply hunion key hsizes.1 hkey
        apply endsType_cons (by decide)
      · apply hunion value hsizes.2 hvalue
        apply endsType_cons (by decide)
    | promise result =>
      have htext : (Alternative.promise result).text
          = "Promise" ++ ("<" ++ Alternative.unionText result ++ ">") := by
        simp [Alternative.text, Alternative.unionText, ← String.append_assoc]
      have hsize' : sizeOf result ≤ n := by
        simp at hsize
        omega
      rw [htext, readAlternative_applied (by decide) (by decide) (hunion result hsize' hnames)]
      rfl
    | object properties =>
      have htext : (Alternative.object properties).text.toList ++ rest
          = "\x7b".toList ++ ((", ".intercalate
              (properties.map Alternative.propertyText)).toList ++ ("\x7d".toList ++ rest)) := by
        simp [Alternative.text, Alternative.propertyTexts_eq_map]
      rw [htext, readAlternative_of_head n (by simp; decide), readBraced_object]
      · apply head?_propertyTexts_ne
      · apply readJoined_propertyTexts
        · intro p hp
          have hp' := List.sizeOf_lt_of_mem hp
          apply hunion
          · obtain ⟨_, _, as⟩ := p
            simp at hsize hp' ⊢
            omega
          · intro name hname
            apply hnames
            apply (Alternative.mem_propertyNames name properties).mpr
            use p
        · have := length_le_sizeOf properties
          simp at hsize
          omega

/-- A type is read back from its text as its alternatives. -/
theorem readType_typescript {t : TypeNode} (hcustom : t.containsCustom = false)
    (hnames : ∀ name ∈ t.referencedNames, IsTypeName name) {n : Nat}
    (hsize : sizeOf t.alternatives ≤ n) :
  readType n t.typescript.toList = (t.alternatives, [])
  := by
  have hread : readType n ((Alternative.unionText t.alternatives).toList ++ [])
      = (t.alternatives, []) := by
    apply readType_unionText _ hsize _ endsType_nil
    · intro a ha hnames rest hrest
      apply readAlternative_text ha hnames hrest
    · rw [TypeNode.unionNames_alternatives t hcustom]
      intro name hname
      apply hnames
      apply List.mem_eraseDups.mpr hname
  rw [List.append_nil, ← t.typescript_eq] at hread
  apply hread

/-- Types without raw types that refer to declarations by identifiers, none of which is the
name of a type in TypeScript, have one text exactly when they have the same
alternatives. -/
theorem TypeNode.typescript_eq_iff (a b : TypeNode)
    (hcustom : a.containsCustom = false ∧ b.containsCustom = false)
    (hnames : ∀ name ∈ a.referencedNames ++ b.referencedNames, IsTypeName name) :
  a.typescript = b.typescript ↔ a.alternatives = b.alternatives
  := by
  constructor
  · intro h
    have ha := readType_typescript hcustom.1
      (fun name hname => hnames name (List.mem_append_left _ hname))
      (Nat.le_add_right (sizeOf a.alternatives) (sizeOf b.alternatives))
    have hb := readType_typescript hcustom.2
      (fun name hname => hnames name (List.mem_append_right _ hname))
      (Nat.le_add_left (sizeOf b.alternatives) (sizeOf a.alternatives))
    rw [h, hb] at ha
    apply (congrArg Prod.fst ha).symm
  · intro h
    rw [a.typescript_eq, b.typescript_eq, h]

namespace Example

/-- A reference to a declaration. -/
def account : TypeNode :=
  .declared (.struct "Account" [] none)

/-- A map to accounts or nothing. -/
def accountsByName : TypeNode :=
  .map (.primitive .string) (.union [.array account, .primitive .null, .unknown])

/-- The same map with unions in unions. -/
def nestedByName : TypeNode :=
  .map (.primitive .string)
    (.union [.union [.array account, .union [.primitive .null]], .union []])

/-- An object with two properties. -/
def twoProperties : TypeNode :=
  .object [⟨"id", false, account⟩, ⟨"name", true, .primitive .string⟩]

/-- An object with one property, whose name looks like two. -/
def oneProperty : TypeNode :=
  .object [⟨"id: Account, name", true, .primitive .string⟩]

end Example

theorem TypeNode.typescript_accountsByName :
  Example.accountsByName.typescript = Example.nestedByName.typescript
    ∧ Example.twoProperties.typescript ≠ Example.oneProperty.typescript
  := by
  constructor
  · apply (typescript_eq_iff _ _ ⟨rfl, rfl⟩ (by decide)).mpr
    rfl
  · intro h
    have halternatives := (typescript_eq_iff _ _ ⟨rfl, rfl⟩ (by decide)).mp h
    simp [Example.twoProperties, Example.oneProperty, alternatives, propertyAlternatives]
      at halternatives

end ClientGen
