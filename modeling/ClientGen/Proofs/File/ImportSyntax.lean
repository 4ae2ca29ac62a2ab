import ClientGen.File.Import
import ClientGen.Proofs.Target.MemberName
import ClientGen.Proofs.Text.Items
import Mathlib.Data.List.TakeWhile

/-!
# The syntax of imports

What a file imports stands in lines: lines that take names from a file, and in Dart lines that
give a qualifier to a file, and lines that define a name by a name with a qualifier. Each language
has its own reader for them, which is strict about what stands between the parts of a line: one
space, and between two names a comma and one space.
-/

namespace ClientGen

open Text

/-! ### Names and paths -/

/-- The names of a language beside the letters of ASCII: further letters, and the words that are
reserved. The word by which imports start is one of them, and none starts with an underscore. -/
structure Lexicon where
  wide : WideLetters
  reserved : List (List Char)
  import_mem : "import".toList ∈ reserved
  head?_ne : ∀ word ∈ reserved, word.head? ≠ some '_'

/-- Names of ASCII letters, with no other reserved word. -/
def Lexicon.ascii : Lexicon where
  wide := ⟨fun _ => false, fun _ => false⟩
  reserved := ["import".toList]
  import_mem := List.mem_cons_self
  head?_ne := by decide

/-- Whether a text is a name in a language: an identifier that is not reserved. -/
def Language.isName (lang : Language) (lex : Lexicon) (cs : List Char) : Bool :=
  lang.isIdentifier lex.wide cs && !lex.reserved.contains cs

/-- What stands between the parts of lines of imports. -/
def importMarks : List Char :=
  [' ', ',', '.', ';', '=', '\'', '"', '\x7d', '\n']

section

variable {lang : Language} {lex : Lexicon} {cs : List Char}

theorem Language.continuesIdentifier_of_isName (h : lang.isName lex cs) :
  ∀ c ∈ cs, lang.continuesIdentifier lex.wide c
  := by
  cases cs with
  | nil => simp
  | cons d cs =>
    obtain ⟨hidentifier, -⟩ := Bool.and_eq_true_iff.mp h
    obtain ⟨hstart, hrest⟩ := Bool.and_eq_true_iff.mp hidentifier
    intro c hc
    rcases List.mem_cons.mp hc with rfl | hc
    · simp [continuesIdentifier, hstart]
    · apply List.all_eq_true.mp hrest c hc

/-- No mark stands in a name. -/
theorem Language.not_mem_of_isName (h : lang.isName lex cs) {c : Char} (hc : c ∈ importMarks) :
  c ∉ cs
  := by
  have hmark : lang.continuesIdentifier lex.wide c = false := by
    simp only [importMarks, List.mem_cons, List.not_mem_nil, or_false] at hc
    rcases hc with rfl | rfl | rfl | rfl | rfl | rfl | rfl | rfl | rfl
      <;> simp [continuesIdentifier, startsIdentifier]
  intro hmem
  rw [continuesIdentifier_of_isName h c hmem] at hmark
  cases hmark

theorem Language.ne_import_of_isName (h : lang.isName lex cs) :
  cs ≠ "import".toList
  := by
  rintro rfl
  obtain ⟨-, hreserved⟩ := Bool.and_eq_true_iff.mp h
  apply absurd lex.import_mem
  simpa using hreserved

end

/-- Whether a character stands for itself in a string. -/
def Quoting.isPlain (q : Quoting) (c : Char) : Bool :=
  c ≠ q.quote && c ≠ '\\' && c ≠ '\n' && c ≠ '\r' && !q.escaped.contains c

/-- The text that a string holds, given what follows its opening delimiter, and what follows the
string. -/
def Quoting.readString (q : Quoting) : List Char → Option (List Char × List Char)
  | [] => none
  | '\\' :: [] => none
  | '\\' :: c :: cs =>
    if q.marks.contains c then
      (readString q cs).map fun (value, rest) => (unescapeChar c :: value, rest)
    else none
  | c :: cs =>
    if c = q.quote then some ([], cs)
    else if q.isPlain c then (readString q cs).map fun (value, rest) => (c :: value, rest)
    else none

section

variable {q : Quoting}

theorem Quoting.isPlain_iff {c : Char} :
  q.isPlain c ↔ c ≠ q.quote ∧ c ≠ '\\' ∧ c ≠ '\n' ∧ c ≠ '\r' ∧ c ∉ q.escaped
  := by simp [isPlain, and_assoc]

theorem Quoting.readString_cons {c : Char} (hbackslash : c ≠ '\\') (cs : List Char) :
  q.readString (c :: cs)
    = if c = q.quote then some ([], cs)
      else if q.isPlain c then (q.readString cs).map fun (value, rest) => (c :: value, rest)
      else none
  := by
  rw [readString]
  · intro h
    apply absurd h hbackslash
  · intro _ _ h
    apply absurd h hbackslash

/-- A text without special characters is read up to the delimiter after it. -/
theorem Quoting.readString_append (hquote : q.quote ≠ '\\') {cs : List Char}
    (hcs : cs.all q.isPlain) (rest : List Char) :
  q.readString (cs ++ q.quote :: rest) = some (cs, rest)
  := by
  induction cs with
  | nil => rw [List.nil_append, readString_cons hquote, if_pos rfl]
  | cons c cs ih =>
    obtain ⟨hc, hcs⟩ := Bool.and_eq_true_iff.mp (List.all_cons.symm.trans hcs)
    obtain ⟨hne, hbackslash, -⟩ := isPlain_iff.mp hc
    rw [List.cons_append, readString_cons hbackslash, if_neg hne, if_pos hc, ih hcs]
    rfl

/-- A string holds at most as much as stands between its delimiters, and less unless that stands for
itself. -/
theorem Quoting.exists_of_readString {cs value rest : List Char}
    (h : q.readString cs = some (value, rest)) :
  ∃ body, cs = body ++ q.quote :: rest ∧ value.length ≤ body.length
    ∧ (value.length = body.length → value = body ∧ body.all q.isPlain)
  := by
  fun_induction Quoting.readString q cs generalizing value rest with
  | case1 => cases h
  | case2 => cases h
  | case3 c cs hmark ih =>
    obtain ⟨⟨value, rest⟩, hread, heq⟩ := Option.map_eq_some_iff.mp h
    obtain ⟨rfl, rfl⟩ := Prod.mk.inj heq
    obtain ⟨body, rfl, hlength, -⟩ := ih hread
    refine ⟨'\\' :: c :: body, rfl, ?_, ?_⟩ <;> simp only [List.length_cons] <;> omega
  | case4 => cases h
  | case5 =>
    obtain ⟨rfl, rfl⟩ := Prod.mk.inj (Option.some.inj h)
    exact ⟨[], rfl, by simp⟩
  | case6 c cs _ _ hquote hplain ih =>
    obtain ⟨⟨value, rest⟩, hread, heq⟩ := Option.map_eq_some_iff.mp h
    obtain ⟨rfl, rfl⟩ := Prod.mk.inj heq
    obtain ⟨body, rfl, hlength, hequal⟩ := ih hread
    refine ⟨c :: body, rfl, by simpa using hlength, ?_⟩
    intro hsame
    obtain ⟨rfl, hbody⟩ := hequal (by simpa using hsame)
    simp [hplain, hbody]
  | case7 => cases h

/-- If there is no more text than what a string holds takes up, what it holds stands for itself. -/
theorem Quoting.all_isPlain_of_readString {cs value rest : List Char}
    (h : q.readString cs = some (value, rest))
    (hlength : cs.length ≤ value.length + (q.quote :: rest).length) :
  value.all q.isPlain
  := by
  obtain ⟨body, rfl, hle, hequal⟩ := exists_of_readString h
  obtain ⟨rfl, hplain⟩ := hequal (by simp at hlength; omega)
  exact hplain

end

/-- Whether a text is the path of a module in Python: dots and names with dots between them. -/
def isPythonPath (lex : Lexicon) (cs : List Char) : Bool :=
  let down := cs.dropWhile (· = '.')
  if down = [] then cs ≠ []
  else (split (· = '.') down).all (Language.python.isName lex)

/-- No mark but the dot stands in the path of a module. -/
theorem not_mem_of_isPythonPath {lex : Lexicon} {cs : List Char} (h : isPythonPath lex cs)
    {c : Char} (hc : c ∈ importMarks) (hdot : c ≠ '.') :
  c ∉ cs
  := by
  have hdown : c ∉ cs.dropWhile (· = '.') := by
    intro hmem
    obtain ⟨segment, hsegment, hin⟩ := exists_mem_split_of_mem hmem hdot
    rw [isPythonPath, if_neg (List.ne_nil_of_mem hmem)] at h
    apply Language.not_mem_of_isName (List.all_eq_true.mp h segment hsegment) hc hin
  rw [← List.takeWhile_append_dropWhile (p := (· = '.')) (l := cs), List.mem_append, not_or]
  refine ⟨?_, hdown⟩
  intro hmem
  apply hdot
  simpa using List.mem_takeWhile_imp hmem

/-- Whether a text stands for itself as the path of a file. -/
def Language.isPathText (lang : Language) (lex : Lexicon) (cs : List Char) : Bool :=
  match lang with
  | .python => isPythonPath lex cs
  | .typescript | .dart => cs.all lang.literalRules.isPlain

/-- No line ends within a path that stands for itself. -/
theorem Language.lineFeed_not_mem_of_isPathText {lang : Language} {lex : Lexicon} {cs : List Char}
    (h : lang.isPathText lex cs) :
  '\n' ∉ cs
  := by
  intro hmem
  cases lang with
  | python => apply not_mem_of_isPythonPath h (by decide) (by decide) hmem
  | typescript | dart =>
    obtain ⟨-, -, hline, -⟩ := Quoting.isPlain_iff.mp (List.all_eq_true.mp h _ hmem)
    apply hline rfl

/-! ### Lines -/

/-- A line of imports. It takes names from the file at a path, each with the name under which it is
used; or it gives a qualifier to the file; or it defines a name by one with a qualifier. -/
inductive ImportLine where
  | names (path : String) (pairs : List (String × String))
  | qualifier (path name : String)
  | definition (localName prefixName name : String)
deriving DecidableEq

/-- A name, or a name and the one under which it is used. -/
def readPair (lang : Language) (lex : Lexicon) (cs : List Char) : Option (String × String) :=
  match split (· = ' ') cs with
  | [name] => if lang.isName lex name then some (.ofList name, .ofList name) else none
  | [name, word, localName] =>
    if lang.isName lex name && word = "as".toList && lang.isName lex localName then
      some (.ofList name, .ofList localName)
    else none
  | _ => none

/-- A line of imports in TypeScript. -/
def readTypescriptLine (lex : Lexicon) (line : List Char) : Option ImportLine := do
  let cs ← line.dropPrefix? "import \x7b ".toList
  let (items, cs) ← cs.dropInfix? ['\x7d']
  let items ← items.dropSuffix? " ".toList
  let cs ← cs.dropPrefix? " from \"".toList
  let (path, rest) ← Language.typescript.literalRules.readString cs
  let pairs ← readItems (readPair .typescript lex) items
  if rest = ";".toList then some (.names (.ofList path) pairs) else none

/-- A line of imports in Python. -/
def readPythonLine (lex : Lexicon) (line : List Char) : Option ImportLine := do
  let cs ← line.dropPrefix? "    from ".toList
  let (path, cs) ← cs.dropInfix? [' ']
  let items ← cs.dropPrefix? "import ".toList
  let pairs ← readItems (readPair .python lex) items
  if isPythonPath lex path then some (.names (.ofList path) pairs) else none

/-- A name that is taken from a file in Dart. -/
def readShown (lex : Lexicon) (cs : List Char) : Option (String × String) :=
  if Language.dart.isName lex cs then some (.ofList cs, .ofList cs) else none

/-- What is done with the file at a path in Dart. -/
def readDartUse (lex : Lexicon) (path : String) (cs : List Char) : Option ImportLine :=
  match cs.dropPrefix? " show ".toList with
  | some items => (readItems (readShown lex) items).map (.names path)
  | none => do
    let name ← cs.dropPrefix? " as ".toList
    if Language.dart.isName lex name then some (.qualifier path (.ofList name)) else none

/-- The definition of a name in Dart, after the word by which it starts. -/
def readDefinition (lex : Lexicon) (cs : List Char) : Option ImportLine := do
  let cs ← cs.dropSuffix? ";".toList
  match split (· = ' ') cs with
  | [localName, ['='], target] =>
    match split (· = '.') target with
    | [prefixName, name] =>
      if [localName, prefixName, name].all (Language.dart.isName lex) then
        some (.definition (.ofList localName) (.ofList prefixName) (.ofList name))
      else none
    | _ => none
  | _ => none

/-- A line of imports in Dart. -/
def readDartLine (lex : Lexicon) (line : List Char) : Option ImportLine :=
  match line.dropPrefix? "typedef ".toList with
  | some cs => readDefinition lex cs
  | none => do
    let cs ← line.dropPrefix? "import '".toList
    let (path, rest) ← Language.dart.literalRules.readString cs
    let use ← rest.dropSuffix? ";".toList
    readDartUse lex (.ofList path) use

/-- A line of imports. -/
def Language.readLine (lang : Language) (lex : Lexicon) (line : List Char) : Option ImportLine :=
  match lang with
  | .typescript => readTypescriptLine lex line
  | .python => readPythonLine lex line
  | .dart => readDartLine lex line

/-! ### What is read -/

section

variable {lang : Language} {lex : Lexicon} {line cs : List Char} {l : ImportLine}

/-- A pair reads as it is written: as one name, or as two with a word between them. -/
theorem readPair_eq_some_iff {pair : String × String} :
  readPair lang lex cs = some pair
    ↔ lang.isName lex pair.1.toList ∧ lang.isName lex pair.2.toList
      ∧ (pair.1 = pair.2 ∧ cs = pair.1.toList
        ∨ cs = pair.1.toList ++ ' ' :: ("as".toList ++ ' ' :: pair.2.toList))
  := by
  constructor
  · intro h
    have hcs := intercalate_split ' ' cs
    rw [readPair] at h
    split at h
    case h_1 name hsplit =>
      split at h
      case isTrue hname =>
        obtain rfl := Option.some.inj h
        rw [hsplit, List.intercalate_singleton] at hcs
        simpa [hcs] using hname
      case isFalse => cases h
    case h_2 name word localName hsplit =>
      split at h
      case isTrue hnames =>
        obtain rfl := Option.some.inj h
        simp only [Bool.and_eq_true, decide_eq_true_eq] at hnames
        obtain ⟨⟨hname, rfl⟩, hlocal⟩ := hnames
        rw [hsplit] at hcs
        simp [hname, hlocal, ← hcs]
      case isFalse => cases h
    case h_3 => cases h
  · rintro ⟨hname, hlocal, h⟩
    have hspace : ' ' ∉ pair.1.toList := Language.not_mem_of_isName hname (by decide)
    have hspace' : ' ' ∉ pair.2.toList := Language.not_mem_of_isName hlocal (by decide)
    rcases h with ⟨heq, rfl⟩ | rfl
    · rw [readPair, split_eq_singleton hspace]
      simp [Prod.ext_iff, heq, hlocal]
    · rw [readPair, split_append_cons rfl, split_append_cons rfl, split_eq_singleton hspace,
        split_eq_singleton hspace', split_eq_singleton (by decide)]
      simp [hname, hlocal]

/-- A line of TypeScript takes items between braces from the file at a path between quotes. -/
theorem readTypescriptLine_eq_some_iff :
  readTypescriptLine lex line = some l
    ↔ ∃ items tail path pairs,
        line = "import \x7b ".toList
          ++ ((items ++ " ".toList) ++ '\x7d' :: (" from \"".toList ++ tail))
        ∧ '\x7d' ∉ items ++ " ".toList
        ∧ Language.typescript.literalRules.readString tail = some (path, ";".toList)
        ∧ readItems (readPair .typescript lex) items = some pairs
        ∧ .names (.ofList path) pairs = l
  := by
  simp only [readTypescriptLine, Option.bind_eq_bind, Option.bind_eq_some_iff,
    List.dropPrefix?_eq_some_iff, List.dropSuffix?_eq_some_iff, dropInfix?_singleton_eq_some_iff,
    beq_iff_eq, Prod.exists, Option.ite_none_right_eq_some, Option.some.injEq]
  constructor
  · rintro ⟨_, ⟨_, rfl, rfl⟩, _, _, ⟨rfl, hbrace⟩, items, ⟨_, rfl, rfl⟩, tail, ⟨_, rfl, rfl⟩,
      path, _, hpath, pairs, hitems, rfl, hl⟩
    exact ⟨items, tail, path, pairs, rfl, hbrace, hpath, hitems, hl⟩
  · rintro ⟨items, tail, path, pairs, rfl, hbrace, hpath, hitems, hl⟩
    exact ⟨_, ⟨_, rfl, rfl⟩, _, _, ⟨rfl, hbrace⟩, items, ⟨_, rfl, rfl⟩, tail, ⟨_, rfl, rfl⟩,
      path, _, hpath, pairs, hitems, rfl, hl⟩

/-- A line of Python takes items from the module at a path. -/
theorem readPythonLine_eq_some_iff :
  readPythonLine lex line = some l
    ↔ ∃ path items pairs,
        line = "    from ".toList ++ (path ++ ' ' :: ("import ".toList ++ items))
        ∧ isPythonPath lex path
        ∧ readItems (readPair .python lex) items = some pairs
        ∧ .names (.ofList path) pairs = l
  := by
  simp only [readPythonLine, Option.bind_eq_bind, Option.bind_eq_some_iff,
    List.dropPrefix?_eq_some_iff, dropInfix?_singleton_eq_some_iff, beq_iff_eq, Prod.exists,
    Option.ite_none_right_eq_some, Option.some.injEq]
  constructor
  · rintro ⟨_, ⟨_, rfl, rfl⟩, path, _, ⟨rfl, -⟩, items, ⟨_, rfl, rfl⟩, pairs, hitems, hpath, hl⟩
    exact ⟨path, items, pairs, rfl, hpath, hitems, hl⟩
  · rintro ⟨path, items, pairs, rfl, hpath, hitems, hl⟩
    have hspace : ' ' ∉ path := not_mem_of_isPythonPath hpath (by decide) (by decide)
    exact ⟨_, ⟨_, rfl, rfl⟩, path, _, ⟨rfl, hspace⟩, items, ⟨_, rfl, rfl⟩, pairs, hitems, hpath, hl⟩

-- No comma follows the last name.
example :
  readPythonLine .ascii "    from .user import User, ".toList = none
  := by decide

theorem readShown_eq_some_iff {pair : String × String} :
  readShown lex cs = some pair
    ↔ Language.dart.isName lex cs ∧ (.ofList cs, .ofList cs) = pair
  := by simp [readShown]

/-- In Dart, names are shown of a file, or the file is given a qualifier. -/
theorem readDartUse_eq_some_iff {path : String} :
  readDartUse lex path cs = some l
    ↔ (∃ items pairs, cs = " show ".toList ++ items
        ∧ readItems (readShown lex) items = some pairs ∧ .names path pairs = l)
      ∨ ∃ name, cs = " as ".toList ++ name ∧ Language.dart.isName lex name
        ∧ .qualifier path (.ofList name) = l
  := by
  rw [readDartUse]
  constructor
  · intro h
    split at h
    case h_1 items hcs =>
      obtain ⟨_, rfl, heq⟩ := List.dropPrefix?_eq_some_iff.mp hcs
      obtain rfl := eq_of_beq heq
      obtain ⟨pairs, hitems, hl⟩ := Option.map_eq_some_iff.mp h
      left
      exact ⟨items, pairs, rfl, hitems, hl⟩
    case h_2 =>
      simp only [Option.bind_eq_bind, Option.bind_eq_some_iff, List.dropPrefix?_eq_some_iff,
        beq_iff_eq, Option.ite_none_right_eq_some, Option.some.injEq] at h
      obtain ⟨name, ⟨_, rfl, rfl⟩, hname, hl⟩ := h
      right
      exact ⟨name, rfl, hname, hl⟩
  · rintro (⟨items, pairs, rfl, hitems, hl⟩ | ⟨name, rfl, hname, hl⟩)
    · rw [List.dropPrefix?_append_of_beq _ (beq_self_eq_true _)]
      simp [hitems, hl]
    · have hshow : (" as ".toList ++ name).dropPrefix? " show ".toList = none := rfl
      rw [hshow]
      simp only [List.dropPrefix?_append_of_beq _ (beq_self_eq_true _)]
      simp [hname, hl]

/-- In Dart a definition names a name with a qualifier. -/
theorem readDefinition_eq_some_iff :
  readDefinition lex cs = some l
    ↔ ∃ localName prefixName name,
        cs = (localName ++ ' ' :: (['='] ++ ' ' :: (prefixName ++ '.' :: name))) ++ ";".toList
        ∧ (∀ text ∈ [localName, prefixName, name], Language.dart.isName lex text)
        ∧ .definition (.ofList localName) (.ofList prefixName) (.ofList name) = l
  := by
  simp only [readDefinition, Option.bind_eq_bind, Option.bind_eq_some_iff,
    List.dropSuffix?_eq_some_iff, beq_iff_eq]
  constructor
  · rintro ⟨cs, ⟨_, rfl, rfl⟩, h⟩
    have hcs := intercalate_split ' ' cs
    split at h
    case h_1 localName target hsplit =>
      have htarget := intercalate_split '.' target
      split at h
      case h_1 prefixName name hparts =>
        simp only [Option.ite_none_right_eq_some, Option.some.injEq] at h
        obtain ⟨hnames, hl⟩ := h
        rw [hparts] at htarget
        rw [hsplit, ← htarget] at hcs
        exact ⟨localName, prefixName, name, by simp [← hcs], List.all_eq_true.mp hnames, hl⟩
      case h_2 => cases h
    case h_2 => cases h
  · rintro ⟨localName, prefixName, name, rfl, hnames, hl⟩
    refine ⟨_, ⟨_, rfl, rfl⟩, ?_⟩
    have hfree : ∀ text ∈ [localName, prefixName, name], ' ' ∉ text ∧ '.' ∉ text := by
      intro text htext
      have hname := hnames text htext
      exact ⟨Language.not_mem_of_isName hname (by decide),
        Language.not_mem_of_isName hname (by decide)⟩
    simp only [List.forall_mem_cons] at hfree
    obtain ⟨⟨hlocal, -⟩, ⟨hspace, hprefix⟩, ⟨hspace', hname⟩, -⟩ := hfree
    have htarget : ' ' ∉ prefixName ++ '.' :: name := by simp [hspace, hspace']
    rw [split_append_cons rfl, split_append_cons rfl, split_eq_singleton hlocal,
      split_eq_singleton htarget, split_eq_singleton (by decide)]
    simp only [List.singleton_append]
    rw [split_append_cons rfl, split_eq_singleton hprefix, split_eq_singleton hname]
    simp only [List.singleton_append]
    rw [if_pos (List.all_eq_true.mpr hnames), hl]

/-- A line of Dart defines a name, or does something with the file at a path between quotes. -/
theorem readDartLine_eq_some_iff :
  readDartLine lex line = some l
    ↔ (∃ cs, line = "typedef ".toList ++ cs ∧ readDefinition lex cs = some l)
      ∨ ∃ tail path use, line = "import '".toList ++ tail
        ∧ Language.dart.literalRules.readString tail = some (path, use ++ ";".toList)
        ∧ readDartUse lex (.ofList path) use = some l
  := by
  rw [readDartLine]
  constructor
  · intro h
    split at h
    case h_1 cs hline =>
      obtain ⟨_, rfl, heq⟩ := List.dropPrefix?_eq_some_iff.mp hline
      obtain rfl := eq_of_beq heq
      left
      exact ⟨cs, rfl, h⟩
    case h_2 =>
      simp only [Option.bind_eq_bind, Option.bind_eq_some_iff, List.dropPrefix?_eq_some_iff,
        List.dropSuffix?_eq_some_iff, beq_iff_eq, Prod.exists] at h
      obtain ⟨tail, ⟨_, rfl, rfl⟩, path, _, hpath, use, ⟨_, rfl, rfl⟩, hl⟩ := h
      right
      exact ⟨tail, path, use, rfl, hpath, hl⟩
  · rintro (⟨cs, rfl, h⟩ | ⟨tail, path, use, rfl, hpath, hl⟩)
    · rw [List.dropPrefix?_append_of_beq _ (beq_self_eq_true _)]
      exact h
    · have htypedef : ("import '".toList ++ tail).dropPrefix? "typedef ".toList = none := rfl
      rw [htypedef]
      simp only [Option.bind_eq_bind, Option.bind_eq_some_iff, List.dropPrefix?_eq_some_iff,
        List.dropSuffix?_eq_some_iff, beq_iff_eq, Prod.exists]
      exact ⟨tail, ⟨_, rfl, rfl⟩, path, _, hpath, use, ⟨_, rfl, rfl⟩, hl⟩

end

end ClientGen
