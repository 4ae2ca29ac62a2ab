import ClientGen.Proofs.File.ImportSyntax

/-!
# Lines of imports

A line of imports is read back if its path stands for itself as a string, or in Python as the path
of a module. Otherwise the text of the line, which may be several lines then, is not read as
imports, or it is read with another path.
-/

namespace ClientGen

open Text

/-! ### The text of a line -/

namespace ImportLine

/-- A name, and the one under which it is used if that is another one. -/
def pairText (pair : String × String) : String :=
  if pair.1 = pair.2 then pair.1 else pair.1 ++ " as " ++ pair.2

/-- Names and those under which they are used. -/
def pairsText (pairs : List (String × String)) : String :=
  ", ".intercalate (pairs.map pairText)

/-- The text of a line in a language. -/
def text (lang : Language) : ImportLine → String
  | .names path pairs =>
    match lang with
    | .typescript => "import \x7b " ++ pairsText pairs ++ " \x7d from \"" ++ path ++ "\";"
    | .python => "    from " ++ path ++ " import " ++ pairsText pairs
    | .dart => "import '" ++ path ++ "' show " ++ pairsText pairs ++ ";"
  | .qualifier path name => "import '" ++ path ++ "' as " ++ name ++ ";"
  | .definition localName prefixName name =>
    "typedef " ++ localName ++ " = " ++ prefixName ++ "." ++ name ++ ";"

section

variable (path localName prefixName name : String) (pairs : List (String × String))

@[simp]
theorem text_names_typescript :
  (names path pairs).text .typescript
    = "import \x7b " ++ pairsText pairs ++ " \x7d from \"" ++ path ++ "\";"
  := rfl

@[simp]
theorem text_names_python :
  (names path pairs).text .python = "    from " ++ path ++ " import " ++ pairsText pairs
  := rfl

@[simp]
theorem text_names_dart :
  (names path pairs).text .dart = "import '" ++ path ++ "' show " ++ pairsText pairs ++ ";"
  := rfl

@[simp]
theorem text_qualifier (lang : Language) :
  (qualifier path name).text lang = "import '" ++ path ++ "' as " ++ name ++ ";"
  := rfl

@[simp]
theorem text_definition (lang : Language) :
  (definition localName prefixName name).text lang
    = "typedef " ++ localName ++ " = " ++ prefixName ++ "." ++ name ++ ";"
  := rfl

end

/-- A line of a language: it takes at least one name, in Dart under itself, and only Dart has lines
of the other kinds. -/
def IsLine (lang : Language) (lex : Lexicon) : ImportLine → Prop
  | .names _ pairs => pairs ≠ []
    ∧ (∀ pair ∈ pairs, lang.isName lex pair.1.toList ∧ lang.isName lex pair.2.toList)
    ∧ (lang = .dart → ∀ pair ∈ pairs, pair.1 = pair.2)
  | .qualifier _ name => lang = .dart ∧ lang.isName lex name.toList
  | .definition localName prefixName name => lang = .dart
    ∧ ∀ text ∈ [localName, prefixName, name], lang.isName lex text.toList

/-- The path in a line. -/
def path? : ImportLine → Option String
  | .names path _ => some path
  | .qualifier path _ => some path
  | .definition .. => none

/-- A line with another path. -/
def withPath (path : String) : ImportLine → ImportLine
  | .names _ pairs => .names path pairs
  | .qualifier _ name => .qualifier path name
  | .definition localName prefixName name => .definition localName prefixName name

/-! ### Lines are read back -/

section

variable {lang : Language} {lex : Lexicon} {pairs : List (String × String)}

theorem toList_pairText_of_ne {pair : String × String} (h : pair.1 ≠ pair.2) :
  (pairText pair).toList = pair.1.toList ++ ' ' :: ("as".toList ++ ' ' :: pair.2.toList)
  := by simp [pairText, h]

theorem toList_pairsText (pairs : List (String × String)) :
  (pairsText pairs).toList = [',', ' '].intercalate (pairs.map fun pair => (pairText pair).toList)
  := by
  rw [pairsText, String.toList_intercalate, List.map_map]
  rfl

/-- Only spaces and commas stand between names. -/
theorem not_mem_pairText {pair : String × String} (hname : lang.isName lex pair.1.toList)
    (hlocal : lang.isName lex pair.2.toList) {c : Char} (hc : c ∈ importMarks) (hspace : c ≠ ' ') :
  c ∉ (pairText pair).toList
  := by
  have hname := Language.not_mem_of_isName hname hc
  have hlocal := Language.not_mem_of_isName hlocal hc
  rw [pairText]
  split
  · exact hname
  · have ha : c ≠ 'a' := ne_of_mem_of_not_mem hc (by decide)
    have hs : c ≠ 's' := ne_of_mem_of_not_mem hc (by decide)
    simp [hname, hlocal, hspace, ha, hs]

theorem readPair_pairText {pair : String × String} (hname : lang.isName lex pair.1.toList)
    (hlocal : lang.isName lex pair.2.toList) :
  readPair lang lex (pairText pair).toList = some pair
  := by
  apply readPair_eq_some_iff.mpr
  refine ⟨hname, hlocal, ?_⟩
  by_cases heq : pair.1 = pair.2
  · left
    exact ⟨heq, by rw [pairText, if_pos heq]⟩
  · right
    apply toList_pairText_of_ne heq

variable (hnames : ∀ pair ∈ pairs, lang.isName lex pair.1.toList ∧ lang.isName lex pair.2.toList)
include hnames

theorem readItems_pairsText (hne : pairs ≠ []) :
  readItems (readPair lang lex) (pairsText pairs).toList = some pairs
  := by
  rw [toList_pairsText]
  apply readItems_intercalate hne
  · intro pair hpair
    apply not_mem_pairText (hnames pair hpair).1 (hnames pair hpair).2 (by decide) (by decide)
  · intro pair hpair
    apply readPair_pairText (hnames pair hpair).1 (hnames pair hpair).2

theorem not_mem_pairsText {c : Char} (hc : c ∈ importMarks) (hspace : c ≠ ' ') (hcomma : c ≠ ',') :
  c ∉ (pairsText pairs).toList
  := by
  rw [toList_pairsText, ← join_eq_intercalate]
  intro hmem
  rcases mem_join hmem with hmem | ⟨_, htext, hmem⟩
  · simp [hspace, hcomma] at hmem
  · obtain ⟨pair, hpair, rfl⟩ := List.mem_map.mp htext
    apply not_mem_pairText (hnames pair hpair).1 (hnames pair hpair).2 hc hspace hmem

end

section

variable {lang : Language} {lex : Lexicon} {l : ImportLine}

theorem readItems_shown {pairs : List (String × String)} (hne : pairs ≠ [])
    (hnames : ∀ pair ∈ pairs, Language.dart.isName lex pair.1.toList
      ∧ Language.dart.isName lex pair.2.toList)
    (heq : ∀ pair ∈ pairs, pair.1 = pair.2) :
  readItems (readShown lex) (pairsText pairs).toList = some pairs
  := by
  rw [toList_pairsText]
  apply readItems_intercalate hne
  · intro pair hpair
    apply not_mem_pairText (hnames pair hpair).1 (hnames pair hpair).2 (by decide) (by decide)
  · rintro ⟨name, localName⟩ hpair
    obtain rfl : name = localName := heq _ hpair
    have htext : pairText (name, name) = name := if_pos rfl
    apply readShown_eq_some_iff.mpr
    simp [htext, (hnames _ hpair).1]

/-- In Dart a line with a path says after the path what is done with the file there. -/
theorem exists_use (h : l.IsLine .dart lex) {path : String} (hpath : l.path? = some path) :
  ∃ use, (l.text .dart).toList = "import '".toList ++ (path.toList ++ '\'' :: (use ++ ";".toList))
    ∧ '\'' ∉ use ∧ '\n' ∉ use
    ∧ ∀ other, readDartUse lex other use = some (l.withPath other)
  := by
  cases l with
  | names _ pairs =>
    obtain rfl := Option.some.inj hpath
    obtain ⟨hne, hnames, hdart⟩ := h
    have hshow : "' show ".toList = '\'' :: " show ".toList := by simp
    refine ⟨" show ".toList ++ (pairsText pairs).toList, ?_, ?_, ?_, ?_⟩
    · simp only [text_names_dart, String.toList_append, List.append_assoc, hshow, List.cons_append]
    · simpa using not_mem_pairsText hnames (by decide) (by decide) (by decide)
    · simpa using not_mem_pairsText hnames (by decide) (by decide) (by decide)
    · intro other
      apply readDartUse_eq_some_iff.mpr
      left
      exact ⟨_, pairs, rfl, readItems_shown hne hnames (hdart rfl), rfl⟩
  | qualifier _ name =>
    obtain rfl := Option.some.inj hpath
    obtain ⟨-, hname⟩ := h
    have has : "' as ".toList = '\'' :: " as ".toList := by simp
    refine ⟨" as ".toList ++ name.toList, ?_, ?_, ?_, ?_⟩
    · simp only [text_qualifier, String.toList_append, List.append_assoc, has, List.cons_append]
    · simpa using Language.not_mem_of_isName hname (by decide)
    · simpa using Language.not_mem_of_isName hname (by decide)
    · intro other
      apply readDartUse_eq_some_iff.mpr
      right
      exact ⟨_, rfl, hname, by simp [withPath]⟩
  | definition => cases hpath

theorem readDefinition_text {localName prefixName name : String}
    (h : (definition localName prefixName name).IsLine .dart lex) :
  ∃ cs, ((definition localName prefixName name).text .dart).toList = "typedef ".toList ++ cs
    ∧ readDefinition lex cs = some (.definition localName prefixName name)
  := by
  refine ⟨_, ?_, readDefinition_eq_some_iff.mpr
    ⟨localName.toList, prefixName.toList, name.toList, rfl, by simpa using h.2, by simp⟩⟩
  simp

/-- A line whose path stands for itself is read back. -/
theorem readLine_text (h : l.IsLine lang lex)
    (hpath : ∀ path, l.path? = some path → lang.isPathText lex path.toList) :
  lang.readLine lex (l.text lang).toList = some l
  := by
  have huse : lang = .dart → ∀ path, l.path? = some path →
      readDartLine lex (l.text .dart).toList = some (l.withPath path) := by
    rintro rfl path heq
    obtain ⟨use, htext, -, -, hread⟩ := exists_use h heq
    have hstring := Quoting.readString_append (q := Language.dart.literalRules) (by decide)
      (hpath path heq) (use ++ ";".toList)
    apply readDartLine_eq_some_iff.mpr
    right
    exact ⟨_, _, use, htext, hstring, by simpa using hread path⟩
  cases l with
  | names path pairs =>
    obtain ⟨hne, hnames, -⟩ := h
    have hitems := readItems_pairsText hnames hne
    have hpath := hpath path rfl
    cases lang with
    | typescript =>
      have hbrace := not_mem_pairsText hnames (c := '\x7d') (by decide) (by decide) (by decide)
      have hstring := Quoting.readString_append (q := Language.typescript.literalRules)
        (by decide) hpath ";".toList
      apply readTypescriptLine_eq_some_iff.mpr
      exact ⟨_, _, _, pairs, by simp [Language.literalRules], by simpa using hbrace, hstring,
        hitems, by simp⟩
    | python =>
      apply readPythonLine_eq_some_iff.mpr
      exact ⟨_, _, pairs, by simp, hpath, hitems, by simp⟩
    | dart => exact huse rfl path rfl
  | qualifier path name =>
    obtain ⟨rfl, -⟩ := h
    exact huse rfl path rfl
  | definition localName prefixName name =>
    obtain ⟨rfl, -⟩ := id h
    apply readDartLine_eq_some_iff.mpr
    left
    apply readDefinition_text h

/-- A line whose path has no line end is one line. -/
theorem lineFeed_not_mem_text (h : l.IsLine lang lex)
    (hpath : ∀ path, l.path? = some path → '\n' ∉ path.toList) :
  '\n' ∉ (l.text lang).toList
  := by
  cases l with
  | names path pairs =>
    obtain ⟨-, hnames, -⟩ := h
    have hpairs := not_mem_pairsText hnames (c := '\n') (by decide) (by decide) (by decide)
    have hpath := hpath path rfl
    cases lang <;> simp [hpairs, hpath]
  | qualifier path name =>
    have hname := Language.not_mem_of_isName h.2 (c := '\n') (by decide)
    simp [hpath path rfl, hname]
  | definition localName prefixName name =>
    have hline : ∀ text ∈ [localName, prefixName, name], '\n' ∉ text.toList :=
      fun text htext => Language.not_mem_of_isName (h.2 text htext) (by decide)
    simp only [List.forall_mem_cons] at hline
    simp [hline.1, hline.2.1, hline.2.2.1]

end

/-! ### Lines that are not read back -/

section

variable {lang : Language} {lex : Lexicon} {l : ImportLine} {cs : List Char}

theorem split_append_of_isName (h : lang.isName lex cs) {ending : List Char}
    (hending : ending ∈ [[], [',']]) :
  split (· = ' ') (cs ++ ending) = [cs ++ ending] ∧ cs ++ ending ≠ "import".toList
  := by
  have hspace : ' ' ∉ cs := Language.not_mem_of_isName h (by decide)
  rcases List.mem_pair.mp hending with rfl | rfl
  · rw [List.append_nil]
    exact ⟨split_eq_singleton hspace, Language.ne_import_of_isName h⟩
  · refine ⟨split_eq_singleton (by simpa using hspace), ?_⟩
    intro heq
    have hcomma : ',' ∈ "import".toList := by simp [← heq]
    revert hcomma
    decide

/-- The word `import` does not stand in a pair, also if a comma follows. -/
theorem import_not_mem_of_readPair {pair : String × String} (h : readPair lang lex cs = some pair)
    {ending : List Char} (hending : ending ∈ [[], [',']]) :
  "import".toList ∉ split (· = ' ') (cs ++ ending)
  := by
  obtain ⟨hname, hlocal, hcs⟩ := readPair_eq_some_iff.mp h
  rcases hcs with ⟨-, rfl⟩ | rfl
  · obtain ⟨hsplit, hne⟩ := split_append_of_isName hname hending
    rw [hsplit, List.mem_singleton]
    exact hne.symm
  · obtain ⟨hsplit, hne⟩ := split_append_of_isName hlocal hending
    have hspace : ' ' ∉ pair.1.toList := Language.not_mem_of_isName hname (by decide)
    have hword : split (· = ' ') "as".toList = ["as".toList] := by decide
    rw [List.append_assoc, List.cons_append, List.append_assoc, List.cons_append,
      split_append_cons rfl, split_append_cons rfl, split_eq_singleton hspace, hword, hsplit]
    simp only [List.mem_append, List.mem_singleton, not_or]
    exact ⟨(Language.ne_import_of_isName hname).symm, by decide, hne.symm⟩

/-- The word `import` does not stand among items. -/
theorem import_not_mem_of_readItems {pairs : List (String × String)}
    (h : readItems (readPair lang lex) cs = some pairs) :
  "import".toList ∉ split (· = ' ') cs
  := by
  obtain ⟨texts, hne, rfl, htexts⟩ := exists_eq_intercalate_of_readItems h
  clear h
  induction texts with
  | nil => cases hne rfl
  | cons text texts ih =>
    obtain ⟨⟨pair, hread⟩, htexts⟩ := List.forall_mem_cons.mp htexts
    cases texts with
    | nil => simpa using import_not_mem_of_readPair hread (List.mem_cons_self (l := [[',']]))
    | cons next texts =>
      have hcons : [',', ' '].intercalate (text :: next :: texts)
          = (text ++ [',']) ++ ' ' :: [',', ' '].intercalate (next :: texts) := by
        rw [List.intercalate_cons_cons]
        simp
      rw [hcons, split_append_cons rfl, List.mem_append, not_or]
      exact ⟨import_not_mem_of_readPair hread (by simp), ih (List.cons_ne_nil _ _) htexts⟩

/-- No quote stands in what is done with a file in Dart. -/
theorem quote_not_mem_of_readDartUse {path : String} (h : readDartUse lex path cs = some l) :
  '\'' ∉ cs
  := by
  rcases readDartUse_eq_some_iff.mp h with ⟨items, pairs, rfl, hitems, -⟩ | ⟨name, rfl, hname, -⟩
  · obtain ⟨texts, -, rfl, htexts⟩ := exists_eq_intercalate_of_readItems hitems
    rw [← join_eq_intercalate]
    intro hmem
    have hmem := (List.mem_append.mp hmem).resolve_left (by decide)
    obtain ⟨text, htext, hmem⟩ := (mem_join hmem).resolve_left (by decide)
    obtain ⟨pair, hread⟩ := htexts text htext
    apply Language.not_mem_of_isName (readShown_eq_some_iff.mp hread).1 (by decide) hmem
  · simpa using Language.not_mem_of_isName hname (by decide)

theorem quote_not_mem_of_readDefinition (h : readDefinition lex cs = some l) :
  '\'' ∉ cs
  := by
  obtain ⟨localName, prefixName, name, rfl, hnames, -⟩ := readDefinition_eq_some_iff.mp h
  have hquote : ∀ text ∈ [localName, prefixName, name], '\'' ∉ text :=
    fun text htext => Language.not_mem_of_isName (hnames text htext) (by decide)
  simp only [List.forall_mem_cons] at hquote
  simp [hquote.1, hquote.2.1, hquote.2.2.1]

/-- In TypeScript, the beginning of the text of a line, up to some place after the path begins. -/
theorem readTypescriptLine_prefix {path : String} {pairs : List (String × String)}
    (h : (names path pairs).IsLine .typescript lex) {first : List Char}
    (hfirst : first <+: path.toList ++ "\";".toList)
    (hread : readTypescriptLine lex ("import \x7b ".toList ++ (pairsText pairs).toList
      ++ " \x7d from \"".toList ++ first) = some l) :
  ∃ other, l = .names other pairs
    ∧ (other = path → Language.typescript.isPathText lex path.toList)
  := by
  obtain ⟨hne, hnames, -⟩ := h
  obtain ⟨items, tail, value, pairs', htext, hbrace, hpath, hitems, rfl⟩ :=
    readTypescriptLine_eq_some_iff.mp hread
  have hpairs : '\x7d' ∉ (pairsText pairs).toList ++ " ".toList := by
    simpa using not_mem_pairsText hnames (c := '\x7d') (by decide) (by decide) (by decide)
  have htext : "import \x7b ".toList ++ (((pairsText pairs).toList ++ " ".toList)
        ++ '\x7d' :: (" from \"".toList ++ first))
      = "import \x7b ".toList
        ++ ((items ++ " ".toList) ++ '\x7d' :: (" from \"".toList ++ tail)) := by
    rw [← htext]
    simp
  obtain ⟨hbefore, hafter⟩ :=
    eq_of_append_cons_eq_of_first hpairs hbrace (List.append_cancel_left htext)
  obtain rfl := List.append_cancel_right hbefore
  obtain rfl := List.append_cancel_left hafter
  rw [readItems_pairsText hnames hne] at hitems
  obtain rfl := Option.some.inj hitems
  refine ⟨_, rfl, ?_⟩
  rintro rfl
  rw [String.toList_ofList] at hfirst ⊢
  apply Quoting.all_isPlain_of_readString hpath
  simpa using hfirst.length_le

/-- In Python, the end of the text of a line, from some place before the path ends. -/
theorem readPythonLine_suffix {path : String} {pairs : List (String × String)}
    (h : (names path pairs).IsLine .python lex) {last : List Char}
    (hread : readPythonLine lex (last ++ (" import " ++ pairsText pairs).toList) = some l) :
  ∃ other, l = .names other pairs ∧ (other = path → Language.python.isPathText lex path.toList)
  := by
  obtain ⟨hne, hnames, -⟩ := h
  have hown := readItems_pairsText hnames hne
  obtain ⟨value, items, pairs', htext, hpath, hitems, rfl⟩ := readPythonLine_eq_some_iff.mp hread
  have htext : last ++ ' ' :: ("import".toList ++ ' ' :: (pairsText pairs).toList)
      = ("    from ".toList ++ value) ++ ' ' :: ("import".toList ++ ' ' :: items) := by
    simpa using htext
  -- The last word `import` ends the path in both readings of the text.
  have hwords := congrArg (split (· = ' ')) htext
  have hword : split (· = ' ') "import".toList = ["import".toList] := by decide
  rw [split_append_cons rfl, split_append_cons rfl, split_append_cons rfl, split_append_cons rfl,
    hword] at hwords
  obtain ⟨hbefore, hafter⟩ := eq_of_append_cons_eq (import_not_mem_of_readItems hown)
    (import_not_mem_of_readItems hitems) hwords
  obtain rfl := eq_of_split_eq hafter
  rw [hown] at hitems
  obtain rfl := Option.some.inj hitems
  refine ⟨_, rfl, ?_⟩
  rintro rfl
  rw [String.toList_ofList]
  exact hpath

/-- In Dart, the end of the text of a line, from some place before the path ends. -/
theorem readDartLine_suffix {path : String} {last use : List Char}
    (hlast : last <:+ "import '".toList ++ path.toList)
    (hquote : '\'' ∉ use) (huse : ∀ other, readDartUse lex other use = some (l.withPath other))
    {r : ImportLine} (hread : readDartLine lex (last ++ '\'' :: (use ++ ";".toList)) = some r) :
  ∃ other, r = l.withPath other ∧ (other = path → Language.dart.isPathText lex path.toList)
  := by
  have hown : '\'' ∉ use ++ ";".toList := by simpa using hquote
  rcases readDartLine_eq_some_iff.mp hread with ⟨cs, htext, hdefinition⟩ |
    ⟨tail, value, rest, htext, hstring, hrest⟩
  · have hquote : '\'' ∉ "typedef ".toList ++ cs := by
      simpa using quote_not_mem_of_readDefinition hdefinition
    apply absurd _ hquote
    rw [← htext]
    simp
  · obtain ⟨body, rfl, -⟩ := Quoting.exists_of_readString hstring
    have hquote : '\'' ∉ rest ++ ";".toList := by simpa using quote_not_mem_of_readDartUse hrest
    rw [← List.append_assoc] at htext
    obtain ⟨rfl, heq⟩ := eq_of_append_cons_eq hown hquote htext
    obtain rfl := List.append_cancel_right heq
    refine ⟨_, Option.some.inj (hrest.symm.trans (huse _)), ?_⟩
    rintro rfl
    rw [String.toList_ofList] at hlast ⊢
    apply Quoting.all_isPlain_of_readString hstring
    simpa using hlast.length_le

/-- If all lines of the text of a line are read, one of them is read as the line with some path, and
that is the path of the line only if it stands for itself. -/
theorem exists_readLine_withPath (h : l.IsLine lang lex) {path : String}
    (hpath : l.path? = some path)
    (hread : ∀ segment ∈ split (· = '\n') (l.text lang).toList,
      (lang.readLine lex segment).isSome) :
  ∃ segment ∈ split (· = '\n') (l.text lang).toList, ∃ other,
    lang.readLine lex segment = some (l.withPath other)
      ∧ (other = path → lang.isPathText lex path.toList)
  := by
  have hnames : lang ≠ .dart → ∃ pairs, l = .names path pairs := by
    intro hne
    cases l with
    | names _ pairs => exact ⟨pairs, congrArg₂ _ (Option.some.inj hpath) rfl⟩
    | qualifier | definition => cases hne h.1
  cases lang with
  | dart =>
    obtain ⟨use, htext, hquote, hline, huse⟩ := exists_use h hpath
    have hline : '\n' ∉ '\'' :: (use ++ ";".toList) := by simpa using hline
    obtain ⟨last, hlast, hmem⟩ := exists_mem_split_append hline ("import '".toList ++ path.toList)
    rw [List.append_assoc, ← htext] at hmem
    obtain ⟨r, hr⟩ := Option.isSome_iff_exists.mp (hread _ hmem)
    obtain ⟨other, rfl, hother⟩ := readDartLine_suffix hlast hquote huse hr
    exact ⟨_, hmem, other, hr, hother⟩
  | typescript =>
    obtain ⟨pairs, rfl⟩ := hnames (by decide)
    have hpairs := not_mem_pairsText h.2.1 (c := '\n') (by decide) (by decide) (by decide)
    have hline : '\n' ∉ "import \x7b ".toList ++ (pairsText pairs).toList
        ++ " \x7d from \"".toList := by
      simpa using hpairs
    obtain ⟨first, hfirst, hmem⟩ := exists_append_mem_split hline (path.toList ++ "\";".toList)
    have htext : "import \x7b ".toList ++ (pairsText pairs).toList ++ " \x7d from \"".toList
          ++ (path.toList ++ "\";".toList)
        = (text .typescript (.names path pairs)).toList := by
      simp only [text_names_typescript, String.toList_append, List.append_assoc]
    rw [htext] at hmem
    obtain ⟨r, hr⟩ := Option.isSome_iff_exists.mp (hread _ hmem)
    obtain ⟨other, rfl, hother⟩ := readTypescriptLine_prefix h hfirst hr
    exact ⟨_, hmem, other, hr, hother⟩
  | python =>
    obtain ⟨pairs, rfl⟩ := hnames (by decide)
    have hpairs := not_mem_pairsText h.2.1 (c := '\n') (by decide) (by decide) (by decide)
    have hline : '\n' ∉ (" import " ++ pairsText pairs).toList := by simpa using hpairs
    obtain ⟨last, -, hmem⟩ := exists_mem_split_append hline ("    from ".toList ++ path.toList)
    have htext : "    from ".toList ++ path.toList ++ (" import " ++ pairsText pairs).toList
        = (text .python (.names path pairs)).toList := by
      simp only [text_names_python, String.toList_append, List.append_assoc]
    rw [htext] at hmem
    obtain ⟨r, hr⟩ := Option.isSome_iff_exists.mp (hread _ hmem)
    obtain ⟨other, rfl, hother⟩ := readPythonLine_suffix h hr
    exact ⟨_, hmem, other, hr, hother⟩

end

end ImportLine

end ClientGen
