import ClientGen.Proofs.File.ImportText
import Mathlib.Data.List.Flatten

/-!
# Imports are read back

The text of the imports of a file of types is read back as what its statements take, provided that
no two names are used under names that differ at most in the case of the first letter, which is what
tells the qualifiers of Dart apart. It needs that all paths stand for themselves: otherwise the text
is not read as imports, or it takes something else. In Dart it needs as well that no qualifier is a
name that is used.
-/

namespace ClientGen

open Render ImportStatement

/-! ### Reading imports -/

namespace ImportLine

/-- The path of the file to which a line gives a qualifier. -/
def qualified? (prefixName : String) : ImportLine → Option String
  | .qualifier path name => if name = prefixName then some path else none
  | .names .. | .definition .. => none

/-- What a line among others takes: how it names the module, the name that is declared there, and
the name under which it is used. -/
def takenAmong (told : List ImportLine) : ImportLine → List (String × String × String)
  | .names path pairs => pairs.map fun pair => (path, pair)
  | .qualifier .. => []
  | .definition localName prefixName name =>
    (told.filterMap (qualified? prefixName)).map fun path => (path, name, localName)

/-- What lines take. -/
def takenByLines (told : List ImportLine) : List (String × String × String) :=
  told.flatMap (takenAmong told)

/-- Whether definitions come after all lines with a path. -/
def definesLast (told : List ImportLine) : Bool :=
  (told.dropWhile fun l => l.path?.isSome).all fun l => l.path?.isNone

/-- Whether no qualifier is a name under which something else is taken. -/
def qualifiersApart (told : List ImportLine) : Bool :=
  told.all fun
    | .qualifier _ name => (takenByLines told).all fun taken => taken.2.2 ≠ name
    | .names .. | .definition .. => true

theorem qualifiersApart_iff {told : List ImportLine} :
  qualifiersApart told
    ↔ ∀ path name, .qualifier path name ∈ told → ∀ taken ∈ takenByLines told, taken.2.2 ≠ name
  := by
  rw [qualifiersApart, List.all_eq_true]
  constructor
  · intro h path name hmem
    simpa using h _ hmem
  · rintro h (_ | ⟨path, name⟩ | _) hmem
    · rfl
    · simpa using h path name hmem
    · rfl

end ImportLine

/-- The text after what stands before lines of imports. -/
def Language.dropImportHeading (lang : Language) (cs : List Char) : Option (List Char) :=
  if cs = [] then some [] else (cs.dropPrefix? lang.importHeading.toList).filter (· ≠ [])

/-- What a text of imports takes. Each line begins after the end of a line. -/
def Language.readImports (lang : Language) (lex : Lexicon) (cs : List Char) :
    Option (List (String × String × String)) := do
  let cs ← lang.dropImportHeading cs
  let [] :: lines := Text.split (· = '\n') cs | none
  let told ← Text.readAll (lang.readLine lex) lines
  if ImportLine.definesLast told && ImportLine.qualifiersApart told then
    some (ImportLine.takenByLines told)
  else none

/-- The lines of the texts of lines, of which one may be several if its path has ends of lines. -/
def Language.segmentsOf (lang : Language) (lines : List ImportLine) : List (List Char) :=
  lines.flatMap fun l => Text.split (· = '\n') (l.text lang).toList

theorem Language.split_append_each (lang : Language) (lines : List ImportLine) (cs : List Char) :
  Text.split (· = '\n') (cs ++ (each lines (lineText lang)).toList)
    = Text.split (· = '\n') cs ++ lang.segmentsOf lines
  := by
  induction lines generalizing cs with
  | nil => simp [each_nil, segmentsOf]
  | cons l lines ih =>
    have hline : (lineText lang l).toList = '\n' :: (l.text lang).toList := by simp [lineText]
    rw [each_cons, String.toList_append, hline, List.cons_append, Text.split_append_cons rfl, ih,
      segmentsOf, segmentsOf, List.flatMap_cons]

theorem Language.dropImportHeading_importText (lang : Language)
    (groups : List (String × List (String × String))) :
  lang.dropImportHeading (lang.importText (groups.map fun g => ofPairs g.1 g.2)).toList
    = some (each (lang.linesOf groups) (lineText lang)).toList
  := by
  have hdrop : ∀ heading body : List Char, body ≠ [] →
      ((heading ++ body).dropPrefix? heading).filter (· ≠ []) = some body := by
    intro heading body hbody
    rw [List.dropPrefix?_append_of_beq _ (beq_self_eq_true _)]
    simp [hbody]
  rw [importText_ofPairs, dropImportHeading]
  generalize hbody : (each (lang.linesOf groups) (lineText lang)).toList = body
  rw [String.toList_append, hbody]
  cases lang with
  | typescript | dart =>
    have hheading : (only (!groups.isEmpty) "").toList = [] := by cases groups.isEmpty <;> rfl
    rw [importHeading, hheading, List.nil_append]
    split
    case isTrue hnil => rw [hnil]
    case isFalse hne => exact hdrop [] body hne
  | python =>
    cases groups with
    | nil =>
      obtain rfl := hbody
      rfl
    | cons g groups =>
      have hne : body ≠ [] := by
        rw [← hbody, linesOf, List.flatMap_cons, takingLines, List.append_assoc, List.cons_append,
          each_cons, lineText]
        simp
      have honly : only (!(g :: groups).isEmpty) python.importHeading = python.importHeading := rfl
      rw [honly, if_neg (List.append_ne_nil_of_right_ne_nil _ hne)]
      exact hdrop _ body hne

/-- The text of imports is read line by line. -/
theorem Language.readImports_importText (lang : Language) (lex : Lexicon)
    (groups : List (String × List (String × String))) :
  lang.readImports lex (lang.importText (groups.map fun g => ofPairs g.1 g.2)).toList
    = (Text.readAll (lang.readLine lex) (lang.segmentsOf (lang.linesOf groups))).bind fun told =>
        if ImportLine.definesLast told && ImportLine.qualifiersApart told then
          some (ImportLine.takenByLines told)
        else none
  := by
  have hsplit := lang.split_append_each (lang.linesOf groups) []
  rw [List.nil_append] at hsplit
  rw [readImports, dropImportHeading_importText]
  simp only [Option.bind_eq_bind, Option.bind_some, hsplit]
  rfl

/-! ### Lines with names -/

/-- The names of Dart keep to ASCII. -/
theorem continuesIdentifier_dart {wide : WideLetters} {c : Char} :
  Language.dart.continuesIdentifier wide c = (c.isAlpha || c = '_' || c = '$' || c.isDigit)
  := by simp [Language.continuesIdentifier, Language.startsIdentifier]

theorem toNat_lt_of_continuesIdentifier {wide : WideLetters} {c : Char}
    (h : Language.dart.continuesIdentifier wide c) :
  c.toNat < 0x80
  := by
  have hle : ∀ {d : Char}, c.val ≤ d.val → d.toNat < 0x80 → c.toNat < 0x80 := fun hcd hd =>
    (UInt32.le_iff_toNat_le.mp hcd).trans_lt hd
  rw [continuesIdentifier_dart] at h
  simp only [Bool.or_eq_true, decide_eq_true_eq] at h
  rcases h with ((halpha | rfl) | rfl) | hdigit
  · rcases Bool.or_eq_true_iff.mp halpha with hupper | hlower
    · obtain ⟨-, hZ⟩ := of_decide_eq_true hupper
      exact hle hZ (by decide)
    · obtain ⟨-, hz⟩ := Bool.and_eq_true_iff.mp hlower
      exact hle (of_decide_eq_true hz) (by decide)
  · decide
  · decide
  · obtain ⟨-, hnine⟩ := Bool.and_eq_true_iff.mp hdigit
    exact hle (of_decide_eq_true hnine) (by decide)

theorem lowerChar_of_continuesIdentifier {wide : WideLetters} {c : Char}
    (h : Language.dart.continuesIdentifier wide c) :
  (Text.lowerChar c).all (Language.dart.continuesIdentifier wide)
  := by
  have hascii : ∀ n : Fin 128, ((Char.ofNat n).isAlpha || Char.ofNat n = '_' || Char.ofNat n = '$'
        || (Char.ofNat n).isDigit) →
      ((Char.ofNat n).toLower.isAlpha || (Char.ofNat n).toLower = '_'
        || (Char.ofNat n).toLower = '$' || (Char.ofNat n).toLower.isDigit) := by decide
  have hlt := toNat_lt_of_continuesIdentifier h
  have hlower := hascii ⟨c.toNat, hlt⟩
  rw [continuesIdentifier_dart] at h
  simp only [Char.ofNat_toNat] at hlower
  rw [Text.lowerChar, if_pos hlt, List.all_cons, List.all_nil, Bool.and_true,
    continuesIdentifier_dart]
  exact hlower h

/-- In Dart the qualifier for a name is a name. -/
theorem isName_qualifierOf {lex : Lexicon} {localName : String}
    (h : Language.dart.isName lex localName.toList) :
  Language.dart.isName lex (qualifierOf localName).toList
  := by
  have hall := Language.continuesIdentifier_of_isName h
  have hrest : (Language.lowerFirst localName).toList.all
      (Language.dart.continuesIdentifier lex.wide) := by
    rw [Language.lowerFirst]
    split
    case h_1 => rfl
    case h_2 c cs hcs =>
      rw [hcs] at hall
      have hc := hall c List.mem_cons_self
      rw [String.toList_ofList, List.all_append, lowerChar_of_continuesIdentifier hc, Bool.true_and]
      exact List.all_eq_true.mpr fun d hd => hall d (List.mem_cons_of_mem c hd)
  have hreserved : '_' :: (Language.lowerFirst localName).toList ∉ lex.reserved := by
    intro hmem
    apply lex.head?_ne _ hmem rfl
  have htext : (qualifierOf localName).toList = '_' :: (Language.lowerFirst localName).toList := by
    simp [qualifierOf]
  have hstart : Language.dart.startsIdentifier lex.wide '_' := rfl
  rw [htext, Language.isName, Language.isIdentifier, hstart, hrest]
  simpa using hreserved

section

variable {lang : Language} {lex : Lexicon} {groups : List (String × List (String × String))}

theorem isLine_of_mem_linesOf (hne : ∀ g ∈ groups, g.2 ≠ [])
    (hnames : ∀ g ∈ groups, ∀ pair ∈ g.2,
      lang.isName lex pair.1.toList ∧ lang.isName lex pair.2.toList)
    {l : ImportLine} (hl : l ∈ lang.linesOf groups) :
  l.IsLine lang lex
  := by
  rcases List.mem_append.mp hl with hl | hl
  · obtain ⟨g, hg, hl⟩ := List.mem_flatMap.mp hl
    rcases cases_of_mem_takingLines hl with ⟨pairs, hsubset, hpairs, hdart, rfl⟩ |
      ⟨rfl, pair, hpair, rfl⟩
    · exact ⟨hpairs (hne g hg), fun pair hpair => hnames g hg pair (hsubset hpair), hdart⟩
    · exact ⟨rfl, isName_qualifierOf (hnames g hg pair (List.mem_filter.mp hpair).1).2⟩
  · obtain ⟨g, hg, hl⟩ := List.mem_flatMap.mp hl
    obtain ⟨rfl, pair, hpair, rfl⟩ := mem_definingLines_iff.mp hl
    obtain ⟨hname, hlocal⟩ := hnames g hg pair (List.mem_filter.mp hpair).1
    exact ⟨rfl, by simp [hname, hlocal, isName_qualifierOf hlocal]⟩

end

/-! ### What lines take -/

/-- Of items with different keys, the one with a given key is found. -/
theorem filterMap_eq_singleton_of_nodup {α β γ : Type} [DecidableEq β] {key : α → β}
    {items : List α} (h : (items.map key).Nodup) {a : α} (ha : a ∈ items) (value : α → γ) :
  (items.filterMap fun b => if key b = key a then some (value b) else none) = [value a]
  := by
  induction items with
  | nil => cases ha
  | cons b items ih =>
    obtain ⟨hb, hitems⟩ := List.nodup_cons.mp h
    rcases List.mem_cons.mp ha with rfl | ha
    · have hnone : (items.filterMap fun b => if key b = key a then some (value b) else none)
          = [] := by
        apply List.filterMap_eq_nil_iff.mpr
        intro b hmem
        rw [if_neg]
        intro heq
        apply hb
        rw [← heq]
        apply List.mem_map_of_mem hmem
      rw [List.filterMap_cons, if_pos rfl, hnone]
    · have hne : key b ≠ key a := by
        intro heq
        apply hb
        rw [heq]
        apply List.mem_map_of_mem ha
      rw [List.filterMap_cons, if_neg hne, ih hitems ha]

section

variable {lang : Language} {groups : List (String × List (String × String))}

/-- What groups take. -/
def takenFrom (groups : List (String × List (String × String))) : List (String × String × String) :=
  groups.flatMap fun g => g.2.map fun pair => (g.1, pair)

/-- The names under which groups use what they take. -/
def localsOf (groups : List (String × List (String × String))) : List String :=
  groups.flatMap fun g => g.2.map Prod.snd

theorem map_localName_takenFrom (groups : List (String × List (String × String))) :
  (takenFrom groups).map (fun taken => taken.2.2) = localsOf groups
  := by simp [takenFrom, localsOf, List.map_flatMap, Function.comp_def]

/-- The lines that give qualifiers to files in Dart, told by paths and names. -/
def qualifiedNames (groups : List (String × List (String × String))) : List (String × String) :=
  groups.flatMap fun g => (renamedOf g.2).map fun pair => (g.1, pair.2)

theorem filterMap_qualified?_linesOf (prefixName : String) :
  (Language.dart.linesOf groups).filterMap (ImportLine.qualified? prefixName)
    = (qualifiedNames groups).filterMap fun item =>
        if qualifierOf item.2 = prefixName then some item.1 else none
  := by
  have hdefining : (groups.flatMap fun g => definingLines .dart g.2).filterMap
      (ImportLine.qualified? prefixName) = [] := by
    apply List.filterMap_eq_nil_iff.mpr
    intro l hl
    obtain ⟨g, -, hl⟩ := List.mem_flatMap.mp hl
    obtain ⟨pair, -, rfl⟩ := List.mem_map.mp hl
    rfl
  rw [Language.linesOf, List.filterMap_append, hdefining, List.append_nil, qualifiedNames,
    List.filterMap_flatMap, List.filterMap_flatMap]
  apply List.flatMap_congr
  intro g _
  rw [takingLines, List.filterMap_append, List.filterMap_map, List.filterMap_map]
  split <;> rfl

/-- The qualifiers are different if the names differ beside the case of their first letters. -/
theorem nodup_qualifierOf_qualifiedNames
    (hnodup : ((localsOf groups).map Language.lowerFirst).Nodup) :
  ((qualifiedNames groups).map fun item => qualifierOf item.2).Nodup
  := by
  have hsublist : ((qualifiedNames groups).map Prod.snd).Sublist (localsOf groups) := by
    rw [qualifiedNames, List.map_flatMap]
    apply List.Sublist.flatMap_right
    intro g _
    rw [List.map_map]
    apply List.Sublist.map _ List.filter_sublist
  have hlower := (hsublist.map Language.lowerFirst).nodup hnodup
  have hqualifier := hlower.map (f := fun text => "_" ++ text)
    fun _ _ => (String.append_right_inj _).mp
  rw [List.map_map, List.map_map] at hqualifier
  exact hqualifier

/-- In Dart a name that is defined by a qualifier is taken from one file. -/
theorem filterMap_qualified?_of_mem (hnodup : ((localsOf groups).map Language.lowerFirst).Nodup)
    {g : String × List (String × String)} (hg : g ∈ groups) {pair : String × String}
    (hpair : pair ∈ renamedOf g.2) :
  (Language.dart.linesOf groups).filterMap (ImportLine.qualified? (qualifierOf pair.2)) = [g.1]
  := by
  have hmem : (g.1, pair.2) ∈ qualifiedNames groups :=
    List.mem_flatMap.mpr ⟨g, hg, List.mem_map.mpr ⟨pair, hpair, rfl⟩⟩
  rw [filterMap_qualified?_linesOf]
  apply filterMap_eq_singleton_of_nodup (nodup_qualifierOf_qualifiedNames hnodup) hmem Prod.fst

/-- The lines of a statement take what the statement does from the file at its path, if there are no
other lines that give its qualifiers to files. -/
theorem flatMap_takenAmong_lines {told : List ImportLine} {path : String}
    {taken : List (String × String)}
    (h : lang = .dart → ∀ pair ∈ renamedOf taken,
      told.filterMap (ImportLine.qualified? (qualifierOf pair.2)) = [path]) :
  (takingLines lang path taken ++ definingLines lang taken).flatMap (ImportLine.takenAmong told)
    = (keptOf taken ++ renamedOf taken).map fun pair => (path, pair)
  := by
  cases lang with
  | typescript | python => simp [takingLines, definingLines, ImportLine.takenAmong]
  | dart =>
    have hqualifiers : ((renamedOf taken).map fun pair =>
          ImportLine.qualifier path (qualifierOf pair.2)).flatMap (ImportLine.takenAmong told)
        = [] := by
      simp [List.flatMap_map, ImportLine.takenAmong]
    have hdefinitions : (definingLines .dart taken).flatMap (ImportLine.takenAmong told)
        = (renamedOf taken).map fun pair => (path, pair) := by
      rw [definingLines, List.flatMap_map, List.map_eq_flatMap]
      apply List.flatMap_congr
      intro pair hpair
      rw [ImportLine.takenAmong, h rfl pair hpair]
      rfl
    rw [takingLines, List.flatMap_append, List.flatMap_append, hqualifiers, hdefinitions]
    cases hkept : keptOf taken <;> simp [ImportLine.takenAmong]

/-- The lines of statements take what the statements do. -/
theorem perm_takenByLines_linesOf (hnodup : ((localsOf groups).map Language.lowerFirst).Nodup) :
  (ImportLine.takenByLines (lang.linesOf groups)).Perm (takenFrom groups)
  := by
  have hlines : (lang.linesOf groups).Perm
      (groups.flatMap fun g => takingLines lang g.1 g.2 ++ definingLines lang g.2) :=
    List.flatMap_append_perm groups _ _
  apply (hlines.flatMap_right _).trans
  rw [List.flatMap_assoc]
  apply List.Perm.flatMap_left
  intro g hg
  rw [flatMap_takenAmong_lines]
  · apply (perm_keptOf_renamedOf g.2).map
  · rintro rfl pair hpair
    apply filterMap_qualified?_of_mem hnodup hg hpair

end

/-! ### What is read -/

section

variable {lang : Language} {lex : Lexicon} {groups : List (String × List (String × String))}

theorem exists_of_mem_linesOf {l : ImportLine} (hl : l ∈ lang.linesOf groups) {path : String}
    (hpath : l.path? = some path) :
  ∃ g ∈ groups, g.1 = path
  := by
  rcases List.mem_append.mp hl with hl | hl
  · obtain ⟨g, hg, hl⟩ := List.mem_flatMap.mp hl
    use g, hg
    apply Option.some.inj ((path?_of_mem_takingLines hl).symm.trans hpath)
  · obtain ⟨g, -, hl⟩ := List.mem_flatMap.mp hl
    cases (path?_of_mem_definingLines hl).symm.trans hpath

theorem definesLast_linesOf (lang : Language) (groups : List (String × List (String × String))) :
  ImportLine.definesLast (lang.linesOf groups)
  := by
  have htaking : ∀ l ∈ groups.flatMap fun g => takingLines lang g.1 g.2, l.path?.isSome := by
    intro l hl
    obtain ⟨g, -, hl⟩ := List.mem_flatMap.mp hl
    rw [path?_of_mem_takingLines hl]
    rfl
  rw [ImportLine.definesLast, Language.linesOf, List.dropWhile_append_of_pos htaking,
    List.all_eq_true]
  intro l hl
  obtain ⟨g, -, hl⟩ := List.mem_flatMap.mp ((List.dropWhile_suffix _).subset hl)
  rw [path?_of_mem_definingLines hl]
  rfl

/-- Lines whose paths stand for themselves are read back. -/
theorem readAll_segmentsOf {lines : List ImportLine} (hlines : ∀ l ∈ lines, l.IsLine lang lex)
    (hpath : ∀ l ∈ lines, ∀ path, l.path? = some path → lang.isPathText lex path.toList) :
  Text.readAll (lang.readLine lex) (lang.segmentsOf lines) = some lines
  := by
  have hsegments : lang.segmentsOf lines = lines.map fun l => (l.text lang).toList := by
    rw [Language.segmentsOf, List.map_eq_flatMap]
    apply List.flatMap_congr
    intro l hl
    apply Text.split_eq_singleton
    apply ImportLine.lineFeed_not_mem_text (hlines l hl)
    intro path heq
    apply Language.lineFeed_not_mem_of_isPathText (hpath l hl path heq)
  rw [hsegments]
  apply Text.readAll_map
  intro l hl
  apply ImportLine.readLine_text (hlines l hl) (hpath l hl)

/-- If lines are read, each line with a path is read as one with some path, and that is its own only
if that stands for itself. -/
theorem exists_withPath_mem_of_readAll {lines told : List ImportLine}
    (hlines : ∀ l ∈ lines, l.IsLine lang lex)
    (hread : Text.readAll (lang.readLine lex) (lang.segmentsOf lines) = some told)
    {l : ImportLine} (hl : l ∈ lines) {path : String} (hpath : l.path? = some path) :
  ∃ other, l.withPath other ∈ told ∧ (other = path → lang.isPathText lex path.toList)
  := by
  obtain ⟨hsome, rfl⟩ := Text.readAll_eq_some_iff.mp hread
  obtain ⟨segment, hsegment, other, hr, hother⟩ :=
    ImportLine.exists_readLine_withPath (hlines l hl) hpath fun segment hsegment =>
      hsome segment (List.mem_flatMap.mpr ⟨l, hl, hsegment⟩)
  refine ⟨other, List.mem_filterMap.mpr ⟨segment, ?_, hr⟩, hother⟩
  apply List.mem_flatMap.mpr ⟨l, hl, hsegment⟩

/-- If lines are read, the definitions among them are read back. -/
theorem mem_of_readAll {lines told : List ImportLine} (hlines : ∀ l ∈ lines, l.IsLine lang lex)
    (hread : Text.readAll (lang.readLine lex) (lang.segmentsOf lines) = some told)
    {l : ImportLine} (hl : l ∈ lines) (hnone : l.path? = none) :
  l ∈ told
  := by
  obtain ⟨-, rfl⟩ := Text.readAll_eq_some_iff.mp hread
  have hline := ImportLine.lineFeed_not_mem_text (hlines l hl) (by simp [hnone])
  apply List.mem_filterMap.mpr
  refine ⟨(l.text lang).toList, ?_, ImportLine.readLine_text (hlines l hl) (by simp [hnone])⟩
  apply List.mem_flatMap.mpr ⟨l, hl, _⟩
  rw [Text.split_eq_singleton hline]
  apply List.mem_cons_self

/-- A statement takes some name from the file at its path, in a line with names or by a
qualifier. -/
theorem exists_mem_takingLines {taken : List (String × String)} (hne : taken ≠ []) (lang : Language)
    (path : String) :
  (∃ pairs, .names path pairs ∈ takingLines lang path taken ∧ ∃ pair ∈ taken, pair ∈ pairs)
    ∨ ∃ pair ∈ taken, .qualifier path (qualifierOf pair.2) ∈ takingLines lang path taken
        ∧ .definition pair.2 (qualifierOf pair.2) pair.1 ∈ definingLines lang taken
  := by
  obtain ⟨pair, hpair⟩ := List.exists_mem_of_ne_nil taken hne
  have hmem := (perm_keptOf_renamedOf taken).mem_iff.mpr hpair
  cases lang with
  | typescript | python =>
    left
    exact ⟨_, List.mem_cons_self, pair, hpair, hmem⟩
  | dart =>
    rcases List.mem_append.mp hmem with hmem | hmem
    · left
      refine ⟨keptOf taken, List.mem_append_left _ ?_, pair, hpair, hmem⟩
      simp [List.ne_nil_of_mem hmem]
    · right
      refine ⟨pair, hpair, List.mem_append_right _ ?_, ?_⟩
      all_goals exact List.mem_map.mpr ⟨pair, hmem, rfl⟩

/-- If the lines of statements are read, some name of each statement is taken, and from the path of
the statement only if that stands for itself. -/
theorem exists_taken_of_readAll (hlines : ∀ l ∈ lang.linesOf groups, l.IsLine lang lex)
    {told : List ImportLine}
    (hread : Text.readAll (lang.readLine lex) (lang.segmentsOf (lang.linesOf groups)) = some told)
    {g : String × List (String × String)} (hg : g ∈ groups) (hne : g.2 ≠ []) :
  ∃ other, (∃ pair ∈ g.2, (other, pair) ∈ ImportLine.takenByLines told)
    ∧ (other = g.1 → lang.isPathText lex g.1.toList)
  := by
  have htaking : ∀ l ∈ takingLines lang g.1 g.2, l ∈ lang.linesOf groups := fun l hl =>
    List.mem_append_left _ (List.mem_flatMap.mpr ⟨g, hg, hl⟩)
  have hdefining : ∀ l ∈ definingLines lang g.2, l ∈ lang.linesOf groups := fun l hl =>
    List.mem_append_right _ (List.mem_flatMap.mpr ⟨g, hg, hl⟩)
  rcases exists_mem_takingLines hne lang g.1 with ⟨pairs, hl, pair, hpair, hmem⟩ |
    ⟨pair, hpair, hqualifier, hdefinition⟩
  · obtain ⟨other, htold, hother⟩ :=
      exists_withPath_mem_of_readAll hlines hread (htaking _ hl) rfl
    refine ⟨other, ⟨pair, hpair, ?_⟩, hother⟩
    apply List.mem_flatMap.mpr
    exact ⟨_, htold, List.mem_map_of_mem hmem⟩
  · obtain ⟨other, htold, hother⟩ :=
      exists_withPath_mem_of_readAll hlines hread (htaking _ hqualifier) rfl
    refine ⟨other, ⟨pair, hpair, ?_⟩, hother⟩
    apply List.mem_flatMap.mpr
    refine ⟨_, mem_of_readAll hlines hread (hdefining _ hdefinition) rfl, ?_⟩
    apply List.mem_map.mpr
    exact ⟨other, List.mem_filterMap.mpr ⟨_, htold, if_pos rfl⟩, rfl⟩

end

/-- No qualifier for a name that is used under another one is itself a name under which something is
used. Only Dart has qualifiers. -/
def Language.QualifiersApart (lang : Language) (groups : List (String × List (String × String))) :
    Prop :=
  lang = .dart → ∀ g ∈ groups, ∀ pair ∈ g.2, pair.1 ≠ pair.2 → qualifierOf pair.2 ∉ localsOf groups

section

variable {lang : Language} {lex : Lexicon} {groups : List (String × List (String × String))}

theorem qualifiersApart_linesOf (hnodup : ((localsOf groups).map Language.lowerFirst).Nodup)
    (h : lang.QualifiersApart groups) :
  ImportLine.qualifiersApart (lang.linesOf groups)
  := by
  apply ImportLine.qualifiersApart_iff.mpr
  rintro path name hmem taken htaken rfl
  have hlocal : taken.2.2 ∈ localsOf groups := by
    rw [← map_localName_takenFrom]
    apply List.mem_map_of_mem ((perm_takenByLines_linesOf hnodup).mem_iff.mp htaken)
  rcases List.mem_append.mp hmem with hmem | hmem
  · obtain ⟨g, hg, hmem⟩ := List.mem_flatMap.mp hmem
    rcases cases_of_mem_takingLines hmem with ⟨_, _, _, _, heq⟩ | ⟨hdart, pair, hpair, heq⟩
    · cases heq
    · obtain ⟨-, hname⟩ := ImportLine.qualifier.inj heq
      obtain ⟨hpair, hne⟩ := List.mem_filter.mp hpair
      apply h hdart g hg pair hpair (by simpa using hne)
      rw [← hname]
      exact hlocal
  · obtain ⟨g, -, hmem⟩ := List.mem_flatMap.mp hmem
    cases path?_of_mem_definingLines hmem

theorem qualifiersApart_of_readAll (hlines : ∀ l ∈ lang.linesOf groups, l.IsLine lang lex)
    {told : List ImportLine}
    (hread : Text.readAll (lang.readLine lex) (lang.segmentsOf (lang.linesOf groups)) = some told)
    (hapart : ImportLine.qualifiersApart told)
    (hperm : (ImportLine.takenByLines told).Perm (takenFrom groups)) :
  lang.QualifiersApart groups
  := by
  rintro rfl g hg pair hpair hne hmem
  have hrenamed : pair ∈ renamedOf g.2 := List.mem_filter.mpr ⟨hpair, by simpa using hne⟩
  have hline : .qualifier g.1 (qualifierOf pair.2) ∈ Language.dart.linesOf groups :=
    List.mem_append_left _ (List.mem_flatMap.mpr
      ⟨g, hg, List.mem_append_right _ (List.mem_map.mpr ⟨pair, hrenamed, rfl⟩)⟩)
  obtain ⟨other, htold, -⟩ := exists_withPath_mem_of_readAll hlines hread hline rfl
  rw [← map_localName_takenFrom] at hmem
  obtain ⟨taken, htaken, heq⟩ := List.mem_map.mp hmem
  apply ImportLine.qualifiersApart_iff.mp hapart _ _ htold taken (hperm.mem_iff.mpr htaken) heq

end

/-- The imports of a file of types take exactly what its statements do, each name from its own path,
if and only if all paths stand for themselves, and in Dart no qualifier is a name that is used. -/
theorem TypeFile.readImports_iff (lang : Language) (lex : Lexicon) (f : TypeFile)
    (groups : List (String × List (String × String)))
    (himports : f.imports = groups.map fun g => ofPairs g.1 g.2)
    (hne : ∀ g ∈ groups, g.2 ≠ [])
    (hnames : ∀ g ∈ groups, ∀ pair ∈ g.2,
      lang.isName lex pair.1.toList ∧ lang.isName lex pair.2.toList)
    (hnodup : ((localsOf groups).map Language.lowerFirst).Nodup) :
  f.text lang = f.opening lang ++ lang.importText f.imports ++ f.definitions lang
    ∧ ((∃ taken, lang.readImports lex (lang.importText f.imports).toList = some taken
          ∧ taken.Perm (takenFrom groups))
        ↔ (∀ g ∈ groups, lang.isPathText lex g.1.toList) ∧ lang.QualifiersApart groups)
  := by
  refine ⟨f.text_eq lang, ?_⟩
  have hlines := fun l => isLine_of_mem_linesOf (l := l) hne hnames
  rw [himports, Language.readImports_importText]
  constructor
  · rintro ⟨taken, hread, hperm⟩
    obtain ⟨told, htold, hif⟩ := Option.bind_eq_some_iff.mp hread
    obtain ⟨hchecks, htaken⟩ := Option.ite_none_right_eq_some.mp hif
    obtain rfl := Option.some.inj htaken
    obtain ⟨-, hapart⟩ := Bool.and_eq_true_iff.mp hchecks
    refine ⟨?_, qualifiersApart_of_readAll hlines htold hapart hperm⟩
    intro g hg
    obtain ⟨other, ⟨pair, hpair, hmem⟩, hother⟩ :=
      exists_taken_of_readAll hlines htold hg (hne g hg)
    apply hother
    have hlocals : ((takenFrom groups).map fun taken => taken.2.2).Nodup := by
      rw [map_localName_takenFrom]
      apply hnodup.of_map
    have hown : (g.1, pair) ∈ takenFrom groups :=
      List.mem_flatMap.mpr ⟨g, hg, List.mem_map_of_mem hpair⟩
    have heq := List.inj_on_of_nodup_map hlocals (hperm.mem_iff.mp hmem) hown rfl
    apply congrArg Prod.fst heq
  · rintro ⟨hpath, hapart⟩
    have hread : Text.readAll (lang.readLine lex) (lang.segmentsOf (lang.linesOf groups))
        = some (lang.linesOf groups) := by
      apply readAll_segmentsOf hlines
      intro l hl path heq
      obtain ⟨g, hg, rfl⟩ := exists_of_mem_linesOf hl heq
      apply hpath g hg
    rw [hread, Option.bind_some, definesLast_linesOf, qualifiersApart_linesOf hnodup hapart]
    exact ⟨_, rfl, perm_takenByLines_linesOf hnodup⟩

/-- A type that Dart takes under another name and one that it takes as it is. -/
theorem TypeFile.readImports_users :
  ∃ taken, Language.dart.readImports .ascii (Language.dart.importText
      [ofPairs "user.dart" [("User", "UserModel"), ("Role", "Role")]]).toList = some taken
    ∧ taken.Perm [("user.dart", "User", "UserModel"), ("user.dart", "Role", "Role")]
  := by
  have hiff := TypeFile.readImports_iff .dart .ascii
    ⟨"models/team", {}, [ofPairs "user.dart" [("User", "UserModel"), ("Role", "Role")]], []⟩
    [("user.dart", [("User", "UserModel"), ("Role", "Role")])]
    rfl (by decide) (by decide) (by decide)
  apply hiff.2.mpr
  constructor
  · decide
  · intro _
    decide

/-- The path of a file with a quote in its name ends where the quote stands. -/
theorem TypeFile.not_readImports_quote :
  ¬ ∀ (lang : Language) (lex : Lexicon) (f : TypeFile)
      (groups : List (String × List (String × String))),
      f.imports = groups.map (fun g => ofPairs g.1 g.2) →
      (∀ g ∈ groups, g.2 ≠ []) →
      (∀ g ∈ groups, ∀ pair ∈ g.2,
        lang.isName lex pair.1.toList ∧ lang.isName lex pair.2.toList) →
      ((localsOf groups).map Language.lowerFirst).Nodup →
      ∃ taken, lang.readImports lex (lang.importText f.imports).toList = some taken
        ∧ taken.Perm (takenFrom groups)
  := by
  intro h
  obtain ⟨taken, hread, -⟩ := h .typescript .ascii
    ⟨"models/team", {}, [ofPairs "./\"user\"" [("User", "User")]], []⟩
    [("./\"user\"", [("User", "User")])] rfl (by decide) (by decide) (by decide)
  have hnone : Language.typescript.readImports .ascii
      (Language.typescript.importText [ofPairs "./\"user\"" [("User", "User")]]).toList
      = none := by decide +kernel
  cases hread.symm.trans hnone

end ClientGen
