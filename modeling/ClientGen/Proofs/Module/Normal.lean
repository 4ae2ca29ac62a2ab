import ClientGen.Module.Path
import ClientGen.Proofs.Text.Split
import ClientGen.Target.Naming

/-!
# Normal module paths

The normal form of a home is a list of names that are neither empty nor `.` nor `..`, with
slashes between them, so it reads back as these names. The file of a module has the same
names, the last one with the ending of the language. The module of a class is one name, if
the class is called by a text without slashes.
-/

namespace ClientGen

theorem Language.filePath_injective (lang : Language) :
  Function.Injective lang.filePath
  := by
  intro path other h
  rw [filePath, filePath, String.append_assoc, String.append_assoc] at h
  apply (String.append_left_inj _).mp h

namespace Module

/-- A proper name between slashes. -/
structure IsName (name : List Char) : Prop where
  proper : isProper name
  slashFree : '/' ∉ name

theorem isProper_of_two_lt_length {name : List Char} (h : 2 < name.length) :
  isProper name
  := by
  have hne : ∀ other : List Char, other.length ≤ 2 → name ≠ other := by
    rintro other hlength rfl
    omega
  simp [isProper, hne]

theorem IsName.ne_nil {name : List Char} (h : IsName name) :
  name ≠ []
  := by
  rintro rfl
  simpa [isProper] using h.proper

/-- Names that hold no slash are read back from the path that they make. -/
theorem segments_ofSegments {names : List (List Char)} (hne : names ≠ [])
    (hnames : ∀ name ∈ names, '/' ∉ name) :
  segments (ofSegments names) = names
  := by
  rw [segments, ofSegments, String.toList_ofList, Text.split_eq_splitOnP,
    Text.join_eq_intercalate]
  exact List.splitOn_intercalate '/' hnames hne

/-- The names of the normal form of a home. -/
def namesOf (home : String) : List (List Char) :=
  (Text.split isSlash ((dropHere (Text.trim home.toList)).dropWhile isSlash)).filter isProper

theorem normalize_eq (home : String) :
  normalize home = ofSegments (namesOf home)
  := rfl

theorem isName_of_mem_namesOf {home : String} {name : List Char} (h : name ∈ namesOf home) :
  IsName name
  := by
  obtain ⟨hmem, hproper⟩ := List.mem_filter.mp h
  refine ⟨hproper, fun hslash => ?_⟩
  simpa [isSlash] using Text.not_of_mem_split hmem hslash

theorem ofSegments_eq_empty_iff {names : List (List Char)} (h : ∀ name ∈ names, IsName name) :
  ofSegments names = "" ↔ names = []
  := by
  refine ⟨fun hempty => ?_, fun hnil => by rw [hnil]; rfl⟩
  cases names with
  | nil => rfl
  | cons name names =>
    have hread := segments_ofSegments (List.cons_ne_nil name names)
      fun name hname => (h name hname).slashFree
    rw [hempty] at hread
    -- the empty path has one segment, which is no proper name
    have hname : [] = name := (List.cons.inj hread).1
    exact absurd hname.symm (h name List.mem_cons_self).ne_nil

/-- The names of a file: those of its module, the last one with the ending. -/
def fileNames (lang : Language) (names : List (List Char)) (last : List Char) :
    List (List Char) :=
  names ++ [last ++ '.' :: lang.extension.toList]

theorem filePath_ofSegments (lang : Language) (names : List (List Char)) (last : List Char) :
  lang.filePath (ofSegments (names ++ [last])) = ofSegments (fileNames lang names last)
  := by
  rw [← String.toList_inj, Language.filePath, fileNames, ofSegments, ofSegments]
  simp only [String.toList_append, String.toList_ofList, Text.join_eq_intercalate]
  induction names with
  | nil => simp
  | cons name names ih =>
    cases names with
    | nil => simp [List.intercalate_cons_cons]
    | cons next names =>
      simpa [List.intercalate_cons_cons] using ih

theorem isName_of_mem_fileNames {lang : Language} {names : List (List Char)}
    {last : List Char} (h : ∀ name ∈ names ++ [last], IsName name)
    {name : List Char} (hname : name ∈ fileNames lang names last) :
  IsName name
  := by
  rcases List.mem_append.mp hname with hname | hname
  · exact h name (List.mem_append_left _ hname)
  · obtain rfl : name = last ++ '.' :: lang.extension.toList := by simpa using hname
    have hlast := h last (by simp)
    constructor
    · apply isProper_of_two_lt_length
      have hlength := List.length_pos_iff.mpr hlast.ne_nil
      have hextension : 0 < lang.extension.toList.length := by cases lang <;> decide
      rw [List.length_append, List.length_cons]
      omega
    · have hslash := hlast.slashFree
      cases lang <;> simpa [Language.extension] using hslash

/-- The file of a home that stands for a module has proper names only. -/
theorem exists_fileNames {home : String} (hhome : normalize home ≠ "") (lang : Language) :
  ∃ names, names ≠ [] ∧ (∀ name ∈ names, IsName name) ∧
    lang.filePath (normalize home) = ofSegments names
  := by
  have hnames : ∀ name ∈ namesOf home, IsName name := fun _ => isName_of_mem_namesOf
  have hne : namesOf home ≠ [] := by
    rwa [normalize_eq, Ne, ofSegments_eq_empty_iff hnames] at hhome
  rw [← List.dropLast_concat_getLast hne] at hnames
  refine ⟨fileNames lang (namesOf home).dropLast ((namesOf home).getLast hne),
    by simp [fileNames], fun name => isName_of_mem_fileNames hnames, ?_⟩
  rw [normalize_eq, ← filePath_ofSegments, List.dropLast_concat_getLast hne]

/-! ### The modules of classes -/

/-- A character beyond the first hundred and twenty-eight has a lower case beyond the slash,
which is the character 47. -/
theorem lowerPoint_ne_slash {n : Nat} (h : 0x80 ≤ n) :
  Text.lowerPoint n ≠ 47
  := by
  have hrows : ∀ row ∈ Text.lowerRows, (47 : Int) < row.1 + row.2.2.2 := by
    decide +kernel
  rw [Text.lowerPoint]
  split
  case h_1 first last step shift hfind =>
    have hrow := hrows _ (List.mem_of_find?_eq_some hfind)
    have hfirst := List.find?_some hfind
    simp only [Bool.and_eq_true, decide_eq_true_eq] at hfirst hrow
    omega
  case h_2 => omega

/-- Only the slash has the slash as its lower case. -/
theorem slash_not_mem_lowerChar {c : Char} (h : c ≠ '/') :
  '/' ∉ Text.lowerChar c
  := by
  have hascii : ∀ n : Fin 128, Char.ofNat n ≠ '/' → '/' ≠ (Char.ofNat n).toLower := by decide
  rw [Text.lowerChar]
  split
  case isTrue hlt =>
    have hlower := hascii ⟨c.toNat, hlt⟩
    rw [Char.ofNat_toNat] at hlower
    simpa using hlower h
  case isFalse hge =>
    split
    case isTrue => decide
    case isFalse =>
      intro hmem
      have hslash : 47 = (Char.ofNat (Text.lowerPoint c.toNat)).toNat :=
        congrArg Char.toNat (List.mem_singleton.mp hmem)
      by_cases hvalid : (Text.lowerPoint c.toNat).isValidChar
      · rw [Char.ofNat, dif_pos hvalid] at hslash
        apply lowerPoint_ne_slash (Nat.not_lt.mp hge) hslash.symm
      · rw [Char.ofNat, dif_neg hvalid] at hslash
        cases hslash

/-- The module of a class that is called by a text without slashes is a name. -/
theorem isName_proxyModule {className : String} (h : '/' ∉ className.toList)
    (lang : Language) :
  IsName (lang.proxyModule className).toList
  where
  proper := by
    apply isProper_of_two_lt_length
    cases lang <;> simp [Language.proxyModule, Language.proxySuffix]
  slashFree := by
    have hsuffix : '/' ∉ lang.proxySuffix.toList := by cases lang <;> decide
    rw [Language.proxyModule, Language.lowerFirst, String.toList_append]
    cases hname : className.toList with
    | nil => simpa using hsuffix
    | cons c cs =>
      rw [hname] at h
      obtain ⟨hc, hcs⟩ := List.ne_and_not_mem_of_not_mem_cons h
      simp [slash_not_mem_lowerChar (Ne.symm hc), hcs, hsuffix]

end Module

end ClientGen
