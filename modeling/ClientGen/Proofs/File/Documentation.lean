import ClientGen.Proofs.File.Forwarding
import ClientGen.Proofs.Text.Trim

/-!
# Documentation in comments

The documentation of a class or a method is shown in comments: in a single one in TypeScript, in a
string in Python, and in a comment for each line in Dart. A comment ends where its terminator first
stands, and the lines of a documentation are shown as they are. So a comment ends where the template
ends it exactly if no terminator stands in the documentation. In Dart the terminator is the end of
a line. A documentation is split into lines at line feeds only, so there it is a carriage return
with text before it and after it on its line.
-/

namespace ClientGen

open Render Text

/-! ### Comments -/

/-- What a documentation is of. -/
inductive Documented where
  | ofClass
  | ofMethod
deriving DecidableEq

/-- A comment: how the template opens it, what stands in it, and how the template closes it. -/
structure Comment where
  opening : String
  body : String
  closing : String

/-- The text of a comment. -/
def Comment.text (c : Comment) : String :=
  c.opening ++ c.body ++ c.closing

/-- Whether a character ends a line. -/
def isLineEnd (c : Char) : Bool :=
  c = '\n' || c = '\r'

namespace Language

/-- The indentation of a documentation. -/
def docIndent : Language → Documented → String
  | .typescript, .ofClass | .dart, .ofClass => ""
  | .typescript, .ofMethod | .dart, .ofMethod => "  "
  | .python, .ofClass => "    "
  | .python, .ofMethod => "        "

/-- The space before each line of a comment of several lines. -/
def docMargin (lang : Language) (place : Documented) : String :=
  match lang with
  | .typescript => lang.docIndent place ++ " "
  | .python | .dart => lang.docIndent place

/-- The mark between that space and the line. -/
def docMark : Language → String
  | .typescript => "* "
  | .python | .dart => ""

/-- What stands in a comment of several lines. -/
def docBody (lang : Language) (place : Documented) (lines : List String) : String :=
  (each lines fun line => "\n" ++ lang.docMargin place ++ lang.docMark ++ line)
    ++ "\n" ++ lang.docMargin place

/-- The comments that show the lines of a documentation. -/
def docComments (lang : Language) (place : Documented) (lines : List String) : List Comment :=
  match lang with
  | .typescript => if lines.isEmpty then [] else [⟨"/**", lang.docBody place lines, "*/"⟩]
  | .python => if lines.isEmpty then [] else [⟨"\"\"\"", lang.docBody place lines, "\"\"\""⟩]
  | .dart => lines.map fun line => ⟨"///", " " ++ line, ""⟩

/-- The text of a documentation: each comment on a line of its own. -/
def docText (lang : Language) (place : Documented) (lines : List String) : String :=
  each (lang.docComments place lines) fun c => "\n" ++ lang.docIndent place ++ c.text

/-- What stands in a comment and what follows the comment, given the text after the opening. In
Python a backslash keeps the character after it from being part of the terminator. -/
def readComment (lang : Language) (text : List Char) : Option (List Char × List Char) :=
  match lang with
  | .typescript => text.dropInfix? "*/".toList
  | .python => cutBare "\"\"\"".toList text
  | .dart => some (text.span fun c => !isLineEnd c)

/-- Whether a terminator of a comment stands in a text. -/
def Terminates (lang : Language) (text : List Char) : Prop :=
  match lang with
  | .typescript => "*/".toList <:+: text
  | .python => Bare "\"\"\"".toList text
  | .dart => ∃ c ∈ text, isLineEnd c

/-- No terminator stands in the comments that show a documentation, but for those at their
ends. -/
def KeepsDoc (lang : Language) (place : Documented) (doc : Option String) : Prop :=
  ∀ c ∈ lang.docComments place (docLines doc), ¬ lang.Terminates c.body.toList

/-- The comments that show a documentation are read up to where the template ends them. -/
def ReadsDoc (lang : Language) (place : Documented) (doc : Option String) : Prop :=
  ∀ c ∈ lang.docComments place (docLines doc), ∀ rest,
    lang.readComment (c.body.toList ++ c.closing.toList ++ '\n' :: rest)
      = some (c.body.toList, '\n' :: rest)

/-- A documentation with a terminator in it. A line end of Dart stands in a line if it is a carriage
return with text before it and after it. -/
def EndsDoc (lang : Language) (doc : String) : Prop :=
  match lang with
  | .typescript | .python => lang.Terminates doc.toList
  | .dart => ∃ line ∈ split (· = '\n') doc.toList, ∃ before after, line = before ++ '\r' :: after
      ∧ (∃ c ∈ before, isBlank c = false) ∧ ∃ c ∈ after, isBlank c = false

end Language

/-! ### The text of a documentation in its file -/

namespace Language

theorem docText_typescript (place : Documented) (lines : List String) :
  Language.typescript.docText place lines
    = only (!lines.isEmpty) ("\n" ++ typescriptDoc (Language.typescript.docIndent place) lines)
  := by
  have hmark : " * " = " " ++ "* " := by decide
  have hend : " */" = " " ++ "*/" := by decide
  cases hlines : lines.isEmpty with
  | true => simp [docText, docComments, hlines, only, each_nil]
  | false =>
    simp [docText, docComments, hlines, only, each_cons, each_nil, docBody, docMargin, docMark,
      Comment.text, typescriptDoc, hmark, hend, String.append_assoc]

theorem docText_python (place : Documented) (lines : List String) :
  Language.python.docText place lines = pythonDoc (Language.python.docIndent place) lines
  := by
  cases hlines : lines.isEmpty with
  | true => simp [docText, docComments, hlines, pythonDoc, only, each_nil]
  | false =>
    simp [docText, docComments, hlines, pythonDoc, only, each_cons, each_nil, docBody, docMargin,
      docMark, Comment.text, String.append_assoc]

theorem docText_dart (place : Documented) (lines : List String) :
  Language.dart.docText place lines = dartDoc (Language.dart.docIndent place) lines
  := by
  have hopening : "/// " = "///" ++ " " := by decide
  rw [docText, docComments, each_map, dartDoc, hopening]
  simp only [Comment.text, docIndent, String.append_assoc, String.append_empty]

end Language

/-- The documentation of a class stands in its file before a new line. -/
theorem ClassFile.exists_text_eq_docText (f : ClassFile) (lang : Language) :
  ∃ before after, f.text lang = before ++ lang.docText .ofClass f.doc ++ "\n" ++ after
  := by
  cases lang with
  | typescript =>
    refine ⟨"// " ++ origin f.package ++ "\nimport \x7b Remote \x7d from \"" ++ f.stubPath ++ "\";"
      ++ each f.imports (ImportStatement.typescript "import")
      ++ only (!f.reexports.isEmpty)
        ("\n" ++ each f.reexports (ImportStatement.typescript "export"))
      ++ each f.declarations SpelledDeclaration.typescriptBlock ++ "\n",
      "export class " ++ f.name ++ " \x7b\n  private static readonly remote = new Remote(\""
      ++ f.name ++ "\");" ++ each f.methods (SpelledMethod.typescript f.name) ++ "\n\x7d\n", ?_⟩
    have hdoc : ∀ rest, "\n\n" ++ (only (!f.doc.isEmpty) (typescriptDoc "" f.doc ++ "\n") ++ rest)
        = "\n" ++ (only (!f.doc.isEmpty) ("\n" ++ typescriptDoc "" f.doc) ++ ("\n" ++ rest)) := by
      intro rest
      have hlines : "\n\n" = "\n" ++ "\n" := by decide
      cases f.doc.isEmpty <;>
        simp only [only, hlines, Bool.not_true, Bool.not_false, Bool.false_eq_true, if_true,
          if_false, String.append_assoc, String.empty_append]
    unfold text ClassFile.typescript
    rw [Language.docText_typescript, Language.docIndent]
    simp only [String.append_assoc]
    rw [hdoc]
  | python =>
    refine ⟨pythonPreamble f.package ++ "\n\nfrom " ++ f.stubPath ++ " import Remote"
      ++ each f.reexports ImportStatement.pythonExport
      ++ pythonAnnotationImports f.annotationImports
      ++ each f.declarations SpelledDeclaration.pythonBlock
      ++ "\n\n\nclass " ++ f.name ++ ":",
      "\n    _remote = Remote(\"" ++ f.name ++ "\")" ++ each f.methods SpelledMethod.python ++ "\n",
      ?_⟩
    have hremote : "\n\n    _remote = Remote(\"" = "\n" ++ "\n    _remote = Remote(\"" := by decide
    unfold text ClassFile.python
    rw [Language.docText_python, Language.docIndent, hremote]
    simp only [String.append_assoc]
  | dart =>
    refine ⟨"// " ++ origin f.package ++ "\nimport '" ++ f.stubPath ++ "';"
      ++ each f.imports ImportStatement.dart
      ++ each f.reexports (ImportStatement.dartShow "export")
      ++ each f.imports ImportStatement.dartTypedefs
      ++ each f.declarations SpelledDeclaration.dartBlock ++ "\n",
      "class " ++ f.name ++ " \x7b\n  static final Remote _remote = Remote('" ++ f.name
      ++ "');" ++ each f.methods SpelledMethod.dart ++ "\n\x7d\n", ?_⟩
    have hclass : "\nclass " = "\n" ++ "class " := by decide
    unfold text ClassFile.dart
    rw [Language.docText_dart, Language.docIndent, hclass]
    simp only [String.append_assoc]

/-- The documentation of a method stands in its text before a new line. -/
theorem SpelledMethod.exists_text_eq_docText (m : SpelledMethod) (className : String)
    (lang : Language) :
  ∃ before after, m.text className lang = before ++ lang.docText .ofMethod m.doc ++ "\n" ++ after
  := by
  cases lang with
  | typescript =>
    refine ⟨"\n", "  static async " ++ m.name ++ "("
      ++ each m.parameters SpelledParameter.typescript ++ "): " ++ m.returnType
      ++ " \x7b\n    return await " ++ className ++ ".remote.call(" ++ m.qualifiedName
      ++ m.argumentsText ++ ");\n  \x7d", ?_⟩
    have hstatic : "\n  static async " = "\n" ++ "  static async " := by decide
    unfold text SpelledMethod.typescript
    rw [Language.docText_typescript, Language.docIndent, hstatic]
    simp only [String.append_assoc]
  | python =>
    refine ⟨"\n\n    @classmethod\n    async def " ++ m.name ++ "(cls"
      ++ each m.parameters SpelledParameter.python ++ ") -> " ++ m.returnType ++ ":",
      "        return await cls._remote.call(" ++ m.qualifiedName ++ m.argumentsText ++ ")", ?_⟩
    have hreturn : "\n        return await cls._remote.call("
        = "\n" ++ "        return await cls._remote.call(" := by decide
    unfold text SpelledMethod.python
    rw [Language.docText_python, Language.docIndent, hreturn]
    simp only [String.append_assoc]
  | dart =>
    refine ⟨"\n", "  static " ++ m.returnType ++ " " ++ m.name ++ "("
      ++ each m.parameters (SpelledParameter.dart m.hasOptional) ++ ") async \x7b\n    "
      ++ only m.returnsValue "return " ++ m.dartCall ++ "\n  \x7d", ?_⟩
    have hstatic : "\n  static " = "\n" ++ "  static " := by decide
    unfold text SpelledMethod.dart
    rw [Language.docText_dart, Language.docIndent, hstatic]
    simp only [String.append_assoc]

theorem Render.exists_each_eq_of_mem {α : Type} {a : α} {items : List α} (h : a ∈ items)
    (text : α → String) :
  ∃ before after, each items text = before ++ text a ++ after
  := by
  obtain ⟨front, back, rfl⟩ := List.append_of_mem h
  use each front text, each back text
  rw [each_append, each_cons, String.append_assoc]

/-- The documentation of each method stands in the file of its class before a new line. -/
theorem ClassFile.exists_text_eq_methodDoc (f : ClassFile) (lang : Language) {m : SpelledMethod}
    (hm : m ∈ f.methods) :
  ∃ before after, f.text lang = before ++ lang.docText .ofMethod m.doc ++ "\n" ++ after
  := by
  obtain ⟨head, hbody⟩ := f.exists_text_eq_body lang
  obtain ⟨front, back, hmethods⟩ := Render.exists_each_eq_of_mem hm fun m => m.text f.name lang
  obtain ⟨before, after, hdoc⟩ := m.exists_text_eq_docText f.name lang
  use head ++ lang.transportDefinition f.name ++ front ++ before, after ++ back ++ lang.classEnd
  simp only [hbody, hmethods, hdoc, String.append_assoc]

/-! ### Comments that are read up to where the template ends them -/

namespace Language

theorem all_isBlank_docMargin (lang : Language) (place : Documented) :
  (lang.docMargin place).toList.all isBlank
  := by cases lang <;> cases place <;> decide

/-- The text of a comment of several lines ends with white space. -/
theorem exists_getLast?_docBody (lang : Language) (place : Documented) (lines : List String) :
  ∃ c, isBlank c ∧ (lang.docBody place lines).toList.getLast? = some c
  := by
  have hend : ("\n" ++ lang.docMargin place).toList = '\n' :: (lang.docMargin place).toList :=
    String.toList_append
  obtain ⟨c, hc⟩ : ∃ c, ('\n' :: (lang.docMargin place).toList).getLast? = some c :=
    List.getLast?_isSome.mpr (List.cons_ne_nil _ _) |> Option.isSome_iff_exists.mp
  use c
  constructor
  · rcases List.mem_cons.mp (List.mem_of_getLast? hc) with rfl | hmem
    · decide
    · apply List.all_eq_true.mp (lang.all_isBlank_docMargin place) c hmem
  · rw [docBody, String.append_assoc, String.toList_append, hend,
      List.getLast?_append_of_ne_nil _ (List.cons_ne_nil _ _), hc]

variable {body : List Char} {c : Char} (hc : isBlank c) (hlast : body.getLast? = some c)

include hc hlast

theorem readComment_typescript (rest : List Char) :
  Language.typescript.readComment (body ++ "*/".toList ++ rest) = some (body, rest)
    ↔ ¬ Language.typescript.Terminates body
  := by
  apply dropInfix?_append_iff_of_getLast? (by decide) hlast
  have hfree : "*/".toList.any isBlank = false := by decide
  intro hmem
  apply List.any_eq_false.mp hfree c hmem hc

theorem readComment_python (rest : List Char) :
  Language.python.readComment (body ++ "\"\"\"".toList ++ rest) = some (body, rest)
    ↔ ¬ Language.python.Terminates body
  := by
  apply cutBare_append_iff_of_getLast? (by decide) (by decide) _ hlast
  · have hfree : "\"\"\"".toList.any isBlank = false := by decide
    intro hmem
    apply List.any_eq_false.mp hfree c hmem hc
  · apply backslash_not_mem_symbols
    rw [hlast]
    rintro ⟨rfl⟩
    revert hc
    decide

omit hc hlast

theorem readComment_dart (body rest : List Char) :
  Language.dart.readComment (body ++ '\n' :: rest) = some (body, '\n' :: rest)
    ↔ ¬ Language.dart.Terminates body
  := by
  rw [readComment, Option.some_inj, List.span_eq_takeWhile_dropWhile, Terminates]
  constructor
  · intro heq
    obtain ⟨hbody, -⟩ := Prod.mk.inj heq
    rintro ⟨c, hc, hend⟩
    rw [← hbody] at hc
    have hnot := List.mem_takeWhile_imp hc
    simp [hend] at hnot
  · intro hnot
    have hbody : ∀ c ∈ body, !isLineEnd c := by
      intro c hc
      simpa using fun hend => hnot ⟨c, hc, hend⟩
    rw [List.takeWhile_append_of_pos hbody, List.dropWhile_append_of_pos hbody]
    simp [isLineEnd]

/-- The comments that show a documentation are read up to where the template ends them exactly if no
terminator stands in them before. -/
theorem readsDoc_iff (lang : Language) (place : Documented) (doc : Option String) :
  lang.ReadsDoc place doc ↔ lang.KeepsDoc place doc
  := by
  apply forall₂_congr
  intro c hc
  cases lang with
  | typescript =>
    rw [docComments] at hc
    split at hc
    · cases hc
    · obtain rfl := List.mem_singleton.mp hc
      obtain ⟨last, hblank, hlast⟩ :=
        Language.typescript.exists_getLast?_docBody place (docLines doc)
      have hread := fun rest => readComment_typescript hblank hlast ('\n' :: rest)
      apply (forall_congr' hread).trans (forall_const _)
  | python =>
    rw [docComments] at hc
    split at hc
    · cases hc
    · obtain rfl := List.mem_singleton.mp hc
      obtain ⟨last, hblank, hlast⟩ := Language.python.exists_getLast?_docBody place (docLines doc)
      have hread := fun rest => readComment_python hblank hlast ('\n' :: rest)
      apply (forall_congr' hread).trans (forall_const _)
  | dart =>
    obtain ⟨line, -, rfl⟩ := List.mem_map.mp hc
    have hread := fun rest => readComment_dart (" " ++ line).toList rest
    simp only [String.toList_empty, List.append_nil]
    apply (forall_congr' hread).trans (forall_const _)

end Language

/-! ### Terminators in a documentation -/

theorem mem_dropEmpty_iff {line : List Char} (hne : line ≠ []) (lines : List (List Char)) :
  line ∈ dropEmpty lines ↔ line ∈ lines
  := by
  have happend : lines.takeWhile List.isEmpty ++ dropEmpty lines = lines :=
    List.takeWhile_append_dropWhile
  conv_rhs => rw [← happend, List.mem_append]
  rw [or_iff_right]
  intro hmem
  apply hne
  apply List.isEmpty_iff.mp (List.mem_takeWhile_imp hmem)

/-- The lines with text of a documentation are those of its text, without white space at their
ends. -/
theorem mem_docLines_iff {line : String} (hne : line ≠ "") (text : String) :
  line ∈ docLines (some text)
    ↔ ∃ segment ∈ split (· = '\n') text.toList, trim segment = line.toList
  := by
  have hline : line.toList ≠ [] := by simpa using hne
  have hmem : ∀ lines : List (List Char), line ∈ lines.map String.ofList ↔ line.toList ∈ lines := by
    intro lines
    rw [List.mem_map]
    constructor
    · rintro ⟨cs, hcs, rfl⟩
      simpa using hcs
    · intro h
      exact ⟨_, h, String.ofList_toList⟩
  simp only [docLines, hmem, List.mem_reverse, mem_dropEmpty_iff hline, List.mem_map]

/-- A property that splits at white space holds of a documentation exactly if it holds of one of the
lines that are shown. -/
theorem exists_mem_docLines_iff {P : List Char → Prop} (h : SplitsAt isBlank P) (text : String) :
  (∃ line ∈ docLines (some text), P line.toList) ↔ P text.toList
  := by
  rw [← h.exists_mem_split_iff text.toList]
  have hne : ∀ line : String, P line.toList → line ≠ "" := by
    rintro line hline rfl
    apply h.nil hline
  constructor
  · rintro ⟨line, hmem, hline⟩
    obtain ⟨segment, hsegment, heq⟩ := (mem_docLines_iff (hne line hline) text).mp hmem
    use segment, hsegment
    rw [← h.trim_iff, heq]
    apply hline
  · rintro ⟨segment, hsegment, hP⟩
    have hline : P (String.ofList (trim segment)).toList := by
      rw [String.toList_ofList, h.trim_iff]
      apply hP
    use String.ofList (trim segment)
    rw [mem_docLines_iff (hne _ hline), String.toList_ofList]
    exact ⟨⟨segment, hsegment, rfl⟩, by simpa using hline⟩

namespace Language

theorem splitsAt_typescript :
  SplitsAt isBlank Language.typescript.Terminates
  := splitsAt_infix (by decide) (by decide)

theorem splitsAt_python :
  SplitsAt isBlank Language.python.Terminates
  := splitsAt_bare (by decide) (by decide) (by decide) (by decide)

/-- A terminator stands in a comment of several lines exactly if it stands in one of the lines. -/
theorem terminates_docBody_iff {lang : Language} (h : SplitsAt isBlank lang.Terminates)
    (hmark : ∀ cs, lang.Terminates (lang.docMark.toList ++ cs) ↔ lang.Terminates cs)
    (place : Documented) (lines : List String) :
  lang.Terminates (lang.docBody place lines).toList ↔ ∃ line ∈ lines, lang.Terminates line.toList
  := by
  have hmargin := lang.all_isBlank_docMargin place
  have hnewline : "\n".toList = ['\n'] := by decide
  induction lines with
  | nil =>
    rw [docBody, each_nil, String.empty_append, String.toList_append, hnewline,
      List.singleton_append, h.cons_iff (by decide),
      ← List.append_nil (lang.docMargin place).toList, h.separators_append_iff hmargin]
    simpa using h.nil
  | cons line lines ih =>
    -- What follows the line starts with a line feed.
    obtain ⟨more, hmore⟩ : ∃ more, (lang.docBody place lines).toList = '\n' :: more := by
      use (lang.docBody place lines).toList.tail
      cases lines <;> simp [docBody, each_nil, each_cons, hnewline]
    have hcons : (lang.docBody place (line :: lines)).toList
        = '\n' :: (lang.docMargin place).toList ++ (lang.docMark.toList
          ++ (line.toList ++ '\n' :: more)) := by
      rw [← hmore]
      simp [docBody, each_cons]
    have hrest : lang.Terminates more ↔ ∃ line ∈ lines, lang.Terminates line.toList := by
      rw [hmore, h.cons_iff (by decide)] at ih
      apply ih
    rw [hcons, List.cons_append, h.cons_iff (by decide), h.separators_append_iff hmargin, hmark,
      h.append_cons_iff _ (by decide), hrest, List.exists_mem_cons_iff]

/-- A comment of several lines is kept exactly if no terminator stands in the documentation. -/
theorem keepsDoc_some_iff {lang : Language} (h : SplitsAt isBlank lang.Terminates)
    (hmark : ∀ cs, lang.Terminates (lang.docMark.toList ++ cs) ↔ lang.Terminates cs)
    {place : Documented} {opening closing : String}
    (hcomments : ∀ lines, lang.docComments place lines
      = if lines.isEmpty then [] else [⟨opening, lang.docBody place lines, closing⟩])
    (text : String) :
  lang.KeepsDoc place (some text) ↔ ¬ lang.Terminates text.toList
  := by
  rw [← exists_mem_docLines_iff h, KeepsDoc, hcomments]
  split_ifs with hempty
  · rw [List.isEmpty_iff] at hempty
    simp [hempty]
  · rw [List.forall_mem_singleton, terminates_docBody_iff h hmark]

/-- A line that is shown ends early exactly if a carriage return is left in it. -/
theorem terminates_dart_line_iff {segment : List Char} (h : '\n' ∉ segment) :
  Language.dart.Terminates (' ' :: trim segment) ↔ '\r' ∈ trim segment
  := by
  have hspace : ¬ isLineEnd ' ' := by decide
  have hlineFeed : '\n' ∉ trim segment := by
    rw [mem_trim_iff (by decide)]
    rintro ⟨before, after, rfl, -⟩
    simp at h
  rw [Terminates, List.exists_mem_cons_iff, or_iff_right hspace]
  constructor
  · rintro ⟨c, hc, hend⟩
    rw [isLineEnd, Bool.or_eq_true, decide_eq_true_iff, decide_eq_true_iff] at hend
    rcases hend with rfl | rfl
    · cases hlineFeed hc
    · apply hc
  · intro hc
    exact ⟨'\r', hc, by decide⟩

theorem exists_terminates_dart_iff (text : String) :
  (∃ line ∈ docLines (some text), Language.dart.Terminates (' ' :: line.toList))
    ↔ Language.dart.EndsDoc text
  := by
  have hsegment : ∀ segment ∈ split (· = '\n') text.toList,
      (Language.dart.Terminates (' ' :: trim segment) ↔ ∃ before after,
        segment = before ++ '\r' :: after
          ∧ (∃ c ∈ before, isBlank c = false) ∧ ∃ c ∈ after, isBlank c = false) := by
    intro segment hsegment
    rw [terminates_dart_line_iff, mem_trim_iff (by decide)]
    intro hmem
    have hnot := not_of_mem_split hsegment hmem
    simp at hnot
  have hempty : ¬ Language.dart.Terminates [' '] := by simp [Terminates, isLineEnd]
  constructor
  · rintro ⟨line, hline, hends⟩
    have hne : line ≠ "" := by
      rintro rfl
      apply hempty hends
    obtain ⟨segment, hmem, htrim⟩ := (mem_docLines_iff hne text).mp hline
    rw [← htrim, hsegment segment hmem] at hends
    exact ⟨segment, hmem, hends⟩
  · rintro ⟨segment, hmem, hends⟩
    rw [← hsegment segment hmem] at hends
    have hne : String.ofList (trim segment) ≠ "" := by
      rw [Ne, String.ofList_eq_empty_iff]
      intro htrim
      rw [htrim] at hends
      apply hempty hends
    use String.ofList (trim segment)
    rw [mem_docLines_iff hne, String.toList_ofList]
    exact ⟨⟨segment, hmem, rfl⟩, hends⟩

/-- No terminator stands in the comments that show a documentation exactly if none stands in the
documentation. -/
theorem keepsDoc_iff (lang : Language) (place : Documented) (doc : Option String) :
  lang.KeepsDoc place doc ↔ ∀ text ∈ doc, ¬ lang.EndsDoc text
  := by
  cases doc with
  | none =>
    cases lang <;> simp [KeepsDoc, docComments, docLines]
  | some text =>
    simp only [Option.mem_some_iff, forall_eq']
    cases lang with
    | typescript =>
      apply keepsDoc_some_iff splitsAt_typescript _ fun _ => rfl
      have hnot : ¬ Language.typescript.Terminates ['*'] := by
        rw [Terminates]
        decide
      intro cs
      apply (splitsAt_typescript.append_cons_iff ' ' (by decide) ['*'] cs).trans
      apply or_iff_right hnot
    | python =>
      apply keepsDoc_some_iff splitsAt_python _ fun _ => rfl
      intro cs
      rfl
    | dart =>
      rw [← exists_terminates_dart_iff, KeepsDoc, docComments, List.forall_mem_map]
      simp [String.toList_append]

end Language

/-- The documentation of a class and that of each of its methods stand in the file of the class. A
documentation is read up to where the template ends it exactly if no terminator stands in it, and
the lines that are shown have one exactly if the documentation has one. -/
theorem Options.documentation_classFile (o : Options) (c : RemoteClass) (methods : List Method)
    (imports : ClassImports) :
  let text := (o.classFile c methods imports).text o.language
  (∃ before after, text = before ++ o.language.docText .ofClass (docLines c.doc) ++ "\n" ++ after)
    ∧ (∀ m ∈ methods, ∃ before after,
      text = before ++ o.language.docText .ofMethod (docLines m.doc) ++ "\n" ++ after)
    ∧ ∀ place doc, (o.language.ReadsDoc place doc ↔ o.language.KeepsDoc place doc)
      ∧ (o.language.KeepsDoc place doc ↔ ∀ text ∈ doc, ¬ o.language.EndsDoc text)
  := by
  use ClassFile.exists_text_eq_docText _ o.language
  constructor
  · intro m hm
    have hmem : o.language.spellMethod imports.renames c.name m
        ∈ (o.classFile c methods imports).methods := List.mem_map_of_mem hm
    apply ClassFile.exists_text_eq_methodDoc _ o.language hmem
  · intro place doc
    exact ⟨o.language.readsDoc_iff place doc, o.language.keepsDoc_iff place doc⟩

/-- The terminator of each language can stand in a documentation. -/
theorem Language.not_keepsDoc :
  ¬ Language.typescript.KeepsDoc .ofClass (some "Serves src/*/index.")
    ∧ ¬ Language.python.KeepsDoc .ofMethod (some "Says \"\"\"hello\"\"\".")
    ∧ ¬ Language.dart.KeepsDoc .ofClass (some "One line.\rAnother line.")
  := by
  simp only [keepsDoc_iff, Option.mem_some_iff, forall_eq', not_not, EndsDoc, Terminates]
  refine ⟨by decide, by decide +kernel, "One line.\rAnother line.".toList, by decide, ?_⟩
  refine ⟨"One line.".toList, "Another line.".toList, by decide, ⟨'O', ?_⟩, ⟨'A', ?_⟩⟩ <;> decide

end ClientGen
