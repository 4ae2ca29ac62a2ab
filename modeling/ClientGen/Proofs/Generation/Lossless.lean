import ClientGen.Proofs.Generation.Paths
import ClientGen.Proofs.Generation.Reports
import ClientGen.Proofs.Resolution.Lookup

/-!
# Runs that report nothing

A run that reports nothing has written the file of the only class of each program, and no
program declares a name twice. Still, two things may have been left out. Items of kinds that
are not known leave no trace at all. And of the declarations of one name that programs put
into one file of types, the file holds the first one, so each program finds its own there
exactly when all of them have the same view.
-/

namespace ClientGen

/-! ### Items of known kinds -/

/-- Whether an item is of a known kind. -/
def BodyItem.isRecognized : BodyItem → Bool
  | .unknown => false
  | _ => true

namespace Program

/-- A program without the items of kinds that are not known. -/
def recognized (p : Program) : Program :=
  { p with body := p.body.filter BodyItem.isRecognized }

theorem classes_recognized (p : Program) :
  p.recognized.classes = p.classes
  := by
  rw [classes, recognized, List.filterMap_filter]
  apply List.filterMap_congr
  intro item _
  cases item <;> rfl

theorem declarations_recognized (p : Program) :
  p.recognized.declarations = p.declarations
  := by
  rw [declarations, recognized, List.filterMap_filter]
  apply List.filterMap_congr
  intro item _
  cases item <;> rfl

theorem resembles_recognized (p : Program) (methods : List Method) :
  p.recognized.Resembles p methods
  := by
  intro name _
  rw [declaration?, declarations_recognized, declaration?]

end Program

namespace Run

variable {o : Options} {run : Run} {p : Program}

theorem addClass_recognized (c : RemoteClass) (methods : List Method) :
  run.addClass o p.recognized c methods = run.addClass o p c methods
  := by
  let request : ClassRequest := ⟨p, c.name, o.language.proxyModule c.name, methods⟩
  have hresembles : p.recognized.Resembles request.program request.methods :=
    p.resembles_recognized methods
  have hgraph := ClassRequest.resolve_within hresembles o.language run.graph
  have himports := ClassRequest.importsFrom_within hresembles o.language
    (request.resolve o.language run.graph)
  have hduplicates : p.recognized.duplicateNames = p.duplicateNames := by
    rw [Program.duplicateNames, Program.declarations_recognized, Program.duplicateNames]
  have hdiagnostics : (request.within p.recognized).diagnostics run.graph
      = request.diagnostics run.graph := by
    rw [ClassRequest.diagnostics, ClassRequest.placed_within hresembles]
    exact congrArg (fun names => names.map Diagnostic.duplicateDeclaration ++ _) hduplicates
  change (⟨(request.within p.recognized).resolve o.language run.graph,
    run.classFiles ++ [o.classFile c methods ((request.within p.recognized).importsFrom
      o.language ((request.within p.recognized).resolve o.language run.graph))],
    run.diagnostics ++ (request.within p.recognized).diagnostics run.graph
      ++ methodDiagnostics c.name methods⟩ : Run) = _
  rw [hgraph, himports, hdiagnostics]
  rfl

theorem addProgram_recognized (index : Nat) :
  run.addProgram o p.recognized index = run.addProgram o p index
  := by
  rw [addProgram, addProgram, Program.classes_recognized]
  cases p.classes with
  | nil => rfl
  | cons c extra =>
    dsimp only
    rw [addFirst, addFirst, addClass_recognized]

/-- Items of kinds that are not known leave no trace in a run. -/
theorem ofPrograms_recognized (o : Options) (programs : List Program) :
  ofPrograms o (programs.map Program.recognized) = ofPrograms o programs
  := by
  induction programs using List.reverseRecOn with
  | nil => rfl
  | append_singleton programs p ih =>
    rw [List.map_append, List.map_singleton, ofPrograms_append_singleton, List.length_map, ih,
      addProgram_recognized, ofPrograms_append_singleton]

end Run

/-! ### Declared names -/

theorem repeatedNames_eq_nil_iff (seen names : List String) :
  repeatedNames seen names = [] ↔ names.Nodup ∧ ∀ name ∈ names, name ∉ seen
  := by
  induction names generalizing seen with
  | nil => simp [repeatedNames]
  | cons name names ih =>
    rw [repeatedNames, List.nodup_cons]
    by_cases hseen : seen.contains name
    · simp_all
    · rw [if_neg hseen, ih]
      grind

theorem Program.duplicateNames_eq_nil_iff (p : Program) :
  p.duplicateNames = [] ↔ (p.declarations.map DeclarationOf.name).Nodup
  := by
  have heraseDups : p.duplicateNames = []
      ↔ repeatedNames [] (p.declarations.map DeclarationOf.name) = [] := by
    simp only [duplicateNames, List.eq_nil_iff_forall_not_mem, List.mem_eraseDups]
  rw [heraseDups, repeatedNames_eq_nil_iff]
  simp

/-! ### Runs without reports -/

/-- Nothing is reported of a program exactly when its only class is written and nothing is
reported of this class. -/
theorem Options.reports_eq_nil_iff {o : Options} {earlier : List Program} {p : Program} :
  o.reports earlier p = []
    ↔ ∃ c, p.classes = [c] ∧ o.fate earlier p = .written ⟨p, c⟩
      ∧ (o.request ⟨p, c⟩).reports (Run.ofPrograms o earlier).graph = []
  := by
  constructor
  · intro h
    obtain ⟨hskips, hreports⟩ := List.append_eq_nil_iff.mp h
    obtain ⟨hextra, hskip⟩ := List.append_eq_nil_iff.mp hskips
    cases hfate : o.fate earlier p with
    | written x =>
      have hoffer := (fate_eq_written_iff.mp hfate).1
      rw [hfate] at hreports
      rw [offer?] at hoffer
      cases hclasses : p.classes with
      | nil => simp [hclasses] at hoffer
      | cons c extra =>
        rw [hclasses] at hoffer hextra
        obtain rfl : extra = [] := List.map_eq_nil_iff.mp hextra
        have hx : x = ⟨p, c⟩ := by grind
        subst hx
        use c, rfl, rfl
        simpa [Fate.offer?] using hreports
    | _ => simp [hfate, Fate.skip?] at hskip
  · rintro ⟨c, hclasses, hfate, hreports⟩
    simp [reports, skips, hclasses, hfate, Fate.skip?, Fate.offer?, hreports]

theorem ClassRequest.duplicateNames_eq_nil_of_reports_eq_nil {r : ClassRequest}
    {g : ImportGraph} (h : r.reports g = []) :
  r.program.duplicateNames = []
  := by
  obtain ⟨hdiagnostics, -⟩ := List.append_eq_nil_iff.mp h
  obtain ⟨hduplicates, -⟩ := List.append_eq_nil_iff.mp hdiagnostics
  apply List.map_eq_nil_iff.mp hduplicates

/-- If a run reports nothing, then the file of the only class of each program is written, and
no program declares a name twice. -/
theorem Run.exists_written_of_diagnostics_eq_nil {o : Options} {programs : List Program}
    (h : (ofPrograms o programs).diagnostics = []) {p : Program} (hp : p ∈ programs) :
  (∃ c, p.classes = [c] ∧ o.request ⟨p, c⟩ ∈ o.requests programs)
    ∧ (p.declarations.map DeclarationOf.name).Nodup
  := by
  obtain ⟨earlier, hearlier⟩ := exists_mem_withEarlier hp
  rw [diagnostics_ofPrograms] at h
  obtain ⟨c, hclasses, hfate, hreports⟩ :=
    Options.reports_eq_nil_iff.mp (List.flatMap_eq_nil_iff.mp h _ hearlier)
  constructor
  · use c, hclasses
    have hprefix := Options.prefix_requests_iff.mpr
      ⟨earlier, p, ⟨p, c⟩, hearlier, hfate, rfl, rfl⟩
    apply hprefix.mem
    simp
  · apply p.duplicateNames_eq_nil_iff.mp
    apply ClassRequest.duplicateNames_eq_nil_of_reports_eq_nil hreports

/-! ### Views -/

/-- In the files of types of a graph, the one at a path declares under the name of a
declaration exactly its view. -/
def ImportGraph.HoldsView (g : ImportGraph) (lang : Language) (package : Package)
    (path : String) (d : Declaration) : Prop :=
  ∃ f ∈ g.toTypeFiles lang package, f.path = path
    ∧ (f.declarations.filter fun s => s.name = d.name) = [lang.spellDeclaration [] d]

theorem ImportGraph.holdsView_iff {g : ImportGraph} (h : g.WellFormed) {lang : Language}
    {package : Package} {path : String} {d : Declaration} :
  g.HoldsView lang package path d
    ↔ ((g.declarationsOf path).filter fun s => s.name = d.name) = [lang.spellDeclaration [] d]
  := by
  constructor
  · rintro ⟨f, hf, rfl, hview⟩
    rw [← (declarations_of_mem_toTypeFiles h hf).1, hview]
  · intro hview
    have hne : g.declarationsOf path ≠ [] := by
      intro hnil
      simp [hnil] at hview
    exact ⟨_, (mem_toTypeFiles h package _).mpr ⟨path, hne, rfl⟩, rfl, hview⟩

/-- Among items with different images, an item is the only one with its image. -/
theorem filter_eq_singleton {α β : Type} [DecidableEq β] {image : α → β} {items : List α}
    (h : (items.map image).Nodup) {a : α} (ha : a ∈ items) :
  (items.filter fun b => image b = image a) = [a]
  := by
  obtain ⟨before, after, rfl⟩ := List.append_of_mem ha
  rw [List.map_append, List.map_cons, List.nodup_middle, List.nodup_cons, ← List.map_append]
    at h
  have hothers : ∀ b ∈ before ++ after, image b ≠ image a := by
    intro b hb heq
    apply h.1
    rw [← heq]
    apply List.mem_map_of_mem hb
  have hbefore : (before.filter fun b => image b = image a) = [] := by
    apply List.filter_eq_nil_iff.mpr
    intro b hb
    simpa using hothers b (List.mem_append_left _ hb)
  have hafter : (after.filter fun b => image b = image a) = [] := by
    apply List.filter_eq_nil_iff.mpr
    intro b hb
    simpa using hothers b (List.mem_append_right _ hb)
  simp [hbefore, hafter]

section

variable {lang : Language} {package : Package} {requests : List ClassRequest}
  {path : String} {r : ClassRequest} {d : Declaration}

/-- The file of types holds the view of the first declaration of a name. -/
theorem FirstPlaces.holdsView (h : FirstPlaces requests path r d) :
  (ImportGraph.ofRequests lang requests).HoldsView lang package path d
  := by
  apply (ImportGraph.holdsView_iff (ImportGraph.wellFormed_ofRequests lang requests)).mpr
  have hmem : lang.spellDeclaration [] d
      ∈ (ImportGraph.ofRequests lang requests).declarationsOf path :=
    (ImportGraph.mem_declarationsOf_ofRequests requests path _).mpr ⟨r, d, h, rfl⟩
  have hfilter := filter_eq_singleton
    (ImportGraph.nodup_name_declarationsOf_ofRequests requests path) hmem
  simpa using hfilter

/-- Where a class puts a declaration, some class is the first to put one of the name. -/
theorem exists_firstPlaces (hr : r ∈ requests) (h : r.Places path d) :
  ∃ s e, FirstPlaces requests path s e ∧ e.name = d.name
  := by
  have hdeclares := (ImportGraph.declares_ofRequests .typescript requests path d.name).mpr
    ⟨r, hr, d, h, rfl⟩
  obtain ⟨view, hview, hname⟩ := ImportGraph.declares_iff.mp hdeclares
  obtain ⟨s, e, hfirst, rfl⟩ :=
    (ImportGraph.mem_declarationsOf_ofRequests requests path view).mp hview
  use s, e, hfirst
  simpa using hname

end

/-- The files of types hold the views of all declarations that classes put there exactly when
those of one name in one file have one view. -/
theorem forall_holdsView_iff (lang : Language) (package : Package)
    (requests : List ClassRequest) :
  (∀ r ∈ requests, ∀ path d, r.Places path d →
      (ImportGraph.ofRequests lang requests).HoldsView lang package path d)
    ↔ ∀ r ∈ requests, ∀ s ∈ requests, ∀ path d e, r.Places path d → s.Places path e →
        d.name = e.name → lang.spellDeclaration [] d = lang.spellDeclaration [] e
  := by
  have hwell := ImportGraph.wellFormed_ofRequests lang requests
  constructor
  · intro h r hr s hs path d e hd he hname
    have hviewd := (ImportGraph.holdsView_iff hwell).mp (h r hr path d hd)
    have hviewe := (ImportGraph.holdsView_iff hwell).mp (h s hs path e he)
    rw [hname, hviewe] at hviewd
    apply (List.singleton_inj.mp hviewd).symm
  · intro h r hr path d hd
    obtain ⟨s, e, hfirst, hname⟩ := exists_firstPlaces hr hd
    have hview := (ImportGraph.holdsView_iff hwell).mp
      (hfirst.holdsView : (ImportGraph.ofRequests lang requests).HoldsView lang package path e)
    apply (ImportGraph.holdsView_iff hwell).mpr
    rw [← hname, hview, h s hfirst.mem r hr path e d hfirst.places hd hname]

/-- If a run reports nothing, then the file of the only class of each program is written, and
no program declares a name twice. Where a class puts a declaration into a file of types, the
file holds the view of the first one of the name, and it always holds the view of the
declaration itself exactly when declarations of one name in one file have one view. Items of
kinds that are not known leave no trace in the library. -/
theorem generate_lossless (o : Options) (programs : List Program) (out : Output)
    (hout : generate o programs = .ok out) (hnone : out.diagnostics = []) :
  (∀ p ∈ programs, (∃ c, p.classes = [c] ∧ o.request ⟨p, c⟩ ∈ o.requests programs)
      ∧ (p.declarations.map DeclarationOf.name).Nodup)
    ∧ (∀ r ∈ o.requests programs, ∀ path d, r.Places path d →
        ∃ s e, FirstPlaces (o.requests programs) path s e ∧ e.name = d.name
          ∧ (Run.ofPrograms o programs).graph.HoldsView o.language o.package path e)
    ∧ ((∀ r ∈ o.requests programs, ∀ path d, r.Places path d →
          (Run.ofPrograms o programs).graph.HoldsView o.language o.package path d)
        ↔ ∀ r ∈ o.requests programs, ∀ s ∈ o.requests programs, ∀ path d e,
            r.Places path d → s.Places path e → d.name = e.name →
            o.language.spellDeclaration [] d = o.language.spellDeclaration [] e)
    ∧ generate o (programs.map Program.recognized) = .ok out
  := by
  obtain ⟨valid, rfl⟩ := (generate_eq_ok_iff o programs out).mp hout
  rw [Run.graph_ofPrograms]
  and_intros
  · intro p hp
    apply Run.exists_written_of_diagnostics_eq_nil hnone hp
  · intro r hr path d hplaces
    obtain ⟨s, e, hfirst, hname⟩ := exists_firstPlaces hr hplaces
    exact ⟨s, e, hfirst, hname, hfirst.holdsView⟩
  · apply forall_holdsView_iff
  · rw [generate, Run.ofPrograms_recognized, ← generate, hout]

namespace Example

/-- A class that gives out entries. -/
def bookClass (className : String) : RemoteClass where
  name := className
  methods := [{ name := "first", returnType := .custom "Entry" }]

/-- The entries, which have one property. -/
def entry (property : String) : Declaration :=
  .struct "Entry" [⟨property, false, .primitive .string⟩] (some "models/entry")

/-- The program of the class, with an item of a kind that is not known. -/
def book (className property : String) : Program where
  body := [.remoteClass (bookClass className), .declaration (entry property), .unknown]

/-- The class with its program. -/
def bookRequest (className property : String) : ClassRequest :=
  Options.request { language := .typescript } ⟨book className property, bookClass className⟩

theorem eq_entry_of_mem_needed {className property : String} {d : Declaration}
    (hneeded : d ∈ (bookRequest className property).needed) :
  d = entry property
  := by
  have hd := ClassRequest.mem_declarations_of_mem_needed hneeded
  apply List.mem_singleton.mp hd

theorem reports_book (className property : String) (g : ImportGraph) :
  (bookRequest className property).reports g = []
  := by
  have hplaced : ((bookRequest className property).placed g).flatMap
      ClassRequest.declarationDiagnostics = [] := by
    apply List.flatMap_eq_nil_iff.mpr
    intro d hd
    rw [eq_entry_of_mem_needed ((ClassRequest.mem_placed d).mp hd).1]
    rfl
  rw [ClassRequest.reports, ClassRequest.diagnostics, hplaced]
  rfl

theorem places_entry (className property : String)
    (foreign : "models/entry" ≠ (bookRequest className property).path) :
  (bookRequest className property).Places "models/entry" (entry property)
  where
  declared := rfl
  reached := by
    have hname : "Entry" ∈ (TypeNode.custom "Entry").referencedNames := by decide
    apply Program.Reaches.signature (List.mem_singleton_self _) (List.mem_singleton_self _) hname
    rfl
  home := by
    have hhome : Module.normalize "models/entry" = "models/entry" := by decide
    apply congrArg some hhome
  named := by decide
  foreign := foreign

theorem requests_book (className property : String) :
  Options.requests { language := .typescript } [book className property]
    = [bookRequest className property]
  := rfl

/-- Programs that put different entries into one file. -/
def books : List Program := [book "Ledger" "amount", book "Diary" "text"]

theorem requests_books :
  Options.requests { language := .typescript } books
    = [bookRequest "Ledger" "amount", bookRequest "Diary" "text"]
  := rfl

theorem diagnostics_book (className property : String) :
  (Run.ofPrograms { language := .typescript } [book className property]).diagnostics = []
  := by
  rw [Run.diagnostics_ofPrograms]
  apply List.flatMap_eq_nil_iff.mpr
  rintro ⟨earlier, p⟩ hmem
  obtain ⟨rfl, rfl⟩ := Prod.mk.inj (List.mem_singleton.mp hmem)
  apply Options.reports_eq_nil_iff.mpr
  exact ⟨bookClass className, rfl, rfl, reports_book className property _⟩

theorem diagnostics_books :
  (Run.ofPrograms { language := .typescript } books).diagnostics = []
  := by
  rw [Run.diagnostics_ofPrograms]
  apply List.flatMap_eq_nil_iff.mpr
  rintro ⟨earlier, p⟩ hmem
  apply Options.reports_eq_nil_iff.mpr
  rcases List.mem_pair.mp hmem with heq | heq
  · obtain ⟨rfl, rfl⟩ := Prod.mk.inj heq
    exact ⟨bookClass "Ledger", rfl, rfl, reports_book "Ledger" "amount" _⟩
  · obtain ⟨rfl, rfl⟩ := Prod.mk.inj heq
    exact ⟨bookClass "Diary", rfl, rfl, reports_book "Diary" "text" _⟩

theorem firstPlaces_entry :
  FirstPlaces (Options.requests { language := .typescript } books) "models/entry"
    (bookRequest "Ledger" "amount") (entry "amount")
  := by
  use [], ⟨[bookRequest "Diary" "text"], rfl⟩,
    places_entry "Ledger" "amount" (by decide)
  intro q hq
  cases hq

end Example

theorem generate_lossless_book :
  ∃ out, generate { language := .typescript } [Example.book "Ledger" "amount"] = .ok out
    ∧ out.diagnostics = []
    ∧ (Run.ofPrograms { language := .typescript } [Example.book "Ledger" "amount"]).graph.HoldsView
        .typescript {} "models/entry" (Example.entry "amount")
  := by
  have hout := generate_eq_ok .typescript [Example.book "Ledger" "amount"]
  have hnone := Example.diagnostics_book "Ledger" "amount"
  refine ⟨_, hout, hnone, ?_⟩
  have hviews := (generate_lossless { language := .typescript } _ _ hout hnone).2.2.1
  rw [Example.requests_book] at hviews
  apply hviews.mpr _ _ (List.mem_singleton_self _) _ _
    (Example.places_entry "Ledger" "amount" (by decide))
  intro r hr s hs path d e hd he _
  obtain rfl := List.mem_singleton.mp hr
  obtain rfl := List.mem_singleton.mp hs
  rw [Example.eq_entry_of_mem_needed hd.mem_needed, Example.eq_entry_of_mem_needed he.mem_needed]

/-- A run may report nothing although a program has an item of a kind that is not known, and
although a file of types does not hold the view of what a program declares. -/
theorem not_lossless_books :
  ∃ out, generate { language := .typescript } Example.books = .ok out
    ∧ out.diagnostics = []
    ∧ (∃ p ∈ Example.books, BodyItem.unknown ∈ p.body)
    ∧ ∃ r ∈ Options.requests { language := .typescript } Example.books, ∃ path d,
      r.Places path d
        ∧ ¬ (Run.ofPrograms { language := .typescript } Example.books).graph.HoldsView
          .typescript {} path d
  := by
  have hout := generate_eq_ok .typescript Example.books
  refine ⟨_, hout, Example.diagnostics_books, ?_, ?_⟩
  · use Example.book "Ledger" "amount", List.mem_cons_self
    simp [Example.book]
  · use Example.bookRequest "Diary" "text", by simp [Example.requests_books], "models/entry",
      Example.entry "text", Example.places_entry "Diary" "text" (by decide)
    intro hview
    have hfirst : (Run.ofPrograms { language := .typescript } Example.books).graph.HoldsView
        .typescript {} "models/entry" (Example.entry "amount") := by
      rw [Run.graph_ofPrograms]
      apply Example.firstPlaces_entry.holdsView
    have hwell := ImportGraph.wellFormed_ofRequests .typescript
      (Options.requests { language := .typescript } Example.books)
    rw [Run.graph_ofPrograms] at hview hfirst
    -- Both declarations have one name, of which the file holds a single one.
    have hsame := ((ImportGraph.holdsView_iff hwell).mp hfirst).symm.trans
      ((ImportGraph.holdsView_iff hwell).mp hview :)
    apply absurd hsame
    decide

end ClientGen
