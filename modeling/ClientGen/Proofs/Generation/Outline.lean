import ClientGen.Proofs.Generation.Parity
import Mathlib.Data.List.Dedup
import Mathlib.Data.List.Forall2

/-!
# One outline for all languages

The libraries that a run writes in the different languages have one outline: the same is
reported, the files of the same classes come in the same order and give other names to the
same declarations, the files of types declare the same names in the same order, and each
file takes the same names from the same files. The outline does not mention paths of files
of classes, which are all that a language chooses.
-/

namespace ClientGen

/-! ### Names by provider -/

/-- The names of references, by their providers. -/
def Reference.grouped (refs : List Reference) : List (FileRef × List String) :=
  (refs.map Reference.provider).dedup.map fun f =>
    (f, Sorted.ofTexts ((refs.filter fun ref => ref.provider = f).map Reference.name))

namespace Providers

/-- The names of a provider are those that it gives. -/
theorem Ordered.mem_iff_gives {providers : Providers} (h : providers.Ordered)
    {provider : String} {names : List String} (hmem : (provider, names) ∈ providers)
    (name : String) :
  name ∈ names ↔ providers.Gives provider name
  := by
  constructor
  · intro hname
    exact ⟨names, hmem, hname⟩
  · rintro ⟨names', hmem', hname⟩
    have hlookup := (h.keys.mem_iff_lookup _ _).mp hmem
    rw [(h.keys.mem_iff_lookup _ _).mp hmem'] at hlookup
    obtain rfl := Option.some.inj hlookup
    apply hname

section

variable {all : List Offer} (h : Separate all) {refs : List Reference}
  (hrefs : ∀ ref ∈ refs, IsFile all ref.provider) {lang : Language}

include h hrefs

/-- Different providers of references have different paths. -/
theorem nodup_map_path_grouped :
  ((Reference.grouped refs).map fun t => t.1.path lang).Nodup
  := by
  rw [Reference.grouped, List.map_map]
  apply (List.nodup_dedup _).map_on
  intro f hf g hg heq
  obtain ⟨ref, href, rfl⟩ := List.mem_map.mp (List.mem_dedup.mp hf)
  obtain ⟨ref', href', rfl⟩ := List.mem_map.mp (List.mem_dedup.mp hg)
  apply (h.path_eq_iff (hrefs ref href) (hrefs ref' href') lang).mp heq

variable {providers : Providers} (ordered : providers.Ordered)
  (hgives : ∀ provider name, providers.Gives provider name
    ↔ ∃ ref ∈ refs, ref.provider.path lang = provider ∧ ref.name = name)

include ordered hgives

/-- The names of a provider are those of the references to it. -/
theorem eq_ofTexts_of_mem {f : FileRef} (hf : IsFile all f) {names : List String}
    (hmem : (f.path lang, names) ∈ providers) :
  names = Sorted.ofTexts ((refs.filter fun ref => ref.provider = f).map Reference.name)
  := by
  apply Sorted.eq_of_mem_iff (ordered.names _ hmem) (Sorted.pairwise_ofTexts _)
  intro name
  rw [ordered.mem_iff_gives hmem, hgives, Sorted.mem_ofTexts, List.mem_map]
  constructor
  · rintro ⟨ref, href, hpath, rfl⟩
    have hprovider := (h.path_eq_iff (hrefs ref href) hf lang).mp hpath
    exact ⟨ref, List.mem_filter.mpr ⟨href, decide_eq_true hprovider⟩, rfl⟩
  · rintro ⟨ref, href, rfl⟩
    obtain ⟨hmember, hprovider⟩ := List.mem_filter.mp href
    use ref, hmember
    rw [of_decide_eq_true hprovider]
    exact ⟨rfl, rfl⟩

/-- Providers that give the names of references are the pictures of the providers of the
references, with their names. -/
theorem perm_map_grouped (filled : providers.Filled) :
  providers.Perm ((Reference.grouped refs).map fun t => (t.1.path lang, t.2))
  := by
  have hnodup : ((Reference.grouped refs).map fun t => (t.1.path lang, t.2)).Nodup := by
    apply List.Nodup.of_map Prod.fst
    rw [List.map_map]
    apply nodup_map_path_grouped h hrefs
  apply (List.perm_ext_iff_of_nodup (ordered.keys.nodup_keys.of_map _) hnodup).mpr
  rintro ⟨provider, names⟩
  simp only [Reference.grouped, List.map_map, List.mem_map, List.mem_dedup,
    Function.comp_apply, Prod.mk.injEq]
  constructor
  · intro hmem
    obtain ⟨name, hname⟩ := List.exists_mem_of_ne_nil _ (filled _ hmem)
    obtain ⟨ref, href, rfl, rfl⟩ := (hgives _ _).mp ⟨names, hmem, hname⟩
    have hnames := eq_ofTexts_of_mem h hrefs ordered hgives (hrefs ref href) hmem
    exact ⟨ref.provider, ⟨ref, href, rfl⟩, rfl, hnames.symm⟩
  · rintro ⟨_, ⟨ref, href, rfl⟩, rfl, rfl⟩
    obtain ⟨names, hmem, -⟩ := (hgives _ _).mpr ⟨ref, href, rfl, rfl⟩
    rw [← eq_ofTexts_of_mem h hrefs ordered hgives (hrefs ref href) hmem]
    apply hmem

end

end Providers

/-! ### Outlines -/

/-- What a file takes from other files: the names as their files declare them, each with the
name under which it is used. -/
abbrev Takes := List (FileRef × List (String × String))

/-- The file of a class, whatever the language. -/
structure ClassOutline where
  className : String
  renames : Renames
  declarations : List String
  imports : Takes
  annotationImports : Takes
  reexports : Takes

/-- A file of types, whatever the language. -/
structure TypesOutline where
  path : String
  declarations : List String
  imports : Takes

/-- A library, whatever the language. -/
structure Outline where
  diagnostics : List Diagnostic
  classes : List ClassOutline
  types : List TypesOutline

/-- The statements of a file are those that take names from other files: up to their order
there is one for each of these. -/
structure Takes.Describes (takes : Takes) (lang : Language) (consumer : FileRef)
    (statements : List ImportStatement) : Prop where
  distinct : (takes.map Prod.fst).Nodup
  statements : statements.Perm (takes.map fun t =>
    ImportStatement.ofPairs (Module.importPath lang (consumer.path lang) (t.1.path lang)) t.2)

/-- The file of a class has an outline, given the graph at the end of the run. -/
structure ClassOutline.Describes (outline : ClassOutline) (lang : Language)
    (g : ImportGraph) (f : ClassFile) : Prop where
  name : f.name = outline.className
  path : f.path = lang.proxyModule outline.className
  renames : g.renames.lookup f.path = some outline.renames
  declarations : f.declarations.map SpelledDeclaration.name = outline.declarations
  imports : outline.imports.Describes lang (.ofClass outline.className) f.imports
  annotationImports : outline.annotationImports.Describes lang
    (.ofClass outline.className) f.annotationImports
  reexports : outline.reexports.Describes lang (.ofClass outline.className) f.reexports

/-- A file of types has an outline. -/
structure TypesOutline.Describes (outline : TypesOutline) (lang : Language)
    (f : TypeFile) : Prop where
  path : f.path = outline.path
  declarations : f.declarations.map SpelledDeclaration.name = outline.declarations
  imports : outline.imports.Describes lang (.ofTypes outline.path) f.imports

/-- What a run has gathered in a language has an outline. -/
structure Outline.Describes (outline : Outline) (lang : Language) (package : Package)
    (run : Run) : Prop where
  diagnostics : run.diagnostics = outline.diagnostics
  classes : List.Forall₂ (fun (c : ClassOutline) f => c.Describes lang run.graph f)
    outline.classes run.classFiles
  types : List.Forall₂ (fun (t : TypesOutline) f => t.Describes lang f)
    outline.types (run.graph.toTypeFiles lang package)

/-! ### Imports -/

/-- What a file takes by references, if files give other names to declarations. -/
def Reference.takes (renames : FileRef → Renames) (consumer : FileRef)
    (refs : List Reference) : Takes :=
  (Reference.grouped refs).map fun t =>
    (t.1, t.2.map fun name => ((renames t.1).apply name, (renames consumer).apply name))

/-- The outline of the file of a class by references, if files give other names to
declarations. -/
def Options.classOutline (o : Options) (renames : FileRef → Renames) (refs : List Reference)
    (x : Offer) : ClassOutline :=
  let own := refs.filter fun ref => ref.consumer = x.file
  let signature := x.signatureReferences (o.qualifying x.remoteClass)
  { className := x.remoteClass.name
    renames := renames x.file
    declarations := ((o.needed x).filter fun d => x.homeOf d = x.file).map fun d =>
      (renames x.file).apply d.name
    imports := Reference.takes renames x.file own
    annotationImports := Reference.takes renames x.file (own.filter fun ref => ref ∉ signature)
    reexports := Reference.takes renames x.file signature }

theorem classOutline_inLanguage (o : Options) (lang : Language)
    (renames : FileRef → Renames) (refs : List Reference) (x : Offer) :
  (o.inLanguage lang).classOutline renames refs x = o.classOutline renames refs x
  := rfl

/-- The outline of a file of types by references, if files give other names to
declarations. -/
def Reference.typesOutline (renames : FileRef → Renames) (refs : List Reference)
    (file : String × List String) : TypesOutline where
  path := file.1
  declarations := file.2
  imports := Reference.takes renames (.ofTypes file.1)
    (refs.filter fun ref => ref.consumer = .ofTypes file.1)

section

variable {all : List Offer} (h : Separate all) {renames : FileRef → Renames}
  {lang : Language} {g : ImportGraph}
  (hspelling : ∀ f, IsFile all f → ∀ name, g.spelling (f.path lang) name
    = (renames f).apply name)

include h hspelling

/-- The statements for providers that give the names of references are those that take these
names. -/
theorem describes_takes {consumer : FileRef} (hconsumer : IsFile all consumer)
    {refs : List Reference} (hrefs : ∀ ref ∈ refs, IsFile all ref.provider)
    {providers : Providers} (ordered : providers.Ordered) (filled : providers.Filled)
    (hgives : ∀ provider name, providers.Gives provider name
      ↔ ∃ ref ∈ refs, ref.provider.path lang = provider ∧ ref.name = name) :
  (Reference.takes renames consumer refs).Describes lang consumer
    (g.statements lang (consumer.path lang) providers)
  where
  distinct := by
    rw [Reference.takes, Reference.grouped, List.map_map, List.map_map]
    apply (List.nodup_dedup _).map_on
    intro f _ g _ heq
    apply heq
  statements := by
    have hperm := Providers.perm_map_grouped h hrefs ordered hgives filled
    apply (List.mergeSort_perm _ _).trans
    apply (hperm.map _).trans
    rw [Reference.takes, List.map_map, List.map_map]
    apply List.Perm.of_eq
    apply List.map_congr_left
    rintro ⟨f, names⟩ ht
    obtain ⟨_, hf, heq⟩ := List.mem_map.mp ht
    obtain ⟨rfl, -⟩ := Prod.mk.inj heq
    obtain ⟨ref, href, rfl⟩ := List.mem_map.mp (List.mem_dedup.mp hf)
    dsimp only [Function.comp_apply, ImportGraph.statement]
    congr 1
    apply List.map_congr_left
    intro name _
    rw [hspelling _ (hrefs ref href), hspelling _ hconsumer]

end

/-! ### Runs -/

section

variable {o : Options} {all : List Offer} (h : Separate all) {x : Offer} (hx : x ∈ all)

include h hx

/-- What the file of a class exports again are the pictures of the references of its
signatures. -/
theorem exported_request :
  (o.request x).exported
    = Providers.addAll [] ((x.signatureReferences (o.qualifying x.remoteClass)).map
        (Reference.edge o.language))
  := by
  rw [← signatureEdges_request h hx]
  rfl

omit hx in
/-- What is left of the names of references that start at a file, when those of others that
start there are taken away, are the names of the other references. -/
theorem gives_without_iff {f : FileRef} {refs others : List Reference}
    (hrefs : ∀ ref ∈ refs, ref.consumer = f ∧ IsFile all ref.provider)
    (hothers : ∀ ref ∈ others, ref.consumer = f ∧ IsFile all ref.provider)
    (lang : Language) (provider name : String) :
  ((Providers.addAll [] (refs.map (Reference.edge lang))).without
      (Providers.addAll [] (others.map (Reference.edge lang)))).Gives provider name
    ↔ ∃ ref ∈ refs.filter fun ref => ref ∉ others,
        ref.provider.path lang = provider ∧ ref.name = name
  := by
  constructor
  · intro hgives
    obtain ⟨ref, href, hpath, hname⟩ := (gives_addAll_map_edge refs lang provider name).mp
      (Providers.gives_of_gives_without hgives)
    use ref
    constructor
    · apply List.mem_filter.mpr
      use href
      apply decide_eq_true
      intro hother
      apply Providers.not_gives_of_gives_without (Providers.ordered_nil.addAll _) hgives
      apply (gives_addAll_map_edge others lang provider name).mpr
      exact ⟨ref, hother, hpath, hname⟩
    · exact ⟨hpath, hname⟩
  · rintro ⟨ref, href, rfl, rfl⟩
    obtain ⟨hmem, hnot⟩ := List.mem_filter.mp href
    have hgives := (gives_addAll_map_edge refs lang _ _).mpr ⟨ref, hmem, rfl, rfl⟩
    rcases Providers.gives_without_or_gives hgives
      (Providers.addAll [] (others.map (Reference.edge lang))) with hleft | hother
    · apply hleft
    · obtain ⟨other, hmember, hpath, hname⟩ := (gives_addAll_map_edge others lang _ _).mp hother
      obtain ⟨hconsumer, hprovider⟩ := hrefs ref hmem
      obtain ⟨hconsumer', hprovider'⟩ := hothers other hmember
      have heq : other = ref := by
        apply Reference.ext
        · apply hconsumer'.trans hconsumer.symm
        · apply (h.path_eq_iff hprovider' hprovider lang).mp hpath
        · apply hname
      rw [heq] at hmember
      apply absurd hmember (of_decide_eq_true hnot)

/-- The file of an accepted class has the outline that the references tell. -/
theorem describes_fileOf {g : ImportGraph} {renames : FileRef → Renames}
    (hspelling : ∀ f, IsFile all f → ∀ name, g.spelling (f.path o.language) name
      = (renames f).apply name)
    (hrenames : g.renames.lookup (x.file.path o.language) = some (renames x.file))
    {refs : List Reference}
    (hrefs : ∀ ref ∈ refs, IsFile all ref.consumer ∧ IsFile all ref.provider)
    (hproviders : g.providersOf (x.file.path o.language)
      = Providers.addAll [] ((refs.filter fun ref => ref.consumer = x.file).map
          (Reference.edge o.language))) :
  (o.classOutline renames refs x).Describes o.language g (o.fileOf x g)
  := by
  have hfile := IsFile.ofClass hx
  have hsignature : ∀ ref ∈ x.signatureReferences (o.qualifying x.remoteClass),
      ref.consumer = x.file ∧ IsFile all ref.provider := by
    intro ref href
    use consumer_of_mem_referencesFrom href
    apply (isFile_of_mem_referencesFrom hx hfile href).2
  have hown : ∀ ref ∈ refs.filter (fun ref => ref.consumer = x.file),
      ref.consumer = x.file ∧ IsFile all ref.provider := by
    intro ref href
    obtain ⟨href, hconsumer⟩ := List.mem_filter.mp href
    use of_decide_eq_true hconsumer
    apply (hrefs ref href).2
  have hordered (edges : List Edge) : (Providers.addAll [] edges).Ordered :=
    Providers.ordered_nil.addAll edges
  have hfilled (edges : List Edge) : (Providers.addAll [] edges).Filled :=
    Providers.filled_nil.addAll edges
  constructor
  · rfl
  · rfl
  · apply hrenames
  · change ((o.request x).locals.map (o.language.spellDeclaration
        ((g.renames.lookup (x.file.path o.language)).getD []))).map SpelledDeclaration.name = _
    rw [locals_request h hx, hrenames, List.map_map]
    apply List.map_congr_left
    intro d _
    apply name_spellDeclaration
  · have himports := describes_takes h hspelling hfile (fun ref href => (hown ref href).2)
      (hordered _) (hfilled _) (gives_addAll_map_edge _ o.language)
    rw [← hproviders] at himports
    apply himports
  · have hannotation := describes_takes h hspelling hfile
      (fun ref href => (hown ref (List.mem_filter.mp href).1).2)
      ((hordered _).without _) (Providers.filled_without _ _)
      (gives_without_iff h hown hsignature o.language)
    rw [← hproviders, ← exported_request h hx] at hannotation
    apply hannotation
  · have hreexports := describes_takes h hspelling hfile
      (fun ref href => (hsignature ref href).2) (hordered _) (hfilled _)
      (gives_addAll_map_edge _ o.language)
    rw [← exported_request h hx] at hreexports
    apply hreexports

end

/-- A file of types has the outline that the references tell. -/
theorem describes_typeFile {all : List Offer} (h : Separate all) {lang : Language}
    {g : ImportGraph} {renames : FileRef → Renames}
    (hspelling : ∀ f, IsFile all f → ∀ name, g.spelling (f.path lang) name
      = (renames f).apply name)
    {refs : List Reference}
    (hrefs : ∀ ref ∈ refs, IsFile all ref.consumer ∧ IsFile all ref.provider)
    (package : Package) {path : String} (hpath : IsFile all (.ofTypes path))
    (declarations : List SpelledDeclaration)
    (hproviders : g.providersOf path
      = Providers.addAll [] ((refs.filter fun ref => ref.consumer = .ofTypes path).map
          (Reference.edge lang))) :
  (Reference.typesOutline renames refs
    (path, declarations.map SpelledDeclaration.name)).Describes lang
      ⟨path, package, g.importsOf lang path, declarations⟩
  where
  path := rfl
  declarations := rfl
  imports := by
    have hown : ∀ ref ∈ refs.filter (fun ref => ref.consumer = .ofTypes path),
        IsFile all ref.provider := by
      intro ref href
      apply (hrefs ref (List.mem_filter.mp href).1).2
    have himports := describes_takes h hspelling hpath hown
      (Providers.ordered_nil.addAll _) (Providers.filled_nil.addAll _)
      (gives_addAll_map_edge _ lang)
    rw [← hproviders] at himports
    apply himports

/-! ### The outline of a run -/

/-- How a file spells names after classes, read off the graph of one of the languages. -/
def Options.renamesOf (o : Options) (offers : List Offer) (f : FileRef) : Renames :=
  ((o.graphIn .typescript offers).renames.lookup (f.path .typescript)).getD []

/-- The outline of what a run gathers, by references. -/
def Options.outline (o : Options) (programs : List Program) (refs : List Reference) :
    Outline :=
  let offers := o.accepted programs
  { diagnostics := (Run.ofPrograms (o.inLanguage .typescript) programs).diagnostics
    classes := offers.map (o.classOutline (o.renamesOf offers) refs)
    types := (o.graphIn .typescript offers).typeNames.map
      (Reference.typesOutline (o.renamesOf offers) refs) }

section

variable {programs : List Program} (h : HomesClear programs)

include h

/-- In each language the files spell names alike. -/
theorem spelling_graphIn (o : Options) (lang : Language) {f : FileRef}
    (hf : IsFile (o.accepted programs) f) (name : String) :
  (o.graphIn lang (o.accepted programs)).spelling (f.path lang) name
    = (o.renamesOf (o.accepted programs) f).apply name
  := by
  rw [ImportGraph.spelling, Options.renamesOf,
    lookup_renames_graphIn_eq (h.separate o) o (fun lang => nodup_path_accepted o lang programs)
      hf lang .typescript]

theorem lookup_renames_graphIn_file (o : Options) (lang : Language) {x : Offer}
    (hx : x ∈ o.accepted programs) :
  (o.graphIn lang (o.accepted programs)).renames.lookup (x.file.path lang)
    = some (o.renamesOf (o.accepted programs) x.file)
  := by
  have hsome := lookup_renames_graphIn (h.separate o) o .typescript
    (nodup_path_accepted o .typescript programs) hx
  rw [lookup_renames_graphIn_eq (h.separate o) o
    (fun lang => nodup_path_accepted o lang programs) (IsFile.ofClass hx) lang .typescript,
    Options.renamesOf, hsome]
  rfl

theorem classFiles_ofPrograms_inLanguage (o : Options) (lang : Language) :
  (Run.ofPrograms (o.inLanguage lang) programs).classFiles
    = (o.accepted programs).map fun x =>
        (o.inLanguage lang).fileOf x (o.graphIn lang (o.accepted programs))
  := by
  have hgathers := Run.gathers_ofPrograms (o.inLanguage lang) programs
  rw [accepted_inLanguage] at hgathers
  rw [hgathers.classFiles_eq ((h.separate o).homesApart _),
    Run.graph_ofPrograms_inLanguage]

/-- What a run gathers in a language has the outline that is told by the references of all
languages. -/
theorem describes_outline (o : Options) {refs : List Reference}
    (hrefs : ∀ ref ∈ refs, IsFile (o.accepted programs) ref.consumer
      ∧ IsFile (o.accepted programs) ref.provider)
    (hproviders : ∀ lang f, IsFile (o.accepted programs) f →
      (o.graphIn lang (o.accepted programs)).providersOf (f.path lang)
        = Providers.addAll [] ((refs.filter fun ref => ref.consumer = f).map
            (Reference.edge lang)))
    (lang : Language) :
  (o.outline programs refs).Describes lang o.package
    (Run.ofPrograms (o.inLanguage lang) programs)
  := by
  have hseparate := h.separate o
  have hsubset := List.Subset.refl (o.accepted programs)
  have hgraph := Run.graph_ofPrograms_inLanguage o lang programs
  constructor
  · apply Run.diagnostics_ofPrograms_eq o h lang .typescript
  · rw [classFiles_ofPrograms_inLanguage h, hgraph, Options.outline,
      List.forall₂_map_left_iff, List.forall₂_map_right_iff, List.forall₂_same]
    intro x hx
    rw [← classOutline_inLanguage o lang]
    exact describes_fileOf (o := o.inLanguage lang) hseparate hx
      (fun f hf => spelling_graphIn h o lang hf) (lookup_renames_graphIn_file h o lang hx)
      hrefs (hproviders lang x.file (IsFile.ofClass hx))
  · rw [hgraph, ImportGraph.toTypeFiles, Options.outline,
      typeNames_graphIn_eq hseparate o .typescript lang hsubset, ImportGraph.typeNames,
      List.map_map, List.forall₂_map_left_iff, List.forall₂_map_right_iff, List.forall₂_same]
    rintro ⟨path, declarations⟩ hfile
    have hpath := isFile_of_mem_typeFiles hseparate hsubset hfile
    apply describes_typeFile hseparate (fun f hf => spelling_graphIn h o lang hf) hrefs _ hpath
    apply hproviders lang (.ofTypes path) hpath

end

/-- If no declaration has the file of a class as its home in any language, then what runs
write in the different languages has one outline, and the same is reported. -/
theorem exists_outline (o : Options) (programs : List Program) (h : HomesClear programs) :
  ∃ outline : Outline, ∀ lang : Language,
    outline.Describes lang o.package (Run.ofPrograms (o.inLanguage lang) programs)
    ∧ (generate (o.inLanguage lang) programs).map Output.diagnostics
      = o.package.check.map fun _ => outline.diagnostics
  := by
  obtain ⟨refs, hrefs, hproviders⟩ := exists_references (h.separate o) o
    (List.Subset.refl (o.accepted programs))
  use o.outline programs refs
  intro lang
  have hdescribes := describes_outline h o hrefs hproviders lang
  use hdescribes
  have hpackage : (o.inLanguage lang).package = o.package := rfl
  rw [generate, hpackage]
  cases o.package.check with
  | ok _ => apply congrArg Except.ok hdescribes.diagnostics
  | error _ => rfl

theorem exists_outline_users_accounts :
  HomesClear [Example.users, Example.accounts]
    ∧ ∃ outline : Outline, ∀ lang : Language,
        outline.Describes lang {} (Run.ofPrograms (Options.inLanguage { language := .dart } lang)
          [Example.users, Example.accounts])
        ∧ (generate (Options.inLanguage { language := .dart } lang)
            [Example.users, Example.accounts]).map Output.diagnostics
          = (Package.check {}).map fun _ => outline.diagnostics
  := by
  have hclear : ∀ p ∈ [Example.users, Example.accounts], ∀ d ∈ p.declarations,
      ∀ home ∈ d.home?, ∀ q ∈ [Example.users, Example.accounts], ∀ c ∈ q.classes,
      ∀ lang ∈ Language.all, Module.normalize home ≠ lang.proxyModule c.name := by
    decide
  have hall (lang : Language) : lang ∈ Language.all := by
    cases lang <;> decide
  have h : HomesClear [Example.users, Example.accounts] := by
    intro p hp d hd home hhome q hq c hc lang
    apply hclear p hp d hd home hhome q hq c hc lang (hall lang)
  use h
  apply exists_outline { language := .dart } _ h

end ClientGen
