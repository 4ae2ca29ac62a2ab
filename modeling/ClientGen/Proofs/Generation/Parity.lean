import ClientGen.Proofs.Generation.Reference
import ClientGen.Proofs.Generation.Reports

/-!
# The graphs of all languages

If no declaration has the file of a class as its home in some language, then the graphs of
all languages are alike: each file takes the same names from the same files, it gives other
names to the same ones, and the files of types declare the same names in the same order.
The same classes are accepted, and the same is reported.
-/

namespace ClientGen

/-! ### References -/

theorem gives_addAll_map_edge (refs : List Reference) (lang : Language)
    (provider name : String) :
  (Providers.addAll [] (refs.map (Reference.edge lang))).Gives provider name
    ↔ ∃ ref ∈ refs, ref.provider.path lang = provider ∧ ref.name = name
  := by
  rw [Providers.gives_addAll]
  simp [Providers.not_gives_nil, Reference.edge]

theorem needed_inLanguage (o : Options) (lang : Language) (x : Offer) :
  (o.inLanguage lang).needed x = o.needed x
  := rfl

theorem placed_inLanguage (o : Options) (lang : Language) (offers : List Offer) (x : Offer) :
  (o.inLanguage lang).placed offers x = o.placed offers x
  := by simp only [Options.placed, needed_inLanguage]

/-- The graph after classes in a language. -/
def Options.graphIn (o : Options) (lang : Language) (offers : List Offer) : ImportGraph :=
  ImportGraph.ofRequests lang (offers.map (o.inLanguage lang).request)

theorem graphIn_nil (o : Options) (lang : Language) :
  o.graphIn lang [] = {}
  := rfl

theorem graphIn_append_singleton (o : Options) (lang : Language) (offers : List Offer)
    (x : Offer) :
  o.graphIn lang (offers ++ [x])
    = ((o.inLanguage lang).request x).resolve lang (o.graphIn lang offers)
  := by
  rw [Options.graphIn, List.map_append, List.map_singleton,
    ImportGraph.ofRequests_append_singleton]
  rfl

theorem wellFormed_graphIn (o : Options) (lang : Language) (offers : List Offer) :
  (o.graphIn lang offers).WellFormed
  := ImportGraph.wellFormed_ofRequests lang _

section

variable {o : Options} {all : List Offer} (h : Separate all)

include h

/-- The declarations that a class adds after others do not depend on the language. -/
theorem placed_graphIn (o : Options) (lang : Language) {offers : List Offer} {x : Offer}
    (hoffers : offers ⊆ all) (hx : x ∈ all) :
  ((o.inLanguage lang).request x).placed (o.graphIn lang offers) = o.placed offers x
  := by
  rw [← placed_inLanguage o lang]
  apply placed_request h hoffers hx

/-- The edges that start at a file are the pictures of the references that do. -/
theorem filter_map_edge {refs : List Reference} (hrefs : ∀ ref ∈ refs, IsFile all ref.consumer)
    {f : FileRef} (hf : IsFile all f) (lang : Language) :
  ((refs.map (Reference.edge lang)).filter fun e => e.consumer = f.path lang)
    = (refs.filter fun ref => ref.consumer = f).map (Reference.edge lang)
  := by
  rw [List.filter_map]
  congr 1
  apply List.filter_congr
  intro ref href
  apply decide_eq_decide.mpr
  apply h.path_eq_iff (hrefs ref href) hf

/-- There are references such that in each language each file takes the pictures of the
references that start at it. -/
theorem exists_references (o : Options) {offers : List Offer} (hoffers : offers ⊆ all) :
  ∃ refs : List Reference,
    (∀ ref ∈ refs, IsFile all ref.consumer ∧ IsFile all ref.provider)
    ∧ ∀ lang f, IsFile all f → (o.graphIn lang offers).providersOf (f.path lang)
        = Providers.addAll [] ((refs.filter fun ref => ref.consumer = f).map
            (Reference.edge lang))
  := by
  induction offers using List.reverseRecOn with
  | nil =>
    use []
    constructor
    · intro ref href
      cases href
    · intro lang f _
      rfl
  | append_singleton offers x ih =>
    obtain ⟨hearlier, hlast⟩ := List.append_subset.mp hoffers
    have hx := hlast (List.mem_singleton_self x)
    obtain ⟨refs, hrefs, hproviders⟩ := ih hearlier
    have hnew : ∀ ref ∈ x.references (o.placed offers x) (o.qualifying x.remoteClass),
        IsFile all ref.consumer ∧ IsFile all ref.provider := by
      intro ref href
      rcases List.mem_append.mp href with href | href
      · obtain ⟨d, hd, href⟩ := List.mem_flatMap.mp href
        have hd := mem_declarations_of_mem_needed (List.mem_filter.mp hd).1
        apply isFile_of_mem_referencesFrom hx (IsFile.homeOf hx hd) href
      · apply isFile_of_mem_referencesFrom hx (IsFile.ofClass hx) href
    use refs ++ x.references (o.placed offers x) (o.qualifying x.remoteClass)
    constructor
    · intro ref href
      rcases List.mem_append.mp href with href | href
      · apply hrefs ref href
      · apply hnew ref href
    · intro lang f hf
      have hedges : ((o.inLanguage lang).request x).edges (o.graphIn lang offers)
          = (x.references (o.placed offers x) (o.qualifying x.remoteClass)).map
              (Reference.edge lang) := by
        rw [edges_request h hx, placed_graphIn h o lang hearlier hx]
        rfl
      rw [graphIn_append_singleton,
        ClassRequest.providersOf_resolve (wellFormed_graphIn o lang offers), hedges,
        filter_map_edge h (fun ref href => (hnew ref href).1) hf, hproviders lang f hf,
        List.filter_append, List.map_append]
      symm
      apply List.foldl_append

end

/-! ### Files of types -/

/-- The names that the files of types declare. -/
def ImportGraph.typeNames (g : ImportGraph) : List (String × List String) :=
  g.typeFiles.map fun file => (file.1, file.2.map SpelledDeclaration.name)

theorem ImportGraph.typeNames_declare (g : ImportGraph) (path : String)
    (s : SpelledDeclaration) :
  (g.declare path s).typeNames
    = Sorted.modify path (fun names => names.getD [] ++ [s.name]) g.typeNames
  := by
  apply Sorted.map_modify
  intro declarations
  cases declarations with
  | none => rfl
  | some declarations => apply List.map_append

/-- A class adds the names of its declarations to the files of types where they belong. -/
theorem typeNames_resolve (r : ClassRequest) (lang : Language) (g : ImportGraph) :
  (r.resolve lang g).typeNames
    = ((r.placed g).filter fun d => !r.isLocal d).foldl
        (fun names d => Sorted.modify (r.homeOf d) (fun ns => ns.getD [] ++ [d.name]) names)
        g.typeNames
  := by
  have hdeclared : (r.resolve lang g).typeNames = (r.declared lang g).typeNames := by
    simp only [ClassRequest.resolve, ImportGraph.setRenames, ImportGraph.typeNames,
      ClassRequest.place_eq, ImportGraph.typeFiles_addEdges]
  rw [hdeclared, ClassRequest.declared]
  clear hdeclared
  generalize (r.placed g).filter (fun d => !r.isLocal d) = placed
  induction placed generalizing g with
  | nil => rfl
  | cons d placed ih =>
    rw [List.foldl_cons, List.foldl_cons, ih, ImportGraph.typeNames_declare,
      name_spellDeclaration, Renames.apply_nil]

section

variable {all : List Offer} (h : Separate all)

include h

/-- The files of types are the same in all languages, and they declare the same names in
the same order. -/
theorem typeNames_graphIn_eq (o : Options) (lang lang' : Language) {offers : List Offer}
    (hoffers : offers ⊆ all) :
  (o.graphIn lang offers).typeNames = (o.graphIn lang' offers).typeNames
  := by
  induction offers using List.reverseRecOn with
  | nil => rw [graphIn_nil, graphIn_nil]
  | append_singleton offers x ih =>
    obtain ⟨hearlier, hlast⟩ := List.append_subset.mp hoffers
    have hx := hlast (List.mem_singleton_self x)
    have hforeign (lang : Language) : (o.placed offers x).filter
        (fun d => !((o.inLanguage lang).request x).isLocal d)
          = (o.placed offers x).filter fun d => x.homeOf d ≠ x.file := by
      apply List.filter_congr
      intro d hd
      have hd := mem_declarations_of_mem_needed (List.mem_filter.mp hd).1
      rw [isLocal_request h hx hd]
      simp
    rw [graphIn_append_singleton, graphIn_append_singleton, typeNames_resolve,
      typeNames_resolve, placed_graphIn h o lang hearlier hx,
      placed_graphIn h o lang' hearlier hx, hforeign, hforeign, ih hearlier]
    apply List.foldl_ext
    intro names d hd
    obtain ⟨path, hpath⟩ := exists_homeOf_eq_ofTypes
      (of_decide_eq_true (List.mem_filter.mp hd).2)
    rw [homeOf_request, homeOf_request, hpath]
    rfl

/-! ### Names in the files of classes -/

/-- The scope of the file of a class is the same in all languages. -/
theorem scope_graphIn_eq (o : Options) (lang lang' : Language) {offers : List Offer}
    (hoffers : offers ⊆ all) {x : Offer} (hx : x ∈ all) :
  ((o.inLanguage lang).request x).scope (o.graphIn lang offers)
    = ((o.inLanguage lang').request x).scope (o.graphIn lang' offers)
  := by
  obtain ⟨refs, hrefs, hproviders⟩ := exists_references h o hoffers
  have hscope (lang : Language) (name : String) :
      name ∈ ((o.inLanguage lang).request x).scope (o.graphIn lang offers)
        ↔ name ∈ ((o.needed x).filter fun d => x.homeOf d = x.file).map DeclarationOf.name
          ∨ ∃ ref ∈ refs, ref.consumer = x.file ∧ ref.name = name := by
    have hpath : ((o.inLanguage lang).request x).path = x.file.path lang := rfl
    rw [ClassRequest.mem_scope, locals_request h hx, hpath,
      hproviders lang x.file (IsFile.ofClass hx), Providers.mem_names]
    rw [← needed_inLanguage o lang]
    apply or_congr Iff.rfl
    simp only [gives_addAll_map_edge, List.mem_filter, decide_eq_true_eq]
    grind
  apply Sorted.eq_of_mem_iff (Sorted.pairwise_ofTexts _) (Sorted.pairwise_ofTexts _)
  intro name
  rw [← ClassRequest.scope, ← ClassRequest.scope, hscope, hscope]

/-- A file in which types are declared is the home of a declaration. -/
theorem isFile_of_mem_typeFiles {o : Options} {lang : Language} {offers : List Offer}
    (hoffers : offers ⊆ all) {file : String × List SpelledDeclaration}
    (hfile : file ∈ (o.graphIn lang offers).typeFiles) :
  IsFile all (.ofTypes file.1)
  := by
  obtain ⟨path, declarations⟩ := file
  have hwell := wellFormed_graphIn o lang offers
  obtain ⟨s, hs⟩ := List.exists_mem_of_ne_nil _ (hwell.inhabited _ hfile)
  have hdeclares : (o.graphIn lang offers).declares path s.name := by
    apply ImportGraph.declares_iff.mpr
    use s
    rw [ImportGraph.declarationsOf, (hwell.typeFiles.mem_iff_lookup _ _).mp hfile]
    exact ⟨hs, rfl⟩
  obtain ⟨y, hy, e, he, hhome, -⟩ :=
    (@declares_requests_iff (o.inLanguage lang) _ _ h hoffers path s.name).mp hdeclares
  rw [← hhome]
  apply IsFile.homeOf (hoffers hy) (mem_declarations_of_mem_needed he)

end

/-- No declaration of the programs has as its home the file of a class, in any language. -/
theorem Separate.homesApart {offers : List Offer} (h : Separate offers) (o : Options) :
  HomesApart (offers.map o.request)
  := by
  intro r hr s hs _ d hd home hhome
  obtain ⟨x, hx, rfl⟩ := List.mem_map.mp hr
  obtain ⟨y, hy, rfl⟩ := List.mem_map.mp hs
  apply h.homes x hx d hd home hhome y hy

section

variable {offers : List Offer} (h : Separate offers)

include h

/-- The file of a class spells names as is due to the names in its scope. -/
theorem lookup_renames_graphIn (o : Options) (lang : Language)
    (distinct : ((offers.map (o.inLanguage lang).request).map ClassRequest.path).Nodup)
    {x : Offer} (hx : x ∈ offers) :
  (o.graphIn lang offers).renames.lookup (x.file.path lang)
    = some (Fresh.classRenames x.remoteClass.name
        (((o.inLanguage lang).request x).scope (o.graphIn lang offers)))
  := by
  have hagree := @ImportGraph.agreesOn_ofRequests lang _ distinct
    (h.homesApart (o.inLanguage lang)) _ (List.mem_map_of_mem hx)
  have hscope : ((o.inLanguage lang).request x).scope (o.graphIn lang offers)
      = ((o.inLanguage lang).request x).scope
          (((o.inLanguage lang).request x).resolve lang {}) := by
    rw [ClassRequest.scope, ClassRequest.scope, ← hagree.providers]
    rfl
  have hpath : ((o.inLanguage lang).request x).path = x.file.path lang := rfl
  rw [hscope, Options.graphIn, ← hpath, hagree.spellings,
    ClassRequest.lookup_renames_resolve ImportGraph.wellFormed_empty, if_pos rfl]
  rfl

/-- Each file gives other names to the same names in all languages. -/
theorem lookup_renames_graphIn_eq (o : Options)
    (distinct : ∀ lang, ((offers.map (o.inLanguage lang).request).map
      ClassRequest.path).Nodup)
    {f : FileRef} (hf : IsFile offers f) (lang lang' : Language) :
  (o.graphIn lang offers).renames.lookup (f.path lang)
    = (o.graphIn lang' offers).renames.lookup (f.path lang')
  := by
  cases hf with
  | @ofClass x hx =>
    rw [lookup_renames_graphIn h o lang (distinct lang) hx,
      lookup_renames_graphIn h o lang' (distinct lang') hx,
      scope_graphIn_eq h o lang lang' (List.Subset.refl offers) hx]
  | @ofTypes x d home hx hd hhome =>
    have hnone (lang : Language) : (o.graphIn lang offers).renames.lookup
        (Module.normalize home) = none := by
      apply ImportGraph.lookup_renames_ofRequests
      intro r hr
      obtain ⟨y, hy, rfl⟩ := List.mem_map.mp hr
      apply h.homes x hx d hd home hhome y hy
    apply (hnone lang).trans (hnone lang').symm

end

/-! ### Accepted classes -/

theorem offer?_inLanguage (o : Options) (lang : Language) :
  (o.inLanguage lang).offer? = o.offer?
  := rfl

/-- The same classes are accepted in all languages. -/
theorem accepted_inLanguage (o : Options) (lang : Language) (programs : List Program) :
  (o.inLanguage lang).accepted programs = o.accepted programs
  := by
  have haccept : (o.inLanguage lang).accept = o.accept := by
    funext taken x
    have htaken : ((o.inLanguage lang).request x).path
          ∈ taken.map (fun y => ((o.inLanguage lang).request y).path)
        ↔ (o.request x).path ∈ taken.map fun y => (o.request y).path := by
      simp only [List.mem_map, Options.request, Language.proxyModule_eq_iff]
    rw [Options.accept, Options.accept]
    simp only [htaken]
  rw [Options.accepted, Options.accepted, offer?_inLanguage, haccept]

/-- An offered class is one of its program. -/
theorem mem_classes_of_offer?_eq_some {o : Options} {p : Program} {x : Offer}
    (h : o.offer? p = some x) :
  x.program = p ∧ x.remoteClass ∈ p.classes
  := by
  rw [Options.offer?] at h
  cases hclasses : p.classes with
  | nil => simp [hclasses] at h
  | cons c extra =>
    rw [hclasses] at h
    dsimp only at h
    split at h
    case isTrue => cases h
    case isFalse =>
      obtain rfl := Option.some.inj h
      use rfl
      apply List.mem_cons_self

theorem mem_or_eq_of_mem_accept {o : Options} {taken : List Offer} {x y : Offer}
    (h : x ∈ o.accept taken y) :
  x ∈ taken ∨ x = y
  := by
  rw [Options.accept] at h
  split at h
  case isTrue => apply Or.inl h
  case isFalse =>
    rcases List.mem_append.mp h with h | h
    · apply Or.inl h
    · apply Or.inr (List.mem_singleton.mp h)

/-- An accepted class is one of a program, together with the program. -/
theorem mem_classes_of_mem_accepted {o : Options} {programs : List Program} {x : Offer}
    (hx : x ∈ o.accepted programs) :
  x.program ∈ programs ∧ x.remoteClass ∈ x.program.classes
  := by
  induction programs using List.reverseRecOn with
  | nil => cases hx
  | append_singleton programs p ih =>
    rw [Options.accepted_append_singleton] at hx
    cases hoffer : o.offer? p with
    | none =>
      rw [hoffer] at hx
      obtain ⟨hp, hc⟩ := ih hx
      exact ⟨List.mem_append_left _ hp, hc⟩
    | some y =>
      rw [hoffer] at hx
      rcases mem_or_eq_of_mem_accept hx with hx | rfl
      · obtain ⟨hp, hc⟩ := ih hx
        exact ⟨List.mem_append_left _ hp, hc⟩
      · obtain ⟨hp, hc⟩ := mem_classes_of_offer?_eq_some hoffer
        rw [hp]
        exact ⟨List.mem_append_right _ (List.mem_singleton_self p), hc⟩

/-- No declaration of the programs has as its home the file of a class of a program, in any
language. -/
def HomesClear (programs : List Program) : Prop :=
  ∀ p ∈ programs, ∀ d ∈ p.declarations, ∀ home ∈ d.home?, ∀ q ∈ programs, ∀ c ∈ q.classes,
    ∀ lang : Language, Module.normalize home ≠ lang.proxyModule c.name

theorem nodup_path_accepted (o : Options) (lang : Language) (programs : List Program) :
  (((o.accepted programs).map (o.inLanguage lang).request).map ClassRequest.path).Nodup
  := by
  rw [← accepted_inLanguage o lang]
  apply (Run.gathers_ofPrograms (o.inLanguage lang) programs).nodup_paths

theorem HomesClear.separate {programs : List Program} (h : HomesClear programs)
    (o : Options) :
  Separate (o.accepted programs)
  where
  distinct := by
    intro x hx y hy heq
    have hnodup := nodup_path_accepted o .typescript programs
    rw [List.map_map] at hnodup
    have hpath := (Language.typescript.proxyModule_eq_iff _ _).mpr heq
    rw [List.inj_on_of_nodup_map hnodup hx hy hpath]
  homes := by
    intro x hx d hd home hhome y hy
    obtain ⟨hp, -⟩ := mem_classes_of_mem_accepted hx
    obtain ⟨hq, hc⟩ := mem_classes_of_mem_accepted hy
    apply h _ hp d hd home hhome _ hq _ hc

theorem HomesClear.of_subset {programs others : List Program} (h : HomesClear programs)
    (hsubset : others ⊆ programs) :
  HomesClear others
  := by
  intro p hp d hd home hhome q hq
  apply h p (hsubset hp) d hd home hhome q (hsubset hq)

/-! ### Runs -/

namespace Run

theorem graph_ofPrograms_inLanguage (o : Options) (lang : Language)
    (programs : List Program) :
  (ofPrograms (o.inLanguage lang) programs).graph
    = o.graphIn lang (o.accepted programs)
  := by
  rw [graph_ofPrograms, Options.requests, accepted_inLanguage]
  rfl

/-- Whether the file of a class has been written does not depend on the language. -/
theorem hasFile_ofPrograms_iff (o : Options) (lang : Language) (programs : List Program)
    (className : String) :
  (ofPrograms (o.inLanguage lang) programs).hasFile (lang.proxyModule className)
    ↔ ∃ y ∈ o.accepted programs,
        Language.lowerFirst y.remoteClass.name = Language.lowerFirst className
  := by
  have hpaths := (gathers_ofPrograms (o.inLanguage lang) programs).paths_eq
  rw [accepted_inLanguage] at hpaths
  rw [hasFile_iff, hpaths, List.mem_map]
  simp only [← lang.proxyModule_eq_iff]
  rfl

/-- What is reported of a class does not depend on the language. -/
theorem diagnostics_request_eq (o : Options) {programs : List Program} {p : Program}
    (h : HomesClear (programs ++ [p])) {c : RemoteClass} {extra : List RemoteClass}
    (hclasses : p.classes = c :: extra) (hempty : ¬ (o.qualifying c).isEmpty)
    (hfresh : ¬ ∃ y ∈ o.accepted programs,
      Language.lowerFirst y.remoteClass.name = Language.lowerFirst c.name)
    (lang lang' : Language) :
  ((o.inLanguage lang).request ⟨p, c⟩).diagnostics (o.graphIn lang (o.accepted programs))
    = ((o.inLanguage lang').request ⟨p, c⟩).diagnostics
        (o.graphIn lang' (o.accepted programs))
  := by
  have hoffer : o.offer? p = some ⟨p, c⟩ := by
    rw [Options.offer?, hclasses]
    apply if_neg hempty
  have haccepted : o.accepted (programs ++ [p]) = o.accepted programs ++ [⟨p, c⟩] := by
    rw [Options.accepted_append_singleton, hoffer]
    apply if_neg
    simpa only [List.mem_map, Options.request, Language.proxyModule_eq_iff] using hfresh
  have hseparate := h.separate o
  rw [haccepted] at hseparate
  have hplaced (lang : Language) := placed_graphIn hseparate o lang
    (List.subset_append_left (o.accepted programs) [⟨p, c⟩])
    (List.mem_append_right _ (List.mem_singleton_self _))
  rw [ClassRequest.diagnostics, ClassRequest.diagnostics, hplaced, hplaced]
  rfl

/-- The same is reported in all languages. -/
theorem diagnostics_ofPrograms_eq (o : Options) {programs : List Program}
    (h : HomesClear programs) (lang lang' : Language) :
  (ofPrograms (o.inLanguage lang) programs).diagnostics
    = (ofPrograms (o.inLanguage lang') programs).diagnostics
  := by
  induction programs using List.reverseRecOn with
  | nil => simp only [ofPrograms, List.zipIdx_nil, List.foldl_nil]
  | append_singleton programs p ih =>
    have ih := ih (h.of_subset (List.subset_append_left _ _))
    rw [ofPrograms_append_singleton, ofPrograms_append_singleton, addProgram, addProgram]
    cases hclasses : p.classes with
    | nil =>
      dsimp only [report]
      rw [ih]
    | cons c extra =>
      have hqualifying (lang : Language) :
          (o.inLanguage lang).qualifying c = o.qualifying c := rfl
      have hfile (lang : Language) :
          ((ofPrograms (o.inLanguage lang) programs).report
              (extra.map fun e => .extraClass e.name)).hasFile
                ((o.inLanguage lang).language.proxyModule c.name)
            ↔ ∃ y ∈ o.accepted programs,
                Language.lowerFirst y.remoteClass.name = Language.lowerFirst c.name :=
        hasFile_ofPrograms_iff o lang programs c.name
      dsimp only
      rw [diagnostics_addFirst, diagnostics_addFirst, hqualifying, hqualifying]
      congr 1
      · dsimp only [report]
        rw [ih]
      · by_cases hempty : (o.qualifying c).isEmpty
        · rw [if_pos hempty, if_pos hempty]
          rfl
        · rw [if_neg hempty, if_neg hempty]
          by_cases htaken : ∃ y ∈ o.accepted programs,
              Language.lowerFirst y.remoteClass.name = Language.lowerFirst c.name
          · rw [if_pos ((hfile lang).mpr htaken), if_pos ((hfile lang').mpr htaken)]
          · rw [if_neg (mt (hfile lang).mp htaken), if_neg (mt (hfile lang').mp htaken)]
            congr 1
            dsimp only [report]
            rw [graph_ofPrograms_inLanguage, graph_ofPrograms_inLanguage]
            apply diagnostics_request_eq o h hclasses hempty htaken

end Run

end ClientGen
