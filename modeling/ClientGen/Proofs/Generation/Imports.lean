import ClientGen.Proofs.Generation.Offers
import ClientGen.Proofs.Resolution.Names
import Mathlib.Data.List.Forall2
import Mathlib.Data.List.Nodup

/-!
# The imports of a run

In the library that a run writes, each file binds the names that it refers to: it declares
them, or it takes them from another file. What it takes is declared there, under the name
by which it is taken. A file of types refers to declarations by the names that programs
give them, and the file of a class may spell them otherwise; where the former takes a
declaration from the latter, the statement tells both names.
-/

namespace ClientGen

/-! ### Bound names -/

/-- Declarations and import statements bind a name if it is declared, or if something is
taken under it. -/
def Binds (declarations : List SpelledDeclaration) (statements : List ImportStatement)
    (name : String) : Prop :=
  (∃ s ∈ declarations, s.name = name) ∨ ∃ s ∈ statements, ∃ pair ∈ s.pairs, pair.2 = name

/-- More statements bind more names. -/
theorem Binds.mono {declarations : List SpelledDeclaration}
    {statements others : List ImportStatement} {name : String}
    (h : Binds declarations statements name) (hsubset : statements ⊆ others) :
  Binds declarations others name
  := by
  rcases h with h | ⟨s, hs, hpair⟩
  · left
    apply h
  · right
    exact ⟨s, hsubset hs, hpair⟩

/-- What is taken from a provider is bound under its spelling by the consumer. -/
theorem binds_of_gives (lang : Language) (g : ImportGraph) (consumer : String)
    (declarations : List SpelledDeclaration) {providers : Providers}
    {provider name : String} (h : providers.Gives provider name) :
  Binds declarations (g.statements lang consumer providers) (g.spelling consumer name)
  := by
  right
  obtain ⟨s, hs, -, hpair⟩ := (g.exists_mem_pairs_iff lang consumer providers _ _).mpr
    ⟨provider, name, h, rfl, rfl⟩
  exact ⟨s, hs, _, hpair, rfl⟩

/-! ### Files of classes -/

/-- The file of an offered class, where declarations are spelled under other names. -/
structure ClassFile.Spells (o : Options) (x : Offer) (renames : Renames) (f : ClassFile) :
    Prop where
  name : f.name = x.remoteClass.name
  path : f.path = (o.request x).path
  declarations :
    f.declarations = (o.request x).locals.map (o.language.spellDeclaration renames)
  methods : f.methods = (o.request x).methods.map (o.language.spellMethod renames f.name)

namespace Options

variable {o : Options}

/-- The spellings that a graph has for the file of an offered class. -/
def spellings (o : Options) (x : Offer) (g : ImportGraph) : Renames :=
  (g.renames.lookup (o.request x).path).getD []

theorem spells_fileOf (o : Options) (x : Offer) (g : ImportGraph) :
  (o.fileOf x g).Spells o x (o.spellings x g)
  where
  name := rfl
  path := rfl
  declarations := rfl
  methods := rfl

/-- The file of an offered class binds what its graph gives to it, both by all of its
statements and by those for signatures alone together with those that export again. -/
theorem binds_fileOf_of_gives {x : Offer} {g : ImportGraph} {provider name : String}
    (h : (g.providersOf (o.request x).path).Gives provider name) :
  Binds (o.fileOf x g).declarations (o.fileOf x g).imports ((o.spellings x g).apply name)
    ∧ Binds (o.fileOf x g).declarations
      ((o.fileOf x g).annotationImports ++ (o.fileOf x g).reexports)
      ((o.spellings x g).apply name)
  := by
  constructor
  · apply binds_of_gives o.language g _ _ h
  · rcases Providers.gives_without_or_gives h (o.request x).exported with h | h
    · apply (binds_of_gives o.language g (o.request x).path _ h).mono
      apply List.subset_append_left
    · apply (binds_of_gives o.language g (o.request x).path _ h).mono
      apply List.subset_append_right

/-- The file of an offered class declares the declarations of its program that belong
to it. -/
theorem binds_fileOf_of_mem_locals {x : Offer} (g : ImportGraph) {d : Declaration}
    (h : d ∈ (o.request x).locals) (statements : List ImportStatement) :
  Binds (o.fileOf x g).declarations statements ((o.spellings x g).apply d.name)
  := by
  left
  use o.language.spellDeclaration (o.spellings x g) d
  constructor
  · apply List.mem_map_of_mem h
  · apply name_spellDeclaration

/-- After classes among which it is, the file of an offered class binds the declared names
to which the definitions of its own declarations and its signatures refer. -/
theorem binds_fileOf {x : Offer} {requests : List ClassRequest}
    (hx : o.request x ∈ requests) {t : TypeNode}
    (ht : t ∈ (o.request x).locals.flatMap DeclarationOf.innerTypes
      ++ (o.request x).methods.flatMap Method.signatureTypes)
    {name : String} (hname : name ∈ t.referencedNames)
    (hsome : (x.program.declaration? name).isSome)
    {g : ImportGraph} (hg : g = ImportGraph.ofRequests o.language requests) :
  Binds (o.fileOf x g).declarations (o.fileOf x g).imports ((o.spellings x g).apply name)
    ∧ Binds (o.fileOf x g).declarations
      ((o.fileOf x g).annotationImports ++ (o.fileOf x g).reexports)
      ((o.spellings x g).apply name)
  := by
  obtain ⟨target, htarget⟩ := Option.isSome_iff_exists.mp hsome
  obtain rfl := Program.name_of_declaration? htarget
  by_cases hlocal : target ∈ (o.request x).locals
  · constructor
    · apply binds_fileOf_of_mem_locals g hlocal
    · apply binds_fileOf_of_mem_locals g hlocal
  · have hgives : (g.providersOf (o.request x).path).Gives
        ((o.request x).homeOf target) target.name := by
      rw [hg]
      apply ImportGraph.gives_ofRequests_of_mem_edges hx
      intro g
      apply Or.resolve_left _ hlocal
      apply ClassRequest.mem_locals_or_mem_edges ht hname htarget
    apply binds_fileOf_of_gives hgives

end Options

/-! ### Files of types -/

/-- After classes whose homes are apart, a file of types binds the declared names to which
the definition of a declaration refers that was the first of its name there. -/
theorem binds_typeFileAt (lang : Language) {requests : List ClassRequest}
    (apart : HomesApart requests) {path : String} {r : ClassRequest} {d : Declaration}
    (hfirst : FirstPlaces requests path r d) {t : TypeNode} (ht : t ∈ d.innerTypes)
    {name : String} (hname : name ∈ t.referencedNames)
    (hsome : (r.program.declaration? name).isSome)
    {g : ImportGraph} (hg : g = ImportGraph.ofRequests lang requests) :
  Binds (g.declarationsOf path) (g.importsOf lang path) name
  := by
  obtain ⟨target, htarget⟩ := Option.isSome_iff_exists.mp hsome
  obtain rfl := Program.name_of_declaration? htarget
  rcases ImportGraph.declares_or_gives_of_firstPlaces hfirst ht hname htarget with
    hplaces | ⟨-, hgives⟩
  · left
    rw [← ImportGraph.declares_iff, hg, ImportGraph.declares_ofRequests]
    exact ⟨r, hfirst.mem, target, hplaces, rfl⟩
  · rw [← hg] at hgives
    have hbinds := binds_of_gives lang g path (g.declarationsOf path) hgives
    rw [hg, ImportGraph.spelling_ofRequests_of_places apart hfirst.mem hfirst.places] at hbinds
    rw [hg]
    apply hbinds

/-! ### References -/

/-- If the homes are apart, each file of a run binds the declared names to which what
stands in it refers. In the file of a class these are the names in the definitions of its
own declarations and in its signatures, as the file spells them, and in a file of types
those in the definitions of the declarations that were the first of their names there. -/
theorem Run.binds_references (o : Options) (programs : List Program)
    (apart : HomesApart (o.requests programs)) :
  List.Forall₂
      (fun x f => ∃ renames, f.Spells o x renames
        ∧ ∀ t ∈ (o.request x).locals.flatMap DeclarationOf.innerTypes
            ++ (o.request x).methods.flatMap Method.signatureTypes,
          ∀ name ∈ t.referencedNames, (x.program.declaration? name).isSome →
            Binds f.declarations f.imports (renames.apply name)
              ∧ Binds f.declarations (f.annotationImports ++ f.reexports)
                (renames.apply name))
      (o.accepted programs) (Run.ofPrograms o programs).classFiles
    ∧ ∀ f ∈ (Run.ofPrograms o programs).graph.toTypeFiles o.language o.package,
        ∀ s ∈ f.declarations, ∃ r d, FirstPlaces (o.requests programs) f.path r d
          ∧ s = o.language.spellDeclaration [] d
          ∧ ∀ t ∈ d.innerTypes, ∀ name ∈ t.referencedNames,
            (r.program.declaration? name).isSome → Binds f.declarations f.imports name
  := by
  have hgraph := Run.graph_ofPrograms o programs
  constructor
  · rw [(Run.gathers_ofPrograms o programs).classFiles_eq apart]
    apply List.forall₂_map_right_iff.mpr
    apply List.forall₂_same.mpr
    intro x hx
    use o.spellings x (Run.ofPrograms o programs).graph, o.spells_fileOf x _
    intro t ht name hname hsome
    apply Options.binds_fileOf (List.mem_map_of_mem hx) ht hname hsome hgraph
  · intro f hf s hs
    rw [hgraph] at hf
    obtain ⟨r, d, hfirst, rfl⟩ := ImportGraph.exists_firstPlaces_of_mem_toTypeFiles hf hs
    use r, d, hfirst, rfl
    intro t ht name hname hsome
    have hwell := ImportGraph.wellFormed_ofRequests o.language (o.requests programs)
    rw [(ImportGraph.declarations_of_mem_toTypeFiles hwell hf).1,
      ImportGraph.imports_of_mem_toTypeFiles hf]
    apply binds_typeFileAt o.language apart hfirst ht hname hsome rfl

theorem Run.binds_references_users_accounts :
  HomesApart (Options.requests { language := .typescript } [Example.users, Example.accounts])
    ∧ (∃ f ∈ (ofPrograms { language := .typescript }
          [Example.users, Example.accounts]).classFiles,
        ∃ renames, f.Spells { language := .typescript } ⟨Example.users, Example.usersClass⟩ renames
          ∧ Binds f.declarations f.imports (renames.apply "Profile"))
    ∧ ∃ f ∈ (ofPrograms { language := .typescript }
          [Example.users, Example.accounts]).graph.toTypeFiles .typescript {},
        f.path = "types/account"
          ∧ Language.typescript.spellDeclaration [] Example.accountAlias ∈ f.declarations
          ∧ Binds f.declarations f.imports "Profile"
  := by
  have apart : HomesApart
      (Options.requests { language := .typescript } [Example.users, Example.accounts]) := by
    decide
  use apart
  obtain ⟨hclasses, htypes⟩ := binds_references _ _ apart
  constructor
  · rw [Example.accepted_users_accounts] at hclasses
    obtain ⟨f, files, ⟨renames, hspells, hbinds⟩, -, heq⟩ :=
      List.forall₂_cons_left_iff.mp hclasses
    rw [heq]
    use f, List.mem_cons_self, renames, hspells
    have hsignature : TypeNode.array (.custom "Profile")
        ∈ Example.usersRequest.methods.flatMap Method.signatureTypes := List.mem_singleton_self _
    apply (hbinds _ (List.mem_append_right _ hsignature) "Profile" (by decide) rfl).1
  · obtain ⟨f, hf, hpath, s, hs, hname⟩ := (exists_mem_typeFiles_ofPrograms_iff
      { language := .typescript } [Example.users, Example.accounts] "types/account" "Account").mpr
        ⟨⟨Example.accounts, Example.accountsClass⟩, by simp [Example.accepted_users_accounts],
          Example.accountAlias, Example.places_accountAlias, rfl⟩
    use f, hf, hpath
    obtain ⟨r, d, hfirst, rfl, hbinds⟩ := htypes f hf s hs
    rw [name_spellDeclaration, Renames.apply_nil] at hname
    -- Only the program of accounts has a declaration of this name.
    have hdeclared := hfirst.places.declared
    rw [hname] at hdeclared
    rcases List.mem_pair.mp hfirst.mem with rfl | rfl
    · cases hdeclared
    · obtain rfl := Option.some.inj hdeclared
      use hs
      apply hbinds _ (List.mem_singleton_self _) "Profile" (by decide) rfl

/-! ### Statements -/

/-- In a run the file at a path declares, under the name `spelled`, a declaration that
programs call `name`. -/
inductive Run.Declares (o : Options) (programs : List Program) :
    String → String → String → Prop where
  | inClass {x : Offer} {f : ClassFile} {renames : Renames} {d : Declaration} :
      x ∈ o.accepted programs → f ∈ (Run.ofPrograms o programs).classFiles →
      f.Spells o x renames → d ∈ (o.request x).locals →
      Declares o programs f.path d.name (o.language.spellDeclaration renames d).name
  | inTypes {f : TypeFile} {r : ClassRequest} {d : Declaration} :
      f ∈ (Run.ofPrograms o programs).graph.toTypeFiles o.language o.package →
      FirstPlaces (o.requests programs) f.path r d →
      o.language.spellDeclaration [] d ∈ f.declarations →
      Declares o programs f.path d.name (o.language.spellDeclaration [] d).name

namespace Run

variable {o : Options} {programs : List Program}

/-- The file of an accepted class declares the declarations of its program that belong
to it. -/
theorem declares_of_mem_locals (apart : HomesApart (o.requests programs)) {x : Offer}
    (hx : x ∈ o.accepted programs) {d : Declaration} (hd : d ∈ (o.request x).locals) :
  Declares o programs (o.request x).path d.name
    ((ofPrograms o programs).graph.spelling (o.request x).path d.name)
  := by
  have hf : o.fileOf x (ofPrograms o programs).graph ∈ (ofPrograms o programs).classFiles := by
    rw [(gathers_ofPrograms o programs).classFiles_eq apart]
    apply List.mem_map_of_mem hx
  have hdeclares := Declares.inClass hx hf (o.spells_fileOf x _) hd
  rw [name_spellDeclaration] at hdeclares
  apply hdeclares

/-- A file of types declares what an accepted class puts there, under its own name. -/
theorem declares_of_places {r : ClassRequest} (hr : r ∈ o.requests programs)
    {path : String} {target : Declaration} (hplaces : r.Places path target) :
  Declares o programs path target.name target.name
  := by
  have hgraph := graph_ofPrograms o programs
  have hwell := ImportGraph.wellFormed_ofRequests o.language (o.requests programs)
  have hdeclared :=
    (ImportGraph.declares_ofRequests o.language (o.requests programs) path target.name).mpr
      ⟨r, hr, target, hplaces, rfl⟩
  rw [← hgraph] at hwell
  obtain ⟨s, hs, hname⟩ := ImportGraph.declares_iff.mp hdeclared
  obtain ⟨q, d, hfirst, rfl⟩ :=
    (ImportGraph.mem_declarationsOf_ofRequests (o.requests programs) path s).mp hs
  rw [← hgraph] at hs
  have hf : (ofPrograms o programs).graph.typeFileAt o.language o.package path
      ∈ (ofPrograms o programs).graph.toTypeFiles o.language o.package := by
    apply (ImportGraph.mem_toTypeFiles hwell o.package _).mpr
    use path, List.ne_nil_of_mem hs
  have hdeclares := Declares.inTypes hf hfirst hs
  rw [name_spellDeclaration, Renames.apply_nil] at hname hdeclares
  rw [← hname]
  apply hdeclares

/-- If the homes are apart, a file of types spells names as the programs do. -/
theorem spelling_of_mem_toTypeFiles (apart : HomesApart (o.requests programs))
    {f : TypeFile}
    (hf : f ∈ (ofPrograms o programs).graph.toTypeFiles o.language o.package)
    (name : String) :
  (ofPrograms o programs).graph.spelling f.path name = name
  := by
  rw [graph_ofPrograms] at hf ⊢
  have hwell := ImportGraph.wellFormed_ofRequests o.language (o.requests programs)
  obtain ⟨s, hs⟩ := List.exists_mem_of_ne_nil _
    (ImportGraph.declarations_of_mem_toTypeFiles hwell hf).2
  obtain ⟨r, d, hfirst, -⟩ := ImportGraph.exists_firstPlaces_of_mem_toTypeFiles hf hs
  apply ImportGraph.spelling_ofRequests_of_places apart hfirst.mem hfirst.places

/-- The name under which a file declares something is its spelling in the graph. -/
theorem Declares.eq_spelling (apart : HomesApart (o.requests programs))
    {path name spelled : String} (h : Declares o programs path name spelled) :
  spelled = (ofPrograms o programs).graph.spelling path name
  := by
  have hgathers := gathers_ofPrograms o programs
  cases h with
  | @inClass x f renames d hx hf hspells hd =>
    rw [hgathers.classFiles_eq apart] at hf
    obtain ⟨y, hy, rfl⟩ := List.mem_map.mp hf
    have hpaths := hgathers.nodup_paths
    rw [List.map_map] at hpaths
    obtain rfl := List.inj_on_of_nodup_map hpaths hy hx hspells.path
    have hdeclarations := List.map_inj_left.mp hspells.declarations d hd
    rw [← hdeclarations]
    apply name_spellDeclaration
  | @inTypes f r d hf hfirst hd =>
    rw [name_spellDeclaration, spelling_of_mem_toTypeFiles apart hf]
    apply Renames.apply_nil

/-- What a file takes comes from another file, which declares it under the name that it
spells. -/
theorem declares_of_gives (apart : HomesApart (o.requests programs))
    {consumer provider name : String}
    (h : ((ofPrograms o programs).graph.providersOf consumer).Gives provider name) :
  provider ≠ consumer
    ∧ Declares o programs provider name ((ofPrograms o programs).graph.spelling provider name)
  := by
  have hgraph := graph_ofPrograms o programs
  rw [hgraph] at h
  obtain ⟨hne, r, hr, target, htarget, rfl, rfl⟩ :=
    ImportGraph.exists_needed_of_gives_ofRequests h
  use hne
  obtain ⟨x, hx, rfl⟩ := List.mem_map.mp hr
  rcases ClassRequest.homeOf_eq_path_or_places htarget with hlocal | hplaces
  · rw [hlocal]
    apply declares_of_mem_locals apart hx
    apply (ClassRequest.mem_locals target).mpr
    use htarget
  · rw [hgraph, ImportGraph.spelling_ofRequests_of_places apart hr hplaces]
    apply declares_of_places hr hplaces

/-- What a statement takes comes from another file, which declares it under the name by
which it is taken. -/
theorem exists_declares_of_mem_pairs (apart : HomesApart (o.requests programs))
    {consumer : String} {providers : Providers}
    (hproviders : ∀ provider name, providers.Gives provider name →
      ((ofPrograms o programs).graph.providersOf consumer).Gives provider name)
    {s : ImportStatement}
    (hs : s ∈ (ofPrograms o programs).graph.statements o.language consumer providers)
    {pair : String × String} (hpair : pair ∈ s.pairs) :
  ∃ provider name, provider ≠ consumer
    ∧ s.path = Module.importPath o.language consumer provider
    ∧ Declares o programs provider name pair.1
    ∧ pair.2 = (ofPrograms o programs).graph.spelling consumer name
  := by
  obtain ⟨provider, name, hgives, hpath, rfl⟩ :=
    (ImportGraph.exists_mem_pairs_iff o.language _ consumer providers s.path pair).mp
      ⟨s, hs, rfl, hpair⟩
  obtain ⟨hne, hdeclares⟩ := declares_of_gives apart (hproviders provider name hgives)
  exact ⟨provider, name, hne, hpath, hdeclares, rfl⟩

/-- What the file of an accepted class exports again it also takes. -/
theorem gives_of_gives_exported {x : Offer} (hx : x ∈ o.accepted programs)
    {provider name : String} (h : (o.request x).exported.Gives provider name) :
  ((ofPrograms o programs).graph.providersOf (o.request x).path).Gives provider name
  := by
  rw [graph_ofPrograms]
  apply ClassRequest.gives_ofRequests_of_gives_exported (List.mem_map_of_mem hx) h

/-- What a file of types takes comes from another file, which declares what programs call
by the name that the file of types uses. -/
theorem exists_declares_of_mem_typeFile (apart : HomesApart (o.requests programs))
    {f : TypeFile}
    (hf : f ∈ (ofPrograms o programs).graph.toTypeFiles o.language o.package)
    {s : ImportStatement} (hs : s ∈ f.imports) {pair : String × String}
    (hpair : pair ∈ s.pairs) :
  ∃ provider, provider ≠ f.path ∧ s.path = Module.importPath o.language f.path provider
    ∧ Declares o programs provider pair.2 pair.1
  := by
  rw [ImportGraph.imports_of_mem_toTypeFiles hf] at hs
  obtain ⟨provider, name, hne, hpath, hdeclares, hname⟩ :=
    exists_declares_of_mem_pairs apart (fun _ _ h => h) hs hpair
  rw [spelling_of_mem_toTypeFiles apart hf] at hname
  rw [hname]
  exact ⟨provider, hne, hpath, hdeclares⟩

/-- A file of types takes a declaration that belongs to the file of a class under the name
that the latter spells, and uses it under the name that the program gives it. -/
theorem exists_pair_of_mem_locals (apart : HomesApart (o.requests programs))
    {f : TypeFile}
    (hf : f ∈ (ofPrograms o programs).graph.toTypeFiles o.language o.package)
    {r : ClassRequest} {d : Declaration}
    (hfirst : FirstPlaces (o.requests programs) f.path r d) {t : TypeNode}
    (ht : t ∈ d.innerTypes) {target : Declaration} (htarget : target ∈ r.locals)
    (hname : target.name ∈ t.referencedNames) :
  ∃ s ∈ f.imports, s.path = Module.importPath o.language f.path r.path
    ∧ ((ofPrograms o programs).graph.spelling r.path target.name, target.name) ∈ s.pairs
  := by
  obtain ⟨hneeded, hhome⟩ := (ClassRequest.mem_locals target).mp htarget
  have hdeclaration := ((Program.mem_needed target).mp hneeded).2
  rw [ImportGraph.imports_of_mem_toTypeFiles hf]
  apply (ImportGraph.exists_mem_pairs_iff o.language _ f.path _ _ _).mpr
  use r.path, target.name
  rcases ImportGraph.declares_or_gives_of_firstPlaces hfirst ht hname hdeclaration with
    hplaces | ⟨-, hgives⟩
  · apply absurd hhome
    rw [hplaces.homeOf_eq]
    apply hplaces.foreign
  · rw [← graph_ofPrograms, hhome] at hgives
    use hgives, rfl
    rw [spelling_of_mem_toTypeFiles apart hf]

/-- If the homes are apart, then all that a file of a run takes or exports again comes from
another file, which declares it under the name by which it is taken, and under no other
name. A file of types uses it under the name that programs give it, also where the file of
a class spells it otherwise. -/
theorem declares_imports (o : Options) (programs : List Program)
    (apart : HomesApart (o.requests programs)) :
  List.Forall₂
      (fun x f => ∃ renames, f.Spells o x renames
        ∧ ∀ s ∈ f.imports ++ f.annotationImports ++ f.reexports, ∀ pair ∈ s.pairs,
          ∃ provider name, provider ≠ f.path
            ∧ s.path = Module.importPath o.language f.path provider
            ∧ Declares o programs provider name pair.1 ∧ pair.2 = renames.apply name)
      (o.accepted programs) (ofPrograms o programs).classFiles
    ∧ (∀ f ∈ (ofPrograms o programs).graph.toTypeFiles o.language o.package,
        ∀ s ∈ f.imports, ∀ pair ∈ s.pairs,
          ∃ provider, provider ≠ f.path
            ∧ s.path = Module.importPath o.language f.path provider
            ∧ Declares o programs provider pair.2 pair.1)
    ∧ (∀ f ∈ (ofPrograms o programs).graph.toTypeFiles o.language o.package,
        ∀ r d, FirstPlaces (o.requests programs) f.path r d →
          ∀ t ∈ d.innerTypes, ∀ target ∈ r.locals, target.name ∈ t.referencedNames →
            ∃ spelled, Declares o programs r.path target.name spelled
              ∧ ∃ s ∈ f.imports, s.path = Module.importPath o.language f.path r.path
                ∧ (spelled, target.name) ∈ s.pairs)
    ∧ ∀ path name spelled other, Declares o programs path name spelled →
        Declares o programs path name other → spelled = other
  := by
  and_intros
  · rw [(gathers_ofPrograms o programs).classFiles_eq apart]
    apply List.forall₂_map_right_iff.mpr
    apply List.forall₂_same.mpr
    intro x hx
    use o.spellings x (ofPrograms o programs).graph, o.spells_fileOf x _
    intro s hs pair hpair
    rcases List.mem_append.mp hs with hs | hs
    · rcases List.mem_append.mp hs with hs | hs
      · apply exists_declares_of_mem_pairs apart (fun _ _ h => h) hs hpair
      · apply exists_declares_of_mem_pairs apart _ hs hpair
        intro provider name
        apply Providers.gives_of_gives_without
    · apply exists_declares_of_mem_pairs apart _ hs hpair
      intro provider name
      apply gives_of_gives_exported hx
  · intro f hf s hs pair hpair
    apply exists_declares_of_mem_typeFile apart hf hs hpair
  · intro f hf r d hfirst t ht target htarget hname
    obtain ⟨x, hx, rfl⟩ := List.mem_map.mp hfirst.mem
    use (ofPrograms o programs).graph.spelling (o.request x).path target.name
    use declares_of_mem_locals apart hx htarget
    apply exists_pair_of_mem_locals apart hf hfirst ht htarget hname
  · intro path name spelled other h hother
    rw [h.eq_spelling apart, hother.eq_spelling apart]

theorem declares_imports_users_accounts :
  HomesApart (Options.requests { language := .typescript } [Example.users, Example.accounts])
    ∧ ∃ f ∈ (ofPrograms { language := .typescript }
          [Example.users, Example.accounts]).graph.toTypeFiles .typescript {},
        f.path = "types/profile"
          ∧ ∃ spelled, Declares { language := .typescript } [Example.users, Example.accounts]
              "users.sdk" "Users" spelled
            ∧ ∃ s ∈ f.imports, s.path = Module.importPath .typescript f.path "users.sdk"
              ∧ (spelled, "Users") ∈ s.pairs
  := by
  have apart : HomesApart
      (Options.requests { language := .typescript } [Example.users, Example.accounts]) := by
    decide
  use apart
  have hfirst := Example.firstPlaces_profile
  obtain ⟨f, hf, hpath, -⟩ := (exists_mem_typeFiles_ofPrograms_iff { language := .typescript }
    [Example.users, Example.accounts] "types/profile" "Profile").mpr
      ⟨⟨Example.users, Example.usersClass⟩, List.mem_cons_self, Example.profile,
        Example.places_profile, rfl⟩
  use f, hf, hpath
  rw [← hpath] at hfirst
  apply (declares_imports _ _ apart).2.2.1 f hf _ _ hfirst _ (List.mem_singleton_self _) _
    Example.model_mem_locals
  decide

end Run

end ClientGen
