import ClientGen.Proofs.Resolution.Sequence
import Mathlib.Data.List.Nodup
import Mathlib.Data.List.Pairwise
import Mathlib.Data.List.Perm.Basic

/-!
# The names that a file takes

The names that the import statements of a file bind are the names of its providers, as the
file spells them. The names of each provider increase, and so do the providers, so the only
way for a name to be taken twice is that two providers give it.
-/

namespace ClientGen

/-! ### Ordered providers -/

namespace Providers

/-- The providers increase, and so do the names of each of them. -/
structure Ordered (providers : Providers) : Prop where
  keys : Sorted.Ascending providers
  names : ∀ p ∈ providers, p.2.Pairwise (· < ·)

theorem ordered_nil :
  Ordered []
  where
  keys := Sorted.ascending_nil
  names _ h := nomatch h

/-- To add a name keeps the order. -/
theorem Ordered.add {providers : Providers} (h : providers.Ordered)
    (added given : String) :
  (providers.add added given).Ordered
  where
  keys := h.keys.modify
  names := by
    rintro ⟨provider, names⟩ hmem
    have hlookup := (h.keys.modify.mem_iff_lookup _ _).mp hmem
    rw [h.keys.lookup_modify] at hlookup
    split at hlookup
    case isTrue =>
      obtain rfl := Option.some.inj hlookup
      apply Sorted.pairwise_insert
      cases hold : List.lookup added providers with
      | none => apply List.Pairwise.nil
      | some old => apply h.names _ ((h.keys.mem_iff_lookup _ _).mpr hold)
    case isFalse => apply h.names _ ((h.keys.mem_iff_lookup _ _).mpr hlookup)

theorem Ordered.addAll {providers : Providers} (h : providers.Ordered)
    (edges : List Edge) :
  (providers.addAll edges).Ordered
  := by
  induction edges generalizing providers with
  | nil => apply h
  | cons e edges ih => apply ih (h.add e.provider e.name)

/-- To take the names of others away keeps the order. -/
theorem Ordered.without {providers : Providers} (h : providers.Ordered)
    (others : Providers) :
  (providers.without others).Ordered
  where
  keys := by
    apply List.Pairwise.filter
    apply List.pairwise_map.mpr
    apply h.keys
  names := by
    rintro p hmem
    obtain ⟨⟨provider, names⟩, hp, rfl⟩ := List.mem_map.mp (List.mem_filter.mp hmem).1
    apply (h.names _ hp).filter

/-- Each provider gives some name. -/
def Filled (providers : Providers) : Prop :=
  ∀ p ∈ providers, p.2 ≠ []

theorem Filled.add {providers : Providers} (h : providers.Filled) (added given : String) :
  (providers.add added given).Filled
  := by
  intro p hp
  rcases Sorted.eq_or_mem_of_mem_modify hp with ⟨names, rfl⟩ | hp
  · apply List.ne_nil_of_mem ((Sorted.mem_insert given given _).mpr (Or.inl rfl))
  · apply h p hp

theorem Filled.addAll {providers : Providers} (h : providers.Filled) (edges : List Edge) :
  (providers.addAll edges).Filled
  := by
  induction edges generalizing providers with
  | nil => apply h
  | cons e edges ih => apply ih (h.add e.provider e.name)

theorem filled_nil :
  Filled []
  := by
  intro p hp
  cases hp

theorem filled_without (providers others : Providers) :
  (providers.without others).Filled
  := by
  intro p hp
  have := (List.mem_filter.mp hp).2
  simpa using this

/-- The names that are left when those of others are taken away are not given by them. -/
theorem not_gives_of_gives_without {providers others : Providers} (h : others.Ordered)
    {provider name : String} (hgives : (providers.without others).Gives provider name) :
  ¬ others.Gives provider name
  := by
  rintro ⟨given, hgiven, hname⟩
  obtain ⟨names, hmem, hleft⟩ := hgives
  obtain ⟨⟨_, all⟩, -, heq⟩ := List.mem_map.mp (List.mem_filter.mp hmem).1
  obtain ⟨rfl, rfl⟩ := Prod.mk.inj heq
  have hlookup := (h.keys.mem_iff_lookup _ _).mp hgiven
  have hothers := (List.mem_filter.mp hleft).2
  rw [namesOf, hlookup] at hothers
  simp [hname] at hothers

/-! ### All names -/

/-- The names of all providers, each with the provider that gives it. -/
def pairs (providers : Providers) : List (String × String) :=
  providers.flatMap fun p => p.2.map fun name => (p.1, name)

theorem mem_pairs (providers : Providers) (provider name : String) :
  (provider, name) ∈ providers.pairs ↔ providers.Gives provider name
  := by
  simp only [pairs, List.mem_flatMap, List.mem_map, Prod.mk.injEq, Gives, Prod.exists]
  grind

/-- No provider gives a name twice. -/
theorem Ordered.nodup_pairs {providers : Providers} (h : providers.Ordered) :
  providers.pairs.Nodup
  := by
  apply List.nodup_flatMap.mpr
  constructor
  · intro p hp
    apply (Sorted.nodup_of_pairwise_lt (h.names p hp)).map
    intro name other heq
    apply (Prod.mk.inj heq).2
  · apply h.keys.imp
    intro p q hlt pair hp hq
    obtain ⟨name, -, rfl⟩ := List.mem_map.mp hp
    obtain ⟨other, -, heq⟩ := List.mem_map.mp hq
    rw [(Prod.mk.inj heq).1] at hlt
    apply String.lt_irrefl p.1 hlt

/-- The names of all providers. -/
def names (providers : Providers) : List String :=
  providers.flatMap Prod.snd

theorem map_snd_pairs (providers : Providers) :
  providers.pairs.map Prod.snd = providers.names
  := by
  rw [pairs, List.map_flatMap]
  simp [names, Function.comp_def]

theorem mem_names (providers : Providers) (name : String) :
  name ∈ providers.names ↔ ∃ provider, providers.Gives provider name
  := by
  simp only [names, List.mem_flatMap, Gives, Prod.exists]

/-- A name is there twice only if two providers give it. -/
theorem Ordered.nodup_names_iff {providers : Providers} (h : providers.Ordered) :
  providers.names.Nodup
    ↔ ∀ provider other name, providers.Gives provider name → providers.Gives other name →
        provider = other
  := by
  have heach : ∀ p ∈ providers, p.2.Nodup := by
    intro p hp
    apply Sorted.nodup_of_pairwise_lt (h.names p hp)
  rw [Providers.names, List.nodup_flatMap, and_iff_right heach]
  constructor
  · rintro hdisjoint provider other name ⟨names, hmem, hname⟩ ⟨names', hmem', hname'⟩
    have : Std.Symm (Function.onFun List.Disjoint (Prod.snd : String × List String → _)) :=
      ⟨fun _ _ h _ hname hname' => h hname' hname⟩
    by_contra hne
    apply hdisjoint.forall hmem hmem' _ hname hname'
    simp [hne]
  · intro hone
    apply h.keys.imp_of_mem
    rintro ⟨provider, names⟩ ⟨other, names'⟩ hmem hmem' hlt name hname hname'
    obtain rfl := hone provider other name ⟨names, hmem, hname⟩ ⟨names', hmem', hname'⟩
    apply String.lt_irrefl provider hlt

end Providers

/-- After classes, one after the other, what each file takes is ordered. -/
theorem ImportGraph.ordered_providersOf_ofRequests (lang : Language)
    (requests : List ClassRequest) (consumer : String) :
  ((ofRequests lang requests).providersOf consumer).Ordered
  := by
  induction requests using List.reverseRecOn with
  | nil => apply Providers.ordered_nil
  | append_singleton requests r ih =>
    rw [ofRequests_append_singleton,
      ClassRequest.providersOf_resolve (wellFormed_ofRequests lang requests)]
    apply ih.addAll

theorem ImportGraph.filled_providersOf_ofRequests (lang : Language)
    (requests : List ClassRequest) (consumer : String) :
  ((ofRequests lang requests).providersOf consumer).Filled
  := by
  induction requests using List.reverseRecOn with
  | nil => apply Providers.filled_nil
  | append_singleton requests r ih =>
    rw [ofRequests_append_singleton,
      ClassRequest.providersOf_resolve (wellFormed_ofRequests lang requests)]
    apply ih.addAll

/-! ### Bound names -/

/-- What import statements take: how a statement names the module, the name that is declared
there, and the name under which it is used. -/
def takenBy (statements : List ImportStatement) : List (String × String × String) :=
  statements.flatMap fun s => s.pairs.map fun pair => (s.path, pair)

/-- The names that import statements bind. -/
def localNames (statements : List ImportStatement) : List String :=
  statements.flatMap fun s => s.pairs.map Prod.snd

theorem map_localName_takenBy (statements : List ImportStatement) :
  (takenBy statements).map (fun taken => taken.2.2) = localNames statements
  := by
  rw [takenBy, List.map_flatMap]
  simp only [List.map_map]
  rfl

/-- A statement takes first the pairs with one name, then the others. -/
theorem ImportStatement.pairs_ofPairs (path : String) (taken : List (String × String)) :
  (ofPairs path taken).pairs
    = taken.filter (fun pair => pair.1 = pair.2)
      ++ taken.filter (fun pair => !decide (pair.1 = pair.2))
  := by
  simp only [pairs, ofPairs, map_mapLast, mapLast_const]
  congr 1
  · apply Eq.trans _ (List.map_id _)
    apply List.map_congr_left
    rintro ⟨name, localName⟩ hpair
    simpa using (List.mem_filter.mp hpair).2
  · simp

/-- A statement takes the pairs that it is made of, the plain ones first. -/
theorem ImportStatement.perm_pairs_ofPairs (path : String)
    (taken : List (String × String)) :
  (ofPairs path taken).pairs.Perm taken
  := by
  rw [pairs_ofPairs]
  apply List.filter_append_perm

/-- How a file takes a name from a provider: how it names the provider, and how the provider
and the file itself spell the name. -/
def ImportGraph.taken (g : ImportGraph) (lang : Language) (consumer : String)
    (pair : String × String) : String × String × String :=
  (Module.importPath lang consumer pair.1, g.spelling pair.1 pair.2,
    g.spelling consumer pair.2)

/-- The statements of a file take the names of its providers, each once for each provider
that gives it. -/
theorem ImportGraph.perm_takenBy_statements (lang : Language) (g : ImportGraph)
    (consumer : String) (providers : Providers) :
  (takenBy (g.statements lang consumer providers)).Perm
    (providers.pairs.map (g.taken lang consumer))
  := by
  have hstatements : (takenBy (providers.map fun p => g.statement lang consumer p.1 p.2)).Perm
      (providers.flatMap fun p => p.2.map fun name => g.taken lang consumer (p.1, name)) := by
    rw [takenBy, List.flatMap_map]
    apply List.Perm.flatMap_left
    rintro ⟨provider, names⟩ -
    have hpairs := (ImportStatement.perm_pairs_ofPairs
      (Module.importPath lang consumer provider)
      (names.map fun name => (g.spelling provider name, g.spelling consumer name))).map
        fun pair => (Module.importPath lang consumer provider, pair)
    rw [List.map_map] at hpairs
    apply hpairs
  rw [Providers.pairs, List.map_flatMap]
  simp only [List.map_map]
  apply List.Perm.trans _ hstatements
  apply (List.mergeSort_perm _ _).flatMap_right

/-- The statements of a file bind the names of its providers, as the file spells them. -/
theorem ImportGraph.perm_localNames_statements (lang : Language) (g : ImportGraph)
    (consumer : String) (providers : Providers) :
  (localNames (g.statements lang consumer providers)).Perm
    (providers.names.map (g.spelling consumer))
  := by
  have htaken := (g.perm_takenBy_statements lang consumer providers).map
    fun taken => taken.2.2
  rw [map_localName_takenBy, List.map_map] at htaken
  rw [← Providers.map_snd_pairs, List.map_map]
  apply htaken

/-! ### The scope of the file of a class -/

namespace ClassRequest

variable {r : ClassRequest} {lang : Language}

theorem mem_scope (g : ImportGraph) (name : String) :
  name ∈ r.scope g
    ↔ name ∈ r.locals.map DeclarationOf.name ∨ name ∈ (g.providersOf r.path).names
  := by
  rw [scope, Sorted.mem_ofTexts, List.mem_append]
  rfl

/-- After a class, its file gives new names to those in its scope that are in the way. -/
theorem spelling_resolve {g : ImportGraph} (h : g.WellFormed) (name : String) :
  (r.resolve lang g).spelling r.path name
    = (Fresh.classRenames r.className (r.scope (r.resolve lang g))).apply name
  := by
  rw [ImportGraph.spelling, lookup_renames_resolve h, if_pos rfl]
  rfl

/-- Needed declarations with one name are one declaration. -/
theorem eq_of_mem_needed_of_name_eq {d e : Declaration} (hd : d ∈ r.needed)
    (he : e ∈ r.needed) (heq : d.name = e.name) :
  d = e
  := by
  have hd := ((Program.mem_needed d).mp hd).2
  have he := ((Program.mem_needed e).mp he).2
  rw [heq] at hd
  apply Option.some.inj (hd.symm.trans he)

theorem nodup_name_locals (r : ClassRequest) :
  (r.locals.map DeclarationOf.name).Nodup
  := by
  have hsublist : (r.locals.map DeclarationOf.name).Sublist
      (r.needed.map DeclarationOf.name) := List.filter_sublist.map _
  apply List.Pairwise.sublist hsublist
  apply Program.nodup_name_needed

/-- After a class alone, its file takes from another file what the class needs and what
belongs to that file. -/
theorem exists_needed_of_gives_resolve {consumer provider name : String}
    (h : ((r.resolve lang {}).providersOf consumer).Gives provider name) :
  provider ≠ consumer
    ∧ ∃ target ∈ r.needed, provider = r.homeOf target ∧ name = target.name
  := by
  have halone : ((ImportGraph.ofRequests lang [r]).providersOf consumer).Gives provider name := h
  obtain ⟨hne, _, hr, htarget⟩ := ImportGraph.exists_needed_of_gives_ofRequests halone
  obtain rfl := List.mem_singleton.mp hr
  exact ⟨hne, htarget⟩

/-- After a class alone, no name is taken from two files. -/
theorem nodup_names_resolve (r : ClassRequest) (lang : Language) (consumer : String) :
  ((r.resolve lang {}).providersOf consumer).names.Nodup
  := by
  have hordered := ImportGraph.ordered_providersOf_ofRequests lang [r] consumer
  apply hordered.nodup_names_iff.mpr
  intro provider other name hgives hgives'
  obtain ⟨-, target, htarget, rfl, rfl⟩ := exists_needed_of_gives_resolve hgives
  obtain ⟨-, target', htarget', rfl, heq⟩ := exists_needed_of_gives_resolve hgives'
  rw [eq_of_mem_needed_of_name_eq htarget htarget' heq]

/-- After a class alone, its file takes no name that it declares. -/
theorem disjoint_name_locals_names_resolve (r : ClassRequest) (lang : Language) :
  (r.locals.map DeclarationOf.name).Disjoint
    ((r.resolve lang {}).providersOf r.path).names
  := by
  intro name hlocal hname
  obtain ⟨d, hd, rfl⟩ := List.mem_map.mp hlocal
  obtain ⟨hneeded, hhome⟩ := (mem_locals d).mp hd
  obtain ⟨provider, hgives⟩ := (Providers.mem_names _ _).mp hname
  obtain ⟨hne, target, htarget, rfl, heq⟩ := exists_needed_of_gives_resolve hgives
  obtain rfl := eq_of_mem_needed_of_name_eq hneeded htarget heq
  apply hne hhome

/-- What the file of a class exports again it also takes, after any classes among which the
class is. -/
theorem gives_ofRequests_of_gives_exported {requests : List ClassRequest}
    (hr : r ∈ requests) {provider name : String} (h : r.exported.Gives provider name) :
  ((ImportGraph.ofRequests lang requests).providersOf r.path).Gives provider name
  := by
  apply ImportGraph.gives_ofRequests_of_mem_edges hr
  intro g
  apply (mem_edges _).mpr
  left
  apply (gives_exported provider name).mp h

theorem gives_resolve_of_gives_exported {provider name : String}
    (h : r.exported.Gives provider name) :
  ((r.resolve lang {}).providersOf r.path).Gives provider name
  := gives_ofRequests_of_gives_exported (List.mem_singleton_self r) h

/-- After a class alone, what its file takes for signatures alone and what it exports again
are different names, and it takes all of them. -/
theorem nodup_names_without_exported (r : ClassRequest) (lang : Language) :
  ((((r.resolve lang {}).providersOf r.path).without r.exported).names
      ++ r.exported.names).Nodup
    ∧ (((r.resolve lang {}).providersOf r.path).without r.exported).names ++ r.exported.names
      ⊆ ((r.resolve lang {}).providersOf r.path).names
  := by
  have hordered := ImportGraph.ordered_providersOf_ofRequests lang [r] r.path
  have hexported : r.exported.Ordered := Providers.ordered_nil.addAll r.signatureEdges
  have hone := hordered.nodup_names_iff.mp (nodup_names_resolve r lang r.path)
  constructor
  · apply List.nodup_append'.mpr
    and_intros
    · apply (hordered.without _).nodup_names_iff.mpr
      intro provider other name hgives hgives'
      apply hone _ _ _ (Providers.gives_of_gives_without hgives)
        (Providers.gives_of_gives_without hgives')
    · apply hexported.nodup_names_iff.mpr
      intro provider other name hgives hgives'
      apply hone _ _ _ (gives_resolve_of_gives_exported hgives)
        (gives_resolve_of_gives_exported hgives')
    · intro name hname hname'
      obtain ⟨provider, hgives⟩ := (Providers.mem_names _ _).mp hname
      obtain ⟨other, hgives'⟩ := (Providers.mem_names _ _).mp hname'
      obtain rfl := hone _ _ _ (Providers.gives_of_gives_without hgives)
        (gives_resolve_of_gives_exported hgives')
      apply Providers.not_gives_of_gives_without hexported hgives hgives'
  · intro name hname
    apply (Providers.mem_names _ _).mpr
    rcases List.mem_append.mp hname with hname | hname
    · obtain ⟨provider, hgives⟩ := (Providers.mem_names _ _).mp hname
      exact ⟨provider, Providers.gives_of_gives_without hgives⟩
    · obtain ⟨provider, hgives⟩ := (Providers.mem_names _ _).mp hname
      exact ⟨provider, gives_resolve_of_gives_exported hgives⟩

end ClassRequest

/-! ### The scope of a file of types -/

/-- In the file of types at a path a name stands for a declaration that belongs to the file
at `home`: a class was the first to put a declaration of the name there, or the definition
of such a declaration refers to it. -/
inductive StandsFor (requests : List ClassRequest) (path : String) :
    String → String → Prop where
  | declared {r : ClassRequest} {d : Declaration} :
      FirstPlaces requests path r d → StandsFor requests path d.name path
  | referenced {r : ClassRequest} {d target : Declaration} {t : TypeNode} :
      FirstPlaces requests path r d → t ∈ d.innerTypes →
      target.name ∈ t.referencedNames →
      r.program.declaration? target.name = some target →
      StandsFor requests path target.name (r.homeOf target)

/-- What a name stands for is what the program of some class declares under it. -/
theorem StandsFor.exists_declaration {requests : List ClassRequest}
    {path name home : String} (h : StandsFor requests path name home) :
  ∃ r ∈ requests, ∃ d, r.program.declaration? name = some d ∧ home = r.homeOf d
  := by
  cases h with
  | declared hfirst =>
    exact ⟨_, hfirst.mem, _, hfirst.places.declared, hfirst.places.homeOf_eq.symm⟩
  | referenced hfirst _ _ htarget => exact ⟨_, hfirst.mem, _, htarget, rfl⟩

/-- With one class, a name stands for one declaration. -/
theorem StandsFor.eq_of_singleton {r : ClassRequest} {path name home other : String}
    (h : StandsFor [r] path name home) (hother : StandsFor [r] path name other) :
  home = other
  := by
  obtain ⟨q, hq, d, hd, rfl⟩ := h.exists_declaration
  obtain ⟨q', hq', d', hd', rfl⟩ := hother.exists_declaration
  obtain rfl := List.mem_singleton.mp hq
  obtain rfl := List.mem_singleton.mp hq'
  obtain rfl := Option.some.inj (hd.symm.trans hd')
  rfl

section

variable {requests : List ClassRequest} {lang : Language} {path : String}

/-- A file of types declares a name exactly when the name stands for a declaration that
belongs to the file. -/
theorem declares_ofRequests_iff_standsFor (name : String) :
  (ImportGraph.ofRequests lang requests).declares path name
    ↔ StandsFor requests path name path
  := by
  constructor
  · intro h
    obtain ⟨s, hs, rfl⟩ := ImportGraph.declares_iff.mp h
    obtain ⟨r, d, hfirst, rfl⟩ :=
      (ImportGraph.mem_declarationsOf_ofRequests requests path s).mp hs
    rw [name_spellDeclaration, Renames.apply_nil]
    apply StandsFor.declared hfirst
  · intro h
    rw [ImportGraph.declares_ofRequests]
    generalize hhome : path = home at h
    cases h with
    | @declared r d hfirst => exact ⟨r, hfirst.mem, d, hhome ▸ hfirst.places, rfl⟩
    | @referenced r d target t hfirst ht hname htarget =>
      have hneeded :=
        Program.mem_needed_of_mem_innerTypes hfirst.places.mem_needed ht hname htarget
      rcases ClassRequest.homeOf_eq_path_or_places hneeded with hlocal | hplaces
      · apply absurd hlocal hfirst.places.foreign
      · exact ⟨r, hfirst.mem, target, hplaces, rfl⟩

/-- A file of types that is not that of a class takes a name from another file exactly when
the name stands for a declaration that belongs to that file. -/
theorem gives_ofRequests_iff_standsFor (foreign : ∀ r ∈ requests, path ≠ r.path)
    (provider name : String) :
  ((ImportGraph.ofRequests lang requests).providersOf path).Gives provider name
    ↔ provider ≠ path ∧ StandsFor requests path name provider
  := by
  constructor
  · intro h
    use (ImportGraph.exists_needed_of_gives_ofRequests h).1
    obtain ⟨earlier, r, hprefix, hedge⟩ := (ImportGraph.gives_ofRequests _ _ _ _).mp h
    have hr : r ∈ requests := hprefix.mem (by simp)
    rcases (ClassRequest.mem_edges _).mp hedge with hedge | ⟨d, hd, hedge⟩
    · apply absurd (ClassRequest.consumer_of_mem_signatureEdges hedge) (foreign r hr)
    · obtain ⟨t, ht, name', hname, target, htarget, -, heq⟩ :=
        (ClassRequest.mem_definitionEdges d _).mp hedge
      obtain ⟨rfl, rfl, rfl⟩ := Edge.mk.inj heq
      obtain rfl := Program.name_of_declaration? htarget
      obtain ⟨hneeded, hnew⟩ := (ClassRequest.mem_placed d).mp hd
      have hnew := hnew.resolve_left (foreign r hr)
      have hplaces := (ClassRequest.homeOf_eq_path_or_places hneeded).resolve_left
        (foreign r hr)
      rw [ImportGraph.declares_ofRequests] at hnew
      apply StandsFor.referenced _ ht hname htarget
      use earlier, hprefix, hplaces
      intro q hq e he heq
      apply hnew
      exact ⟨q, hq, e, he, heq⟩
  · rintro ⟨hne, h⟩
    cases h with
    | declared => apply absurd rfl hne
    | referenced hfirst ht hname htarget =>
      rcases ImportGraph.declares_or_gives_of_firstPlaces hfirst ht hname htarget with
        hplaces | ⟨-, hgives⟩
      · apply absurd hplaces.homeOf_eq hne
      · apply hgives

/-- In a file of types that is not that of a class, a name stands for something declared
there, or for something that the file takes. -/
theorem standsFor_iff (lang : Language) (foreign : ∀ r ∈ requests, path ≠ r.path)
    (name home : String) :
  StandsFor requests path name home
    ↔ home = path ∧ (ImportGraph.ofRequests lang requests).declares path name
      ∨ ((ImportGraph.ofRequests lang requests).providersOf path).Gives home name
  := by
  rw [gives_ofRequests_iff_standsFor foreign, declares_ofRequests_iff_standsFor]
  constructor
  · intro h
    by_cases hhome : home = path
    · left
      use hhome
      rw [hhome] at h
      apply h
    · right
      exact ⟨hhome, h⟩
  · rintro (⟨rfl, h⟩ | ⟨-, h⟩)
    · apply h
    · apply h

/-- The names that a file of types declares and those that it takes are different from each
other exactly when no name stands for declarations that belong to different files. -/
theorem nodup_names_ofRequests_iff (foreign : ∀ r ∈ requests, path ≠ r.path) :
  (((ImportGraph.ofRequests lang requests).declarationsOf path).map SpelledDeclaration.name
      ++ ((ImportGraph.ofRequests lang requests).providersOf path).names).Nodup
    ↔ ∀ name home other, StandsFor requests path name home →
        StandsFor requests path name other → home = other
  := by
  have hordered := ImportGraph.ordered_providersOf_ofRequests lang requests path
  have hdeclared : (((ImportGraph.ofRequests lang requests).declarationsOf path).map
      SpelledDeclaration.name).Nodup :=
    ImportGraph.nodup_name_declarationsOf_ofRequests requests path
  have hdeclares : ∀ name,
      name ∈ ((ImportGraph.ofRequests lang requests).declarationsOf path).map
          SpelledDeclaration.name
        ↔ (ImportGraph.ofRequests lang requests).declares path name := by
    intro name
    rw [ImportGraph.declares_iff, List.mem_map]
  rw [List.nodup_append', and_iff_right hdeclared, hordered.nodup_names_iff]
  simp only [standsFor_iff lang foreign]
  constructor
  · rintro ⟨hgives, hdisjoint⟩ name home other h hother
    have habsurd : ∀ provider,
        (ImportGraph.ofRequests lang requests).declares path name →
        ¬ ((ImportGraph.ofRequests lang requests).providersOf path).Gives provider name := by
      intro provider hname hprovider
      apply hdisjoint ((hdeclares name).mpr hname)
      apply (Providers.mem_names _ _).mpr ⟨provider, hprovider⟩
    rcases h with ⟨rfl, h⟩ | h
    · rcases hother with ⟨rfl, -⟩ | hother
      · rfl
      · apply absurd hother (habsurd _ h)
    · rcases hother with ⟨rfl, hother⟩ | hother
      · apply absurd h (habsurd _ hother)
      · apply hgives home other name h hother
  · intro hone
    constructor
    · intro home other name h hother
      apply hone name home other (Or.inr h) (Or.inr hother)
    · intro name hname htaken
      obtain ⟨provider, hprovider⟩ := (Providers.mem_names _ _).mp htaken
      have hgives := (gives_ofRequests_iff_standsFor foreign provider name).mp hprovider
      apply hgives.1
      apply hone name provider path (Or.inr hprovider)
      left
      exact ⟨rfl, (hdeclares name).mp hname⟩

end

end ClientGen
