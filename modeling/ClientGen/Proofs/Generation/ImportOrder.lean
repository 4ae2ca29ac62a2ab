import ClientGen.Proofs.Generation.Imports
import ClientGen.Proofs.Module.Route
import ClientGen.Proofs.Resolution.Exports
import ClientGen.Proofs.Sorted
import Mathlib.Tactic.Use

/-!
# The order of imports

In TypeScript and in Dart, the paths by which a file imports other files increase, so there
is one statement for each of them, however many classes contribute to it. Different files
are imported by different paths, because a path leads to its file. The names that a
statement takes as they are increase as well: the names of a provider do, and where one of
them is spelled otherwise, it is taken under an alias.
-/

namespace ClientGen

/-- Import statements in increasing order of their paths, each with the names that it takes
as they are in increasing order. -/
structure Increasing (statements : List ImportStatement) : Prop where
  paths : statements.Pairwise fun s t => s.path < t.path
  names : ∀ s ∈ statements, (s.plain.map ImportedName.name).Pairwise (· < ·)

/-- Among statements with increasing paths no other one has the path of a statement. -/
theorem Increasing.eq_of_path_eq {statements : List ImportStatement}
    (h : Increasing statements) {s t : ImportStatement} (hs : s ∈ statements)
    (ht : t ∈ statements) (heq : s.path = t.path) :
  s = t
  := by
  have hnodup : (statements.map ImportStatement.path).Nodup := by
    apply Sorted.nodup_of_pairwise_lt
    apply List.pairwise_map.mpr h.paths
  apply List.inj_on_of_nodup_map hnodup hs ht heq

/-! ### Statements of a graph -/

/-- A statement takes as they are the names that are used under themselves. -/
theorem ImportStatement.names_plain_ofPairs (path : String)
    (pairs : List (String × String)) :
  (ofPairs path pairs).plain.map ImportedName.name
    = (pairs.filter fun pair => pair.1 = pair.2).map Prod.fst
  := by rw [ofPairs, map_mapLast, mapLast_const]

namespace ImportGraph

variable (g : ImportGraph) {lang : Language} (consumer : String)

/-- A file takes increasing names of a provider as they are in increasing order, if the
provider spells them as the programs do or otherwise than the file does. -/
theorem pairwise_names_plain_statement {provider : String} {names : List String}
    (h : names.Pairwise (· < ·))
    (hspelling : ∀ name ∈ names, g.spelling provider name = g.spelling consumer name →
      g.spelling provider name = name) :
  ((g.statement lang consumer provider names).plain.map ImportedName.name).Pairwise (· < ·)
  := by
  -- A name that is not respelled is its own spelling, so the plain names are names given.
  have hplain : (g.statement lang consumer provider names).plain.map ImportedName.name
      = names.filter fun name => g.spelling provider name = g.spelling consumer name := by
    rw [statement, ImportStatement.names_plain_ofPairs, List.filter_map, List.map_map]
    apply Eq.trans _ (List.map_id _)
    apply List.map_congr_left
    intro name hname
    obtain ⟨hmem, hsame⟩ := List.mem_filter.mp hname
    apply hspelling name hmem
    simpa using hsame
  rw [hplain]
  apply h.filter

/-- The statements of a file for providers at paths increase, if the providers spell their
names as the programs do or otherwise than the file does. -/
theorem increasing_statements (hlang : lang ≠ .python) {providers : Providers}
    (ordered : providers.Ordered) (filled : providers.Filled)
    (hpath : ∀ provider name, providers.Gives provider name → Module.IsPath provider)
    (hspelling : ∀ provider name, providers.Gives provider name →
      g.spelling provider name = g.spelling consumer name → g.spelling provider name = name) :
  Increasing (g.statements lang consumer providers)
  where
  paths := by
    have hkey : ∀ provider ∈ providers.map Prod.fst, Module.IsPath provider := by
      intro provider hprovider
      obtain ⟨p, hp, rfl⟩ := List.mem_map.mp hprovider
      obtain ⟨name, hname⟩ := List.exists_mem_of_ne_nil _ (filled p hp)
      apply hpath p.1 name ⟨p.2, hp, hname⟩
    -- The providers differ, and a path leads to no more than one of them, so the paths differ.
    have hpaths : ((providers.map Prod.fst).map (Module.importPath lang consumer)).Nodup := by
      apply ordered.keys.nodup_keys.map_on
      intro provider hprovider other hother
      apply Module.importPath_injOn hlang consumer (hkey _ hprovider) (hkey _ hother)
    apply Sorted.pairwise_mergeSort ImportStatement.path
    rw [List.map_map] at hpaths ⊢
    apply hpaths
  names := by
    intro s hs
    obtain ⟨provider, names, hmem, rfl⟩ := (mem_statements g consumer providers s).mp hs
    apply pairwise_names_plain_statement g consumer (ordered.names _ hmem)
    intro name hname
    apply hspelling provider name ⟨names, hmem, hname⟩

/-- If the statements of a file increase, there is exactly one for a provider. -/
theorem existsUnique_statement {providers : Providers}
    (h : Increasing (g.statements lang consumer providers)) {provider name : String}
    (hgives : providers.Gives provider name) :
  ∃! s, s ∈ g.statements lang consumer providers
    ∧ s.path = Module.importPath lang consumer provider
  := by
  obtain ⟨s, hs, hpath, -⟩ := (g.exists_mem_pairs_iff lang consumer providers _ _).mpr
    ⟨provider, name, hgives, rfl, rfl⟩
  use s, ⟨hs, hpath⟩
  rintro t ⟨ht, hpath'⟩
  apply h.eq_of_path_eq ht hs (hpath'.trans hpath.symm)

/-! ### The paths of files -/

/-- A declaration belongs to a file at a path, if the class that needs it has one. -/
theorem isPath_homeIn {classPath : String} (h : Module.IsPath classPath) (d : Declaration) :
  Module.IsPath (d.homeIn classPath)
  := by
  rw [DeclarationOf.homeIn]
  split
  case h_1 => apply h
  case h_2 home _ =>
    split
    case isTrue => apply h
    case isFalse hne => apply Module.isPath_normalize hne

/-- After classes with files at paths, files take names only from files at paths. -/
theorem isPath_of_gives_ofRequests {requests : List ClassRequest}
    (h : ∀ r ∈ requests, Module.IsPath r.path) {consumer provider name : String}
    (hgives : ((ofRequests lang requests).providersOf consumer).Gives provider name) :
  Module.IsPath provider
  := by
  obtain ⟨-, r, hr, target, -, rfl, -⟩ := exists_needed_of_gives_ofRequests hgives
  apply isPath_homeIn (h r hr)

end ImportGraph

/-! ### Files of a run -/

namespace Run

variable {o : Options} {programs : List Program}

/-- If the homes are apart, the file of a class takes names only from files that spell them
as the programs do. -/
theorem spelling_of_gives (apart : HomesApart (o.requests programs)) {x : Offer}
    (hx : x ∈ o.accepted programs) {provider name : String}
    (h : ((ofPrograms o programs).graph.providersOf (o.request x).path).Gives
      provider name) :
  (ofPrograms o programs).graph.spelling provider name = name
  := by
  rw [((gathers_ofPrograms o programs).agreesOn apart hx).providers] at h
  obtain ⟨hne, target, htarget, rfl, rfl⟩ := ClassRequest.exists_needed_of_gives_resolve h
  have hplaces := (ClassRequest.homeOf_eq_path_or_places htarget).resolve_left hne
  rw [graph_ofPrograms]
  apply ImportGraph.spelling_ofRequests_of_places apart (List.mem_map_of_mem hx) hplaces

/-- The statements of a file of a run increase, if the file takes the names from files at
paths that spell them as the programs do or otherwise than the file does. -/
theorem increasing_statements (hlang : o.language ≠ .python)
    (slashFree : ∀ x ∈ o.accepted programs, '/' ∉ x.remoteClass.name.toList)
    {consumer : String} {providers : Providers} (ordered : providers.Ordered)
    (filled : providers.Filled)
    (hproviders : ∀ provider name, providers.Gives provider name →
      ((ofPrograms o programs).graph.providersOf consumer).Gives provider name)
    (hspelling : ∀ provider name,
      ((ofPrograms o programs).graph.providersOf consumer).Gives provider name →
      (ofPrograms o programs).graph.spelling provider name
        = (ofPrograms o programs).graph.spelling consumer name →
      (ofPrograms o programs).graph.spelling provider name = name) :
  Increasing ((ofPrograms o programs).graph.statements o.language consumer providers)
  := by
  apply ImportGraph.increasing_statements _ _ hlang ordered filled
  · intro provider name hgives
    have hgiven := hproviders provider name hgives
    rw [graph_ofPrograms] at hgiven
    apply ImportGraph.isPath_of_gives_ofRequests _ hgiven
    intro r hr
    obtain ⟨x, hx, rfl⟩ := List.mem_map.mp hr
    apply Module.isPath_proxyModule (slashFree x hx)
  · intro provider name hgives
    apply hspelling provider name (hproviders provider name hgives)

/-- In TypeScript and in Dart the import statements of each file of a run increase, if no
class is called by a text with a slash and the homes are apart. Those of the file of a class
for signatures alone and those that export again increase as well. For each file that a file
takes something from there is exactly one statement. -/
theorem increasing_imports (o : Options) (programs : List Program)
    (hlang : o.language ≠ .python)
    (slashFree : ∀ x ∈ o.accepted programs, '/' ∉ x.remoteClass.name.toList)
    (apart : HomesApart (o.requests programs)) :
  (∀ f ∈ (ofPrograms o programs).classFiles,
      Increasing f.imports ∧ Increasing f.annotationImports ∧ Increasing f.reexports
        ∧ ∀ provider name,
          ((ofPrograms o programs).graph.providersOf f.path).Gives provider name →
          ∃! s, s ∈ f.imports ∧ s.path = Module.importPath o.language f.path provider)
    ∧ ∀ f ∈ (ofPrograms o programs).graph.toTypeFiles o.language o.package,
      Increasing f.imports
        ∧ ∀ provider name,
          ((ofPrograms o programs).graph.providersOf f.path).Gives provider name →
          ∃! s, s ∈ f.imports ∧ s.path = Module.importPath o.language f.path provider
  := by
  have hordered := ImportGraph.ordered_providersOf_ofRequests o.language (o.requests programs)
  have hfilled := ImportGraph.filled_providersOf_ofRequests o.language (o.requests programs)
  rw [← graph_ofPrograms] at hordered hfilled
  constructor
  · rw [(gathers_ofPrograms o programs).classFiles_eq apart]
    intro f hf
    obtain ⟨x, hx, rfl⟩ := List.mem_map.mp hf
    have himports : Increasing (o.fileOf x (ofPrograms o programs).graph).imports := by
      apply increasing_statements hlang slashFree (hordered _) (hfilled _) fun _ _ h => h
      intro provider name hgives hsame
      apply spelling_of_gives apart hx hgives
    and_intros
    · apply himports
    · apply increasing_statements hlang slashFree ((hordered _).without _)
        (Providers.filled_without _ _) fun _ _ => Providers.gives_of_gives_without
      intro provider name hgives hsame
      apply spelling_of_gives apart hx hgives
    · apply increasing_statements hlang slashFree (o.request x).ordered_exported
        (Providers.filled_nil.addAll _) fun _ _ => gives_of_gives_exported hx
      intro provider name hgives hsame
      apply spelling_of_gives apart hx hgives
    · intro provider name
      apply ImportGraph.existsUnique_statement _ _ himports
  · intro f hf
    rw [ImportGraph.imports_of_mem_toTypeFiles hf]
    have himports : Increasing
        ((ofPrograms o programs).graph.importsOf o.language f.path) := by
      apply increasing_statements hlang slashFree (hordered _) (hfilled _) fun _ _ h => h
      intro provider name hgives hsame
      rw [hsame, spelling_of_mem_toTypeFiles apart hf]
    use himports
    intro provider name
    apply ImportGraph.existsUnique_statement _ _ himports

theorem increasing_imports_users_accounts :
  (Language.typescript ≠ .python
      ∧ (∀ x ∈ Options.accepted { language := .typescript }
          [Example.users, Example.accounts], '/' ∉ x.remoteClass.name.toList)
      ∧ HomesApart
        (Options.requests { language := .typescript } [Example.users, Example.accounts]))
    ∧ ∀ f ∈ (ofPrograms { language := .typescript }
        [Example.users, Example.accounts]).classFiles, Increasing f.imports
  := by
  have slashFree : ∀ x ∈ Options.accepted { language := .typescript }
      [Example.users, Example.accounts], '/' ∉ x.remoteClass.name.toList := by
    rw [Example.accepted_users_accounts]
    decide
  have apart : HomesApart
      (Options.requests { language := .typescript } [Example.users, Example.accounts]) := by
    decide
  use ⟨by decide, slashFree, apart⟩
  intro f hf
  apply ((increasing_imports _ _ (by decide) slashFree apart).1 f hf).1

end Run

end ClientGen
