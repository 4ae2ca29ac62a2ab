import ClientGen.Proofs.Sorted
import ClientGen.Resolution.Graph
import Mathlib.Tactic.Use

/-!
# Graphs of imports

What a graph tells of a file after an edge, after a declaration in a file of types and
after the spellings of a file of a class, for one such step and for many. The names that
a file takes are those of the edges that start at it, its declarations are those that
were made in it, and the files of types are the files in which something was declared.
-/

namespace ClientGen

@[simp]
theorem Renames.apply_nil (name : String) :
  Renames.apply [] name = name
  := rfl

/-! ### Names that are taken -/

namespace Providers

/-- The file at `provider` is among the providers, with `name` among its names. -/
def Gives (providers : Providers) (provider name : String) : Prop :=
  ∃ names, (provider, names) ∈ providers ∧ name ∈ names

theorem not_gives_nil (provider name : String) :
  ¬ Gives [] provider name
  := by
  rintro ⟨names, h, -⟩
  cases h

theorem gives_cons (p : String × List String) (providers : Providers)
    (provider name : String) :
  Gives (p :: providers) provider name
    ↔ (p.1 = provider ∧ name ∈ p.2) ∨ Gives providers provider name
  := by
  constructor
  · rintro ⟨names, h, hname⟩
    rcases List.mem_cons.mp h with rfl | h
    · left
      exact ⟨rfl, hname⟩
    · right
      exact ⟨names, h, hname⟩
  · rintro (⟨rfl, hname⟩ | ⟨names, h, hname⟩)
    · exact ⟨p.2, List.mem_cons_self, hname⟩
    · exact ⟨names, List.mem_cons_of_mem _ h, hname⟩

/-- To add a name of a provider adds just that. -/
theorem gives_add (providers : Providers) (added given provider name : String) :
  (providers.add added given).Gives provider name
    ↔ (provider = added ∧ name = given) ∨ providers.Gives provider name
  := by
  rw [add]
  fun_induction Sorted.modify added (fun names => Sorted.insert given (names.getD []))
      providers with
  | case1 => simp [gives_cons, not_gives_nil, Sorted.insert, eq_comm]
  | case2 k names rest hlt => simp [gives_cons, Sorted.insert, eq_comm]
  | case3 names rest hlt =>
    simp only [gives_cons, Option.getD_some, Sorted.mem_insert]
    grind
  | case4 k names rest hlt hne ih =>
    rw [gives_cons, gives_cons, ih]
    grind

/-- The providers with the names of edges. -/
def addAll (providers : Providers) (edges : List Edge) : Providers :=
  edges.foldl (fun providers e => providers.add e.provider e.name) providers

theorem gives_addAll (providers : Providers) (edges : List Edge) (provider name : String) :
  (providers.addAll edges).Gives provider name
    ↔ (∃ e ∈ edges, e.provider = provider ∧ e.name = name) ∨ providers.Gives provider name
  := by
  induction edges generalizing providers with
  | nil => simp [addAll]
  | cons e edges ih =>
    have := ih (providers.add e.provider e.name)
    rw [gives_add] at this
    rw [addAll, List.foldl_cons]
    apply Iff.trans this
    simp only [List.mem_cons]
    grind

/-- The names that are left when those of others are taken away were there before. -/
theorem gives_of_gives_without {providers others : Providers} {provider name : String}
    (h : (providers.without others).Gives provider name) :
  providers.Gives provider name
  := by
  obtain ⟨names, hmem, hname⟩ := h
  obtain ⟨⟨_, all⟩, hall, heq⟩ := List.mem_map.mp (List.mem_filter.mp hmem).1
  obtain ⟨rfl, rfl⟩ := Prod.mk.inj heq
  exact ⟨all, hall, (List.mem_filter.mp hname).1⟩

theorem gives_of_contains_namesOf {providers : Providers} {provider name : String}
    (h : (providers.namesOf provider).contains name) :
  providers.Gives provider name
  := by
  rw [namesOf] at h
  cases hlookup : providers.lookup provider with
  | none => simp [hlookup] at h
  | some names =>
    rw [hlookup] at h
    use names
    constructor
    · obtain ⟨before, after, rfl, -⟩ := List.lookup_eq_some_iff.mp hlookup
      simp
    · simpa using h

/-- A name is left when those of others are taken away, or the others give it. -/
theorem gives_without_or_gives {providers : Providers} {provider name : String}
    (h : providers.Gives provider name) (others : Providers) :
  (providers.without others).Gives provider name ∨ others.Gives provider name
  := by
  obtain ⟨names, hmem, hname⟩ := h
  by_cases hothers : (others.namesOf provider).contains name
  · right
    apply gives_of_contains_namesOf hothers
  · left
    have hleft : name ∈ names.filter fun name => !(others.namesOf provider).contains name := by
      apply List.mem_filter.mpr
      use hname
      simpa using hothers
    use names.filter fun name => !(others.namesOf provider).contains name
    constructor
    · apply List.mem_filter.mpr
      constructor
      · apply List.mem_map.mpr
        use (provider, names), hmem
      · simpa using List.ne_nil_of_mem hleft
    · apply hleft

end Providers

/-! ### Import statements -/

/-- A statement takes the pairs that it is made of. -/
theorem ImportStatement.mem_pairs_ofPairs
    (path : String) (taken : List (String × String)) (pair : String × String) :
  pair ∈ (ofPairs path taken).pairs ↔ pair ∈ taken
  := by
  obtain ⟨name, localName⟩ := pair
  simp only [pairs, ofPairs, map_mapLast, mapLast_const, List.mem_append, List.mem_map,
    List.mem_filter, decide_eq_true_eq, Prod.exists, Prod.mk.injEq]
  grind

namespace ImportGraph

variable {g : ImportGraph} {lang : Language}

/-- A statement takes each name from the spelling of the provider to that of the
consumer. -/
theorem mem_pairs_statement (g : ImportGraph) (consumer provider : String)
    (names : List String) (pair : String × String) :
  pair ∈ (g.statement lang consumer provider names).pairs
    ↔ ∃ name ∈ names, pair = (g.spelling provider name, g.spelling consumer name)
  := by
  rw [statement, ImportStatement.mem_pairs_ofPairs, List.mem_map]
  simp only [eq_comm]

/-- There is one statement for each provider. -/
theorem mem_statements (g : ImportGraph) (consumer : String) (providers : Providers)
    (s : ImportStatement) :
  s ∈ g.statements lang consumer providers
    ↔ ∃ provider names, (provider, names) ∈ providers
      ∧ s = g.statement lang consumer provider names
  := by
  rw [statements, List.mem_mergeSort, List.mem_map]
  simp only [Prod.exists, eq_comm]

/-- What statements take are the names of the providers, each from the spelling of its
provider to that of the consumer. -/
theorem exists_mem_pairs_iff (lang : Language) (g : ImportGraph) (consumer : String)
    (providers : Providers) (path : String) (pair : String × String) :
  (∃ s ∈ g.statements lang consumer providers, s.path = path ∧ pair ∈ s.pairs)
    ↔ ∃ provider name, providers.Gives provider name
      ∧ path = Module.importPath lang consumer provider
      ∧ pair = (g.spelling provider name, g.spelling consumer name)
  := by
  constructor
  · rintro ⟨s, hs, rfl, hpair⟩
    obtain ⟨provider, names, hmem, rfl⟩ := (mem_statements g consumer providers s).mp hs
    obtain ⟨name, hname, rfl⟩ := (mem_pairs_statement g consumer provider names pair).mp hpair
    exact ⟨provider, name, ⟨names, hmem, hname⟩, rfl, rfl⟩
  · rintro ⟨provider, name, ⟨names, hmem, hname⟩, rfl, rfl⟩
    use g.statement lang consumer provider names
    and_intros
    · apply (mem_statements g consumer providers _).mpr
      exact ⟨provider, names, hmem, rfl⟩
    · rfl
    · apply (mem_pairs_statement g consumer provider names _).mpr
      use name, hname

theorem declares_iff {path name : String} :
  g.declares path name ↔ ∃ s ∈ g.declarationsOf path, s.name = name
  := by simp [declares]

/-! ### Well-formed graphs -/

/-- The parts of a graph are maps, and each file of types declares something. -/
structure WellFormed (g : ImportGraph) : Prop where
  imports : Sorted.Ascending g.imports
  typeFiles : Sorted.Ascending g.typeFiles
  renames : Sorted.Ascending g.renames
  inhabited : ∀ file ∈ g.typeFiles, file.2 ≠ []

theorem wellFormed_empty :
  WellFormed {}
  where
  imports := Sorted.ascending_nil
  typeFiles := Sorted.ascending_nil
  renames := Sorted.ascending_nil
  inhabited := by simp

theorem WellFormed.addEdge (h : g.WellFormed) (e : Edge) :
  (g.addEdge e).WellFormed
  := { h with imports := h.imports.modify }

theorem WellFormed.setRenames (h : g.WellFormed) (path : String) (renames : Renames) :
  (g.setRenames path renames).WellFormed
  := { h with renames := h.renames.modify }

theorem WellFormed.declare (h : g.WellFormed) (path : String) (d : SpelledDeclaration) :
  (g.declare path d).WellFormed
  where
  imports := h.imports
  typeFiles := h.typeFiles.modify
  renames := h.renames
  inhabited := by
    rintro ⟨file, declarations⟩ hfile
    have hlookup := (h.typeFiles.modify.mem_iff_lookup _ _).mp hfile
    rw [h.typeFiles.lookup_modify] at hlookup
    split at hlookup
    case isTrue =>
      obtain rfl := Option.some.inj hlookup
      simp
    case isFalse => apply h.inhabited _ ((h.typeFiles.mem_iff_lookup _ _).mpr hlookup)

/-! ### One step -/

/-- An edge gives its consumer a name. -/
theorem providersOf_addEdge (h : g.WellFormed) (e : Edge) (consumer : String) :
  (g.addEdge e).providersOf consumer
    = if e.consumer = consumer then (g.providersOf consumer).add e.provider e.name
      else g.providersOf consumer
  := by
  rw [providersOf, ImportGraph.addEdge, h.imports.lookup_modify]
  by_cases heq : e.consumer = consumer
  · simp [heq, providersOf]
  · simp [heq, Ne.symm heq, providersOf]

/-- A declaration in a file of types comes after those that are in it. -/
theorem declarationsOf_declare (h : g.WellFormed) (file path : String)
    (d : SpelledDeclaration) :
  (g.declare file d).declarationsOf path
    = g.declarationsOf path ++ if file = path then [d] else []
  := by
  rw [declarationsOf, ImportGraph.declare, h.typeFiles.lookup_modify]
  by_cases heq : file = path
  · simp [heq, declarationsOf]
  · simp [heq, Ne.symm heq, declarationsOf]

/-- The spellings of a file are those that were set. -/
theorem lookup_setRenames (h : g.WellFormed) (file path : String) (renames : Renames) :
  (g.setRenames file renames).renames.lookup path
    = if path = file then some renames else g.renames.lookup path
  := h.renames.lookup_modify _ _ _

/-! ### Many steps -/

section AddEdges

variable (edges : List Edge)

theorem WellFormed.addEdges (h : g.WellFormed) :
  (edges.foldl ImportGraph.addEdge g).WellFormed
  := by
  induction edges generalizing g with
  | nil => apply h
  | cons e edges ih => apply ih (h.addEdge e)

/-- The edges that start at a file give it their names. -/
theorem providersOf_addEdges (h : g.WellFormed) (consumer : String) :
  (edges.foldl ImportGraph.addEdge g).providersOf consumer
    = (g.providersOf consumer).addAll (edges.filter fun e => e.consumer = consumer)
  := by
  induction edges generalizing g with
  | nil => rfl
  | cons e edges ih =>
    rw [List.foldl_cons, ih (h.addEdge e), providersOf_addEdge h, List.filter_cons]
    by_cases heq : e.consumer = consumer
    · simp [heq, Providers.addAll]
    · simp [heq]

@[simp]
theorem typeFiles_addEdges :
  (edges.foldl ImportGraph.addEdge g).typeFiles = g.typeFiles
  := by
  induction edges generalizing g with
  | nil => rfl
  | cons e edges ih => apply ih

@[simp]
theorem renames_addEdges :
  (edges.foldl ImportGraph.addEdge g).renames = g.renames
  := by
  induction edges generalizing g with
  | nil => rfl
  | cons e edges ih => apply ih

end AddEdges

section DeclareAll

variable {δ : Type} (home : δ → String) (spell : δ → SpelledDeclaration) (ds : List δ)

theorem WellFormed.declareAll (h : g.WellFormed) :
  (ds.foldl (fun g d => g.declare (home d) (spell d)) g).WellFormed
  := by
  induction ds generalizing g with
  | nil => apply h
  | cons d ds ih => apply ih (h.declare (home d) (spell d))

/-- The declarations that belong to a file come after those that are in it. -/
theorem declarationsOf_declareAll (h : g.WellFormed) (path : String) :
  (ds.foldl (fun g d => g.declare (home d) (spell d)) g).declarationsOf path
    = g.declarationsOf path ++ (ds.filter fun d => home d = path).map spell
  := by
  induction ds generalizing g with
  | nil => simp
  | cons d ds ih =>
    rw [List.foldl_cons, ih (h.declare (home d) (spell d)), declarationsOf_declare h,
      List.filter_cons]
    by_cases heq : home d = path
    · simp [heq]
    · simp [heq]

@[simp]
theorem imports_declareAll :
  (ds.foldl (fun g d => g.declare (home d) (spell d)) g).imports = g.imports
  := by
  induction ds generalizing g with
  | nil => rfl
  | cons d ds ih => apply ih

@[simp]
theorem renames_declareAll :
  (ds.foldl (fun g d => g.declare (home d) (spell d)) g).renames = g.renames
  := by
  induction ds generalizing g with
  | nil => rfl
  | cons d ds ih => apply ih

end DeclareAll

/-! ### Files of types -/

/-- The file of types at a path: what is declared there, and what it takes. -/
def typeFileAt (g : ImportGraph) (lang : Language) (package : Package) (path : String) :
    TypeFile where
  path := path
  package := package
  imports := g.importsOf lang path
  declarations := g.declarationsOf path

/-- The files of types are the files in which something is declared. -/
theorem mem_toTypeFiles (h : g.WellFormed) (package : Package) (f : TypeFile) :
  f ∈ g.toTypeFiles lang package
    ↔ ∃ path, g.declarationsOf path ≠ [] ∧ f = g.typeFileAt lang package path
  := by
  rw [toTypeFiles, List.mem_map]
  constructor
  · rintro ⟨⟨path, declarations⟩, hmem, rfl⟩
    have hlookup := (h.typeFiles.mem_iff_lookup _ _).mp hmem
    have hdeclarations : g.declarationsOf path = declarations := by
      simp [declarationsOf, hlookup]
    use path
    constructor
    · rw [hdeclarations]
      apply h.inhabited _ hmem
    · simp [typeFileAt, hdeclarations]
  · rintro ⟨path, hne, rfl⟩
    have hlookup : g.typeFiles.lookup path = some (g.declarationsOf path) := by
      rw [declarationsOf] at hne ⊢
      cases hlookup : g.typeFiles.lookup path with
      | none => simp [hlookup] at hne
      | some declarations => rfl
    use (path, g.declarationsOf path), (h.typeFiles.mem_iff_lookup _ _).mpr hlookup
    rfl

theorem imports_of_mem_toTypeFiles {package : Package} {f : TypeFile}
    (hf : f ∈ g.toTypeFiles lang package) :
  f.imports = g.importsOf lang f.path
  := by
  obtain ⟨_, _, rfl⟩ := List.mem_map.mp hf
  rfl

theorem declarations_of_mem_toTypeFiles (h : g.WellFormed) {package : Package}
    {f : TypeFile} (hf : f ∈ g.toTypeFiles lang package) :
  f.declarations = g.declarationsOf f.path ∧ f.declarations ≠ []
  := by
  obtain ⟨path, hne, rfl⟩ := (mem_toTypeFiles h package f).mp hf
  exact ⟨rfl, hne⟩

/-- A name is declared in one of the files of types exactly when the graph declares it
there. -/
theorem exists_mem_toTypeFiles_iff (h : g.WellFormed) (package : Package)
    (path name : String) :
  (∃ f ∈ g.toTypeFiles lang package, f.path = path ∧ ∃ s ∈ f.declarations, s.name = name)
    ↔ g.declares path name
  := by
  rw [declares_iff]
  constructor
  · rintro ⟨f, hf, rfl, s, hs, hname⟩
    rw [(declarations_of_mem_toTypeFiles h hf).1] at hs
    exact ⟨s, hs, hname⟩
  · rintro ⟨s, hs, hname⟩
    use g.typeFileAt lang package path
    constructor
    · apply (mem_toTypeFiles h package _).mpr
      use path, List.ne_nil_of_mem hs
    · exact ⟨rfl, s, hs, hname⟩

/-- No two files of types have one path. -/
theorem nodup_path_toTypeFiles (h : g.WellFormed) (package : Package) :
  ((g.toTypeFiles lang package).map TypeFile.path).Nodup
  := by
  have := h.typeFiles.nodup_keys
  rw [toTypeFiles, List.map_map]
  apply this

end ImportGraph

end ClientGen
