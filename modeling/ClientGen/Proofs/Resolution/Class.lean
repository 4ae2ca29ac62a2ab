import ClientGen.Proofs.Resolution.Graph
import ClientGen.Proofs.Resolution.Reachability
import ClientGen.Resolution.Class

/-!
# One class

What the declarations and the references of a class do to a graph: the files of types get
the declarations that the class puts there, unless they have one of the name already; a
file takes what the definitions in it refer to in other files, and the file of the class
also what its signatures refer to; and the file of the class gets its spellings.
-/

namespace ClientGen.ClassRequest

variable {r : ClassRequest} {g : ImportGraph} {lang : Language}

/-! ### Homes -/

/-- A class puts a declaration into the file of types at a path: its methods can reach the
declaration, and the home of the declaration is the path, which is not that of the file of
the class. A home with an empty path is no home. -/
structure Places (r : ClassRequest) (path : String) (d : Declaration) : Prop where
  declared : r.program.declaration? d.name = some d
  reached : r.program.Reaches r.methods d.name
  home : d.home?.map Module.normalize = some path
  named : path ≠ ""
  foreign : path ≠ r.path

/-- A declaration belongs to a file other than that of the class exactly when that file is
its home. -/
theorem homeOf_eq_iff (d : Declaration) {path : String} (foreign : path ≠ r.path) :
  r.homeOf d = path ↔ d.home?.map Module.normalize = some path ∧ path ≠ ""
  := by
  rw [homeOf, DeclarationOf.homeIn]
  cases d.home? with
  | none => simp [foreign.symm]
  | some home =>
    rw [Option.map_some, Option.some.injEq]
    dsimp only
    split
    case isTrue hempty => grind
    case isFalse hne => grind

/-- The declarations that a class puts into the file of types at a path, in the order in
which they are discovered. -/
def homed (r : ClassRequest) (path : String) : List Declaration :=
  r.needed.filter fun d => r.homeOf d = path && path ≠ r.path

theorem mem_homed (path : String) (d : Declaration) :
  d ∈ r.homed path ↔ r.Places path d
  := by
  simp only [homed, needed, List.mem_filter, Program.mem_needed, Bool.and_eq_true,
    decide_eq_true_eq, ne_eq, decide_not, Bool.not_eq_eq_eq_not, Bool.not_true,
    decide_eq_false_iff_not]
  constructor
  · rintro ⟨⟨reached, declared⟩, hhome, foreign⟩
    obtain ⟨home, named⟩ := (homeOf_eq_iff d foreign).mp hhome
    exact ⟨declared, reached, home, named, foreign⟩
  · rintro ⟨declared, reached, home, named, foreign⟩
    exact ⟨⟨reached, declared⟩, (homeOf_eq_iff d foreign).mpr ⟨home, named⟩, foreign⟩

theorem Places.mem_needed {path : String} {d : Declaration} (h : r.Places path d) :
  d ∈ r.needed
  := (List.mem_filter.mp ((mem_homed path d).mpr h)).1

theorem Places.homeOf_eq {path : String} {d : Declaration} (h : r.Places path d) :
  r.homeOf d = path
  := (homeOf_eq_iff d h.foreign).mpr ⟨h.home, h.named⟩

/-- A needed declaration belongs to the file of the class, or the class puts it where it
belongs. -/
theorem homeOf_eq_path_or_places {d : Declaration} (h : d ∈ r.needed) :
  r.homeOf d = r.path ∨ r.Places (r.homeOf d) d
  := by
  by_cases hpath : r.homeOf d = r.path
  · left
    apply hpath
  · right
    apply (mem_homed _ _).mp
    simp [homed, h, hpath]

theorem mem_locals (d : Declaration) :
  d ∈ r.locals ↔ d ∈ r.needed ∧ r.homeOf d = r.path
  := by simp [locals, isLocal]

/-- No two declarations that a class puts into one file have one name. -/
theorem nodup_name_homed (path : String) :
  ((r.homed path).map DeclarationOf.name).Nodup
  := by
  have hsublist : ((r.homed path).map DeclarationOf.name).Sublist
      (r.needed.map DeclarationOf.name) := List.filter_sublist.map _
  apply List.Pairwise.sublist hsublist
  apply Program.nodup_name_needed

/-! ### References -/

theorem mem_edgesFrom (consumer : String) (names : List String) (e : Edge) :
  e ∈ r.edgesFrom consumer names
    ↔ ∃ name ∈ names, ∃ d, r.program.declaration? name = some d
      ∧ r.homeOf d ≠ consumer ∧ e = ⟨consumer, r.homeOf d, d.name⟩
  := by
  simp only [edgesFrom, List.mem_filter, List.mem_map, List.mem_filterMap,
    decide_eq_true_eq, ne_eq]
  constructor
  · rintro ⟨⟨d, ⟨name, hname, hd⟩, rfl⟩, hne⟩
    exact ⟨name, hname, d, hd, hne, rfl⟩
  · rintro ⟨name, hname, d, hd, hne, rfl⟩
    exact ⟨⟨d, ⟨name, hname, hd⟩, rfl⟩, hne⟩

/-- The references out of the file of a declaration go to the declarations elsewhere that
its definition refers to. -/
theorem mem_definitionEdges (d : Declaration) (e : Edge) :
  e ∈ r.definitionEdges d
    ↔ ∃ t ∈ d.innerTypes, ∃ name ∈ t.referencedNames, ∃ target,
      r.program.declaration? name = some target ∧ r.homeOf target ≠ r.homeOf d
      ∧ e = ⟨r.homeOf d, r.homeOf target, target.name⟩
  := by
  rw [definitionEdges, mem_edgesFrom]
  simp only [Program.mem_namedBy]
  grind

/-- The references out of the file of the class go to the declarations elsewhere that its
signatures refer to. -/
theorem mem_signatureEdges (e : Edge) :
  e ∈ r.signatureEdges
    ↔ ∃ m ∈ r.methods, ∃ t ∈ m.signatureTypes, ∃ name ∈ t.referencedNames, ∃ target,
      r.program.declaration? name = some target ∧ r.homeOf target ≠ r.path
      ∧ e = ⟨r.path, r.homeOf target, target.name⟩
  := by
  rw [signatureEdges, mem_edgesFrom]
  simp only [Program.mem_directNames]
  grind

theorem consumer_of_mem_definitionEdges {d : Declaration} {e : Edge}
    (h : e ∈ r.definitionEdges d) :
  e.consumer = r.homeOf d
  := by
  obtain ⟨_, _, _, _, _, _, _, rfl⟩ := (mem_definitionEdges d e).mp h
  rfl

theorem consumer_of_mem_signatureEdges {e : Edge} (h : e ∈ r.signatureEdges) :
  e.consumer = r.path
  := by
  obtain ⟨_, _, _, _, _, _, _, _, _, rfl⟩ := (mem_signatureEdges e).mp h
  rfl

/-- The file of a class exports again what its signatures refer to elsewhere. -/
theorem gives_exported (provider name : String) :
  r.exported.Gives provider name ↔ ⟨r.path, provider, name⟩ ∈ r.signatureEdges
  := by
  apply (Providers.gives_addAll [] r.signatureEdges provider name).trans
  constructor
  · rintro (⟨⟨consumer, _, _⟩, he, rfl, rfl⟩ | h)
    · obtain rfl : consumer = r.path := consumer_of_mem_signatureEdges he
      apply he
    · apply absurd h (Providers.not_gives_nil provider name)
  · intro he
    left
    exact ⟨_, he, rfl, rfl⟩

/-- The edges that a class adds to a graph. -/
def edges (r : ClassRequest) (g : ImportGraph) : List Edge :=
  (r.placed g).flatMap r.definitionEdges ++ r.signatureEdges

theorem mem_placed (d : Declaration) :
  d ∈ r.placed g
    ↔ d ∈ r.needed ∧ (r.homeOf d = r.path ∨ ¬ g.declares (r.homeOf d) d.name)
  := by simp [placed, isLocal]

/-- An edge that a class adds is one of its signatures, or one of the definition of a
declaration that belongs to its file or that was not yet declared where it belongs. -/
theorem mem_edges (e : Edge) :
  e ∈ r.edges g
    ↔ e ∈ r.signatureEdges ∨ ∃ d ∈ r.placed g, e ∈ r.definitionEdges d
  := by simp [edges, or_comm]

/-- What a declaration in the file of the class or a signature refers to belongs to the
file as well, or the class adds an edge for it to any graph. -/
theorem mem_locals_or_mem_edges {t : TypeNode} {name : String} {target : Declaration}
    (ht : t ∈ r.locals.flatMap DeclarationOf.innerTypes
      ++ r.methods.flatMap Method.signatureTypes)
    (hname : name ∈ t.referencedNames) (htarget : r.program.declaration? name = some target)
    (g : ImportGraph) :
  target ∈ r.locals ∨ ⟨r.path, r.homeOf target, target.name⟩ ∈ r.edges g
  := by
  rcases List.mem_append.mp ht with ht | ht
  · obtain ⟨d, hd, ht⟩ := List.mem_flatMap.mp ht
    obtain ⟨hneeded, hlocal⟩ := (mem_locals d).mp hd
    by_cases hhome : r.homeOf target = r.path
    · left
      apply (mem_locals target).mpr
      use Program.mem_needed_of_mem_innerTypes hneeded ht hname htarget
    · right
      apply (mem_edges _).mpr
      right
      use d
      constructor
      · apply (mem_placed d).mpr
        use hneeded, Or.inl hlocal
      · apply (mem_definitionEdges d _).mpr
        rw [hlocal]
        exact ⟨t, ht, name, hname, target, htarget, hhome, rfl⟩
  · obtain ⟨m, hm, ht⟩ := List.mem_flatMap.mp ht
    by_cases hhome : r.homeOf target = r.path
    · left
      apply (mem_locals target).mpr
      use Program.mem_needed_of_mem_signatureTypes hm ht hname htarget
    · right
      apply (mem_edges _).mpr
      left
      apply (mem_signatureEdges _).mpr
      exact ⟨m, hm, t, ht, name, hname, target, htarget, hhome, rfl⟩

/-- An edge goes to another file, and to a declaration that the class needs. -/
theorem exists_needed_of_mem_edges {e : Edge} (h : e ∈ r.edges g) :
  ∃ target ∈ r.needed, e.provider = r.homeOf target ∧ e.name = target.name
    ∧ e.provider ≠ e.consumer
  := by
  rcases (mem_edges e).mp h with h | ⟨d, hd, h⟩
  · obtain ⟨m, hm, t, ht, name, hname, target, htarget, hne, rfl⟩ :=
      (mem_signatureEdges e).mp h
    use target, Program.mem_needed_of_mem_signatureTypes hm ht hname htarget
  · obtain ⟨t, ht, name, hname, target, htarget, hne, rfl⟩ :=
      (mem_definitionEdges d e).mp h
    use target, Program.mem_needed_of_mem_innerTypes ((mem_placed d).mp hd).1 ht hname htarget

/-! ### The graph after a class -/

/-- The graph with the declarations that a class adds to the files of types. -/
def declared (r : ClassRequest) (lang : Language) (g : ImportGraph) : ImportGraph :=
  ((r.placed g).filter fun d => !r.isLocal d).foldl
    (fun g d => g.declare (r.homeOf d) (lang.spellDeclaration [] d)) g

theorem place_eq (lang : Language) (g : ImportGraph) :
  r.place lang g = (r.edges g).foldl ImportGraph.addEdge (r.declared lang g)
  := rfl

section

variable (h : g.WellFormed)

include h

theorem wellFormed_declared :
  (r.declared lang g).WellFormed
  := h.declareAll _ _ _

theorem wellFormed_place :
  (r.place lang g).WellFormed
  := by
  rw [place_eq]
  apply ImportGraph.WellFormed.addEdges
  apply wellFormed_declared h

theorem wellFormed_resolve :
  (r.resolve lang g).WellFormed
  := (wellFormed_place h).setRenames _ _

/-- A file of types gets the declarations that the class puts there and whose names are
not declared there. -/
theorem declarationsOf_resolve (path : String) :
  (r.resolve lang g).declarationsOf path
    = g.declarationsOf path ++ ((r.homed path).filter fun d => !g.declares path d.name).map
        (lang.spellDeclaration [])
  := by
  have hdeclared : (r.resolve lang g).declarationsOf path
      = (r.declared lang g).declarationsOf path := by
    simp only [resolve, ImportGraph.setRenames, ImportGraph.declarationsOf, place_eq,
      ImportGraph.typeFiles_addEdges]
  rw [hdeclared, declared, ImportGraph.declarationsOf_declareAll _ _ _ h, placed, homed]
  congr 2
  simp only [List.filter_filter]
  apply List.filter_congr
  intro d _
  rw [isLocal]
  grind

/-- What a file of types declares after a class was there before, or is put there by the
class under a name that was not declared there. -/
theorem mem_declarationsOf_resolve (path : String) (s : SpelledDeclaration) :
  s ∈ (r.resolve lang g).declarationsOf path
    ↔ s ∈ g.declarationsOf path
      ∨ ∃ d, r.Places path d ∧ ¬ g.declares path d.name ∧ s = lang.spellDeclaration [] d
  := by
  rw [declarationsOf_resolve h]
  simp [mem_homed, and_assoc, @eq_comm _ s]

/-- The names that a file of types declares after a class are those before, and those of
the declarations that the class puts there. -/
theorem declares_resolve (path name : String) :
  (r.resolve lang g).declares path name
    ↔ g.declares path name ∨ ∃ d, r.Places path d ∧ d.name = name
  := by
  simp only [ImportGraph.declares_iff, mem_declarationsOf_resolve h]
  constructor
  · rintro ⟨s, hs | ⟨d, hd, -, rfl⟩, rfl⟩
    · left
      exact ⟨s, hs, rfl⟩
    · right
      exact ⟨d, hd, by simp⟩
  · rintro (⟨s, hs, rfl⟩ | ⟨d, hd, rfl⟩)
    · exact ⟨s, Or.inl hs, rfl⟩
    · by_cases hdeclared : ∃ s ∈ g.declarationsOf path, s.name = d.name
      · obtain ⟨s, hs, hname⟩ := hdeclared
        exact ⟨s, Or.inl hs, hname⟩
      · exact ⟨lang.spellDeclaration [] d, Or.inr ⟨d, hd, hdeclared, rfl⟩, by simp⟩

/-- If no name is declared twice in a file of types, then none is after a class. -/
theorem nodup_name_declarationsOf_resolve {path : String}
    (distinct : ((g.declarationsOf path).map SpelledDeclaration.name).Nodup) :
  (((r.resolve lang g).declarationsOf path).map SpelledDeclaration.name).Nodup
  := by
  rw [declarationsOf_resolve h, List.map_append]
  apply List.nodup_append.mpr
  and_intros
  · apply distinct
  · rw [List.map_map]
    apply List.pairwise_map.mpr
    apply List.Pairwise.filter
    apply List.Pairwise.imp _ (List.pairwise_map.mp (nodup_name_homed path))
    intro d e hne
    simpa using hne
  · intro name hname added hadded
    obtain ⟨s, hs, rfl⟩ := List.mem_map.mp hname
    obtain ⟨t, ht, rfl⟩ := List.mem_map.mp hadded
    obtain ⟨d, hd, rfl⟩ := List.mem_map.mp ht
    have hfresh : ¬ g.declares path d.name := by simpa using (List.mem_filter.mp hd).2
    intro heq
    apply hfresh
    apply ImportGraph.declares_iff.mpr
    exact ⟨s, hs, by simpa using heq⟩

/-- A file takes the names of the edges of the class that start at it. -/
theorem providersOf_resolve (consumer : String) :
  (r.resolve lang g).providersOf consumer
    = (g.providersOf consumer).addAll ((r.edges g).filter fun e => e.consumer = consumer)
  := by
  have hplaced : (r.resolve lang g).providersOf consumer
      = (r.place lang g).providersOf consumer := rfl
  rw [hplaced, place_eq, ImportGraph.providersOf_addEdges _ (wellFormed_declared h)]
  rw [ImportGraph.providersOf, declared, ImportGraph.imports_declareAll]
  rfl

/-- The spellings of the file of the class are those for the names in its scope, and the
spellings of other files stay. -/
theorem lookup_renames_resolve (path : String) :
  (r.resolve lang g).renames.lookup path
    = if path = r.path
      then some (Fresh.classRenames r.className (r.scope (r.resolve lang g)))
      else g.renames.lookup path
  := by
  rw [resolve, ImportGraph.lookup_setRenames (wellFormed_place h), place_eq,
    ImportGraph.renames_addEdges, declared, ImportGraph.renames_declareAll]
  rfl

end

end ClientGen.ClassRequest

/-! ### A class with two declarations -/

namespace ClientGen.Example

/-- A class with one method. -/
def usersClass : RemoteClass where
  name := "Users"
  methods := [{ name := "list", returnType := .array (.custom "Profile") }]

/-- A declaration in a file of types, which refers to one in the file of the class. -/
def profile : Declaration :=
  .struct "Profile" [⟨"owner", false, .custom "Users"⟩] (some "./types/profile")

/-- A declaration in the file of the class, which has the name of the class. -/
def model : Declaration :=
  .struct "Users" [⟨"names", true, .array (.primitive .string)⟩] none

/-- The program of the class. -/
def users : Program where
  body := [.remoteClass usersClass, .declaration profile, .declaration model]

/-- The class with its program. -/
def usersRequest : ClassRequest where
  program := users
  className := "Users"
  path := "users.sdk"
  methods := usersClass.methods

theorem places_profile :
  usersRequest.Places "types/profile" profile
  where
  declared := rfl
  reached := by
    apply Program.Reaches.signature (List.mem_singleton_self _) (List.mem_singleton_self _)
    · decide
    · rfl
  home := by decide
  named := by decide
  foreign := by decide

theorem model_mem_locals :
  model ∈ usersRequest.locals
  := by
  apply (ClassRequest.mem_locals model).mpr
  constructor
  · have hname : "Users" ∈ (TypeNode.custom "Users").referencedNames := by decide
    apply Program.mem_needed_of_mem_innerTypes places_profile.mem_needed
      (List.mem_singleton_self _) hname
    rfl
  · decide

end ClientGen.Example
