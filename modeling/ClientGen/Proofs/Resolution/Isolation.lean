import ClientGen.Proofs.Resolution.Sequence

/-!
# Classes do not interfere

Two graphs agree on a class if they tell the same of its file: what the file takes, and
how it and the homes of the declarations of its program spell names. What the file of a
class takes from a graph depends on no more than that. A class keeps the agreement of two
graphs on itself, and it does not touch what a graph tells of another class, unless the
file of the other class is the home of one of its declarations or the other way round. So
after many classes the graph agrees, on each of them, with the graph after it alone.
-/

namespace ClientGen

/-- No declaration has the file of another class as its home. -/
def HomesApart (requests : List ClassRequest) : Prop :=
  ∀ r ∈ requests, ∀ s ∈ requests, s.path ≠ r.path →
    ∀ d ∈ r.program.declarations, ∀ home ∈ d.home?, Module.normalize home ≠ s.path

instance (requests : List ClassRequest) : Decidable (HomesApart requests) :=
  inferInstanceAs (Decidable (∀ r ∈ requests, ∀ s ∈ requests, s.path ≠ r.path →
    ∀ d ∈ r.program.declarations, ∀ home ∈ d.home?, Module.normalize home ≠ s.path))

theorem HomesApart.of_subset {requests others : List ClassRequest}
    (h : HomesApart requests) (hsubset : others ⊆ requests) :
  HomesApart others
  := by
  intro r hr s hs
  apply h r (hsubset hr) s (hsubset hs)

namespace ClassRequest

variable {q r : ClassRequest} {lang : Language}

/-- The class has another file than `r`, and no declaration of its program belongs to the
file of `r`. -/
structure Avoids (q r : ClassRequest) : Prop where
  path : q.path ≠ r.path
  homes : ∀ d ∈ q.program.declarations, q.homeOf d ≠ r.path

theorem avoids_of_homesApart {requests : List ClassRequest} (h : HomesApart requests)
    (hq : q ∈ requests) (hr : r ∈ requests) (hpath : q.path ≠ r.path) :
  q.Avoids r
  where
  path := hpath
  homes := by
    intro d hd heq
    obtain ⟨hhome, -⟩ := (homeOf_eq_iff d hpath.symm).mp heq
    obtain ⟨home, hsome, hhome⟩ := Option.map_eq_some_iff.mp hhome
    apply h q hq r hr hpath.symm d hd home hsome hhome

theorem mem_declarations_of_mem_needed {d : Declaration} (h : d ∈ r.needed) :
  d ∈ r.program.declarations
  := Program.mem_declarations_of_declaration? ((Program.mem_needed d).mp h).2

/-- No edge of a class starts at the file of a class that it avoids. -/
theorem Avoids.consumer_ne {g : ImportGraph} (h : q.Avoids r) {e : Edge}
    (he : e ∈ q.edges g) :
  e.consumer ≠ r.path
  := by
  rcases (mem_edges e).mp he with he | ⟨d, hd, he⟩
  · rw [consumer_of_mem_signatureEdges he]
    apply h.path
  · rw [consumer_of_mem_definitionEdges he]
    apply h.homes d
    apply mem_declarations_of_mem_needed ((mem_placed d).mp hd).1

theorem Avoids.filter_edges {g : ImportGraph} (h : q.Avoids r) :
  ((q.edges g).filter fun e => e.consumer = r.path) = []
  := by
  apply List.filter_eq_nil_iff.mpr
  intro e he
  simpa using h.consumer_ne he

/-- The edges of a class that start at its file do not depend on the graph: they are those
of the definitions in the file and of the signatures. -/
theorem filter_edges_self (r : ClassRequest) (g : ImportGraph) :
  ((r.edges g).filter fun e => e.consumer = r.path)
    = r.locals.flatMap r.definitionEdges ++ r.signatureEdges
  := by
  have hsignature : (r.signatureEdges.filter fun e => e.consumer = r.path)
      = r.signatureEdges := by
    apply List.filter_eq_self.mpr
    intro e he
    simpa using consumer_of_mem_signatureEdges he
  have hdefinition : ∀ d, ((r.definitionEdges d).filter fun e => e.consumer = r.path)
      = if r.isLocal d then r.definitionEdges d else [] := by
    intro d
    by_cases hlocal : r.homeOf d = r.path
    · simp only [isLocal, hlocal, decide_true, if_true]
      apply List.filter_eq_self.mpr
      intro e he
      simp [consumer_of_mem_definitionEdges he, hlocal]
    · simp only [isLocal, hlocal, decide_false, Bool.false_eq_true, if_false]
      apply List.filter_eq_nil_iff.mpr
      intro e he
      simp [consumer_of_mem_definitionEdges he, hlocal]
  rw [edges, List.filter_append, hsignature, List.filter_flatMap]
  congr 1
  simp only [hdefinition, placed, locals]
  induction r.needed with
  | nil => rfl
  | cons d ds ih =>
    cases hlocal : r.isLocal d with
    | true => simp [hlocal, ih]
    | false =>
      cases hnew : !g.declares (r.homeOf d) d.name with
      | true => simp [hlocal, hnew, ih]
      | false => simp [hlocal, hnew, ih]

end ClassRequest

/-- If the homes are apart, then a class puts declarations into no file of a class. -/
theorem HomesApart.ne_path_of_places {requests : List ClassRequest}
    (h : HomesApart requests) {r : ClassRequest} (hr : r ∈ requests) {path : String}
    {d : Declaration} (hplaces : r.Places path d) :
  ∀ q ∈ requests, path ≠ q.path
  := by
  rintro q hq rfl
  apply (ClassRequest.avoids_of_homesApart h hr hq hplaces.foreign.symm).homes d
  · apply ClassRequest.mem_declarations_of_mem_needed hplaces.mem_needed
  · apply hplaces.homeOf_eq

namespace ImportGraph

variable {lang : Language}

/-- The graphs tell the same of the file of a class, and it takes names only from the
homes of declarations of its program. -/
structure AgreesOn (r : ClassRequest) (g g' : ImportGraph) : Prop where
  providers : g.providersOf r.path = g'.providersOf r.path
  spellings : g.renames.lookup r.path = g'.renames.lookup r.path
  homes : ∀ d ∈ r.program.declarations,
    g.renames.lookup (r.homeOf d) = g'.renames.lookup (r.homeOf d)
  own : ∀ provider name, (g.providersOf r.path).Gives provider name →
    ∃ d ∈ r.program.declarations, r.homeOf d = provider

theorem agreesOn_empty (r : ClassRequest) :
  AgreesOn r {} {}
  where
  providers := rfl
  spellings := rfl
  homes _ _ := rfl
  own provider name h := absurd h (Providers.not_gives_nil provider name)

theorem AgreesOn.symm {r : ClassRequest} {g g' : ImportGraph} (h : AgreesOn r g g') :
  AgreesOn r g' g
  where
  providers := h.providers.symm
  spellings := h.spellings.symm
  homes d hd := (h.homes d hd).symm
  own := by
    rw [← h.providers]
    apply h.own

theorem AgreesOn.trans {r : ClassRequest} {g g' g'' : ImportGraph}
    (h : AgreesOn r g g') (h' : AgreesOn r g' g'') :
  AgreesOn r g g''
  where
  providers := h.providers.trans h'.providers
  spellings := h.spellings.trans h'.spellings
  homes d hd := (h.homes d hd).trans (h'.homes d hd)
  own := h.own

/-! ### What a class takes -/

theorem AgreesOn.spelling_path {r : ClassRequest} {g g' : ImportGraph}
    (h : AgreesOn r g g') (name : String) :
  g.spelling r.path name = g'.spelling r.path name
  := by rw [spelling, spelling, h.spellings]

theorem AgreesOn.spelling_homeOf {r : ClassRequest} {g g' : ImportGraph}
    (h : AgreesOn r g g') {d : Declaration} (hd : d ∈ r.program.declarations)
    (name : String) :
  g.spelling (r.homeOf d) name = g'.spelling (r.homeOf d) name
  := by rw [spelling, spelling, h.homes d hd]

/-- Graphs that agree on a class make the same statements for names that the class takes. -/
theorem AgreesOn.statements_eq {r : ClassRequest} {g g' : ImportGraph}
    (h : AgreesOn r g g') {providers : Providers}
    (hown : ∀ provider name, providers.Gives provider name →
      ∃ d ∈ r.program.declarations, r.homeOf d = provider) :
  g.statements lang r.path providers = g'.statements lang r.path providers
  := by
  rw [statements, statements]
  congr 1
  apply List.map_congr_left
  rintro ⟨provider, names⟩ hmem
  dsimp only
  rw [statement, statement]
  congr 1
  apply List.map_congr_left
  intro name hname
  obtain ⟨d, hd, rfl⟩ := hown provider name ⟨names, hmem, hname⟩
  rw [h.spelling_homeOf hd, h.spelling_path]

/-- The names that a class exports again come from the homes of declarations of its
program. -/
theorem exists_homeOf_of_gives_exported {r : ClassRequest} {provider name : String}
    (h : r.exported.Gives provider name) :
  ∃ d ∈ r.program.declarations, r.homeOf d = provider
  := by
  obtain ⟨_, _, _, _, _, _, d, hd, _, heq⟩ :=
    (ClassRequest.mem_signatureEdges _).mp ((ClassRequest.gives_exported _ _).mp h)
  use d, Program.mem_declarations_of_declaration? hd
  apply (congrArg Edge.provider heq).symm

/-- What the file of a class takes is the same from graphs that agree on the class. -/
theorem AgreesOn.importsFrom_eq {r : ClassRequest} {g g' : ImportGraph}
    (h : AgreesOn r g g') :
  r.importsFrom lang g = r.importsFrom lang g'
  := by
  have himports : g.importsOf lang r.path = g'.importsOf lang r.path := by
    rw [importsOf, importsOf, ← h.providers]
    apply h.statements_eq h.own
  have hannotation : g.statements lang r.path ((g.providersOf r.path).without r.exported)
      = g'.statements lang r.path ((g.providersOf r.path).without r.exported) := by
    apply h.statements_eq
    intro provider name hgives
    apply h.own provider name (Providers.gives_of_gives_without hgives)
  have hexported : g.statements lang r.path r.exported
      = g'.statements lang r.path r.exported := by
    apply h.statements_eq
    intro provider name hgives
    apply exists_homeOf_of_gives_exported hgives
  rw [ClassRequest.importsFrom, ClassRequest.importsFrom, himports, hannotation, hexported,
    h.providers, h.spellings]

/-! ### Steps -/

/-- A class keeps the agreement of graphs on itself. -/
theorem AgreesOn.resolve {r : ClassRequest} {g g' : ImportGraph} (h : AgreesOn r g g')
    (hg : g.WellFormed) (hg' : g'.WellFormed) :
  AgreesOn r (r.resolve lang g) (r.resolve lang g')
  := by
  have hproviders : (r.resolve lang g).providersOf r.path
      = (r.resolve lang g').providersOf r.path := by
    rw [ClassRequest.providersOf_resolve hg, ClassRequest.providersOf_resolve hg',
      ClassRequest.filter_edges_self, ClassRequest.filter_edges_self, h.providers]
  have hspellings : (r.resolve lang g).renames.lookup r.path
      = (r.resolve lang g').renames.lookup r.path := by
    rw [ClassRequest.lookup_renames_resolve hg, ClassRequest.lookup_renames_resolve hg',
      if_pos rfl, if_pos rfl, ClassRequest.scope, ClassRequest.scope, hproviders]
  constructor
  · apply hproviders
  · apply hspellings
  · intro d hd
    by_cases hlocal : r.homeOf d = r.path
    · rw [hlocal, hspellings]
    · rw [ClassRequest.lookup_renames_resolve hg, ClassRequest.lookup_renames_resolve hg',
        if_neg hlocal, if_neg hlocal, h.homes d hd]
  · intro provider name hgives
    rw [ClassRequest.providersOf_resolve hg, Providers.gives_addAll] at hgives
    rcases hgives with ⟨e, he, rfl, -⟩ | hgives
    · obtain ⟨d, hd, hprovider, -⟩ :=
        ClassRequest.exists_needed_of_mem_edges (List.mem_filter.mp he).1
      exact ⟨d, ClassRequest.mem_declarations_of_mem_needed hd, hprovider.symm⟩
    · apply h.own provider name hgives

/-- A class does not touch what a graph tells of another class, if each avoids the
other. -/
theorem AgreesOn.resolve_other {q r : ClassRequest} {g g' : ImportGraph}
    (h : AgreesOn r g g') (hg : g.WellFormed) (hq : q.Avoids r) (hr : r.Avoids q) :
  AgreesOn r (q.resolve lang g) g'
  := by
  have hproviders : (q.resolve lang g).providersOf r.path = g.providersOf r.path := by
    rw [ClassRequest.providersOf_resolve hg, hq.filter_edges]
    rfl
  constructor
  · rw [hproviders, h.providers]
  · rw [ClassRequest.lookup_renames_resolve hg, if_neg hr.path, h.spellings]
  · intro d hd
    rw [ClassRequest.lookup_renames_resolve hg, if_neg (hr.homes d hd), h.homes d hd]
  · rw [hproviders]
    apply h.own

/-! ### Runs -/

/-- Classes that avoid a class and that it avoids leave nothing for it in the graph. -/
theorem agreesOn_ofRequests_empty {requests : List ClassRequest} {r : ClassRequest}
    (h : ∀ q ∈ requests, q.Avoids r ∧ r.Avoids q) :
  AgreesOn r (ofRequests lang requests) {}
  := by
  induction requests using List.reverseRecOn with
  | nil => apply agreesOn_empty
  | append_singleton requests last ih =>
    obtain ⟨hlast, hr⟩ := h last (by simp)
    rw [ofRequests_append_singleton]
    apply AgreesOn.resolve_other _ (wellFormed_ofRequests lang requests) hlast hr
    apply ih
    intro q hq
    apply h q
    simp [hq]

/-- After classes with different files and homes apart, the graph agrees on each of them
with the graph after that class alone. -/
theorem agreesOn_ofRequests {requests : List ClassRequest}
    (distinct : (requests.map ClassRequest.path).Nodup) (apart : HomesApart requests)
    {r : ClassRequest} (hr : r ∈ requests) :
  AgreesOn r (ofRequests lang requests) (r.resolve lang {})
  := by
  induction requests using List.reverseRecOn with
  | nil => cases hr
  | append_singleton requests last ih =>
    rw [List.map_append, List.nodup_append] at distinct
    obtain ⟨distinct, -, hdisjoint⟩ := distinct
    have hne : ∀ q ∈ requests, q.path ≠ last.path := by
      intro q hq
      apply hdisjoint q.path (List.mem_map_of_mem hq)
      simp
    have havoids : ∀ q ∈ requests, q.Avoids last ∧ last.Avoids q := by
      intro q hq
      constructor
      · apply ClassRequest.avoids_of_homesApart apart (by simp [hq]) (by simp) (hne q hq)
      · apply ClassRequest.avoids_of_homesApart apart (by simp) (by simp [hq])
          (hne q hq).symm
    have hwell := wellFormed_ofRequests lang requests
    rw [ofRequests_append_singleton]
    -- The last class is another one, which leaves what the graph tells of `r`, or it is `r`,
    -- and then the graph before it tells nothing of `r`.
    rcases List.mem_append.mp hr with hr | hr
    · obtain ⟨hr', hlast⟩ := havoids r hr
      apply AgreesOn.resolve_other _ hwell hlast hr'
      apply ih distinct (apart.of_subset (List.subset_append_left _ _)) hr
    · obtain rfl := List.mem_singleton.mp hr
      apply AgreesOn.resolve (agreesOn_ofRequests_empty havoids) hwell wellFormed_empty

/-- A file that is not that of a class has no spellings of its own. -/
theorem lookup_renames_ofRequests {requests : List ClassRequest} {path : String}
    (h : ∀ r ∈ requests, path ≠ r.path) :
  (ofRequests lang requests).renames.lookup path = none
  := by
  induction requests using List.reverseRecOn with
  | nil => rfl
  | append_singleton requests last ih =>
    rw [ofRequests_append_singleton,
      ClassRequest.lookup_renames_resolve (wellFormed_ofRequests lang requests),
      if_neg (h last (by simp))]
    apply ih
    intro r hr
    apply h r
    simp [hr]

/-- If the homes are apart, a file of types spells names as the programs do. -/
theorem spelling_ofRequests_of_places {requests : List ClassRequest}
    (apart : HomesApart requests) {r : ClassRequest} (hr : r ∈ requests) {path : String}
    {d : Declaration} (h : r.Places path d) (name : String) :
  (ofRequests lang requests).spelling path name = name
  := by
  rw [spelling, lookup_renames_ofRequests (apart.ne_path_of_places hr h)]
  apply Renames.apply_nil

end ImportGraph

end ClientGen
