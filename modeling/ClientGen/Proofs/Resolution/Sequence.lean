import ClientGen.Proofs.Resolution.Class
import Mathlib.Data.List.Induction

/-!
# Classes one after the other

A file of types holds each name once: the declaration that the first class which puts one
of that name there puts there. It takes what the definitions of these declarations refer
to, so a class whose declaration comes too late adds nothing.
-/

namespace ClientGen

/-- The graph after classes, one after the other. -/
def ImportGraph.ofRequests (lang : Language) (requests : List ClassRequest) : ImportGraph :=
  requests.foldl (fun g r => r.resolve lang g) {}

/-- Of the classes, `r` is the first one that puts a declaration of the name of `d` into
the file of types at a path, and it puts `d` there. -/
def FirstPlaces (requests : List ClassRequest) (path : String) (r : ClassRequest)
    (d : Declaration) : Prop :=
  ∃ earlier, earlier ++ [r] <+: requests ∧ r.Places path d
    ∧ ∀ q ∈ earlier, ∀ e, q.Places path e → e.name ≠ d.name

theorem FirstPlaces.mem {requests : List ClassRequest} {path : String} {r : ClassRequest}
    {d : Declaration} (h : FirstPlaces requests path r d) :
  r ∈ requests
  := by
  obtain ⟨earlier, hprefix, -⟩ := h
  apply hprefix.mem
  simp

theorem FirstPlaces.places {requests : List ClassRequest} {path : String}
    {r : ClassRequest} {d : Declaration} (h : FirstPlaces requests path r d) :
  r.Places path d
  := by
  obtain ⟨_, _, hplaces, _⟩ := h
  apply hplaces

theorem not_firstPlaces_nil (path : String) (r : ClassRequest) (d : Declaration) :
  ¬ FirstPlaces [] path r d
  := by
  intro h
  cases h.mem

/-- With one more class at the end, the first one is the same, or it is the last one and
no other puts a declaration of the name there. -/
theorem firstPlaces_append_singleton (requests : List ClassRequest) (path : String)
    (last r : ClassRequest) (d : Declaration) :
  FirstPlaces (requests ++ [last]) path r d
    ↔ FirstPlaces requests path r d ∨ r = last ∧ last.Places path d
      ∧ ∀ q ∈ requests, ∀ e, q.Places path e → e.name ≠ d.name
  := by
  constructor
  · rintro ⟨earlier, hprefix, hplaces, hfirst⟩
    rcases List.prefix_concat_iff.mp hprefix with heq | hprefix
    · obtain ⟨rfl, rfl⟩ := List.append_singleton_inj.mp heq
      right
      exact ⟨rfl, hplaces, hfirst⟩
    · left
      exact ⟨earlier, hprefix, hplaces, hfirst⟩
  · rintro (⟨earlier, hprefix, hplaces, hfirst⟩ | ⟨rfl, hplaces, hfirst⟩)
    · use earlier, hprefix.trans (List.prefix_append _ _), hplaces
    · exact ⟨requests, List.prefix_rfl, hplaces, hfirst⟩

namespace ImportGraph

variable {lang : Language}

theorem ofRequests_append_singleton (requests : List ClassRequest) (r : ClassRequest) :
  ofRequests lang (requests ++ [r]) = r.resolve lang (ofRequests lang requests)
  := by simp [ofRequests, List.foldl_append]

theorem wellFormed_ofRequests (lang : Language) (requests : List ClassRequest) :
  (ofRequests lang requests).WellFormed
  := by
  induction requests using List.reverseRecOn with
  | nil => apply wellFormed_empty
  | append_singleton requests r ih =>
    rw [ofRequests_append_singleton]
    apply ClassRequest.wellFormed_resolve ih

/-! ### Declarations -/

/-- A file of types declares the names of the declarations that classes put there. -/
theorem declares_ofRequests (lang : Language) (requests : List ClassRequest)
    (path name : String) :
  (ofRequests lang requests).declares path name
    ↔ ∃ r ∈ requests, ∃ d, r.Places path d ∧ d.name = name
  := by
  induction requests using List.reverseRecOn with
  | nil => simp [ofRequests, declares, declarationsOf]
  | append_singleton requests r ih =>
    rw [ofRequests_append_singleton,
      ClassRequest.declares_resolve (wellFormed_ofRequests lang requests), ih]
    simp [or_and_right, exists_or]

/-- A file of types declares, of each name, what the first class puts there. -/
theorem mem_declarationsOf_ofRequests (requests : List ClassRequest) (path : String)
    (s : SpelledDeclaration) :
  s ∈ (ofRequests lang requests).declarationsOf path
    ↔ ∃ r d, FirstPlaces requests path r d ∧ s = lang.spellDeclaration [] d
  := by
  induction requests using List.reverseRecOn with
  | nil => simp [ofRequests, declarationsOf, not_firstPlaces_nil]
  | append_singleton requests last ih =>
    rw [ofRequests_append_singleton,
      ClassRequest.mem_declarationsOf_resolve (wellFormed_ofRequests lang requests), ih]
    simp only [firstPlaces_append_singleton, declares_ofRequests]
    constructor
    · rintro (⟨r, d, hfirst, rfl⟩ | ⟨d, hplaces, hnew, rfl⟩)
      · exact ⟨r, d, Or.inl hfirst, rfl⟩
      · use last, d
        constructor
        · right
          use rfl, hplaces
          intro q hq e he heq
          apply hnew
          exact ⟨q, hq, e, he, heq⟩
        · rfl
    · rintro ⟨r, d, hfirst | ⟨rfl, hplaces, hfirst⟩, rfl⟩
      · left
        exact ⟨r, d, hfirst, rfl⟩
      · right
        use d, hplaces
        constructor
        · rintro ⟨q, hq, e, he, heq⟩
          apply hfirst q hq e he heq
        · rfl

theorem nodup_name_declarationsOf_ofRequests (requests : List ClassRequest)
    (path : String) :
  (((ofRequests lang requests).declarationsOf path).map SpelledDeclaration.name).Nodup
  := by
  induction requests using List.reverseRecOn with
  | nil => simp [ofRequests, declarationsOf]
  | append_singleton requests r ih =>
    rw [ofRequests_append_singleton]
    apply ClassRequest.nodup_name_declarationsOf_resolve (wellFormed_ofRequests lang requests) ih

/-! ### References -/

/-- A file takes the names of the edges that the classes add, each to the graph of the
earlier ones. -/
theorem gives_ofRequests (requests : List ClassRequest) (consumer provider name : String) :
  ((ofRequests lang requests).providersOf consumer).Gives provider name
    ↔ ∃ earlier r, earlier ++ [r] <+: requests
      ∧ ⟨consumer, provider, name⟩ ∈ r.edges (ofRequests lang earlier)
  := by
  induction requests using List.reverseRecOn with
  | nil => simp [ofRequests, providersOf, Providers.not_gives_nil]
  | append_singleton requests last ih =>
    rw [ofRequests_append_singleton,
      ClassRequest.providersOf_resolve (wellFormed_ofRequests lang requests),
      Providers.gives_addAll, ih]
    simp only [List.prefix_concat_iff, List.append_singleton_inj]
    constructor
    · rintro (⟨⟨_, _, _⟩, he, rfl, rfl⟩ | ⟨earlier, r, hprefix, he⟩)
      · obtain ⟨hedge, hconsumer⟩ := List.mem_filter.mp he
        obtain rfl := of_decide_eq_true hconsumer
        exact ⟨requests, last, Or.inl ⟨rfl, rfl⟩, hedge⟩
      · exact ⟨earlier, r, Or.inr hprefix, he⟩
    · rintro ⟨earlier, r, ⟨rfl, rfl⟩ | hprefix, he⟩
      · left
        use ⟨consumer, provider, name⟩
        simp [he]
      · right
        exact ⟨earlier, r, hprefix, he⟩

/-- Whatever a class adds to each graph is in the graph after classes among which it is. -/
theorem gives_ofRequests_of_mem_edges {requests : List ClassRequest} {r : ClassRequest}
    (hr : r ∈ requests) {consumer provider name : String}
    (he : ∀ g, ⟨consumer, provider, name⟩ ∈ r.edges g) :
  ((ofRequests lang requests).providersOf consumer).Gives provider name
  := by
  obtain ⟨earlier, later, rfl⟩ := List.append_of_mem hr
  apply (gives_ofRequests _ _ _ _).mpr
  use earlier, r
  constructor
  · use later
    apply (List.append_cons earlier r later).symm
  · apply he

/-- What a file takes belongs to another file, and some class needs it. -/
theorem exists_needed_of_gives_ofRequests {requests : List ClassRequest}
    {consumer provider name : String}
    (h : ((ofRequests lang requests).providersOf consumer).Gives provider name) :
  provider ≠ consumer
    ∧ ∃ r ∈ requests, ∃ target ∈ r.needed, provider = r.homeOf target ∧ name = target.name
  := by
  obtain ⟨earlier, r, hprefix, he⟩ := (gives_ofRequests _ _ _ _).mp h
  obtain ⟨target, htarget, hprovider, hname, hne⟩ := ClassRequest.exists_needed_of_mem_edges he
  use hne, r
  constructor
  · apply hprefix.mem
    simp
  · use target, htarget

/-- The definition of a declaration that a class is the first to put into a file of types
refers to declarations there, or the file takes them. -/
theorem declares_or_gives_of_firstPlaces {requests : List ClassRequest} {path : String}
    {r : ClassRequest} {d target : Declaration} {t : TypeNode} {name : String}
    (h : FirstPlaces requests path r d) (ht : t ∈ d.innerTypes)
    (hname : name ∈ t.referencedNames)
    (htarget : r.program.declaration? name = some target) :
  r.Places path target
    ∨ r.homeOf target ≠ path
      ∧ ((ofRequests lang requests).providersOf path).Gives (r.homeOf target) target.name
  := by
  obtain ⟨earlier, hprefix, hplaces, hfirst⟩ := h
  have hneeded := Program.mem_needed_of_mem_innerTypes hplaces.mem_needed ht hname htarget
  by_cases hhome : r.homeOf target = path
  · left
    rcases ClassRequest.homeOf_eq_path_or_places hneeded with hlocal | htarget
    · apply absurd (hhome.symm.trans hlocal) hplaces.foreign
    · rw [hhome] at htarget
      apply htarget
  · right
    use hhome
    apply (gives_ofRequests _ _ _ _).mpr
    use earlier, r, hprefix
    apply (ClassRequest.mem_edges _).mpr
    right
    use d
    constructor
    · apply (ClassRequest.mem_placed d).mpr
      use hplaces.mem_needed
      right
      rw [hplaces.homeOf_eq, declares_ofRequests]
      rintro ⟨q, hq, e, he, heq⟩
      apply hfirst q hq e he heq
    · apply (ClassRequest.mem_definitionEdges d _).mpr
      use t, ht, name, hname, target, htarget
      rw [hplaces.homeOf_eq]
      exact ⟨hhome, rfl⟩

/-! ### Files of types -/

/-- What a file of types declares is what the first class of its name puts there. -/
theorem exists_firstPlaces_of_mem_toTypeFiles {requests : List ClassRequest}
    {package : Package} {f : TypeFile}
    (hf : f ∈ (ofRequests lang requests).toTypeFiles lang package) {s : SpelledDeclaration}
    (hs : s ∈ f.declarations) :
  ∃ r d, FirstPlaces requests f.path r d ∧ s = lang.spellDeclaration [] d
  := by
  have hwell := wellFormed_ofRequests lang requests
  rw [(declarations_of_mem_toTypeFiles hwell hf).1] at hs
  apply (mem_declarationsOf_ofRequests requests f.path s).mp hs

end ImportGraph

/-! ### Added declarations -/

namespace ClassRequest

variable {r : ClassRequest}

/-- The declarations that a class adds after earlier ones: those that belong to its own file,
and those of whose names no earlier class puts one where they belong. -/
def added (r : ClassRequest) (earlier : List ClassRequest) : List Declaration :=
  r.needed.filter fun d =>
    r.homeOf d = r.path ∨ ∀ q ∈ earlier, ∀ e ∈ q.homed (r.homeOf d), e.name ≠ d.name

theorem mem_added (earlier : List ClassRequest) (d : Declaration) :
  d ∈ r.added earlier
    ↔ d ∈ r.needed ∧ (r.homeOf d = r.path
      ∨ ∀ q ∈ earlier, ∀ e, q.Places (r.homeOf d) e → e.name ≠ d.name)
  := by simp [added, mem_homed]

theorem nodup_name_added (r : ClassRequest) (earlier : List ClassRequest) :
  ((r.added earlier).map DeclarationOf.name).Nodup
  := by
  have hsublist : ((r.added earlier).map DeclarationOf.name).Sublist
      (r.needed.map DeclarationOf.name) := List.filter_sublist.map _
  apply List.Pairwise.sublist hsublist
  apply Program.nodup_name_needed

/-- Of what a class adds, its own file declares what belongs to it. -/
theorem filter_isLocal_added (r : ClassRequest) (earlier : List ClassRequest) :
  (r.added earlier).filter r.isLocal = r.locals
  := by
  rw [added, locals, List.filter_filter]
  apply List.filter_congr
  intro d _
  by_cases hlocal : r.homeOf d = r.path
  · simp [isLocal, hlocal]
  · simp [isLocal, hlocal]

/-- A class places in the graph of earlier ones what it adds. -/
theorem placed_ofRequests (lang : Language) (r : ClassRequest)
    (earlier : List ClassRequest) :
  r.placed (ImportGraph.ofRequests lang earlier) = r.added earlier
  := by
  apply List.filter_congr
  intro d _
  have hdeclares := ImportGraph.declares_ofRequests lang earlier (r.homeOf d) d.name
  apply Bool.eq_iff_iff.mpr
  simp only [Bool.or_eq_true, Bool.not_eq_true', decide_eq_true_eq, mem_homed, isLocal]
  rw [← Bool.not_eq_true, hdeclares]
  grind

/-- A file of types declares what the classes add to it, one after the other. -/
theorem declarationsOf_resolve_ofRequests (lang : Language) (r : ClassRequest)
    (earlier : List ClassRequest) (path : String) :
  (r.resolve lang (ImportGraph.ofRequests lang earlier)).declarationsOf path
    = (ImportGraph.ofRequests lang earlier).declarationsOf path
      ++ ((r.added earlier).filter fun d => r.homeOf d = path ∧ path ≠ r.path).map
        (lang.spellDeclaration [])
  := by
  rw [declarationsOf_resolve (ImportGraph.wellFormed_ofRequests lang earlier),
    ← placed_ofRequests lang, homed, placed, List.filter_filter, List.filter_filter]
  congr 2
  apply List.filter_congr
  intro d _
  rw [isLocal]
  grind

end ClassRequest

/-- The files of types of classes, one after the other, have different paths, and each
declares something and no name twice. A file declares a name exactly when some class puts
a declaration of the name there, and it declares the declaration that the first such class
puts there, under its own names. -/
theorem toTypeFiles_ofRequests (lang : Language) (package : Package)
    (requests : List ClassRequest) :
  (((ImportGraph.ofRequests lang requests).toTypeFiles lang package).map
      TypeFile.path).Nodup
    ∧ (∀ f ∈ (ImportGraph.ofRequests lang requests).toTypeFiles lang package,
        f.declarations ≠ [] ∧ (f.declarations.map SpelledDeclaration.name).Nodup)
    ∧ (∀ path name,
        (∃ f ∈ (ImportGraph.ofRequests lang requests).toTypeFiles lang package,
          f.path = path ∧ ∃ s ∈ f.declarations, s.name = name)
        ↔ ∃ r ∈ requests, ∃ d, r.Places path d ∧ d.name = name)
    ∧ ∀ f ∈ (ImportGraph.ofRequests lang requests).toTypeFiles lang package,
        ∀ s ∈ f.declarations, ∃ r d, FirstPlaces requests f.path r d
          ∧ s = lang.spellDeclaration [] d
  := by
  have hwell := ImportGraph.wellFormed_ofRequests lang requests
  and_intros
  · apply ImportGraph.nodup_path_toTypeFiles hwell
  · intro f hf
    obtain ⟨hdeclarations, hne⟩ := ImportGraph.declarations_of_mem_toTypeFiles hwell hf
    use hne
    rw [hdeclarations]
    apply ImportGraph.nodup_name_declarationsOf_ofRequests
  · intro path name
    rw [ImportGraph.exists_mem_toTypeFiles_iff hwell, ImportGraph.declares_ofRequests]
  · intro f hf s hs
    apply ImportGraph.exists_firstPlaces_of_mem_toTypeFiles hf hs

theorem toTypeFiles_ofRequests_users :
  ∃ f ∈ (ImportGraph.ofRequests .dart [Example.usersRequest]).toTypeFiles .dart {},
    f.path = "types/profile" ∧ ∃ s ∈ f.declarations, s.name = "Profile"
  := by
  apply ((toTypeFiles_ofRequests .dart {} [Example.usersRequest]).2.2.1 _ _).mpr
  use Example.usersRequest, List.mem_singleton_self _, Example.profile, Example.places_profile
  rfl

end ClientGen
