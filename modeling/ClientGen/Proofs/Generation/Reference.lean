import ClientGen.Proofs.Generation.Offers
import ClientGen.Proofs.Resolution.Names

/-!
# References between files, whatever the language

The languages differ in the paths of the files of classes. If no declaration has the file of
a class as its home, then this is all in which they differ: the declarations that classes
put into the files of types, and the references from one file to another, are the pictures
of declarations and references that do not depend on the language.
-/

namespace ClientGen

/-! ### Files -/

/-- A file of a library, whatever the language: the file of a class, or a file of types. -/
inductive FileRef where
  | ofClass (className : String)
  | ofTypes (path : String)
deriving DecidableEq

/-- The path of a file in a language. -/
def FileRef.path (lang : Language) : FileRef → String
  | .ofClass className => lang.proxyModule className
  | .ofTypes path => path

/-- Options with another language. -/
def Options.inLanguage (o : Options) (lang : Language) : Options :=
  { o with language := lang }

theorem Language.proxyModule_eq_iff (lang : Language) (className other : String) :
  lang.proxyModule className = lang.proxyModule other
    ↔ Language.lowerFirst className = Language.lowerFirst other
  := String.append_left_inj _

namespace Offer

/-- The file of a class. -/
def file (x : Offer) : FileRef :=
  .ofClass x.remoteClass.name

/-- The file that a declaration belongs to. -/
def homeOf (x : Offer) (d : Declaration) : FileRef :=
  match d.home? with
  | none => x.file
  | some home =>
    if Module.normalize home = "" then x.file else .ofTypes (Module.normalize home)

end Offer

/-- Two of the classes have the same file only if they have the same name, and no
declaration of their programs has one of these files as its home, whatever the language. -/
structure Separate (offers : List Offer) : Prop where
  distinct : ∀ x ∈ offers, ∀ y ∈ offers,
    Language.lowerFirst x.remoteClass.name = Language.lowerFirst y.remoteClass.name →
      x.remoteClass.name = y.remoteClass.name
  homes : ∀ x ∈ offers, ∀ d ∈ x.program.declarations, ∀ home ∈ d.home?, ∀ y ∈ offers,
    ∀ lang : Language, Module.normalize home ≠ lang.proxyModule y.remoteClass.name

/-- The files of classes, and the homes of the declarations of their programs. -/
inductive IsFile (offers : List Offer) : FileRef → Prop where
  | ofClass {x : Offer} : x ∈ offers → IsFile offers x.file
  | ofTypes {x : Offer} {d : Declaration} {home : String} :
      x ∈ offers → d ∈ x.program.declarations → home ∈ d.home? →
      IsFile offers (.ofTypes (Module.normalize home))

section

variable {offers : List Offer} {x : Offer}

theorem IsFile.homeOf (hx : x ∈ offers) {d : Declaration}
    (hd : d ∈ x.program.declarations) :
  IsFile offers (x.homeOf d)
  := by
  rw [Offer.homeOf]
  cases hhome : d.home? with
  | none => apply IsFile.ofClass hx
  | some home =>
    dsimp only
    split
    case isTrue => apply IsFile.ofClass hx
    case isFalse => apply IsFile.ofTypes hx hd hhome

/-- Different files have different paths in every language. -/
theorem Separate.path_eq_iff (h : Separate offers) {f g : FileRef} (hf : IsFile offers f)
    (hg : IsFile offers g) (lang : Language) :
  f.path lang = g.path lang ↔ f = g
  := by
  constructor
  · intro heq
    cases hf with
    | @ofClass x hx =>
      cases hg with
      | @ofClass y hy =>
        have hname := h.distinct x hx y hy ((lang.proxyModule_eq_iff _ _).mp heq)
        rw [Offer.file, Offer.file, hname]
      | @ofTypes y d home hy hd hhome =>
        apply absurd heq.symm (h.homes y hy d hd home hhome x hx lang)
    | @ofTypes x d home hx hd hhome =>
      cases hg with
      | @ofClass y hy => apply absurd heq (h.homes x hx d hd home hhome y hy lang)
      | ofTypes _ _ _ => apply congrArg FileRef.ofTypes heq
  · rintro rfl
    rfl

end

/-! ### Declarations -/

/-- The declarations that a class needs. -/
def Options.needed (o : Options) (x : Offer) : List Declaration :=
  x.program.needed (o.qualifying x.remoteClass)

/-- The needed declarations that belong to the file of the class, or that no earlier class
has put where they belong. -/
def Options.placed (o : Options) (earlier : List Offer) (x : Offer) : List Declaration :=
  (o.needed x).filter fun d => x.homeOf d = x.file
    || !earlier.any fun y => (o.needed y).any fun e => y.homeOf e = x.homeOf d && e.name = d.name

section

variable {o : Options} {offers : List Offer} {x : Offer}

theorem homeOf_request (o : Options) (x : Offer) (d : Declaration) :
  (o.request x).homeOf d = (x.homeOf d).path o.language
  := by
  rw [ClassRequest.homeOf, DeclarationOf.homeIn, Offer.homeOf]
  cases d.home? with
  | none => rfl
  | some home =>
    dsimp only
    split
    · rfl
    · rfl

/-- A declaration that does not belong to the file of the class belongs to a file of types. -/
theorem exists_homeOf_eq_ofTypes {d : Declaration} (h : x.homeOf d ≠ x.file) :
  ∃ path, x.homeOf d = .ofTypes path
  := by
  rw [Offer.homeOf] at h ⊢
  cases hhome : d.home? with
  | none =>
    rw [hhome] at h
    contradiction
  | some home =>
    rw [hhome] at h
    dsimp only at h ⊢
    split at h
    case isTrue => contradiction
    case isFalse hne => exact ⟨_, if_neg hne⟩

theorem mem_declarations_of_mem_needed {d : Declaration} (h : d ∈ o.needed x) :
  d ∈ x.program.declarations
  := @ClassRequest.mem_declarations_of_mem_needed (o.request x) d h

variable (h : Separate offers) (hx : x ∈ offers)

include h hx

theorem homeOf_request_eq_path_iff {d : Declaration} (hd : d ∈ x.program.declarations) :
  (o.request x).homeOf d = (o.request x).path ↔ x.homeOf d = x.file
  := by
  rw [homeOf_request]
  apply h.path_eq_iff (IsFile.homeOf hx hd) (IsFile.ofClass hx)

theorem isLocal_request {d : Declaration} (hd : d ∈ x.program.declarations) :
  (o.request x).isLocal d = decide (x.homeOf d = x.file)
  := by
  rw [ClassRequest.isLocal]
  apply decide_eq_decide.mpr
  apply homeOf_request_eq_path_iff h hx hd

/-- The declarations that a class puts into a file of types are those it needs that belong
there, whatever the language. -/
theorem places_request_iff (path : String) (d : Declaration) :
  (o.request x).Places path d ↔ d ∈ o.needed x ∧ x.homeOf d = .ofTypes path
  := by
  constructor
  · intro hplaces
    have hneeded := hplaces.mem_needed
    use hneeded
    have hpath := hplaces.homeOf_eq
    have hforeign := hplaces.foreign
    rw [homeOf_request] at hpath
    rw [Offer.homeOf] at hpath ⊢
    cases hhome : d.home? with
    | none =>
      rw [hhome] at hpath
      apply absurd hpath.symm hforeign
    | some home =>
      rw [hhome] at hpath
      dsimp only at hpath ⊢
      split at hpath
      case isTrue => apply absurd hpath.symm hforeign
      case isFalse hne =>
        rw [if_neg hne]
        apply congrArg FileRef.ofTypes hpath
  · rintro ⟨hneeded, hhome⟩
    have hd := mem_declarations_of_mem_needed hneeded
    have hpath : (o.request x).homeOf d = path := by
      rw [homeOf_request, hhome]
      rfl
    have hneeded : d ∈ (o.request x).needed := hneeded
    rcases ClassRequest.homeOf_eq_path_or_places hneeded with hlocal | hplaces
    · rw [homeOf_request_eq_path_iff h hx hd, hhome] at hlocal
      cases hlocal
    · rw [hpath] at hplaces
      apply hplaces

end

section

variable {o : Options} {offers earlier : List Offer} {x : Offer} (h : Separate offers)

include h

/-- A file of types declares the names of the declarations that classes need and that belong
there, whatever the language. -/
theorem declares_requests_iff (hearlier : earlier ⊆ offers) (path name : String) :
  (ImportGraph.ofRequests o.language (earlier.map o.request)).declares path name
    ↔ ∃ y ∈ earlier, ∃ e ∈ o.needed y, y.homeOf e = .ofTypes path ∧ e.name = name
  := by
  rw [ImportGraph.declares_ofRequests]
  constructor
  · rintro ⟨r, hr, e, he, rfl⟩
    obtain ⟨y, hy, rfl⟩ := List.mem_map.mp hr
    obtain ⟨hneeded, hhome⟩ := (places_request_iff h (hearlier hy) path e).mp he
    exact ⟨y, hy, e, hneeded, hhome, rfl⟩
  · rintro ⟨y, hy, e, hneeded, hhome, rfl⟩
    use o.request y, List.mem_map_of_mem hy, e
    use (places_request_iff h (hearlier hy) path e).mpr ⟨hneeded, hhome⟩

/-- The declarations that a class adds after others do not depend on the language. -/
theorem placed_request (hearlier : earlier ⊆ offers) (hx : x ∈ offers) :
  (o.request x).placed (ImportGraph.ofRequests o.language (earlier.map o.request))
    = o.placed earlier x
  := by
  rw [ClassRequest.placed, Options.placed]
  apply List.filter_congr
  intro d hd
  have hd := mem_declarations_of_mem_needed hd
  rw [isLocal_request h hx hd]
  by_cases hlocal : x.homeOf d = x.file
  · simp [hlocal]
  · obtain ⟨path, hpath⟩ := exists_homeOf_eq_ofTypes hlocal
    have hdeclares : (ImportGraph.ofRequests o.language (earlier.map o.request)).declares path
        d.name = earlier.any fun y => (o.needed y).any fun e =>
          y.homeOf e = .ofTypes path && e.name = d.name := by
      rw [Bool.eq_iff_iff, declares_requests_iff h hearlier]
      simp
    rw [homeOf_request, hpath, ← hdeclares]
    rfl

end

/-- The declarations in the file of a class do not depend on the language. -/
theorem locals_request {o : Options} {offers : List Offer} {x : Offer} (h : Separate offers)
    (hx : x ∈ offers) :
  (o.request x).locals = (o.needed x).filter fun d => x.homeOf d = x.file
  := by
  rw [ClassRequest.locals]
  apply List.filter_congr
  intro d hd
  apply isLocal_request h hx (mem_declarations_of_mem_needed hd)

/-! ### References -/

/-- One file refers to a name that another one provides. -/
@[ext]
structure Reference where
  consumer : FileRef
  provider : FileRef
  name : String
deriving DecidableEq

/-- A reference as an edge of the graph in a language. -/
def Reference.edge (lang : Language) (ref : Reference) : Edge :=
  ⟨ref.consumer.path lang, ref.provider.path lang, ref.name⟩

namespace Offer

/-- The references from a file to declared names that belong to other files. -/
def referencesFrom (x : Offer) (consumer : FileRef) (names : List String) :
    List Reference :=
  ((names.filterMap x.program.declaration?).map fun d =>
    ⟨consumer, x.homeOf d, d.name⟩).filter fun ref => ref.provider ≠ consumer

/-- The references of the signatures of methods. -/
def signatureReferences (x : Offer) (methods : List Method) : List Reference :=
  x.referencesFrom x.file (x.program.directNames methods)

/-- The references of the definitions of declarations, and of the signatures of methods. -/
def references (x : Offer) (placed : List Declaration) (methods : List Method) :
    List Reference :=
  (placed.flatMap fun d => x.referencesFrom (x.homeOf d) (x.program.namedBy d.innerTypes))
    ++ x.signatureReferences methods

end Offer

section

variable {o : Options} {offers : List Offer} {x : Offer} (h : Separate offers)
  (hx : x ∈ offers)

include h hx

theorem edgesFrom_request {consumer : FileRef} (hconsumer : IsFile offers consumer)
    (names : List String) :
  (o.request x).edgesFrom (consumer.path o.language) names
    = (x.referencesFrom consumer names).map (Reference.edge o.language)
  := by
  rw [ClassRequest.edgesFrom, Offer.referencesFrom, List.filter_map, List.filter_map,
    List.map_map]
  have hfilter : (names.filterMap x.program.declaration?).filter
        ((fun e : Edge => decide (e.provider ≠ consumer.path o.language)) ∘ fun d =>
          ⟨consumer.path o.language, (o.request x).homeOf d, d.name⟩)
      = (names.filterMap x.program.declaration?).filter
        ((fun ref : Reference => decide (ref.provider ≠ consumer)) ∘ fun d =>
          ⟨consumer, x.homeOf d, d.name⟩) := by
    apply List.filter_congr
    intro d hd
    obtain ⟨name, -, hd⟩ := List.mem_filterMap.mp hd
    have hd := Program.mem_declarations_of_declaration? hd
    apply decide_eq_decide.mpr
    dsimp only
    rw [homeOf_request, ne_eq, ne_eq, h.path_eq_iff (IsFile.homeOf hx hd) hconsumer]
  rw [← hfilter]
  apply List.map_congr_left
  intro d _
  dsimp only [Function.comp_apply, Reference.edge]
  rw [homeOf_request]

theorem signatureEdges_request :
  (o.request x).signatureEdges
    = (x.signatureReferences (o.qualifying x.remoteClass)).map (Reference.edge o.language)
  := edgesFrom_request h hx (IsFile.ofClass hx) _

/-- The edges of a class are the pictures of its references. -/
theorem edges_request (g : ImportGraph) :
  (o.request x).edges g
    = (x.references ((o.request x).placed g) (o.qualifying x.remoteClass)).map
        (Reference.edge o.language)
  := by
  rw [ClassRequest.edges, Offer.references, List.map_append, signatureEdges_request h hx,
    List.map_flatMap]
  congr 1
  apply List.flatMap_congr
  intro d hd
  have hd := mem_declarations_of_mem_needed ((ClassRequest.mem_placed d).mp hd).1
  rw [ClassRequest.definitionEdges, homeOf_request]
  apply edgesFrom_request h hx (IsFile.homeOf hx hd)

end

theorem consumer_of_mem_referencesFrom {x : Offer} {consumer : FileRef}
    {names : List String} {ref : Reference} (href : ref ∈ x.referencesFrom consumer names) :
  ref.consumer = consumer
  := by
  obtain ⟨d, _, rfl⟩ := List.mem_map.mp (List.mem_filter.mp href).1
  rfl

theorem isFile_of_mem_referencesFrom {offers : List Offer} {x : Offer} (hx : x ∈ offers)
    {consumer : FileRef} (hconsumer : IsFile offers consumer) {names : List String}
    {ref : Reference} (href : ref ∈ x.referencesFrom consumer names) :
  IsFile offers ref.consumer ∧ IsFile offers ref.provider
  := by
  obtain ⟨d, hd, rfl⟩ := List.mem_map.mp (List.mem_filter.mp href).1
  obtain ⟨name, -, hd⟩ := List.mem_filterMap.mp hd
  use hconsumer
  apply IsFile.homeOf hx (Program.mem_declarations_of_declaration? hd)

end ClientGen
