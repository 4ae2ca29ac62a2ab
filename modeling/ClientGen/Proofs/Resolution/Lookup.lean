import ClientGen.Proofs.Resolution.Class
import Mathlib.Data.List.Basic

/-!
# Programs that declare the same under the same names

What a class takes from its program are the declarations that the program declares under
the names that the class mentions: those in the types of its methods and in the definitions
of the declarations that it needs. So a program may be replaced by another one that declares
the same under these names.
-/

namespace ClientGen

/-- A search lists the same if the names it lists have the same successors, and the same
ones of these have not been seen. -/
theorem Closure.explore_congr {next next' : String → List String}
    {unseen unseen' queue : List String}
    (hnext : ∀ name ∈ explore next unseen queue, next' name = next name)
    (hunseen : ∀ name ∈ explore next unseen queue, ∀ successor ∈ next name,
      successor ∈ unseen' ↔ successor ∈ unseen) :
  explore next' unseen' queue = explore next unseen queue
  := by
  fun_induction explore next unseen queue generalizing unseen' with
  | case1 => rw [explore]
  | case2 unseen name queue ih =>
    have hdiscovered : discovered next' unseen' name = discovered next unseen name := by
      rw [discovered, discovered, hnext name List.mem_cons_self]
      apply List.filter_congr
      intro successor hsuccessor
      have := hunseen name List.mem_cons_self successor (by simpa using hsuccessor)
      simp [this]
    rw [explore, hdiscovered, ih]
    · intro other hother
      apply hnext other (List.mem_cons_of_mem _ hother)
    · intro other hother successor hsuccessor
      rw [mem_leftOver, mem_leftOver,
        hunseen other (List.mem_cons_of_mem _ hother) successor hsuccessor]

namespace Program

/-- The names that methods mention: in the types of their signatures, and in the
definitions of the declarations that they need. -/
inductive Mentions (p : Program) (methods : List Method) : String → Prop where
  | signature {m : Method} {t : TypeNode} {name : String} :
      m ∈ methods → t ∈ m.signatureTypes → name ∈ t.referencedNames →
      Mentions p methods name
  | definition {d : Declaration} {t : TypeNode} {name : String} :
      d ∈ p.needed methods → t ∈ d.innerTypes → name ∈ t.referencedNames →
      Mentions p methods name

/-- A name that can be reached is mentioned. -/
theorem Reaches.mentions {p : Program} {methods : List Method} {name : String}
    (h : p.Reaches methods name) :
  p.Mentions methods name
  := by
  cases h with
  | signature hm ht hname _ => apply Mentions.signature hm ht hname
  | @definition user _ d _ huser hd ht hname _ =>
    obtain rfl := name_of_declaration? hd
    apply Mentions.definition _ ht hname
    apply (mem_needed d).mpr
    exact ⟨huser, hd⟩

/-- A mentioned name occurs in a signature, or in the definition of some declaration. -/
theorem Mentions.exists_mem_referencedNames {p : Program} {methods : List Method}
    {name : String} (h : p.Mentions methods name) :
  ∃ t ∈ methods.flatMap Method.signatureTypes
      ++ p.declarations.flatMap DeclarationOf.innerTypes,
    name ∈ t.referencedNames
  := by
  cases h with
  | @signature m t _ hm ht hname =>
    use t
    constructor
    · apply List.mem_append_left
      apply List.mem_flatMap_of_mem hm ht
    · apply hname
  | @definition d t _ hd ht hname =>
    use t
    constructor
    · apply List.mem_append_right
      apply List.mem_flatMap_of_mem _ ht
      apply mem_declarations_of_declaration? ((mem_needed d).mp hd).2
    · apply hname

/-- A program declares the same as `p` under the names that methods mention. -/
def Resembles (q p : Program) (methods : List Method) : Prop :=
  ∀ name, p.Mentions methods name → q.declaration? name = p.declaration? name

section

variable {p q : Program} {methods : List Method} (h : q.Resembles p methods)

include h

theorem Resembles.namedBy_eq {types : List TypeNode}
    (hmentions : ∀ t ∈ types, ∀ name ∈ t.referencedNames, p.Mentions methods name) :
  q.namedBy types = p.namedBy types
  := by
  rw [namedBy, namedBy]
  apply List.filter_congr
  intro name hname
  obtain ⟨t, ht, hname⟩ := List.mem_flatMap.mp (List.mem_eraseDups.mp hname)
  rw [h name (hmentions t ht name (List.mem_eraseDups.mpr hname))]

theorem Resembles.namedBy_innerTypes {d : Declaration} (hd : d ∈ p.needed methods) :
  q.namedBy d.innerTypes = p.namedBy d.innerTypes
  := by
  apply h.namedBy_eq
  intro t ht name hname
  apply Mentions.definition hd ht hname

theorem Resembles.directNames_eq :
  q.directNames methods = p.directNames methods
  := by
  apply h.namedBy_eq
  intro t ht name hname
  obtain ⟨m, hm, ht⟩ := List.mem_flatMap.mp ht
  apply Mentions.signature hm ht hname

theorem Resembles.nextNames_eq {name : String} (hname : name ∈ p.neededNames methods) :
  q.nextNames name = p.nextNames name
  := by
  have hreach := (mem_neededNames name).mp hname
  rw [nextNames, nextNames, h name hreach.mentions]
  cases hd : p.declaration? name with
  | none => rfl
  | some d =>
    apply h.namedBy_innerTypes
    apply (mem_needed d).mpr
    rw [name_of_declaration? hd]
    exact ⟨hreach, hd⟩

/-- The same names can be reached, and they are discovered in the same order. -/
theorem Resembles.neededNames_eq :
  q.neededNames methods = p.neededNames methods
  := by
  rw [neededNames, neededNames, h.directNames_eq, Closure.closure, Closure.closure]
  apply Closure.explore_congr
  · intro name hname
    apply h.nextNames_eq hname
  · intro name hname successor hsuccessor
    obtain ⟨d, hd, hsuccessor⟩ := (mem_nextNames name successor).mp hsuccessor
    obtain ⟨⟨t, ht, hmentioned⟩, hsome⟩ := (mem_namedBy _ _).mp hsuccessor
    have hreach := (mem_neededNames name).mp hname
    have hsame := h successor (hreach.definition hd ht hmentioned hsome).mentions
    rw [Closure.mem_leftOver, Closure.mem_leftOver, ← isSome_declaration?,
      ← isSome_declaration?, hsame]

theorem Resembles.needed_eq :
  q.needed methods = p.needed methods
  := by
  rw [needed, needed, h.neededNames_eq]
  apply List.filterMap_congr
  intro name hname
  apply h name ((mem_neededNames name).mp hname).mentions

end

end Program

/-! ### Classes -/

namespace ClassRequest

/-- A class with another program. -/
def within (r : ClassRequest) (q : Program) : ClassRequest :=
  { r with program := q }

section

variable {r : ClassRequest} {q : Program} (h : q.Resembles r.program r.methods)

include h

theorem needed_within :
  (r.within q).needed = r.needed
  := h.needed_eq

theorem locals_within :
  (r.within q).locals = r.locals
  := by rw [locals, needed_within h]; rfl

theorem placed_within (g : ImportGraph) :
  (r.within q).placed g = r.placed g
  := by rw [placed, needed_within h]; rfl

theorem edgesFrom_within (consumer : String) {names : List String}
    (hmentions : ∀ name ∈ names, r.program.Mentions r.methods name) :
  (r.within q).edgesFrom consumer names = r.edgesFrom consumer names
  := by
  have hdeclarations : names.filterMap q.declaration?
      = names.filterMap r.program.declaration? := by
    apply List.filterMap_congr
    intro name hname
    apply h name (hmentions name hname)
  rw [edgesFrom, edgesFrom, ← hdeclarations]
  rfl

theorem definitionEdges_within {d : Declaration} (hd : d ∈ r.needed) :
  (r.within q).definitionEdges d = r.definitionEdges d
  := by
  have hnames : (r.within q).program.namedBy d.innerTypes
      = r.program.namedBy d.innerTypes := h.namedBy_innerTypes hd
  rw [definitionEdges, definitionEdges, hnames]
  apply edgesFrom_within h
  intro name hname
  obtain ⟨⟨t, ht, hname⟩, -⟩ := (Program.mem_namedBy _ _).mp hname
  apply Program.Mentions.definition hd ht hname

theorem signatureEdges_within :
  (r.within q).signatureEdges = r.signatureEdges
  := by
  have hnames : (r.within q).program.directNames (r.within q).methods
      = r.program.directNames r.methods := h.directNames_eq
  rw [signatureEdges, signatureEdges, hnames]
  apply edgesFrom_within h
  intro name hname
  obtain ⟨⟨m, hm, t, ht, hname⟩, -⟩ := (Program.mem_directNames name).mp hname
  apply Program.Mentions.signature hm ht hname

theorem exported_within :
  (r.within q).exported = r.exported
  := by rw [exported, signatureEdges_within h, exported]

theorem edges_within (g : ImportGraph) :
  (r.within q).edges g = r.edges g
  := by
  rw [edges, edges, placed_within h, signatureEdges_within h]
  congr 1
  apply List.flatMap_congr
  intro d hd
  apply definitionEdges_within h ((mem_placed d).mp hd).1

/-- A class does the same to a graph if its program is replaced by one that declares the
same under the names that the class mentions. -/
theorem resolve_within (lang : Language) (g : ImportGraph) :
  (r.within q).resolve lang g = r.resolve lang g
  := by
  have hdeclared : (r.within q).declared lang g = r.declared lang g := by
    rw [declared, placed_within h]
    rfl
  have hscope (g : ImportGraph) : (r.within q).scope g = r.scope g := by
    rw [scope, locals_within h]
    rfl
  rw [resolve, resolve, place_eq, place_eq, edges_within h, hdeclared, hscope]
  rfl

/-- The file of a class takes the same from a graph if its program is replaced by one that
declares the same under the names that the class mentions. -/
theorem importsFrom_within (lang : Language) (g : ImportGraph) :
  (r.within q).importsFrom lang g = r.importsFrom lang g
  := by
  rw [importsFrom, exported_within h, locals_within h]
  rfl

end

end ClassRequest

end ClientGen
