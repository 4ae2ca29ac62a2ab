import ClientGen.Proofs.Resolution.Fresh
import ClientGen.Proofs.Sorted
import ClientGen.Resolution.Class
import Mathlib.Data.Set.Function
import Mathlib.Logic.Relation
import Mathlib.Tactic.Use

/-!
# The search for new names

The new names in the file of a class are found one after the other. The candidates for a name are
tried in turn until one of them is free, which is given to the name and is taken from then on. As
many candidates are tried in vain as there are taken names at most, so the search ends, whatever the
names in the scope of the file are, and then it has given the new names.
-/

namespace ClientGen

namespace Fresh

/-- How far the search has come: the taken names, the names that still need a new one, how many
candidates have been tried in vain for the first of them, and the new names that have been given. -/
structure Search where
  taken : List String
  pending : List String
  tried : Nat
  given : Renames

namespace Search

/-- The search at its start: the class, the stub and all names in the scope are taken, and those in
the scope that are called like the class or the stub need a new name. -/
def start (className : String) (scope : List String) : Search where
  taken := className :: stubName :: scope
  pending := scope.filter fun name => name = className || name = stubName
  tried := 0
  given := []

/-- The next step of the search: a candidate is tried. -/
def step (s : Search) : Option Search :=
  match s.pending with
  | [] => none
  | name :: pending =>
    let fresh := candidate (name ++ "Model") s.tried
    if s.taken.contains fresh then some { s with tried := s.tried + 1 }
    else some ⟨fresh :: s.taken, pending, 0, s.given ++ [(name, fresh)]⟩

/-- One step leads from a search to another. -/
def Step (s t : Search) : Prop :=
  s.step = some t

/-- Steps lead from a search to another. -/
abbrev Reaches : Search → Search → Prop :=
  Relation.ReflTransGen Step

variable {s t : Search} {taken pending : List String} {given : Renames}

/-- A step tries the next candidate for the first name that needs one: it is taken, or it is given
to the name. -/
theorem step_iff :
  Step s t ↔ ∃ name pending, s.pending = name :: pending
    ∧ (candidate (name ++ "Model") s.tried ∈ s.taken ∧ t = { s with tried := s.tried + 1 }
      ∨ candidate (name ++ "Model") s.tried ∉ s.taken
        ∧ t = ⟨candidate (name ++ "Model") s.tried :: s.taken, pending, 0,
          s.given ++ [(name, candidate (name ++ "Model") s.tried)]⟩)
  := by
  obtain ⟨taken, pending, tried, given⟩ := s
  cases pending with
  | nil => simp [Step, step]
  | cons name pending =>
    by_cases h : candidate (name ++ "Model") tried ∈ taken
    · simp [Step, step, h, eq_comm]
    · simp [Step, step, h, eq_comm]

/-! ### The candidates that are tried -/

/-- The candidates that have been tried in vain are taken. -/
def TriedTaken (s : Search) : Prop :=
  ∀ m < s.tried, ∃ name ∈ s.pending.head?, candidate (name ++ "Model") m ∈ s.taken

theorem TriedTaken.step (h : s.TriedTaken) (hstep : Step s t) :
  t.TriedTaken
  := by
  obtain ⟨name, pending, hpending, ⟨htaken, rfl⟩ | ⟨-, rfl⟩⟩ := step_iff.mp hstep
  · intro m hm
    rcases Nat.lt_succ_iff_lt_or_eq.mp hm with hm | rfl
    · apply h m hm
    · exact ⟨name, by simp [hpending], htaken⟩
  · intro m hm
    cases hm

theorem TriedTaken.reaches (h : s.TriedTaken) (hreaches : Reaches s t) :
  t.TriedTaken
  := by
  induction hreaches with
  | refl => exact h
  | tail _ hstep ih => exact ih.step hstep

/-- Not more candidates are tried in vain than there are taken names. -/
theorem TriedTaken.tried_le (h : s.TriedTaken) :
  s.tried ≤ s.taken.length
  := by
  cases hpending : s.pending.head? with
  | none =>
    by_contra! hlt
    obtain ⟨name, hname, -⟩ := h 0 (by omega)
    rw [hpending] at hname
    cases hname
  | some name =>
    apply le_length_of_forall_candidate_mem (name ++ "Model")
    intro m hm
    obtain ⟨other, hother, hmem⟩ := h m hm
    rw [hpending] at hother
    rwa [Option.some.inj hother]

/-! ### The end of the search -/

/-- The search tries the candidates for a name up to the first one that is free, and gives it to the
name. -/
theorem reaches_given (taken : List String) (name : String) (pending : List String)
    (given : Renames) :
  Reaches ⟨taken, name :: pending, 0, given⟩
    ⟨freshName taken (name ++ "Model") :: taken, pending, 0,
      given ++ [(name, freshName taken (name ++ "Model"))]⟩
  := by
  obtain ⟨n, heq, hfree, htaken⟩ := exists_freshName_eq_candidate taken (name ++ "Model")
  have htries : ∀ m ≤ n,
      Reaches ⟨taken, name :: pending, 0, given⟩ ⟨taken, name :: pending, m, given⟩ := by
    intro m hm
    induction m with
    | zero => exact .refl
    | succ m ih =>
      apply (ih (by omega)).tail
      apply step_iff.mpr ⟨name, pending, rfl, .inl ⟨htaken m hm, rfl⟩⟩
  rw [heq]
  apply (htries n le_rfl).tail
  apply step_iff.mpr ⟨name, pending, rfl, .inr ⟨hfree, rfl⟩⟩

/-- The search ends, and has then given a new name to each of the names that needed one. -/
theorem exists_reaches (taken pending : List String) (given : Renames) :
  ∃ last, Reaches ⟨taken, pending, 0, given⟩ last ∧ last.step = none
    ∧ last.given = given ++ renamesFrom taken pending
  := by
  induction pending generalizing taken given with
  | nil => exact ⟨_, .refl, rfl, by simp [renamesFrom]⟩
  | cons name pending ih =>
    obtain ⟨last, hreaches, hend, hgiven⟩ := ih (freshName taken (name ++ "Model") :: taken)
      (given ++ [(name, freshName taken (name ++ "Model"))])
    refine ⟨last, (reaches_given taken name pending given).trans hreaches, hend, ?_⟩
    rw [hgiven, renamesFrom, List.append_assoc, List.singleton_append]

/-- No search goes on for ever if it can reach its end, because each has one next step. -/
theorem acc_of_reaches (hreaches : Reaches s t) (hend : t.step = none) :
  Acc (fun next s => Step s next) s
  := by
  induction hreaches using Relation.ReflTransGen.head_induction_on with
  | refl =>
    constructor
    intro next hstep
    rw [Step, hend] at hstep
    cases hstep
  | head hstep _ ih =>
    constructor
    intro next hnext
    rw [Step, hstep] at hnext
    rwa [← Option.some.inj hnext]

end Search

/-- Exactly the names in the scope that are called like the class or the stub have new names. -/
theorem mem_map_fst_classRenames (className : String) (scope : List String) (name : String) :
  name ∈ (classRenames className scope).map Prod.fst
    ↔ name ∈ scope ∧ (name = className ∨ name = stubName)
  := by simp [classRenames, map_fst_renamesFrom]

end Fresh

open Fresh

/-! ### The scope of a file -/

namespace ImportGraph

/-- The names in the scope of a file at a path: those of its own declarations, and those that it
takes from other files. -/
def scopeOf (g : ImportGraph) (path : String) (locals : List Declaration) : List String :=
  Sorted.ofTexts (locals.map DeclarationOf.name
    ++ (g.providersOf path).flatMap fun (_, names) => names)

end ImportGraph

/-- The file of a class spells declarations under the new names for its scope. -/
theorem ClassRequest.resolve_eq (r : ClassRequest) (lang : Language) (g : ImportGraph) :
  r.resolve lang g = (r.place lang g).setRenames r.path
    (classRenames r.className ((r.place lang g).scopeOf r.path r.locals))
  := rfl

/-- For every graph of imports, every class and every list of declarations in its file, the search
for new names ends, and not more candidates are tried in vain at any time than there are taken
names. Exactly the names in the scope that are called like the class or the stub have new names, and
different names of the scope are spelled differently, none of them like the class or the stub. -/
theorem ImportGraph.search_gives_classRenames (g : ImportGraph) (className path : String)
    (locals : List Declaration) :
  let scope := g.scopeOf path locals
  let renames := classRenames className scope
  Acc (fun next s => Search.Step s next) (Search.start className scope)
    ∧ (∃ last, Search.Reaches (Search.start className scope) last ∧ last.step = none
      ∧ last.given = renames)
    ∧ (∀ s, Search.Reaches (Search.start className scope) s → s.tried ≤ s.taken.length)
    ∧ (∀ name, name ∈ renames.map Prod.fst
      ↔ name ∈ scope ∧ (name = className ∨ name = stubName))
    ∧ {name | name ∈ scope}.InjOn renames.apply
    ∧ ∀ name ∈ scope, renames.apply name ≠ className ∧ renames.apply name ≠ stubName
  := by
  intro scope renames
  obtain ⟨last, hreaches, hend, hgiven⟩ := Search.exists_reaches (className :: stubName :: scope)
    (scope.filter fun name => name = className || name = stubName) []
  refine ⟨Search.acc_of_reaches hreaches hend, ⟨last, hreaches, hend, hgiven⟩, ?_, ?_, ?_, ?_⟩
  · intro s hs
    have hstart : (Search.start className scope).TriedTaken := fun m hm => nomatch hm
    apply (hstart.reaches hs).tried_le
  · apply mem_map_fst_classRenames
  · intro name hname other hother
    apply eq_of_apply_classRenames_eq hname hother
  · intro name hname
    apply apply_classRenames_ne hname

-- The first candidate for the stub is the class, and the second one a declaration.
example :
  classRenames "RemoteModel" ["Remote", "RemoteModel", "RemoteModel2", "RemoteModelModel"]
    = [("Remote", "RemoteModel3"), ("RemoteModel", "RemoteModelModel2")]
  := by decide

end ClientGen
