import ClientGen.Proofs.Resolution.Reachability
import Mathlib.Data.List.Basic
import Mathlib.Data.List.Perm.Subperm
import Mathlib.Order.Bounds.Basic

/-!
# The search as a growing list

The search for the needed declarations is a loop over a list that grows at its end: each
pass looks into the next name and lists those of its successors that are not listed yet.
Every pass looks into another declared name, so the loop stops after as many passes as
there are needed declarations. What it has listed then is the least set of names that
holds the declared names of the signatures and, with each name, the declared names of its
definition.
-/

namespace ClientGen

namespace Closure

/-- A list of names that grows while it is looked through, and how many of its names have
been looked into. -/
structure Worklist where
  listed : List String
  cursor : Nat

/-- The list with a name, unless it is listed. -/
def push (listed : List String) (name : String) : List String :=
  if listed.contains name then listed else listed ++ [name]

namespace Worklist

/-- Looks into the next name, if there is one. -/
def step (next : String → List String) (w : Worklist) : Option Worklist :=
  (w.listed[w.cursor]?).map fun name => ⟨(next name).foldl push w.listed, w.cursor + 1⟩

/-- Looks into the next names, as many as are asked for. -/
def after (next : String → List String) : Nat → Worklist → Option Worklist
  | 0, w => some w
  | passes + 1, w => (w.step next).bind (after next passes)

end Worklist

/-- Of different names, those are listed anew that are not listed. -/
theorem foldl_push (listed names : List String) (distinct : names.Nodup) :
  names.foldl push listed = listed ++ names.filter fun name => !listed.contains name
  := by
  induction names generalizing listed with
  | nil => simp
  | cons name names ih =>
    obtain ⟨hname, distinct⟩ := List.nodup_cons.mp distinct
    rw [List.foldl_cons, ih _ distinct, push]
    by_cases hlisted : name ∈ listed
    · simp [hlisted]
    · have hfilter : (names.filter fun other => !(listed ++ [name]).contains other)
          = names.filter fun other => !listed.contains other := by
        apply List.filter_congr
        intro other hother
        have hne : other ≠ name := fun h => hname (h ▸ hother)
        simp [hne]
      rw [if_neg (by simpa using hlisted), hfilter, List.filter_cons,
        if_pos (by simpa using hlisted), List.append_assoc, List.singleton_append]

theorem eraseDups_of_nodup {names : List String} (distinct : names.Nodup) :
  names.eraseDups = names
  := by
  induction names with
  | nil => rfl
  | cons name names ih =>
    obtain ⟨hname, distinct⟩ := List.nodup_cons.mp distinct
    have hfilter : (names.filter fun other => !other == name) = names := by
      apply List.filter_eq_self.mpr
      intro other hother
      have hne : other ≠ name := fun h => hname (h ▸ hother)
      simp [hne]
    rw [List.eraseDups_cons, hfilter, ih distinct]

section

variable {next : String → List String}

/-- A search that has listed some names, of which it has still to look into the last ones,
makes a pass for each name that it goes on to list. -/
theorem after_explore (distinct : ∀ name, (next name).Nodup) {unseen queue done : List String}
    (hunseen : ∀ name, ∀ successor ∈ next name,
      successor ∈ unseen ↔ successor ∉ done ++ queue) :
  Worklist.after next (explore next unseen queue).length ⟨done ++ queue, done.length⟩
    = some ⟨done ++ explore next unseen queue,
      (done ++ explore next unseen queue).length⟩
  := by
  fun_induction explore next unseen queue generalizing done with
  | case1 => simp [Worklist.after]
  | case2 unseen name queue ih =>
    have hpass : (next name).foldl push (done ++ name :: queue)
        = (done ++ [name]) ++ (queue ++ discovered next unseen name) := by
      rw [foldl_push _ _ (distinct name), discovered, eraseDups_of_nodup (distinct name)]
      have hfilter : ((next name).filter fun successor =>
            !(done ++ name :: queue).contains successor)
          = (next name).filter unseen.contains := by
        apply List.filter_congr
        intro successor hsuccessor
        have := hunseen name successor hsuccessor
        rw [Bool.eq_iff_iff]
        simpa [List.contains_eq_mem] using this.symm
      rw [hfilter]
      simp
    have hstep : Worklist.step next ⟨done ++ name :: queue, done.length⟩
        = some ⟨(done ++ [name]) ++ (queue ++ discovered next unseen name),
          (done ++ [name]).length⟩ := by
      rw [Worklist.step, ← hpass]
      simp
    rw [List.length_cons, Worklist.after, hstep, Option.bind_some, ih]
    · simp
    · intro user successor hsuccessor
      have := hunseen user successor hsuccessor
      rw [mem_leftOver, this]
      simp only [List.mem_append, List.mem_cons, mem_discovered, List.mem_nil_iff, or_false]
      grind

/-- The loop lists the closure, with one pass for each of its names, and then stops. -/
theorem after_closure (distinct : ∀ name, (next name).Nodup) {domain seeds : List String}
    (hdomain : ∀ name, ∀ successor ∈ next name, successor ∈ domain) :
  Worklist.after next (closure next domain seeds).length ⟨seeds, 0⟩
      = some ⟨closure next domain seeds, (closure next domain seeds).length⟩
    ∧ Worklist.step next ⟨closure next domain seeds, (closure next domain seeds).length⟩ = none
  := by
  constructor
  · have hunseen : ∀ name, ∀ successor ∈ next name,
        successor ∈ leftOver domain seeds ↔ successor ∉ [] ++ seeds := by
      intro name successor hsuccessor
      rw [mem_leftOver, List.nil_append]
      exact and_iff_right (hdomain name successor hsuccessor)
    apply after_explore distinct hunseen
  · simp [Worklist.step]

end

end Closure

namespace Program

open Closure (Worklist)

variable {p : Program} {methods : List Method}

/-- A name stands for the first declaration of the program that has it. -/
def Resolves (p : Program) (name : String) (d : Declaration) : Prop :=
  d.name = name
    ∧ ∃ before after, p.declarations = before ++ d :: after ∧ ∀ e ∈ before, e.name ≠ name

theorem resolves_iff (name : String) (d : Declaration) :
  p.Resolves name d ↔ p.declaration? name = some d
  := by simp [Resolves, declaration?, List.find?_eq_some_iff_append]

/-- Names among which are those in the signatures of methods that stand for declarations,
and those in the definition of whatever one of the names stands for. -/
structure IsClosed (p : Program) (methods : List Method) (names : Set String) : Prop where
  signature : ∀ m ∈ methods, ∀ t ∈ m.signatureTypes, ∀ name ∈ t.referencedNames,
    ∀ d, p.Resolves name d → name ∈ names
  definition : ∀ user ∈ names, ∀ d, p.Resolves user d →
    ∀ t ∈ d.innerTypes, ∀ name ∈ t.referencedNames, ∀ e, p.Resolves name e → name ∈ names

/-- The needed names are closed, and they are among all closed names. -/
theorem isLeast_neededNames (p : Program) (methods : List Method) :
  IsLeast {names | p.IsClosed methods names} {name | name ∈ p.neededNames methods}
  := by
  constructor
  · constructor
    · intro m hm t ht name hname d hd
      have hd := (resolves_iff name d).mp hd
      apply (mem_neededNames name).mpr
      apply Reaches.signature hm ht hname (Option.isSome_of_eq_some hd)
    · intro user huser d hd t ht name hname e he
      have hd := (resolves_iff user d).mp hd
      have he := (resolves_iff name e).mp he
      apply (mem_neededNames name).mpr
      have huser := (mem_neededNames user).mp huser
      apply huser.definition hd ht hname (Option.isSome_of_eq_some he)
  · intro names hclosed name hneeded
    have hreach := (mem_neededNames name).mp hneeded
    clear hneeded
    induction hreach with
    | signature hm ht hname hsome =>
      obtain ⟨d, hd⟩ := Option.isSome_iff_exists.mp hsome
      apply hclosed.signature _ hm _ ht _ hname d ((resolves_iff _ d).mpr hd)
    | definition _ hd ht hname hsome ih =>
      obtain ⟨e, he⟩ := Option.isSome_iff_exists.mp hsome
      apply hclosed.definition _ ih _ ((resolves_iff _ _).mpr hd) _ ht _ hname e
        ((resolves_iff _ e).mpr he)

/-- The needed declarations are those that the needed names stand for, in their order. -/
theorem map_name_needed (p : Program) (methods : List Method) :
  (p.needed methods).map DeclarationOf.name = p.neededNames methods
  := by
  rw [needed, List.map_filterMap]
  apply Eq.trans _ List.filterMap_some
  apply List.filterMap_congr
  intro name hname
  obtain ⟨d, hd⟩ := Option.isSome_iff_exists.mp ((mem_neededNames name).mp hname).isSome
  rw [hd, Option.map_some, name_of_declaration? hd]

theorem nodup_nextNames (name : String) :
  (p.nextNames name).Nodup
  := by
  rw [nextNames]
  split
  · apply List.nodup_nil
  · apply nodup_namedBy

theorem mem_declaredNames_of_mem_nextNames {user name : String}
    (h : name ∈ p.nextNames user) :
  name ∈ p.declaredNames
  := by
  obtain ⟨d, -, hname⟩ := (mem_nextNames user name).mp h
  apply (isSome_declaration? name).mp ((mem_namedBy _ _).mp hname).2

/-- There are no more needed declarations than declarations. -/
theorem length_needed_le (p : Program) (methods : List Method) :
  (p.needed methods).length ≤ p.declarations.length
  := by
  have hsubset : p.neededNames methods ⊆ p.declarations.map DeclarationOf.name := by
    intro name hname
    have := (isSome_declaration? name).mp ((mem_neededNames name).mp hname).isSome
    simpa [declaredNames] using this
  have hlength := (List.subperm_of_subset nodup_neededNames hsubset).length_le
  rw [← map_name_needed, List.length_map, List.length_map] at hlength
  apply hlength

/-- The search for the needed declarations starts from the declared names of the signatures,
makes one pass for each needed declaration, no more than there are declarations, and stops
with their names. No name is listed twice, each stands for the first declaration of the
program that has it, and together they are the least closed set of names. -/
theorem isLeast_needed (p : Program) (methods : List Method) :
  (p.needed methods).length ≤ p.declarations.length
    ∧ Worklist.after p.nextNames (p.needed methods).length ⟨p.directNames methods, 0⟩
        = some ⟨(p.needed methods).map DeclarationOf.name, (p.needed methods).length⟩
    ∧ Worklist.step p.nextNames
        ⟨(p.needed methods).map DeclarationOf.name, (p.needed methods).length⟩ = none
    ∧ ((p.needed methods).map DeclarationOf.name).Nodup
    ∧ (∀ d ∈ p.needed methods, p.Resolves d.name d)
    ∧ IsLeast {names | p.IsClosed methods names}
        {name | name ∈ (p.needed methods).map DeclarationOf.name}
  := by
  have hlength : (p.needed methods).length = (p.neededNames methods).length := by
    rw [← map_name_needed, List.length_map]
  have hdeclared : ∀ user, ∀ name ∈ p.nextNames user, name ∈ p.declaredNames :=
    fun _ _ hname => mem_declaredNames_of_mem_nextNames hname
  obtain ⟨hafter, hstop⟩ :
      Worklist.after p.nextNames (p.neededNames methods).length ⟨p.directNames methods, 0⟩
          = some ⟨p.neededNames methods, (p.neededNames methods).length⟩
        ∧ Worklist.step p.nextNames ⟨p.neededNames methods, (p.neededNames methods).length⟩
          = none :=
    Closure.after_closure nodup_nextNames hdeclared
  use length_needed_le p methods
  rw [map_name_needed, hlength]
  use hafter, hstop, nodup_neededNames
  constructor
  · intro d hd
    apply (resolves_iff d.name d).mpr ((mem_needed d).mp hd).2
  · apply isLeast_neededNames

end Program

end ClientGen
