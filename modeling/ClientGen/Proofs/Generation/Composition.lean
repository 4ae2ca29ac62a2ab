import ClientGen.Proofs.Generation.Offers
import Mathlib.Data.List.Nodup

/-!
# Runs are composed of runs for one program

If the classes that the programs offer have different files, and no declaration has the
file of another class as its home, then what a run writes for a class does not depend on
the other classes: the files of classes are those that the runs for each single program
write, one after the other. The files of types declare together what they declare in the
runs for single programs.
-/

namespace ClientGen

namespace Options

variable {o : Options}

theorem accepted_singleton (p : Program) :
  o.accepted [p] = (o.offer? p).toList
  := by
  have hoffer : [p].filterMap o.offer? = (o.offer? p).toList := by
    cases hp : o.offer? p with
    | none => simp [hp]
    | some x => simp [hp]
  rw [accepted_of_nodup, hoffer]
  rw [hoffer]
  cases o.offer? p with
  | none => apply List.nodup_nil
  | some x => apply List.nodup_singleton

end Options

namespace Run

variable {o : Options} {programs : List Program}

/-- The run for one program writes the file of the class that it offers. -/
theorem classFiles_singleton (o : Options) (p : Program) :
  (ofPrograms o [p]).classFiles
    = (o.offer? p).toList.map fun x => o.fileOf x ((o.request x).resolve o.language {})
  := by
  rw [classFiles_ofPrograms, Options.accepted_singleton]
  rw [Options.requests, Options.accepted_singleton]
  cases o.offer? p with
  | none => simp [HomesApart]
  | some x => simp [HomesApart]

end Run

/-- If programs offer classes with different files and the homes are apart, then the files
of classes of their run are, in order, those of the runs for each program alone. In the
written library these come first, before the files of types; and the files of types declare
the names that they declare in some run for one program alone. -/
theorem generate_eq_of_singletons (o : Options) (programs : List Program)
    (distinct : ((programs.filterMap o.offer?).map fun x => (o.request x).path).Nodup)
    (apart : HomesApart ((programs.filterMap o.offer?).map o.request)) :
  (Run.ofPrograms o programs).classArtifacts o
      = programs.flatMap (fun p => (Run.ofPrograms o [p]).classArtifacts o)
    ∧ (∀ out, generate o programs = .ok out →
        out.artifacts = programs.flatMap (fun p => (Run.ofPrograms o [p]).classArtifacts o)
          ++ (Run.ofPrograms o programs).typeArtifacts o ++ [Run.stubArtifact o])
    ∧ ∀ path name,
        (∃ f ∈ (Run.ofPrograms o programs).graph.toTypeFiles o.language o.package,
          f.path = path ∧ ∃ s ∈ f.declarations, s.name = name)
        ↔ ∃ p ∈ programs,
          ∃ f ∈ (Run.ofPrograms o [p]).graph.toTypeFiles o.language o.package,
            f.path = path ∧ ∃ s ∈ f.declarations, s.name = name
  := by
  have haccepted := Options.accepted_of_nodup distinct
  have hclasses : (Run.ofPrograms o programs).classArtifacts o
      = programs.flatMap fun p => (Run.ofPrograms o [p]).classArtifacts o := by
    simp only [Run.classArtifacts, Run.classFiles_singleton]
    rw [Run.classFiles_ofPrograms (by rw [Options.requests, haccepted]; apply apart),
      haccepted, List.filterMap_eq_flatMap_toList]
    simp only [List.map_flatMap]
  and_intros
  · apply hclasses
  · intro out hout
    cases hcheck : o.package.check with
    | ok _ =>
      rw [generate, hcheck] at hout
      obtain rfl := Except.ok.inj hout
      rw [← hclasses]
      rfl
    | error _ =>
      rw [generate, hcheck] at hout
      cases hout
  · intro path name
    simp only [Run.exists_mem_typeFiles_ofPrograms_iff, haccepted,
      Options.accepted_singleton, List.mem_filterMap, Option.mem_toList]
    constructor
    · rintro ⟨x, ⟨p, hp, hx⟩, hplaces⟩
      exact ⟨p, hp, x, hx, hplaces⟩
    · rintro ⟨p, hp, x, hx, hplaces⟩
      exact ⟨x, ⟨p, hp, hx⟩, hplaces⟩

theorem classArtifacts_users_accounts :
  (([Example.users, Example.accounts].filterMap (Options.offer? { language := .dart })).map
      fun x => (Options.request { language := .dart } x).path).Nodup
    ∧ HomesApart (([Example.users, Example.accounts].filterMap
      (Options.offer? { language := .dart })).map (Options.request { language := .dart }))
    ∧ (Run.ofPrograms { language := .dart } [Example.users, Example.accounts]).classArtifacts
        { language := .dart }
      = (Run.ofPrograms { language := .dart } [Example.users]).classArtifacts
          { language := .dart }
        ++ (Run.ofPrograms { language := .dart } [Example.accounts]).classArtifacts
          { language := .dart }
  := by
  and_intros
  · decide
  · decide
  · have hclasses := (generate_eq_of_singletons { language := .dart }
      [Example.users, Example.accounts] (by decide) (by decide)).1
    rw [hclasses]
    simp

end ClientGen
