import ClientGen.Proofs.Generation.Paths
import ClientGen.Proofs.Generation.Reports

/-!
# What a run writes and leaves out

Each program of a run is accounted for. Either the file of its first class is written, with
one member for each method that is offered, or the run reports why nothing is written for
the program; and each further class of a program is reported. The files of classes stand in
the order of the programs, after them the files of types in the order of their paths, and
the stub is the last file.
-/

namespace ClientGen

/-! ### Members -/

/-- A method as a member of the class of a file. -/
def SpelledMethod.member (className : String) : Language → SpelledMethod → String
  | .typescript => SpelledMethod.typescript className
  | .python => SpelledMethod.python
  | .dart => SpelledMethod.dart

/-- The text of the file of a class has one member for each method in turn, between texts
that do not depend on the methods. -/
theorem ClassFile.exists_text_eq (f : ClassFile) (lang : Language) :
  ∃ opening closing, ∀ methods, { f with methods := methods }.text lang
    = opening ++ Render.each methods (SpelledMethod.member f.name lang) ++ closing
  := by
  cases lang with
  | typescript =>
    unfold text typescript SpelledMethod.member
    dsimp only
    exact ⟨_, _, fun methods => rfl⟩
  | python =>
    unfold text python SpelledMethod.member
    dsimp only
    exact ⟨_, _, fun methods => rfl⟩
  | dart =>
    unfold text dart SpelledMethod.member
    dsimp only
    exact ⟨_, _, fun methods => rfl⟩

/-- A file is that of an offered class: it has its name and its path, and one method for each
method that is offered, in their order. -/
structure Options.IsFileOf (o : Options) (x : Offer) (f : ClassFile) : Prop where
  name : f.name = x.remoteClass.name
  path : f.path = o.language.proxyModule x.remoteClass.name
  methods : ∃ renames, f.methods
    = (o.qualifying x.remoteClass).map (o.language.spellMethod renames x.remoteClass.name)

theorem Options.isFileOf_fileOf (o : Options) (x : Offer) (g : ImportGraph) :
  o.IsFileOf x (o.fileOf x g)
  where
  name := rfl
  path := rfl
  methods := ⟨_, rfl⟩

namespace Run

variable {o : Options}

/-! ### Files -/

/-- The written files of types are those that the graph of the run holds. -/
theorem perm_typeArtifacts (o : Options) (run : Run) :
  (run.typeArtifacts o).Perm
    ((run.graph.toTypeFiles o.language o.package).map fun f =>
      ⟨o.language.filePath f.path, f.text o.language⟩)
  := List.mergeSort_perm _ _

/-- The written files of types stand in increasing order of their paths. -/
theorem pairwise_typeArtifacts {run : Run} (h : run.graph.WellFormed) :
  (run.typeArtifacts o).Pairwise fun a b => a.path < b.path
  := by
  apply Sorted.pairwise_mergeSort
  have hpaths : ((run.graph.toTypeFiles o.language o.package).map TypeFile.path).Nodup :=
    ImportGraph.nodup_path_toTypeFiles h o.package
  have := hpaths.map o.language.filePath_injective
  rw [List.map_map] at this ⊢
  apply this

end Run

/-- A run with valid options writes, in the order of the programs, the file of the first
class of each program that has methods to offer and whose file is not written for an earlier
program, with one member for each offered method in turn; then the files of types in
increasing order of their paths; and at last the stub. It reports exactly one reason for each
other program, and each further class of a program. -/
theorem generate_accounts (o : Options) (programs : List Program)
    (valid : o.package.check = .ok ()) :
  ∃ out files types,
    generate o programs = .ok out
      ∧ out.artifacts
        = files.map (fun f => ⟨o.language.filePath f.path, f.text o.language⟩)
          ++ types ++ [Run.stubArtifact o]
      ∧ List.Forall₂ o.IsFileOf
        ((withEarlier [] programs).filterMap fun (earlier, p) => (o.fate earlier p).offer?)
        files
      ∧ (∀ f ∈ files, ∃ opening closing, ∀ methods,
        { f with methods := methods }.text o.language
          = opening ++ Render.each methods (SpelledMethod.member f.name o.language) ++ closing)
      ∧ types.Pairwise (fun a b => a.path < b.path)
      ∧ types.Perm (((Run.ofPrograms o programs).graph.toTypeFiles o.language o.package).map
        fun f => ⟨o.language.filePath f.path, f.text o.language⟩)
      ∧ (∀ earlier p x, o.fate earlier p = .written x
        ↔ o.offer? p = some x
          ∧ ∀ before q y, (before, q) ∈ withEarlier [] earlier →
              o.fate before q = .written y → (o.request y).path ≠ (o.request x).path)
      ∧ out.diagnostics.filter Diagnostic.isSkip
        = (withEarlier [] programs).flatMap fun (earlier, p) =>
            (p.classes.tail.map fun c => .extraClass c.name)
              ++ ((o.fate earlier p).skip? o.channel earlier.length).toList
  := by
  have hgathers := Run.gathers_ofPrograms o programs
  use (Run.ofPrograms o programs).output o, (Run.ofPrograms o programs).classFiles,
    (Run.ofPrograms o programs).typeArtifacts o
  and_intros
  · apply (generate_eq_ok_iff o programs _).mpr ⟨valid, rfl⟩
  · rfl
  · rw [← Options.accepted_eq_filterMap]
    apply hgathers.forall₂_classFiles o.isFileOf_fileOf
  · intro f _
    apply f.exists_text_eq
  · apply Run.pairwise_typeArtifacts
    rw [Run.graph_ofPrograms]
    apply ImportGraph.wellFormed_ofRequests
  · apply Run.perm_typeArtifacts
  · intro earlier p x
    apply Options.fate_eq_written_iff_forall
  · apply Run.filter_isSkip_diagnostics

theorem generate_accounts_users :
  Package.check {} = .ok ()
    ∧ ∃ out, generate { language := .dart } [Example.users, {}, Example.users] = .ok out
      ∧ out.artifacts.map Artifact.path
        = ["users_sdk.dart", "types/profile.dart", "remote.dart"]
      ∧ out.diagnostics.filter Diagnostic.isSkip = [.missingClass 1, .extraClass "Users"]
  := by
  have valid : Package.check {} = .ok () := by decide
  use valid
  obtain ⟨out, files, types, hout, hartifacts, hfiles, -, -, htypes, -, hskips⟩ :=
    generate_accounts { language := .dart } [Example.users, {}, Example.users] valid
  use out, hout
  constructor
  · obtain ⟨f, rest, hf, hrest, rfl⟩ := List.forall₂_cons_left_iff.mp hfiles
    obtain rfl := List.forall₂_nil_left_iff.mp hrest
    have htypes : types.map Artifact.path = ["types/profile.dart"] := by
      apply List.perm_singleton.mp
      apply (htypes.map Artifact.path).trans
      rw [Run.map_path_typeFiles,
        Example.path_typeFiles_users .dart [Example.users, {}, Example.users] rfl]
      apply List.Perm.refl
    rw [hartifacts, List.map_append, List.map_append, htypes, List.map_singleton,
      List.map_singleton, hf.path]
    rfl
  · rw [hskips]
    decide

end ClientGen
