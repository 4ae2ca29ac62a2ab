import ClientGen.Proofs.Generation.Offers
import ClientGen.Proofs.Module.Normal
import Mathlib.Data.List.Nodup

/-!
# The paths of a written library

The files of classes have different paths, the files of types have different paths, and no
file of a class has the path of the stub. So two written files have one path only if the
home of a declaration is the stub or the file of a class.
-/

namespace ClientGen

namespace Language

/-- The file of a class is not the stub, whose path ends otherwise. -/
theorem proxyModule_ne_stubModule (lang : Language) (className : String) :
  lang.proxyModule className ≠ lang.stubModule
  := by
  intro h
  have hlast := congrArg (fun path => path.toList.getLast?) h
  cases lang with
  | typescript => simp [proxyModule, proxySuffix, stubModule] at hlast
  | python => simp [proxyModule, proxySuffix, stubModule] at hlast
  | dart => simp [proxyModule, proxySuffix, stubModule] at hlast

end Language

namespace Run

variable {o : Options} {programs : List Program}

/-- The modules of the files that a run writes: those of classes, those of types, and the
stub. -/
def modules (o : Options) (run : Run) : List String :=
  run.classFiles.map ClassFile.path
    ++ ((run.graph.toTypeFiles o.language o.package).map TypeFile.path
      ++ [o.language.stubModule])

/-- The files that hold the texts of files of types have the paths of their modules. -/
theorem map_path_typeFiles (lang : Language) (files : List TypeFile) :
  (files.map fun f => (⟨lang.filePath f.path, f.text lang⟩ : Artifact)).map Artifact.path
    = (files.map TypeFile.path).map lang.filePath
  := by
  rw [List.map_map, List.map_map]
  rfl

/-- Each written file has the path of its module. -/
theorem perm_path_artifacts (o : Options) (run : Run) :
  ((run.output o).artifacts.map Artifact.path).Perm
    ((run.modules o).map o.language.filePath)
  := by
  have htypes : ((run.typeArtifacts o).map Artifact.path).Perm
      (((run.graph.toTypeFiles o.language o.package).map TypeFile.path).map
        o.language.filePath) := by
    rw [← map_path_typeFiles]
    apply (List.mergeSort_perm _ _).map
  rw [List.map_map] at htypes
  simp only [output, modules, List.map_append, List.append_assoc, classArtifacts, List.map_map]
  apply List.Perm.append_left
  apply htypes.append_right

theorem nodup_path_artifacts_iff (o : Options) (run : Run) :
  ((run.output o).artifacts.map Artifact.path).Nodup ↔ (run.modules o).Nodup
  := by
  rw [(perm_path_artifacts o run).nodup_iff]
  apply List.nodup_map_iff o.language.filePath_injective

theorem classFiles_path (o : Options) (programs : List Program) :
  (ofPrograms o programs).classFiles.map ClassFile.path
    = (o.requests programs).map ClassRequest.path
  := by
  rw [(gathers_ofPrograms o programs).paths_eq, Options.requests, List.map_map]
  rfl

/-- The modules of types of a run are those where some accepted class puts a declaration. -/
theorem mem_path_typeFiles (o : Options) (programs : List Program) (path : String) :
  path ∈ ((ofPrograms o programs).graph.toTypeFiles o.language o.package).map TypeFile.path
    ↔ ∃ r ∈ o.requests programs, ∃ d, r.Places path d
  := by
  constructor
  · intro hpath
    obtain ⟨f, hf, rfl⟩ := List.mem_map.mp hpath
    rw [graph_ofPrograms] at hf
    have hwell := ImportGraph.wellFormed_ofRequests o.language (o.requests programs)
    obtain ⟨s, hs⟩ := List.exists_mem_of_ne_nil _
      (ImportGraph.declarations_of_mem_toTypeFiles hwell hf).2
    obtain ⟨r, d, hfirst, -⟩ := ImportGraph.exists_firstPlaces_of_mem_toTypeFiles hf hs
    exact ⟨r, hfirst.mem, d, hfirst.places⟩
  · rintro ⟨r, hr, d, hplaces⟩
    obtain ⟨x, hx, rfl⟩ := List.mem_map.mp hr
    obtain ⟨f, hf, rfl, -⟩ := (exists_mem_typeFiles_ofPrograms_iff o programs path d.name).mpr
      ⟨x, hx, d, hplaces, rfl⟩
    apply List.mem_map_of_mem hf

/-- The modules of types of a run are different from each other. -/
theorem nodup_path_typeFiles (o : Options) (programs : List Program) :
  (((ofPrograms o programs).graph.toTypeFiles o.language o.package).map TypeFile.path).Nodup
  := by
  rw [graph_ofPrograms]
  apply ImportGraph.nodup_path_toTypeFiles
  apply ImportGraph.wellFormed_ofRequests

/-- The modules of a run are different from each other exactly when no accepted class puts a
declaration into the stub or into the file of another one. -/
theorem nodup_modules_ofPrograms_iff (o : Options) (programs : List Program) :
  ((ofPrograms o programs).modules o).Nodup
    ↔ ∀ r ∈ o.requests programs, ∀ path d, r.Places path d →
        path ≠ o.language.stubModule ∧ ∀ q ∈ o.requests programs, path ≠ q.path
  := by
  have hmem := mem_path_typeFiles o programs
  constructor
  · intro h r hr path d hplaces
    obtain ⟨-, hrest, hdisjoint⟩ := List.nodup_append'.mp h
    have hpath := (hmem path).mpr ⟨r, hr, d, hplaces⟩
    constructor
    · rintro rfl
      apply (List.nodup_append'.mp hrest).2.2 hpath (List.mem_singleton_self _)
    · rintro q hq rfl
      apply hdisjoint _ (List.mem_append_left _ hpath)
      rw [classFiles_path]
      apply List.mem_map_of_mem hq
  · intro h
    apply List.nodup_append'.mpr
    and_intros
    · rw [classFiles_path]
      apply (gathers_ofPrograms o programs).nodup_paths
    · apply List.nodup_append'.mpr
      and_intros
      · apply nodup_path_typeFiles
      · apply List.nodup_singleton
      · intro path hpath hstub
        obtain ⟨r, hr, d, hplaces⟩ := (hmem path).mp hpath
        apply (h r hr path d hplaces).1 (List.mem_singleton.mp hstub)
    · intro path hclass hrest
      rw [classFiles_path] at hclass
      obtain ⟨q, hq, rfl⟩ := List.mem_map.mp hclass
      rcases List.mem_append.mp hrest with htypes | hstub
      · obtain ⟨r, hr, d, hplaces⟩ := (hmem _).mp htypes
        apply (h r hr _ d hplaces).2 q hq rfl
      · obtain ⟨x, -, rfl⟩ := List.mem_map.mp hq
        apply o.language.proxyModule_ne_stubModule x.remoteClass.name
        apply List.mem_singleton.mp hstub

end Run

theorem generate_eq_ok_iff (o : Options) (programs : List Program) (out : Output) :
  generate o programs = .ok out
    ↔ o.package.check = .ok () ∧ out = (Run.ofPrograms o programs).output o
  := by
  rw [generate]
  cases o.package.check with
  | ok _ => simp [eq_comm]
  | error _ => simp

/-- With the package as it is by default there is always an output. -/
theorem generate_eq_ok (lang : Language) (programs : List Program) :
  generate { language := lang } programs
    = .ok ((Run.ofPrograms { language := lang } programs).output { language := lang })
  := by
  have valid : Package.check {} = .ok () := by decide
  apply (generate_eq_ok_iff _ _ _).mpr ⟨valid, rfl⟩

/-- The written files of a library have different paths exactly when no accepted class puts
a declaration into the stub or into the file of another accepted class. -/
theorem nodup_path_generate_iff (o : Options) (programs : List Program) (out : Output)
    (hout : generate o programs = .ok out) :
  (out.artifacts.map Artifact.path).Nodup
    ↔ ∀ r ∈ o.requests programs, ∀ path d, r.Places path d →
        path ≠ o.language.stubModule ∧ ∀ q ∈ o.requests programs, path ≠ q.path
  := by
  obtain ⟨-, rfl⟩ := (generate_eq_ok_iff o programs out).mp hout
  rw [Run.nodup_path_artifacts_iff, Run.nodup_modules_ofPrograms_iff]

theorem nodup_path_generate_users :
  ∃ out, generate { language := .dart } [Example.users] = .ok out
    ∧ (out.artifacts.map Artifact.path).Nodup
  := by
  have hout := generate_eq_ok .dart [Example.users]
  refine ⟨_, hout, ?_⟩
  apply (nodup_path_generate_iff _ _ _ hout).mpr
  intro r hr path d hplaces
  obtain rfl := List.mem_singleton.mp hr
  obtain rfl := (Example.exists_places_users_iff .dart path).mp ⟨d, hplaces⟩
  constructor
  · decide
  · intro q hq
    obtain rfl := List.mem_singleton.mp hq
    decide

namespace Example

/-- If the class of users is the only one that is accepted, there is one file of types. -/
theorem path_typeFiles_users (lang : Language) (programs : List Program)
    (hrequests : Options.requests { language := lang } programs
      = [Options.request { language := lang } ⟨users, usersClass⟩]) :
  ((Run.ofPrograms { language := lang } programs).graph.toTypeFiles lang {}).map TypeFile.path
    = ["types/profile"]
  := by
  apply List.perm_singleton.mp
  apply (List.perm_ext_iff_of_nodup (Run.nodup_path_typeFiles _ _)
    (List.nodup_singleton _)).mpr
  intro path
  apply (Run.mem_path_typeFiles _ _ path).trans
  rw [hrequests, List.mem_singleton, ← exists_places_users_iff lang]
  simp only [List.mem_singleton, exists_eq_left]

/-- A class with one method. -/
def devicesClass : RemoteClass where
  name := "Devices"
  methods := [{ name := "first", returnType := .custom "Device" }]

/-- A declaration that has the stub as its home. -/
def device : Declaration :=
  .struct "Device" [] (some "remote")

/-- The program of the class. -/
def devices : Program where
  body := [.remoteClass devicesClass, .declaration device]

theorem places_device :
  (Options.request { language := .typescript } ⟨devices, devicesClass⟩).Places "remote"
    device
  where
  declared := rfl
  reached := by
    apply Program.Reaches.signature (List.mem_singleton_self _) (List.mem_singleton_self _)
    · decide
    · rfl
  home := by decide
  named := by decide
  foreign := by decide

end Example

/-- If the home of a declaration is the stub, its file of types and the stub are written to
one path. -/
theorem not_nodup_path_generate_devices :
  ∃ out, generate { language := .typescript } [Example.devices] = .ok out
    ∧ ¬ (out.artifacts.map Artifact.path).Nodup
  := by
  have hout := generate_eq_ok .typescript [Example.devices]
  refine ⟨_, hout, ?_⟩
  rw [Run.nodup_path_artifacts_iff, Run.nodup_modules_ofPrograms_iff]
  intro h
  apply (h _ (List.mem_singleton_self _) "remote" Example.device Example.places_device).1
  rfl

end ClientGen
