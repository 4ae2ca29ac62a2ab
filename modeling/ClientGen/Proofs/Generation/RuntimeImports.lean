import ClientGen.Proofs.Generation.Paths
import ClientGen.Proofs.Target.PythonModule
import Mathlib.Logic.Relation

/-!
# Imports that run

In Python the imports that only annotations need are read by type checkers alone. When a
file of types or the stub is loaded it loads no other written file, and the file of a class
loads the stub and the homes of the declarations elsewhere that its signatures name. So no
file is loaded by way of itself, whatever cycles the references of types form.
-/

namespace ClientGen

/-! ### Providers of statements -/

namespace Providers

end Providers

namespace ImportGraph

/-- The statements by which a file takes names, with their providers. -/
def provided (g : ImportGraph) (lang : Language) (consumer : String) (providers : Providers) :
    List (String × ImportStatement) :=
  (providers.map fun (provider, names) =>
    (provider, g.statement lang consumer provider names)).mergeSort
      fun p q => !decide (q.2.path < p.2.path)

variable {g : ImportGraph} {consumer : String} {providers : Providers}

theorem map_snd_provided (lang : Language) :
  (g.provided lang consumer providers).map Prod.snd = g.statements lang consumer providers
  := by
  have hsort := List.map_mergeSort (f := Prod.snd)
    (s := fun s t : ImportStatement => !decide (t.path < s.path))
    (l := providers.map fun (provider, names) =>
      (provider, g.statement lang consumer provider names)) fun _ _ _ _ => rfl
  rw [provided, hsort, List.map_map]
  rfl

theorem namesProviders_provided :
  NamesProviders consumer (g.provided .python consumer providers)
  := by
  intro p hp
  rw [provided, List.mem_mergeSort] at hp
  obtain ⟨⟨provider, names⟩, -, rfl⟩ := List.mem_map.mp hp
  rfl

end ImportGraph

/-! ### Files of a run -/

/-- The written file. -/
def PythonModule.artifact (m : PythonModule) : Artifact :=
  ⟨Language.python.filePath m.path, m.text⟩

namespace Options

variable {o : Options} {programs : List Program}

/-- The Python files of types. -/
def typeModules (o : Options) (g : ImportGraph) : List PythonModule :=
  (g.toTypeFiles .python o.package).map fun f =>
    f.pythonModule (g.provided .python f.path (g.providersOf f.path))

/-- The Python file that carries calls to the server. -/
def stubModule (o : Options) : PythonModule :=
  StubFile.pythonModule ⟨o.package⟩

theorem text_typeFile {g : ImportGraph} {f : TypeFile}
    (hf : f ∈ g.toTypeFiles .python o.package) :
  f.text .python
    = (f.pythonModule (g.provided .python f.path (g.providersOf f.path))).text
  := by
  apply TypeFile.python_eq_text
  · rw [ImportGraph.map_snd_provided, ImportGraph.imports_of_mem_toTypeFiles hf]
    rfl
  · exact ImportGraph.namesProviders_provided

theorem perm_typeArtifacts (python : o.language = .python) (run : Run) :
  (run.typeArtifacts o).Perm ((o.typeModules run.graph).map PythonModule.artifact)
  := by
  have hfiles : (o.typeModules run.graph).map PythonModule.artifact
      = (run.graph.toTypeFiles o.language o.package).map fun f =>
        ⟨o.language.filePath f.path, f.text o.language⟩ := by
    rw [typeModules, List.map_map, python]
    apply List.map_congr_left
    intro f hf
    rw [text_typeFile hf]
    rfl
  rw [hfiles]
  exact List.mergeSort_perm _ _

end Options

end ClientGen
