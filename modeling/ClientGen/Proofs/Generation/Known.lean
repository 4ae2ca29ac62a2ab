import ClientGen.Generation.Run
import ClientGen.Proofs.Program.Known
import Mathlib.Data.List.Induction

/-!
# Unknown types do not change a run

A run for programs with the most permissive type in place of all types that are not known
writes the same library. It reports the same, except that it does not report any type to be
not known.
-/

namespace ClientGen

/-- Whether it is reported that a type is not known. -/
def Diagnostic.isUnknownType : Diagnostic → Bool
  | .unknownType _ => true
  | _ => false

/-- What is reported, apart from types that are not known. -/
def withoutUnknown (diagnostics : List Diagnostic) : List Diagnostic :=
  diagnostics.filter fun d => !d.isUnknownType

theorem withoutUnknown_append (diagnostics others : List Diagnostic) :
  withoutUnknown (diagnostics ++ others)
    = withoutUnknown diagnostics ++ withoutUnknown others
  := List.filter_append _ _

/-- Only the report of a type that is not known is left out. -/
theorem withoutUnknown_eq_self {diagnostics : List Diagnostic}
    (h : ∀ d ∈ diagnostics, d.isUnknownType = false) :
  withoutUnknown diagnostics = diagnostics
  := by
  apply List.filter_eq_self.mpr
  intro d hd
  rw [h d hd]
  rfl

/-! ### Classes -/

namespace ClassRequest

/-- A class with the most permissive type in place of types that are not known. -/
def known (r : ClassRequest) : ClassRequest :=
  { r with program := r.program.known, methods := r.methods.map Method.known }

section

variable (r : ClassRequest)

@[simp]
theorem homeOf_known (d : Declaration) :
  r.known.homeOf (knownDeclaration d) = r.homeOf d
  := by rw [homeOf, DeclarationOf.homeIn, home?_knownDeclaration]; rfl

@[simp]
theorem isLocal_known (d : Declaration) :
  r.known.isLocal (knownDeclaration d) = r.isLocal d
  := by rw [isLocal, homeOf_known]; rfl

theorem needed_known :
  r.known.needed = r.needed.map knownDeclaration
  := r.program.needed_known r.methods

theorem locals_known :
  r.known.locals = r.locals.map knownDeclaration
  := by
  rw [locals, needed_known, List.filter_map, locals]
  congr 2
  funext d
  apply r.isLocal_known

theorem placed_known (g : ImportGraph) :
  r.known.placed g = (r.placed g).map knownDeclaration
  := by
  rw [placed, needed_known, List.filter_map, placed]
  congr 2
  funext d
  simp

theorem edgesFrom_known (consumer : String) (names : List String) :
  r.known.edgesFrom consumer names = r.edgesFrom consumer names
  := by
  have hdeclarations : names.filterMap r.known.program.declaration?
      = (names.filterMap r.program.declaration?).map knownDeclaration := by
    rw [List.map_filterMap]
    congr 1
    funext name
    apply r.program.declaration?_known
  rw [edgesFrom, hdeclarations, List.map_map, edgesFrom]
  congr 2
  funext d
  simp

theorem definitionEdges_known (d : Declaration) :
  r.known.definitionEdges (knownDeclaration d) = r.definitionEdges d
  := by
  have hnames : r.known.program.namedBy (knownDeclaration d).innerTypes
      = r.program.namedBy d.innerTypes := by
    rw [innerTypes_knownDeclaration]
    apply r.program.namedBy_known
  rw [definitionEdges, hnames, homeOf_known, edgesFrom_known, definitionEdges]

theorem signatureEdges_known :
  r.known.signatureEdges = r.signatureEdges
  := by
  have hnames : r.known.program.directNames r.known.methods
      = r.program.directNames r.methods := r.program.directNames_known r.methods
  rw [signatureEdges, hnames, edgesFrom_known]
  rfl

theorem exported_known :
  r.known.exported = r.exported
  := by rw [exported, signatureEdges_known, exported]

theorem place_known (lang : Language) (g : ImportGraph) :
  r.known.place lang g = r.place lang g
  := by
  have hforeign : (r.known.placed g).filter (fun d => !r.known.isLocal d)
      = ((r.placed g).filter fun d => !r.isLocal d).map knownDeclaration := by
    rw [placed_known, List.filter_map]
    congr 2
    funext d
    simp
  have hedges : (r.known.placed g).flatMap r.known.definitionEdges
      = (r.placed g).flatMap r.definitionEdges := by
    rw [placed_known, List.flatMap_map]
    congr 1
    funext d
    apply r.definitionEdges_known
  rw [place, hforeign, hedges, signatureEdges_known, List.foldl_map]
  simp only [homeOf_known, spellDeclaration_known]
  rfl

theorem scope_known (g : ImportGraph) :
  r.known.scope g = r.scope g
  := by
  have hnames : r.known.locals.map DeclarationOf.name = r.locals.map DeclarationOf.name := by
    simp [locals_known]
  rw [scope, hnames]
  rfl

theorem resolve_known (lang : Language) (g : ImportGraph) :
  r.known.resolve lang g = r.resolve lang g
  := by rw [resolve, place_known, scope_known]; rfl

theorem importsFrom_known (lang : Language) (g : ImportGraph) :
  r.known.importsFrom lang g = r.importsFrom lang g
  := by
  have hdeclarations (renames : Renames) :
      r.known.locals.map (lang.spellDeclaration renames)
        = r.locals.map (lang.spellDeclaration renames) := by
    simp [locals_known]
  rw [importsFrom, exported_known, hdeclarations]
  rfl

end

theorem declarationDiagnostics_known (d : Declaration) :
  declarationDiagnostics (knownDeclaration d) = withoutUnknown (declarationDiagnostics d)
  := by
  have hunknown : withoutUnknown
      (if d.containsUnknown then [Diagnostic.unknownType d.name] else []) = [] := by
    split
    · rfl
    · rfl
  rw [declarationDiagnostics, declarationDiagnostics, containsUnknown_knownDeclaration,
    withoutUnknown_append, hunknown, home?_knownDeclaration, name_knownDeclaration]
  cases d.home? with
  | none => rfl
  | some home =>
    by_cases hclimbs : Module.climbs home
    · simp only [hclimbs]
      rfl
    · simp only [hclimbs]
      rfl

theorem diagnostics_known (r : ClassRequest) (g : ImportGraph) :
  r.known.diagnostics g = withoutUnknown (r.diagnostics g)
  := by
  have hduplicates : r.known.program.duplicateNames = r.program.duplicateNames := by
    rw [Program.duplicateNames, ClassRequest.known, Program.map_name_declarations_known,
      Program.duplicateNames]
  have hkept : withoutUnknown (r.program.duplicateNames.map Diagnostic.duplicateDeclaration)
      = r.program.duplicateNames.map Diagnostic.duplicateDeclaration := by
    apply withoutUnknown_eq_self
    intro diagnostic hdiagnostic
    obtain ⟨name, _, rfl⟩ := List.mem_map.mp hdiagnostic
    rfl
  rw [diagnostics, hduplicates, placed_known, List.flatMap_map, diagnostics,
    withoutUnknown_append, hkept, withoutUnknown, List.filter_flatMap]
  congr 2
  funext d
  apply declarationDiagnostics_known

end ClassRequest

/-! ### Runs -/

theorem qualifying_known (o : Options) (c : RemoteClass) :
  o.qualifying c.known = (o.qualifying c).map Method.known
  := List.filter_map

theorem methodDiagnostics_known (className : String) (methods : List Method) :
  methodDiagnostics className (methods.map Method.known)
    = withoutUnknown (methodDiagnostics className methods)
  := by
  have hnone : (methods.map Method.known).filter Method.containsUnknown = [] := by
    simp [Method.containsUnknown_known]
  rw [methodDiagnostics, hnone, List.map_nil, withoutUnknown, eq_comm]
  apply List.filter_eq_nil_iff.mpr
  intro diagnostic hdiagnostic
  obtain ⟨m, _, rfl⟩ := List.mem_map.mp hdiagnostic
  simp [Diagnostic.isUnknownType]

theorem classFile_known (o : Options) (c : RemoteClass) (methods : List Method)
    (imports : ClassImports) :
  o.classFile c.known (methods.map Method.known) imports = o.classFile c methods imports
  := by
  have hmethods : (methods.map Method.known).map
      (o.language.spellMethod imports.renames c.name)
        = methods.map (o.language.spellMethod imports.renames c.name) := by
    simp [spellMethod_known]
  rw [Options.classFile, Options.classFile]
  dsimp only [RemoteClass.known]
  rw [hmethods]

namespace Run

/-- A run that does not report any type to be not known. -/
def known (run : Run) : Run :=
  { run with diagnostics := withoutUnknown run.diagnostics }

theorem known_report (run : Run) {diagnostics : List Diagnostic}
    (h : ∀ d ∈ diagnostics, d.isUnknownType = false) :
  (run.report diagnostics).known = run.known.report diagnostics
  := by
  rw [known, report, withoutUnknown_append, withoutUnknown_eq_self h]
  rfl

section

variable (o : Options) (run : Run) (p : Program)

theorem addClass_known (c : RemoteClass) (methods : List Method) :
  run.known.addClass o p.known c.known (methods.map Method.known)
    = (run.addClass o p c methods).known
  := by
  let request : ClassRequest := ⟨p, c.name, o.language.proxyModule c.name, methods⟩
  have hresolve := request.resolve_known o.language run.graph
  have himports := request.importsFrom_known o.language
    (request.resolve o.language run.graph)
  have hdiagnostics := request.diagnostics_known run.graph
  rw [addClass, addClass]
  change Run.mk (request.known.resolve o.language run.graph)
    (run.classFiles ++ [o.classFile c.known _ (request.known.importsFrom o.language
      (request.known.resolve o.language run.graph))])
    (withoutUnknown run.diagnostics ++ request.known.diagnostics run.graph
      ++ methodDiagnostics c.name _) = _
  rw [hresolve, himports, hdiagnostics, classFile_known, methodDiagnostics_known,
    ← withoutUnknown_append, ← withoutUnknown_append]
  rfl

theorem addFirst_known (c : RemoteClass) :
  run.known.addFirst o p.known c.known = (run.addFirst o p c).known
  := by
  have hempty : (o.qualifying c.known).isEmpty = (o.qualifying c).isEmpty := by
    rw [qualifying_known, List.isEmpty_map]
  have hfile : run.known.hasFile (o.language.proxyModule c.known.name)
      = run.hasFile (o.language.proxyModule c.name) := rfl
  rw [addFirst, addFirst, hempty, hfile]
  split
  · rw [known_report _ (by simp [Diagnostic.isUnknownType])]
    rfl
  · split
    · rw [known_report _ (by simp [Diagnostic.isUnknownType])]
      rfl
    · rw [qualifying_known]
      apply addClass_known

/-- One step of a run goes along with the replacement of types that are not known. -/
theorem addProgram_known (index : Nat) :
  run.known.addProgram o p.known index = (run.addProgram o p index).known
  := by
  rw [addProgram, addProgram, p.classes_known]
  cases p.classes with
  | nil =>
    rw [List.map_nil]
    dsimp only
    rw [known_report _ (by simp [Diagnostic.isUnknownType])]
  | cons c extra =>
    have hextra : (extra.map RemoteClass.known).map (fun e => Diagnostic.extraClass e.name)
        = extra.map fun e => .extraClass e.name := by
      simp [RemoteClass.known]
    rw [List.map_cons]
    dsimp only
    rw [hextra, ← known_report _ (by simp [Diagnostic.isUnknownType]), addFirst_known]

end

/-- A run goes along with the replacement of types that are not known. -/
theorem ofPrograms_known (o : Options) (programs : List Program) :
  ofPrograms o (programs.map Program.known) = (ofPrograms o programs).known
  := by
  induction programs using List.reverseRecOn with
  | nil => rfl
  | append_singleton programs p ih =>
    rw [List.map_append, List.map_singleton, ofPrograms_append_singleton, ih,
      List.length_map, addProgram_known, ofPrograms_append_singleton]

end Run

/-- If the most permissive type stands in place of all types that are not known, then the
same library is written, and the same is reported apart from types that are not known. -/
theorem generate_known (o : Options) (programs : List Program) :
  generate o (programs.map Program.known)
    = (generate o programs).map fun out =>
        { out with diagnostics := out.diagnostics.filter fun d => !d.isUnknownType }
  := by
  rw [generate, generate, Run.ofPrograms_known]
  cases o.package.check with
  | ok _ => rfl
  | error _ => rfl

end ClientGen
