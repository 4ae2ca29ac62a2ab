import ClientGen.Proofs.Generation.Paths
import ClientGen.Proofs.Generation.Reports

/-!
# Types that are not known

A run reports the declarations and the methods in which a type stands that is not known. It
reports them class by class: first the declarations that the class adds to the library, in
the order in which they are discovered, and then the methods of the class. A declaration of
a name that an earlier class has put where it belongs is not written, and not reported.
-/

namespace ClientGen

namespace TypeNode

/-! ### Parts of types -/

/-- A type stands within a type: it is that type, or it stands within a part of it. The
definition of a declaration that stands in the place of a type is no part. -/
inductive Within (s : TypeNode) : TypeNode → Prop where
  | self : Within s s
  | element {element : TypeNode} : Within s element → Within s (.array element)
  | key {key value : TypeNode} : Within s key → Within s (.map key value)
  | value {key value : TypeNode} : Within s value → Within s (.map key value)
  | result {result : TypeNode} : Within s result → Within s (.promise result)
  | variant {t : TypeNode} {variants : List TypeNode} :
      t ∈ variants → Within s t → Within s (.union variants)
  | property {p : Property TypeNode} {properties : List (Property TypeNode)} :
      p ∈ properties → Within s p.type → Within s (.object properties)

mutual

theorem containsUnknown_iff :
  ∀ t : TypeNode, t.containsUnknown ↔ Within .unknown t
  | .unknown => iff_of_true rfl .self
  | .array element => by
      rw [containsUnknown, containsUnknown_iff element]
      constructor
      · apply Within.element
      · intro h
        cases h with
        | element h => apply h
  | .map key value => by
      rw [containsUnknown, Bool.or_eq_true, containsUnknown_iff key, containsUnknown_iff value]
      constructor
      · rintro (h | h)
        · apply Within.key h
        · apply Within.value h
      · intro h
        cases h with
        | key h => apply Or.inl h
        | value h => apply Or.inr h
  | .promise result => by
      rw [containsUnknown, containsUnknown_iff result]
      constructor
      · apply Within.result
      · intro h
        cases h with
        | result h => apply h
  | .union variants => by
      rw [containsUnknown, anyUnknown_iff variants]
      constructor
      · rintro ⟨t, ht, h⟩
        apply Within.variant ht h
      · intro h
        cases h with
        | variant ht h => exact ⟨_, ht, h⟩
  | .object properties => by
      rw [containsUnknown, anyPropertyUnknown_iff properties]
      constructor
      · rintro ⟨p, hp, h⟩
        apply Within.property hp h
      · intro h
        cases h with
        | property hp h => exact ⟨_, hp, h⟩
  | .primitive p => iff_of_false Bool.false_ne_true nofun
  | .declared d => iff_of_false Bool.false_ne_true nofun
  | .custom text => iff_of_false Bool.false_ne_true nofun

theorem anyUnknown_iff :
  ∀ variants : List TypeNode, anyUnknown variants ↔ ∃ t ∈ variants, Within .unknown t
  | [] => by simp [anyUnknown]
  | variant :: variants => by
      rw [anyUnknown, Bool.or_eq_true, containsUnknown_iff variant, anyUnknown_iff variants,
        List.exists_mem_cons_iff]

theorem anyPropertyUnknown_iff :
  ∀ properties : List (Property TypeNode),
    anyPropertyUnknown properties ↔ ∃ p ∈ properties, Within .unknown p.type
  | [] => by simp [anyPropertyUnknown]
  | ⟨name, isOptional, type⟩ :: properties => by
      rw [anyPropertyUnknown, Bool.or_eq_true, containsUnknown_iff type,
        anyPropertyUnknown_iff properties, List.exists_mem_cons_iff]

end

instance (t : TypeNode) : Decidable (Within .unknown t) :=
  decidable_of_iff _ (containsUnknown_iff t)

end TypeNode

theorem DeclarationOf.containsUnknown_iff (d : Declaration) :
  d.containsUnknown ↔ ∃ t ∈ d.innerTypes, TypeNode.Within .unknown t
  := by simp [containsUnknown, TypeNode.containsUnknown_iff]

theorem Method.containsUnknown_iff (m : Method) :
  m.containsUnknown ↔ ∃ t ∈ m.signatureTypes, TypeNode.Within .unknown t
  := by
  simp only [containsUnknown, signatureTypes, Bool.or_eq_true, List.any_eq_true,
    TypeNode.containsUnknown_iff, List.mem_append, List.mem_map, List.mem_singleton]
  grind

/-! ### Reports of a class -/

/-- The declaration or the method of which a diagnostic tells that a type stands in it that
is not known. -/
def Diagnostic.unknownContext? : Diagnostic → Option String
  | .unknownType context => some context
  | _ => none

theorem Diagnostic.unknownContext?_of_isSkip {δ : Diagnostic} (h : δ.isSkip) :
  δ.unknownContext? = none
  := by
  cases δ with
  | unknownType context => cases h
  | _ => rfl

namespace ClassRequest

/-- Where types stand that are not known: the declarations among those that a class adds
after earlier ones, and the methods of the class. -/
def unknownContexts (r : ClassRequest) (earlier : List ClassRequest) : List String :=
  ((r.added earlier).filter fun d =>
      ∃ t ∈ d.innerTypes, TypeNode.Within .unknown t).map DeclarationOf.name
    ++ (r.methods.filter fun m =>
      ∃ t ∈ m.signatureTypes, TypeNode.Within .unknown t).map fun m =>
        qualifiedName r.className m.name

theorem filterMap_declarationDiagnostics (d : Declaration) :
  (declarationDiagnostics d).filterMap Diagnostic.unknownContext?
    = if d.containsUnknown then [d.name] else []
  := by
  rw [declarationDiagnostics, List.filterMap_append]
  cases d.home? with
  | none => split <;> rfl
  | some home =>
    dsimp only
    split <;> split <;> rfl

theorem filterMap_reports (lang : Language) (r : ClassRequest)
    (earlier : List ClassRequest) :
  (r.reports (ImportGraph.ofRequests lang earlier)).filterMap Diagnostic.unknownContext?
    = r.unknownContexts earlier
  := by
  have hduplicates : (r.program.duplicateNames.map Diagnostic.duplicateDeclaration).filterMap
      Diagnostic.unknownContext? = [] := by
    rw [List.filterMap_map]
    apply List.filterMap_eq_nil_iff.mpr
    intro name _
    rfl
  have hdeclarations : ((r.added earlier).flatMap declarationDiagnostics).filterMap
      Diagnostic.unknownContext?
        = ((r.added earlier).filter DeclarationOf.containsUnknown).map DeclarationOf.name := by
    simp only [List.filterMap_flatMap, filterMap_declarationDiagnostics]
    induction r.added earlier with
    | nil => rfl
    | cons d ds ih =>
      rw [List.flatMap_cons, ih, List.filter_cons]
      split <;> rfl
  have hmethods : (methodDiagnostics r.className r.methods).filterMap Diagnostic.unknownContext?
      = (r.methods.filter Method.containsUnknown).map fun m =>
        qualifiedName r.className m.name := by
    rw [methodDiagnostics, List.filterMap_map]
    apply congrFun List.filterMap_eq_map'
  rw [reports, diagnostics, placed_ofRequests, List.filterMap_append, List.filterMap_append,
    hduplicates, hdeclarations, hmethods, List.nil_append, unknownContexts]
  simp only [← DeclarationOf.containsUnknown_iff, ← Method.containsUnknown_iff,
    Bool.decide_eq_true]

end ClassRequest

/-! ### Runs -/

theorem Options.filterMap_reports (o : Options) (earlier : List Program) (p : Program) :
  (o.reports earlier p).filterMap Diagnostic.unknownContext?
    = (o.fate earlier p).offer?.toList.flatMap fun x =>
        (o.request x).unknownContexts (o.requests earlier)
  := by
  -- What tells that a class was left out tells of no type.
  have hskips : (o.skips earlier p).filterMap Diagnostic.unknownContext? = [] := by
    apply List.filterMap_eq_nil_iff.mpr
    intro δ hδ
    apply Diagnostic.unknownContext?_of_isSkip (isSkip_of_mem_skips hδ)
  rw [reports, List.filterMap_append, hskips, List.nil_append, List.filterMap_flatMap,
    Run.graph_ofPrograms]
  simp only [ClassRequest.filterMap_reports]

/-- A run reports the declarations and methods in which types stand that are not known class
by class. -/
theorem Run.filterMap_diagnostics (o : Options) (programs : List Program) :
  (ofPrograms o programs).diagnostics.filterMap Diagnostic.unknownContext?
    = (withEarlier [] (o.requests programs)).flatMap fun (earlier, r) =>
        r.unknownContexts earlier
  := by
  rw [diagnostics_ofPrograms, Options.withEarlier_requests, List.filterMap_flatMap,
    List.filterMap_eq_flatMap_toList, List.flatMap_assoc]
  congr 1
  funext ⟨earlier, p⟩
  rw [Options.filterMap_reports, Option.toList_map, List.flatMap_map]

/-- What the files of types of a run declare, the classes have added to them in turn. -/
theorem ImportGraph.declarationsOf_ofRequests (lang : Language) (requests : List ClassRequest)
    (path : String) :
  (ofRequests lang requests).declarationsOf path
    = (withEarlier [] requests).flatMap fun (earlier, r) =>
        ((r.added earlier).filter fun d => r.homeOf d = path ∧ path ≠ r.path).map
          (lang.spellDeclaration [])
  := by
  induction requests using List.reverseRecOn with
  | nil => rfl
  | append_singleton requests r ih =>
    rw [ofRequests_append_singleton, ClassRequest.declarationsOf_resolve_ofRequests, ih,
      withEarlier_append_singleton, List.flatMap_append, List.flatMap_singleton]

/-! ### Libraries -/

/-- A library reports where types stand that are not known, class by class: the declarations
among those that the class adds, in the order of their discovery and none twice, and then
the methods of the class. What a class adds is what its own file declares, and what it adds
to the files of types, each of which declares what the classes have added to it. -/
theorem unknownContexts_generate (o : Options) (programs : List Program)
    (valid : o.package.check = .ok ()) :
  ∃ out, generate o programs = .ok out
    ∧ out.diagnostics.filterMap Diagnostic.unknownContext?
      = ((withEarlier [] (o.requests programs)).flatMap fun (earlier, r) =>
          r.unknownContexts earlier)
    ∧ (∀ earlier r, (earlier, r) ∈ withEarlier [] (o.requests programs) →
        ((r.added earlier).map DeclarationOf.name).Nodup
          ∧ (r.added earlier).Sublist r.needed
          ∧ (r.added earlier).filter r.isLocal = r.locals)
    ∧ List.Forall₂
        (fun x f => ∃ renames,
          f.declarations = (o.request x).locals.map (o.language.spellDeclaration renames))
        (o.accepted programs) (Run.ofPrograms o programs).classFiles
    ∧ ∀ f ∈ (Run.ofPrograms o programs).graph.toTypeFiles o.language o.package,
        f.declarations = (withEarlier [] (o.requests programs)).flatMap fun (earlier, r) =>
          ((r.added earlier).filter fun d => r.homeOf d = f.path ∧ f.path ≠ r.path).map
            (o.language.spellDeclaration [])
  := by
  use (Run.ofPrograms o programs).output o
  use (generate_eq_ok_iff o programs _).mpr ⟨valid, rfl⟩
  and_intros
  · apply Run.filterMap_diagnostics
  · intro earlier r _
    use r.nodup_name_added earlier, List.filter_sublist, r.filter_isLocal_added earlier
  · apply (Run.gathers_ofPrograms o programs).forall₂_classFiles
    intro x g
    exact ⟨_, rfl⟩
  · intro f hf
    rw [Run.graph_ofPrograms] at hf
    have hwell := ImportGraph.wellFormed_ofRequests o.language (o.requests programs)
    rw [(ImportGraph.declarations_of_mem_toTypeFiles hwell hf).1]
    apply ImportGraph.declarationsOf_ofRequests

namespace Example

/-- A class that gives out entries. -/
def logClass : RemoteClass where
  name := "Log"
  methods := [
    { name := "last", returnType := .promise (.custom "Entry") },
    { name := "add", parameters := [⟨"entry", .array .unknown, false, none⟩],
      returnType := .primitive .void }]

/-- The program of the class. -/
def log : Program where
  body := [
    .remoteClass logClass,
    .declaration (.struct "Entry" [⟨"payload", false, .unknown⟩] none)]

theorem neededNames_log :
  log.neededNames logClass.methods = ["Entry"]
  := by
  have hdirect : log.directNames logClass.methods = ["Entry"] := by decide
  have hleft : Closure.leftOver log.declaredNames ["Entry"] = [] := by decide
  have hnext : Closure.discovered log.nextNames [] "Entry" = [] := by decide
  rw [Program.neededNames, hdirect, Closure.closure, hleft, Closure.explore, hnext,
    Closure.leftOver_nil, List.append_nil, Closure.explore]

end Example

theorem unknownContexts_generate_log :
  Package.check {} = .ok ()
    ∧ ∃ out, generate { language := .dart } [Example.log] = .ok out
      ∧ out.diagnostics.filterMap Diagnostic.unknownContext? = ["Entry", "Log.add"]
  := by
  have valid : Package.check {} = .ok () := by decide
  use valid
  obtain ⟨out, hout, hcontexts, -⟩ :=
    unknownContexts_generate { language := .dart } [Example.log] valid
  use out, hout
  have hrequests : Options.requests { language := .dart } [Example.log]
      = [Options.request { language := .dart } ⟨Example.log, Example.logClass⟩] := rfl
  have hneeded : (Options.request { language := .dart } ⟨Example.log, Example.logClass⟩).needed
      = [.struct "Entry" [⟨"payload", false, .unknown⟩] none] := by
    apply congrArg (List.filterMap Example.log.declaration?) Example.neededNames_log
  rw [hcontexts, hrequests, withEarlier, withEarlier, List.flatMap_singleton]
  dsimp only
  rw [ClassRequest.unknownContexts, ClassRequest.added, hneeded]
  decide

end ClientGen
