import ClientGen.Proofs.Generation.Paths
import ClientGen.Proofs.Generation.Reports

/-!
# Homes that climb out of the project

A run reports a home that climbs out of the project when it places the declaration: in the
file of the class that needs it, or in a file of types, where the first declaration of a name
stays. A later declaration of the name is not placed, and its home is not reported, even if
the home climbs out and the one of the first declaration does not.
-/

namespace ClientGen

namespace ClassRequest

variable {r : ClassRequest} {lang : Language}

theorem unsafeHome_mem_declarationDiagnostics (d : Declaration) (name home : String) :
  .unsafeHome name home ∈ declarationDiagnostics d
    ↔ Module.climbs home ∧ d.name = name ∧ d.home? = some home
  := by
  rw [declarationDiagnostics]
  cases d.home? with
  | none => split <;> simp
  | some given =>
    dsimp only
    split <;> split <;> grind

theorem unsafeHome_mem_reports (g : ImportGraph) (name home : String) :
  .unsafeHome name home ∈ r.reports g
    ↔ Module.climbs home ∧ ∃ d ∈ r.placed g, d.name = name ∧ d.home? = some home
  := by
  simp only [reports, diagnostics, methodDiagnostics, List.mem_append, List.mem_map,
    List.mem_flatMap, unsafeHome_mem_declarationDiagnostics, reduceCtorEq, and_false,
    exists_false, false_or, or_false]
  grind

/-- One of the classes, one after the other, places a needed declaration exactly when it
belongs to the file of the class, or the class is the first one that puts a declaration of
the name where it belongs. -/
theorem exists_mem_placed_iff (requests : List ClassRequest) (d : Declaration) :
  (∃ earlier, earlier ++ [r] <+: requests ∧ d ∈ r.placed (ImportGraph.ofRequests lang earlier))
    ↔ r ∈ requests ∧ d ∈ r.needed
      ∧ (r.homeOf d = r.path ∨ FirstPlaces requests (r.homeOf d) r d)
  := by
  simp only [placed_ofRequests]
  constructor
  · rintro ⟨earlier, hprefix, hplaced⟩
    obtain ⟨hneeded, hplaced⟩ := (mem_added earlier d).mp hplaced
    and_intros
    · apply hprefix.mem
      simp
    · apply hneeded
    · rcases homeOf_eq_path_or_places hneeded with hlocal | hplaces
      · apply Or.inl hlocal
      · apply hplaced.imp_right
        intro hfirst
        exact ⟨earlier, hprefix, hplaces, hfirst⟩
  · rintro ⟨hr, hneeded, hlocal | ⟨earlier, hprefix, -, hfirst⟩⟩
    · obtain ⟨earlier, later, rfl⟩ := List.append_of_mem hr
      use earlier
      constructor
      · use later
        apply (List.append_cons earlier r later).symm
      · apply (mem_added earlier d).mpr ⟨hneeded, Or.inl hlocal⟩
    · use earlier, hprefix
      apply (mem_added earlier d).mpr ⟨hneeded, Or.inr hfirst⟩

end ClassRequest

/-- A run reports a home that climbs out of the project when it places the declaration. -/
theorem Run.unsafeHome_mem_diagnostics (o : Options) (programs : List Program)
    (name home : String) :
  .unsafeHome name home ∈ (ofPrograms o programs).diagnostics
    ↔ Module.climbs home
      ∧ ∃ r ∈ o.requests programs, ∃ d ∈ r.needed, d.name = name ∧ d.home? = some home
        ∧ (r.homeOf d = r.path ∨ FirstPlaces (o.requests programs) (r.homeOf d) r d)
  := by
  have hskip : ¬ (Diagnostic.unsafeHome name home).isSkip := Bool.false_ne_true
  apply (mem_diagnostics_iff_of_not_isSkip hskip).trans
  simp only [ClassRequest.unsafeHome_mem_reports]
  constructor
  · rintro ⟨earlier, r, hprefix, hclimbs, d, hplaced, hname, hhome⟩
    obtain ⟨hr, hneeded, hbelongs⟩ :=
      (ClassRequest.exists_mem_placed_iff _ d).mp ⟨earlier, hprefix, hplaced⟩
    exact ⟨hclimbs, r, hr, d, hneeded, hname, hhome, hbelongs⟩
  · rintro ⟨hclimbs, r, hr, d, hneeded, hname, hhome, hbelongs⟩
    obtain ⟨earlier, hprefix, hplaced⟩ :=
      (ClassRequest.exists_mem_placed_iff _ d).mpr ⟨hr, hneeded, hbelongs⟩
    exact ⟨earlier, r, hprefix, hclimbs, d, hplaced, hname, hhome⟩

/-- A library reports that the home of a declaration climbs out of the project exactly when
it does and the declaration is placed: an accepted class needs it, and it belongs to the file
of this class or the class is the first one that puts a declaration of the name where it
belongs. -/
theorem unsafeHome_mem_diagnostics_generate (o : Options) (programs : List Program)
    (out : Output) (hout : generate o programs = .ok out) (name home : String) :
  .unsafeHome name home ∈ out.diagnostics
    ↔ Module.climbs home
      ∧ ∃ r ∈ o.requests programs, ∃ d ∈ r.needed, d.name = name ∧ d.home? = some home
        ∧ (r.homeOf d = r.path ∨ FirstPlaces (o.requests programs) (r.homeOf d) r d)
  := by
  obtain ⟨-, rfl⟩ := (generate_eq_ok_iff o programs out).mp hout
  apply Run.unsafeHome_mem_diagnostics

namespace Example

/-- A class that gives out keys. -/
def keeperClass (className : String) : RemoteClass where
  name := className
  methods := [{ name := "first", returnType := .custom "Key" }]

/-- The keys, which have a home. -/
def key (home : String) : Declaration :=
  .struct "Key" [] (some home)

/-- The program of the class. -/
def keeper (className home : String) : Program where
  body := [.remoteClass (keeperClass className), .declaration (key home)]

/-- The class with its program. -/
def keeperRequest (className home : String) : ClassRequest :=
  Options.request { language := .typescript } ⟨keeper className home, keeperClass className⟩

theorem requests_keepers :
  Options.requests { language := .typescript }
      [keeper "Locks" "models/key", keeper "Doors" "../models/key"]
    = [keeperRequest "Locks" "models/key", keeperRequest "Doors" "../models/key"]
  := rfl

theorem key_mem_needed (className home : String) :
  key home ∈ (keeperRequest className home).needed
  := by
  have hname : "Key" ∈ (TypeNode.custom "Key").referencedNames := by decide
  apply Program.mem_needed_of_mem_signatureTypes (List.mem_singleton_self _)
    (List.mem_singleton_self _) hname
  rfl

/-- Where a declaration of the keys is needed, it is the one of the program. -/
theorem eq_key_of_mem_needed {className home : String} {d : Declaration}
    (hneeded : d ∈ (keeperRequest className home).needed) :
  d = key home
  := by
  have hd := ClassRequest.mem_declarations_of_mem_needed hneeded
  apply List.mem_singleton.mp hd

theorem places_key :
  (keeperRequest "Locks" "models/key").Places "models/key" (key "models/key")
  := by
  have hhome : (keeperRequest "Locks" "models/key").homeOf (key "models/key") = "models/key" := by
    decide
  rcases ClassRequest.homeOf_eq_path_or_places (key_mem_needed "Locks" "models/key") with
    hlocal | hplaces
  · apply absurd hlocal
    decide
  · rw [hhome] at hplaces
    apply hplaces

end Example

theorem unsafeHome_mem_diagnostics_doors :
  ∃ out, generate { language := .typescript } [Example.keeper "Doors" "../models/key"] = .ok out
    ∧ .unsafeHome "Key" "../models/key" ∈ out.diagnostics
  := by
  have hout := generate_eq_ok .typescript [Example.keeper "Doors" "../models/key"]
  refine ⟨_, hout, ?_⟩
  apply (unsafeHome_mem_diagnostics_generate _ _ _ hout _ _).mpr
  have hneeded := Example.key_mem_needed "Doors" "../models/key"
  use by decide, Example.keeperRequest "Doors" "../models/key",
    List.mem_singleton_self _, Example.key "../models/key", hneeded, rfl, rfl
  apply (ClassRequest.homeOf_eq_path_or_places hneeded).imp_right
  intro hplaces
  use [], List.prefix_rfl, hplaces
  intro q hq
  cases hq

/-- If an earlier program declares the name in the same file, the home of a declaration may
climb out of the project without a report. -/
theorem unsafeHome_not_mem_diagnostics_keepers :
  ∃ out,
    generate { language := .typescript }
        [Example.keeper "Locks" "models/key", Example.keeper "Doors" "../models/key"]
      = .ok out
      ∧ (∃ r ∈ Options.requests { language := .typescript }
          [Example.keeper "Locks" "models/key", Example.keeper "Doors" "../models/key"],
        ∃ d ∈ r.needed, d.name = "Key" ∧ d.home? = some "../models/key"
          ∧ Module.climbs "../models/key")
      ∧ .unsafeHome "Key" "../models/key" ∉ out.diagnostics
  := by
  have hout := generate_eq_ok .typescript
    [Example.keeper "Locks" "models/key", Example.keeper "Doors" "../models/key"]
  refine ⟨_, hout, ?_, ?_⟩
  · rw [Example.requests_keepers]
    use Example.keeperRequest "Doors" "../models/key", by simp,
      Example.key "../models/key", Example.key_mem_needed "Doors" "../models/key", rfl, rfl
    decide
  · intro hmem
    obtain ⟨-, r, hr, d, hneeded, -, hhome, hbelongs⟩ :=
      (Run.unsafeHome_mem_diagnostics _ _ _ _).mp hmem
    rw [Example.requests_keepers] at hr hbelongs
    rcases List.mem_pair.mp hr with rfl | rfl
    · rw [Example.eq_key_of_mem_needed hneeded] at hhome
      apply absurd hhome
      decide
    · obtain rfl := Example.eq_key_of_mem_needed hneeded
      have hpath : (Example.keeperRequest "Doors" "../models/key").homeOf
          (Example.key "../models/key") = "models/key" := by decide
      rw [hpath] at hbelongs
      rcases hbelongs with hlocal | hfirst
      · apply absurd hlocal
        decide
      · rcases (firstPlaces_append_singleton [_] _ _ _ _).mp hfirst with hearlier | ⟨-, -, hnew⟩
        · have hname := congrArg ClassRequest.className (List.mem_singleton.mp hearlier.mem)
          apply absurd hname
          decide
        · apply hnew _ (List.mem_singleton_self _) _ Example.places_key
          rfl

end ClientGen
