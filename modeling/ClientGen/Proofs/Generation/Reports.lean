import ClientGen.Proofs.Generation.Offers

/-!
# What a run reports

Each program of a run has one of four fates: it has no class, its first class has no methods
to offer, the file of its first class is taken by an earlier program, or this file is
written. The fate depends on the program and the earlier ones alone. The accepted classes
are those whose files are written, and what a run reports is what it reports of each
program in turn: of the classes beyond the first one, and of its fate.
-/

namespace ClientGen

/-! ### Items and those before them -/

/-- Each item of a list together with the items before it, among which the given ones come
first. -/
def withEarlier {α : Type} (earlier : List α) : List α → List (List α × α)
  | [] => []
  | a :: rest => (earlier, a) :: withEarlier (earlier ++ [a]) rest

section

variable {α : Type}

theorem withEarlier_append (earlier items others : List α) :
  withEarlier earlier (items ++ others)
    = withEarlier earlier items ++ withEarlier (earlier ++ items) others
  := by
  induction items generalizing earlier with
  | nil => simp [withEarlier]
  | cons a items ih => simp [withEarlier, ih]

theorem withEarlier_append_singleton (items : List α) (a : α) :
  withEarlier [] (items ++ [a]) = withEarlier [] items ++ [(items, a)]
  := by rw [withEarlier_append, List.nil_append, withEarlier, withEarlier]

/-- An item comes after others exactly when they are the start of the list together. -/
theorem mem_withEarlier {items earlier : List α} {a : α} :
  (earlier, a) ∈ withEarlier [] items ↔ earlier ++ [a] <+: items
  := by
  induction items using List.reverseRecOn with
  | nil => simp [withEarlier]
  | append_singleton items b ih =>
    rw [withEarlier_append_singleton, List.mem_append, ih, List.prefix_concat_iff,
      List.append_singleton_inj, List.mem_singleton, Prod.mk.injEq, or_comm]

/-- Each item comes after some items. -/
theorem exists_mem_withEarlier {items : List α} {a : α} (h : a ∈ items) :
  ∃ earlier, (earlier, a) ∈ withEarlier [] items
  := by
  obtain ⟨earlier, later, rfl⟩ := List.append_of_mem h
  use earlier
  apply mem_withEarlier.mpr
  use later
  apply (List.append_cons earlier a later).symm

end

/-! ### Reports of a class -/

/-- Whether a diagnostic tells that a program or a class was left out. -/
def Diagnostic.isSkip : Diagnostic → Bool
  | .missingClass _ | .extraClass _ | .noQualifyingMethods _ _ => true
  | .unknownType _ | .duplicateDeclaration _ | .unsafeHome _ _ => false

namespace ClassRequest

/-- What is reported of a class whose file is written, given the graph before it. -/
def reports (r : ClassRequest) (g : ImportGraph) : List Diagnostic :=
  r.diagnostics g ++ methodDiagnostics r.className r.methods

theorem not_isSkip_of_mem_reports {r : ClassRequest} {g : ImportGraph} {δ : Diagnostic}
    (h : δ ∈ r.reports g) :
  ¬ δ.isSkip
  := by
  rcases List.mem_append.mp h with h | h
  · rcases List.mem_append.mp h with h | h
    · obtain ⟨name, -, rfl⟩ := List.mem_map.mp h
      exact Bool.false_ne_true
    · obtain ⟨d, -, h⟩ := List.mem_flatMap.mp h
      rw [declarationDiagnostics] at h
      grind [Diagnostic.isSkip]
  · obtain ⟨m, -, rfl⟩ := List.mem_map.mp h
    exact Bool.false_ne_true

end ClassRequest

/-! ### Fates -/

/-- What becomes of a program in a run. -/
inductive Fate where
  /-- The program has no class. -/
  | withoutClass
  /-- The first class has no methods to offer. -/
  | withoutMethods (c : RemoteClass)
  /-- The file of the first class is that of an earlier program. -/
  | taken (c : RemoteClass)
  /-- The file of the first class is written. -/
  | written (x : Offer)

/-- The class whose file is written. -/
def Fate.offer? : Fate → Option Offer
  | .written x => some x
  | _ => none

theorem Fate.offer?_eq_some_iff {fate : Fate} {x : Offer} :
  fate.offer? = some x ↔ fate = .written x
  := by
  cases fate with
  | written y => simp [offer?]
  | _ => simp [offer?]

/-- What tells that nothing is written for the program with an index. -/
def Fate.skip? (channel : Channel) (index : Nat) : Fate → Option Diagnostic
  | .withoutClass => some (.missingClass index)
  | .withoutMethods c => some (.noQualifyingMethods c.name channel)
  | .taken c => some (.extraClass c.name)
  | .written _ => none

theorem Fate.isSkip_of_mem_skip? {channel : Channel} {index : Nat} {fate : Fate}
    {δ : Diagnostic} (h : δ ∈ fate.skip? channel index) :
  δ.isSkip
  := by
  cases fate with
  | written x => cases h
  | _ =>
    obtain rfl := Option.some.inj h
    rfl

namespace Options

/-- What becomes of a program after earlier ones. -/
def fate (o : Options) (earlier : List Program) (p : Program) : Fate :=
  match p.classes with
  | [] => .withoutClass
  | c :: _ =>
    if (o.qualifying c).isEmpty then .withoutMethods c
    else if (o.request ⟨p, c⟩).path ∈ (o.accepted earlier).map fun y => (o.request y).path then
      .taken c
    else .written ⟨p, c⟩

variable {o : Options} {earlier : List Program} {p : Program}

/-- The file of a program is written exactly when it is that of its first class, which has
methods to offer, and no earlier program has taken it. -/
theorem fate_eq_written_iff {x : Offer} :
  o.fate earlier p = .written x
    ↔ o.offer? p = some x
      ∧ (o.request x).path ∉ (o.accepted earlier).map fun y => (o.request y).path
  := by
  rw [fate, offer?]
  cases p.classes with
  | nil => simp
  | cons c extra =>
    dsimp only
    by_cases hempty : (o.qualifying c).isEmpty
    · simp [hempty]
    · rw [if_neg hempty, if_neg hempty]
      by_cases htaken : (o.request ⟨p, c⟩).path
          ∈ (o.accepted earlier).map fun y => (o.request y).path
      · rw [if_pos htaken]
        constructor
        · rintro ⟨⟩
        · rintro ⟨h, hfresh⟩
          obtain rfl := Option.some.inj h
          apply absurd htaken hfresh
      · rw [if_neg htaken, Fate.written.injEq, Option.some.injEq]
        constructor
        · rintro rfl
          exact ⟨rfl, htaken⟩
        · apply And.left

/-- The accepted classes are those whose files are written. -/
theorem accepted_append_singleton_eq (earlier : List Program) (p : Program) :
  o.accepted (earlier ++ [p]) = o.accepted earlier ++ (o.fate earlier p).offer?.toList
  := by
  rw [accepted_append_singleton, fate, offer?]
  cases p.classes with
  | nil => simp [Fate.offer?]
  | cons c extra =>
    dsimp only
    by_cases hempty : (o.qualifying c).isEmpty
    · simp [hempty, Fate.offer?]
    · rw [if_neg hempty, if_neg hempty]
      dsimp only
      rw [accept]
      by_cases htaken : (o.request ⟨p, c⟩).path
          ∈ (o.accepted earlier).map fun y => (o.request y).path
      · rw [if_pos htaken, if_pos htaken]
        simp [Fate.offer?]
      · rw [if_neg htaken, if_neg htaken]
        simp [Fate.offer?]

/-- The programs of the accepted classes. -/
theorem accepted_eq_filterMap (programs : List Program) :
  o.accepted programs
    = (withEarlier [] programs).filterMap fun (earlier, p) => (o.fate earlier p).offer?
  := by
  induction programs using List.reverseRecOn with
  | nil => rfl
  | append_singleton programs p ih =>
    rw [accepted_append_singleton_eq, withEarlier_append_singleton, List.filterMap_append, ← ih]
    cases hoffer : (o.fate programs p).offer? with
    | none => simp [hoffer]
    | some x => simp [hoffer]

/-- The requests of a run, each together with those before it, are those of the programs
whose files are written. -/
theorem withEarlier_requests (programs : List Program) :
  withEarlier [] (o.requests programs)
    = (withEarlier [] programs).filterMap fun (earlier, p) =>
        (o.fate earlier p).offer?.map fun x => (o.requests earlier, o.request x)
  := by
  induction programs using List.reverseRecOn with
  | nil => rfl
  | append_singleton programs p ih =>
    rw [requests, accepted_append_singleton_eq, List.map_append, ← requests,
      withEarlier_append_singleton, List.filterMap_append, ← ih]
    cases hoffer : (o.fate programs p).offer? with
    | none => simp [hoffer]
    | some x => simp [hoffer, withEarlier_append_singleton]

/-- The requests of a run up to one of them are those of the programs up to the one that it
comes from. -/
theorem prefix_requests_iff {programs : List Program} {requests : List ClassRequest}
    {r : ClassRequest} :
  requests ++ [r] <+: o.requests programs
    ↔ ∃ earlier p x, (earlier, p) ∈ withEarlier [] programs ∧ o.fate earlier p = .written x
      ∧ o.requests earlier = requests ∧ o.request x = r
  := by
  rw [← mem_withEarlier, withEarlier_requests]
  simp only [List.mem_filterMap, Prod.exists, Option.map_eq_some_iff,
    Fate.offer?_eq_some_iff, Prod.mk.injEq]
  grind

/-- The file of a program is written exactly when it is that of its first class, which has
methods to offer, and no file written for an earlier program is this file. -/
theorem fate_eq_written_iff_forall {x : Offer} :
  o.fate earlier p = .written x
    ↔ o.offer? p = some x
      ∧ ∀ before q y, (before, q) ∈ withEarlier [] earlier → o.fate before q = .written y →
          (o.request y).path ≠ (o.request x).path
  := by
  rw [fate_eq_written_iff, accepted_eq_filterMap]
  simp only [List.mem_map, List.mem_filterMap, Prod.exists, Fate.offer?_eq_some_iff]
  grind

/-! ### Reports -/

/-- What tells that a class of a program was left out: each class beyond the first one, and
the first one if nothing is written for the program. -/
def skips (o : Options) (earlier : List Program) (p : Program) : List Diagnostic :=
  (p.classes.tail.map fun c => .extraClass c.name)
    ++ ((o.fate earlier p).skip? o.channel earlier.length).toList

theorem isSkip_of_mem_skips {δ : Diagnostic} (h : δ ∈ o.skips earlier p) :
  δ.isSkip
  := by
  rcases List.mem_append.mp h with h | h
  · obtain ⟨c, -, rfl⟩ := List.mem_map.mp h
    rfl
  · apply Fate.isSkip_of_mem_skip? (Option.mem_toList.mp h)

/-- What a run reports of a program after earlier ones. -/
def reports (o : Options) (earlier : List Program) (p : Program) : List Diagnostic :=
  o.skips earlier p
    ++ (o.fate earlier p).offer?.toList.flatMap
        fun x => (o.request x).reports (Run.ofPrograms o earlier).graph

theorem filter_isSkip_reports (o : Options) (earlier : List Program) (p : Program) :
  (o.reports earlier p).filter Diagnostic.isSkip = o.skips earlier p
  := by
  have hskips : (o.skips earlier p).filter Diagnostic.isSkip = o.skips earlier p := by
    apply List.filter_eq_self.mpr
    intro δ hδ
    apply isSkip_of_mem_skips hδ
  rw [reports, List.filter_append, hskips, List.append_right_eq_self]
  apply List.filter_eq_nil_iff.mpr
  intro δ hδ
  obtain ⟨x, -, hδ⟩ := List.mem_flatMap.mp hδ
  apply ClassRequest.not_isSkip_of_mem_reports hδ

end Options

/-! ### Runs -/

namespace Run

variable {o : Options}

/-- What is reported of the first class of a program. -/
theorem diagnostics_addFirst (o : Options) (run : Run) (p : Program) (c : RemoteClass) :
  (run.addFirst o p c).diagnostics = run.diagnostics
    ++ if (o.qualifying c).isEmpty then [.noQualifyingMethods c.name o.channel]
      else if run.hasFile (o.language.proxyModule c.name) then [.extraClass c.name]
      else (o.request ⟨p, c⟩).diagnostics run.graph ++ methodDiagnostics c.name (o.qualifying c)
  := by
  rw [addFirst]
  split
  · rfl
  · split
    · rfl
    · apply List.append_assoc

/-- A file has been written exactly when it is that of an accepted class. -/
theorem hasFile_ofPrograms (o : Options) (programs : List Program) (path : String) :
  (ofPrograms o programs).hasFile path
    ↔ path ∈ (o.accepted programs).map fun y => (o.request y).path
  := by rw [hasFile_iff, (gathers_ofPrograms o programs).paths_eq]

/-- A program adds what is reported of it. -/
theorem diagnostics_addProgram (o : Options) (programs : List Program) (p : Program) :
  ((ofPrograms o programs).addProgram o p programs.length).diagnostics
    = (ofPrograms o programs).diagnostics ++ o.reports programs p
  := by
  rw [addProgram, Options.reports, Options.skips, Options.fate]
  cases p.classes with
  | nil => rfl
  | cons c extra =>
    dsimp only
    rw [diagnostics_addFirst, List.tail_cons, List.append_assoc, ← List.append_assoc]
    congr 1
    by_cases hempty : (o.qualifying c).isEmpty
    · rw [if_pos hempty, if_pos hempty]
      rfl
    · rw [if_neg hempty, if_neg hempty]
      have htaken := hasFile_ofPrograms o programs (o.request ⟨p, c⟩).path
      by_cases hfile : (ofPrograms o programs).hasFile (o.request ⟨p, c⟩).path
      · rw [if_pos (htaken.mp hfile)]
        apply if_pos hfile
      · rw [if_neg (mt htaken.mpr hfile)]
        apply (if_neg hfile).trans
        simp [Fate.skip?, Fate.offer?, ClassRequest.reports, Options.request, report]

/-- What a run reports is what it reports of each program in turn. -/
theorem diagnostics_ofPrograms (o : Options) (programs : List Program) :
  (ofPrograms o programs).diagnostics
    = (withEarlier [] programs).flatMap fun (earlier, p) => o.reports earlier p
  := by
  induction programs using List.reverseRecOn with
  | nil => rfl
  | append_singleton programs p ih =>
    rw [ofPrograms_append_singleton, diagnostics_addProgram, ih,
      withEarlier_append_singleton, List.flatMap_append, List.flatMap_singleton]

theorem mem_diagnostics_ofPrograms {programs : List Program} {δ : Diagnostic} :
  δ ∈ (ofPrograms o programs).diagnostics
    ↔ ∃ earlier p, (earlier, p) ∈ withEarlier [] programs ∧ δ ∈ o.reports earlier p
  := by simp only [diagnostics_ofPrograms, List.mem_flatMap, Prod.exists]

/-- What tells in a run that a class was left out. -/
theorem filter_isSkip_diagnostics (o : Options) (programs : List Program) :
  (ofPrograms o programs).diagnostics.filter Diagnostic.isSkip
    = (withEarlier [] programs).flatMap fun (earlier, p) => o.skips earlier p
  := by simp only [diagnostics_ofPrograms, List.filter_flatMap, Options.filter_isSkip_reports]

/-- What else a run reports, it reports of the classes whose files are written, given the
graph of the classes before. -/
theorem mem_diagnostics_iff_of_not_isSkip {programs : List Program} {δ : Diagnostic}
    (hδ : ¬ δ.isSkip) :
  δ ∈ (ofPrograms o programs).diagnostics
    ↔ ∃ earlier r, earlier ++ [r] <+: o.requests programs
      ∧ δ ∈ r.reports (ImportGraph.ofRequests o.language earlier)
  := by
  simp only [mem_diagnostics_ofPrograms, Options.prefix_requests_iff, Options.reports,
    List.mem_append, mt Options.isSkip_of_mem_skips hδ, false_or, List.mem_flatMap,
    Option.mem_toList, Fate.offer?_eq_some_iff, graph_ofPrograms]
  constructor
  · rintro ⟨earlier, p, hmem, x, hx, h⟩
    exact ⟨_, _, ⟨earlier, p, x, hmem, hx, rfl, rfl⟩, h⟩
  · rintro ⟨_, _, ⟨earlier, p, x, hmem, hx, rfl, rfl⟩, h⟩
    exact ⟨earlier, p, hmem, x, hx, h⟩

end Run

end ClientGen
