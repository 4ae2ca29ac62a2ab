import ClientGen.Proofs.Command.Actions
import ClientGen.Proofs.Command.Components
import ClientGen.Proofs.Command.Tree
import ClientGen.Proofs.Generation.Paths
import Mathlib.Data.Set.List

/-!
# Files stay in their directory

A file is written below the directory of its library only if the components of its path
are names. Those of a file of types and of the stub always are, whatever the homes of
declarations are, so only the file of a class can be refused; and whatever the files are,
all that is written lies below the directory.
-/

namespace ClientGen

open PathComponent

/-! ### Paths made of names -/

theorem PathComponent.isRooted_eq_false {path : String}
    (h : ∀ segment ∈ Module.segments path, segment ≠ []) :
  isRooted path = false
  := by
  apply Bool.eq_false_iff.mpr
  intro hrooted
  obtain ⟨cs, hcs⟩ : ∃ cs, path.toList = '/' :: cs := by
    simpa [isRooted, List.head?_eq_some_iff] using hrooted
  apply h [] _ rfl
  rw [Module.segments, hcs]
  exact List.mem_cons_self

/-- The components of a path made of names are these names. -/
theorem PathComponent.components_ofSegments {names : List (List Char)} (hne : names ≠ [])
    (hnames : ∀ name ∈ names, Module.IsName name) :
  components (Module.ofSegments names) = names.map .name
  := by
  have hsegments := Module.segments_ofSegments hne fun name h => (hnames name h).slashFree
  have hrooted : isRooted (Module.ofSegments names) = false := by
    apply isRooted_eq_false
    rw [hsegments]
    exact fun name h => (hnames name h).ne_nil
  have hstart : start (Module.ofSegments names) = [] := by
    rw [start, hrooted, hsegments, if_neg (by simp), if_neg]
    intro hhead
    have hdot := (hnames ['.'] (List.mem_of_mem_head? hhead)).proper
    exact absurd hdot (by decide)
  rw [components, hstart, List.nil_append, steps, hsegments]
  apply List.filterMap_eq_map_iff_forall_eq_some.mpr
  exact fun name h => ofSegment_of_isName (hnames name h)

namespace Generate

/-! ### Contained paths -/

/-- A path is contained if it has names only, apart from the directory where it starts. -/
theorem isContained_iff (path : String) :
  isContained path ↔ ∀ c ∈ components path, c = .current ∨ ∃ cs, c = .name cs
  := by
  rw [isContained, isPrefixOf_slash, Bool.and_eq_true, Bool.not_eq_true', List.all_eq_true]
  constructor
  · rintro ⟨hrooted, hparent⟩ c hc
    rcases List.mem_append.mp hc with hc | hc
    · left
      rw [start, hrooted] at hc
      split at hc
      · contradiction
      · split at hc <;> simp_all
    · right
      obtain ⟨segment, hsegment, hc⟩ := List.mem_filterMap.mp hc
      have hne : segment ≠ ['.', '.'] := by simpa using hparent segment hsegment
      rw [ofSegment, if_neg hne] at hc
      split at hc
      · contradiction
      · exact ⟨segment, (Option.some.inj hc).symm⟩
  · intro h
    constructor
    · apply Bool.eq_false_iff.mpr
      intro hrooted
      have hroot : .root ∈ components path := by simp [components, start, hrooted]
      simpa using h _ hroot
    · intro segment hsegment
      apply decide_eq_true
      rintro rfl
      have hparent : .parent ∈ components path := by
        apply List.mem_append_right
        exact List.mem_filterMap.mpr ⟨_, hsegment, by decide⟩
      simpa using h _ hparent

theorem isContained_ofSegments {names : List (List Char)} (hne : names ≠ [])
    (hnames : ∀ name ∈ names, Module.IsName name) :
  isContained (Module.ofSegments names)
  := by
  rw [isContained_iff, components_ofSegments hne hnames]
  intro c hc
  obtain ⟨name, -, rfl⟩ := List.mem_map.mp hc
  exact .inr ⟨name, rfl⟩

theorem not_isRooted_of_isContained {path : String} (h : isContained path) :
  isRooted path = false
  := by
  rw [isContained, isPrefixOf_slash, Bool.and_eq_true, Bool.not_eq_true'] at h
  exact h.1

/-- The steps of a contained path are names. -/
theorem exists_steps_eq {path : String} (h : isContained path) :
  ∃ names : List (List Char), steps path = names.map .name
  := by
  have hnames : ∀ c ∈ steps path, c ∈ Set.range PathComponent.name := by
    intro c hc
    rcases (isContained_iff path).mp h c (List.mem_append_right _ hc) with rfl | ⟨cs, rfl⟩
    · obtain ⟨segment, -, hcurrent⟩ := List.mem_filterMap.mp hc
      exact absurd hcurrent (ofSegment_ne_current segment)
    · exact Set.mem_range_self cs
  obtain ⟨names, hsteps⟩ : steps path ∈ Set.range (List.map PathComponent.name) := by
    rwa [Set.range_list_map]
  exact ⟨names, hsteps.symm⟩

/-- A contained path in a directory leads to it or below it. -/
theorem isWithin_joinPath {path : String} (h : isContained path) (directory : String) :
  IsWithin directory (joinPath directory path)
  := by
  obtain ⟨names, hnames⟩ := exists_steps_eq h
  use names
  rw [lexical_eq, lexical_eq, isRooted_joinPath (not_isRooted_of_isContained h),
    steps_joinPath, hnames, List.append_assoc]

/-! ### Places in a tree -/

theorem start_eq (t : FileTree) (path : String) :
  t.start path = if isRooted path then [] else t.workingDirectory
  := by rw [FileTree.start, isPrefixOf_slash]

/-- Without ways out of a directory, names lead below it. -/
theorem foldl_enter {names : List String} (h : ".." ∉ names) (place : List String) :
  names.foldl FileTree.enter place
    = place ++ names.filter fun name => name ≠ "" && name ≠ "."
  := by
  induction names generalizing place with
  | nil => simp
  | cons name names ih =>
    obtain ⟨hname, hnames⟩ : ".." ≠ name ∧ ".." ∉ names := by simpa using h
    rw [List.foldl_cons, ih hnames, FileTree.enter, if_neg hname.symm]
    by_cases hstay : name = "" ∨ name = "."
    · rcases hstay with rfl | rfl <;> simp
    · obtain ⟨hempty, hdot⟩ := not_or.mp hstay
      simp [hempty, hdot]

theorem namesOf_joinPath (directory path : String) :
  ∃ outer, FileTree.namesOf (joinPath directory path) = outer ++ FileTree.namesOf path
    ∧ ∀ place, outer.foldl FileTree.enter place
      = (FileTree.namesOf directory).foldl FileTree.enter place
  := by
  have hnames : ∀ path, FileTree.namesOf path = (Module.segments path).map String.ofList :=
    fun _ => rfl
  obtain ⟨outer, hjoin, hdirectory⟩ := segments_joinPath directory path
  refine ⟨outer.map String.ofList, ?_, fun place => ?_⟩
  · rw [hnames, hnames, hjoin, List.map_append]
  · rw [hnames]
    rcases hdirectory with hdirectory | hdirectory
    · rw [hdirectory]
    · rw [hdirectory, List.map_append, List.foldl_append]
      rfl

theorem placeOf_joinPath (t : FileTree) {path : String} (h : isContained path)
    (directory : String) :
  t.placeOf (joinPath directory path)
    = t.placeOf directory
      ++ (FileTree.namesOf path).filter fun name => name ≠ "" && name ≠ "."
  := by
  have hparent : ".." ∉ FileTree.namesOf path := by
    intro hmem
    obtain ⟨segment, hsegment, hdots⟩ := List.mem_map.mp hmem
    have hlist : segment = ['.', '.'] := by
      rw [← String.toList_ofList (l := segment), hdots]
      rfl
    rw [isContained, Bool.and_eq_true, List.all_eq_true] at h
    simpa [hlist] using h.2 segment hsegment
  obtain ⟨outer, hjoin, houter⟩ := namesOf_joinPath directory path
  rw [FileTree.placeOf, hjoin, List.foldl_append, foldl_enter hparent, houter, start_eq,
    isRooted_joinPath (not_isRooted_of_isContained h), ← start_eq, ← FileTree.placeOf]

/-- A file that has a name lies below the directory, not at its place. -/
theorem exists_placeOf_joinPath (t : FileTree) {path : String} (h : isContained path)
    {directory name : String} {names : List String}
    (hnames : FileTree.namesOf (joinPath directory path) = names ++ [name])
    (hstays : name ≠ "" ∧ name ≠ ".") :
  ∃ below, below ≠ [] ∧ t.placeOf (joinPath directory path) = t.placeOf directory ++ below
  := by
  refine ⟨_, ?_, placeOf_joinPath t h directory⟩
  obtain ⟨outer, hjoin, -⟩ := namesOf_joinPath directory path
  have hlast := congrArg List.getLast? (hjoin.symm.trans hnames)
  rw [List.getLast?_append_of_ne_nil _ (FileTree.namesOf_ne_nil path),
    List.getLast?_concat] at hlast
  apply List.ne_nil_of_mem (a := name)
  simp [List.mem_of_getLast? hlast, hstays]

/-! ### Writing -/

variable {σ : Type}

theorem writeArtifact_contained {m : Type → Type} [Monad m] (fs : FileSystem m)
    (directory : String) {a : Artifact} (h : isContained a.path) :
  writeArtifact fs directory a
    = (do orFail .access (← fs.save (joinPath directory a.path) a.text))
  := by rw [writeArtifact, if_pos h]

theorem run_writeArtifact (fs : FileSystem (StateM σ)) (directory : String) {a : Artifact}
    (h : isContained a.path) (s : σ) :
  (writeArtifact fs directory a).run.run s
    = match (fs.save (joinPath directory a.path) a.text).run s with
      | (.ok _, s') => (.ok (), s')
      | (.error reason, s') => (.error (.access reason), s')
  := by
  rw [writeArtifact_contained fs directory h, run_bind_eq, ExceptT.run_liftM, StateT.run_map]
  cases (fs.save (joinPath directory a.path) a.text).run s with | mk result s' =>
  cases result <;> rfl

/-- A file is not written for one of two reasons: the files cannot be accessed, or its path
is not contained, and then nothing has been done. -/
theorem error_of_writeArtifact {fs : FileSystem (StateM σ)} {directory : String}
    {a : Artifact} {s s' : σ} {error : CommandError}
    (h : (writeArtifact fs directory a).run.run s = (.error error, s')) :
  (∃ reason, error = .access reason)
    ∨ (error = .outside a.path directory ∧ ¬ isContained a.path ∧ s' = s)
  := by
  by_cases hcontained : isContained a.path
  · left
    rw [run_writeArtifact fs directory hcontained] at h
    cases hsave : (fs.save (joinPath directory a.path) a.text).run s with | mk result next =>
    rw [hsave] at h
    cases result with
    | ok _ => cases h
    | error reason =>
      cases h
      exact ⟨reason, rfl⟩
  · right
    rw [writeArtifact, if_neg hcontained] at h
    cases h
    exact ⟨rfl, hcontained, rfl⟩

theorem safe_writeArtifact {P : σ → Prop} {fs : FileSystem (StateM σ)} {directory : String}
    (a : Artifact)
    (hsave : isContained a.path → Keeps P (fs.save (joinPath directory a.path) a.text)) :
  Safe P (fun _ => True) (writeArtifact fs directory a)
  := by
  by_cases hcontained : isContained a.path
  · rw [writeArtifact_contained fs directory hcontained]
    exact (Safe.lift (hsave hcontained)).bind fun _ => Safe.orFail (fun _ => trivial) _
  · rw [writeArtifact, if_neg hcontained]
    exact Safe.throw trivial

/-- What saving within a directory keeps, writing files keeps. -/
theorem keeps_writeArtifacts {P : σ → Prop} {fs : FileSystem (StateM σ)} {directory : String}
    (hsave : ∀ path text, IsWithin directory path → Keeps P (fs.save path text))
    (artifacts : List Artifact) :
  Keeps P (writeArtifacts fs directory artifacts).run
  := Safe.keeps (Safe.forM fun a _ => safe_writeArtifact a fun h =>
    hsave _ _ (isWithin_joinPath h directory))

/-- Whether a tree has the files of another one, but for those below a directory. The working
directory is the same too, so the directory is. -/
structure SameElsewhere (t : FileTree) (directory : String) (u : FileTree) : Prop where
  workingDirectory : u.workingDirectory = t.workingDirectory
  files : ∀ place, (∀ names, names ≠ [] → place ≠ t.placeOf directory ++ names) →
    u.fileAt place = t.fileAt place

theorem keeps_save_sameElsewhere (t : FileTree) (directory : String) {path : String}
    (h : isContained path) (text : String) :
  Keeps (SameElsewhere t directory) (FileTree.fileSystem.save (joinPath directory path) text)
  := by
  rintro u ⟨hworking, hfiles⟩
  constructor
  · exact (u.workingDirectory_save _ _).trans hworking
  · intro place hplace
    rw [← hfiles place hplace]
    cases u.saved (joinPath directory path) text with
    | refused _ _ same => exact same place
    | set _ names name path_eq stays files =>
      refine (files place).trans (if_neg ?_)
      rintro rfl
      obtain ⟨below, hne, hbelow⟩ := exists_placeOf_joinPath u h path_eq stays
      apply hplace below hne
      rw [hbelow, FileTree.placeOf_eq_of_workingDirectory hworking]

/-- The files of a tree that change lie below the directory. -/
theorem fileAt_writeArtifacts {t : FileTree} {directory : String} {artifacts : List Artifact}
    {place : List String}
    (h : ((writeArtifacts FileTree.fileSystem directory artifacts).run.run t).2.fileAt place
      ≠ t.fileAt place) :
  ∃ names, names ≠ [] ∧ place = t.placeOf directory ++ names
  := by
  have hkeeps : Keeps (SameElsewhere t directory)
      (writeArtifacts FileTree.fileSystem directory artifacts).run :=
    Safe.keeps (Safe.forM fun a _ => safe_writeArtifact a fun hcontained =>
      keeps_save_sameElsewhere t directory hcontained a.text)
  have hsame := hkeeps t ⟨rfl, fun _ _ => rfl⟩
  apply Classical.byContradiction
  intro hnot
  apply h
  apply hsame.files
  intro names hne heq
  exact hnot ⟨names, hne, heq⟩

/-! ### Libraries -/

/-- The file of the types of a home has a path of names. -/
theorem components_filePath_normalize {home : String} (h : Module.normalize home ≠ "")
    (lang : Language) :
  ∃ names, lang.filePath (Module.normalize home) = Module.ofSegments names
    ∧ components (lang.filePath (Module.normalize home)) = names.map .name
    ∧ isContained (lang.filePath (Module.normalize home))
  := by
  obtain ⟨names, hne, hnames, hpath⟩ := Module.exists_fileNames h lang
  use names, hpath
  rw [hpath]
  exact ⟨components_ofSegments hne hnames, isContained_ofSegments hne hnames⟩

theorem isContained_of_mem_typeArtifacts {o : Options} {programs : List Program}
    {a : Artifact} (h : a ∈ (Run.ofPrograms o programs).typeArtifacts o) :
  isContained a.path
  := by
  obtain ⟨f, hf, rfl⟩ := List.mem_map.mp ((List.mergeSort_perm _ _).mem_iff.mp h)
  obtain ⟨r, -, d, hplaces⟩ :=
    (Run.mem_path_typeFiles o programs f.path).mp (List.mem_map_of_mem hf)
  obtain ⟨home, -, hhome⟩ := Option.map_eq_some_iff.mp hplaces.home
  have hnamed : Module.normalize home ≠ "" := hhome ▸ hplaces.named
  obtain ⟨-, -, -, hcontained⟩ := components_filePath_normalize hnamed o.language
  rwa [hhome] at hcontained

theorem isContained_stub (lang : Language) :
  isContained (lang.filePath lang.stubModule)
  := by cases lang <;> decide

/-- Only the file of a class can lie outside of the directory of a library. -/
theorem mem_classArtifacts_of_not_isContained {o : Options} {programs : List Program}
    {out : Output} (hout : generate o programs = .ok out) {a : Artifact}
    (ha : a ∈ out.artifacts) (h : ¬ isContained a.path) :
  a ∈ (Run.ofPrograms o programs).classArtifacts o
  := by
  obtain ⟨-, rfl⟩ := (generate_eq_ok_iff o programs out).mp hout
  rcases List.mem_append.mp ha with ha | ha
  · rcases List.mem_append.mp ha with ha | ha
    · exact ha
    · exact absurd (isContained_of_mem_typeArtifacts ha) h
  · obtain rfl := List.mem_singleton.mp ha
    exact absurd (isContained_stub o.language) h

/-- The normal form of a home is made of names. A home without names is that of a local
declaration; the file of any other home has names as its components and is accepted. So of
a library only the file of a class can be refused. For every list of files, nothing is saved
but within the directory, and no file changes but below it. -/
theorem homes_contained :
  (∀ home : String, ∃ names, Module.normalize home = Module.ofSegments names
    ∧ ∀ name ∈ names, Module.IsName name)
  ∧ (∀ (home : String) (r : ClassRequest) (d : Declaration), d.home? = some home →
      if Module.normalize home = "" then r.isLocal d = true
      else r.homeOf d = Module.normalize home)
  ∧ (∀ (home : String) (lang : Language), Module.normalize home ≠ "" →
      (∀ c ∈ components (lang.filePath (Module.normalize home)), ∃ cs, c = .name cs)
      ∧ ∀ a : Artifact, a.path = lang.filePath (Module.normalize home) →
        ∀ {m : Type → Type} [Monad m] (fs : FileSystem m) (directory : String),
          writeArtifact fs directory a
            = (do orFail .access (← fs.save (joinPath directory a.path) a.text)))
  ∧ (∀ (o : Options) (programs : List Program) (out : Output),
      generate o programs = .ok out →
      ∀ {σ : Type} (fs : FileSystem (StateM σ)) (directory path place : String) (s s' : σ),
        (writeArtifacts fs directory out.artifacts).run.run s
          = (.error (.outside path place), s') →
        ∃ a ∈ (Run.ofPrograms o programs).classArtifacts o,
          a.path = path ∧ ¬ isContained path)
  ∧ (∀ (directory : String) (artifacts : List Artifact),
      (∀ {σ : Type} (fs : FileSystem (StateM σ)) (P : σ → Prop),
        (∀ path text, IsWithin directory path → Keeps P (fs.save path text)) →
        Keeps P (writeArtifacts fs directory artifacts).run)
      ∧ ∀ (t : FileTree) (place : List String),
        ((writeArtifacts FileTree.fileSystem directory artifacts).run.run t).2.fileAt place
          ≠ t.fileAt place →
        ∃ names, names ≠ [] ∧ place = t.placeOf directory ++ names)
  := by
  and_intros
  · intro home
    exact ⟨_, Module.normalize_eq home, fun name => Module.isName_of_mem_namesOf⟩
  · intro home r d hhome
    have hhomeOf : r.homeOf d
        = if Module.normalize home = "" then r.path else Module.normalize home := by
      rw [ClassRequest.homeOf, DeclarationOf.homeIn, hhome]
    -- how a normal form comes about does not matter here
    generalize Module.normalize home = normal at hhomeOf ⊢
    split
    · next hempty => simp [ClassRequest.isLocal, hhomeOf, hempty]
    · next hne => rw [hhomeOf, if_neg hne]
  · intro home lang hne
    obtain ⟨names, -, hcomponents, hcontained⟩ := components_filePath_normalize hne lang
    constructor
    · rw [hcomponents]
      intro c hc
      obtain ⟨name, -, rfl⟩ := List.mem_map.mp hc
      exact ⟨name, rfl⟩
    · intro a ha m _ fs directory
      exact writeArtifact_contained fs directory (ha ▸ hcontained)
  · intro o programs out hout σ fs directory path place s s' h
    obtain ⟨before, a, after, between, hartifacts, -, ha⟩ := forM_eq_error h
    rcases error_of_writeArtifact ha with ⟨reason, haccess⟩ | ⟨houtside, hcontained, -⟩
    · cases haccess
    · cases houtside
      have hmem : a ∈ out.artifacts := by simp [hartifacts]
      exact ⟨a, mem_classArtifacts_of_not_isContained hout hmem hcontained, rfl, hcontained⟩
  · intro directory artifacts
    exact ⟨fun fs P hsave => keeps_writeArtifacts hsave artifacts,
      fun t place => fileAt_writeArtifacts⟩

/-- A home that climbs out of a directory is that of a file in it. -/
theorem homes_contained_climbing :
  Module.normalize " .././/etc/../foo" = "etc/foo"
    ∧ (∀ c ∈ components (Language.python.filePath "etc/foo"), ∃ cs, c = .name cs)
    ∧ ∀ (t : FileTree) (place : List String),
      ((writeArtifacts FileTree.fileSystem "sdk" [⟨"../foo.py", ""⟩, ⟨"foo.py", ""⟩]).run.run t
        ).2.fileAt place ≠ t.fileAt place →
      ∃ names, names ≠ [] ∧ place = t.placeOf "sdk" ++ names
  := by
  have hhome : Module.normalize " .././/etc/../foo" = "etc/foo" := by decide
  obtain ⟨-, -, hfile, -, hwrite⟩ := homes_contained
  have hcomponents := (hfile " .././/etc/../foo" .python (by rw [hhome]; decide)).1
  rw [hhome] at hcomponents
  exact ⟨hhome, hcomponents, (hwrite "sdk" _).2⟩

end Generate

end ClientGen
