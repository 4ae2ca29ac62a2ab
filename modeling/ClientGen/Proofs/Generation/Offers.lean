import ClientGen.Generation.Run
import ClientGen.Proofs.Resolution.Isolation
import Mathlib.Data.List.Forall2

/-!
# The classes of a run

A run writes the file of the first class of each program that has methods to offer, unless
an earlier program has taken the file. What a run does is one of three things at a time: it
starts, it reports something, or it adds a class that is offered and whose file has not
been written. So its graph is that of the accepted classes, one after the other, and its
files of classes are theirs. If the homes are apart, each of these files is what the graph
at the end of the run gives for the class.
-/

namespace ClientGen

/-- A class that a program offers. -/
structure Offer where
  program : Program
  remoteClass : RemoteClass

namespace Options

/-- The first class of a program, if it has methods to offer. -/
def offer? (o : Options) (p : Program) : Option Offer :=
  match p.classes with
  | [] => none
  | c :: _ => if (o.qualifying c).isEmpty then none else some ⟨p, c⟩

/-- The request that places the declarations of an offered class. -/
def request (o : Options) (x : Offer) : ClassRequest where
  program := x.program
  className := x.remoteClass.name
  path := o.language.proxyModule x.remoteClass.name
  methods := o.qualifying x.remoteClass

/-- The file of an offered class, which takes what a graph gives. -/
def fileOf (o : Options) (x : Offer) (g : ImportGraph) : ClassFile :=
  o.classFile x.remoteClass (o.qualifying x.remoteClass)
    ((o.request x).importsFrom o.language g)

/-- The accepted classes with one more, unless its file is taken. -/
def accept (o : Options) (taken : List Offer) (x : Offer) : List Offer :=
  if (o.request x).path ∈ taken.map fun y => (o.request y).path then taken
  else taken ++ [x]

/-- The classes of a run whose files are written: the offered ones, of each file the
first. -/
def accepted (o : Options) (programs : List Program) : List Offer :=
  (programs.filterMap o.offer?).foldl o.accept []

/-- The requests of the accepted classes. -/
def requests (o : Options) (programs : List Program) : List ClassRequest :=
  (o.accepted programs).map o.request

variable {o : Options}

/-- Offered classes with different files are all accepted. -/
theorem foldl_accept_of_nodup {taken offers : List Offer}
    (h : ((taken ++ offers).map fun x => (o.request x).path).Nodup) :
  offers.foldl o.accept taken = taken ++ offers
  := by
  induction offers generalizing taken with
  | nil => simp
  | cons x offers ih =>
    rw [List.append_cons] at h
    have hnew : (o.request x).path ∉ taken.map fun y => (o.request y).path := by
      rw [List.map_append, List.map_append] at h
      have := (List.nodup_append.mp (List.nodup_append.mp h).1).2.2
      intro hmem
      apply this _ hmem _ (by simp) rfl
    rw [List.foldl_cons, accept, if_neg hnew, ih h, List.append_assoc]
    rfl

theorem accepted_of_nodup {programs : List Program}
    (h : ((programs.filterMap o.offer?).map fun x => (o.request x).path).Nodup) :
  o.accepted programs = programs.filterMap o.offer?
  := by
  rw [accepted, foldl_accept_of_nodup, List.nil_append]
  apply h

theorem accepted_append_singleton (programs : List Program) (p : Program) :
  o.accepted (programs ++ [p])
    = match o.offer? p with
      | none => o.accepted programs
      | some x => o.accept (o.accepted programs) x
  := by
  rw [accepted, List.filterMap_append, List.foldl_append]
  cases hoffer : o.offer? p with
  | none => simp [hoffer, accepted]
  | some x => simp [hoffer, accepted]

end Options

namespace Run

variable {o : Options}

/-- A run has come about from the start by reports and by the addition of the given
classes, the file of each of which had not been written. -/
inductive Gathers (o : Options) : List Offer → Run → Prop where
  | start : Gathers o [] {}
  | report {offers : List Offer} {run : Run} (diagnostics : List Diagnostic) :
      Gathers o offers run → Gathers o offers (run.report diagnostics)
  | addClass {offers : List Offer} {run : Run} {x : Offer} :
      Gathers o offers run → ¬ run.hasFile (o.request x).path →
      Gathers o (offers ++ [x])
        (run.addClass o x.program x.remoteClass (o.qualifying x.remoteClass))

/-- The graph of a run is that of its classes, one after the other. -/
theorem Gathers.graph_eq {offers : List Offer} {run : Run} (h : Gathers o offers run) :
  run.graph = ImportGraph.ofRequests o.language (offers.map o.request)
  := by
  induction h with
  | start => rfl
  | report _ _ ih => apply ih
  | @addClass offers run x _ _ ih =>
    rw [List.map_append, List.map_singleton, ImportGraph.ofRequests_append_singleton, ← ih]
    rfl

/-- The files of classes of a run are those of its classes. -/
theorem Gathers.paths_eq {offers : List Offer} {run : Run} (h : Gathers o offers run) :
  run.classFiles.map ClassFile.path = offers.map fun x => (o.request x).path
  := by
  induction h with
  | start => rfl
  | report _ _ ih => apply ih
  | @addClass offers run x _ _ ih =>
    rw [List.map_append, ← ih]
    apply List.map_append

/-- What holds of the file of each class, whatever the graph gives, holds of the files of a
run in their order. -/
theorem Gathers.forall₂_classFiles {R : Offer → ClassFile → Prop}
    (hfile : ∀ x g, R x (o.fileOf x g)) {offers : List Offer} {run : Run}
    (h : Gathers o offers run) :
  List.Forall₂ R offers run.classFiles
  := by
  induction h with
  | start => apply List.Forall₂.nil
  | report _ _ ih => apply ih
  | @addClass offers run x _ _ ih =>
    apply List.rel_append ih
    apply List.Forall₂.cons (hfile x _) List.Forall₂.nil

theorem hasFile_iff {run : Run} {path : String} :
  run.hasFile path ↔ path ∈ run.classFiles.map ClassFile.path
  := by simp [hasFile]

/-- No two classes of a run have one file. -/
theorem Gathers.nodup_paths {offers : List Offer} {run : Run} (h : Gathers o offers run) :
  ((offers.map o.request).map ClassRequest.path).Nodup
  := by
  induction h with
  | start => apply List.nodup_nil
  | report _ _ ih => apply ih
  | @addClass offers run x hrun hfile ih =>
    rw [hasFile_iff, hrun.paths_eq] at hfile
    simp only [List.map_append, List.map_singleton]
    apply List.nodup_append.mpr
    and_intros
    · apply ih
    · apply List.pairwise_singleton
    · rintro path hpath _ hx rfl
      obtain rfl := List.mem_singleton.mp hx
      apply hfile
      rw [List.map_map] at hpath
      apply hpath

/-- A program adds the class that it offers, if its file is not taken. -/
theorem Gathers.addProgram {offers : List Offer} {run : Run} (h : Gathers o offers run)
    (p : Program) (index : Nat) :
  Gathers o
    (match o.offer? p with
      | none => offers
      | some x => o.accept offers x)
    (run.addProgram o p index)
  := by
  rw [Run.addProgram, Options.offer?]
  cases hclasses : p.classes with
  | nil => apply Gathers.report _ h
  | cons c extra =>
    have hreport := Gathers.report (extra.map fun e => .extraClass e.name) h
    dsimp only
    rw [addFirst]
    by_cases hempty : (o.qualifying c).isEmpty
    · rw [if_pos hempty, if_pos hempty]
      apply Gathers.report _ hreport
    · rw [if_neg hempty, if_neg hempty]
      dsimp only
      have htaken : run.hasFile (o.language.proxyModule c.name)
          ↔ (o.request ⟨p, c⟩).path ∈ offers.map fun y => (o.request y).path := by
        rw [hasFile_iff, h.paths_eq]
        rfl
      rw [Options.accept]
      by_cases hfile : run.hasFile (o.language.proxyModule c.name)
      · rw [if_pos (htaken.mp hfile), if_pos (by apply hfile)]
        apply Gathers.report _ hreport
      · rw [if_neg (mt htaken.mpr hfile), if_neg (by apply hfile)]
        apply Gathers.addClass (x := ⟨p, c⟩) hreport hfile

/-- A run for programs adds the accepted classes. -/
theorem gathers_ofPrograms (o : Options) (programs : List Program) :
  Gathers o (o.accepted programs) (ofPrograms o programs)
  := by
  induction programs using List.reverseRecOn with
  | nil => apply Gathers.start
  | append_singleton programs p ih =>
    rw [ofPrograms_append_singleton, Options.accepted_append_singleton]
    apply ih.addProgram

/-- If the homes are apart, the graph of a run agrees on each of its classes with the graph
after that class alone. -/
theorem Gathers.agreesOn {offers : List Offer} {run : Run} (h : Gathers o offers run)
    (apart : HomesApart (offers.map o.request)) {x : Offer} (hx : x ∈ offers) :
  run.graph.AgreesOn (o.request x) ((o.request x).resolve o.language {})
  := by
  rw [h.graph_eq]
  apply ImportGraph.agreesOn_ofRequests h.nodup_paths apart
  apply List.mem_map_of_mem hx

/-- If the homes are apart, each file of a class is what the graph at the end gives. -/
theorem Gathers.classFiles_eq {offers : List Offer} {run : Run} (h : Gathers o offers run)
    (apart : HomesApart (offers.map o.request)) :
  run.classFiles = offers.map fun x => o.fileOf x run.graph
  := by
  induction h with
  | start => rfl
  | report _ _ ih => apply ih apart
  | @addClass offers run x hrun hfile ih =>
    have hall := Gathers.addClass (x := x) hrun hfile
    rw [List.map_append] at apart
    have hbefore := apart.of_subset (List.subset_append_left _ _)
    have hlast : (run.addClass o x.program x.remoteClass (o.qualifying x.remoteClass)).classFiles
        = run.classFiles ++ [o.fileOf x
          (run.addClass o x.program x.remoteClass (o.qualifying x.remoteClass)).graph] := rfl
    rw [hlast, List.map_append, ih hbefore]
    congr 1
    -- An earlier file comes from an earlier graph, and both graphs agree on its class.
    apply List.map_congr_left
    intro y hy
    have hagree := hrun.agreesOn hbefore hy
    have hagree' := hall.agreesOn (by rw [List.map_append]; apply apart)
      (List.mem_append_left _ hy)
    rw [Options.fileOf, Options.fileOf, (hagree.trans hagree'.symm).importsFrom_eq]

/-! ### Runs for programs -/

variable {programs : List Program}

theorem graph_ofPrograms (o : Options) (programs : List Program) :
  (ofPrograms o programs).graph = ImportGraph.ofRequests o.language (o.requests programs)
  := (gathers_ofPrograms o programs).graph_eq

/-- If the homes are apart, each file of a class is what the graph after this class alone
gives. -/
theorem classFiles_ofPrograms (apart : HomesApart (o.requests programs)) :
  (ofPrograms o programs).classFiles
    = (o.accepted programs).map fun x => o.fileOf x ((o.request x).resolve o.language {})
  := by
  have hgathers := gathers_ofPrograms o programs
  rw [hgathers.classFiles_eq apart]
  apply List.map_congr_left
  intro x hx
  rw [Options.fileOf, Options.fileOf, (hgathers.agreesOn apart hx).importsFrom_eq]

/-- The files of types of a run declare the names of the declarations that the accepted
classes put there. -/
theorem exists_mem_typeFiles_ofPrograms_iff (o : Options) (programs : List Program)
    (path name : String) :
  (∃ f ∈ (ofPrograms o programs).graph.toTypeFiles o.language o.package,
      f.path = path ∧ ∃ s ∈ f.declarations, s.name = name)
    ↔ ∃ x ∈ o.accepted programs, ∃ d, (o.request x).Places path d ∧ d.name = name
  := by
  rw [graph_ofPrograms,
    ImportGraph.exists_mem_toTypeFiles_iff (ImportGraph.wellFormed_ofRequests _ _),
    ImportGraph.declares_ofRequests, Options.requests]
  simp

end Run

/-! ### Two classes -/

namespace Example

/-- The class of users puts the profile into a file of types, and nothing into another one. -/
theorem exists_places_users_iff (lang : Language) (path : String) :
  (∃ d, (Options.request { language := lang } ⟨users, usersClass⟩).Places path d)
    ↔ path = "types/profile"
  := by
  constructor
  · rintro ⟨d, hplaces⟩
    have home := hplaces.home
    rcases List.mem_pair.mp (ClassRequest.mem_declarations_of_mem_needed hplaces.mem_needed)
      with rfl | rfl
    · apply (Option.some.inj home).symm.trans
      decide
    · cases home
  · rintro rfl
    use profile
    constructor
    · rfl
    · apply places_profile.reached
    · apply places_profile.home
    · apply places_profile.named
    · cases lang <;> decide

/-- Another class with one method. -/
def accountsClass : RemoteClass where
  name := "Accounts"
  methods := [{ name := "find", returnType := .promise (.custom "Account | null") }]

/-- The program of the class, with a declaration where the program of users has one of the
same name. -/
def accounts : Program where
  body := [
    .remoteClass accountsClass,
    .declaration (.typeAlias "Account" (.custom "Profile") (some "types/account")),
    .declaration (.struct "Profile" [⟨"account", false, .custom "Account"⟩]
      (some "types/profile"))]

theorem accepted_users_accounts :
  Options.accepted { language := .typescript } [users, accounts]
    = [⟨users, usersClass⟩, ⟨accounts, accountsClass⟩]
  := rfl

/-- The account, which refers to the profile. -/
def accountAlias : Declaration :=
  .typeAlias "Account" (.custom "Profile") (some "types/account")

theorem places_accountAlias :
  (Options.request { language := .typescript } ⟨accounts, accountsClass⟩).Places "types/account"
    accountAlias
  where
  declared := rfl
  reached := by
    apply Program.Reaches.signature (List.mem_singleton_self _) (List.mem_singleton_self _)
    · decide
    · rfl
  home := by decide
  named := by decide
  foreign := by decide

theorem firstPlaces_profile :
  FirstPlaces (Options.requests { language := .typescript } [users, accounts])
    "types/profile" usersRequest profile
  := by
  use []
  and_intros
  · use [Options.request { language := .typescript } ⟨accounts, accountsClass⟩]
    rfl
  · apply places_profile
  · intro q hq
    cases hq

end Example

end ClientGen
