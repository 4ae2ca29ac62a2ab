import ClientGen.Generation.Run
import ClientGen.Proofs.Resolution.Lookup
import Mathlib.Logic.Relation

/-!
# Edits that do not change a library

The library depends on the declarations of a program only through those that are looked up.
The declarations may be put into another order, as long as those with one name keep theirs,
and declarations that nothing mentions may be added or left out.
-/

namespace ClientGen

/-! ### Edits of a program -/

namespace Program

/-- An edit of the declarations of a program, given the methods that are offered: the items
are put into another order, in which the classes keep theirs and so do the declarations with
one name; or a declaration that is not mentioned is added, or left out. -/
inductive Edit (methods : List Method) : Program → Program → Prop where
  | rearrange {p : Program} {body : List BodyItem} :
      p.body.Perm body → ({ p with body := body } : Program).classes = p.classes →
      (∀ name, (({ p with body := body } : Program).declarations.filter fun d => d.name = name)
        = p.declarations.filter fun d => d.name = name) →
      Edit methods p { p with body := body }
  | insert {p : Program} {before after : List BodyItem} {d : Declaration} :
      p.body = before ++ after → ¬ p.Mentions methods d.name →
      Edit methods p { p with body := before ++ .declaration d :: after }
  | delete {p : Program} {before after : List BodyItem} {d : Declaration} :
      p.body = before ++ .declaration d :: after → ¬ p.Mentions methods d.name →
      Edit methods p { p with body := before ++ after }

variable {methods : List Method} {p q : Program}

theorem Edit.classes_eq (h : Edit methods p q) :
  q.classes = p.classes
  := by
  cases h with
  | rearrange _ hclasses _ => apply hclasses
  | insert hbody _ => simp [classes, hbody]
  | delete hbody _ => simp [classes, hbody]

/-- What a name stands for is found among the declarations with the name. -/
theorem declaration?_eq_head? (p : Program) (name : String) :
  p.declaration? name = (p.declarations.filter fun d => d.name = name).head?
  := by rw [declaration?, List.head?_filter]

/-- Declarations with other names do not change what a name stands for. -/
theorem declaration?_insert {before after : List BodyItem} {d : Declaration} {name : String}
    (hne : d.name ≠ name) (originalLanguage sourceType : String) :
  declaration? ⟨originalLanguage, sourceType, before ++ .declaration d :: after⟩ name
    = declaration? ⟨originalLanguage, sourceType, before ++ after⟩ name
  := by simp [declaration?, declarations, hne]

/-- After an edit a program declares the same under the names that are mentioned. -/
theorem Edit.resembles (h : Edit methods p q) :
  q.Resembles p methods
  := by
  intro name hname
  cases h with
  | rearrange _ _ hfilter =>
    rw [declaration?_eq_head?, hfilter, declaration?_eq_head?]
  | @insert before after d hbody hfresh =>
    obtain ⟨originalLanguage, sourceType, body⟩ := p
    obtain rfl := hbody
    apply declaration?_insert
    rintro rfl
    apply hfresh hname
  | @delete before after d hbody hfresh =>
    obtain ⟨originalLanguage, sourceType, body⟩ := p
    obtain rfl := hbody
    symm
    apply declaration?_insert
    rintro rfl
    apply hfresh hname

end Program

/-! ### Runs -/

namespace Run

variable {o : Options} {run run' : Run} {p q : Program}

/-- The methods of a program that a run takes up: those of its first class that are offered,
unless the file of the class has been written. -/
def proxied (o : Options) (run : Run) (p : Program) : List Method :=
  match p.classes with
  | [] => []
  | c :: _ => if run.hasFile (o.language.proxyModule c.name) then [] else o.qualifying c

/-- Runs that have gathered the same files. -/
structure SameFiles (run run' : Run) : Prop where
  graph : run'.graph = run.graph
  classFiles : run'.classFiles = run.classFiles

theorem SameFiles.refl (run : Run) :
  SameFiles run run
  := ⟨rfl, rfl⟩

theorem SameFiles.hasFile_eq (h : SameFiles run run') (path : String) :
  run'.hasFile path = run.hasFile path
  := by rw [hasFile, hasFile, h.classFiles]

theorem SameFiles.addClass (h : SameFiles run run') {c : RemoteClass}
    {methods : List Method} (hq : q.Resembles p methods) :
  SameFiles (run.addClass o p c methods) (run'.addClass o q c methods)
  := by
  let request : ClassRequest := ⟨p, c.name, o.language.proxyModule c.name, methods⟩
  have hgraph : (request.within q).resolve o.language run'.graph
      = request.resolve o.language run.graph := by
    rw [h.graph]
    apply ClassRequest.resolve_within hq
  constructor
  · apply hgraph
  · change run'.classFiles ++ [o.classFile c methods ((request.within q).importsFrom o.language
        ((request.within q).resolve o.language run'.graph))]
      = run.classFiles ++ [o.classFile c methods (request.importsFrom o.language
        (request.resolve o.language run.graph))]
    rw [hgraph, h.classFiles, ClassRequest.importsFrom_within hq]

/-- Runs stay the same under programs with the same classes, if these programs declare the
same under the names that the methods mention which are taken up. -/
theorem SameFiles.addProgram (h : SameFiles run run') (hclasses : q.classes = p.classes)
    (hq : q.Resembles p (run.proxied o p)) (index index' : Nat) :
  SameFiles (run.addProgram o p index) (run'.addProgram o q index')
  := by
  rw [proxied] at hq
  rw [Run.addProgram, Run.addProgram, hclasses]
  cases hp : p.classes with
  | nil => exact ⟨h.graph, h.classFiles⟩
  | cons c extra =>
    rw [hp] at hq
    dsimp only at hq ⊢
    have hreport : SameFiles (run.report (extra.map fun e => .extraClass e.name))
        (run'.report (extra.map fun e => .extraClass e.name)) := ⟨h.graph, h.classFiles⟩
    rw [addFirst, addFirst, hreport.hasFile_eq]
    by_cases hempty : (o.qualifying c).isEmpty
    · rw [if_pos hempty, if_pos hempty]
      exact ⟨h.graph, h.classFiles⟩
    · rw [if_neg hempty, if_neg hempty]
      by_cases hfile : run.hasFile (o.language.proxyModule c.name)
      · rw [if_pos (by apply hfile), if_pos (by apply hfile)]
        exact ⟨h.graph, h.classFiles⟩
      · rw [if_neg (by apply hfile), if_neg (by apply hfile)]
        rw [if_neg hfile] at hq
        apply hreport.addClass hq

/-- Runs stay the same under the same further programs. -/
theorem SameFiles.addPrograms (h : SameFiles run run') (programs : List (Program × Nat)) :
  SameFiles (programs.foldl (fun run (p, index) => run.addProgram o p index) run)
    (programs.foldl (fun run (p, index) => run.addProgram o p index) run')
  := by
  induction programs generalizing run run' with
  | nil => apply h
  | cons p programs ih =>
    apply ih
    apply h.addProgram rfl
    intro name _
    rfl

theorem SameFiles.artifacts_eq (h : SameFiles run run') :
  (run'.output o).artifacts = (run.output o).artifacts
  := by
  change run'.classArtifacts o ++ run'.typeArtifacts o ++ _
    = run.classArtifacts o ++ run.typeArtifacts o ++ _
  rw [classArtifacts, typeArtifacts, h.graph, h.classFiles]
  rfl

end Run

/-! ### Edits of programs -/

/-- An edit of one of several programs, given the methods that the run takes up which has
seen the programs before it. -/
inductive Edit (o : Options) : List Program → List Program → Prop where
  | within {before after : List Program} {p q : Program} :
      Program.Edit ((Run.ofPrograms o before).proxied o p) p q →
      Edit o (before ++ p :: after) (before ++ q :: after)

theorem Edit.sameFiles {o : Options} {programs programs' : List Program}
    (h : Edit o programs programs') :
  (Run.ofPrograms o programs).SameFiles (Run.ofPrograms o programs')
  := by
  cases h with
  | @within before after p q hedit =>
    simp only [Run.ofPrograms, List.zipIdx_append, List.zipIdx_cons, List.foldl_append,
      List.foldl_cons]
    apply Run.SameFiles.addPrograms
    apply (Run.SameFiles.refl _).addProgram hedit.classes_eq hedit.resembles

/-- The written library stays the same under any number of edits. -/
theorem artifacts_generate_eq_of_edits {o : Options} {programs programs' : List Program}
    (h : Relation.ReflTransGen (Edit o) programs programs') :
  (generate o programs').map Output.artifacts = (generate o programs).map Output.artifacts
  := by
  induction h with
  | refl => rfl
  | tail _ hedit ih =>
    rw [← ih, generate, generate]
    cases o.package.check with
    | ok _ => apply congrArg Except.ok hedit.sameFiles.artifacts_eq
    | error _ => rfl

namespace Example

/-- The program of users with one more declaration, which nothing mentions. -/
def usersWithRole : Program where
  body := [.remoteClass usersClass, .declaration profile,
    .declaration (.typeAlias "Role" (.custom "Profile") none), .declaration model]

/-- That program in another order. -/
def usersRearranged : Program where
  body := [.declaration model, .remoteClass usersClass, .declaration profile,
    .declaration (.typeAlias "Role" (.custom "Profile") none)]

theorem edit_users :
  Program.Edit usersClass.methods users usersWithRole
  := by
  apply @Program.Edit.insert _ users [.remoteClass usersClass, .declaration profile]
    [.declaration model] (.typeAlias "Role" (.custom "Profile") none) rfl
  intro h
  have hmem := h.exists_mem_referencedNames
  revert hmem
  decide

theorem edit_usersWithRole :
  Program.Edit usersClass.methods usersWithRole usersRearranged
  := by
  apply Program.Edit.rearrange
  · apply List.perm_append_singleton (BodyItem.declaration model) [.remoteClass usersClass,
      .declaration profile, .declaration (.typeAlias "Role" (.custom "Profile") none)]
  · rfl
  · intro name
    by_cases hmodel : model.name = name
    · subst hmodel
      rfl
    · simp [Program.declarations, usersWithRole, List.filter_cons, hmodel]

end Example

theorem artifacts_generate_usersRearranged :
  Relation.ReflTransGen (Edit { language := .dart }) [Example.users]
      [Example.usersRearranged]
    ∧ (generate { language := .dart } [Example.usersRearranged]).map Output.artifacts
      = (generate { language := .dart } [Example.users]).map Output.artifacts
  := by
  have hedit : Edit { language := .dart } [Example.users] [Example.usersWithRole] :=
    @Edit.within _ [] [] _ _ Example.edit_users
  have hedit' : Edit { language := .dart } [Example.usersWithRole]
      [Example.usersRearranged] :=
    @Edit.within _ [] [] _ _ Example.edit_usersWithRole
  have hedits := (Relation.ReflTransGen.single hedit).tail hedit'
  use hedits
  apply artifacts_generate_eq_of_edits hedits

end ClientGen
