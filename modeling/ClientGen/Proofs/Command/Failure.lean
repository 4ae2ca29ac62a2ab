import ClientGen.Command.Run
import ClientGen.Proofs.Command.Containment
import ClientGen.Proofs.Program.Reading

/-!
# Failed calls

A call that writes libraries finds out all it has to write before it writes anything, whatever
reads its settings and documents. So a call that fails for another reason than the access to
files has written nothing, but for one case: the paths of files are looked at one by one as the
files are written, and a call that comes upon a path that leads outside of its directory has
already saved the files before it.
-/

namespace ClientGen

/-- Whether what looks at files keeps what holds of the state. -/
structure FileSystem.Looks {σ : Type} (fs : FileSystem (StateM σ)) (P : σ → Prop) : Prop where
  kindOf : ∀ path, Keeps P (fs.kindOf path)
  names : ∀ path, Keeps P (fs.names path)
  read : ∀ path, Keeps P (fs.read path)

theorem FileTree.looks (P : FileTree → Prop) :
  FileTree.fileSystem.Looks P
  where
  kindOf _ _ h := h
  names _ _ h := h
  read _ _ h := h

namespace Generate

/-! ### Before and after -/

section Stages

variable {m : Type → Type} [Monad m]

/-- What is found out before anything is written: the libraries with their directories. -/
def prepare (libraries : Libraries) (fs : FileSystem m) (flags : Flags) :
    Action m (List (String × Output)) := do
  let settings ← readSettings libraries fs flags.config
  let languages ← chooseLanguages fs flags settings
  let channel ← orFail id (chooseChannel flags settings)
  let files ← collectFiles fs (chooseInputs flags settings)
  let programs ← files.mapM (readProgram libraries.toReaders fs)
  let options : Options := {
    language := .typescript
    channel := channel
    package := settings.package.getD {}
    exposure := settings.exposure }
  let outputs ← orFail (fun e => .generation (.package e))
    (generateAll options languages programs)
  return directories (chooseOutput flags settings) outputs

/-- The files of libraries with their directories, in the order in which they are written. -/
def pending (written : List (String × Output)) : List (String × Artifact) :=
  written.flatMap fun (directory, output) => output.artifacts.map fun a => (directory, a)

/-- Writes files into their directories. -/
def writeAll (fs : FileSystem m) (files : List (String × Artifact)) : Action m Unit :=
  files.forM fun (directory, a) => writeArtifact fs directory a

end Stages

theorem pending_cons (directory : String) (output : Output) (written : List (String × Output)) :
  pending ((directory, output) :: written)
    = output.artifacts.map (fun a => (directory, a)) ++ pending written
  := List.flatMap_cons

variable {σ : Type} {libraries : Libraries}

theorem writeAll_pending (fs : FileSystem (StateM σ)) (written : List (String × Output)) :
  (written.forM fun (directory, output) => writeArtifacts fs directory output.artifacts)
    = writeAll fs (pending written)
  := by
  induction written with
  | nil => rfl
  | cons library written ih =>
    obtain ⟨directory, output⟩ := library
    rw [List.forM_eq_forM] at ih ⊢
    rw [List.forM_cons, ih, pending_cons, writeAll, writeAll, List.forM_eq_forM,
      List.forM_append, List.forM_map]
    rfl

/-- Everything is found out before the first file is written. -/
theorem execute_eq (libraries : Libraries) (fs : FileSystem (StateM σ)) (flags : Flags) :
  execute libraries fs flags
    = (do
      let written ← prepare libraries fs flags
      writeAll fs (pending written)
      return written)
  := by
  rw [execute, prepare]
  simp only [bind_assoc, pure_bind, writeAll_pending]

/-! ### Looking only -/

/-- An error that is not about the path of a file. -/
def NotOutside (error : CommandError) : Prop :=
  ∀ path directory, error ≠ .outside path directory

section Looking

variable {P : σ → Prop} {fs : FileSystem (StateM σ)}

theorem safe_readSettings (looks : fs.Looks P) (path : Option String) :
  Safe P NotOutside (readSettings libraries fs path)
  := by
  apply (Safe.lift (looks.kindOf _)).bind
  intro kind
  cases kind with
  | none =>
    cases path with
    | none => exact Safe.pure _
    | some path => exact Safe.throw nofun
  | some _ =>
    apply (Safe.lift (looks.read _)).bind
    intro text
    exact (Safe.orFail (fun _ => nofun) _).bind fun _ => Safe.orFail (fun _ => nofun) _

theorem keeps_detectLanguage (looks : fs.Looks P) (marks : List (String × Language)) :
  Keeps P (detectLanguage fs marks)
  := by
  induction marks with
  | nil => exact Keeps.pure _
  | cons mark marks ih =>
    apply (looks.kindOf mark.1).bind
    intro kind
    split
    · exact Keeps.pure _
    · exact ih

theorem safe_chooseLanguages (looks : fs.Looks P) (flags : Flags) (settings : Settings) :
  Safe P NotOutside (chooseLanguages fs flags settings)
  := by
  rw [chooseLanguages]
  generalize (if flags.languages.isEmpty then settings.languages else flags.languages) = names
  split
  · exact (Safe.lift (keeps_detectLanguage looks _)).bind fun _ => Safe.pure _
  · exact Safe.orFail (fun _ => nofun) _

theorem keeps_keepFiles (looks : fs.Looks P) (paths : List String) :
  Keeps P (keepFiles fs paths)
  := Keeps.filterM (fun path => (looks.kindOf path).bind fun _ => Keeps.pure _) paths

theorem safe_filesOf (looks : fs.Looks P) (path : String) :
  Safe P NotOutside (filesOf fs path)
  := by
  apply (Safe.lift (looks.kindOf path)).bind
  intro kind
  split
  · exact Safe.pure _
  · apply (Safe.lift (looks.names path)).bind
    intro names
    exact (Safe.orFail (fun _ => nofun) _).bind fun _ => Safe.lift (keeps_keepFiles looks _)
  · exact Safe.throw nofun

theorem safe_collectFiles (looks : fs.Looks P) (paths : List String) :
  Safe P NotOutside (collectFiles fs paths)
  := by
  rw [collectFiles]
  split
  · exact Safe.throw nofun
  · exact (Safe.mapM (safe_filesOf looks) paths).bind fun _ => Safe.pure _

theorem safe_readProgram (readers : Document.Readers) (looks : fs.Looks P) (path : String) :
  Safe P NotOutside (readProgram readers fs path)
  := (Safe.lift (looks.read path)).bind fun _ =>
    (Safe.orFail (fun _ => nofun) _).bind fun _ => Safe.orFail (fun _ => nofun) _

theorem notOutside_of_chooseChannel {flags : Flags} {settings : Settings}
    {error : CommandError} (h : chooseChannel flags settings = .error error) :
  NotOutside error
  := by
  rw [chooseChannel] at h
  split at h
  · next name _ =>
    cases hname : Channel.ofText name with
    | ok _ =>
      rw [hname] at h
      cases h
    | error _ =>
      rw [hname] at h
      cases h
      nofun
  · cases h

theorem safe_chooseChannel (flags : Flags) (settings : Settings) :
  Safe P NotOutside (orFail id (chooseChannel flags settings) : Action (StateM σ) Channel)
  := by
  cases hchannel : chooseChannel flags settings with
  | ok channel => exact Safe.pure channel
  | error error => exact Safe.throw (notOutside_of_chooseChannel hchannel)

/-- Before anything is written, files are looked at only, and no path is refused. -/
theorem safe_prepare (libraries : Libraries) (looks : fs.Looks P) (flags : Flags) :
  Safe P NotOutside (prepare libraries fs flags)
  := by
  apply (safe_readSettings looks _).bind
  intro settings
  apply (safe_chooseLanguages looks flags settings).bind
  intro languages
  apply (safe_chooseChannel flags settings).bind
  intro channel
  apply (safe_collectFiles looks _).bind
  intro files
  apply (Safe.mapM (safe_readProgram _ looks) files).bind
  intro programs
  exact (Safe.orFail (fun _ => nofun) _).bind fun _ => Safe.pure _

end Looking

/-! ### Files that are saved -/

/-- The texts of files after a file has been saved in a directory. -/
def overwrite (t : FileTree) (texts : List String → Option String) (f : String × Artifact) :
    List String → Option String :=
  fun place => if place = t.placeOf (joinPath f.1 f.2.path) then some f.2.text else texts place

/-- The texts of the files of a tree after further files have been saved one by one. -/
def overwritten (t : FileTree) (files : List (String × Artifact)) :
    List String → Option String :=
  files.foldl (overwrite t) t.fileAt

/-- A file that is written has a contained path, and it is the only one that changes. -/
theorem ok_of_writeArtifact {t u : FileTree} {directory : String} {a : Artifact}
    (h : (writeArtifact FileTree.fileSystem directory a).run.run t = (.ok (), u)) :
  isContained a.path ∧ u.workingDirectory = t.workingDirectory
    ∧ u.fileAt = overwrite t t.fileAt (directory, a)
  := by
  by_cases hcontained : isContained a.path
  · have hsaved := t.saved (joinPath directory a.path) a.text
    have hworking := t.workingDirectory_save (joinPath directory a.path) a.text
    have hrun : (FileTree.fileSystem.save (joinPath directory a.path) a.text).run t
        = t.save (joinPath directory a.path) a.text := rfl
    rw [run_writeArtifact _ directory hcontained, hrun] at h
    generalize t.save (joinPath directory a.path) a.text = saved at h hsaved hworking
    obtain ⟨result, u⟩ := saved
    cases result with
    | error _ => cases h
    | ok _ =>
      cases h
      refine ⟨hcontained, hworking, ?_⟩
      cases hsaved with
      | refused _ failed _ => cases failed
      | set _ _ _ _ _ files => exact funext files
  · rw [writeArtifact, if_neg hcontained] at h
    cases h

/-- Files that are all written have contained paths, and what was there is overwritten. -/
theorem ok_of_writeAll {t u : FileTree} {files : List (String × Artifact)}
    (h : (writeAll FileTree.fileSystem files).run.run t = (.ok (), u)) :
  (∀ f ∈ files, isContained f.2.path) ∧ u.fileAt = overwritten t files
  := by
  induction files generalizing t with
  | nil =>
    cases h
    exact ⟨by simp, rfl⟩
  | cons f files ih =>
    obtain ⟨directory, a⟩ := f
    rw [writeAll, List.forM_eq_forM, List.forM_cons, run_bind_eq] at h
    cases hfirst : (writeArtifact FileTree.fileSystem directory a).run.run t
      with | mk result next =>
    rw [hfirst] at h
    cases result with
    | error _ => cases h
    | ok _ =>
      obtain ⟨hcontained, hworking, hfiles⟩ := ok_of_writeArtifact hfirst
      obtain ⟨hrest, hlast⟩ := ih h
      have hplaces : overwrite next = overwrite t := by
        funext texts f place
        rw [overwrite, overwrite, FileTree.placeOf_eq_of_workingDirectory hworking]
      refine ⟨List.forall_mem_cons.mpr ⟨hcontained, hrest⟩, ?_⟩
      rw [hlast, overwritten, overwritten, hplaces, hfiles, List.foldl_cons]

/-! ### Calls -/

theorem run_readProgram {readers : Document.Readers} {t : FileTree} {path text : String}
    {p : Program} (hread : t.read path = .ok text)
    (hparse : Program.parse text (some path) readers = .ok p) :
  (readProgram readers FileTree.fileSystem path).run.run t = (.ok p, t)
  := by
  rw [readProgram, run_bind_ok (run_lift _ t),
    run_bind_ok (run_orFail_ok _ (by exact hread) _), run_orFail_ok _ hparse]
  rfl

theorem run_execute_of_prepared {t : FileTree} {flags : Flags} {written : List (String × Output)}
    (h : (prepare libraries FileTree.fileSystem flags).run.run t = (.ok written, t)) :
  (execute libraries FileTree.fileSystem flags).run.run t
    = match (writeAll FileTree.fileSystem (pending written)).run.run t with
      | (.ok _, u) => (.ok written, u)
      | (.error e, u) => (.error e, u)
  := by
  rw [execute_eq, run_bind_eq, h]
  dsimp only
  rw [run_bind_eq]
  cases (writeAll FileTree.fileSystem (pending written)).run.run t with | mk result u =>
  cases result <;> rfl

/-- How the writing of libraries fails: the files cannot be accessed, or nothing has changed,
or the path of a file leads outside of its directory, and then the files before it have been
saved. -/
inductive Fails (libraries : Libraries) (t : FileTree) (flags : Flags) :
    CommandError → FileTree → Prop
  | access (reason : String) (u : FileTree) : Fails libraries t flags (.access reason) u
  | unchanged (error : CommandError) (early : NotOutside error) : Fails libraries t flags error t
  | outside (written : List (String × Output)) (before after : List (String × Artifact))
      (directory : String) (a : Artifact) (u : FileTree)
      (prepared : (prepare libraries FileTree.fileSystem flags).run.run t = (.ok written, t))
      (order : pending written = before ++ (directory, a) :: after)
      (contained : ∀ f ∈ before, isContained f.2.path)
      (refused : ¬ isContained a.path)
      (files : u.fileAt = overwritten t before) :
      Fails libraries t flags (.outside a.path directory) u

theorem fails_of_execute {t u : FileTree} {flags : Flags} {error : CommandError}
    (h : (execute libraries FileTree.fileSystem flags).run.run t = (.error error, u)) :
  Fails libraries t flags error u
  := by
  obtain ⟨hsame, hearly⟩ :=
    safe_prepare (P := (· = t)) libraries (FileTree.looks _) flags t rfl
  cases hprepare : (prepare libraries FileTree.fileSystem flags).run.run t with | mk result next =>
  rw [hprepare] at hsame hearly
  obtain rfl : next = t := hsame
  cases result with
  | error e =>
    rw [execute_eq, run_bind_eq, hprepare] at h
    cases h
    exact .unchanged error (hearly error rfl)
  | ok written =>
    rw [run_execute_of_prepared hprepare] at h
    cases hwrite : (writeAll FileTree.fileSystem (pending written)).run.run next
      with | mk result u' =>
    rw [hwrite] at h
    cases result with
    | ok _ => cases h
    | error e =>
      cases h
      obtain ⟨before, ⟨directory, a⟩, after, between, horder, hbefore, ha⟩ :=
        forM_eq_error hwrite
      rcases error_of_writeArtifact ha with ⟨reason, rfl⟩ | ⟨rfl, hrefused, rfl⟩
      · exact .access reason _
      · obtain ⟨hcontained, hfiles⟩ := ok_of_writeAll hbefore
        exact .outside written before after directory a _ hprepare horder hcontained hrefused
          hfiles

end Generate

namespace Call

open Generate

theorem exists_flags_of_status {libraries : Libraries} {t u : FileTree}
    {arguments : List String} {outcome : Outcome}
    (hrun : (run FileTree.fileSystem ("generate" :: arguments) libraries).run t = (outcome, u))
    (hstatus : outcome.status = 1) :
  ∃ flags, Request.ofArguments ("generate" :: arguments) = .run (.generate flags)
    ∧ (generate libraries FileTree.fileSystem flags).run t = (outcome, u)
  := by
  have hrequest : Request.ofArguments ("generate" :: arguments)
      = (Arguments.read Arguments.flagOptions Arguments.acceptFlag {} arguments).toRequest
        fun flags => some (.generate flags) := rfl
  rw [run, hrequest] at hrun
  rw [hrequest]
  generalize Arguments.read Arguments.flagOptions Arguments.acceptFlag {} arguments = reading
    at hrun
  cases reading with
  | done flags => exact ⟨flags, rfl, hrun⟩
  | help =>
    cases hrun
    cases hstatus
  | misuse =>
    cases hrun
    cases hstatus

/-- A call that writes libraries and ends with status 1 has failed, whatever reads its settings
and documents. Unless the files cannot be accessed or the path of a file leads outside of its
directory, nothing has changed; in the latter case what was to be written is known, and the
files before that one have been saved. -/
theorem fails_of_status {libraries : Libraries} {t u : FileTree} {arguments : List String}
    {outcome : Outcome}
    (hrun : (run FileTree.fileSystem ("generate" :: arguments) libraries).run t = (outcome, u))
    (hstatus : outcome.status = 1) :
  ∃ flags error, Request.ofArguments ("generate" :: arguments) = .run (.generate flags)
    ∧ outcome = failed "SDK generation" error
    ∧ Fails libraries t flags error u
    ∧ ((∀ reason, error ≠ .access reason) → NotOutside error → u = t)
  := by
  obtain ⟨flags, hrequest, hgenerate⟩ := exists_flags_of_status hrun hstatus
  rw [generate, StateT.run_bind] at hgenerate
  cases hexecute : (execute libraries FileTree.fileSystem flags).run.run t with | mk result u' =>
  rw [hexecute] at hgenerate
  cases result with
  | ok written =>
    cases hgenerate
    cases hstatus
  | error error =>
    cases hgenerate
    have hfails := fails_of_execute hexecute
    refine ⟨flags, error, hrequest, rfl, hfails, fun haccess hinside => ?_⟩
    cases hfails with
    | access reason => exact absurd rfl (haccess reason)
    | unchanged => rfl
    | outside _ _ _ directory a => exact absurd rfl (hinside a.path directory)

end Call

namespace Example

open Generate

/-- The text of a document with one class, which has one method. -/
def callerText (name : String) : String :=
  "\x7b\"body\":[\x7b\"type\":\"ClassDefinition\",\"name\":\"" ++ name
    ++ "\",\"methods\":[\x7b\"name\":\"ping\","
    ++ "\"returnType\":\x7b\"type\":\"VoidLiteral\"\x7d\x7d]\x7d]\x7d"

/-- The value of the document. -/
def callerValue (name : String) : Value :=
  .object [("body", .array [.object [
    ("methods", .array [.object [
      ("name", .string "ping"), ("returnType", .object [("type", .string "VoidLiteral")])]]),
    ("name", .string name), ("type", .string "ClassDefinition")]])]

/-- Whether a value is that of the document. -/
def isCallerValue (name : String) : Value → Bool
  | .object [(body, .array [.object [
      (methods, .array [.object [
        (methodName, .string ping), (returnType, .object [(tag, .string void)])]]),
      (className, .string found), (classTag, .string definition)]])] =>
    body = "body" && methods = "methods" && methodName = "name" && ping = "ping"
      && returnType = "returnType" && tag = "type" && void = "VoidLiteral"
      && className = "name" && found = name && classTag = "type"
      && definition = "ClassDefinition"
  | _ => false

theorem eq_callerValue {name : String} {v : Value} (h : isCallerValue name v) :
  v = callerValue name
  := by
  revert h
  unfold isCallerValue
  split
  · simp only [Bool.and_eq_true, decide_eq_true_eq]
    rintro ⟨⟨⟨⟨⟨⟨⟨⟨⟨⟨rfl, rfl⟩, rfl⟩, rfl⟩, rfl⟩, rfl⟩, rfl⟩, rfl⟩, rfl⟩, rfl⟩, rfl⟩
    rfl
  · simp

/-- The program of the document. -/
def caller (name : String) : Program where
  body := [.remoteClass {
    name := name
    methods := [{ name := "ping", returnType := .primitive .void }] }]

theorem ofValue_callerValue (name : String) :
  Program.ofValue (callerValue name) = .ok (caller name)
  := by
  have hvoid : TypeNode.ofValue .setAside (.object [("type", .string "VoidLiteral")])
      = .ok (.primitive .void) :=
    (TypeNode.ofValue_primitive_eq_ok_iff rfl).mpr ⟨trivial, rfl⟩
  apply Program.ofValue_eq_ok_iff.mpr
  refine ⟨⟨_, rfl, rfl⟩, Program.ofRecord_eq_ok_iff.mpr ⟨trivial, rfl, rfl, ?_⟩⟩
  apply mapM_eq_ok_iff.mpr
  refine .cons ?_ .nil
  apply (BodyItem.ofValue_class_eq_ok_iff rfl).mpr
  refine ⟨trivial, { name := name, methods := [_] }, rfl, ?_, rfl, rfl⟩
  apply mapM_eq_ok_iff.mpr
  refine .cons ?_ .nil
  apply Method.ofValue_eq_ok_iff.mpr
  exact ⟨trivial, rfl, rfl, rfl, rfl, rfl, congrArg some hvoid⟩

theorem parse_callerText {name path : String} (hpath : Document.dialectOf? path = some .json)
    (h : (Json.parse (callerText name)).toOption.any (isCallerValue name)) :
  Program.parse (callerText name) (some path) = .ok (caller name)
  := by
  cases hv : Json.parse (callerText name) with
  | error _ => simp [hv, Except.toOption] at h
  | ok v =>
    obtain rfl : v = callerValue name := eq_callerValue (by simpa [hv, Except.toOption] using h)
    rw [Program.parse, Document.parse, Option.bind_some, hpath]
    simp only [Document.parseAs, hv, Except.mapError]
    exact ofValue_callerValue name

theorem parse_users :
  Program.parse (callerText "Users") (some "a.json") = .ok (caller "Users")
  := parse_callerText rfl (by decide +kernel)

theorem parse_keys :
  Program.parse (callerText "../Keys") (some "b.json") = .ok (caller "../Keys")
  := parse_callerText rfl (by decide +kernel)

/-- The files of two documents. The file of the second class leads out of a directory. -/
def callers : FileTree where
  entries := [(["a.json"], .file (callerText "Users")), (["b.json"], .file (callerText "../Keys"))]

/-- What a call is told that reads the two documents. -/
def callersFlags : Flags where
  inputs := ["a.json", "b.json"]

/-- The run for the two documents. -/
def callersRun : Run :=
  Run.ofPrograms { language := .typescript } [caller "Users", caller "../Keys"]

theorem prepare_callers :
  (prepare {} FileTree.fileSystem callersFlags).run.run callers
    = (.ok [("./sdk", callersRun.output { language := .typescript })], callers)
  := by
  have hsettings : (readSettings {} FileTree.fileSystem callersFlags.config).run.run callers
      = (.ok {}, callers) := rfl
  have hlanguages : (chooseLanguages FileTree.fileSystem callersFlags {}).run.run callers
      = (.ok [.typescript], callers) := rfl
  have hchannel : chooseChannel callersFlags {} = .ok .jsonrpc := rfl
  have hfiles : (collectFiles FileTree.fileSystem (chooseInputs callersFlags {})).run.run callers
      = (.ok ["a.json", "b.json"], callers) := rfl
  have husers : (readProgram {} FileTree.fileSystem "a.json").run.run callers
      = (.ok (caller "Users"), callers) := run_readProgram rfl parse_users
  have hkeys : (readProgram {} FileTree.fileSystem "b.json").run.run callers
      = (.ok (caller "../Keys"), callers) := run_readProgram rfl parse_keys
  have hprograms : (["a.json", "b.json"].mapM (readProgram {} FileTree.fileSystem)).run.run callers
      = (.ok [caller "Users", caller "../Keys"], callers) := by
    rw [List.mapM_cons, run_bind_ok husers, List.mapM_cons, bind_assoc, run_bind_ok hkeys]
    rfl
  have houtputs : generateAll { language := .typescript } [.typescript]
      [caller "Users", caller "../Keys"]
        = .ok [callersRun.output { language := .typescript }] := by
    rw [generateAll, List.mapM_cons, generate_eq_ok]
    rfl
  rw [prepare, run_bind_ok hsettings, run_bind_ok hlanguages,
    run_bind_ok (run_orFail_ok id hchannel _), run_bind_ok hfiles, run_bind_ok hprograms]
  exact run_bind_ok (run_orFail_ok _ houtputs _)

/-- The file of the second class comes right after that of the first. -/
theorem exists_pending_callers :
  ∃ a b rest, pending [("./sdk", callersRun.output { language := .typescript })]
      = ("./sdk", a) :: ("./sdk", b) :: rest
    ∧ a.path = "users.sdk.ts" ∧ b.path = "../Keys.sdk.ts"
  := by
  have hpaths := Run.classFiles_path { language := .typescript }
    [caller "Users", caller "../Keys"]
  have hrequests : (Options.requests { language := .typescript }
      [caller "Users", caller "../Keys"]).map ClassRequest.path
      = ["users.sdk", "../Keys.sdk"] := by decide
  rw [hrequests] at hpaths
  obtain ⟨f, fs, hfiles, hf, hfs⟩ := List.map_eq_cons_iff.mp hpaths
  obtain ⟨g, gs, rfl, hg, hgs⟩ := List.map_eq_cons_iff.mp hfs
  obtain rfl := List.map_eq_nil_iff.mp hgs
  refine ⟨⟨"users.sdk.ts", f.text .typescript⟩, ⟨"../Keys.sdk.ts", g.text .typescript⟩,
    (callersRun.typeArtifacts { language := .typescript }
      ++ [Run.stubArtifact { language := .typescript }]).map fun a => ("./sdk", a),
    ?_, rfl, rfl⟩
  have hartifacts : callersRun.classArtifacts { language := .typescript }
      = [⟨"users.sdk.ts", f.text .typescript⟩, ⟨"../Keys.sdk.ts", g.text .typescript⟩] := by
    rw [callersRun, Run.classArtifacts, hfiles, List.map_cons, List.map_cons, hf, hg]
    rfl
  rw [pending_cons, Run.output]
  simp only [hartifacts, List.append_assoc, List.cons_append, List.map_cons]
  simp [pending]

/-- The first file is saved before the path of the second one is refused. -/
theorem run_execute_callers :
  ∃ text, (execute {} FileTree.fileSystem callersFlags).run.run callers
    = (.error (.outside "../Keys.sdk.ts" "./sdk"),
      (callers.save "./sdk/users.sdk.ts" text).2)
  := by
  obtain ⟨a, b, rest, hpending, ha, hb⟩ := exists_pending_callers
  use a.text
  have hfirst : (writeArtifact FileTree.fileSystem "./sdk" a).run.run callers
      = (.ok (), (callers.save "./sdk/users.sdk.ts" a.text).2) := by
    rw [run_writeArtifact _ _ (by rw [ha]; decide), ha]
    rfl
  have hsecond : ∀ t, (writeArtifact FileTree.fileSystem "./sdk" b).run.run t
      = (.error (.outside "../Keys.sdk.ts" "./sdk"), t) := by
    intro t
    rw [writeArtifact, if_neg (by rw [hb]; decide), hb]
    rfl
  rw [run_execute_of_prepared prepare_callers, hpending, writeAll, List.forM_eq_forM,
    List.forM_cons, run_bind_ok hfirst, List.forM_cons, run_bind_eq, hsecond]

theorem run_callers :
  ∃ text, (Call.run FileTree.fileSystem
      ["generate", "--input", "a.json", "--input", "b.json"]).run callers
    = (Call.failed "SDK generation" (.outside "../Keys.sdk.ts" "./sdk"),
      (callers.save "./sdk/users.sdk.ts" text).2)
  := by
  obtain ⟨text, hexecute⟩ := run_execute_callers
  have hrequest : Request.ofArguments ["generate", "--input", "a.json", "--input", "b.json"]
      = .run (.generate callersFlags) := by decide
  use text
  rw [Call.run, hrequest]
  change (Call.generate {} FileTree.fileSystem callersFlags).run callers = _
  rw [Call.generate, StateT.run_bind, hexecute]
  rfl

end Example

theorem Call.fails_of_status_callers :
  ∃ flags error u,
    Request.ofArguments ["generate", "--input", "a.json", "--input", "b.json"]
      = .run (.generate flags)
    ∧ Generate.Fails {} Example.callers flags error u
  := by
  obtain ⟨text, hrun⟩ := Example.run_callers
  obtain ⟨flags, error, hrequest, -, hfails, -⟩ := Call.fails_of_status hrun rfl
  exact ⟨flags, error, _, hrequest, hfails⟩

/-- A call fails because of the path of a file, and yet a file is new after it. -/
theorem Call.fileAt_ne_none_callers :
  ∃ outcome u, (Call.run FileTree.fileSystem
      ["generate", "--input", "a.json", "--input", "b.json"]).run Example.callers
      = (outcome, u)
    ∧ outcome = Call.failed "SDK generation" (.outside "../Keys.sdk.ts" "./sdk")
    ∧ outcome.status = 1
    ∧ Example.callers.fileAt ["sdk", "users.sdk.ts"] = none
    ∧ u.fileAt ["sdk", "users.sdk.ts"] ≠ none
  := by
  obtain ⟨text, hrun⟩ := Example.run_callers
  refine ⟨_, _, hrun, rfl, rfl, by decide, ?_⟩
  nofun

end ClientGen
