import ClientGen.Proofs.Generation.Composition
import ClientGen.Proofs.Generation.Imports
import ClientGen.Proofs.Resolution.Fresh
import ClientGen.Proofs.Resolution.Names

/-!
# The names that a file binds

The file of a class binds the name of the class, that of the stub, those of the
declarations that belong to it and those that it takes. It spells the latter two otherwise
where the former are in the way, so the names are different from each other unless the
class itself is called like the stub. A file of types spells names as the programs do, so
its names are different only if no name stands for declarations that belong to different
files.
-/

namespace ClientGen

/-! ### Files of classes -/

/-- The names that the file of a class binds with import statements: that of the class,
that of the stub, and those of the declarations that it makes or takes. -/
def ClassFile.boundNames (f : ClassFile) (statements : List ImportStatement) :
    List String :=
  f.name :: Fresh.stubName
    :: (f.declarations.map SpelledDeclaration.name ++ localNames statements)

namespace Options

variable {o : Options}

/-- The file of an offered class declares the declarations that belong to it as its graph
spells them. -/
theorem name_declarations_fileOf (x : Offer) (g : ImportGraph) :
  (o.fileOf x g).declarations.map SpelledDeclaration.name
    = ((o.request x).locals.map DeclarationOf.name).map (g.spelling (o.request x).path)
  := by
  rw [(o.spells_fileOf x g).declarations, List.map_map, List.map_map]
  apply List.map_congr_left
  intro d _
  apply name_spellDeclaration

/-- After its class alone, the file of an offered class binds different names with
statements for different names that it takes, unless the class is called like the stub. -/
theorem nodup_boundNames_fileOf_iff (x : Offer) {g : ImportGraph}
    (hg : g = (o.request x).resolve o.language {}) {statements : List ImportStatement}
    {names : List String}
    (hstatements :
      (localNames statements).Perm (names.map (g.spelling (o.request x).path)))
    (distinct : names.Nodup) (htaken : names ⊆ (g.providersOf (o.request x).path).names) :
  ((o.fileOf x g).boundNames statements).Nodup ↔ x.remoteClass.name ≠ Fresh.stubName
  := by
  have hspelling : g.spelling (o.request x).path
      = (Fresh.classRenames x.remoteClass.name ((o.request x).scope g)).apply := by
    funext name
    rw [hg]
    apply ClassRequest.spelling_resolve ImportGraph.wellFormed_empty
  have hperm : ((o.fileOf x g).boundNames statements).Perm
      (x.remoteClass.name :: Fresh.stubName
        :: ((o.request x).locals.map DeclarationOf.name ++ names).map
          (Fresh.classRenames x.remoteClass.name ((o.request x).scope g)).apply) := by
    apply List.Perm.cons
    apply List.Perm.cons
    rw [List.map_append, name_declarations_fileOf, ← hspelling]
    apply hstatements.append_left
  rw [hperm.nodup_iff]
  apply Fresh.nodup_cons_map_apply_iff
  · apply (ClassRequest.nodup_name_locals _).append distinct
    intro name hlocal hname
    rw [hg] at htaken
    apply ClassRequest.disjoint_name_locals_names_resolve _ _ hlocal (htaken hname)
  · intro name hname
    apply (ClassRequest.mem_scope g name).mpr
    rcases List.mem_append.mp hname with hlocal | hname
    · left
      apply hlocal
    · right
      apply htaken hname

end Options

/-- If the homes are apart, the names that the file of a class binds are different from each
other, unless the class is called like the stub. This holds for the names that the file
takes by all of its statements, and for those that it takes by the statements for
signatures alone together with those that export again. -/
theorem Run.nodup_boundNames_classFiles_iff (o : Options) (programs : List Program)
    (apart : HomesApart (o.requests programs)) :
  ∀ f ∈ (Run.ofPrograms o programs).classFiles,
    ((f.boundNames f.imports).Nodup ↔ f.name ≠ Fresh.stubName)
      ∧ ((f.boundNames (f.annotationImports ++ f.reexports)).Nodup
        ↔ f.name ≠ Fresh.stubName)
  := by
  intro f hf
  rw [Run.classFiles_ofPrograms apart] at hf
  obtain ⟨x, -, rfl⟩ := List.mem_map.mp hf
  constructor
  · apply Options.nodup_boundNames_fileOf_iff x rfl
    · apply ImportGraph.perm_localNames_statements
    · apply ClassRequest.nodup_names_resolve
    · apply List.Subset.refl
  · obtain ⟨distinct, htaken⟩ :=
      ClassRequest.nodup_names_without_exported (o.request x) o.language
    apply Options.nodup_boundNames_fileOf_iff x rfl _ distinct htaken
    rw [localNames, List.flatMap_append, List.map_append]
    apply List.Perm.append
    · apply ImportGraph.perm_localNames_statements
    · apply ImportGraph.perm_localNames_statements

theorem Run.nodup_boundNames_classFiles_users :
  HomesApart (Options.requests { language := .typescript } [Example.users, Example.accounts])
    ∧ ∃ f ∈ (ofPrograms { language := .typescript }
          [Example.users, Example.accounts]).classFiles,
        f.name = "Users" ∧ (f.boundNames f.imports).Nodup
          ∧ (f.boundNames (f.annotationImports ++ f.reexports)).Nodup
  := by
  have apart : HomesApart
      (Options.requests { language := .typescript } [Example.users, Example.accounts]) := by
    decide
  use apart
  have hfiles := classFiles_ofPrograms apart
  rw [Example.accepted_users_accounts, List.map_cons] at hfiles
  have hf := hfiles ▸ List.mem_cons_self
  obtain ⟨himports, hreexports⟩ := nodup_boundNames_classFiles_iff _ _ apart _ hf
  refine ⟨_, hf, rfl, himports.mpr ?_, hreexports.mpr ?_⟩
  · decide
  · decide

namespace Example

/-- A class with the name of the stub. -/
def remoteClass : RemoteClass where
  name := "Remote"
  methods := [{ name := "ping", returnType := .primitive .void }]

/-- The program of the class. -/
def remote : Program where
  body := [.remoteClass remoteClass]

end Example

/-- The file of a class with the name of the stub binds this name twice, though no
declaration has another file as its home. -/
theorem Run.not_nodup_boundNames_remote :
  HomesApart (Options.requests { language := .typescript } [Example.remote])
    ∧ ∃ f ∈ (ofPrograms { language := .typescript } [Example.remote]).classFiles,
        ¬ (f.boundNames f.imports).Nodup
  := by
  constructor
  · decide
  · rw [classFiles_singleton]
    use Options.fileOf { language := .typescript } ⟨Example.remote, Example.remoteClass⟩
      ((Options.request { language := .typescript }
        ⟨Example.remote, Example.remoteClass⟩).resolve .typescript {})
    constructor
    · apply List.mem_singleton_self
    · intro hnodup
      apply (List.nodup_cons.mp hnodup).1
      apply List.mem_cons_self

/-! ### Files of types -/

/-- The names that a file of types binds: those that it declares and those that it takes. -/
def TypeFile.boundNames (f : TypeFile) : List String :=
  f.declarations.map SpelledDeclaration.name ++ localNames f.imports

/-- After classes, a file of types that is not that of a class binds the names that it
declares and those that it takes, as the programs spell them. -/
theorem TypeFile.perm_boundNames {lang : Language} {package : Package}
    {requests : List ClassRequest} {f : TypeFile}
    (hf : f ∈ (ImportGraph.ofRequests lang requests).toTypeFiles lang package)
    (foreign : ∀ r ∈ requests, f.path ≠ r.path) :
  f.boundNames.Perm
    (((ImportGraph.ofRequests lang requests).declarationsOf f.path).map
        SpelledDeclaration.name
      ++ ((ImportGraph.ofRequests lang requests).providersOf f.path).names)
  := by
  have hwell := ImportGraph.wellFormed_ofRequests lang requests
  have hspelling : (ImportGraph.ofRequests lang requests).spelling f.path = id := by
    funext name
    rw [ImportGraph.spelling, ImportGraph.lookup_renames_ofRequests foreign]
    apply Renames.apply_nil
  have hlocals := ImportGraph.perm_localNames_statements lang
    (ImportGraph.ofRequests lang requests) f.path
    ((ImportGraph.ofRequests lang requests).providersOf f.path)
  rw [hspelling, List.map_id] at hlocals
  rw [TypeFile.boundNames, (ImportGraph.declarations_of_mem_toTypeFiles hwell hf).1,
    ImportGraph.imports_of_mem_toTypeFiles hf]
  apply hlocals.append_left

/-- The names that a file of types binds, unless it is the file of a class, are different
from each other exactly when no name stands there for declarations that belong to different
files. -/
theorem Run.nodup_boundNames_typeFile_iff (o : Options) (programs : List Program)
    {f : TypeFile}
    (hf : f ∈ (Run.ofPrograms o programs).graph.toTypeFiles o.language o.package)
    (foreign : ∀ r ∈ o.requests programs, f.path ≠ r.path) :
  f.boundNames.Nodup
    ↔ ∀ name home other, StandsFor (o.requests programs) f.path name home →
        StandsFor (o.requests programs) f.path name other → home = other
  := by
  rw [Run.graph_ofPrograms] at hf
  rw [(TypeFile.perm_boundNames hf foreign).nodup_iff, nodup_names_ofRequests_iff foreign]

theorem Run.nodup_boundNames_typeFile_users :
  ∃ f ∈ (ofPrograms { language := .typescript } [Example.users]).graph.toTypeFiles
      .typescript {},
    f.path = "types/profile"
      ∧ (∀ r ∈ Options.requests { language := .typescript } [Example.users], f.path ≠ r.path)
      ∧ f.boundNames.Nodup
  := by
  have hrequests : Options.requests { language := .typescript } [Example.users]
      = [Example.usersRequest] := rfl
  obtain ⟨f, hf, hpath, -⟩ := (exists_mem_typeFiles_ofPrograms_iff { language := .typescript }
    [Example.users] "types/profile" "Profile").mpr
      ⟨⟨Example.users, Example.usersClass⟩, List.mem_cons_self, Example.profile,
        Example.places_profile, rfl⟩
  have foreign : ∀ r ∈ Options.requests { language := .typescript } [Example.users],
      f.path ≠ r.path := by
    rw [hrequests, hpath]
    decide
  use f, hf, hpath, foreign
  apply (nodup_boundNames_typeFile_iff _ _ hf foreign).mpr
  rw [hrequests]
  intro name home other
  apply StandsFor.eq_of_singleton

namespace Example

/-- A class that gives out a declaration, which belongs to a file of types and refers to
the roles that belong to another one. -/
structure Directory where
  className : String
  entry : String
  roleHome : String

namespace Directory

/-- The class. -/
def remoteClass (d : Directory) : RemoteClass where
  name := d.className
  methods := [{ name := "first", returnType := .custom d.entry }]

/-- The declaration that the class gives out. -/
def declaration (d : Directory) : Declaration :=
  .struct d.entry [⟨"role", false, .custom "Role"⟩] (some "models/person")

/-- The roles. -/
def role (d : Directory) : Declaration :=
  .enumeration "Role" [⟨"Guest", ⟨"guest", .string⟩⟩] (some d.roleHome)

/-- The program of the class. -/
def program (d : Directory) : Program where
  body := [.remoteClass d.remoteClass, .declaration d.declaration, .declaration d.role]

/-- The class with its program. -/
def request (d : Directory) : ClassRequest :=
  Options.request { language := .typescript } ⟨d.program, d.remoteClass⟩

/-- The class puts the declaration into the file of types. -/
theorem places (d : Directory)
    (hentry : d.entry ∈ (TypeNode.custom d.entry).referencedNames)
    (hdeclared : d.program.declaration? d.entry = some d.declaration)
    (foreign : "models/person" ≠ d.request.path) :
  d.request.Places "models/person" d.declaration
  where
  declared := hdeclared
  reached := by
    apply Program.Reaches.signature (List.mem_singleton_self _) (List.mem_singleton_self _)
      hentry
    apply Option.isSome_of_eq_some hdeclared
  home := by
    have hhome : Module.normalize "models/person" = "models/person" := by decide
    apply congrArg some hhome
  named := by decide
  foreign := foreign

/-- Where the declaration was the first of its name, `Role` stands for the roles. -/
theorem standsFor_role (d : Directory) {requests : List ClassRequest} {path : String}
    (hfirst : FirstPlaces requests path d.request d.declaration)
    (hrole : d.program.declaration? "Role" = some d.role) :
  StandsFor requests path "Role" (d.request.homeOf d.role)
  := by
  have hname : "Role" ∈ (TypeNode.custom "Role").referencedNames := by decide
  have htarget : d.role.name ∈ (TypeNode.custom "Role").referencedNames := hname
  apply StandsFor.referenced hfirst (List.mem_singleton_self _) htarget hrole

end Directory

/-- The directory of people. -/
def people : Directory := ⟨"People", "Person", "people/role"⟩

/-- The directory of teams. -/
def teams : Directory := ⟨"Teams", "Member", "teams/role"⟩

theorem requests_people_teams :
  Options.requests { language := .typescript } [people.program, teams.program]
    = [people.request, teams.request]
  := rfl

theorem places_person :
  people.request.Places "models/person" people.declaration
  := people.places (by decide) rfl (by decide)

theorem places_member :
  teams.request.Places "models/person" teams.declaration
  := teams.places (by decide) rfl (by decide)

theorem firstPlaces_person :
  FirstPlaces [people.request, teams.request] "models/person" people.request
    people.declaration
  := by
  use [], ⟨[teams.request], rfl⟩, places_person
  intro q hq
  cases hq

theorem firstPlaces_member :
  FirstPlaces [people.request, teams.request] "models/person" teams.request
    teams.declaration
  := by
  use [people.request], List.prefix_rfl, places_member
  intro q hq e he heq
  obtain rfl := List.mem_singleton.mp hq
  have hdeclared := he.declared
  rw [heq] at hdeclared
  cases hdeclared

end Example

/-- A file of types takes one name from two files if declarations of two programs belong to
it that refer by this name to declarations in different files. -/
theorem Run.not_nodup_boundNames_people_teams :
  ∃ f ∈ (ofPrograms { language := .typescript }
      [Example.people.program, Example.teams.program]).graph.toTypeFiles .typescript {},
    ¬ f.boundNames.Nodup
  := by
  obtain ⟨f, hf, hpath, -⟩ := (exists_mem_typeFiles_ofPrograms_iff { language := .typescript }
    [Example.people.program, Example.teams.program] "models/person" "Person").mpr
      ⟨⟨Example.people.program, Example.people.remoteClass⟩, List.mem_cons_self,
        Example.people.declaration, Example.places_person, rfl⟩
  use f, hf
  rw [graph_ofPrograms, Example.requests_people_teams] at hf
  have foreign : ∀ r ∈ [Example.people.request, Example.teams.request], f.path ≠ r.path := by
    rw [hpath]
    decide
  rw [(TypeFile.perm_boundNames hf foreign).nodup_iff, nodup_names_ofRequests_iff foreign,
    hpath]
  intro hone
  have hpeople := Example.people.standsFor_role Example.firstPlaces_person rfl
  have hteams := Example.teams.standsFor_role Example.firstPlaces_member rfl
  apply absurd (hone "Role" _ _ hpeople hteams)
  decide

end ClientGen
