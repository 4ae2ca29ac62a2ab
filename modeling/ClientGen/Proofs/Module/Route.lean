import ClientGen.Proofs.Module.Normal
import Mathlib.Data.List.Induction
import Mathlib.Data.Set.Function

/-!
# Routes between modules

A route climbs from the directory of a module to the deepest directory that it shares with
another module, and names the way down from there. So it leads to the other module, and no
shorter climb does. The imports of TypeScript and of Dart write the route as a path, and the
path leads there as well, segment by segment.
-/

namespace ClientGen.Module

/-! ### What two lists have in common -/

theorem commonLength_le_left (as bs : List (List Char)) :
  commonLength as bs ≤ as.length
  := by
  induction as generalizing bs with
  | nil => simp [commonLength]
  | cons a as ih =>
    cases bs with
    | nil => simp [commonLength]
    | cons b bs =>
      rw [commonLength]
      split
      · apply Nat.succ_le_succ (ih bs)
      · apply Nat.zero_le

/-- The names in common are those that the other list starts with, too. -/
theorem le_commonLength_iff {as bs : List (List Char)} {n : Nat} (hn : n ≤ as.length) :
  n ≤ commonLength as bs ↔ as.take n <+: bs
  := by
  induction as generalizing bs n with
  | nil =>
    obtain rfl := Nat.le_zero.mp hn
    simp
  | cons a as ih =>
    cases n with
    | zero => simp
    | succ n =>
      rw [List.take_succ_cons]
      cases bs with
      | nil => simp [commonLength]
      | cons b bs =>
        rw [commonLength, List.cons_prefix_cons]
        split
        case isTrue heq => simp [heq, ih (Nat.le_of_succ_le_succ hn)]
        case isFalse hne => simp [hne]

theorem take_commonLength_isPrefix (as bs : List (List Char)) :
  as.take (commonLength as bs) <+: bs
  := (le_commonLength_iff (commonLength_le_left as bs)).mp (Nat.le_refl _)

theorem commonLength_le_right (as bs : List (List Char)) :
  commonLength as bs ≤ bs.length
  := by
  have hlength := (take_commonLength_isPrefix as bs).length_le
  rwa [List.length_take, Nat.min_eq_left (commonLength_le_left as bs)] at hlength

/-- The start of a list in common with another one can be followed by the rest of that. -/
theorem take_append_drop_commonLength (as bs : List (List Char)) :
  as.take (commonLength as bs) ++ bs.drop (commonLength as bs) = bs
  := by
  have htake := List.prefix_iff_eq_take.mp (take_commonLength_isPrefix as bs)
  rw [List.length_take, Nat.min_eq_left (commonLength_le_left as bs)] at htake
  rw [htake, List.take_append_drop]

/-! ### The names of a path -/

/-- The names of a path. What is empty between slashes is no name. -/
def names (path : String) : List (List Char) :=
  (segments path).filter (· ≠ [])

/-- The names of the directory of a module. -/
def directory (path : String) : List (List Char) :=
  (names path).dropLast

/-- A path of proper names between slashes. -/
def IsPath (path : String) : Prop :=
  ∀ name ∈ segments path, isProper name

instance (path : String) : Decidable (IsPath path) :=
  inferInstanceAs (Decidable (∀ name ∈ segments path, isProper name))

theorem ofSegments_segments (path : String) :
  ofSegments (segments path) = path
  := by
  rw [segments, ofSegments, Text.split_eq_splitOnP, Text.join_eq_intercalate]
  have hjoin : ['/'].intercalate (path.toList.splitOnP isSlash) = path.toList :=
    List.intercalate_splitOn '/'
  rw [hjoin, String.ofList_toList]

theorem IsPath.isName {path : String} (h : IsPath path) {name : List Char}
    (hname : name ∈ segments path) :
  IsName name
  where
  proper := h name hname
  slashFree := fun hslash => by simpa [isSlash] using Text.not_of_mem_split hname hslash

theorem IsPath.names_eq {path : String} (h : IsPath path) :
  names path = segments path
  := by
  apply List.filter_eq_self.mpr
  intro name hname
  simpa using (h.isName hname).ne_nil

/-- Names make up the path that they are read from. -/
theorem names_ofSegments {ns : List (List Char)} (h : ∀ name ∈ ns, IsName name) :
  names (ofSegments ns) = ns
  := by
  cases ns with
  | nil => rfl
  | cons n ns =>
    rw [names, segments_ofSegments (List.cons_ne_nil n ns) fun name hname =>
      (h name hname).slashFree]
    apply List.filter_eq_self.mpr
    intro name hname
    simpa using (h name hname).ne_nil

/-- Proper names make up a path. -/
theorem isPath_ofSegments {ns : List (List Char)} (hne : ns ≠ [])
    (h : ∀ name ∈ ns, IsName name) :
  IsPath (ofSegments ns)
  := by
  intro name hname
  rw [segments_ofSegments hne fun name hname => (h name hname).slashFree] at hname
  apply (h name hname).proper

/-- The normal form of a home is a path, if it is not empty. -/
theorem isPath_normalize {home : String} (h : normalize home ≠ "") :
  IsPath (normalize home)
  := by
  have hnames : ∀ name ∈ namesOf home, IsName name := fun _ => isName_of_mem_namesOf
  apply isPath_ofSegments _ hnames
  intro hnil
  apply h
  apply (ofSegments_eq_empty_iff hnames).mpr hnil

/-- The module of a class that is called by a text without slashes is a path. -/
theorem isPath_proxyModule {className : String} (h : '/' ∉ className.toList)
    (lang : Language) :
  IsPath (lang.proxyModule className)
  := by
  have hpath := isPath_ofSegments (List.cons_ne_nil (lang.proxyModule className).toList [])
    (List.forall_mem_singleton.mpr (isName_proxyModule h lang))
  rw [ofSegments, Text.join, String.ofList_toList] at hpath
  apply hpath

/-! ### The way up and down -/

theorem ups_route (source target : String) :
  (route source target).ups
    = (directory source).length - commonLength (directory source) (directory target)
  := rfl

theorem names_route (source target : String) :
  (route source target).names
    = (names target).drop (commonLength (directory source) (directory target))
  := rfl

/-- A route does not climb above the top. -/
theorem ups_route_le (source target : String) :
  (route source target).ups ≤ (directory source).length
  := Nat.sub_le _ _

/-- The names that stay when a route has climbed. -/
theorem take_directory (source target : String) :
  (directory source).take ((directory source).length - (route source target).ups)
    = (directory source).take (commonLength (directory source) (directory target))
  := by
  have := commonLength_le_left (directory source) (directory target)
  rw [ups_route, Nat.sub_sub_self this]

/-- Up and down, a route leads to the other module. -/
theorem take_append_names_route (source target : String) :
  (directory source).take ((directory source).length - (route source target).ups)
    ++ (route source target).names = names target
  := by
  rw [take_directory, names_route]
  cases hnames : names target using List.reverseRecOn with
  | nil => simp [directory, hnames, commonLength]
  | append_singleton outer last =>
    have houter : directory target = outer := by simp [directory, hnames]
    rw [houter, List.drop_append_of_le_length (commonLength_le_right _ _), ← List.append_assoc,
      take_append_drop_commonLength]

theorem names_route_ne_nil {target : String} (h : names target ≠ []) (source : String) :
  (route source target).names ≠ []
  := by
  have hle := commonLength_le_right (directory source) (directory target)
  have hlength : (directory target).length = (names target).length - 1 := List.length_dropLast
  have hpos := List.length_pos_iff.mpr h
  rw [names_route, Ne, List.drop_eq_nil_iff]
  omega

/-- The file of a module is below no directory that a shorter climb leads to. -/
theorem take_append_ne_names {source target : String} {ups : Nat}
    (hups : ups < (route source target).ups) {rest : List (List Char)} (hrest : rest ≠ []) :
  (directory source).take ((directory source).length - ups) ++ rest ≠ names target
  := by
  intro heq
  have hdirectory : (directory source).take ((directory source).length - ups) ++ rest.dropLast
      = directory target := by
    rw [directory.eq_def target, ← heq, List.dropLast_append_of_ne_nil hrest]
  have hshared : (directory source).length - ups
      ≤ commonLength (directory source) (directory target) :=
    (le_commonLength_iff (Nat.sub_le _ _)).mpr ⟨_, hdirectory⟩
  rw [ups_route] at hups
  omega

/-! ### Paths from a directory -/

/-- Where what stands between slashes leads from a directory: nothing and a dot stay there,
two dots lead to the directory above, if there is one, and a name leads down. -/
def enter (place : List (List Char)) (segment : List Char) : Option (List (List Char)) :=
  if segment = [] ∨ segment = ['.'] then some place
  else if segment = ['.', '.'] then (if place = [] then none else some place.dropLast)
  else some (place ++ [segment])

/-- Where a path leads from a directory. -/
def resolve (place : List (List Char)) (path : String) : Option (List (List Char)) :=
  (segments path).foldlM enter place

theorem enter_of_isName (place : List (List Char)) {name : List Char} (h : IsName name) :
  enter place name = some (place ++ [name])
  := by
  have hproper := h.proper
  simp only [isProper, Bool.and_eq_true, decide_eq_true_eq] at hproper
  obtain ⟨⟨hempty, hdot⟩, hdots⟩ := hproper
  simp [enter, hempty, hdot, hdots]

/-- Names lead down. -/
theorem foldlM_enter (place : List (List Char)) {ns : List (List Char)}
    (h : ∀ name ∈ ns, IsName name) :
  ns.foldlM enter place = some (place ++ ns)
  := by
  induction ns generalizing place with
  | nil => simp
  | cons n ns ih =>
    obtain ⟨hn, hns⟩ := List.forall_mem_cons.mp h
    rw [List.foldlM_cons, enter_of_isName place hn]
    simp [ih _ hns]

theorem resolve_ofSegments (place : List (List Char)) {ns : List (List Char)} (hne : ns ≠ [])
    (h : ∀ name ∈ ns, IsName name) :
  resolve place (ofSegments ns) = some (place ++ ns)
  := by
  rw [resolve, segments_ofSegments hne fun name hname => (h name hname).slashFree,
    foldlM_enter place h]

/-- What stands before the first slash comes first. -/
theorem resolve_append_slash (place : List (List Char)) {segment : List Char}
    (h : '/' ∉ segment) (path : String) :
  resolve place (String.ofList segment ++ "/" ++ path)
    = (enter place segment).bind fun next => resolve next path
  := by
  have hsegment : Text.split isSlash segment = [segment] := by
    simpa [segments, ofSegments, Text.join] using
      segments_ofSegments (List.cons_ne_nil segment []) (by simpa using h)
  have hsegments : segments (String.ofList segment ++ "/" ++ path) = segment :: segments path := by
    have hslash : isSlash '/' := rfl
    have hsplit := Text.split_append_cons hslash segment path.toList
    rw [hsegment] at hsplit
    simpa [segments] using hsplit
  rw [resolve, hsegments, List.foldlM_cons]
  rfl

theorem repeated_succ (n : Nat) (text : String) :
  repeated (n + 1) text = text ++ repeated n text
  := by rw [repeated, List.replicate_succ, String.join_cons, repeated]

/-- A path that climbs first leads from a directory above. -/
theorem resolve_repeated {ups : Nat} {place : List (List Char)} (h : ups ≤ place.length)
    (path : String) :
  resolve place (repeated ups "../" ++ path)
    = resolve (place.take (place.length - ups)) path
  := by
  induction ups generalizing place with
  | zero => simp [repeated]
  | succ ups ih =>
    have hne : place ≠ [] := List.length_pos_iff.mp (Nat.zero_lt_of_lt h)
    have habove : "../" = String.ofList ['.', '.'] ++ "/" := rfl
    have hlength : ups ≤ place.dropLast.length := by
      rw [List.length_dropLast]
      omega
    have henter : enter place ['.', '.'] = some place.dropLast := by
      simp [enter, hne]
    rw [repeated_succ, String.append_assoc, habove, resolve_append_slash place (by decide), henter,
      Option.bind_some, ← habove, ih hlength, List.length_dropLast, List.dropLast_eq_take,
      List.take_take]
    congr 2
    omega

/-! ### Imports lead to the other module -/

section

variable {source target : String}

/-- A way up and down leads to the names at its end. -/
theorem resolve_route (source target : String) {ns : List (List Char)} (hne : ns ≠ [])
    (h : ∀ name ∈ ns, IsName name) :
  resolve (directory source) (repeated (route source target).ups "../" ++ ofSegments ns)
    = some ((directory source).take ((directory source).length - (route source target).ups)
        ++ ns)
  := by rw [resolve_repeated (ups_route_le source target), resolve_ofSegments _ hne h]

theorem IsPath.isName_of_mem_route (h : IsPath target) {name : List Char}
    (hname : name ∈ (route source target).names) :
  IsName name
  := by
  rw [names_route, h.names_eq] at hname
  apply h.isName (List.mem_of_mem_drop hname)

theorem IsPath.names_route_ne_nil (h : IsPath target) (source : String) :
  (route source target).names ≠ []
  := by
  apply Module.names_route_ne_nil
  rw [h.names_eq]
  apply Text.split_ne_nil

theorem resolve_importPath_typescript (h : IsPath target) :
  resolve (directory source) (importPath .typescript source target) = some (segments target)
  := by
  have hroute := resolve_route source target (h.names_route_ne_nil source) fun _ =>
    h.isName_of_mem_route
  rw [take_append_names_route, h.names_eq] at hroute
  rw [importPath]
  split
  case isTrue hups =>
    have hhere : "./" = String.ofList ['.'] ++ "/" := rfl
    have hstay : enter (directory source) ['.'] = some (directory source) := rfl
    rw [hhere, resolve_append_slash (directory source) (by decide), hstay, ← hroute, hups]
    simp [repeated, Route.rest]
  case isFalse => exact hroute

/-- The file of a module has the names of the module, the last one with the ending. -/
theorem IsPath.segments_filePath {path : String} (h : IsPath path) {outer : List (List Char)}
    {last : List Char} (hsegments : segments path = outer ++ [last]) (lang : Language) :
  segments (lang.filePath path) = fileNames lang outer last
  := by
  have hisName : ∀ name ∈ outer ++ [last], IsName name := by
    rw [← hsegments]
    intro name
    apply h.isName
  rw [← ofSegments_segments path, hsegments, filePath_ofSegments]
  apply segments_ofSegments (by simp [fileNames])
  intro name hname
  apply (isName_of_mem_fileNames hisName hname).slashFree

theorem resolve_importPath_dart (h : IsPath target) :
  resolve (directory source) (importPath .dart source target)
    = some (segments (Language.dart.filePath target))
  := by
  have hway := take_append_names_route source target
  rw [h.names_eq] at hway
  obtain ⟨inner, last, hnames⟩ : ∃ inner last, (route source target).names = inner ++ [last] :=
    ⟨_, _, (List.dropLast_concat_getLast (h.names_route_ne_nil source)).symm⟩
  have hisName : ∀ name ∈ inner ++ [last], IsName name := by
    rw [← hnames]
    intro name
    apply h.isName_of_mem_route
  have himport : importPath .dart source target
      = repeated (route source target).ups "../" ++ ofSegments (fileNames .dart inner last) := by
    rw [← filePath_ofSegments, ← hnames]
    simp [importPath, Language.filePath, Language.extension, Route.rest, String.append_assoc]
  rw [himport, resolve_route source target (by simp [fileNames]) fun _ =>
    isName_of_mem_fileNames hisName]
  rw [hnames, ← List.append_assoc] at hway
  rw [h.segments_filePath hway.symm, fileNames, fileNames, List.append_assoc]

/-- In TypeScript and in Dart, different modules are imported by different paths from one
module. -/
theorem importPath_injOn {lang : Language} (hlang : lang ≠ .python) (source : String) :
  {target | IsPath target}.InjOn (importPath lang source)
  := by
  intro target htarget other hother heq
  cases lang with
  | typescript =>
    have hresolve : resolve (directory source) (importPath .typescript source target)
        = some (segments target) := resolve_importPath_typescript htarget
    rw [heq, resolve_importPath_typescript hother] at hresolve
    rw [← ofSegments_segments target, ← Option.some.inj hresolve, ofSegments_segments]
  | python => exact absurd rfl hlang
  | dart =>
    have hresolve : resolve (directory source) (importPath .dart source target)
        = some (segments (Language.dart.filePath target)) := resolve_importPath_dart htarget
    rw [heq, resolve_importPath_dart hother] at hresolve
    apply Language.dart.filePath_injective
    rw [← ofSegments_segments (Language.dart.filePath target), ← Option.some.inj hresolve,
      ofSegments_segments]

end

/-- From the directory of a module, a route to another one climbs to a directory that is
there, leads down to the other module, and no shorter climb can be followed by a way down to
it. The path that TypeScript imports leads to the other module, and the path that Dart
imports leads to its file. -/
theorem route_leads {source target : String} (hsource : IsPath source)
    (htarget : IsPath target) :
  (route source target).ups ≤ (segments source).dropLast.length
    ∧ (segments source).dropLast.take
          ((segments source).dropLast.length - (route source target).ups)
        ++ segments (route source target).rest = segments target
    ∧ (∀ ups < (route source target).ups, ∀ rest ≠ [],
        (segments source).dropLast.take ((segments source).dropLast.length - ups) ++ rest
          ≠ segments target)
    ∧ resolve (segments source).dropLast (importPath .typescript source target)
        = some (segments target)
    ∧ resolve (segments source).dropLast (importPath .dart source target)
        = some (segments (Language.dart.filePath target))
  := by
  have hdirectory : (segments source).dropLast = directory source := by
    rw [directory, hsource.names_eq]
  have hrest : segments (route source target).rest = (route source target).names :=
    segments_ofSegments (htarget.names_route_ne_nil source) fun name hname =>
      (htarget.isName_of_mem_route hname).slashFree
  rw [hdirectory, hrest, ← htarget.names_eq]
  refine ⟨ups_route_le source target, take_append_names_route source target, ?_, ?_, ?_⟩
  · intro ups hups rest
    apply take_append_ne_names hups
  · rw [htarget.names_eq]
    apply resolve_importPath_typescript htarget
  · apply resolve_importPath_dart htarget

/-- From one directory to another one, up to the directory that they share. -/
theorem route_leads_siblings :
  (IsPath "models/people/user" ∧ IsPath "models/teams/member")
    ∧ (route "models/people/user" "models/teams/member").ups = 1
    ∧ resolve ["models".toList, "people".toList]
        (importPath .typescript "models/people/user" "models/teams/member")
      = some ["models".toList, "teams".toList, "member".toList]
    ∧ resolve ["models".toList, "people".toList]
        (importPath .dart "models/people/user" "models/teams/member")
      = some ["models".toList, "teams".toList, "member.dart".toList]
  := by
  have hsource : IsPath "models/people/user" := by decide
  have htarget : IsPath "models/teams/member" := by decide
  obtain ⟨-, -, -, htypescript, hdart⟩ := route_leads hsource htarget
  exact ⟨⟨hsource, htarget⟩, by decide, htypescript, hdart⟩

end ClientGen.Module
