import ClientGen.Proofs.Module.Route
import ClientGen.Target.Naming

/-!
# Relative imports in Python

Python reads the dots at the start of a relative import as a climb, and the names between the
dots that follow as the way down. So an import leads to the file of a module exactly when no
name on the way down holds a dot, and among such modules different ones are imported by
different texts.
-/

namespace ClientGen

namespace Module

/-! ### Modules of a library -/

/-- The modules of a library: those of homes in their normal form, and those of classes that
are called by an identifier. -/
inductive IsModule (lang : Language) : String → Prop where
  | home (home : String) : IsModule lang (normalize home)
  | proxy {className : String} (h : Text.isIdentifier className.toList) :
      IsModule lang (lang.proxyModule className)

theorem slash_not_mem_of_isIdentifier {cs : List Char} (h : Text.isIdentifier cs) :
  '/' ∉ cs
  := by
  cases cs with
  | nil => apply List.not_mem_nil
  | cons c cs =>
    obtain ⟨hstart, hrest⟩ := Bool.and_eq_true_iff.mp h
    intro hslash
    rcases List.mem_cons.mp hslash with rfl | hslash
    · revert hstart
      decide
    · have hpart := List.all_eq_true.mp hrest _ hslash
      revert hpart
      decide

/-- A module of a library has proper names, if any. -/
theorem IsModule.exists_names {lang : Language} {path : String} (h : IsModule lang path) :
  ∃ ns, (∀ name ∈ ns, IsName name) ∧ path = ofSegments ns
  := by
  cases h with
  | home home => exact ⟨namesOf home, fun _ => isName_of_mem_namesOf, rfl⟩
  | proxy h =>
    refine ⟨[_], ?_, String.ofList_toList.symm⟩
    intro name hname
    obtain rfl := List.mem_singleton.mp hname
    apply isName_proxyModule (slash_not_mem_of_isIdentifier h) lang

theorem IsModule.isName {lang : Language} {path : String} (h : IsModule lang path)
    {name : List Char} (hname : name ∈ names path) :
  IsName name
  := by
  obtain ⟨ns, hns, rfl⟩ := h.exists_names
  rw [names_ofSegments hns] at hname
  apply hns name hname

theorem IsModule.ofSegments_names {lang : Language} {path : String} (h : IsModule lang path) :
  ofSegments (names path) = path
  := by
  obtain ⟨ns, hns, rfl⟩ := h.exists_names
  rw [names_ofSegments hns]

/-! ### Reading an import -/

/-- Whether a character is a dot. -/
def isDot (c : Char) : Bool := c = '.'

/-- The module that a relative import names in a package. The first dot stands for the
package, each further one at the start for the package above, if there is one, and the names
between the dots that follow lead down. What is empty between dots is no name. -/
def pythonModule? (package : List (List Char)) (text : String) : Option (List (List Char)) :=
  let dots := text.toList.takeWhile isDot
  let down := Text.split isDot (text.toList.dropWhile isDot)
  if dots = [] ∨ package.length + 1 < dots.length ∨ [] ∈ down then none
  else some (package.take (package.length + 1 - dots.length) ++ down)

/-- The file of the module that a relative import names. -/
def pythonFile? (package : List (List Char)) (text : String) : Option String :=
  (pythonModule? package text).map fun ns => Language.python.filePath (ofSegments ns)

/-! ### The text of an import -/

theorem toList_repeated_dot (n : Nat) :
  (repeated n ".").toList = List.replicate n '.'
  := by
  induction n with
  | zero => rfl
  | succ n ih =>
    rw [repeated_succ, String.toList_append, ih]
    rfl

/-- With dots for slashes, names that hold no slash are joined by dots. -/
theorem map_join_slash {ns : List (List Char)} (h : ∀ name ∈ ns, '/' ∉ name) :
  (Text.join ['/'] ns).map (fun c => if isSlash c then '.' else c) = Text.join ['.'] ns
  := by
  have hname : ∀ name ∈ ns, name.map (fun c => if isSlash c then '.' else c) = name := by
    intro name hname
    apply Eq.trans _ (List.map_id name)
    apply List.map_congr_left
    intro c hc
    have hne : c ≠ '/' := fun heq => h name hname (heq ▸ hc)
    simp [isSlash, hne]
  rw [Text.join_eq_intercalate, Text.join_eq_intercalate]
  induction ns with
  | nil => rfl
  | cons n ns ih =>
    obtain ⟨hn, hns⟩ := List.forall_mem_cons.mp hname
    have ih := ih (List.forall_mem_cons.mp h).2 hns
    cases ns with
    | nil => simpa using hn
    | cons next ns =>
      rw [List.intercalate_cons_cons, List.intercalate_cons_cons, List.map_append, List.map_append,
        hn, ih]
      rfl

theorem toList_importPath_python {source target : String}
    (h : ∀ name ∈ (route source target).names, '/' ∉ name) :
  (importPath .python source target).toList
    = List.replicate ((route source target).ups + 1) '.'
      ++ Text.join ['.'] (route source target).names
  := by
  rw [importPath, String.toList_append, toList_repeated_dot, String.toList_ofList, Route.rest,
    ofSegments, String.toList_ofList, map_join_slash h]

/-- What a relative import names, given its text after the dots that a route begins with. -/
theorem pythonModule?_eq_some_iff {package : List (List Char)} {ups : Nat} {text : String}
    {cs : List Char} (htext : text.toList = List.replicate (ups + 1) '.' ++ cs)
    {ns : List (List Char)} :
  pythonModule? package text = some ns
    ↔ ups + (cs.takeWhile isDot).length ≤ package.length
      ∧ [] ∉ Text.split isDot (cs.dropWhile isDot)
      ∧ package.take (package.length - (ups + (cs.takeWhile isDot).length))
          ++ Text.split isDot (cs.dropWhile isDot) = ns
  := by
  have hdots : ∀ c ∈ List.replicate (ups + 1) '.', isDot c := by
    intro c hc
    rw [List.eq_of_mem_replicate hc]
    rfl
  have hlength : package.length + 1 - (ups + 1 + (cs.takeWhile isDot).length)
      = package.length - (ups + (cs.takeWhile isDot).length) := by
    omega
  have hne : List.replicate (ups + 1) '.' ++ cs.takeWhile isDot ≠ [] := by simp
  rw [pythonModule?, htext, List.takeWhile_append_of_pos hdots, List.dropWhile_append_of_pos hdots,
    List.length_append, List.length_replicate, hlength, Option.ite_none_left_eq_some, not_or, not_or,
    Option.some_inj, not_lt, and_assoc, and_assoc, and_iff_right hne]
  apply and_congr_left'
  omega

/-! ### Where an import leads -/

/-- Names that hold no dot are read from the dots between them. -/
theorem split_join_dot {ns : List (List Char)} (hne : ns ≠ []) (h : ∀ name ∈ ns, '.' ∉ name) :
  Text.split isDot (Text.join ['.'] ns) = ns
  := by
  rw [Text.split_eq_splitOnP, Text.join_eq_intercalate]
  exact List.splitOn_intercalate '.' h hne

/-- Joined names start with no dot if the first of them is a name that holds none. -/
theorem takeWhile_join_dot {ns : List (List Char)} (h : ∀ name ∈ ns, name ≠ [] ∧ '.' ∉ name) :
  (Text.join ['.'] ns).takeWhile isDot = []
    ∧ (Text.join ['.'] ns).dropWhile isDot = Text.join ['.'] ns
  := by
  cases ns with
  | nil => exact ⟨rfl, rfl⟩
  | cons n ns =>
    obtain ⟨hne, hdot⟩ := h n List.mem_cons_self
    obtain ⟨c, cs, rfl⟩ := List.exists_cons_of_ne_nil hne
    have hc : isDot c = false := by
      have hne : c ≠ '.' := fun heq => hdot (heq ▸ List.mem_cons_self)
      simp [isDot, hne]
    cases ns <;> simp [Text.join, hc]

section

variable {source target : String}

theorem IsModule.isName_of_mem_route {lang : Language} (h : IsModule lang target)
    {name : List Char} (hname : name ∈ (route source target).names) :
  IsName name
  := by
  rw [names_route] at hname
  apply h.isName (List.mem_of_mem_drop hname)

/-- An import leads to the file of a module if no name on the way down holds a dot. -/
theorem pythonFile?_importPath (source : String) (htarget : IsModule .python target)
    (hne : target ≠ "") (h : ∀ name ∈ (route source target).names, '.' ∉ name) :
  pythonFile? (directory source) (importPath .python source target)
    = some (Language.python.filePath target)
  := by
  have hisName : ∀ name ∈ (route source target).names, IsName name := fun _ =>
    htarget.isName_of_mem_route
  have hnames : names target ≠ [] := by
    intro hnil
    rw [← htarget.ofSegments_names, hnil] at hne
    apply hne rfl
  have htext := toList_importPath_python fun name hname => (hisName name hname).slashFree
  obtain ⟨htake, hdrop⟩ := takeWhile_join_dot fun name hname =>
    ⟨(hisName name hname).ne_nil, h name hname⟩
  have hsplit := split_join_dot (names_route_ne_nil hnames source) h
  have hmodule : pythonModule? (directory source) (importPath .python source target)
      = some (names target) := by
    apply (pythonModule?_eq_some_iff htext).mpr
    rw [htake, hdrop, hsplit]
    refine ⟨ups_route_le source target, ?_, take_append_names_route source target⟩
    intro hmem
    apply (hisName [] hmem).ne_nil rfl
  rw [pythonFile?, hmodule, Option.map_some, htarget.ofSegments_names]

/-- What stands between dots is a name if it is not empty and holds no slash. -/
theorem isName_of_mem_split {cs name : List Char} (hslash : '/' ∉ cs)
    (hname : name ∈ Text.split isDot cs) (hne : name ≠ []) :
  IsName name
  := by
  have hdot : '.' ∉ name := fun hdot => nomatch Text.not_of_mem_split hname hdot
  have hproper : name ≠ ['.'] ∧ name ≠ ['.', '.'] := by
    constructor <;>
    · rintro rfl
      simp at hdot
  constructor
  · simp [isProper, hne, hproper]
  · intro hmem
    apply hslash (Text.mem_and_not_of_mem_split hname hmem).1

/-- An import that leads to the file of a module names it by names that hold no dot. -/
theorem not_dot_mem_of_pythonFile? (hsource : ∀ name ∈ names source, IsName name)
    (htarget : IsModule .python target)
    (h : pythonFile? (directory source) (importPath .python source target)
      = some (Language.python.filePath target)) :
  target ≠ "" ∧ ∀ name ∈ (route source target).names, '.' ∉ name
  := by
  obtain ⟨ns, hmodule, hfile⟩ := Option.map_eq_some_iff.mp h
  have hslash : ∀ name ∈ (route source target).names, '/' ∉ name := fun name hname =>
    (htarget.isName_of_mem_route hname).slashFree
  obtain ⟨-, hempty, hns⟩ :=
    (pythonModule?_eq_some_iff (toList_importPath_python hslash)).mp hmodule
  generalize htext : Text.join ['.'] (route source target).names = cs at hempty hns
  generalize hdown : Text.split isDot (cs.dropWhile isDot) = down at hempty hns
  generalize hups : (route source target).ups + (cs.takeWhile isDot).length = ups at hns
  have hcs : '/' ∉ cs.dropWhile isDot := by
    intro hmem
    have hjoin := (List.dropWhile_suffix _).mem hmem
    rw [← htext] at hjoin
    rcases Text.mem_join hjoin with hdot | ⟨name, hname, hmem⟩
    · simp at hdot
    · apply hslash name hname hmem
  have hisName : ∀ name ∈ ns, IsName name := by
    rw [← hns]
    intro name hname
    rcases List.mem_append.mp hname with hname | hname
    · apply hsource name (List.dropLast_subset _ (List.mem_of_mem_take hname))
    · rw [← hdown] at hname hempty
      apply isName_of_mem_split hcs hname
      rintro rfl
      apply hempty hname
  have hread : names target = ns := by
    rw [← Language.filePath_injective _ hfile, names_ofSegments hisName]
  constructor
  · rintro rfl
    have hdown' : down = [] := by
      rw [← hread] at hns
      apply (List.append_eq_nil_iff.mp hns).2
    rw [← hdown] at hdown'
    apply Text.split_ne_nil _ _ hdown'
  · -- The climb is at least that of the route, so the way down is all read as names.
    have hway := take_append_names_route source target
    rw [hread, ← hns] at hway
    have hdrop := congrArg (List.drop ((directory source).length - ups)) hway
    rw [List.drop_append_of_le_length (by simp; omega), List.drop_left' (by simp)] at hdrop
    intro name hname hdot
    have hmem : name ∈ down := by
      rw [← hdrop]
      apply List.mem_append_right _ hname
    rw [← hdown] at hmem
    cases Text.not_of_mem_split hmem hdot

end

/-- From a module of a library, the import of a module leads to the file of that module
exactly when the module has a name and no name on the way down to it holds a dot. Among such
modules, different ones are imported by different texts. -/
theorem pythonFile?_importPath_iff {source : String} (hsource : IsModule .python source) :
  (∀ target, IsModule .python target →
      (pythonFile? (directory source) (importPath .python source target)
          = some (Language.python.filePath target)
        ↔ target ≠ "" ∧ ∀ name ∈ (route source target).names, '.' ∉ name))
    ∧ {target | IsModule .python target ∧ target ≠ ""
        ∧ ∀ name ∈ (route source target).names, '.' ∉ name}.InjOn (importPath .python source)
  := by
  constructor
  · intro target htarget
    constructor
    · apply not_dot_mem_of_pythonFile? (fun _ => hsource.isName) htarget
    · rintro ⟨hne, h⟩
      apply pythonFile?_importPath source htarget hne h
  · rintro target ⟨htarget, hne, h⟩ other ⟨hother, hne', h'⟩ heq
    have hfile := pythonFile?_importPath source htarget hne h
    have hfile' := pythonFile?_importPath source hother hne' h'
    rw [heq, hfile'] at hfile
    apply (Language.filePath_injective _ (Option.some.inj hfile)).symm

namespace Example

theorem isModule_users :
  IsModule .python "users_sdk"
  := by
  have husers : Language.python.proxyModule "Users" = "users_sdk" := by decide
  rw [← husers]
  apply IsModule.proxy
  decide

/-- A home in its normal form is the module of itself. -/
theorem isModule_of_normalize {home : String} (h : normalize home = home) :
  IsModule .python home
  := h ▸ IsModule.home home

end Example

/-- From the file of a class to a type in a directory. -/
theorem pythonFile?_importPath_users :
  IsModule .python "users_sdk" ∧ IsModule .python "models/user"
    ∧ pythonFile? (directory "users_sdk") (importPath .python "users_sdk" "models/user")
      = some "models/user.py"
  := by
  have htarget : IsModule .python "models/user" := Example.isModule_of_normalize (by decide)
  refine ⟨Example.isModule_users, htarget, ?_⟩
  apply ((pythonFile?_importPath_iff Example.isModule_users).1 _ htarget).mpr
  decide

/-- A module with a dot in its name is imported by a text that leads elsewhere, and by the text
that imports another module. -/
theorem not_pythonFile?_importPath_user_model :
  (¬ ∀ source target, IsModule .python source → IsModule .python target →
      pythonFile? (directory source) (importPath .python source target)
        = some (Language.python.filePath target))
    ∧ ¬ ∀ source target other, IsModule .python source → IsModule .python target →
      IsModule .python other →
      importPath .python source target = importPath .python source other → target = other
  := by
  have hmodel : IsModule .python "models/user.model" :=
    Example.isModule_of_normalize (by decide)
  have hother : IsModule .python "models.user.model" :=
    Example.isModule_of_normalize (by decide)
  constructor
  · intro h
    have hfile := h _ _ Example.isModule_users hmodel
    revert hfile
    decide
  · intro h
    have hsame : importPath .python "users_sdk" "models/user.model"
        = importPath .python "users_sdk" "models.user.model" := by decide +kernel
    have heq := h _ _ _ Example.isModule_users hmodel hother hsame
    revert heq
    decide

end Module

end ClientGen
