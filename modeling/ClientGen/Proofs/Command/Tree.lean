import ClientGen.Command.FileTree
import ClientGen.Proofs.Text.Split

/-!
# Files of a tree

What a tree holds at a place changes in two ways only: a missing directory is made, which
leaves all files as they are, or the file to which a path leads is saved. So a save that
fails leaves all files as they are, and one that succeeds sets one file.
-/

namespace ClientGen.FileTree

/-- The text of the file at a place. -/
def fileAt (t : FileTree) (place : List String) : Option String :=
  match t.entry? place with
  | some (.file text) => some text
  | _ => none

/-- The place to which a path leads if there are directories all the way. -/
def placeOf (t : FileTree) (path : String) : List String :=
  (namesOf path).foldl enter (t.start path)

/-! ### Entries -/

theorem lookup_filter_of_ne {place other : List String} (hne : other ≠ place)
    (entries : List (List String × TreeEntry)) :
  (entries.filter fun entry => entry.1 ≠ place).lookup other = entries.lookup other
  := by
  induction entries with
  | nil => rfl
  | cons entry entries ih =>
    obtain ⟨key, e⟩ := entry
    by_cases hkey : key = place
    · have hbeq : (other == key) = false := by simp [hkey, hne]
      rw [List.lookup_cons, hbeq, List.filter_cons_of_neg (by simp [hkey])]
      exact ih
    · rw [List.filter_cons_of_pos (by simp [hkey]), List.lookup_cons, List.lookup_cons, ih]

theorem entry?_put (t : FileTree) {place : List String} (hplace : place ≠ [])
    (e : TreeEntry) (other : List String) :
  entry? (t.put place e) other = if other = place then some e else t.entry? other
  := by
  by_cases hother : other = place
  · simp [ entry?, put, hother, hplace]
  · have hbeq : (other == place) = false := by simp [hother]
    by_cases hnil : other = []
    · simp [ entry?, hnil, hplace.symm]
    · rw [if_neg hother, entry?, entry?, if_neg hnil, if_neg hnil, put]
      simp only [List.lookup_cons, hbeq]
      exact lookup_filter_of_ne hother t.entries

theorem ne_nil_of_ne_directory (t : FileTree) {place : List String}
    (h : t.entry? place ≠ some .directory) :
  place ≠ []
  := by
  rintro rfl
  exact h rfl

theorem fileAt_put_file (t : FileTree) {place : List String} (hplace : place ≠ [])
    (text : String) (other : List String) :
  (t.put place (.file text)).fileAt other = if other = place then some text else t.fileAt other
  := by
  rw [fileAt, entry?_put t hplace]
  by_cases hother : other = place
  · simp [hother]
  · simp [hother, fileAt]

/-- A directory where nothing was leaves all files as they are. -/
theorem fileAt_put_directory {t : FileTree} {place : List String}
    (hplace : t.entry? place = none) (other : List String) :
  (t.put place .directory).fileAt other = t.fileAt other
  := by
  have hne : place ≠ [] := ne_nil_of_ne_directory t (by simp [hplace])
  rw [fileAt, entry?_put t hne]
  by_cases hother : other = place
  · simp [hother, fileAt, hplace]
  · simp [hother, fileAt]

/-! ### Directories -/

theorem fileAt_makeDirectories (t : FileTree) (place names other : List String) :
  (t.makeDirectories place names).fileAt other = t.fileAt other
  := by
  fun_induction makeDirectories t place names with
  | case1 => rfl
  | case2 _ _ _ _ _ _ ih => exact ih
  | case3 => rfl
  | case4 _ _ _ _ _ hnone ih => exact ih.trans (fileAt_put_directory hnone other)

@[simp]
theorem workingDirectory_put (t : FileTree) (place : List String) (e : TreeEntry) :
  (t.put place e).workingDirectory = t.workingDirectory
  := rfl

@[simp]
theorem workingDirectory_makeDirectories (t : FileTree) (place names : List String) :
  (t.makeDirectories place names).workingDirectory = t.workingDirectory
  := by
  fun_induction makeDirectories t place names with
  | case1 => rfl
  | case2 _ _ _ _ _ _ ih => exact ih
  | case3 => rfl
  | case4 _ _ _ _ _ _ ih => simpa using ih

theorem start_eq_of_workingDirectory {t u : FileTree}
    (h : u.workingDirectory = t.workingDirectory) (path : String) :
  u.start path = t.start path
  := by simp [start, h]

theorem placeOf_eq_of_workingDirectory {t u : FileTree}
    (h : u.workingDirectory = t.workingDirectory) (path : String) :
  u.placeOf path = t.placeOf path
  := by simp [placeOf, start_eq_of_workingDirectory h]

/-! ### Ways -/

theorem walk_eq_some {t : FileTree} {place names goal : List String}
    (h : t.walk place names = some goal) :
  goal = names.foldl enter place
  := by
  induction names generalizing place with
  | nil => simpa [walk] using h.symm
  | cons name names ih =>
    rw [walk] at h
    split at h
    · exact ih h
    · contradiction

/-- A way that ends with staying ends in a directory. -/
theorem entry?_of_walk {t : FileTree} {place names goal : List String} {name : String}
    (hname : name = "" ∨ name = ".") (h : t.walk place (names ++ [name]) = some goal) :
  t.entry? goal = some .directory
  := by
  induction names generalizing place with
  | nil =>
    rw [List.nil_append, walk] at h
    split at h
    · have hgoal : goal = enter place name := by simpa [walk] using h.symm
      have hstay : enter place name = place := by rcases hname with rfl | rfl <;> rfl
      rwa [hgoal, hstay]
    · contradiction
  | cons first names ih =>
    rw [List.cons_append, walk] at h
    split at h
    · exact ih h
    · contradiction

/-! ### Saving -/

@[simp]
theorem workingDirectory_save (t : FileTree) (path text : String) :
  (t.save path text).2.workingDirectory = t.workingDirectory
  := by
  rw [save]
  split
  · dsimp only
    split
    · simp
    · split <;> simp
  · rfl

theorem namesOf_ne_nil (path : String) :
  namesOf path ≠ []
  := by simp [namesOf, Text.split_ne_nil]

/-- What a save does to files: it fails and leaves them as they are, or it sets the one to
which the path leads. -/
inductive Saved (t : FileTree) (path text : String) (result : Except String Unit × FileTree) :
    Prop
  | refused (reason : String) (failed : result.1 = .error reason)
      (same : ∀ place, result.2.fileAt place = t.fileAt place)
  | set (succeeded : result.1 = .ok ())
      (names : List String) (name : String) (path_eq : namesOf path = names ++ [name])
      (stays : name ≠ "" ∧ name ≠ ".")
      (files : ∀ place, result.2.fileAt place =
        if place = t.placeOf path then some text else t.fileAt place)

theorem walk_of_locate {t : FileTree} {path : String} {place : List String}
    (h : t.locate path = some place) :
  t.walk (t.start path) (namesOf path) = some place
  := by
  rw [locate] at h
  split at h
  · exact h
  · contradiction

theorem placeOf_of_locate {t : FileTree} {path : String} {place : List String}
    (h : t.locate path = some place) :
  t.placeOf path = place
  := (walk_eq_some (walk_of_locate h)).symm

theorem saved (t : FileTree) (path text : String) :
  Saved t path text (t.save path text)
  := by
  rw [save]
  split
  · have hsame : ∀ place, (t.makeDirectories (t.start path) (parentNames path)).fileAt place
        = t.fileAt place := fileAt_makeDirectories t _ _
    have hworking : (t.makeDirectories (t.start path) (parentNames path)).workingDirectory
        = t.workingDirectory := workingDirectory_makeDirectories t _ _
    generalize t.makeDirectories (t.start path) (parentNames path) = u at hsame hworking
    dsimp only
    split
    · exact .refused _ rfl hsame
    · next place hlocate =>
      split
      · exact .refused _ rfl hsame
      · next hentry =>
        have hplace : t.placeOf path = place := by
          rw [← placeOf_eq_of_workingDirectory hworking, placeOf_of_locate hlocate]
        have hnames := (List.dropLast_concat_getLast (namesOf_ne_nil path)).symm
        have hwalk := walk_of_locate hlocate
        rw [hnames] at hwalk
        refine .set rfl _ _ hnames ⟨fun h => ?_, fun h => ?_⟩ fun other => ?_
        · exact hentry (entry?_of_walk (.inl h) hwalk)
        · exact hentry (entry?_of_walk (.inr h) hwalk)
        · rw [fileAt_put_file u (ne_nil_of_ne_directory u hentry), hsame, hplace]
  · exact .refused _ rfl fun _ => rfl

end ClientGen.FileTree
