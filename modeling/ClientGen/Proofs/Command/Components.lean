import ClientGen.Command.FileSystem
import ClientGen.Proofs.Module.Normal

/-!
# Components of paths

A path is read as components: the top or the directory where it starts, and the names
between slashes, of which `..` leads out of a directory. The components of a path in a
directory are those of the directory and those of the path.
-/

namespace ClientGen

/-- A component of a path. -/
inductive PathComponent where
  | root
  | current
  | parent
  | name (cs : List Char)
deriving DecidableEq

namespace PathComponent

/-- Whether a path starts at the top. -/
def isRooted (path : String) : Bool := path.toList.head? = some '/'

/-- What a path starts with: the top, or the directory where it starts. -/
def start (path : String) : List PathComponent :=
  if isRooted path then [.root]
  else if (Module.segments path).head? = some ['.'] then [.current]
  else []

/-- What stands between slashes. Nothing and a single dot leave a path where it is. -/
def ofSegment (segment : List Char) : Option PathComponent :=
  if segment = [] ∨ segment = ['.'] then none
  else if segment = ['.', '.'] then some .parent
  else some (.name segment)

/-- The steps that a path takes from where it starts. -/
def steps (path : String) : List PathComponent :=
  (Module.segments path).filterMap ofSegment

/-- The components of a path. -/
def components (path : String) : List PathComponent :=
  start path ++ steps path

/-- The components of a path apart from the directory where it starts, which is no step. -/
def lexical (path : String) : List PathComponent :=
  (components path).filter (· ≠ .current)

/-- Whether a path leads to a directory or below it by its components alone. -/
def IsWithin (directory path : String) : Prop :=
  ∃ names : List (List Char), lexical path = lexical directory ++ names.map .name

theorem ofSegment_ne_current (segment : List Char) :
  ofSegment segment ≠ some .current
  := by
  rw [ofSegment]
  split
  · simp
  · split <;> simp

theorem ofSegment_of_isName {name : List Char} (h : Module.IsName name) :
  ofSegment name = some (.name name)
  := by
  have hproper := h.proper
  simp only [Module.isProper, Bool.and_eq_true, decide_eq_true_eq] at hproper
  obtain ⟨⟨hempty, hdot⟩, hdots⟩ := hproper
  simp [ofSegment, hempty, hdot, hdots]

theorem lexical_eq (path : String) :
  lexical path = (if isRooted path then [.root] else []) ++ steps path
  := by
  have hsteps : (steps path).filter (· ≠ .current) = steps path := by
    apply List.filter_eq_self.mpr
    intro c hc
    obtain ⟨segment, -, hsegment⟩ := List.mem_filterMap.mp hc
    have hne : c ≠ .current := fun h => ofSegment_ne_current segment (h ▸ hsegment)
    simpa using hne
  rw [lexical, components, List.filter_append, hsteps, start]
  split
  · rfl
  · split <;> rfl

/-! ### Paths in a directory -/

/-- The segments of a path in a directory are those of the directory, but for an empty one
at its end, and those of the path. -/
theorem segments_joinPath (directory path : String) :
  ∃ outer, Module.segments (joinPath directory path) = outer ++ Module.segments path
    ∧ (Module.segments directory = outer ∨ Module.segments directory = outer ++ [[]])
  := by
  have hslash : Module.isSlash '/' := rfl
  by_cases hempty : directory = ""
  · subst hempty
    exact ⟨[], by simp [joinPath], .inr rfl⟩
  · by_cases hsuffix : ['/'] <:+ directory.toList
    · obtain ⟨outer, houter⟩ := id hsuffix
      refine ⟨Text.split Module.isSlash outer, ?_, .inr ?_⟩
      · rw [joinPath, if_pos (by simp [hsuffix]), Module.segments, String.toList_append,
          ← houter, List.append_assoc]
        exact Text.split_append_cons hslash outer path.toList
      · rw [Module.segments, ← houter]
        exact Text.split_append_cons hslash outer []
    · refine ⟨Module.segments directory, ?_, .inl rfl⟩
      rw [joinPath, if_neg (by simp [hsuffix, hempty]), Module.segments]
      simp only [String.toList_append, List.append_assoc]
      exact Text.split_append_cons hslash directory.toList path.toList

theorem isPrefixOf_slash (path : String) :
  "/".toList.isPrefixOf path.toList = isRooted path
  := by
  rw [isRooted]
  cases path.toList with
  | nil => rfl
  | cons c cs =>
    by_cases hc : c = '/'
    · simp [hc, List.isPrefixOf]
    · simp [hc, List.isPrefixOf, Ne.symm hc]

theorem isRooted_joinPath {directory path : String} (h : isRooted path = false) :
  isRooted (joinPath directory path) = isRooted directory
  := by
  by_cases hempty : directory = ""
  · rw [hempty, joinPath, if_pos (by simp), String.empty_append, h]
    rfl
  · have hne : directory.toList ≠ [] := by simpa using hempty
    obtain ⟨c, cs, hcs⟩ := List.exists_cons_of_ne_nil hne
    rw [joinPath]
    split <;> simp [isRooted, hcs]

theorem steps_joinPath (directory path : String) :
  steps (joinPath directory path) = steps directory ++ steps path
  := by
  obtain ⟨outer, hjoin, hdirectory⟩ := segments_joinPath directory path
  rw [steps, hjoin, List.filterMap_append]
  rcases hdirectory with h | h
  · rw [steps, steps, h]
  · simp [steps, h, ofSegment]

end PathComponent

end ClientGen
