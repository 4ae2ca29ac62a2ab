/-!
# File systems

What the commands need of the files around them: to tell files from directories, to list a
directory, to read a file, and to save one together with the directories it lies in. A
path is given as a text with slashes between the names.
-/

namespace ClientGen

/-- What a path leads to. -/
inductive FileKind where
  | file
  | directory
deriving DecidableEq

/-- Access to files. What fails gives the reason. -/
structure FileSystem (m : Type → Type) where
  kindOf : String → m (Option FileKind)
  names : String → m (Except String (List String))
  read : String → m (Except String String)
  save : String → String → m (Except String Unit)

/-- The path of a name in a directory. -/
def joinPath (directory name : String) : String :=
  if directory = "" || "/".toList.isSuffixOf directory.toList then directory ++ name
  else directory ++ "/" ++ name

end ClientGen
