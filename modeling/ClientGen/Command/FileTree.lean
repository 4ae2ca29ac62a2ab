import ClientGen.Command.FileSystem
import ClientGen.Text.Whitespace

/-!
# File trees

A file tree holds files and directories by their places, which are the lists of names that
lead to them from the top. Paths start at the top or at a working directory; the names `.`
and `..` stay in a directory and lead out of it.
-/

namespace ClientGen

/-- What a place holds. -/
inductive TreeEntry where
  | file (text : String)
  | directory
deriving DecidableEq

/-- Files and directories by their places, and the place where paths start. -/
structure FileTree where
  workingDirectory : List String := []
  entries : List (List String × TreeEntry) := []
deriving DecidableEq, Inhabited

namespace FileTree

/-- The names of a path. -/
def namesOf (path : String) : List String :=
  (Text.split (· = '/') path.toList).map String.ofList

/-- What a place holds. -/
def entry? (t : FileTree) (place : List String) : Option TreeEntry :=
  if place = [] then some .directory else t.entries.lookup place

/-- The tree with an entry. -/
def put (t : FileTree) (place : List String) (e : TreeEntry) : FileTree :=
  { t with entries := (place, e) :: t.entries.filter fun entry => entry.1 ≠ place }

/-- Where a path starts. -/
def start (t : FileTree) (path : String) : List String :=
  if "/".toList.isPrefixOf path.toList then [] else t.workingDirectory

/-- The place to which a name leads. -/
def enter (place : List String) (name : String) : List String :=
  if name = "" || name = "." then place
  else if name = ".." then place.dropLast
  else place ++ [name]

/-- The place to which names lead through directories. -/
def walk (t : FileTree) (place : List String) : List String → Option (List String)
  | [] => some place
  | name :: names =>
    if t.entry? place = some .directory then walk t (enter place name) names else none

/-- The longest name of a file, in octets. -/
def maxName : Nat := 255

/-- Whether a text can be a path at all. -/
def isPath (path : String) : Bool :=
  path ≠ "" && !path.toList.contains '\x00'
    && (namesOf path).all fun name => name.utf8ByteSize ≤ maxName

/-- The place to which a path leads. -/
def locate (t : FileTree) (path : String) : Option (List String) :=
  if isPath path then t.walk (t.start path) (namesOf path) else none

/-- What a path leads to. -/
def at? (t : FileTree) (path : String) : Option TreeEntry :=
  (t.locate path).bind t.entry?

/-- The kind of what a path leads to. -/
def kindOf (t : FileTree) (path : String) : Option FileKind :=
  (t.at? path).map fun
    | .file _ => .file
    | .directory => .directory

/-- The text of a file. -/
def read (t : FileTree) (path : String) : Except String String :=
  match t.at? path with
  | some (.file text) => .ok text
  | some .directory => .error "Is a directory"
  | none => .error "No such file or directory"

/-- The name under which a directory holds a place. -/
def nameIn (directory place : List String) : Option String :=
  match place.getLast? with
  | none => none
  | some name => if place.dropLast = directory then some name else none

/-- The names in a directory. -/
def names (t : FileTree) (path : String) : Except String (List String) :=
  match t.locate path with
  | none => .error "No such file or directory"
  | some place =>
    if t.entry? place = some .directory then
      .ok (t.entries.filterMap fun entry => nameIn place entry.1)
    else
      .error "Not a directory"

/-- The tree in which names lead through directories, with those that were missing. -/
def makeDirectories (t : FileTree) (place : List String) : List String → FileTree
  | [] => t
  | name :: names =>
    let next := enter place name
    match t.entry? next with
    | some .directory => t.makeDirectories next names
    | some (.file _) => t
    | none => (t.put next .directory).makeDirectories next names

/-- The names of the directory that a path lies in. -/
def parentNames (path : String) : List String :=
  ((namesOf path).filter fun name => name ≠ "" && name ≠ ".").dropLast

/-- The tree after a file has been saved, or after an attempt, and whether it failed. -/
def save (t : FileTree) (path text : String) : Except String Unit × FileTree :=
  if isPath path then
    let t := t.makeDirectories (t.start path) (parentNames path)
    match t.locate path with
    | none => (.error "No such file or directory", t)
    | some place =>
      if t.entry? place = some .directory then (.error "Is a directory", t)
      else (.ok (), t.put place (.file text))
  else
    (.error "Invalid path", t)

/-- A tree as a file system. -/
def fileSystem : FileSystem (StateM FileTree) where
  kindOf path := do return (← get).kindOf path
  names path := do return (← get).names path
  read path := do return (← get).read path
  save path text := modifyGet fun t => t.save path text

/-! ### Trees of given files -/

/-- The tree with a further file, or a directory if there is no text. -/
def add (t : FileTree) (path : String) : Option String → FileTree
  | some text => (t.save path text).2
  | none => t.makeDirectories (t.start path) (namesOf path)

/-- The files below the working directory, by their paths from there. -/
def files (t : FileTree) : List (String × String) :=
  t.entries.filterMap fun (place, e) =>
    match e with
    | .directory => none
    | .file text =>
      if t.workingDirectory.isPrefixOf place then
        some ("/".intercalate (place.drop t.workingDirectory.length), text)
      else none

end FileTree

end ClientGen
