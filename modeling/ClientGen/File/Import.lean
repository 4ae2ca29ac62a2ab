import ClientGen.File.Mark
import ClientGen.Target.Naming

/-!
# Import statements

An import statement takes names from one module. A name that is used under another one is
taken with an alias; where a language has no aliases, the module is given a qualifier, and
the other name is defined by it.
-/

namespace ClientGen

/-- A name that is taken under itself. -/
structure ImportedName where
  name : String
  isLast : Bool
deriving DecidableEq

/-- A name that is taken under another name, and the qualifier that goes with it. -/
structure ImportedAlias where
  name : String
  localName : String
  qualifier : String
  isLast : Bool
deriving DecidableEq

/-- An import statement: how the module is named, and what is taken from it. -/
structure ImportStatement where
  path : String
  plain : List ImportedName
  aliased : List ImportedAlias
deriving DecidableEq

namespace ImportStatement

/-- The qualifier for a name under which another one is taken. -/
def qualifierOf (localName : String) : String :=
  "_" ++ Language.lowerFirst localName

/-- The statement that takes names under names: pairs of the name in the module and the
name under which it is used. -/
def ofPairs (path : String) (pairs : List (String × String)) : ImportStatement where
  path := path
  plain := mapLast (fun (name, _) isLast => ⟨name, isLast⟩)
    (pairs.filter fun (name, localName) => name = localName)
  aliased := mapLast
    (fun (name, localName) isLast => ⟨name, localName, qualifierOf localName, isLast⟩)
    (pairs.filter fun (name, localName) => name ≠ localName)

/-- The pairs that a statement takes: first the names that are used under themselves. -/
def pairs (s : ImportStatement) : List (String × String) :=
  s.plain.map (fun i => (i.name, i.name)) ++ s.aliased.map (fun i => (i.name, i.localName))

end ImportStatement

end ClientGen
