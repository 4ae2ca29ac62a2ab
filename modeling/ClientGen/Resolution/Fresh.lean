import ClientGen.Program.References
import ClientGen.Sorted
import ClientGen.Text.Digits

/-!
# Fresh names

The file of a class defines the class and imports the stub, so a declaration in its scope
that has one of these two names is given another one. The new name ends in `Model`, and
in a number from two on if that name is taken.
-/

namespace ClientGen.Fresh

/-- The candidates for a new name: the base, and the base with the numbers from two on. -/
def candidate (base : String) : Nat → String
  | 0 => base
  | n + 1 => base ++ Text.integerText ((n : Int) + 2)

/-- The first candidate that is not taken. Of as many candidates as there are taken names
and one more, one is not taken. -/
def freshName (taken : List String) (base : String) : String :=
  (((List.range (taken.length + 1)).map (candidate base)).find? fun name =>
    !taken.contains name).getD base

/-- The name that carries calls to the server. -/
def stubName : String := "Remote"

/-- New names for the given ones, where no new name is taken or given twice. -/
def renamesFrom (taken : List String) : List String → Renames
  | [] => []
  | name :: names =>
    let fresh := freshName taken (name ++ "Model")
    (name, fresh) :: renamesFrom (fresh :: taken) names

/-- The new names in the file of a class, given the names in its scope in increasing
order. -/
def classRenames (className : String) (scope : List String) : Renames :=
  renamesFrom (className :: stubName :: scope)
    (scope.filter fun name => name = className || name = stubName)

end ClientGen.Fresh
