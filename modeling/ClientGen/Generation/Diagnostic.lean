import ClientGen.Options.Channel
import ClientGen.Text.Quoted

/-!
# Diagnostics

What a run reports without failing: inputs that were left out, types that are not known,
and homes that climb out of the project.
-/

namespace ClientGen

/-- What a run reports. -/
inductive Diagnostic where
  /-- The program with this index has no class, and nothing was written for it. -/
  | missingClass (program : Nat)
  /-- This class was left out. -/
  | extraClass (className : String)
  /-- No method of the class is called on the channel. -/
  | noQualifyingMethods (className : String) (channel : Channel)
  /-- A type that is not known was spelled as the most permissive type. -/
  | unknownType (context : String)
  /-- A name is declared more than once, and the first declaration was used. -/
  | duplicateDeclaration (name : String)
  /-- The home of a declaration climbs out of the project, and was kept within it. -/
  | unsafeHome (name home : String)
deriving DecidableEq

/-- The wording of a diagnostic. -/
def Diagnostic.message : Diagnostic → String
  | .missingClass program =>
    "program #" ++ Text.integerText program ++ " has no class definition, skipped"
  | .extraClass className => "extra class definition " ++ className ++ " ignored"
  | .noQualifyingMethods className channel =>
    "class " ++ className ++ " has no methods exposed on " ++ channel.name ++ ", skipped"
  | .unknownType context =>
    "unknown type node in " ++ context ++ ", rendered as the permissive type"
  | .duplicateDeclaration name =>
    "declaration " ++ name ++ " is declared more than once, first one used"
  | .unsafeHome name home =>
    "home path " ++ Text.quoted home ++ " of " ++ name
      ++ " leaves the project, \x60..\x60 segments dropped"

end ClientGen
