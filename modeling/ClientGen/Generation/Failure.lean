import ClientGen.Options.Package
import ClientGen.Program.Reader
import ClientGen.Target.Language

/-!
# Failures

Why a library cannot be written.
-/

namespace ClientGen

/-- Why a library cannot be written. -/
inductive Failure where
  | program (error : Program.Error)
  | package (error : Package.Error)
  | language (text : String)

/-- The wording of a failure. -/
def Failure.message : Failure → String
  | .program error => "Parse error: " ++ error.message
  | .package error => "Configuration error: " ++ error.message
  | .language text => Language.unsupported text

end ClientGen
