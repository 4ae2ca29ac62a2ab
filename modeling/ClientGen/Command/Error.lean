import ClientGen.Generation.Failure

/-!
# Errors of commands

Why a command fails.
-/

namespace ClientGen

/-- Why a command fails. -/
inductive CommandError where
  | access (reason : String)
  | generation (failure : Failure)
  | settingsNotFound (path : String)
  | settingsNotRead (reason : String)
  | settingsInvalid (reason : String)
  | channel (message : String)
  | noInput
  | inputNotFound (path : String)
  | inputNotRead (path reason : String)
  | inputInvalid (path : String) (error : Program.Error)
  | outside (path directory : String)

/-- The wording of an error. -/
def CommandError.message : CommandError → String
  | .access reason => "IO error: " ++ reason
  | .generation failure => "Generator error: " ++ failure.message
  | .settingsNotFound path => "Config file not found: " ++ path
  | .settingsNotRead reason => "Failed to read config file: " ++ reason
  | .settingsInvalid reason => "Failed to parse config file: " ++ reason
  | .channel message => message
  | .noInput => "No input given. Pass --input or set \x60input\x60 in callpath.yaml"
  | .inputNotFound path => "Input not found: " ++ path
  | .inputNotRead path reason => "Failed to read " ++ path ++ ": " ++ reason
  | .inputInvalid path error => path ++ ": " ++ (Failure.program error).message
  | .outside path directory => "Refusing to write " ++ path ++ " outside of " ++ directory

end ClientGen
