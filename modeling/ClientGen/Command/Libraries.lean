import ClientGen.Command.Completion
import ClientGen.Command.Settings
import ClientGen.Document.Reader

/-!
# Libraries

What the commands leave to libraries: to read the notations of documents and settings, and to word
what is told of the command line. What the commands do with files does not depend on how the
libraries do that, so any may be given.
-/

namespace ClientGen

/-- How the program is called, in few words. They stand in for those of a library for command
lines. -/
def shortUsage : List String := [
  "Usage: callpath <COMMAND>",
  "",
  "Commands:",
  "  generate    Generate SDK sources from class model files",
  "  languages   List supported target languages",
  "  completion  Generate shell completion script",
  "  help        Print help"]

/-- The libraries of the commands: the readers of documents, that of settings, which gives the
settings of a text that is not blank or the reason why it has none, the lines that tell how the
program is called, and the completion script of each shell. -/
structure Libraries extends Document.Readers where
  settings : String → Except String Settings :=
    fun text => (Settings.ofText text).mapError Settings.Error.message
  usage : List String := shortUsage
  script : Shell → String := Shell.script

end ClientGen
