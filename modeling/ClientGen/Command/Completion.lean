import ClientGen.Command.Arguments

/-!
# Completion scripts

Scripts by which a shell completes the arguments of a call. They stand in for those that a
library for command lines makes, which know more about each command.
-/

namespace ClientGen

/-- The words that a shell offers: the commands, the options of all of them, and the
shells. -/
def completionWords : String :=
  " ".intercalate (Arguments.commandNames
    ++ (Arguments.flagOptions.map fun o => "--" ++ o.long)
    ++ ["--help", "--version"] ++ Shell.all.map Shell.name)

/-- The completion script of a shell. -/
def Shell.script : Shell → String
  | .bash => "complete -W '" ++ completionWords ++ "' callpath\n"
  | .elvish =>
    "set edit:completion:arg-completer[callpath] = \x7b|@words| put "
      ++ completionWords ++ " \x7d\n"
  | .fish => "complete -c callpath -f -a '" ++ completionWords ++ "'\n"
  | .powershell =>
    "Register-ArgumentCompleter -Native -CommandName 'callpath' -ScriptBlock "
      ++ "\x7b '" ++ completionWords ++ "' -split ' ' \x7d\n"
  | .zsh => "#compdef callpath\ncompadd " ++ completionWords ++ "\n"

end ClientGen
