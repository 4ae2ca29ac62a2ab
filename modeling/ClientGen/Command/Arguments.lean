/-!
# Arguments

What the arguments of a call ask for. Options are written as `--name value` or
`--name=value`, and in short as `-n value`, `-nvalue` or `-n=value`; after `--` no argument
is an option. The arguments are read one by one, and the first one that is out of place or
asks for help decides.
-/

namespace ClientGen

/-- The shells for which there are completion scripts. -/
inductive Shell where
  | bash
  | elvish
  | fish
  | powershell
  | zsh
deriving DecidableEq

namespace Shell

/-- The name of a shell. -/
def name : Shell → String
  | .bash => "bash"
  | .elvish => "elvish"
  | .fish => "fish"
  | .powershell => "powershell"
  | .zsh => "zsh"

/-- The shells. -/
def all : List Shell :=
  [.bash, .elvish, .fish, .powershell, .zsh]

/-- The shell with a name. -/
def ofName? (name : String) : Option Shell :=
  all.find? fun shell => shell.name = name

end Shell

/-- What the writing of libraries is told by arguments. -/
structure Flags where
  inputs : List String := []
  languages : List String := []
  output : Option String := none
  config : Option String := none
  channel : Option String := none
deriving DecidableEq

/-- What a call can do. -/
inductive Command where
  | generate (flags : Flags)
  | languages
  | completion (shell : Shell) (output : Option String)
deriving DecidableEq

/-- What a call asks for. -/
inductive Request where
  | run (command : Command)
  | help
  | version
  | misuse
deriving DecidableEq

namespace Arguments

/-- An option that takes a value: its name, and the letter that stands for it. -/
structure OptionName where
  long : String
  short : Option Char := none
deriving DecidableEq

/-- What one or two arguments write: the value of an option, or a word without one. -/
inductive Item where
  | value (option text : String)
  | word (text : String)
deriving DecidableEq

/-- What reading arguments gives. -/
inductive Reading (σ : Type) where
  | done (state : σ)
  | help
  | misuse

/-- Whether an argument can be the value of an option that stands before it. -/
def isValue (argument : String) : Bool :=
  match argument.toList with
  | '-' :: _ :: _ => false
  | _ => true

/-- The name of a long option, and the value after an equals sign. -/
def splitLong (cs : List Char) : String × Option String :=
  let name := String.ofList (cs.takeWhile (· ≠ '='))
  match cs.dropWhile (· ≠ '=') with
  | [] => (name, none)
  | _ :: value => (name, some (String.ofList value))

/-- The value that is written together with a short option. -/
def attached : List Char → Option String
  | [] => none
  | '=' :: cs => some (String.ofList cs)
  | cs => some (String.ofList cs)

/-- What an argument writes that may be an option. The value of a pending option is the
next argument. -/
inductive Lead where
  | item (i : Item)
  | pending (option : String)
  | noMoreOptions
  | help
  | misuse

/-- What an argument writes that may be an option. -/
def leadOf (options : List OptionName) (argument : String) : Lead :=
  match argument.toList with
  | ['-', '-'] => .noMoreOptions
  | '-' :: '-' :: cs =>
    let (name, value) := splitLong cs
    if name = "help" then (if value.isNone then .help else .misuse)
    else if options.any fun o => o.long = name then
      match value with
      | none => .pending name
      | some text => .item (.value name text)
    else .misuse
  | '-' :: c :: cs =>
    if c = 'h' then .help
    else
      match options.find? fun o => o.short = some c with
      | none => .misuse
      | some o =>
        match attached cs with
        | none => .pending o.long
        | some text => .item (.value o.long text)
  | _ => .item (.word argument)

variable {σ : Type}

/-- Accepts words only. -/
def readWords (accept : σ → Item → Option σ) (state : σ) : List String → Reading σ
  | [] => .done state
  | word :: words =>
    match accept state (.word word) with
    | none => .misuse
    | some state => readWords accept state words

/-- Accepts options and words. -/
def read (options : List OptionName) (accept : σ → Item → Option σ) (state : σ) :
    List String → Reading σ
  | [] => .done state
  | argument :: arguments =>
    match leadOf options argument with
    | .help => .help
    | .misuse => .misuse
    | .noMoreOptions => readWords accept state arguments
    | .item i =>
      match accept state i with
      | none => .misuse
      | some state => read options accept state arguments
    | .pending option =>
      match arguments with
      | [] => .misuse
      | text :: arguments =>
        if isValue text then
          match accept state (.value option text) with
          | none => .misuse
          | some state => read options accept state arguments
        else
          .misuse

/-! ### Commands -/

/-- The value of an option that may be given once. -/
def once (old : Option String) (text : String) : Option (Option String) :=
  if old.isSome then none else some (some text)

/-- The options of the writing of libraries. -/
def flagOptions : List OptionName :=
  [⟨"input", some 'i'⟩, ⟨"lang", some 'l'⟩, ⟨"output", some 'o'⟩, ⟨"config", none⟩,
    ⟨"channel", none⟩]

/-- The flags with a further item. -/
def acceptFlag (flags : Flags) : Item → Option Flags
  | .word _ => none
  | .value option text =>
    if option = "input" then some { flags with inputs := flags.inputs ++ [text] }
    else if option = "lang" then some { flags with languages := flags.languages ++ [text] }
    else if option = "output" then
      (once flags.output text).map fun output => { flags with output := output }
    else if option = "config" then
      (once flags.config text).map fun config => { flags with config := config }
    else
      (once flags.channel text).map fun channel => { flags with channel := channel }

/-- The options of the writing of completion scripts. -/
def completionOptions : List OptionName :=
  [⟨"output", some 'o'⟩]

/-- A shell and a path, with a further item. The path may not be empty. -/
def acceptCompletion (state : Option Shell × Option String) :
    Item → Option (Option Shell × Option String)
  | .word text =>
    if state.1.isSome then none
    else (Shell.ofName? text).map fun shell => (some shell, state.2)
  | .value _ text =>
    if text = "" then none else (once state.2 text).map fun output => (state.1, output)

/-- Accepts nothing. -/
def acceptNothing (_ : Unit) (_ : Item) : Option Unit := none

/-- The request that a reading of arguments gives. -/
def Reading.toRequest (command : σ → Option Command) : Reading σ → Request
  | .help => .help
  | .misuse => .misuse
  | .done state =>
    match command state with
    | none => .misuse
    | some command => .run command

/-- The command of a shell and a path. -/
def completionOf (state : Option Shell × Option String) : Option Command :=
  state.1.map fun shell => .completion shell state.2

/-- The names of the commands. -/
def commandNames : List String :=
  ["generate", "languages", "completion", "help"]

/-- The request for help about a command. -/
def helpRequest : List String → Request
  | [] => .help
  | [name] => if commandNames.contains name then .help else .misuse
  | _ => .misuse

/-- The request of an option that stands before a command. -/
def leadingRequest (argument : String) : Request :=
  match argument.toList with
  | '-' :: 'V' :: _ => .version
  | '-' :: 'h' :: _ => .help
  | _ =>
    if argument = "--version" then .version
    else if argument = "--help" then .help
    else .misuse

end Arguments

open Arguments in
/-- What arguments ask for. -/
def Request.ofArguments : List String → Request
  | [] => .misuse
  | name :: arguments =>
    if name = "generate" then
      (read flagOptions acceptFlag {} arguments).toRequest fun flags => some (.generate flags)
    else if name = "languages" then
      (read [] acceptNothing () arguments).toRequest fun _ => some .languages
    else if name = "completion" then
      (read completionOptions acceptCompletion (none, none) arguments).toRequest completionOf
    else if name = "help" then helpRequest arguments
    else leadingRequest name

end ClientGen
