import ScheduledJobs.Settings.Basic

/-!
# Arguments of the command line

Options come first, then a command, then the file of a job. What begins with a
hyphen is an option unless two hyphens alone have come before it.
-/

namespace ScheduledJobs.CommandLine

/-- What can be done with a job. -/
inductive Command where
  | validate
  | plan
  | apply
  | refresh
  | destroy
  | show
  deriving DecidableEq, Inhabited

namespace Command

/-- Every command, in the order of the help. -/
def all : List Command := [validate, plan, apply, refresh, destroy, .show]

def name : Command → String
  | .validate => "validate"
  | .plan => "plan"
  | .apply => "apply"
  | .refresh => "refresh"
  | .destroy => "destroy"
  | .show => "show"

def summary : Command → String
  | .validate => "Check the job file without contacting the service"
  | .plan => "Print the payload that apply would send (secrets redacted)"
  | .apply => "Create or update the job and record what the service holds"
  | .refresh => "Re-read the job; forget it if the service no longer has it"
  | .destroy => "Delete the job and forget it"
  | .show => "Print the stored record for the job"

def ofName? (name : String) : Option Command :=
  all.find? fun command => command.name == name

@[simp] theorem ofName?_name (command : Command) :
    ofName? command.name = some command := by
  cases command <;> decide

end Command

/-- What comes before the command. -/
structure Options where
  /-- How often more is asked to be logged. -/
  verbosity : Nat := 0
  /-- The kind of service to use in place of the one that is set. -/
  backend : Option Backend := none
  deriving DecidableEq, Inhabited

/-- What the arguments ask for. -/
inductive Request where
  | version
  | help
  | invoke (options : Options) (command : Command) (file : String)
  deriving DecidableEq

namespace Request

/-- Whether an argument has the form of an option. -/
def isOption (argument : String) : Bool :=
  argument.startsWith "-" && argument != "-"

/-- The request for a command when `file` is all that has been read after it,
where only plain arguments are left; there is no request when a second one
comes or an empty one. -/
def ofPlain? (options : Options) (command : Command) (file : Option String) :
    List String → Option Request
  | [] => file.map (invoke options command)
  | argument :: others =>
      if argument.isEmpty || file.isSome then none
      else ofPlain? options command (some argument) others

/-- The request for a command when `file` is all that has been read after
it. -/
def ofFile? (options : Options) (command : Command) (file : Option String) :
    List String → Option Request
  | [] => file.map (invoke options command)
  | "--" :: others => ofPlain? options command file others
  | argument :: others =>
      if argument == "--help" || argument.startsWith "-h" then some help
      else if isOption argument || argument.isEmpty || file.isSome then none
      else ofFile? options command (some argument) others

def ofHelp? : List String → Option Request
  | [] => some help
  | ["help"] => some help
  | [name] => (Command.ofName? name).map fun _ => help
  | _ => none

/-- What a group of options with one letter each does: it changes the options,
or decides what is asked for. -/
def ofLetters? (options : Options) : List Char → Option (Options ⊕ Request)
  | [] => some (.inl options)
  | 'v' :: others =>
      ofLetters? { options with verbosity := options.verbosity + 1 } others
  | 'V' :: _ => some (.inr version)
  | 'h' :: _ => some (.inr help)
  | _ :: _ => none

/-- The options with a kind of service; only one may be given. -/
def withBackend? (options : Options) (name : String) : Option Options :=
  if options.backend.isSome then none
  else
    (Backend.ofName? name).map fun backend =>
      { options with backend := some backend }

/-- The start of an argument that holds a kind of service. -/
def backendStart : String := "--backend="

/-- What one argument with a hyphen at its start does. -/
def ofOption? (options : Options) (argument : String) :
    Option (Options ⊕ Request) :=
  match argument with
  | "--verbose" =>
      some (.inl { options with verbosity := options.verbosity + 1 })
  | "--version" => some (.inr version)
  | "--help" => some (.inr help)
  | _ =>
      if argument.startsWith backendStart then
        (withBackend? options
          (String.ofList (argument.toList.drop backendStart.length))).map .inl
      else if argument.startsWith "--" then
        none
      else
        ofLetters? options (argument.toList.drop 1)

/-- The request of the arguments that follow the given options. -/
def ofArguments? (options : Options) : List String → Option Request
  | [] => none
  | "--backend" :: name :: others =>
      (withBackend? options name).bind fun next => ofArguments? next others
  | argument :: others =>
      if isOption argument then
        match ofOption? options argument with
        | some (.inl next) => ofArguments? next others
        | some (.inr request) => some request
        | none => none
      else if argument == "help" then
        ofHelp? others
      else
        (Command.ofName? argument).bind fun command =>
          ofFile? options command none others

end Request

def usage : String :=
  "Declarative scheduler job sync\n\n" ++
  "Usage: jobsync [OPTIONS] <COMMAND> <FILE>\n\n" ++
  "Commands:\n" ++
  String.join (Command.all.map fun command =>
    "  " ++ command.name ++ "  " ++ command.summary ++ "\n") ++
  "\nOptions:\n" ++
  "  -v, --verbose            Log more\n" ++
  "      --backend <BACKEND>  Override the backend from config.toml " ++
    "[possible values: local, arm]\n" ++
  "  -h, --help               Print help\n" ++
  "  -V, --version            Print version\n"

end ScheduledJobs.CommandLine
