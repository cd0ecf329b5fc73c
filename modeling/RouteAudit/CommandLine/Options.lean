import RouteAudit.CommandLine.Argument

/-!
# Commands and their options

A command line names a command, and the options of the command follow.  If the user asks for help,
or if the arguments cannot be understood, the usage is shown instead.  Of a request for help and a
mistake the one that is met first counts, with two exceptions: an argument that no command knows is
complained about at the end, and one that may be several options before anything else.  Arguments
are Unicode texts.
-/

namespace RouteAudit.CommandLine

/-- What to do. -/
inductive Command where
  /-- Checks the templates of a project. -/
  | check
  /-- Lists the routes of a project. -/
  | routes
  deriving DecidableEq, Repr

/-- How the result of a check is written. -/
inductive Format where
  | text
  | json
  deriving DecidableEq, Repr

/-- Why the usage is shown. -/
inductive Usage where
  | requested
  | mistaken
  deriving DecidableEq, Repr

/-- The options of a command, as they are given. -/
structure Options where
  config : String := "config/app.php"
  handles : List String := []
  scanPaths : List String := []
  collected : Option String := none
  templates : List String := []
  ending : String := ".twig"
  format : Format := .text
  verbose : Bool := false
  deriving DecidableEq, Repr

/-- The name of a format. -/
def Format.ofName? : String → Option Format
  | "text" => some .text
  | "json" => some .json
  | _ => none

namespace Command

/-- The command with a given name. -/
def ofName? : String → Option Command
  | "check" => some .check
  | "routes" => some .routes
  | _ => none

/-- The options without a command. -/
def helpOptions : OptionTable :=
  [("-h", .flag .help), ("--help", .flag .help)]

/-- The options that say which project is meant. -/
def projectOptions : OptionTable :=
  [("--config", .setting .config), ("--handle", .setting .handle),
   ("--scan-path", .setting .scanPath), ("--collected", .setting .collected),
   ("-v", .flag .verbose), ("--verbose", .flag .verbose)]

/-- The options that say what is checked. -/
def checkOptions : OptionTable :=
  [("--templates", .setting .templates), ("--extension", .setting .ending),
   ("--format", .setting .format)]

/-- The options of a command. -/
def options : Command → OptionTable
  | .check => helpOptions ++ projectOptions ++ checkOptions
  | .routes => helpOptions ++ projectOptions

end Command

namespace Options

/-- The options with a value for a setting.  Handles, paths and templates add up. -/
def set (o : Options) (s : Setting) (value : String) : Except Usage Options :=
  match s with
  | .config => .ok { o with config := value }
  | .handle => .ok { o with handles := o.handles ++ [value] }
  | .scanPath => .ok { o with scanPaths := o.scanPaths ++ [value] }
  | .collected => .ok { o with collected := some value }
  | .templates => .ok { o with templates := o.templates ++ [value] }
  | .ending => .ok { o with ending := value }
  | .format =>
    match Format.ofName? value with
    | some format => .ok { o with format }
    | none => .error .mistaken

/-- The options with flags, none of which asks for help. -/
def raise (o : Options) (flags : List Flag) : Except Usage Options :=
  if .help ∈ flags then .error .requested
  else .ok { o with verbose := o.verbose || flags.contains .verbose }

/-- What goes on without an argument that nobody knows ends as a mistake. -/
def withUnknown {α : Type} (rest : Except Usage α) : Except Usage α :=
  match rest with
  | .ok _ => .error .mistaken
  | .error usage => .error usage

/-- The options after the given arguments. -/
def read (o : Options) : List Argument → Except Usage Options
  | [] => .ok o
  | .flags flags all :: rest =>
    match o.raise flags with
    | .ok o => if all then read o rest else withUnknown (read o rest)
    | .error usage => .error usage
  | .setting s (some value) :: rest =>
    match o.set s value with
    | .ok o => read o rest
    | .error usage => .error usage
  | .setting s none :: .word value :: rest =>
    match o.set s value with
    | .ok o => read o rest
    | .error usage => .error usage
  | .setting _ none :: _ => .error .mistaken
  | .misused :: _ => .error .mistaken
  | .ambiguous :: _ => .error .mistaken
  | .word _ :: rest => withUnknown (read o rest)
  | .separator :: rest => withUnknown (read o rest)
  | .unknown :: rest => withUnknown (read o rest)

/-- The options of a command, from the arguments behind it. -/
def parse (command : Command) (args : List String) : Except Usage Options :=
  let arguments := Argument.ofStrings command.options args
  if arguments.contains .ambiguous then .error .mistaken
  else read {} arguments

end Options

namespace Command

/-- The command and its options, if a command is named. -/
def read : List String → Except Usage (Option (Command × Options))
  | [] => .ok none
  | s :: rest =>
    if s = "--" then .error .mistaken
    else
      match Argument.ofString helpOptions s with
      | .word name =>
        match ofName? name with
        | some command => (Options.parse command rest).map fun o => some (command, o)
        | none => .error .mistaken
      | .flags _ _ => .error .requested
      | .unknown => Options.withUnknown (read rest)
      | _ => .error .mistaken

/-- The command and its options.  Without a command the usage is shown. -/
def parse (args : List String) : Except Usage (Command × Options) :=
  match read args with
  | .ok (some request) => .ok request
  | .ok none => .error .requested
  | .error usage => .error usage

end Command

end RouteAudit.CommandLine
