/-!
# Command-line grammars

A command takes arguments and, perhaps, one of its subcommands. An argument is an
*option* (`--name VALUE` or `-n VALUE`), a *switch* (`--name` or `-n`, which only sets
itself), or a *positional* value, whose place among the positional values names it.
Each command also has the built-in switches `-h`/`--help`, and `-V`/`--version` when it
has a version; a command with subcommands also has the subcommand `help`.

Arguments may be required, may fall back to an environment variable and then to a
default, and may restrict their values: to a whole number of hours or to a list of
choices. Related arguments form named groups, which usage lines can show together.

Every argument has a display form used in messages and usage lines: `--name <VALUE>` for
an option, `--name` for a switch and `<VALUE>` for a positional value, bracketed
`[VALUE]...` when it is optional and repeatable.
-/

namespace ReducedDowntime.Cli

/-- One allowed value of an argument, with what it means. -/
structure Choice where
  name : String
  help : Option String := none
  deriving DecidableEq, Repr, Inhabited

/-- What the values of an argument must be. -/
inductive ValueRule where
  /-- Any text. -/
  | text
  /-- A whole number from 0 to 4294967295, written in decimal. -/
  | hours
  /-- One of the choices, spelt exactly. -/
  | choice (choices : List Choice)
  deriving DecidableEq, Repr, Inhabited

/-- What giving an argument does. -/
inductive Effect where
  /-- Takes one value, named `name` in usage lines. -/
  | value (name : String) (rule : ValueRule)
  /-- Sets itself; takes no value. -/
  | switch
  /-- Shows the help of the command. -/
  | help
  /-- Shows the version of the program. -/
  | version
  deriving DecidableEq, Repr, Inhabited

/-- An argument of a command. -/
structure Param where
  id : String
  short : Option Char := none
  long : Option String := none
  /-- Whether the argument is a positional value. -/
  positional : Bool := false
  effect : Effect
  required : Bool := false
  /-- Whether the argument may be given many values at once. -/
  repeated : Bool := false
  /-- The environment variable the value falls back to. -/
  env : Option String := none
  /-- Whether help shows the environment variable's value. -/
  showEnvValue : Bool := true
  /-- The value when the argument is given neither on the line nor by the environment. -/
  default : Option String := none
  help : Option String := none
  longHelp : Option String := none
  deriving DecidableEq, Repr, Inhabited

/-- A named set of arguments. -/
structure Group where
  id : String
  members : List String
  deriving DecidableEq, Repr, Inhabited

/-- A command: its arguments in order, groups and subcommands. -/
structure Command where
  name : String
  about : Option String := none
  longAbout : Option String := none
  version : Option String := none
  params : List Param := []
  groups : List Group := []
  subcommands : List Command := []
  /-- Whether a subcommand must be given. -/
  subcommandRequired : Bool := false
  /-- Whether a command line with no argument at all shows the help. -/
  helpWhenEmpty : Bool := false
  /-- Whether the command has the `-h`/`--help` switch. -/
  helpSwitch : Bool := true
  deriving Inhabited

namespace Param

/-- Whether the argument takes a value. -/
def takesValue (p : Param) : Bool :=
  match p.effect with
  | .value .. => true
  | _ => false

/-- The name of the argument's value, for those that take one. -/
def valueName? (p : Param) : Option String :=
  match p.effect with
  | .value n _ => some n
  | _ => none

/-- The choices of the argument; empty unless its values are restricted to choices. -/
def choices (p : Param) : List Choice :=
  match p.effect with
  | .value _ (.choice cs) => cs
  | _ => []

/-- The value part of the display form, bracketed as required or optional. -/
def valuePart (p : Param) (required : Bool) : String :=
  match p.valueName? with
  | none => ""
  | some n =>
    let name := if p.positional && !required then "[" ++ n ++ "]" else "<" ++ n ++ ">"
    let more := if p.positional && p.repeated then "..." else ""
    (if p.positional then "" else " ") ++ name ++ more

/-- The switch part of the display form: the long name if there is one, else the short. -/
def namePart (p : Param) : String :=
  match p.long, p.short with
  | some l, _ => "--" ++ l
  | none, some s => "-" ++ s.toString
  | none, none => ""

/-- The display form, with the value bracketed as `required` says. -/
def shownAs (p : Param) (required : Bool) : String := p.namePart ++ p.valuePart required

/-- The display form of messages and help rows. -/
def display (p : Param) : String := p.shownAs p.required

/-- Whether help has more to say about the argument than the summary does. -/
def hasLongHelp (p : Param) : Bool :=
  p.longHelp.isSome || p.choices.any (·.help.isSome)

end Param

namespace Command

/-- Whether the command's full help says more than its summary. -/
def hasLongHelp (c : Command) : Bool :=
  c.longAbout.isSome || c.params.any Param.hasLongHelp

/-- The argument with the given identifier. -/
def param? (c : Command) (id : String) : Option Param := c.params.find? (·.id == id)

/-- The argument with the given long name. -/
def byLong? (c : Command) (l : String) : Option Param := c.params.find? (·.long == some l)

/-- The argument with the given short name. -/
def byShort? (c : Command) (s : Char) : Option Param := c.params.find? (·.short == some s)

/-- The positional arguments, in order. -/
def positionals (c : Command) : List Param := c.params.filter (·.positional)

/-- The arguments that are not positional, in order. -/
def switches (c : Command) : List Param := c.params.filter (!·.positional)

/-- The positional argument at a place, counted from one. -/
def positionalAt? (c : Command) (n : Nat) : Option Param := c.positionals[n - 1]?

/-- The subcommand with the given name. -/
def subcommand? (c : Command) (name : String) : Option Command :=
  c.subcommands.find? (·.name == name)

/-- The groups an argument belongs to. -/
def groupsOf (c : Command) (id : String) : List Group := c.groups.filter (·.members.contains id)

/-- The group with the given identifier. -/
def group? (c : Command) (id : String) : Option Group := c.groups.find? (·.id == id)

/-- The identifiers of the required arguments, in order. -/
def requiredIds (c : Command) : List String := (c.params.filter (·.required)).map (·.id)

/-- The long names, in the order of the arguments. -/
def longNames (c : Command) : List String := c.params.filterMap (·.long)

/-- The help subcommand: it takes the names of the subcommands to describe. -/
def helpCommand : Command :=
  { name := "help"
    about := some "Print this message or the help of the given subcommand(s)"
    params := [{ id := "subcommand", positional := true, repeated := true,
                 effect := .value "COMMAND" .text, help := some "Print help for the subcommand(s)" }]
    helpSwitch := false }

/-- The command with its built-in arguments: the help switch, the version switch when
there is a version, and the help subcommand when there are subcommands. -/
def complete (c : Command) : Command :=
  let helpText : Param :=
    if c.hasLongHelp then
      { id := "help", short := some 'h', long := some "help", effect := .help,
        help := some "Print help (see more with '--help')",
        longHelp := some "Print help (see a summary with '-h')" }
    else
      { id := "help", short := some 'h', long := some "help", effect := .help,
        help := some "Print help" }
  let version : List Param := match c.version with
    | some _ => [{ id := "version", short := some 'V', long := some "version", effect := .version,
                   help := some "Print version" }]
    | none => []
  { c with
    params := c.params ++ (if c.helpSwitch then [helpText] else []) ++ version
    subcommands := if c.subcommands.isEmpty then [] else c.subcommands ++ [helpCommand] }

end Command

end ReducedDowntime.Cli
