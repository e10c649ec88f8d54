import ReducedDowntime.Cli.Grammar

/-!
# Usage lines

A usage line names the program, then the path of subcommands that leads to the command,
each parent followed by its own required arguments, then what the command itself needs.
There are two kinds:

* the *full* usage, shown by help and by most refusals: `[OPTIONS]` when the command has
  an optional switch or option, then its required options, then every positional
  argument (`<NAME>` when required, `[NAME]` when not), then `<COMMAND>` when a
  subcommand is required;
* the *short* usage, shown when a refusal knows which arguments were given: the required
  arguments together with the given ones, a group of given arguments written once as
  `<a|b|…>`, then `<COMMAND>` when a subcommand is required.

In both, options come before groups and groups before positional arguments, each in the
order first met, without repeats.
-/

namespace ReducedDowntime.Cli

/-- A command as reached on the command line: its grammar, with the built-in arguments,
the name that starts its usage lines, and the name of the program path to it. -/
structure Level where
  command : Command
  usageName : String
  binName : String
  deriving Inhabited

/-- Appends `x` unless it is already there. -/
def pushNew (xs : List String) (x : String) : List String := if xs.contains x then xs else xs ++ [x]

namespace Level

/-- A group written as the alternatives of its members. -/
def groupForm (lv : Level) (g : Group) : String :=
  let shown := g.members.filterMap fun id =>
    (lv.command.param? id).map fun p =>
      if p.positional then p.valueName?.getD p.id else p.display
  "<" ++ "|".intercalate shown ++ ">"

/-- The identifiers of all members of the groups among `ids`. -/
def groupMembers (lv : Level) (ids : List String) : List String :=
  ids.foldl (fun acc id => match lv.command.group? id with
    | some g => acc ++ g.members
    | none => acc) []

/-- Required arguments and the arguments `given`, as the short usage and the list of
missing arguments show them. A group one of whose members is `present` is left out, and
so is an argument that is `present`. -/
def requiredForms (lv : Level) (given : List String) (present : String → Bool) : List String :=
  let ids := lv.command.requiredIds ++ given
  let groups := ids.filter fun id => match lv.command.group? id with
    | some g => !g.members.any present
    | none => false
  let members := lv.groupMembers groups
  let groupForms := groups.foldl (fun acc id => match lv.command.group? id with
    | some g => pushNew acc (lv.groupForm g)
    | none => acc) []
  let args := ids.filterMap fun id => (lv.command.param? id).filter fun p =>
    !members.contains p.id && !present p.id
  let options := (args.filter (!·.positional)).foldl (fun acc p => pushNew acc (p.shownAs true)) []
  let positionals := lv.command.positionals.filter fun p => args.any (·.id == p.id)
  options ++ groupForms ++ positionals.map (·.shownAs true)

/-- Whether the full usage shows `[OPTIONS]`: some switch or option other than help and
version is optional and outside every required group. -/
def showsOptions (lv : Level) : Bool :=
  lv.command.switches.any fun p =>
    p.long != some "help" && p.long != some "version" && !p.required

/-- The arguments of the full usage: required options, then every positional argument. -/
def fullForms (lv : Level) : List String :=
  let options := (lv.command.switches.filter (·.required)).foldl
    (fun acc p => pushNew acc (p.shownAs true)) []
  options ++ lv.command.positionals.map fun p => p.shownAs p.required

/-- What ends a usage line of a command with subcommands. -/
def commandPart (lv : Level) : String :=
  if lv.command.subcommands.isEmpty then ""
  else if lv.command.subcommandRequired then " <COMMAND>" else " [COMMAND]"

/-- The full usage, without its title. -/
def fullUsage (lv : Level) : String :=
  lv.usageName ++ (if lv.showsOptions then " [OPTIONS]" else "") ++
    String.join (lv.fullForms.map (" " ++ ·)) ++ lv.commandPart

/-- The short usage for the arguments `given`, without its title. -/
def shortUsage (lv : Level) (given : List String) : String :=
  lv.usageName ++ String.join ((lv.requiredForms given fun _ => false).map (" " ++ ·)) ++
    (if lv.command.subcommandRequired then " <COMMAND>" else "")

/-- The usage line of a refusal: the full usage when nothing is known to be given. -/
def usageLine (lv : Level) (given : List String) : String :=
  "Usage: " ++ if given.isEmpty then lv.fullUsage else lv.shortUsage given

/-- The level of a subcommand: its usage lines start with this level's usage name and
required arguments. -/
def child (lv : Level) (sc : Command) : Level :=
  let parents := String.join ((lv.requiredForms [] fun _ => false).map (· ++ " "))
  { command := sc.complete
    usageName := lv.binName ++ " " ++ parents ++ sc.name
    binName := lv.binName ++ " " ++ sc.name }

end Level

/-- The level of a program's top command. -/
def Command.top (c : Command) : Level := { command := c.complete, usageName := c.name, binName := c.name }

end ReducedDowntime.Cli
