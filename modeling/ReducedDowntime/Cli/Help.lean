import ReducedDowntime.Cli.Usage

/-!
# Help texts

The help of a command is its description, its full usage line, and then the sections
`Commands`, `Arguments` and `Options`, each a row per entry:

```text
<about>

Usage: <full usage>

Commands:
  <name>  <about>

Options:
  -s, --long <VALUE>  <help> [env: NAME=value] [default: value]
```

There is a summary (`-h`) and a full help (`--help`). The full help uses each argument's
long help and description, puts every help on its own line indented by ten columns
with a blank line between rows, separates the notes in brackets from the help by a
blank line, and lists choices that have descriptions one per line. The summary aligns
the helps of a section in one column after the longest entry, unless that entry takes
more than two fifths of a hundred columns and some help would not fit in what is left:
then the helps of that section also go on their own lines.
-/

namespace ReducedDowntime.Cli

/-- Environment variables, by name. -/
abbrev Environment := List (String × String)

/-- The columns a help text is laid out for. -/
def helpColumns : Nat := 100

/-- `n` spaces. -/
def spaces (n : Nat) : String := String.ofList (List.replicate n ' ')

/-- Indents every line after the first by `n` columns. -/
def indentRest (n : Nat) (s : String) : String := s.replace "\n" ("\n" ++ spaces n)

namespace Param

/-- Whether the full help lists the argument's choices with their descriptions. -/
def describesChoices (p : Param) (long : Bool) : Bool := long && p.choices.any (·.help.isSome)

/-- The notes in brackets after an argument's help: environment variable, default and
choices, on separate lines in the full help. -/
def notes (p : Param) (env : Environment) (long : Bool) : String :=
  let envNote := match p.env with
    | some name =>
      if p.showEnvValue then ["[env: " ++ name ++ "=" ++ (env.lookup name).getD "" ++ "]"]
      else ["[env: " ++ name ++ "]"]
    | none => []
  let defaultNote := match p.default with
    | some d => if p.takesValue then ["[default: " ++ d ++ "]"] else []
    | none => []
  let choiceNote :=
    if p.choices.isEmpty || p.describesChoices long then []
    else ["[possible values: " ++ ", ".intercalate (p.choices.map (·.name)) ++ "]"]
  (if long then "\n" else " ").intercalate (envNote ++ defaultNote ++ choiceNote)

/-- The help text of the summary or of the full help. -/
def helpFor (p : Param) (long : Bool) : String :=
  if long then (p.longHelp <|> p.help).getD "" else (p.help <|> p.longHelp).getD ""

/-- The entry of a help row: switches or value name. -/
def entry (p : Param) : String :=
  let shortPart := match p.short with
    | some s => "-" ++ s.toString
    | none => if p.long.isSome then "    " else ""
  let longPart := match p.long with
    | some l => (if p.short.isSome then ", " else "") ++ "--" ++ l
    | none => ""
  shortPart ++ longPart ++ p.valuePart p.required

/-- Where a row's help starts in the summary: after the longest entry, two columns, and
the four columns of `-s, ` for arguments that are not positional. -/
def helpColumn (p : Param) (longest : Nat) : Nat :=
  if p.positional then longest + 4 else longest + 8

/-- Whether the summary would put this argument's help on its own line. -/
def helpOnOwnLine (p : Param) (env : Environment) (longest : Nat) : Bool :=
  let taken := p.helpColumn longest
  helpColumns ≥ taken && 40 < taken &&
    (p.help.getD "").length + (p.notes env false).length > helpColumns - taken

/-- One row of the help. -/
def row (p : Param) (env : Environment) (long ownLine : Bool) (longest : Nat) : String :=
  let pad :=
    if long || ownLine then ""
    else if p.positional || p.long.isSome then spaces (longest + 2 - p.display.length)
    else spaces (longest + 6 - p.display.length)
  let lead := if ownLine then "\n" ++ spaces 10 else ""
  let column := if ownLine then 10 else p.helpColumn longest
  let about := p.helpFor long
  let notes := p.notes env long
  let text :=
    if notes.isEmpty then about
    else if about.isEmpty then notes
    else about ++ (if long then "\n\n" else " ") ++ notes
  let text := indentRest column text
  let choices :=
    if p.describesChoices long then
      let width := (p.choices.map (·.name.length)).foldl max 0
      let items := p.choices.map fun c =>
        "\n" ++ spaces column ++ "- " ++ indentRest column
          (c.name ++ match c.help with
            | some h => ": " ++ spaces (width - c.name.length) ++ h
            | none => "")
      (if text.isEmpty then "" else "\n\n" ++ spaces column) ++ "Possible values:" ++ String.join items
    else ""
  "  " ++ p.entry ++ pad ++ lead ++ text ++ choices

end Param

/-- The rows of a section of arguments. -/
def argumentRows (ps : List Param) (env : Environment) (long : Bool) : String :=
  let longest := (ps.map (·.display.length)).foldl max 2
  let ownLine := long || ps.any (·.helpOnOwnLine env longest)
  let sep := if ownLine && long then "\n\n" else "\n"
  sep.intercalate (ps.map (·.row env long ownLine longest))

/-- The rows of the subcommands: name and summary, aligned after the longest name. -/
def commandRows (cs : List Command) : String :=
  let longest := (cs.map (·.name.length)).foldl max 2
  let ownLine := cs.any fun c =>
    let taken := longest + 4
    helpColumns ≥ taken && 40 < taken && (c.about.getD "").length > helpColumns - taken
  "\n".intercalate (cs.map fun c =>
    let about := c.about.getD ""
    if ownLine then "  " ++ c.name ++ "\n" ++ spaces 10 ++ indentRest 10 about
    else "  " ++ c.name ++ spaces (longest + 2 - c.name.length) ++ indentRest (longest + 4) about)

/-- Drops spaces and line breaks at the end. -/
def trimEnd (s : String) : String :=
  String.ofList ((s.toList.reverse.dropWhile fun c => c == ' ' || c == '\n').reverse)

namespace Level

/-- The help of a level: the full help when `long`, else the summary. -/
def help (lv : Level) (env : Environment) (long : Bool) : String :=
  let c := lv.command
  let about := if long then c.longAbout <|> c.about else c.about
  let sections :=
    (if c.subcommands.isEmpty then [] else ["Commands:\n" ++ commandRows c.subcommands]) ++
    (if c.positionals.isEmpty then [] else ["Arguments:\n" ++ argumentRows c.positionals env long]) ++
    (if c.switches.isEmpty then [] else ["Options:\n" ++ argumentRows c.switches env long])
  let body := (match about with | some a => a ++ "\n" | none => "") ++
    "\nUsage: " ++ lv.fullUsage ++ "\n\n" ++ "\n\n".intercalate sections
  trimEnd body ++ "\n"

end Level

end ReducedDowntime.Cli
