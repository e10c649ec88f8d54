/-!
# Refusals of a command line

A command line that asks for help or the version, or that the grammar does not accept,
ends parsing with a *refusal*: its kind and the text to show. Help and version texts
are shown on standard output and end the program successfully; every other refusal is
an error, shown on standard error with exit code 2.

An error text reads

```text
error: <what is wrong>[ list of allowed values or subcommands]

  tip: <a suggestion>

Usage: <usage line>

For more information, try '--help'.
```

where the list, the tips and the usage line appear only when the kind of error has them.
-/

namespace ReducedDowntime.Cli

/-- The kinds of refusal. -/
inductive RefusalKind where
  | displayHelp
  | helpOnEmpty
  | displayVersion
  | argumentConflict
  | invalidValue
  | invalidSubcommand
  | missingRequiredArgument
  | missingSubcommand
  | tooManyValues
  | unknownArgument
  | valueValidation
  deriving DecidableEq, Repr, Inhabited

/-- The names of the kinds. -/
def RefusalKind.name : RefusalKind → String
  | .displayHelp => "DisplayHelp"
  | .helpOnEmpty => "DisplayHelpOnMissingArgumentOrSubcommand"
  | .displayVersion => "DisplayVersion"
  | .argumentConflict => "ArgumentConflict"
  | .invalidValue => "InvalidValue"
  | .invalidSubcommand => "InvalidSubcommand"
  | .missingRequiredArgument => "MissingRequiredArgument"
  | .missingSubcommand => "MissingSubcommand"
  | .tooManyValues => "TooManyValues"
  | .unknownArgument => "UnknownArgument"
  | .valueValidation => "ValueValidation"

/-- A refusal: its kind and its text. -/
structure Refusal where
  kind : RefusalKind
  text : String
  deriving DecidableEq, Repr, Inhabited

namespace Refusal

/-- Whether the refusal is an answer rather than an error: help or version. -/
def informs (r : Refusal) : Bool :=
  r.kind == .displayHelp || r.kind == .displayVersion

/-- The exit code of a program that stops on the refusal. -/
def exitCode (r : Refusal) : Nat := if r.informs then 0 else 2

/-- A tip line. -/
def tip (text : String) : String := "\n  tip: " ++ text

/-- The tips of a refusal: the first is set off by a blank line. -/
def tips : List String → String
  | [] => ""
  | ts => "\n" ++ String.join (ts.map tip)

/-- A list of allowed names on its own line, or nothing when there is none. -/
def allowed (title : String) (names : List String) : String :=
  if names.isEmpty then "" else "\n  [" ++ title ++ ": " ++ ", ".intercalate names ++ "]"

/-- An error: its text, tips and usage line, and the pointer to the help. -/
def error (kind : RefusalKind) (what : String) (tipLines : List String)
    (usage : Option String) : Refusal :=
  { kind := kind
    text := "error: " ++ what ++ tips tipLines ++
      (match usage with | some u => "\n\n" ++ u | none => "") ++
      "\n\nFor more information, try '--help'.\n" }

/-- A suggestion of one known word. -/
def similar (what word : String) : String := "a similar " ++ what ++ " exists: '" ++ word ++ "'"

/-- An argument given twice. -/
def givenTwice (arg usage : String) : Refusal :=
  error .argumentConflict ("the argument '" ++ arg ++ "' cannot be used multiple times") [] (some usage)

/-- An option without its value. -/
def valueMissing (arg : String) (choices : List String) : Refusal :=
  error .invalidValue
    ("a value is required for '" ++ arg ++ "' but none was supplied" ++ allowed "possible values" choices)
    [] none

/-- A value outside the choices, with the nearest choice when one is close. -/
def notAChoice (arg value : String) (choices : List String) (near : Option String) : Refusal :=
  if value.isEmpty then valueMissing arg choices
  else
    error .invalidValue
      ("invalid value '" ++ value ++ "' for '" ++ arg ++ "'" ++ allowed "possible values" choices)
      (near.toList.map (similar "value")) none

/-- A value that does not read as the argument's kind of value. -/
def unreadable (arg value reason : String) : Refusal :=
  error .valueValidation ("invalid value '" ++ value ++ "' for '" ++ arg ++ "': " ++ reason) [] none

/-- A value attached to a switch. -/
def valueNotTaken (arg value usage : String) : Refusal :=
  error .tooManyValues
    ("unexpected value '" ++ value ++ "' for '" ++ arg ++ "' found; no more were expected") [] (some usage)

/-- A word that is no argument of the command. -/
def unexpected (word : String) (tipLines : List String) (usage : String) : Refusal :=
  error .unknownArgument ("unexpected argument '" ++ word ++ "' found") tipLines (some usage)

/-- The tip to pass a word that looks like a switch as a value. -/
def asValueTip (word lead : String) : String :=
  "to pass '" ++ word ++ "' as a value, use '" ++ lead ++ "-- " ++ word ++ "'"

/-- Required arguments that were not given. -/
def missing (forms : List String) (usage : String) : Refusal :=
  error .missingRequiredArgument
    ("the following required arguments were not provided:" ++ String.join (forms.map ("\n  " ++ ·)))
    [] (some usage)

/-- A command that needs a subcommand and got none. -/
def subcommandMissing (program : String) (names : List String) (usage : String) : Refusal :=
  error .missingSubcommand
    ("'" ++ program ++ "' requires a subcommand but one was not provided" ++ allowed "subcommands" names)
    [] (some usage)

/-- A word in the place of a subcommand that names none, with the similar ones. -/
def unknownSubcommand (word : String) (near : List String) (usage : String) : Refusal :=
  let tipLines := match near with
    | [] => []
    | [w] => [similar "subcommand" w]
    | ws => ["some similar subcommands exist: " ++ ", ".intercalate (ws.map fun w => "'" ++ w ++ "'")]
  error .invalidSubcommand ("unrecognized subcommand '" ++ word ++ "'") tipLines (some usage)

end Refusal

end ReducedDowntime.Cli
