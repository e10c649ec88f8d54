/-!
# Log lines

The program reports its progress as log lines. Each line has a level, the part of the
program that emitted it (its *target*, a path such as `rdu::rdu::monitor`, by which log
filters select lines), and its text.

`Logged α` is a value together with the lines emitted while computing it.
-/

namespace ReducedDowntime

/-- How severe a log line is, from the most to the least severe. -/
inductive Level where
  | error
  | warn
  | info
  | debug
  | trace
  deriving DecidableEq, Repr, Inhabited

/-- The name of a level in log output. -/
def Level.name : Level → String
  | .error => "ERROR"
  | .warn => "WARN"
  | .info => "INFO"
  | .debug => "DEBUG"
  | .trace => "TRACE"

/-- The verbosity of a level: 1 for errors up to 5 for traces. -/
def Level.rank : Level → Nat
  | .error => 1
  | .warn => 2
  | .info => 3
  | .debug => 4
  | .trace => 5

/-- The parts of the program that emit log lines. -/
inductive Source where
  | program
  | client
  | initSpec
  | applySpec
  | precheck
  | monitor
  | steps
  | pluginUpdate
  | scenario
  deriving DecidableEq, Repr, Inhabited

/-- The target path of a part of the program. -/
def Source.target : Source → String
  | .program => "rdu"
  | .client => "rdu::vcenter::client"
  | .initSpec => "rdu::rdu::init_spec"
  | .applySpec => "rdu::rdu::apply_spec"
  | .precheck => "rdu::rdu::precheck"
  | .monitor => "rdu::rdu::monitor"
  | .steps => "rdu::rdu::steps"
  | .pluginUpdate => "rdu::plugin"
  | .scenario => "rdu::scenario"

/-- One log line. -/
structure LogLine where
  level : Level
  source : Source
  text : String
  deriving DecidableEq, Repr, Inhabited

/-- A value with the log lines emitted while computing it. -/
structure Logged (α : Type) where
  lines : List LogLine
  value : α

/-- A value that emitted nothing. -/
def Logged.pure {α : Type} (a : α) : Logged α := ⟨[], a⟩

end ReducedDowntime
