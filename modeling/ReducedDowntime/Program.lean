import ReducedDowntime.Invocation.Settings
import ReducedDowntime.Client.Endpoint
import ReducedDowntime.Log.Filter
import ReducedDowntime.Time.Rfc3339

/-!
# A run of the tool

A run reads its command line, sets up its log filter, and then does what its settings
ask. How it ends:

1. a command line the grammar refuses ends the run with the refusal: help and version
   on standard output with code 0, errors on standard error with code 2;
2. settings that are refused end it with `Error: …` on standard error and code 1;
3. a log filter that does not read ends it with `Failed to initialize logging: …` on
   standard error and code 1; the filter is the environment's `RUST_LOG` when that
   reads, else the configured log level;
4. otherwise the run logs its start, does its work, and logs how it failed, with code 1.

This library models the network where no server answers: there the work ends at the
first login, to the appliance for `update-plugin` and to the lifecycle manager for
everything else. Log lines pass the filter by their target and level, and are written
as `TIME LEVEL text`, the level right-aligned in five columns.
-/

namespace ReducedDowntime

/-- What the tool does with its settings where no server answers: it logs in to the
first service its action needs, and that fails. -/
def Settings.runUnanswered (s : Settings) : Logged UpgradeError :=
  match s.action with
  | .updatePlugin _ => Client.loginUnanswered (Client.applianceBase s.server) Client.applianceSession
  | _ => Client.loginUnanswered (Client.lifecycleBase s.server) Client.lifecycleSession

/-- The log filter of a run: the environment's `RUST_LOG` when it reads, else the
configured level. -/
def runFilter (env : Cli.Environment) (level : String) : Except FilterError LogFilter :=
  match env.lookup "RUST_LOG" with
  | some text =>
    match LogFilter.read text with
    | .ok f => .ok f
    | .error _ => LogFilter.read level
  | none => LogFilter.read level

/-- A log line as a run writes it, at the given time. -/
def LogLine.render (l : LogLine) (clock : Time.Instant) : String :=
  let name := l.level.name
  clock.rfc3339 true ++ " " ++ String.ofList (List.replicate (5 - name.length) ' ') ++ name ++ " " ++
    l.text ++ "\n"

/-- How a run ends: what it wrote on standard output and standard error, and its exit
code. -/
structure Exit where
  out : String := ""
  err : String := ""
  code : Nat
  deriving DecidableEq, Repr, Inhabited

/-- The line that starts a run's log. -/
def startLine : LogLine := ⟨.debug, .program, "Starting rdu - vCenter Reduced Downtime Upgrade Tool"⟩

/-- A run of the tool with its environment and command line, at the given time, where no
server answers. -/
def Exit.ofRun (env : Cli.Environment) (argv : List String) (clock : Time.Instant) : Exit :=
  match (Invocation.read env argv clock).value with
  | .refused r =>
    if r.informs then { out := r.text, code := r.exitCode } else { err := r.text, code := r.exitCode }
  | .invalid e => { err := "Error: " ++ e.message ++ "\n", code := 1 }
  | .ready s =>
    match runFilter env s.logLevel with
    | .error e =>
      { err := "Failed to initialize logging: Failed to initialize log filter: " ++ e.message ++ "\n", code := 1 }
    | .ok filter =>
      let work := s.runUnanswered
      let lines := [startLine] ++ work.lines ++ [⟨.error, .program, work.value.message⟩]
      let shown := lines.filter fun l => filter.shows l.source.target l.level
      { out := String.join (shown.map (·.render clock)), code := 1 }

end ReducedDowntime
