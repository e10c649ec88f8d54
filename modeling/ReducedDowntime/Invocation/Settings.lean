import ReducedDowntime.Cli.Parse
import ReducedDowntime.Invocation.Grammar
import ReducedDowntime.Flow.Scenario

/-!
# What a command line asks for

A command line that the grammar accepts becomes the tool's *settings*: the connection
(server, user name, password, certificate checking), whether to confirm, the log level,
and the *action*. The action is checked as it is built:

* the four target options go together: given all, they make the init spec; given only
  some, the missing ones are named in the order temporary password, version, upgrade
  repository, OVA;
* a step's schedule and pause are checked first, then its target; `configure` needs the
  target;
* a scenario refuses a schedule for `readiness` and `two-phase`, then checks the
  schedule, then needs the target. A schedule of zero hours is no schedule.

Schedules are checked against the clock the settings are read at.
-/

namespace ReducedDowntime

/-- The single steps of an upgrade. -/
inductive StepKind where
  | configure
  | precheck
  | apply
  | cancel
  | status
  | monitorUpgrade
  deriving DecidableEq, Repr, Inhabited

namespace StepKind

/-- All steps, in the order of the command line. -/
def all : List StepKind := [.configure, .precheck, .apply, .cancel, .status, .monitorUpgrade]

/-- The name of a step on the command line. -/
def name : StepKind → String
  | .configure => "configure"
  | .precheck => "precheck"
  | .apply => "apply"
  | .cancel => "cancel"
  | .status => "status"
  | .monitorUpgrade => "monitor-upgrade"

/-- The step of a command-line name. -/
def ofName? (s : String) : Option StepKind := all.find? (·.name == s)

end StepKind

/-- What the tool is asked to do. -/
inductive Action where
  | step (kind : StepKind) (init : Option InitSpec) (apply : ApplySpec) (autocancellation : Bool)
  | updatePlugin (repo : String)
  | scenario (kind : ScenarioKind) (request : UpgradeRequest)
  deriving DecidableEq, Repr, Inhabited

/-- The settings of a run of the tool. -/
structure Settings where
  server : String
  username : String
  password : String
  skipVerification : Bool
  yes : Bool
  logLevel : String
  action : Action
  deriving DecidableEq, Repr, Inhabited

/-- The name of a step in diagnostics. -/
def StepKind.diagnostic : StepKind → String
  | .configure => "Configure"
  | .precheck => "Precheck"
  | .apply => "Apply"
  | .cancel => "Cancel"
  | .status => "Status"
  | .monitorUpgrade => "MonitorUpgrade"

/-- An action in diagnostics; its secrets show as `secret`. -/
def Action.diagnostic (secret : String) : Action → String
  | .step kind init apply autocancellation =>
    "Step \x7b step: " ++ kind.diagnostic ++ ", init: " ++
      InitDocument.optionText (InitSpec.diagnostic secret) init ++ ", apply: " ++ apply.diagnostic ++
      ", autocancellation: " ++ InitDocument.flagText autocancellation ++ " \x7d"
  | .updatePlugin repo => "UpdatePlugin \x7b plugin_repo: " ++ Text.quoted repo ++ " \x7d"
  | .scenario kind request =>
    "Scenario \x7b kind: " ++ kind.diagnostic ++ ", request: " ++ request.diagnostic secret ++ " \x7d"

/-- The settings in diagnostics; the password and every other secret show as `secret`. -/
def Settings.diagnostic (secret : String) (s : Settings) : String :=
  "Config \x7b server: " ++ Text.quoted s.server ++ ", username: " ++ Text.quoted s.username ++
    ", password: " ++ secret ++ ", skip_verification: " ++ InitDocument.flagText s.skipVerification ++
    ", yes: " ++ InitDocument.flagText s.yes ++ ", log_level: " ++ Text.quoted s.logLevel ++
    ", action: " ++ s.action.diagnostic secret ++ " \x7d"

/-- What reading a command line gives: a refusal of the grammar, refused settings, or
settings to run with. -/
inductive Reading where
  | refused (r : Cli.Refusal)
  | invalid (e : UpgradeError)
  | ready (s : Settings)
  deriving DecidableEq, Repr, Inhabited

namespace Invocation

open Cli

/-- The four target options, each as its flag and its argument, in the order refusals name
them. -/
def targetOptions : List (String × String) :=
  [("--target-temp-password", "target_temp_password"), ("--target-version", "target_version"),
   ("--target-upgrade-repo", "target_upgrade_repo"), ("--target-ova", "target_ova")]

/-- The target options that were not given, in their fixed order. -/
def missingTargets (f : Found) : List String :=
  targetOptions.filterMap fun (flag, id) => if (f.value? id).isNone then some flag else none

/-- The refusal naming the missing target options. -/
def missingTargetError (f : Found) : UpgradeError :=
  .invalidConfig ("missing required upgrade options: " ++ ", ".intercalate (missingTargets f))

/-- The init spec of the target options: none when none is given, refused when only some
are. -/
def targetSpec (f : Found) : Except UpgradeError (Option InitSpec) :=
  match f.value? "target_temp_password", f.value? "target_version", f.value? "target_ova",
      f.value? "target_upgrade_repo" with
  | some password, some version, some ova, some repo =>
    .ok (some { rootPassword := password, targetVersion := version, targetOva := ova,
                targetUpgradeRepo := repo, autocancellation := f.flag "autocancellation",
                preserveOriginalName := f.flag "preserve_original_name",
                managingServer := Credentials.ofParts (f.value? "uber_vc_hostname")
                  (f.value? "uber_vc_username") (f.value? "uber_vc_password") })
  | _, _, _, _ => if (missingTargets f).length < 4 then .error (missingTargetError f) else .ok none

/-- The schedule in hours, when given. -/
def hours? (f : Found) : Option Nat :=
  (f.value? "start_switchover").bind fun v => (readHours v).toOption

/-- The schedule asked for: zero hours are no schedule. -/
def schedule (f : Found) : Option Nat := (hours? f).filter (· > 0)

/-- The refusal of a schedule for a scenario that does not schedule its switchover. -/
def scheduleRefusal (kind : ScenarioKind) : UpgradeError :=
  .invalidConfig ("--start-switchover does not apply to the " ++ kind.diagnostic ++ " scenario")

/-- The action of a step. -/
def stepAction (kind : StepKind) (f : Found) (clock : Time.Instant) : Logged (Except UpgradeError Action) :=
  let made := ApplySpec.make (hours? f) (f.flag "pause_before_switchover") clock
  ⟨made.lines, do
    let apply ← made.value
    let init ← targetSpec f
    if init.isNone && kind == .configure then throw (missingTargetError f)
    pure (.step kind init apply (f.flag "autocancellation"))⟩

/-- The action of a scenario. -/
def scenarioAction (kind : ScenarioKind) (f : Found) (clock : Time.Instant) :
    Logged (Except UpgradeError Action) :=
  let hours := schedule f
  if hours.isSome && (kind == .readiness || kind == .twoPhase) then
    .pure (.error (scheduleRefusal kind))
  else
    let made := ApplySpec.make hours false clock
    ⟨made.lines, do
      let _ ← made.value
      match ← targetSpec f with
      | some init => pure (.scenario kind { init := init, switchoverInHours := hours })
      | none => throw (missingTargetError f)⟩

/-- The action of the subcommand that was read. -/
def action (sub : Found) (clock : Time.Instant) : Logged (Except UpgradeError Action) :=
  match sub.command with
  | "step" =>
    match (sub.value? "step").bind StepKind.ofName? with
    | some kind => stepAction kind sub clock
    | none => .pure (.error (.invalidConfig "unknown step"))
  | "scenario" =>
    match (sub.value? "kind").bind ScenarioKind.ofName? with
    | some kind => scenarioAction kind sub clock
    | none => .pure (.error (.invalidConfig "unknown scenario"))
  | _ => .pure (.ok (.updatePlugin ((sub.value? "plugin_repo").getD "")))

/-- The settings of the top-level options and an action. -/
def settings (top : Found) (a : Action) : Settings :=
  { server := (top.value? "server").getD ""
    username := (top.value? "username").getD ""
    password := (top.value? "password").getD ""
    skipVerification := top.flag "skip_verification"
    yes := top.flag "yes"
    logLevel := (top.value? "log_level").getD "info"
    action := a }

/-- Reads a command line, with the environment it runs in and the clock schedules are
checked against. -/
def read (env : Environment) (words : List String) (clock : Time.Instant) : Logged Reading :=
  match grammar.read env words with
  | .error r => .pure (.refused r)
  | .ok (top :: sub :: _) =>
    let made := action sub clock
    ⟨made.lines, match made.value with
      | .error e => .invalid e
      | .ok a => .ready (settings top a)⟩
  | .ok _ => .pure (.refused ⟨.missingSubcommand, ""⟩)

end Invocation

end ReducedDowntime
