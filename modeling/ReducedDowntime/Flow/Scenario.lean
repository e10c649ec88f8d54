import ReducedDowntime.Flow.Session
import ReducedDowntime.Flow.PluginUpdate
import ReducedDowntime.Report.Table

/-!
# Scenarios

A scenario is a whole upgrade procedure, printed as numbered steps. Every scenario first
updates the lifecycle plug-in of the appliance from the upgrade repository.

* **Readiness** runs the pre-checks against the init document, with automatic
  cancellation, name preservation and the managing server left out.
* **Full upgrade** pre-checks the document, configures the upgrade, pre-checks the
  configured upgrade, applies it and monitors it.
* **Upgrade of a managed server** needs the managing server; it configures, applies and
  monitors.
* **Two phases** configure the upgrade and apply it with a pause before the switchover;
  once the monitor sees the pause, the upgrade is applied straight through and
  monitored again.
* **Cancellation** configures, pre-checks the configured upgrade, applies it, lets it
  run for a while, cancels it and monitors the cancellation.

Pre-checks with an error notification stop the scenario. Before applying, the user is
asked to confirm unless the settings assume yes. The final monitor recovers once: a
failed cancellation is cancelled again, and a failed upgrade (except in the cancellation
scenario) is applied again with the same document.
-/

namespace ReducedDowntime

/-- The five scenarios. -/
inductive ScenarioKind where
  | readiness
  | fullUpgrade
  | uberUpgrade
  | twoPhase
  | cancellation
  deriving DecidableEq, Repr, Inhabited

namespace ScenarioKind

/-- All scenarios, in the order of the command line. -/
def all : List ScenarioKind := [.readiness, .fullUpgrade, .uberUpgrade, .twoPhase, .cancellation]

/-- The name of a scenario on the command line. -/
def name : ScenarioKind → String
  | .readiness => "readiness"
  | .fullUpgrade => "full-upgrade"
  | .uberUpgrade => "uber-upgrade"
  | .twoPhase => "two-phase"
  | .cancellation => "cancellation"

/-- The name of a scenario in diagnostics. -/
def diagnostic : ScenarioKind → String
  | .readiness => "Readiness"
  | .fullUpgrade => "FullUpgrade"
  | .uberUpgrade => "UberUpgrade"
  | .twoPhase => "TwoPhase"
  | .cancellation => "Cancellation"

/-- The scenario of a command-line name. -/
def ofName? (s : String) : Option ScenarioKind := all.find? (·.name == s)

end ScenarioKind

/-- How a scenario ends. -/
inductive ScenarioOutcome where
  | precheckPassed
  | finished (o : MonitorOutcome)
  | cancelRetried
  | upgradeReapplied
  deriving DecidableEq, Repr, Inhabited

/-- The diagnostic text of an outcome. -/
def ScenarioOutcome.diagnostic : ScenarioOutcome → String
  | .precheckPassed => "PrecheckPassed"
  | .finished o => "Finished(" ++ o.name ++ ")"
  | .cancelRetried => "CancelRetried"
  | .upgradeReapplied => "UpgradeReapplied"

/-- The budgets and choices of a scenario run. -/
structure ScenarioSettings where
  pluginBudget : Budget := PluginUpdate.defaultBudget
  precheckBudget : Budget := Precheck.defaultBudget
  monitor : MonitorSettings := {}
  cancellationMonitor : MonitorSettings := { budget := .new 120 30 }
  /-- How long the upgrade runs before the cancellation scenario cancels it. -/
  cancelAfter : Time.Duration := .ofSecs 120
  assumeYes : Bool := false
  deriving DecidableEq, Repr, Inhabited

/-- What the user asks a scenario to do. -/
structure UpgradeRequest where
  init : InitSpec
  switchoverInHours : Option Nat := none
  deriving DecidableEq, Repr, Inhabited

/-- A request in diagnostics; its secrets show as `secret`. -/
def UpgradeRequest.diagnostic (secret : String) (r : UpgradeRequest) : String :=
  "UpgradeRequest \x7b init: " ++ r.init.diagnostic secret ++ ", switchover_in_hours: " ++
    InitDocument.optionText toString r.switchoverInHours ++ " \x7d"

namespace Scenario

open ReducedDowntime.Flow

/-- Prints the header of a step. A step past the last one halts after the blank line. -/
def step (index : Nat) (steps : List String) : Flow Unit :=
  match Report.stepHeader index steps with
  | some text => print text
  | none => do
    print "\n"
    halt ("index out of bounds: the len is " ++ toString steps.length ++ " but the index is " ++
      toString index)

/-- Prints the notifications of a pre-check result and refuses one with errors. -/
def ensurePassed (r : CheckResult) : Flow Unit := do
  print (Report.notificationsTable r.notifications)
  if r.notifications.hasErrors then
    emit .error .scenario
      ("Provided init spec didn't pass the prechecks. Check the prechecks result for problems and try again:\n" ++
        Report.notificationsText (some r.notifications) 1)
    fail (.precheckFailed ("; ".intercalate (r.notifications.errors.map (·.message.defaultMessage))))

/-- What an answer to the confirmation prompt does: yes lets the run go on, no cancels it,
and an error of the terminal stops it with that error. -/
def confirmation : PromptAnswer → Except Failure Unit
  | .yes => .ok ()
  | .no => .error (Failure.ofError .userCancelled)
  | .failed text => .error ⟨[], .terminal text⟩

/-- Asks the user to confirm the apply, unless the settings assume yes. -/
def confirmApply (settings : ScenarioSettings) : Flow Unit := do
  if !settings.assumeYes then
    print "This will start the upgrade of the vCenter appliance.\n"
    let answer ← prompt
    MonadExcept.ofExcept (confirmation answer)

/-- Updates the lifecycle plug-in from the request's repository. -/
def updatePlugin (settings : ScenarioSettings) (request : UpgradeRequest) : Flow Unit := do
  let outcome ← PluginUpdate.run request.init.targetUpgradeRepo settings.pluginBudget
  emit .info .scenario ("Lifecycle plugin update: " ++ outcome.diagnostic)

/-- Monitors the upgrade and recovers once from a failed cancellation, and, when asked,
from a failed upgrade. -/
def monitorWithRecovery (s : Session) (autocancel : Bool) (doc : ApplyDocument)
    (reapply : Bool) : Flow ScenarioOutcome :=
  tryCatch (ScenarioOutcome.finished <$> s.monitor autocancel doc) fun f =>
    match f.error? with
    | some (.cancellationFailed _) => do
      emit .error .scenario "Cancellation has failed. Retrying the cancel operation again."
      Session.cancel
      pure .cancelRetried
    | some (.upgradeFailed _) =>
      if reapply then do
        emit .error .scenario "Upgrade has failed. Fix the problems and retry."
        emit .info .scenario "Retrying the upgrade with the same apply spec."
        Session.applyDocument doc
        pure .upgradeReapplied
      else throw f
    | _ => throw f

/-- The session of a scenario, monitoring with the given settings. -/
def session (settings : ScenarioSettings) (monitor : MonitorSettings) : Session :=
  { precheckBudget := settings.precheckBudget, monitoring := monitor }

/-- Whether the environment is ready: the plug-in is updated and the pre-checks pass. -/
def readiness (settings : ScenarioSettings) (request : UpgradeRequest) : Flow ScenarioOutcome := do
  let steps := ["Update lifecycle manager plug-in", "Create init spec",
    "Run pre-checks against the init spec"]
  let s := session settings settings.monitor
  step 0 steps
  updatePlugin settings request
  step 1 steps
  let init := { request.init with
    autocancellation := false, preserveOriginalName := false, managingServer := none }
  emit .info .scenario
    "Init spec can be further customized than what is shown here. For details check the API documentation."
  step 2 steps
  ensurePassed (← s.precheck (some init))
  pure .precheckPassed

/-- The whole upgrade, pre-checked twice. -/
def fullUpgrade (settings : ScenarioSettings) (request : UpgradeRequest) : Flow ScenarioOutcome := do
  let steps := ["Update lifecycle manager plug-in", "Run pre-checks against the init spec",
    "Configure the upgrade", "Run pre-checks against the configured upgrade", "Run the upgrade",
    "Monitor the upgrade"]
  let s := session settings settings.monitor
  let init := { request.init with managingServer := none }
  let spec ← Session.applySpec request.switchoverInHours false
  step 0 steps
  updatePlugin settings request
  step 1 steps
  ensurePassed (← s.precheck (some init))
  step 2 steps
  Session.configure init
  step 3 steps
  ensurePassed (← s.precheck none)
  step 4 steps
  confirmApply settings
  let doc ← Session.apply spec
  step 5 steps
  monitorWithRecovery s init.autocancellation doc true

/-- The upgrade of a server managed by another one. -/
def uberUpgrade (settings : ScenarioSettings) (request : UpgradeRequest) : Flow ScenarioOutcome := do
  let steps := ["Update lifecycle manager plug-in", "Configure the upgrade", "Run the upgrade",
    "Monitor the upgrade"]
  if request.init.managingServer.isNone then
    fail (.invalidConfig
      "uber-upgrade requires --uber-vc-hostname, --uber-vc-username and --uber-vc-password")
  let s := session settings settings.monitor
  let spec ← Session.applySpec request.switchoverInHours false
  step 0 steps
  updatePlugin settings request
  step 1 steps
  Session.configure request.init
  step 2 steps
  confirmApply settings
  let doc ← Session.apply spec
  step 3 steps
  monitorWithRecovery s request.init.autocancellation doc true

/-- The upgrade in two phases: the preparation up to the pause, then the switchover. -/
def twoPhase (settings : ScenarioSettings) (request : UpgradeRequest) : Flow ScenarioOutcome := do
  let steps := ["Update lifecycle manager plug-in", "Configure the upgrade", "Run the preparation",
    "Monitor the upgrade until it pauses before switchover", "Run the switchover",
    "Monitor the upgrade"]
  let s := session settings settings.monitor
  let init := { request.init with managingServer := none }
  step 0 steps
  updatePlugin settings request
  step 1 steps
  Session.configure init
  step 2 steps
  confirmApply settings
  let prepare ← Session.apply ApplySpec.pauseFirst
  step 3 steps
  match ← s.monitor init.autocancellation prepare with
  | .pausedBeforeSwitchover =>
    step 4 steps
    let switchover ← Session.apply ApplySpec.runThrough
    step 5 steps
    monitorWithRecovery s init.autocancellation switchover true
  | outcome =>
    emit .info .scenario ("Upgrade did not stop at the pause point (" ++ outcome.name ++ ").")
    pure (.finished outcome)

/-- An upgrade that is started and then cancelled. -/
def cancellation (settings : ScenarioSettings) (request : UpgradeRequest) : Flow ScenarioOutcome := do
  let steps := ["Update lifecycle manager plug-in", "Configure the upgrade", "Run pre-checks",
    "Run the upgrade", "Cancel the upgrade", "Monitor the upgrade cancellation"]
  let s := session settings settings.cancellationMonitor
  let init := { request.init with managingServer := none }
  let spec ← Session.applySpec request.switchoverInHours false
  step 0 steps
  updatePlugin settings request
  step 1 steps
  Session.configure init
  step 2 steps
  ensurePassed (← s.precheck none)
  step 3 steps
  confirmApply settings
  let doc ← Session.apply spec
  sleep settings.cancelAfter
  step 4 steps
  Session.cancel
  step 5 steps
  monitorWithRecovery s init.autocancellation doc false

/-- Runs a scenario. -/
def run (settings : ScenarioSettings) (kind : ScenarioKind) (request : UpgradeRequest) :
    Flow ScenarioOutcome := do
  emit .info .scenario ("Running scenario " ++ kind.diagnostic)
  match kind with
  | .readiness => readiness settings request
  | .fullUpgrade => fullUpgrade settings request
  | .uberUpgrade => uberUpgrade settings request
  | .twoPhase => twoPhase settings request
  | .cancellation => cancellation settings request

end Scenario

end ReducedDowntime
