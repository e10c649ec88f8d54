import ReducedDowntime.Flow.World
import ReducedDowntime.Poll.Budget
import ReducedDowntime.Text.Quoted

/-!
# Updating the lifecycle plug-in

Before an upgrade, the appliance updates its lifecycle plug-in from the upgrade
repository:

1. the update policy is set to the repository, without automatic staging, with
   certificate checks and no schedule;
2. the pending updates are listed (a missing list is no update);
3. the first pending update is the target, and its upgradeable components are listed;
4. when the plug-in component `vlcm` is among them, it is staged and installed, and the
   state of the update is polled within a budget until it is up to date.

Each call's error is reported in the context of its step; the errors of the poll are
reported as they are.
-/

namespace ReducedDowntime

/-- What updating the plug-in did. -/
inductive PluginUpdate where
  | noUpdates
  | notApplicable (version : String)
  | installed (version : String)
  deriving DecidableEq, Repr, Inhabited

/-- The diagnostic text of an update: its name and, in braces, its version. -/
def PluginUpdate.diagnostic : PluginUpdate → String
  | .noUpdates => "NoUpdates"
  | .notApplicable v => "NotApplicable \x7b version: " ++ Text.quoted v ++ " \x7d"
  | .installed v => "Installed \x7b version: " ++ Text.quoted v ++ " \x7d"

namespace PluginUpdate

open ReducedDowntime.Flow

/-- The name of the plug-in component. -/
def component : String := "vlcm"

/-- The budget of the update poll when none is given: twenty checks, thirty seconds apart. -/
def defaultBudget : Budget := .new 20 30

/-- The update policy for a repository. -/
def policyFor (repo : String) : UpdatePolicy :=
  { customUrl := repo, autoStage := false, certificateCheck := true, checkSchedule := [] }

/-- Polls the state of the update with `left` checks left. -/
def awaitInstall (b : Budget) : Nat → Flow Unit
  | 0 => do
    emit .error .pluginUpdate ("Update has timed-out after " ++ toString b.totalSeconds ++ " seconds")
    fail (b.timeout "lifecycle plugin update")
  | left + 1 => do
    let s ← Appliance.updateStatus
    match s.state with
    | .upToDate =>
      emit .info .pluginUpdate "Update has completed successfully"
    | .installFailed =>
      emit .error .pluginUpdate "Update has failed"
      fail (.pluginUpdateFailed "appliance reported INSTALL_FAILED")
    | state =>
      if state.inProgress then emit .info .pluginUpdate "Update is in progress"
      sleep b.delay
      awaitInstall b left

/-- The pending updates; a missing list is none. -/
def pendingUpdates : Flow (List UpdateSummary) :=
  tryCatch Appliance.listPending fun f =>
    match f.error? with
    | some (.notFound _) => pure []
    | _ => throw (f.within "Failed to list the pending updates")

/-- Updates the plug-in from a repository. -/
def run (repo : String) (b : Budget) : Flow PluginUpdate := do
  emit .info .pluginUpdate "Update plug-in step 1: Setting the repository needed for the update"
  within "Failed to set the appliance update policy" (Appliance.setPolicy (policyFor repo))
  emit .info .pluginUpdate "Update plug-in step 2: Check if there are any available updates."
  let pending ← pendingUpdates
  match pending with
  | [] =>
    emit .warn .pluginUpdate ("There are no available updates in the passed repository " ++ repo)
    pure .noUpdates
  | target :: _ =>
    let version := target.version
    emit .info .pluginUpdate ("Available updates: " ++ ", ".intercalate (pending.map (·.version)))
    let components ← within "Failed to list the upgradeable components" (Appliance.listComponents version)
    emit .info .pluginUpdate ("Upgradeable components for update version " ++ version ++ ": " ++
      ", ".intercalate (components.map (·.component)))
    if !components.any (·.component == component) then
      emit .info .pluginUpdate (component ++ " is not listed as an upgradeable component.")
      pure (.notApplicable version)
    else
      emit .info .pluginUpdate "Update plug-in step 3: Starting the update of the service."
      within "Failed to start the plugin update" (Appliance.stageAndInstall version component)
      emit .info .pluginUpdate "Update plug-in step 4: Checking the status of the update"
      awaitInstall b b.retries.toNat
      pure (.installed version)

end PluginUpdate

end ReducedDowntime
