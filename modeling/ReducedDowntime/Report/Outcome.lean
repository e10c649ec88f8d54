import ReducedDowntime.Flow.Scenario

/-!
# Announcing outcomes

When a command ends well, its outcome is announced after a blank line: how the monitored
upgrade ended, what the plug-in update did, or how the scenario ended.
-/

namespace ReducedDowntime.Report

/-- The announcement of a monitored upgrade's end. -/
def monitorAnnouncement : MonitorOutcome → String
  | .upgraded => "\nUpgrade completed\n"
  | .canceled => "\nUpgrade canceled\n"
  | .pausedBeforeSwitchover => "\nUpgrade paused before switchover, apply again to continue\n"

/-- The announcement of a plug-in update. -/
def pluginAnnouncement : PluginUpdate → String
  | .installed v => "\n✓ Lifecycle plugin updated from " ++ v ++ "\n"
  | .notApplicable v => "\n- Update " ++ v ++ " does not include the lifecycle plugin\n"
  | .noUpdates => "\n- No plugin updates available\n"

/-- The announcement of a scenario's end. -/
def scenarioAnnouncement : ScenarioOutcome → String
  | .precheckPassed => "\nEnvironment is ready for the upgrade\n"
  | .finished o => monitorAnnouncement o
  | .cancelRetried =>
    "\nCancellation failed and was requested again. Check the status for progress.\n"
  | .upgradeReapplied => "\nUpgrade failed and was applied again. Monitor it to follow the retry.\n"

end ReducedDowntime.Report
