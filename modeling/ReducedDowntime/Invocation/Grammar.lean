import ReducedDowntime.Cli.Grammar

/-!
# The command line of the upgrade tool

The tool connects to a server with a user name and password, then runs one of three
commands:

* `step STEP` runs a single step of the upgrade (configure, pre-check, apply, cancel,
  status, or following the upgrade to its end);
* `update-plugin --plugin-repo URL` updates the lifecycle-manager plugin;
* `scenario KIND` runs an end-to-end scenario.

Steps and scenarios take the upgrade's target (temporary root password, version,
upgrade repository and OVA image), its policies, a switchover schedule in hours, and the
credentials of a managing server. The user name, the passwords and the log level may
also come from environment variables.
-/

namespace ReducedDowntime.Invocation

open Cli

/-- The single steps, with what each does. -/
def stepChoices : List Choice :=
  [⟨"configure", some "Configure the init spec used by the upgrade"⟩,
   ⟨"precheck", some "Run the upgrade pre-checks"⟩,
   ⟨"apply", some "Start or resume the upgrade"⟩,
   ⟨"cancel", some "Cancel a running upgrade"⟩,
   ⟨"status", some "Show the upgrade status"⟩,
   ⟨"monitor-upgrade", some "Follow the upgrade until it finishes, fails or is cancelled"⟩]

/-- The scenarios, with what each does. -/
def scenarioChoices : List Choice :=
  [⟨"readiness", some "Pre-check a minimal init spec without upgrading"⟩,
   ⟨"full-upgrade", some "Pre-check, configure, upgrade and monitor"⟩,
   ⟨"uber-upgrade", some "Upgrade an instance managed by another vCenter"⟩,
   ⟨"two-phase", some "Prepare with a pause before switchover, then switch over"⟩,
   ⟨"cancellation", some "Start an upgrade and cancel it"⟩]

/-- An option taking any text, named by its long name. -/
def textOption (id long valueName help : String) : Param :=
  { id := id, long := some long, effect := .value valueName .text, help := some help }

/-- A switch, named by its long name. -/
def switch (id long help : String) : Param :=
  { id := id, long := some long, effect := .switch, help := some help }

/-- The upgrade's target and policies. -/
def targetParams : List Param :=
  [{ textOption "target_temp_password" "target-temp-password" "TARGET_TEMP_PASSWORD"
      "Temporary root password of the deployed target appliance" with
      env := some "RDU_TARGET_TEMP_PASSWORD", showEnvValue := false },
   textOption "target_version" "target-version" "TARGET_VERSION" "Target version in format A.B.C.DDDD",
   textOption "target_upgrade_repo" "target-upgrade-repo" "TARGET_UPGRADE_REPO"
     "URL of the target upgrade repository",
   textOption "target_ova" "target-ova" "TARGET_OVA" "URL of the target appliance OVA",
   switch "autocancellation" "autocancellation" "Cancel automatically if the upgrade fails",
   switch "preserve_original_name" "preserve-original-name" "Keep the original name of the source VM"]

/-- The managing server's credentials. -/
def managingParams : List Param :=
  [textOption "uber_vc_hostname" "uber-vc-hostname" "UBER_VC_HOSTNAME" "Hostname of the managing vCenter",
   textOption "uber_vc_username" "uber-vc-username" "UBER_VC_USERNAME" "Username for the managing vCenter",
   { textOption "uber_vc_password" "uber-vc-password" "UBER_VC_PASSWORD" "Password for the managing vCenter" with
      env := some "UBER_VC_PASSWORD", showEnvValue := false }]

/-- The groups of target and managing-server arguments. -/
def upgradeGroups : List Group :=
  [⟨"target", targetParams.map (·.id)⟩, ⟨"managing", managingParams.map (·.id)⟩]

/-- The switchover schedule, in hours from now. -/
def scheduleParam (help : String) : Param :=
  { id := "start_switchover", long := some "start-switchover", effect := .value "HOURS" .hours,
    help := some help }

/-- `step STEP`. -/
def stepCommand : Command :=
  { name := "step"
    about := some "Run a single upgrade step"
    params :=
      [{ id := "step", positional := true, required := true, effect := .value "STEP" (.choice stepChoices) }] ++
      targetParams ++
      [scheduleParam "Schedule the switchover this many hours from now",
       switch "pause_before_switchover" "pause-before-switchover"
         "Pause the upgrade before it enters the switchover"] ++
      managingParams
    groups := upgradeGroups }

/-- `update-plugin --plugin-repo URL`. -/
def updatePluginCommand : Command :=
  { name := "update-plugin"
    about := some "Update the lifecycle-manager plugin"
    params := [{ textOption "plugin_repo" "plugin-repo" "PLUGIN_REPO" "URL of the lifecycle plugin repository" with
                 required := true }] }

/-- `scenario KIND`. -/
def scenarioCommand : Command :=
  { name := "scenario"
    about := some "Run an end-to-end scenario"
    params :=
      [{ id := "kind", positional := true, required := true, effect := .value "KIND" (.choice scenarioChoices) }] ++
      targetParams ++
      [scheduleParam
        "Schedule the switchover this many hours from now (full-upgrade, uber-upgrade and cancellation only)"] ++
      managingParams
    groups := upgradeGroups }

/-- The version the tool reports. -/
def version : String := "0.1.0 (commit: unknown, build date: unknown)"

/-- The arguments of the connection and of the tool itself. -/
def connectionParams : List Param :=
  [{ textOption "server" "server" "SERVER" "vCenter hostname or IP address" with
      short := some 's', required := true },
   { textOption "username" "username" "USERNAME" "vCenter username" with
      short := some 'u', required := true, env := some "VC_USERNAME" },
   { textOption "password" "password" "PASSWORD" "vCenter password" with
      short := some 'p', required := true, env := some "VC_PASSWORD", showEnvValue := false },
   { switch "skip_verification" "skip-verification" "Skip TLS certificate verification" with short := some 'k' },
   { switch "yes" "yes" "Skip confirmation prompts" with short := some 'y' },
   { textOption "log_level" "log-level" "LOG_LEVEL" "Log level (trace, debug, info, warn, error)" with
      env := some "RDU_LOG_LEVEL", default := some "info" }]

/-- The whole command line of the tool. -/
def grammar : Command :=
  { name := "rdu"
    about := some "vCenter Reduced Downtime Upgrade CLI tool"
    longAbout := some ("vCenter Reduced Downtime Upgrade CLI tool.\n\n" ++
      "Updates the lifecycle-manager plugin, configures and pre-checks the upgrade, " ++
      "starts it and follows it through the switchover.")
    version := some version
    params := connectionParams
    groups := [⟨"connection", connectionParams.map (·.id)⟩]
    subcommands := [stepCommand, updatePluginCommand, scenarioCommand]
    subcommandRequired := true
    helpWhenEmpty := true }

end ReducedDowntime.Invocation
