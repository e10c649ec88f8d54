import ReducedDowntime.Flow.World
import ReducedDowntime.Poll.Budget
import ReducedDowntime.Report.Text

/-!
# Monitoring an upgrade

The monitor polls the status of an applied upgrade until it reaches an end, within a
budget of rounds.

* **Fetching.** A status is fetched with a budget of reconnect attempts: a connection
  error is reported and retried after the reconnect delay (the network may be moving to
  the new appliance), any other error ends the monitor at once, and when the attempts run
  out the status could not be fetched.
* **Reading.** An upgraded or cancelled upgrade, or one paused before the switchover,
  ends the monitor with that outcome. A failed upgrade whose desired state is `CANCELED`
  is a failed cancellation; under automatic cancellation any other failure is waited
  out for one more delay, and without it the upgrade has failed. Any other phase is
  reported and waited out.
* **Schedule.** When the switchover is scheduled beyond the budget, the budget is
  extended by one round per whole delay until the switchover.

When the rounds run out, the monitor has timed out.
-/

namespace ReducedDowntime

/-- The budgets of a monitor: rounds of status checks, and reconnect attempts per check. -/
structure MonitorSettings where
  budget : Budget := .new 120 120
  reconnect : Budget := .new 9 10
  deriving DecidableEq, Repr, Inhabited

/-- How a monitored upgrade ends. -/
inductive MonitorOutcome where
  | upgraded
  | canceled
  | pausedBeforeSwitchover
  deriving DecidableEq, Repr, Inhabited

/-- The name of an outcome. -/
def MonitorOutcome.name : MonitorOutcome → String
  | .upgraded => "Upgraded"
  | .canceled => "Canceled"
  | .pausedBeforeSwitchover => "PausedBeforeSwitchover"

namespace Monitor

open ReducedDowntime.Flow

/-- Fetches the status with reconnect attempts `attempt`, `attempt + 1`, … while `left`
attempts remain. -/
def fetchFrom (reconnect : Budget) (attempt : Nat) : Nat → Flow UpgradeStatus
  | 0 => fail (.connectivity "upgrade status" reconnect.retries.toNat)
  | left + 1 => do
    let answer ← tryCatch (Sum.inr <$> Lifecycle.status) (fun f => pure (Sum.inl f))
    match answer with
    | .inr s => pure s
    | .inl f =>
      match f.error? with
      | some e =>
        if e.isConnection then
          emit .info .monitor ("A connection error has occurred while fetching the upgrade status (attempt " ++
            toString attempt ++ "/" ++ toString reconnect.retries.toNat ++
            "). This could be due to the network switchover. Waiting " ++ toString reconnect.delay.secs.toNat ++
            " seconds to see if it is resolved.")
          sleep reconnect.delay
          fetchFrom reconnect (attempt + 1) left
        else throw f
      | none => throw f

/-- Fetches the status within the reconnect budget. -/
def fetchStatus (reconnect : Budget) : Flow UpgradeStatus :=
  fetchFrom reconnect 1 reconnect.retries.toNat

/-- Reports the notifications of a status. -/
def reportNotifications (s : UpgradeStatus) : Flow Unit :=
  emit .info .monitor ("More information could be found in the notifications \n" ++
    Report.notificationsText s.notifications 0)

/-- Polls for an end with `left` rounds left. -/
def watch (settings : MonitorSettings) (budget : Budget) (autocancel : Bool) :
    Nat → Flow MonitorOutcome
  | 0 => do
    emit .error .monitor ("Upgrade has timed-out after " ++ toString budget.totalSeconds ++ " seconds")
    fail (budget.timeout "upgrade")
  | left + 1 => do
    let s ← fetchStatus settings.reconnect
    match s.phase with
    | .upgraded =>
      emit .info .monitor "Upgrade has completed successfully."
      pure .upgraded
    | .canceled =>
      emit .info .monitor
        "Upgrade has been successfully cancelled. You can check the error field from the status to see what failed during the upgrade."
      emit .error .monitor ("Upgrade error that caused cancellation: " ++ Report.messageLines s.errorMessages 0)
      reportNotifications s
      pure .canceled
    | .pausedBeforeSwitchover =>
      emit .info .monitor "Upgrade is prepared and paused before the switchover."
      pure .pausedBeforeSwitchover
    | .failed =>
      let messages := Report.messageLines s.errorMessages 0
      if s.desiredState == some .canceled then
        emit .error .monitor ("Cancellation has failed due to error: " ++ messages)
        fail (.cancellationFailed messages)
      else if autocancel then
        emit .error .monitor "Upgrade has failed and autocancellation is being triggered."
        sleep budget.delay
        watch settings budget autocancel left
      else
        emit .error .monitor ("Upgrade has failed due to error " ++ messages)
        reportNotifications s
        fail (.upgradeFailed messages)
    | phase =>
      let state := match s.currentState with
        | some st => st.name
        | none => "None"
      emit .info .monitor ("Current upgrade state is " ++ state ++ " (" ++ phase.describe ++ ")")
      sleep budget.delay
      watch settings budget autocancel left

/-- The budget for an apply document: extended to the scheduled switchover, if any. -/
def budgetFor (settings : MonitorSettings) (apply : ApplyDocument) : Flow Budget := do
  match apply.startSwitchover with
  | none => pure settings.budget
  | some start =>
    let now ← readClock
    match settings.budget.extendUntil start now with
    | .error o => halt o.message
    | .ok extended =>
      if extended != settings.budget then
        emit .info .monitor ("Switchover is scheduled at " ++ start.rfc3339 false ++
          ", extending the monitor to " ++ toString extended.retries.toNat ++ " checks")
      pure extended

/-- Monitors an applied upgrade until it ends. -/
def run (settings : MonitorSettings) (autocancel : Bool) (apply : ApplyDocument) :
    Flow MonitorOutcome := do
  let budget ← budgetFor settings apply
  watch settings budget autocancel budget.retries.toNat

end Monitor

end ReducedDowntime
