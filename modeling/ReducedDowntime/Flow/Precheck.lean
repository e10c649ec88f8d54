import ReducedDowntime.Flow.World
import ReducedDowntime.Poll.Budget

/-!
# Pre-checks

The pre-checks of an upgrade run as a task of the lifecycle manager, against an init
document or against the configured upgrade. The task is started once and then polled
within a budget:

1. a task that succeeded gives its result (an empty one when it has none);
2. a failed task gives its result when it has one, and otherwise the error that no
   result was returned;
3. any other state is reported with its progress, and the poller sleeps one delay;
4. when the checks run out, the pre-checks have timed out.

An error of the manager ends the poll at once, unchanged.
-/

namespace ReducedDowntime.Precheck

open ReducedDowntime.Flow

/-- The budget of pre-checks when none is given: ten checks, thirty seconds apart. -/
def defaultBudget : Budget := .new 10 30

/-- What a failed task reports: the default texts of its error messages, one per line. -/
def failureText (t : TaskInfo) : String :=
  match t.error with
  | some e => "\n".intercalate e.defaultMessages
  | none => ""

/-- Polls a task for its result with `left` checks left. -/
def awaitResult (task : String) (b : Budget) : Nat → Flow CheckResult
  | 0 => do
    emit .error .precheck ("The upgrade precheck execution has timed out after " ++
      toString b.totalSeconds ++ " seconds")
    fail (b.timeout "upgrade pre-checks")
  | left + 1 => do
    let t ← Lifecycle.taskInfo task
    match t.status with
    | .succeeded =>
      emit .info .precheck "Task has completed successfully."
      pure (t.result.getD {})
    | .failed =>
      emit .error .precheck ("Task has failed with error: " ++ failureText t)
      match t.result with
      | some r => pure r
      | none =>
        emit .error .precheck
          "No result was returned from the upgrade prechecks. Most probably the checks didn't start."
        fail .precheckNoResult
    | _ =>
      let progress := match t.progress with
        | some p => p.display
        | none => "unknown"
      emit .info .precheck ("The upgrade precheck is still running. Current progress " ++ progress)
      sleep b.delay
      awaitResult task b left

/-- Starts the pre-checks and waits for their result within the budget. -/
def run (spec : Option InitDocument) (b : Budget) : Flow CheckResult := do
  emit .info .precheck "Run the upgrade checks."
  let task ← Lifecycle.startCheck spec
  emit .info .precheck ("Running task with ID " ++ task)
  awaitResult task b b.retries.toNat

end ReducedDowntime.Precheck
