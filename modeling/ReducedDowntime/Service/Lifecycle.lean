import ReducedDowntime.Service.Script
import ReducedDowntime.Spec.Init
import ReducedDowntime.Spec.Apply

/-!
# The lifecycle manager

The lifecycle manager runs the upgrade: it tells whether an upgrade is initialized,
takes the init document, runs pre-check tasks, applies and cancels the upgrade, and
reports its status. A rehearsed manager answers each endpoint from a script; the
fallbacks are those of an idle manager: not initialized, every command accepted, the
task `task-1` still running, and the upgrade running in state `DEPLOYED`.

Every call is recorded. An apply call also records the wall clock at the moment of the
call, so that the scheduled switchover can be read relative to it.
-/

namespace ReducedDowntime

/-- A call made to the lifecycle manager. -/
inductive LifecycleCall where
  | isInitialized
  | configure (spec : InitDocument)
  | startCheck (spec : Option InitDocument)
  | taskInfo (task : String)
  | apply (doc : ApplyDocument) (clock : Time.Instant)
  | cancel
  | status
  deriving DecidableEq, Repr, Inhabited

namespace LifecycleCall

/-- The short label of a call: the endpoint, with the check and the apply told apart by
whether they carry a document and a pause point. -/
def label : LifecycleCall → String
  | .isInitialized => "is_initialized"
  | .configure _ => "configure"
  | .startCheck (some _) => "check_with_spec"
  | .startCheck none => "check"
  | .taskInfo _ => "task_info"
  | .apply doc _ => if doc.pause.isSome then "apply_paused" else "apply"
  | .cancel => "cancel"
  | .status => "status"

/-- The scheduled switchover of an apply call, in whole seconds after the call. -/
def switchoverIn? : LifecycleCall → Option Int
  | .apply doc clock => doc.switchoverIn? clock
  | _ => none

end LifecycleCall

/-- The pre-check task as an idle manager reports it: running, without a result. -/
def TaskInfo.stillRunning : TaskInfo := { status := .running }

/-- The upgrade as an idle manager reports it: running, in state `DEPLOYED`. -/
def UpgradeStatus.deployedRunning : UpgradeStatus :=
  { status := .running, currentState := some .deployed }

/-- A rehearsed lifecycle manager: one script per endpoint, and an optional limit on the
number of calls it accepts. -/
structure LifecycleService where
  initialized : Script Bool := .constant false
  configure : Script Unit := .constant ()
  startCheck : Script String := .constant "task-1"
  taskInfo : Script TaskInfo := .constant TaskInfo.stillRunning
  apply : Script Unit := .constant ()
  cancel : Script Unit := .constant ()
  status : Script UpgradeStatus := .constant UpgradeStatus.deployedRunning
  callLimit : Option Nat := none

end ReducedDowntime
