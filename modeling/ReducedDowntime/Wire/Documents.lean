import ReducedDowntime.Time.Instant

/-!
# Documents of the upgrade services

The lifecycle manager reports the state of an upgrade and of its pre-check tasks; the
appliance reports its pending updates and the state of an update. These are the
documents, as plain data.

## The phase of an upgrade

A status document names an operation status (`RUNNING`, `FAILED`, …), the current and
desired states of the upgrade and, in the upgrade information, an optional pause policy.
Its *phase* condenses them, the current state first:

* current state `UPGRADED` or `CANCELED` gives that phase whatever the status is;
* current state `PREPARED` with the pause policy `BEFORE_SWITCHOVER` is paused;
* otherwise a `FAILED` status is failed, `PENDING` is not initialized, and anything else
  is running.

Every name outside the known ones reads as `UNKNOWN`.
-/

namespace ReducedDowntime

/-- A message of the service: an identifier, its default text, and arguments. -/
structure Message where
  id : Option String := none
  defaultMessage : String := ""
  args : List String := []
  deriving DecidableEq, Repr, Inhabited

/-- The error part of a task or an upgrade: a list of messages. -/
structure ErrorInfo where
  messages : List Message := []
  deriving DecidableEq, Repr, Inhabited

/-- The default texts of the messages, in the order of the service. -/
def ErrorInfo.defaultMessages (e : ErrorInfo) : List String :=
  e.messages.map (·.defaultMessage)

/-- A notification: a message with an optional suggested resolution. -/
structure Notification where
  id : Option String := none
  time : Option Time.Instant := none
  message : Message
  resolution : Option Message := none
  deriving DecidableEq, Repr, Inhabited

/-- Notifications grouped by severity. -/
structure Notifications where
  errors : List Notification := []
  warnings : List Notification := []
  info : List Notification := []
  deriving DecidableEq, Repr, Inhabited

/-- Whether there is a notification of severity error. -/
def Notifications.hasErrors (n : Notifications) : Bool := !n.errors.isEmpty

/-- Whether there is no notification at all. -/
def Notifications.isEmpty (n : Notifications) : Bool :=
  n.errors.isEmpty && n.warnings.isEmpty && n.info.isEmpty

/-- Progress counters. -/
structure Progress where
  total : Int := 0
  completed : Int := 0
  message : Option Message := none
  deriving DecidableEq, Repr, Inhabited

/-- `completed/total`, and the message's text in parentheses when there is one. -/
def Progress.display (p : Progress) : String :=
  toString p.completed ++ "/" ++ toString p.total ++
    match p.message with
    | some m => " (" ++ m.defaultMessage ++ ")"
    | none => ""

/-- The status of an operation: a task or the upgrade itself. -/
inductive OperationStatus where
  | pending
  | running
  | blocked
  | succeeded
  | failed
  | canceled
  | unknown
  deriving DecidableEq, Repr, Inhabited

/-- The names of operation statuses, in the order of the constructors. -/
def OperationStatus.name : OperationStatus → String
  | .pending => "PENDING"
  | .running => "RUNNING"
  | .blocked => "BLOCKED"
  | .succeeded => "SUCCEEDED"
  | .failed => "FAILED"
  | .canceled => "CANCELED"
  | .unknown => "UNKNOWN"

/-- All operation statuses. -/
def OperationStatus.all : List OperationStatus :=
  [.pending, .running, .blocked, .succeeded, .failed, .canceled, .unknown]

/-- The state of the upgrade. -/
inductive UpgradeState where
  | initialized
  | deployed
  | prepared
  | switchover
  | upgraded
  | canceled
  | unknown
  deriving DecidableEq, Repr, Inhabited

/-- The names of upgrade states. -/
def UpgradeState.name : UpgradeState → String
  | .initialized => "INITIALIZED"
  | .deployed => "DEPLOYED"
  | .prepared => "PREPARED"
  | .switchover => "SWITCHOVER"
  | .upgraded => "UPGRADED"
  | .canceled => "CANCELED"
  | .unknown => "UNKNOWN"

/-- All upgrade states. -/
def UpgradeState.all : List UpgradeState :=
  [.initialized, .deployed, .prepared, .switchover, .upgraded, .canceled, .unknown]

/-- Where the upgrade should stop. -/
inductive PausePolicy where
  | beforeSwitchover
  | unknown
  deriving DecidableEq, Repr, Inhabited

/-- The names of pause policies. -/
def PausePolicy.name : PausePolicy → String
  | .beforeSwitchover => "BEFORE_SWITCHOVER"
  | .unknown => "UNKNOWN"

/-- All pause policies. -/
def PausePolicy.all : List PausePolicy := [.beforeSwitchover, .unknown]

/-- What the service tells about the configured upgrade. -/
structure UpgradeInfo where
  upgradeTo : Option String := none
  pause : Option PausePolicy := none
  startSwitchover : Option Time.Instant := none
  remainingReplicationData : Option Int := none
  error : Option ErrorInfo := none
  deriving DecidableEq, Repr, Inhabited

/-- The status of the upgrade. -/
structure UpgradeStatus where
  status : OperationStatus
  currentState : Option UpgradeState := none
  desiredState : Option UpgradeState := none
  upgradeInfo : UpgradeInfo := {}
  progress : Option Progress := none
  notifications : Option Notifications := none
  error : Option ErrorInfo := none
  deriving DecidableEq, Repr, Inhabited

/-- The phase of an upgrade, as a monitor sees it. -/
inductive Phase where
  | notInitialized
  | running
  | pausedBeforeSwitchover
  | upgraded
  | canceled
  | failed
  deriving DecidableEq, Repr, Inhabited

/-- The words for a phase. -/
def Phase.describe : Phase → String
  | .notInitialized => "not initialized"
  | .running => "running"
  | .pausedBeforeSwitchover => "paused before switchover"
  | .upgraded => "upgraded"
  | .canceled => "canceled"
  | .failed => "failed"

/-- The phase of a status document: the current state first, then the operation status. -/
def UpgradeStatus.phase (s : UpgradeStatus) : Phase :=
  match s.currentState with
  | some .upgraded => .upgraded
  | some .canceled => .canceled
  | some .prepared =>
    if s.upgradeInfo.pause == some .beforeSwitchover then .pausedBeforeSwitchover
    else match s.status with
      | .failed => .failed
      | .pending => .notInitialized
      | _ => .running
  | _ =>
    match s.status with
    | .failed => .failed
    | .pending => .notInitialized
    | _ => .running

/-- The default texts of the status's error messages, none without an error part. -/
def UpgradeStatus.errorMessages (s : UpgradeStatus) : List String :=
  match s.error with
  | some e => e.defaultMessages
  | none => []

/-- The result of a pre-check task. -/
structure CheckResult where
  notifications : Notifications := {}
  deriving DecidableEq, Repr, Inhabited

/-- The state of a task of the service. -/
structure TaskInfo where
  status : OperationStatus
  progress : Option Progress := none
  error : Option ErrorInfo := none
  result : Option CheckResult := none
  deriving DecidableEq, Repr, Inhabited

/-- An update the appliance can install. -/
structure UpdateSummary where
  version : String
  name : Option String := none
  deriving DecidableEq, Repr, Inhabited

/-- A component an update can upgrade. -/
structure UpgradeableComponent where
  component : String
  deriving DecidableEq, Repr, Inhabited

/-- The state of the appliance's update. -/
inductive UpdateState where
  | upToDate
  | updatesPending
  | stageInProgress
  | installInProgress
  | installFailed
  | rollbackInProgress
  | unknown
  deriving DecidableEq, Repr, Inhabited

/-- The names of update states. -/
def UpdateState.name : UpdateState → String
  | .upToDate => "UP_TO_DATE"
  | .updatesPending => "UPDATES_PENDING"
  | .stageInProgress => "STAGE_IN_PROGRESS"
  | .installInProgress => "INSTALL_IN_PROGRESS"
  | .installFailed => "INSTALL_FAILED"
  | .rollbackInProgress => "ROLLBACK_IN_PROGRESS"
  | .unknown => "UNKNOWN"

/-- All update states. -/
def UpdateState.all : List UpdateState :=
  [.upToDate, .updatesPending, .stageInProgress, .installInProgress, .installFailed,
    .rollbackInProgress, .unknown]

/-- Whether an update is being staged or installed. -/
def UpdateState.inProgress : UpdateState → Bool
  | .stageInProgress | .installInProgress => true
  | _ => false

/-- The appliance's report on its update. -/
structure UpdateStatus where
  state : UpdateState
  deriving DecidableEq, Repr, Inhabited

end ReducedDowntime
