import ReducedDowntime.Json.Codec
import ReducedDowntime.Wire.Documents

/-!
# The documents as JSON

Each document has a codec (its keys, what a missing key means, the names of its
enumerations), a reading of the decoded tree into the document, and a writing back into
JSON.

Written documents leave out absent optional members and an empty list of message
arguments; every other member is written, in declaration order. Instants are written in
UTC with `Z`.
-/

namespace ReducedDowntime

open Json

namespace Json.Decoded

/-- The `i`-th field of a decoded record. -/
def field (d : Decoded) (i : Nat) : Decoded :=
  match d with
  | .record fs => fs.getD i .absent
  | _ => .absent

/-- A decoded string. -/
def asText : Decoded → String
  | .text s => s
  | _ => ""

/-- A decoded integer. -/
def asInt : Decoded → Int
  | .int i => i
  | _ => 0

/-- A decoded boolean. -/
def asFlag : Decoded → Bool
  | .flag b => b
  | _ => false

/-- A decoded list. -/
def asList : Decoded → List Decoded
  | .list xs => xs
  | _ => []

/-- A decoded optional value, read by `f` when present. -/
def asOption {α : Type} (f : Decoded → α) : Decoded → Option α
  | .absent => none
  | d => some (f d)

/-- A decoded instant. -/
def asInstant : Decoded → Time.Instant
  | .time t => t
  | _ => ⟨0, 0⟩

end Json.Decoded

/-- A field that may be missing or `null`. -/
def optionalField (key : String) (c : Codec) : Field := ⟨key, Codec.optional c, .default .absent⟩

/-- A field that must be present. -/
def requiredField (key : String) (c : Codec) : Field := ⟨key, c, .required⟩

/-- A field that takes a default when missing. -/
def defaultField (key : String) (c : Codec) (d : Decoded) : Field := ⟨key, c, .default d⟩

/-- A member of a written object, left out when absent. -/
def member? {α : Type} (key : String) (f : α → Json) : Option α → List (String × Json)
  | some a => [(key, f a)]
  | none => []

/-- An instant as written in documents. -/
def instantJson (t : Time.Instant) : Json := .str (t.rfc3339 true)

/-! ## Messages -/

/-- The codec of messages. -/
def Message.codec : Codec :=
  Codec.record "LocalizableMessage"
    [optionalField "id" Codec.string,
     defaultField "default_message" Codec.string (.text ""),
     defaultField "args" (Codec.list Codec.string) (.list [])]

/-- Reads a decoded message. -/
def Message.ofDecoded (d : Decoded) : Message :=
  { id := (d.field 0).asOption Decoded.asText
    defaultMessage := (d.field 1).asText
    args := (d.field 2).asList.map Decoded.asText }

/-- A message as JSON; arguments only when there are some. -/
def Message.toJson (m : Message) : Json :=
  .obj (member? "id" Json.str m.id ++ [("default_message", .str m.defaultMessage)] ++
    (if m.args.isEmpty then [] else [("args", .arr (m.args.map Json.str))]))

/-- The codec of error parts. -/
def ErrorInfo.codec : Codec :=
  Codec.record "ErrorInfo" [defaultField "messages" (Codec.list Message.codec) (.list [])]

/-- Reads a decoded error part. -/
def ErrorInfo.ofDecoded (d : Decoded) : ErrorInfo :=
  { messages := (d.field 0).asList.map Message.ofDecoded }

/-- An error part as JSON. -/
def ErrorInfo.toJson (e : ErrorInfo) : Json :=
  .obj [("messages", .arr (e.messages.map Message.toJson))]

/-! ## Notifications and progress -/

/-- The codec of notifications. -/
def Notification.codec : Codec :=
  Codec.record "Notification"
    [optionalField "id" Codec.string,
     optionalField "time" Codec.instant,
     requiredField "message" Message.codec,
     optionalField "resolution" Message.codec]

/-- Reads a decoded notification. -/
def Notification.ofDecoded (d : Decoded) : Notification :=
  { id := (d.field 0).asOption Decoded.asText
    time := (d.field 1).asOption Decoded.asInstant
    message := Message.ofDecoded (d.field 2)
    resolution := (d.field 3).asOption Message.ofDecoded }

/-- A notification as JSON. -/
def Notification.toJson (n : Notification) : Json :=
  .obj (member? "id" Json.str n.id ++ member? "time" instantJson n.time ++
    [("message", n.message.toJson)] ++ member? "resolution" Message.toJson n.resolution)

/-- Notifications decoded as nothing. -/
def Notifications.emptyDecoded : Decoded := .record [.list [], .list [], .list []]

/-- The codec of grouped notifications. -/
def Notifications.codec : Codec :=
  Codec.record "Notifications"
    [defaultField "errors" (Codec.list Notification.codec) (.list []),
     defaultField "warnings" (Codec.list Notification.codec) (.list []),
     defaultField "info" (Codec.list Notification.codec) (.list [])]

/-- Reads decoded notifications. -/
def Notifications.ofDecoded (d : Decoded) : Notifications :=
  { errors := (d.field 0).asList.map Notification.ofDecoded
    warnings := (d.field 1).asList.map Notification.ofDecoded
    info := (d.field 2).asList.map Notification.ofDecoded }

/-- Grouped notifications as JSON. -/
def Notifications.toJson (n : Notifications) : Json :=
  .obj [("errors", .arr (n.errors.map Notification.toJson)),
    ("warnings", .arr (n.warnings.map Notification.toJson)),
    ("info", .arr (n.info.map Notification.toJson))]

/-- The codec of progress counters. -/
def Progress.codec : Codec :=
  Codec.record "Progress"
    [defaultField "total" Codec.int64 (.int 0),
     defaultField "completed" Codec.int64 (.int 0),
     optionalField "message" Message.codec]

/-- Reads decoded progress counters. -/
def Progress.ofDecoded (d : Decoded) : Progress :=
  { total := (d.field 0).asInt
    completed := (d.field 1).asInt
    message := (d.field 2).asOption Message.ofDecoded }

/-- Progress counters as JSON. -/
def Progress.toJson (p : Progress) : Json :=
  .obj ([("total", Json.int p.total), ("completed", Json.int p.completed)] ++
    member? "message" Message.toJson p.message)

/-! ## Enumerations -/

/-- The codec of operation statuses. -/
def OperationStatus.codec : Codec :=
  Codec.oneOf "OperationStatus" (OperationStatus.all.map OperationStatus.name)

/-- The operation status of a name, `unknown` for any other. -/
def OperationStatus.ofName (s : String) : OperationStatus :=
  (OperationStatus.all.find? (·.name == s)).getD .unknown

/-- The codec of upgrade states. -/
def UpgradeState.codec : Codec :=
  Codec.oneOf "UpgradeState" (UpgradeState.all.map UpgradeState.name)

/-- The upgrade state of a name, `unknown` for any other. -/
def UpgradeState.ofName (s : String) : UpgradeState :=
  (UpgradeState.all.find? (·.name == s)).getD .unknown

/-- The codec of pause policies. -/
def PausePolicy.codec : Codec :=
  Codec.oneOf "PausePolicy" (PausePolicy.all.map PausePolicy.name)

/-- The pause policy of a name, `unknown` for any other. -/
def PausePolicy.ofName (s : String) : PausePolicy :=
  (PausePolicy.all.find? (·.name == s)).getD .unknown

/-- The codec of update states. -/
def UpdateState.codec : Codec :=
  Codec.oneOf "ApplianceUpdateState" (UpdateState.all.map UpdateState.name)

/-- The update state of a name, `unknown` for any other. -/
def UpdateState.ofName (s : String) : UpdateState :=
  (UpdateState.all.find? (·.name == s)).getD .unknown

/-! ## The upgrade status -/

/-- The upgrade information decoded from nothing. -/
def UpgradeInfo.emptyDecoded : Decoded := .record [.absent, .absent, .absent, .absent, .absent]

/-- The codec of upgrade information. -/
def UpgradeInfo.codec : Codec :=
  Codec.record "UpgradeInfo"
    [optionalField "upgrade_to" Codec.string,
     optionalField "pause" PausePolicy.codec,
     optionalField "start_switchover" Codec.instant,
     optionalField "remaining_replication_data" Codec.int64,
     optionalField "error" ErrorInfo.codec]

/-- Reads decoded upgrade information. -/
def UpgradeInfo.ofDecoded (d : Decoded) : UpgradeInfo :=
  { upgradeTo := (d.field 0).asOption Decoded.asText
    pause := (d.field 1).asOption (PausePolicy.ofName ∘ Decoded.asText)
    startSwitchover := (d.field 2).asOption Decoded.asInstant
    remainingReplicationData := (d.field 3).asOption Decoded.asInt
    error := (d.field 4).asOption ErrorInfo.ofDecoded }

/-- Upgrade information as JSON. -/
def UpgradeInfo.toJson (u : UpgradeInfo) : Json :=
  .obj (member? "upgrade_to" Json.str u.upgradeTo ++
    member? "pause" (fun p => Json.str p.name) u.pause ++
    member? "start_switchover" instantJson u.startSwitchover ++
    member? "remaining_replication_data" Json.int u.remainingReplicationData ++
    member? "error" ErrorInfo.toJson u.error)

/-- The codec of upgrade statuses. -/
def UpgradeStatus.codec : Codec :=
  Codec.record "UpgradeStatus"
    [requiredField "status" OperationStatus.codec,
     optionalField "current_state" UpgradeState.codec,
     optionalField "desired_state" UpgradeState.codec,
     defaultField "upgrade_info" UpgradeInfo.codec UpgradeInfo.emptyDecoded,
     optionalField "progress" Progress.codec,
     optionalField "notifications" Notifications.codec,
     optionalField "error" ErrorInfo.codec]

/-- Reads a decoded upgrade status. -/
def UpgradeStatus.ofDecoded (d : Decoded) : UpgradeStatus :=
  { status := OperationStatus.ofName (d.field 0).asText
    currentState := (d.field 1).asOption (UpgradeState.ofName ∘ Decoded.asText)
    desiredState := (d.field 2).asOption (UpgradeState.ofName ∘ Decoded.asText)
    upgradeInfo := UpgradeInfo.ofDecoded (d.field 3)
    progress := (d.field 4).asOption Progress.ofDecoded
    notifications := (d.field 5).asOption Notifications.ofDecoded
    error := (d.field 6).asOption ErrorInfo.ofDecoded }

/-- An upgrade status as JSON; the upgrade information is always written. -/
def UpgradeStatus.toJson (s : UpgradeStatus) : Json :=
  .obj ([("status", .str s.status.name)] ++
    member? "current_state" (fun x => Json.str x.name) s.currentState ++
    member? "desired_state" (fun x => Json.str x.name) s.desiredState ++
    [("upgrade_info", s.upgradeInfo.toJson)] ++
    member? "progress" Progress.toJson s.progress ++
    member? "notifications" Notifications.toJson s.notifications ++
    member? "error" ErrorInfo.toJson s.error)

/-! ## Tasks -/

/-- The codec of pre-check results. -/
def CheckResult.codec : Codec :=
  Codec.record "CheckResult"
    [defaultField "notifications" Notifications.codec Notifications.emptyDecoded]

/-- Reads a decoded pre-check result. -/
def CheckResult.ofDecoded (d : Decoded) : CheckResult :=
  { notifications := Notifications.ofDecoded (d.field 0) }

/-- A pre-check result as JSON. -/
def CheckResult.toJson (c : CheckResult) : Json :=
  .obj [("notifications", c.notifications.toJson)]

/-- The codec of tasks. -/
def TaskInfo.codec : Codec :=
  Codec.record "TaskInfo"
    [requiredField "status" OperationStatus.codec,
     optionalField "progress" Progress.codec,
     optionalField "error" ErrorInfo.codec,
     optionalField "result" CheckResult.codec]

/-- Reads a decoded task. -/
def TaskInfo.ofDecoded (d : Decoded) : TaskInfo :=
  { status := OperationStatus.ofName (d.field 0).asText
    progress := (d.field 1).asOption Progress.ofDecoded
    error := (d.field 2).asOption ErrorInfo.ofDecoded
    result := (d.field 3).asOption CheckResult.ofDecoded }

/-- A task as JSON. -/
def TaskInfo.toJson (t : TaskInfo) : Json :=
  .obj ([("status", .str t.status.name)] ++ member? "progress" Progress.toJson t.progress ++
    member? "error" ErrorInfo.toJson t.error ++ member? "result" CheckResult.toJson t.result)

/-! ## Appliance updates -/

/-- The codec of pending updates. -/
def UpdateSummary.codec : Codec :=
  Codec.record "UpdateSummary" [requiredField "version" Codec.string, optionalField "name" Codec.string]

/-- Reads a decoded pending update. -/
def UpdateSummary.ofDecoded (d : Decoded) : UpdateSummary :=
  { version := (d.field 0).asText, name := (d.field 1).asOption Decoded.asText }

/-- A pending update as JSON. -/
def UpdateSummary.toJson (u : UpdateSummary) : Json :=
  .obj ([("version", .str u.version)] ++ member? "name" Json.str u.name)

/-- The codec of upgradeable components. -/
def UpgradeableComponent.codec : Codec :=
  Codec.record "UpgradeableComponent" [requiredField "component" Codec.string]

/-- Reads a decoded upgradeable component. -/
def UpgradeableComponent.ofDecoded (d : Decoded) : UpgradeableComponent :=
  { component := (d.field 0).asText }

/-- An upgradeable component as JSON. -/
def UpgradeableComponent.toJson (c : UpgradeableComponent) : Json :=
  .obj [("component", .str c.component)]

/-- The codec of update reports. -/
def UpdateStatus.codec : Codec :=
  Codec.record "ApplianceUpdateStatus" [requiredField "state" UpdateState.codec]

/-- Reads a decoded update report. -/
def UpdateStatus.ofDecoded (d : Decoded) : UpdateStatus :=
  { state := UpdateState.ofName (d.field 0).asText }

/-- An update report as JSON. -/
def UpdateStatus.toJson (u : UpdateStatus) : Json :=
  .obj [("state", .str u.state.name)]

end ReducedDowntime
