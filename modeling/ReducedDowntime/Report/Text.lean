import ReducedDowntime.Wire.Documents
import ReducedDowntime.Time.Rfc3339

/-!
# Reports as text

Notifications, message lists and the status of an upgrade are reported as indented text.

* A list of messages is each message on a line of its own, `- message`, every line begun
  by a line break (so the text starts with one when the list is not empty).
* Notifications are three sections, `Error`, `Warning` and `Info`, each a header line
  `- Title:` and two lines per notification, its message and its resolution (`None`
  when it has none).
* The status report numbers its parts: the result, the current state, the upgrade
  information, the progress, the notifications, and for a failed or cancelled upgrade
  the errors.
-/

namespace ReducedDowntime.Report

/-- `n` blanks. -/
def pad (n : Nat) : String := String.ofList (List.replicate n ' ')

/-- Each message on its own line after a line break, indented. -/
def messageLines (messages : List String) (indent : Nat) : String :=
  String.join (messages.map fun m => "\n" ++ pad indent ++ "- " ++ m)

/-- The text of a notification's resolution, `None` when it has none. -/
def resolutionText (n : Notification) : String :=
  match n.resolution with
  | some r => r.defaultMessage
  | none => "None"

/-- One section of notifications: a header and two lines per notification. -/
def severitySection (indent : Nat) (title : String) (items : List Notification) : String :=
  pad indent ++ "- " ++ title ++ ":\n" ++
    String.join (items.map fun n =>
      pad indent ++ "  Message: " ++ n.message.defaultMessage ++ "\n" ++
        pad indent ++ "  Resolution: " ++ resolutionText n ++ "\n")

/-- Notifications by severity, or a sentence when there are none to report. -/
def notificationsText (notifications : Option Notifications) (indent : Nat) : String :=
  match notifications with
  | none => "No available notifications"
  | some n => severitySection indent "Error" n.errors ++ severitySection indent "Warning" n.warnings ++
      severitySection indent "Info" n.info

/-- The error part of the upgrade information: its messages, or `None`. -/
def errorText (e : Option ErrorInfo) (indent : Nat) : String :=
  match e with
  | some e => messageLines e.defaultMessages indent
  | none => "None"

/-- A present value's text, or `None`. -/
def orNone {α : Type} (f : α → String) : Option α → String
  | some a => f a
  | none => "None"

/-- The upgrade information, one line per item. -/
def upgradeInfoText (info : UpgradeInfo) (indent : Nat) : String :=
  let p := pad indent
  p ++ "- Upgrading to version: " ++ orNone id info.upgradeTo ++ "\n" ++
  p ++ "- Configured pause point: " ++ orNone PausePolicy.name info.pause ++ "\n" ++
  p ++ "- Switchover scheduled at: " ++ orNone (fun t => t.rfc3339 false) info.startSwitchover ++ "\n" ++
  p ++ "- Remaining data to replicate to the new machine: " ++
    orNone (fun d => toString d) info.remainingReplicationData ++ "\n" ++
  p ++ "- Upgrade errors: " ++ errorText info.error (indent + 4) ++ "\n"

/-- The progress counters, one line per item, or `None`. -/
def progressText (progress : Option Progress) (indent : Nat) : String :=
  match progress with
  | none => "None\n"
  | some pr =>
    let p := pad indent
    p ++ "- Total: " ++ toString pr.total ++ "\n" ++ p ++ "- Completed: " ++ toString pr.completed ++ "\n" ++
      p ++ "- Message: " ++ orNone (fun m => m.defaultMessage) pr.message ++ "\n"

/-- The numbered report of an upgrade status. -/
def statusReport (s : UpgradeStatus) : String :=
  let body :=
    "\n1. Result: " ++ s.status.name ++
    "\n2. Current state: " ++ orNone UpgradeState.name s.currentState ++
    "\n3. Upgrade information:\n" ++ upgradeInfoText s.upgradeInfo 1 ++
    "\n4. Progress:\n" ++ progressText s.progress 1 ++
    "\n5. Notifications:\n" ++ notificationsText s.notifications 1
  let errors := " - Errors: " ++ messageLines s.errorMessages 4 ++ "\n"
  match s.status with
  | .pending => body ++ "\nUpgrade has not yet been initialized."
  | .failed =>
    body ++ "\n6. Upgrade has failed. You can find the issue which caused the fail in the errors below.\n" ++
      errors
  | .canceled =>
    body ++ "\n6. Upgrade has been canceled. You can find the issue which triggered cancellation in the errors below.\n" ++
      errors
  | _ => body

end ReducedDowntime.Report
