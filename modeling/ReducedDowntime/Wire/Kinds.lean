import ReducedDowntime.Wire.Codecs
import ReducedDowntime.Spec.Init
import ReducedDowntime.Spec.Apply

/-!
# Kinds of documents

Every document the services exchange has a kind, named as in the service's schema. A
kind gives the codec that reads the document, from text or from a read JSON value, and
the document read is one of `Document`'s cases. Writing a document back gives JSON in
the service's layout.
-/

namespace ReducedDowntime

open Json

/-- The kinds of documents. -/
inductive DocumentKind where
  | upgradeStatus
  | taskInfo
  | checkResult
  | notifications
  | progress
  | errorInfo
  | upgradeInfo
  | updateStatus
  | pendingUpdates
  | upgradeableComponents
  | applyDocument
  | initDocument
  | sessionId
  deriving DecidableEq, Repr, Inhabited

/-- A document of one of the kinds. -/
inductive Document where
  | upgradeStatus (s : UpgradeStatus)
  | taskInfo (t : TaskInfo)
  | checkResult (c : CheckResult)
  | notifications (n : Notifications)
  | progress (p : Progress)
  | errorInfo (e : ErrorInfo)
  | upgradeInfo (u : UpgradeInfo)
  | updateStatus (u : UpdateStatus)
  | pendingUpdates (l : List UpdateSummary)
  | upgradeableComponents (l : List UpgradeableComponent)
  | applyDocument (d : ApplyDocument)
  | initDocument (d : InitDocument)
  | sessionId (s : String)
  deriving Inhabited

namespace DocumentKind

/-- All kinds. -/
def all : List DocumentKind :=
  [.upgradeStatus, .taskInfo, .checkResult, .notifications, .progress, .errorInfo, .upgradeInfo,
    .updateStatus, .pendingUpdates, .upgradeableComponents, .applyDocument, .initDocument, .sessionId]

/-- The schema name of a kind. -/
def name : DocumentKind → String
  | .upgradeStatus => "UpgradeStatus"
  | .taskInfo => "TaskInfo"
  | .checkResult => "CheckResult"
  | .notifications => "Notifications"
  | .progress => "Progress"
  | .errorInfo => "ErrorInfo"
  | .upgradeInfo => "UpgradeInfo"
  | .updateStatus => "ApplianceUpdateStatus"
  | .pendingUpdates => "PendingUpdates"
  | .upgradeableComponents => "UpgradeableComponents"
  | .applyDocument => "ApplySpecPayload"
  | .initDocument => "InitSpecPayload"
  | .sessionId => "SessionId"

/-- The kind of a schema name. -/
def ofName? (s : String) : Option DocumentKind := all.find? (·.name == s)

/-- The codec of a kind. -/
def codec : DocumentKind → Codec
  | .upgradeStatus => UpgradeStatus.codec
  | .taskInfo => TaskInfo.codec
  | .checkResult => CheckResult.codec
  | .notifications => Notifications.codec
  | .progress => Progress.codec
  | .errorInfo => ErrorInfo.codec
  | .upgradeInfo => UpgradeInfo.codec
  | .updateStatus => UpdateStatus.codec
  | .pendingUpdates => Codec.list UpdateSummary.codec
  | .upgradeableComponents => Codec.list UpgradeableComponent.codec
  | .applyDocument => ApplyDocument.codec
  | .initDocument => InitDocument.codec
  | .sessionId => Codec.string

/-- The document of a decoded tree. -/
def build : DocumentKind → Decoded → Document
  | .upgradeStatus, d => .upgradeStatus (UpgradeStatus.ofDecoded d)
  | .taskInfo, d => .taskInfo (TaskInfo.ofDecoded d)
  | .checkResult, d => .checkResult (CheckResult.ofDecoded d)
  | .notifications, d => .notifications (Notifications.ofDecoded d)
  | .progress, d => .progress (Progress.ofDecoded d)
  | .errorInfo, d => .errorInfo (ErrorInfo.ofDecoded d)
  | .upgradeInfo, d => .upgradeInfo (UpgradeInfo.ofDecoded d)
  | .updateStatus, d => .updateStatus (UpdateStatus.ofDecoded d)
  | .pendingUpdates, d => .pendingUpdates (d.asList.map UpdateSummary.ofDecoded)
  | .upgradeableComponents, d => .upgradeableComponents (d.asList.map UpgradeableComponent.ofDecoded)
  | .applyDocument, d => .applyDocument (ApplyDocument.ofDecoded d)
  | .initDocument, d => .initDocument (InitDocument.ofDecoded d)
  | .sessionId, d => .sessionId d.asText

/-- Reads a document of this kind from text. -/
def readText (k : DocumentKind) (text : String) : Except DecodeError Document :=
  (k.codec.decodeText text).map k.build

/-- Reads a document of this kind from a JSON value. -/
def readJson (k : DocumentKind) (j : Json) : Except DecodeError Document :=
  (k.codec.decodeJson j).map k.build

end DocumentKind

/-- A document as JSON, in the service's layout. -/
def Document.toJson : Document → Json
  | .upgradeStatus s => s.toJson
  | .taskInfo t => t.toJson
  | .checkResult c => c.toJson
  | .notifications n => n.toJson
  | .progress p => p.toJson
  | .errorInfo e => e.toJson
  | .upgradeInfo u => u.toJson
  | .updateStatus u => u.toJson
  | .pendingUpdates l => .arr (l.map UpdateSummary.toJson)
  | .upgradeableComponents l => .arr (l.map UpgradeableComponent.toJson)
  | .applyDocument d => d.toJson
  | .initDocument d => d.toJson
  | .sessionId s => .str s

end ReducedDowntime
