import ReducedDowntime.Service.Script
import ReducedDowntime.Wire.Codecs

/-!
# The appliance update service

The appliance updates itself from a repository: it takes an update policy naming the
repository, lists the pending updates and the components an update can upgrade, stages
and installs an update, and reports the state of the update. A rehearsed appliance
answers each endpoint from a script; the fallbacks are those of an appliance with
nothing pending and an installation in progress.

The policy travels as a JSON object of its four members, all of them written and all of
them required when read.
-/

namespace ReducedDowntime

/-- The update policy of the appliance. -/
structure UpdatePolicy where
  customUrl : String
  autoStage : Bool
  certificateCheck : Bool
  checkSchedule : List String
  deriving DecidableEq, Repr, Inhabited

namespace UpdatePolicy

open Json

/-- The codec of update policies: every member is required. -/
def codec : Codec :=
  Codec.record "PolicyConfig"
    [requiredField "custom_url" Codec.string, requiredField "auto_stage" Codec.boolean,
     requiredField "certificate_check" Codec.boolean,
     requiredField "check_schedule" (Codec.list Codec.string)]

/-- Reads a decoded update policy. -/
def ofDecoded (d : Decoded) : UpdatePolicy :=
  { customUrl := (d.field 0).asText
    autoStage := (d.field 1).asFlag
    certificateCheck := (d.field 2).asFlag
    checkSchedule := (d.field 3).asList.map Decoded.asText }

/-- An update policy as JSON; the schedule is written even when empty. -/
def toJson (p : UpdatePolicy) : Json :=
  .obj [("custom_url", .str p.customUrl), ("auto_stage", .bool p.autoStage),
    ("certificate_check", .bool p.certificateCheck),
    ("check_schedule", .arr (p.checkSchedule.map Json.str))]

end UpdatePolicy

/-- A call made to the appliance. -/
inductive ApplianceCall where
  | setPolicy (policy : UpdatePolicy)
  | listPending
  | listComponents (version : String)
  | stageAndInstall (version component : String)
  | updateStatus
  deriving DecidableEq, Repr, Inhabited

/-- The short label of a call, with its arguments after colons. -/
def ApplianceCall.label : ApplianceCall → String
  | .setPolicy p => "set_policy:" ++ p.customUrl
  | .listPending => "list_pending"
  | .listComponents v => "list_components:" ++ v
  | .stageAndInstall v c => "stage_and_install:" ++ v ++ ":" ++ c
  | .updateStatus => "update_status"

/-- A rehearsed appliance: one script per endpoint, and an optional limit on the number of
calls it accepts. -/
structure ApplianceService where
  setPolicy : Script Unit := .constant ()
  pending : Script (List UpdateSummary) := .constant []
  components : Script (List UpgradeableComponent) := .constant []
  stageAndInstall : Script Unit := .constant ()
  updateStatus : Script UpdateStatus := .constant ⟨.installInProgress⟩
  callLimit : Option Nat := none

end ReducedDowntime
