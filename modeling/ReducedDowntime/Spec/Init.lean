import ReducedDowntime.Json.Codec
import ReducedDowntime.Log
import ReducedDowntime.Text.Quoted

/-!
# The init document

An upgrade is initialized with the target appliance (its temporary root password and
its OVA image), the target version and upgrade repository, two policies, and, when the
source server is managed by another server, that managing server's credentials.

The managing server is known only when its host name, user name and password are all
given and none is empty; otherwise the source server manages itself. Its credentials go
into the document twice: as the location of the new appliance and as the source
container.

The document is also shown in diagnostics, with every password replaced by
`[REDACTED]`. The spec shows there too, each of its passwords as the fixed text with which
a secret shows itself.
-/

namespace ReducedDowntime

/-- Credentials of a server. -/
structure Credentials where
  hostname : String
  username : String
  password : String
  deriving DecidableEq, Repr, Inhabited

/-- The managing server of the source, when all three parts are given and non-empty. -/
def Credentials.ofParts (hostname username password : Option String) : Option Credentials :=
  match hostname, username, password with
  | some h, some u, some p => if h != "" && u != "" && p != "" then some ⟨h, u, p⟩ else none
  | _, _, _ => none

/-- What the user asks of an upgrade's initialization. -/
structure InitSpec where
  rootPassword : String
  targetVersion : String
  targetOva : String
  targetUpgradeRepo : String
  autocancellation : Bool := false
  preserveOriginalName : Bool := false
  managingServer : Option Credentials := none
  deriving DecidableEq, Repr, Inhabited

/-- The init document sent to the service. -/
structure InitDocument where
  version : String
  rootPassword : String
  ovaLocation : String
  sslVerify : Bool := false
  /-- The credentials under `deployment.location.vcenter.connection`. -/
  location : Option Credentials := none
  /-- The credentials under `deployment.source_container`. -/
  sourceContainer : Option Credentials := none
  repository : String
  /-- `cancellation_policy.automatic`, when the policy is given. -/
  automaticCancellation : Option Bool := none
  /-- `post_upgrade_configuration.rename_vm_policy.preserve_original_vm_name`, when given. -/
  preserveOriginalVmName : Option Bool := none
  deriving DecidableEq, Repr, Inhabited

namespace InitSpec

/-- The init document of a spec. -/
def document (s : InitSpec) : InitDocument :=
  { version := s.targetVersion
    rootPassword := s.rootPassword
    ovaLocation := s.targetOva
    location := s.managingServer
    sourceContainer := s.managingServer
    repository := s.targetUpgradeRepo
    automaticCancellation := if s.autocancellation then some true else none
    preserveOriginalVmName := if s.preserveOriginalName then some true else none }

/-- What building the document reports. -/
def documentNotes (s : InitSpec) : List LogLine :=
  [⟨.info, .initSpec, "Creating init spec for upgrade to " ++ s.targetVersion⟩] ++
    match s.managingServer with
    | some _ => []
    | none =>
      [⟨.info, .initSpec,
        "Missing the full information for the uber vCenter. Assuming the source vCenter is self-managed."⟩]

/-- Builds the document, with what it reports. -/
def toDocument (s : InitSpec) : Logged InitDocument := ⟨s.documentNotes, s.document⟩

end InitSpec

namespace InitDocument

open Json

/-- Credentials as JSON. -/
def credentialsJson (c : Credentials) : Json :=
  .obj [("hostname", .str c.hostname), ("username", .str c.username), ("password", .str c.password)]

/-- The location of the new appliance as JSON: the connection of the managing server. -/
def locationJson (c : Credentials) : Json :=
  .obj [("vcenter", .obj [("connection", credentialsJson c)])]

/-- The deployment part of the document as JSON; absent credentials are left out. -/
def deploymentJson (d : InitDocument) : Json :=
  .obj ([("appliance", .obj [("root_password", .str d.rootPassword),
      ("ova_info", .obj [("location", .str d.ovaLocation), ("ssl_verify", .bool d.sslVerify)])])] ++
    (d.location.map fun c => ("location", locationJson c)).toList ++
    (d.sourceContainer.map fun c => ("source_container", credentialsJson c)).toList)

/-- The cancellation policy as JSON. -/
def cancellationJson (automatic : Bool) : Json := .obj [("automatic", .bool automatic)]

/-- The post-upgrade configuration as JSON. -/
def postUpgradeJson (preserve : Bool) : Json :=
  .obj [("rename_vm_policy", .obj [("preserve_original_vm_name", .bool preserve)])]

/-- The document as JSON; absent parts are left out. -/
def toJson (d : InitDocument) : Json :=
  .obj ([("version", .str d.version), ("deployment", deploymentJson d),
      ("repository", .obj [("address", .str d.repository)])] ++
    (d.automaticCancellation.map fun b => ("cancellation_policy", cancellationJson b)).toList ++
    (d.preserveOriginalVmName.map fun b => ("post_upgrade_configuration", postUpgradeJson b)).toList)

/-- The codec of credentials. -/
def credentialsCodec : Codec :=
  Codec.record "Connection"
    [⟨"hostname", Codec.string, .required⟩, ⟨"username", Codec.string, .required⟩,
     ⟨"password", Codec.string, .required⟩]

/-- The codec of the OVA image's part. -/
def ovaCodec : Codec :=
  Codec.record "OvaInfo" [⟨"location", Codec.string, .required⟩, ⟨"ssl_verify", Codec.boolean, .required⟩]

/-- The codec of the appliance's part. -/
def applianceCodec : Codec :=
  Codec.record "ApplianceDeployment"
    [⟨"root_password", Codec.string, .required⟩, ⟨"ova_info", ovaCodec, .required⟩]

/-- The codec of the new appliance's location. -/
def locationCodec : Codec :=
  Codec.record "Location"
    [⟨"vcenter", Codec.record "VcenterLocation" [⟨"connection", credentialsCodec, .required⟩], .required⟩]

/-- The codec of the deployment part. -/
def deploymentCodec : Codec :=
  Codec.record "DeploymentConfig"
    [⟨"appliance", applianceCodec, .required⟩,
     ⟨"location", Codec.optional locationCodec, .default .absent⟩,
     ⟨"source_container", Codec.optional credentialsCodec, .default .absent⟩]

/-- The codec of the cancellation policy. -/
def cancellationCodec : Codec :=
  Codec.record "CancellationPolicy" [⟨"automatic", Codec.boolean, .required⟩]

/-- The codec of the post-upgrade configuration. -/
def postUpgradeCodec : Codec :=
  Codec.record "PostUpgradeConfiguration"
    [⟨"rename_vm_policy",
      Codec.record "RenameVmPolicy" [⟨"preserve_original_vm_name", Codec.boolean, .required⟩], .required⟩]

/-- The codec of the document. -/
def codec : Codec :=
  Codec.record "InitSpecPayload"
    [⟨"version", Codec.string, .required⟩, ⟨"deployment", deploymentCodec, .required⟩,
     ⟨"repository", Codec.record "RepositorySpec" [⟨"address", Codec.string, .required⟩], .required⟩,
     ⟨"cancellation_policy", Codec.optional cancellationCodec, .default .absent⟩,
     ⟨"post_upgrade_configuration", Codec.optional postUpgradeCodec, .default .absent⟩]

/-- Reads decoded credentials. -/
def credentialsOfDecoded (d : Decoded) : Credentials :=
  let text (i : Nat) : String := match d with
    | .record fs => match fs.getD i .absent with
      | .text s => s
      | _ => ""
    | _ => ""
  ⟨text 0, text 1, text 2⟩

/-- The `i`-th field of a decoded record. -/
def at? (d : Decoded) (i : Nat) : Decoded :=
  match d with
  | .record fs => fs.getD i .absent
  | _ => .absent

/-- A decoded string. -/
def textOf : Decoded → String
  | .text s => s
  | _ => ""

/-- A decoded boolean. -/
def flagOf : Decoded → Bool
  | .flag b => b
  | _ => false

/-- A decoded optional part, read by `f` when present. -/
def optionOf {α : Type} (f : Decoded → α) : Decoded → Option α
  | .absent => none
  | d => some (f d)

/-- Reads a decoded document. -/
def ofDecoded (d : Decoded) : InitDocument :=
  let deployment := at? d 1
  let appliance := at? deployment 0
  let ova := at? appliance 1
  { version := textOf (at? d 0)
    rootPassword := textOf (at? appliance 0)
    ovaLocation := textOf (at? ova 0)
    sslVerify := flagOf (at? ova 1)
    location := optionOf (fun loc => credentialsOfDecoded (at? (at? loc 0) 0)) (at? deployment 1)
    sourceContainer := optionOf credentialsOfDecoded (at? deployment 2)
    repository := textOf (at? (at? d 2) 0)
    automaticCancellation := optionOf (fun c => flagOf (at? c 0)) (at? d 3)
    preserveOriginalVmName := optionOf (fun p => flagOf (at? (at? p 0) 0)) (at? d 4) }

/-- A boolean in diagnostics. -/
def flagText (b : Bool) : String := if b then "true" else "false"

/-- An optional part in diagnostics. -/
def optionText {α : Type} (f : α → String) : Option α → String
  | some a => "Some(" ++ f a ++ ")"
  | none => "None"

/-- Credentials in diagnostics, the password hidden. -/
def credentialsText (c : Credentials) : String :=
  "Connection \x7b hostname: " ++ Text.quoted c.hostname ++ ", username: " ++ Text.quoted c.username ++
    ", password: \"[REDACTED]\" \x7d"

/-- The document in diagnostics, with every password hidden. -/
def diagnostic (d : InitDocument) : String :=
  "InitSpecPayload \x7b version: " ++ Text.quoted d.version ++
    ", deployment: DeploymentConfig \x7b appliance: ApplianceDeployment \x7b root_password: \"[REDACTED]\", " ++
    "ova_info: OvaInfo \x7b location: " ++ Text.quoted d.ovaLocation ++ ", ssl_verify: " ++
    flagText d.sslVerify ++ " \x7d \x7d, location: " ++
    optionText (fun c => "Location \x7b vcenter: VcenterLocation \x7b connection: " ++ credentialsText c ++ " \x7d \x7d")
      d.location ++
    ", source_container: " ++ optionText credentialsText d.sourceContainer ++
    " \x7d, repository: RepositorySpec \x7b address: " ++ Text.quoted d.repository ++
    " \x7d, cancellation_policy: " ++
    optionText (fun b => "CancellationPolicy \x7b automatic: " ++ flagText b ++ " \x7d") d.automaticCancellation ++
    ", post_upgrade_configuration: " ++
    optionText (fun b => "PostUpgradeConfiguration \x7b rename_vm_policy: RenameVmPolicy \x7b " ++
      "preserve_original_vm_name: " ++ flagText b ++ " \x7d \x7d") d.preserveOriginalVmName ++ " \x7d"

end InitDocument

namespace InitSpec

/-- The managing server of a spec in diagnostics; `secret` is the text with which a secret
shows itself, the same whatever the secret. -/
def managingServerText (secret : String) (c : Credentials) : String :=
  "UberVc \x7b hostname: " ++ Text.quoted c.hostname ++ ", username: " ++ Text.quoted c.username ++
    ", password: " ++ secret ++ " \x7d"

/-- A spec in diagnostics; its secrets show as `secret`. -/
def diagnostic (secret : String) (s : InitSpec) : String :=
  "InitSpec \x7b root_password: " ++ secret ++ ", target_version: " ++ Text.quoted s.targetVersion ++
    ", target_ova: " ++ Text.quoted s.targetOva ++ ", target_upgrade_repo: " ++
    Text.quoted s.targetUpgradeRepo ++ ", autocancellation: " ++
    InitDocument.flagText s.autocancellation ++ ", preserve_original_name: " ++
    InitDocument.flagText s.preserveOriginalName ++ ", uber_vc: " ++
    InitDocument.optionText (managingServerText secret) s.managingServer ++ " \x7d"

end InitSpec

end ReducedDowntime
