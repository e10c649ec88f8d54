import ReducedDowntime.Proofs.DecodedSound
import ReducedDowntime.Proofs.DocumentJson

/-!
# Round trips of the documents

A document of any kind reads back from the JSON it is written as, whenever its integers and
instants fit the wire. Conversely, whatever a kind reads from a JSON value whose numbers are
in their classes fits the wire (every codec is sound and every reading keeps that), so
writing a read document and reading it again gives the same document: writing after reading
is idempotent.
-/

namespace ReducedDowntime

open Json Codec

/-! ## Every codec of the documents is sound -/

theorem Message.codec_sound : Message.codec.Sound :=
  record_sound ⟨optionalField_sound string_sound "id",
    defaultField_sound string_sound "default_message" (.text ""),
    defaultField_sound (list_sound string_sound) "args" (.list nofun), trivial⟩

theorem ErrorInfo.codec_sound : ErrorInfo.codec.Sound :=
  record_sound ⟨defaultField_sound (list_sound Message.codec_sound) "messages" (.list nofun), trivial⟩

theorem Notification.codec_sound : Notification.codec.Sound :=
  record_sound ⟨optionalField_sound string_sound "id", optionalField_sound instant_sound "time",
    requiredField_sound Message.codec_sound "message",
    optionalField_sound Message.codec_sound "resolution", trivial⟩

theorem Notifications.codec_sound : Notifications.codec.Sound := by
  have hlist := list_sound Notification.codec_sound
  exact record_sound ⟨defaultField_sound hlist "errors" (.list nofun),
    defaultField_sound hlist "warnings" (.list nofun), defaultField_sound hlist "info" (.list nofun),
    trivial⟩

theorem Progress.codec_sound : Progress.codec.Sound :=
  record_sound ⟨defaultField_sound int64_sound "total" (.int (by decide)),
    defaultField_sound int64_sound "completed" (.int (by decide)),
    optionalField_sound Message.codec_sound "message", trivial⟩

theorem UpgradeInfo.emptyDecoded_sound : UpgradeInfo.emptyDecoded.Sound := by
  refine .record fun d hd => ?_
  simp only [List.mem_cons, List.not_mem_nil, or_false, or_self] at hd
  rw [hd]
  exact .absent

theorem UpgradeInfo.codec_sound : UpgradeInfo.codec.Sound :=
  record_sound ⟨optionalField_sound string_sound "upgrade_to",
    optionalField_sound (oneOf_sound _ _) "pause",
    optionalField_sound instant_sound "start_switchover",
    optionalField_sound int64_sound "remaining_replication_data",
    optionalField_sound ErrorInfo.codec_sound "error", trivial⟩

theorem UpgradeStatus.codec_sound : UpgradeStatus.codec.Sound :=
  record_sound ⟨requiredField_sound (oneOf_sound _ _) "status",
    optionalField_sound (oneOf_sound _ _) "current_state",
    optionalField_sound (oneOf_sound _ _) "desired_state",
    defaultField_sound UpgradeInfo.codec_sound "upgrade_info" UpgradeInfo.emptyDecoded_sound,
    optionalField_sound Progress.codec_sound "progress",
    optionalField_sound Notifications.codec_sound "notifications",
    optionalField_sound ErrorInfo.codec_sound "error", trivial⟩

theorem Notifications.emptyDecoded_sound : Notifications.emptyDecoded.Sound := by
  refine .record fun d hd => ?_
  simp only [List.mem_cons, List.not_mem_nil, or_false, or_self] at hd
  rw [hd]
  exact .list nofun

theorem CheckResult.codec_sound : CheckResult.codec.Sound :=
  record_sound ⟨defaultField_sound Notifications.codec_sound "notifications"
    Notifications.emptyDecoded_sound, trivial⟩

theorem TaskInfo.codec_sound : TaskInfo.codec.Sound :=
  record_sound ⟨requiredField_sound (oneOf_sound _ _) "status",
    optionalField_sound Progress.codec_sound "progress",
    optionalField_sound ErrorInfo.codec_sound "error",
    optionalField_sound CheckResult.codec_sound "result", trivial⟩

theorem UpdateSummary.codec_sound : UpdateSummary.codec.Sound :=
  record_sound ⟨requiredField_sound string_sound "version", optionalField_sound string_sound "name",
    trivial⟩

theorem UpgradeableComponent.codec_sound : UpgradeableComponent.codec.Sound :=
  record_sound ⟨requiredField_sound string_sound "component", trivial⟩

theorem UpdateStatus.codec_sound : UpdateStatus.codec.Sound :=
  record_sound ⟨requiredField_sound (oneOf_sound _ _) "state", trivial⟩

theorem ApplyDocument.codec_sound : ApplyDocument.codec.Sound :=
  record_sound ⟨optionalField_sound instant_sound "start_switchover",
    optionalField_sound (oneOf_sound _ _) "pause", trivial⟩

theorem InitDocument.credentialsCodec_sound : InitDocument.credentialsCodec.Sound :=
  record_sound ⟨requiredField_sound string_sound "hostname",
    requiredField_sound string_sound "username", requiredField_sound string_sound "password", trivial⟩

theorem InitDocument.codec_sound : InitDocument.codec.Sound := by
  have hova : InitDocument.ovaCodec.Sound :=
    record_sound ⟨requiredField_sound string_sound "location",
      requiredField_sound boolean_sound "ssl_verify", trivial⟩
  have happliance : InitDocument.applianceCodec.Sound :=
    record_sound ⟨requiredField_sound string_sound "root_password",
      requiredField_sound hova "ova_info", trivial⟩
  have hlocation : InitDocument.locationCodec.Sound :=
    record_sound ⟨requiredField_sound (by exact record_sound ⟨requiredField_sound
      InitDocument.credentialsCodec_sound "connection", trivial⟩) "vcenter", trivial⟩
  have hdeployment : InitDocument.deploymentCodec.Sound :=
    record_sound ⟨requiredField_sound happliance "appliance",
      optionalField_sound hlocation "location",
      optionalField_sound InitDocument.credentialsCodec_sound "source_container", trivial⟩
  have hcancellation : InitDocument.cancellationCodec.Sound :=
    record_sound ⟨requiredField_sound boolean_sound "automatic", trivial⟩
  have hpost : InitDocument.postUpgradeCodec.Sound :=
    record_sound ⟨requiredField_sound (by exact record_sound ⟨requiredField_sound boolean_sound
      "preserve_original_vm_name", trivial⟩) "rename_vm_policy", trivial⟩
  exact record_sound ⟨requiredField_sound string_sound "version",
    requiredField_sound hdeployment "deployment",
    requiredField_sound (by exact record_sound ⟨requiredField_sound string_sound "address", trivial⟩)
      "repository",
    optionalField_sound hcancellation "cancellation_policy",
    optionalField_sound hpost "post_upgrade_configuration", trivial⟩

theorem UpdatePolicy.codec_sound : UpdatePolicy.codec.Sound :=
  record_sound ⟨requiredField_sound string_sound "custom_url",
    requiredField_sound boolean_sound "auto_stage",
    requiredField_sound boolean_sound "certificate_check",
    requiredField_sound (list_sound string_sound) "check_schedule", trivial⟩

theorem DocumentKind.codec_sound : ∀ k : DocumentKind, k.codec.Sound
  | .upgradeStatus => UpgradeStatus.codec_sound
  | .taskInfo => TaskInfo.codec_sound
  | .checkResult => CheckResult.codec_sound
  | .notifications => Notifications.codec_sound
  | .progress => Progress.codec_sound
  | .errorInfo => ErrorInfo.codec_sound
  | .upgradeInfo => UpgradeInfo.codec_sound
  | .updateStatus => UpdateStatus.codec_sound
  | .pendingUpdates => list_sound UpdateSummary.codec_sound
  | .upgradeableComponents => list_sound UpgradeableComponent.codec_sound
  | .applyDocument => ApplyDocument.codec_sound
  | .initDocument => InitDocument.codec_sound
  | .sessionId => string_sound

/-! ## What is read from sound trees fits -/

section ReadFits

variable {d : Decoded}

theorem Progress.ofDecoded_fits (h : d.Sound) : (Progress.ofDecoded d).Fits :=
  ⟨(h.field 0).asInt_le, (h.field 1).asInt_le⟩

theorem Notification.ofDecoded_fits (h : d.Sound) : (Notification.ofDecoded d).Fits :=
  Decoded.forall_mem_asOption (h.field 1).asInstant

theorem Notifications.ofDecoded_fits (h : d.Sound) : (Notifications.ofDecoded d).Fits := by
  have hread : ∀ i, ∀ n ∈ (d.field i).asList.map Notification.ofDecoded, n.Fits := by
    intro i n hn
    obtain ⟨x, hx, rfl⟩ := List.mem_map.mp hn
    exact Notification.ofDecoded_fits ((h.field i).asList x hx)
  exact ⟨hread 0, hread 1, hread 2⟩

theorem UpgradeInfo.ofDecoded_fits (h : d.Sound) : (UpgradeInfo.ofDecoded d).Fits :=
  ⟨Decoded.forall_mem_asOption (h.field 2).asInstant,
    Decoded.forall_mem_asOption (h.field 3).asInt_le⟩

theorem UpgradeStatus.ofDecoded_fits (h : d.Sound) : (UpgradeStatus.ofDecoded d).Fits :=
  ⟨UpgradeInfo.ofDecoded_fits (h.field 3),
    Decoded.forall_mem_asOption (Progress.ofDecoded_fits (h.field 4)),
    Decoded.forall_mem_asOption (Notifications.ofDecoded_fits (h.field 5))⟩

theorem CheckResult.ofDecoded_fits (h : d.Sound) : (CheckResult.ofDecoded d).Fits :=
  Notifications.ofDecoded_fits (h.field 0)

theorem TaskInfo.ofDecoded_fits (h : d.Sound) : (TaskInfo.ofDecoded d).Fits :=
  ⟨Decoded.forall_mem_asOption (Progress.ofDecoded_fits (h.field 1)),
    Decoded.forall_mem_asOption (CheckResult.ofDecoded_fits (h.field 3))⟩

theorem ApplyDocument.ofDecoded_fits (h : d.Sound) : (ApplyDocument.ofDecoded d).Fits :=
  Decoded.forall_mem_asOption (h.field 0).asInstant

end ReadFits

/-! ## Documents of every kind -/

/-- The kind of a document. -/
def Document.kind : Document → DocumentKind
  | .upgradeStatus _ => .upgradeStatus
  | .taskInfo _ => .taskInfo
  | .checkResult _ => .checkResult
  | .notifications _ => .notifications
  | .progress _ => .progress
  | .errorInfo _ => .errorInfo
  | .upgradeInfo _ => .upgradeInfo
  | .updateStatus _ => .updateStatus
  | .pendingUpdates _ => .pendingUpdates
  | .upgradeableComponents _ => .upgradeableComponents
  | .applyDocument _ => .applyDocument
  | .initDocument _ => .initDocument
  | .sessionId _ => .sessionId

/-- A document whose integers and instants the wire can carry; the kinds without either
always fit. -/
def Document.Fits : Document → Prop
  | .upgradeStatus s => s.Fits
  | .taskInfo t => t.Fits
  | .checkResult c => c.Fits
  | .notifications n => n.Fits
  | .progress p => p.Fits
  | .upgradeInfo u => u.Fits
  | .applyDocument d => d.Fits
  | _ => True

namespace DocumentKind

theorem readJson_eq_ok {k : DocumentKind} {j : Json} {doc : Document} :
    k.readJson j = .ok doc ↔ ∃ d, k.codec.decodeJson j = .ok d ∧ k.build d = doc := by
  unfold readJson
  cases k.codec.decodeJson j with
  | error e =>
    constructor
    · intro h
      cases h
    · rintro ⟨_, h, _⟩
      cases h
  | ok d =>
    constructor
    · intro h
      cases h
      exact ⟨d, rfl, rfl⟩
    · rintro ⟨d', hd', rfl⟩
      cases hd'
      rfl

/-- A kind reads back a value its codec reads back, as the document its reading builds. -/
theorem readJson_of_readsBack {k : DocumentKind} {α : Type} {fits : α → Prop} {write : α → Json}
    {read : Decoded → α} {wrap : α → Document} (h : Codec.ReadsBack k.codec fits write read)
    (hbuild : ∀ d, k.build d = wrap (read d)) {a : α} (ha : fits a) :
    k.readJson (write a) = .ok (wrap a) := by
  obtain ⟨-, d, hd, -, hread⟩ := h a ha
  refine readJson_eq_ok.mpr ⟨d, hd, ?_⟩
  rw [hbuild, hread]

theorem kind_build : ∀ (k : DocumentKind) (d : Decoded), (k.build d).kind = k := by
  intro k d
  cases k <;> rfl

/-- What a kind builds from a sound tree fits. -/
theorem build_fits {d : Decoded} (h : d.Sound) : ∀ k : DocumentKind, (k.build d).Fits
  | .upgradeStatus => UpgradeStatus.ofDecoded_fits h
  | .taskInfo => TaskInfo.ofDecoded_fits h
  | .checkResult => CheckResult.ofDecoded_fits h
  | .notifications => Notifications.ofDecoded_fits h
  | .progress => Progress.ofDecoded_fits h
  | .errorInfo => trivial
  | .upgradeInfo => UpgradeInfo.ofDecoded_fits h
  | .updateStatus => trivial
  | .pendingUpdates => trivial
  | .upgradeableComponents => trivial
  | .applyDocument => ApplyDocument.ofDecoded_fits h
  | .initDocument => trivial
  | .sessionId => trivial

end DocumentKind

namespace Document

/-- Every document that fits reads back, as a document of its kind, from the JSON it is
written as. -/
theorem readJson_toJson : ∀ doc : Document, doc.Fits → doc.kind.readJson doc.toJson = .ok doc
  | .upgradeStatus _, h => DocumentKind.readJson_of_readsBack (k := .upgradeStatus) UpgradeStatus.readsBack (fun _ => rfl) h
  | .taskInfo _, h => DocumentKind.readJson_of_readsBack (k := .taskInfo) TaskInfo.readsBack (fun _ => rfl) h
  | .checkResult _, h => DocumentKind.readJson_of_readsBack (k := .checkResult) CheckResult.readsBack (fun _ => rfl) h
  | .notifications _, h =>
    DocumentKind.readJson_of_readsBack (k := .notifications) Notifications.readsBack (fun _ => rfl) h
  | .progress _, h => DocumentKind.readJson_of_readsBack (k := .progress) Progress.readsBack (fun _ => rfl) h
  | .errorInfo _, _ => DocumentKind.readJson_of_readsBack (k := .errorInfo) ErrorInfo.readsBack (fun _ => rfl) trivial
  | .upgradeInfo _, h => DocumentKind.readJson_of_readsBack (k := .upgradeInfo) UpgradeInfo.readsBack (fun _ => rfl) h
  | .updateStatus _, _ =>
    DocumentKind.readJson_of_readsBack (k := .updateStatus) UpdateStatus.readsBack (fun _ => rfl) trivial
  | .pendingUpdates _, _ =>
    DocumentKind.readJson_of_readsBack (k := .pendingUpdates) (list_readsBack UpdateSummary.readsBack) (fun _ => rfl)
      (fun _ _ => trivial)
  | .upgradeableComponents _, _ =>
    DocumentKind.readJson_of_readsBack (k := .upgradeableComponents)
      (list_readsBack UpgradeableComponent.readsBack)
      (fun _ => rfl) (fun _ _ => trivial)
  | .applyDocument _, h => DocumentKind.readJson_of_readsBack (k := .applyDocument) ApplyDocument.readsBack (fun _ => rfl) h
  | .initDocument _, _ =>
    DocumentKind.readJson_of_readsBack (k := .initDocument) InitDocument.readsBack (fun _ => rfl) trivial
  | .sessionId _, _ => DocumentKind.readJson_of_readsBack (k := .sessionId) string_readsBack (fun _ => rfl) trivial

/-- A document read from a value in class fits, so writing it and reading it again gives it
back. -/
theorem readJson_idempotent {k : DocumentKind} {j : Json} {doc : Document} (hj : j.InClass)
    (h : k.readJson j = .ok doc) : k.readJson doc.toJson = .ok doc := by
  obtain ⟨d, hd, rfl⟩ := DocumentKind.readJson_eq_ok.mp h
  have hsound : d.Sound := (k.codec_sound).decodeJson hj hd
  have hround := readJson_toJson (k.build d) (DocumentKind.build_fits hsound k)
  rwa [DocumentKind.kind_build] at hround

end Document

/-- Writing and reading the documents of the services: every document whose integers and
instants fit the wire reads back from its JSON as itself; what any kind reads from a value in
class writes back to JSON that reads as it again; and every update policy reads back from its
JSON. -/
theorem document_json_round_trip :
    (∀ doc : Document, doc.Fits → doc.kind.readJson doc.toJson = .ok doc) ∧
    (∀ (k : DocumentKind) (j : Json) (doc : Document), j.InClass → k.readJson j = .ok doc →
      k.readJson doc.toJson = .ok doc) ∧
    (∀ p : UpdatePolicy, (UpdatePolicy.codec.decodeJson p.toJson).map UpdatePolicy.ofDecoded = .ok p) := by
  refine ⟨Document.readJson_toJson, fun _ _ _ => Document.readJson_idempotent, ?_⟩
  intro p
  obtain ⟨-, d, hd, -, hread⟩ := UpdatePolicy.readsBack p trivial
  rw [hd, ← hread]
  rfl

/-- A switchover scheduled in a leap second, written as second 60 with a fraction, reads back;
a state outside the known names reads as the unknown one, which is written as `UNKNOWN` and
reads back as it again. -/
theorem document_json_round_trip_leap_second :
    (Document.applyDocument ⟨some ⟨1751327999, 1500000000⟩, some .unknown⟩).Fits ∧
    DocumentKind.applyDocument.readJson
        (Document.applyDocument ⟨some ⟨1751327999, 1500000000⟩, some .unknown⟩).toJson =
      .ok (.applyDocument ⟨some ⟨1751327999, 1500000000⟩, some .unknown⟩) ∧
    (Json.obj [("state", .str "PAUSED")]).InClass ∧
    DocumentKind.updateStatus.readJson (.obj [("state", .str "PAUSED")]) =
      .ok (.updateStatus ⟨.unknown⟩) ∧
    DocumentKind.updateStatus.readJson (Document.updateStatus ⟨.unknown⟩).toJson =
      .ok (.updateStatus ⟨.unknown⟩) := by
  have hfits : (Document.applyDocument ⟨some ⟨1751327999, 1500000000⟩, some .unknown⟩).Fits := by
    show ApplyDocument.Fits _
    intro t ht
    cases ht
    exact ⟨by decide, .inr ⟨by decide, by decide⟩⟩
  have hclass : (Json.obj [("state", .str "PAUSED")]).InClass := by
    refine .obj fun m hm => ?_
    rcases List.mem_singleton.mp hm with rfl
    exact .str _
  have hread : DocumentKind.updateStatus.readJson (.obj [("state", .str "PAUSED")]) =
      .ok (.updateStatus ⟨.unknown⟩) :=
    DocumentKind.readJson_eq_ok.mpr ⟨_, record_decodeJson_of_eq [some (.str "PAUSED")] rfl (by decide)
      (.cons rfl .nil), rfl⟩
  exact ⟨hfits, document_json_round_trip.1 _ hfits, hclass, hread,
    document_json_round_trip.2.1 _ _ _ hclass hread⟩

end ReducedDowntime
