import ReducedDowntime.Proofs.ReadBack
import ReducedDowntime.Wire.Kinds
import ReducedDowntime.Service.Appliance

/-!
# Documents read back what they write

Each document of the services reads back from the JSON it is written as, whenever its
integers and instants fit the wire (`Fits`): integers at most the largest of 64 bits (a
negative one is written in its own class and read back whatever its size), instants that
RFC 3339 text can carry. Optional members are left out when absent and read back as absent;
names outside a set are written as `UNKNOWN`, which reads back as the unknown case; an
empty list of message arguments is left out and takes its default.

Each lemma states what the record's members are (`values`) and what each field decodes to,
from the read-back lemmas of the codecs in `Proofs.ReadBack`.
-/

namespace ReducedDowntime

open Json

/-! ## What the documents can carry -/

/-- Counters whose integers are at most the largest of 64 bits. -/
def Progress.Fits (p : Progress) : Prop := p.total ≤ Codec.i64Max ∧ p.completed ≤ Codec.i64Max

/-- A notification whose time RFC 3339 text can carry. -/
def Notification.Fits (n : Notification) : Prop := ∀ t ∈ n.time, t.Representable

/-- Notifications that all fit. -/
def Notifications.Fits (n : Notifications) : Prop :=
  (∀ x ∈ n.errors, x.Fits) ∧ (∀ x ∈ n.warnings, x.Fits) ∧ ∀ x ∈ n.info, x.Fits

/-- Upgrade information whose switchover time and replication count fit. -/
def UpgradeInfo.Fits (u : UpgradeInfo) : Prop :=
  (∀ t ∈ u.startSwitchover, t.Representable) ∧ ∀ i ∈ u.remainingReplicationData, i ≤ Codec.i64Max

/-- An upgrade status whose information, counters and notifications fit. -/
def UpgradeStatus.Fits (s : UpgradeStatus) : Prop :=
  s.upgradeInfo.Fits ∧ (∀ p ∈ s.progress, p.Fits) ∧ ∀ n ∈ s.notifications, n.Fits

/-- A pre-check result whose notifications fit. -/
def CheckResult.Fits (c : CheckResult) : Prop := c.notifications.Fits

/-- A task whose counters and result fit. -/
def TaskInfo.Fits (t : TaskInfo) : Prop := (∀ p ∈ t.progress, p.Fits) ∧ ∀ r ∈ t.result, r.Fits

/-- An apply document whose switchover time fits. -/
def ApplyDocument.Fits (d : ApplyDocument) : Prop := ∀ t ∈ d.startSwitchover, t.Representable

/-! ## Each document reads back what it writes -/

theorem Message.readsBack :
    Codec.ReadsBack Message.codec (fun _ => True) Message.toJson Message.ofDecoded := by
  refine Codec.ReadsBack.of_fills rfl (by decide)
    (fun m => [m.id.map Json.str, some (.str m.defaultMessage),
      if m.args.isEmpty then none else some (.arr (m.args.map Json.str))]) ?write ?fill
  case write =>
    rintro ⟨id, text, args⟩
    cases args <;> simp [Message.toJson]
  case fill =>
    rintro ⟨id, text, args⟩ -
    obtain ⟨d0, h0, r0⟩ := Codec.string_readsBack.fill_option "id" (o := id) (fun _ _ => trivial)
    obtain ⟨d1, h1, r1⟩ := Codec.string_readsBack.fill
      (f := defaultField "default_message" Codec.string (.text "")) rfl (a := text) trivial
    -- the arguments are left out when there are none, and then take their default
    have hargs : ∃ d2, (defaultField "args" (Codec.list Codec.string) (.list [])).Fill
        (if args.isEmpty then none else some (.arr (args.map Json.str))) d2 ∧
        d2.asList.map Decoded.asText = args := by
      cases args with
      | nil => exact ⟨.list [], rfl, rfl⟩
      | cons a as => exact (Codec.list_readsBack Codec.string_readsBack).fill rfl (fun _ _ => trivial)
    obtain ⟨d2, h2, r2⟩ := hargs
    refine ⟨[d0, d1, d2], .cons h0 (.cons h1 (.cons h2 .nil)), ?_⟩
    simp only [Message.ofDecoded, Decoded.field, List.getD_cons_zero, List.getD_cons_succ, r0, r1, r2]

theorem ErrorInfo.readsBack :
    Codec.ReadsBack ErrorInfo.codec (fun _ => True) ErrorInfo.toJson ErrorInfo.ofDecoded := by
  refine Codec.ReadsBack.of_fills rfl (by decide)
    (fun e => [some (.arr (e.messages.map Message.toJson))]) (fun _ => rfl) ?_
  rintro ⟨messages⟩ -
  obtain ⟨d, h, r⟩ := (Codec.list_readsBack Message.readsBack).fill
    (f := defaultField "messages" (Codec.list Message.codec) (.list [])) rfl (a := messages)
    (fun _ _ => trivial)
  refine ⟨[d], .cons h .nil, ?_⟩
  simp only [ErrorInfo.ofDecoded, Decoded.field, List.getD_cons_zero, r]

theorem Notification.readsBack :
    Codec.ReadsBack Notification.codec Notification.Fits Notification.toJson Notification.ofDecoded := by
  refine Codec.ReadsBack.of_fills rfl (by decide)
    (fun n => [n.id.map Json.str, n.time.map instantJson, some n.message.toJson,
      n.resolution.map Message.toJson]) ?_ ?_
  · intro n
    simp [Notification.toJson]
  · rintro ⟨id, time, message, resolution⟩ htime
    obtain ⟨d0, h0, r0⟩ := Codec.string_readsBack.fill_option "id" (o := id) (fun _ _ => trivial)
    obtain ⟨d1, h1, r1⟩ := Codec.instant_readsBack.fill_option "time" (o := time) htime
    obtain ⟨d2, h2, r2⟩ := Message.readsBack.fill (f := requiredField "message" Message.codec) rfl
      (a := message) trivial
    obtain ⟨d3, h3, r3⟩ := Message.readsBack.fill_option "resolution" (o := resolution)
      (fun _ _ => trivial)
    refine ⟨[d0, d1, d2, d3], .cons h0 (.cons h1 (.cons h2 (.cons h3 .nil))), ?_⟩
    simp only [Notification.ofDecoded, Decoded.field, List.getD_cons_zero, List.getD_cons_succ,
      r0, r1, r2, r3]

theorem Notifications.readsBack :
    Codec.ReadsBack Notifications.codec Notifications.Fits Notifications.toJson
      Notifications.ofDecoded := by
  refine Codec.ReadsBack.of_fills rfl (by decide)
    (fun n => [some (.arr (n.errors.map Notification.toJson)),
      some (.arr (n.warnings.map Notification.toJson)), some (.arr (n.info.map Notification.toJson))])
    (fun _ => rfl) ?_
  rintro ⟨errors, warnings, info⟩ ⟨herrors, hwarnings, hinfo⟩
  have hlist := Codec.list_readsBack Notification.readsBack
  obtain ⟨d0, h0, r0⟩ := hlist.fill
    (f := defaultField "errors" (Codec.list Notification.codec) (.list [])) rfl herrors
  obtain ⟨d1, h1, r1⟩ := hlist.fill
    (f := defaultField "warnings" (Codec.list Notification.codec) (.list [])) rfl hwarnings
  obtain ⟨d2, h2, r2⟩ := hlist.fill
    (f := defaultField "info" (Codec.list Notification.codec) (.list [])) rfl hinfo
  refine ⟨[d0, d1, d2], .cons h0 (.cons h1 (.cons h2 .nil)), ?_⟩
  simp only [Notifications.ofDecoded, Decoded.field, List.getD_cons_zero, List.getD_cons_succ,
    r0, r1, r2]

theorem Progress.readsBack :
    Codec.ReadsBack Progress.codec Progress.Fits Progress.toJson Progress.ofDecoded := by
  refine Codec.ReadsBack.of_fills rfl (by decide)
    (fun p => [some (Json.int p.total), some (Json.int p.completed), p.message.map Message.toJson])
    ?_ ?_
  · intro p
    simp [Progress.toJson]
  · rintro ⟨total, completed, message⟩ ⟨htotal, hcompleted⟩
    obtain ⟨d0, h0, r0⟩ := Codec.int64_readsBack.fill
      (f := defaultField "total" Codec.int64 (.int 0)) rfl htotal
    obtain ⟨d1, h1, r1⟩ := Codec.int64_readsBack.fill
      (f := defaultField "completed" Codec.int64 (.int 0)) rfl hcompleted
    obtain ⟨d2, h2, r2⟩ := Message.readsBack.fill_option "message" (o := message)
      (fun _ _ => trivial)
    refine ⟨[d0, d1, d2], .cons h0 (.cons h1 (.cons h2 .nil)), ?_⟩
    simp only [Progress.ofDecoded, Decoded.field, List.getD_cons_zero, List.getD_cons_succ,
      r0, r1, r2]

/-- Each status is written by its name, which reads back to it. -/
theorem OperationStatus.readsBack :
    Codec.ReadsBack OperationStatus.codec (fun _ => True) (fun s => .str s.name)
      (OperationStatus.ofName ∘ Decoded.asText) :=
  Codec.oneOf_readsBack (fun s => by cases s <;> rfl) (fun s => by cases s <;> rfl)

theorem UpgradeState.readsBack :
    Codec.ReadsBack UpgradeState.codec (fun _ => True) (fun s => .str s.name)
      (UpgradeState.ofName ∘ Decoded.asText) :=
  Codec.oneOf_readsBack (fun s => by cases s <;> rfl) (fun s => by cases s <;> rfl)

theorem PausePolicy.readsBack :
    Codec.ReadsBack PausePolicy.codec (fun _ => True) (fun p => .str p.name)
      (PausePolicy.ofName ∘ Decoded.asText) :=
  Codec.oneOf_readsBack (fun p => by cases p <;> rfl) (fun p => by cases p <;> rfl)

theorem UpdateState.readsBack :
    Codec.ReadsBack UpdateState.codec (fun _ => True) (fun s => .str s.name)
      (UpdateState.ofName ∘ Decoded.asText) :=
  Codec.oneOf_readsBack (fun s => by cases s <;> rfl) (fun s => by cases s <;> rfl)

theorem UpgradeInfo.readsBack :
    Codec.ReadsBack UpgradeInfo.codec UpgradeInfo.Fits UpgradeInfo.toJson UpgradeInfo.ofDecoded := by
  refine Codec.ReadsBack.of_fills rfl (by decide)
    (fun u => [u.upgradeTo.map Json.str, u.pause.map (fun p => Json.str p.name),
      u.startSwitchover.map instantJson, u.remainingReplicationData.map Json.int,
      u.error.map ErrorInfo.toJson]) ?_ ?_
  · intro u
    simp [UpgradeInfo.toJson]
  · rintro ⟨upgradeTo, pause, start, remaining, error⟩ ⟨hstart, hremaining⟩
    obtain ⟨d0, h0, r0⟩ := Codec.string_readsBack.fill_option "upgrade_to" (o := upgradeTo)
      (fun _ _ => trivial)
    obtain ⟨d1, h1, r1⟩ := PausePolicy.readsBack.fill_option "pause" (o := pause) (fun _ _ => trivial)
    obtain ⟨d2, h2, r2⟩ := Codec.instant_readsBack.fill_option "start_switchover" (o := start) hstart
    obtain ⟨d3, h3, r3⟩ := Codec.int64_readsBack.fill_option "remaining_replication_data"
      (o := remaining) hremaining
    obtain ⟨d4, h4, r4⟩ := ErrorInfo.readsBack.fill_option "error" (o := error) (fun _ _ => trivial)
    refine ⟨[d0, d1, d2, d3, d4], .cons h0 (.cons h1 (.cons h2 (.cons h3 (.cons h4 .nil)))), ?_⟩
    simp only [UpgradeInfo.ofDecoded, Decoded.field, List.getD_cons_zero, List.getD_cons_succ,
      r0, r1, r2, r3, r4]

theorem UpgradeStatus.readsBack :
    Codec.ReadsBack UpgradeStatus.codec UpgradeStatus.Fits UpgradeStatus.toJson
      UpgradeStatus.ofDecoded := by
  refine Codec.ReadsBack.of_fills rfl (by decide)
    (fun s => [some (.str s.status.name), s.currentState.map (fun x => Json.str x.name),
      s.desiredState.map (fun x => Json.str x.name), some s.upgradeInfo.toJson,
      s.progress.map Progress.toJson, s.notifications.map Notifications.toJson,
      s.error.map ErrorInfo.toJson]) ?_ ?_
  · intro s
    simp [UpgradeStatus.toJson]
  · rintro ⟨status, current, desired, info, progress, notifications, error⟩
      ⟨hinfo, hprogress, hnotifications⟩
    obtain ⟨d0, h0, r0⟩ := OperationStatus.readsBack.fill
      (f := requiredField "status" OperationStatus.codec) rfl (a := status) trivial
    obtain ⟨d1, h1, r1⟩ := UpgradeState.readsBack.fill_option "current_state" (o := current)
      (fun _ _ => trivial)
    obtain ⟨d2, h2, r2⟩ := UpgradeState.readsBack.fill_option "desired_state" (o := desired)
      (fun _ _ => trivial)
    obtain ⟨d3, h3, r3⟩ := UpgradeInfo.readsBack.fill
      (f := defaultField "upgrade_info" UpgradeInfo.codec UpgradeInfo.emptyDecoded) rfl hinfo
    obtain ⟨d4, h4, r4⟩ := Progress.readsBack.fill_option "progress" (o := progress) hprogress
    obtain ⟨d5, h5, r5⟩ := Notifications.readsBack.fill_option "notifications" (o := notifications)
      hnotifications
    obtain ⟨d6, h6, r6⟩ := ErrorInfo.readsBack.fill_option "error" (o := error) (fun _ _ => trivial)
    refine ⟨[d0, d1, d2, d3, d4, d5, d6],
      .cons h0 (.cons h1 (.cons h2 (.cons h3 (.cons h4 (.cons h5 (.cons h6 .nil)))))), ?_⟩
    simp only [UpgradeStatus.ofDecoded, Decoded.field, List.getD_cons_zero, List.getD_cons_succ,
      r1, r2, r3, r4, r5, r6]
    exact congrArg (UpgradeStatus.mk · _ _ _ _ _ _) r0

theorem CheckResult.readsBack :
    Codec.ReadsBack CheckResult.codec CheckResult.Fits CheckResult.toJson CheckResult.ofDecoded := by
  refine Codec.ReadsBack.of_fills rfl (by decide) (fun c => [some c.notifications.toJson])
    (fun _ => rfl) ?_
  rintro ⟨notifications⟩ hnotifications
  obtain ⟨d, h, r⟩ := Notifications.readsBack.fill
    (f := defaultField "notifications" Notifications.codec Notifications.emptyDecoded) rfl
    hnotifications
  refine ⟨[d], .cons h .nil, ?_⟩
  simp only [CheckResult.ofDecoded, Decoded.field, List.getD_cons_zero, r]

theorem TaskInfo.readsBack :
    Codec.ReadsBack TaskInfo.codec TaskInfo.Fits TaskInfo.toJson TaskInfo.ofDecoded := by
  refine Codec.ReadsBack.of_fills rfl (by decide)
    (fun t => [some (.str t.status.name), t.progress.map Progress.toJson,
      t.error.map ErrorInfo.toJson, t.result.map CheckResult.toJson]) ?_ ?_
  · intro t
    simp [TaskInfo.toJson]
  · rintro ⟨status, progress, error, result⟩ ⟨hprogress, hresult⟩
    obtain ⟨d0, h0, r0⟩ := OperationStatus.readsBack.fill
      (f := requiredField "status" OperationStatus.codec) rfl (a := status) trivial
    obtain ⟨d1, h1, r1⟩ := Progress.readsBack.fill_option "progress" (o := progress) hprogress
    obtain ⟨d2, h2, r2⟩ := ErrorInfo.readsBack.fill_option "error" (o := error) (fun _ _ => trivial)
    obtain ⟨d3, h3, r3⟩ := CheckResult.readsBack.fill_option "result" (o := result) hresult
    refine ⟨[d0, d1, d2, d3], .cons h0 (.cons h1 (.cons h2 (.cons h3 .nil))), ?_⟩
    simp only [TaskInfo.ofDecoded, Decoded.field, List.getD_cons_zero, List.getD_cons_succ,
      r1, r2, r3]
    exact congrArg (TaskInfo.mk · _ _ _) r0

theorem UpdateSummary.readsBack :
    Codec.ReadsBack UpdateSummary.codec (fun _ => True) UpdateSummary.toJson
      UpdateSummary.ofDecoded := by
  refine Codec.ReadsBack.of_fills rfl (by decide)
    (fun u => [some (.str u.version), u.name.map Json.str]) ?_ ?_
  · intro u
    simp [UpdateSummary.toJson]
  · rintro ⟨version, name⟩ -
    obtain ⟨d0, h0, r0⟩ := Codec.string_readsBack.fill
      (f := requiredField "version" Codec.string) rfl (a := version) trivial
    obtain ⟨d1, h1, r1⟩ := Codec.string_readsBack.fill_option "name" (o := name) (fun _ _ => trivial)
    refine ⟨[d0, d1], .cons h0 (.cons h1 .nil), ?_⟩
    simp only [UpdateSummary.ofDecoded, Decoded.field, List.getD_cons_zero, List.getD_cons_succ,
      r0, r1]

theorem UpgradeableComponent.readsBack :
    Codec.ReadsBack UpgradeableComponent.codec (fun _ => True) UpgradeableComponent.toJson
      UpgradeableComponent.ofDecoded := by
  refine Codec.ReadsBack.of_fills rfl (by decide) (fun c => [some (.str c.component)])
    (fun _ => rfl) ?_
  rintro ⟨component⟩ -
  obtain ⟨d, h, r⟩ := Codec.string_readsBack.fill
    (f := requiredField "component" Codec.string) rfl (a := component) trivial
  refine ⟨[d], .cons h .nil, ?_⟩
  simp only [UpgradeableComponent.ofDecoded, Decoded.field, List.getD_cons_zero, r]

theorem UpdateStatus.readsBack :
    Codec.ReadsBack UpdateStatus.codec (fun _ => True) UpdateStatus.toJson UpdateStatus.ofDecoded := by
  refine Codec.ReadsBack.of_fills rfl (by decide) (fun u => [some (.str u.state.name)])
    (fun _ => rfl) ?_
  rintro ⟨state⟩ -
  obtain ⟨d, h, r⟩ := UpdateState.readsBack.fill
    (f := requiredField "state" UpdateState.codec) rfl (a := state) trivial
  refine ⟨[d], .cons h .nil, ?_⟩
  simp only [UpdateStatus.ofDecoded, Decoded.field, List.getD_cons_zero]
  exact congrArg UpdateStatus.mk r

theorem ApplyDocument.readsBack :
    Codec.ReadsBack ApplyDocument.codec ApplyDocument.Fits ApplyDocument.toJson
      ApplyDocument.ofDecoded := by
  refine Codec.ReadsBack.of_fills rfl (by decide)
    (fun d => [d.startSwitchover.map instantJson, d.pause.map (fun p => Json.str p.name)]) ?_ ?_
  · intro d
    simp [ApplyDocument.toJson]
  · rintro ⟨start, pause⟩ hstart
    obtain ⟨d0, h0, r0⟩ := Codec.instant_readsBack.fill_option "start_switchover" (o := start) hstart
    obtain ⟨d1, h1, r1⟩ := PausePolicy.readsBack.fill_option "pause" (o := pause) (fun _ _ => trivial)
    refine ⟨[d0, d1], .cons h0 (.cons h1 .nil), ?_⟩
    simp only [ApplyDocument.ofDecoded, Decoded.field, List.getD_cons_zero, List.getD_cons_succ,
      r0, r1]

theorem UpdatePolicy.readsBack :
    Codec.ReadsBack UpdatePolicy.codec (fun _ => True) UpdatePolicy.toJson UpdatePolicy.ofDecoded := by
  refine Codec.ReadsBack.of_fills rfl (by decide)
    (fun p => [some (.str p.customUrl), some (.bool p.autoStage), some (.bool p.certificateCheck),
      some (.arr (p.checkSchedule.map Json.str))]) (fun _ => rfl) ?_
  rintro ⟨url, autoStage, check, schedule⟩ -
  obtain ⟨d0, h0, r0⟩ := Codec.string_readsBack.fill
    (f := requiredField "custom_url" Codec.string) rfl (a := url) trivial
  obtain ⟨d1, h1, r1⟩ := Codec.boolean_readsBack.fill
    (f := requiredField "auto_stage" Codec.boolean) rfl (a := autoStage) trivial
  obtain ⟨d2, h2, r2⟩ := Codec.boolean_readsBack.fill
    (f := requiredField "certificate_check" Codec.boolean) rfl (a := check) trivial
  obtain ⟨d3, h3, r3⟩ := (Codec.list_readsBack Codec.string_readsBack).fill
    (f := requiredField "check_schedule" (Codec.list Codec.string)) rfl (a := schedule)
    (fun _ _ => trivial)
  refine ⟨[d0, d1, d2, d3], .cons h0 (.cons h1 (.cons h2 (.cons h3 .nil))), ?_⟩
  simp only [UpdatePolicy.ofDecoded, Decoded.field, List.getD_cons_zero, List.getD_cons_succ,
    r0, r1, r2, r3]

namespace InitDocument

@[simp] theorem at?_record (fs : List Decoded) (i : Nat) : at? (.record fs) i = fs.getD i .absent := rfl

theorem credentials_readsBack :
    Codec.ReadsBack credentialsCodec (fun _ => True) credentialsJson credentialsOfDecoded :=
  Codec.ReadsBack.of_fills rfl (by decide)
    (fun c => [some (.str c.hostname), some (.str c.username), some (.str c.password)]) (fun _ => rfl)
    (fun c _ => ⟨[.text c.hostname, .text c.username, .text c.password],
      .cons rfl (.cons rfl (.cons rfl .nil)), rfl⟩)

theorem location_readsBack :
    Codec.ReadsBack locationCodec (fun _ => True) locationJson
      (fun d => credentialsOfDecoded (at? (at? d 0) 0)) :=
  (credentials_readsBack.wrap "VcenterLocation" "connection").wrap "Location" "vcenter"

theorem cancellation_readsBack :
    Codec.ReadsBack cancellationCodec (fun _ => True) cancellationJson (fun d => flagOf (at? d 0)) :=
  Codec.boolean_readsBack.wrap "CancellationPolicy" "automatic"

theorem postUpgrade_readsBack :
    Codec.ReadsBack postUpgradeCodec (fun _ => True) postUpgradeJson
      (fun d => flagOf (at? (at? d 0) 0)) :=
  (Codec.boolean_readsBack.wrap "RenameVmPolicy" "preserve_original_vm_name").wrap
    "PostUpgradeConfiguration" "rename_vm_policy"

/-- The deployment part decodes to the appliance's strings and flag and to the two optional
credentials, each read back. -/
theorem deployment_decodeJson (d : InitDocument) :
    ∃ dLoc dSrc, deploymentCodec.decodeJson (deploymentJson d) =
        .ok (.record [.record [.text d.rootPassword, .record [.text d.ovaLocation, .flag d.sslVerify]],
          dLoc, dSrc]) ∧
      optionOf (fun loc => credentialsOfDecoded (at? (at? loc 0) 0)) dLoc = d.location ∧
      optionOf credentialsOfDecoded dSrc = d.sourceContainer := by
  obtain ⟨dLoc, hLoc, rLoc⟩ := location_readsBack.fill_option "location" (o := d.location)
    (fun _ _ => trivial)
  obtain ⟨dSrc, hSrc, rSrc⟩ := credentials_readsBack.fill_option "source_container"
    (o := d.sourceContainer) (fun _ _ => trivial)
  have hova : ovaCodec.decodeJson (.obj [("location", .str d.ovaLocation), ("ssl_verify", .bool d.sslVerify)]) =
      .ok (.record [.text d.ovaLocation, .flag d.sslVerify]) :=
    Json.record_decodeJson_of_eq [some (.str d.ovaLocation), some (.bool d.sslVerify)] rfl (by decide)
      (.cons rfl (.cons rfl .nil))
  have happliance : applianceCodec.decodeJson (.obj [("root_password", .str d.rootPassword),
      ("ova_info", .obj [("location", .str d.ovaLocation), ("ssl_verify", .bool d.sslVerify)])]) =
      .ok (.record [.text d.rootPassword, .record [.text d.ovaLocation, .flag d.sslVerify]]) :=
    Json.record_decodeJson_of_eq [some (.str d.rootPassword), some (.obj [("location", .str d.ovaLocation),
      ("ssl_verify", .bool d.sslVerify)])] rfl (by decide) (.cons rfl (.cons hova .nil))
  refine ⟨dLoc, dSrc, ?_, rLoc, rSrc⟩
  refine Json.record_decodeJson_of_eq [some _, d.location.map locationJson,
    d.sourceContainer.map credentialsJson] ?_ (by decide) (.cons happliance (.cons hLoc (.cons hSrc .nil)))
  simp [deploymentJson]

theorem readsBack : Codec.ReadsBack codec (fun _ => True) toJson ofDecoded := by
  refine Codec.ReadsBack.of_fills rfl (by decide)
    (fun d => [some (.str d.version), some (deploymentJson d), some (.obj [("address", .str d.repository)]),
      d.automaticCancellation.map cancellationJson, d.preserveOriginalVmName.map postUpgradeJson]) ?_ ?_
  · intro d
    simp [toJson]
  · intro d _
    obtain ⟨dLoc, dSrc, hdep, rLoc, rSrc⟩ := deployment_decodeJson d
    obtain ⟨dRepo, hRepo, rRepo⟩ := (Codec.string_readsBack.wrap "RepositorySpec" "address").fill
      (f := ⟨"repository", _, .required⟩) rfl (a := d.repository) trivial
    obtain ⟨dC, hC, rC⟩ := cancellation_readsBack.fill_option "cancellation_policy"
      (o := d.automaticCancellation) (fun _ _ => trivial)
    obtain ⟨dP, hP, rP⟩ := postUpgrade_readsBack.fill_option "post_upgrade_configuration"
      (o := d.preserveOriginalVmName) (fun _ _ => trivial)
    refine ⟨[.text d.version, _, dRepo, dC, dP],
      .cons rfl (.cons hdep (.cons hRepo (.cons hC (.cons hP .nil)))), ?_⟩
    have rRepo' : textOf (at? dRepo 0) = d.repository := rRepo
    have rC' : optionOf (fun c => flagOf (at? c 0)) dC = d.automaticCancellation := rC
    have rP' : optionOf (fun p => flagOf (at? (at? p 0) 0)) dP = d.preserveOriginalVmName := rP
    simp only [ofDecoded, at?_record, List.getD_cons_zero, List.getD_cons_succ, rLoc, rSrc, rRepo', rC',
      rP']
    rfl

end InitDocument

end ReducedDowntime
