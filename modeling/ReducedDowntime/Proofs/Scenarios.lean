import ReducedDowntime.Proofs.Isolation

/-!
# The scenarios, stage by stage

Each scenario's trace is the sequence of its stages (`Trace.Seq`), as its text runs them:

* `Trace.Readiness`: the plug-in update, then a pre-check of the init spec;
* `Trace.FullUpgrade`: the plug-in update, a pre-check of the init spec, the configure call,
  a pre-check of the configured upgrade, the confirmation, the apply call and the final
  monitor;
* `Trace.UberUpgrade`: refused at once without a managing server; otherwise the plug-in
  update, the configure call, the confirmation, the apply call and the final monitor;
* `Trace.TwoPhase`: the plug-in update, the configure call, the confirmation, an apply that
  pauses before the switchover and a monitor; when it pauses, an apply straight through and
  the final monitor;
* `Trace.Cancellation`: the plug-in update, the configure call, a pre-check of the configured
  upgrade, the confirmation, the apply call, the cancel call and the final monitor.

`Settled.run` proves each description together with the two facts of `Settled`: a scenario
calls the manager only after a plug-in update that succeeds, and its appliance calls do not
depend on the manager.
-/

namespace ReducedDowntime

open ReducedDowntime.Flow

/-! ## Stages that call only the manager -/

theorem Trace.AppliedSpec.appliance {spec : ApplySpec} {r : Except Failure ApplyDocument}
    {t : Trace} (h : Trace.AppliedSpec spec r t) : t.appliance = [] := by
  unfold Trace.AppliedSpec Trace.AppliedAt at h
  split at h
  · exact h.2.2.1
  · obtain ⟨r₀, ⟨⟨happ, -⟩, -⟩, -⟩ := h
    exact happ

theorem Trace.Recovered.appliance {reapply : Bool} {doc : ApplyDocument}
    {m : Except Failure MonitorOutcome} {r : Except Failure ScenarioOutcome} {t : Trace}
    (h : Trace.Recovered reapply doc m r t) : t.appliance = [] := by
  unfold Trace.Recovered at h
  split at h
  · exact h.1.2.1
  · split at h
    · obtain ⟨r₀, ⟨⟨happ, -⟩, -⟩, -⟩ := h
      exact happ
    · split at h
      · obtain ⟨r₀, ⟨⟨happ, -⟩, -⟩, -⟩ := h
        exact happ
      · exact h.1.2.1
    · exact h.1.2.1

theorem Trace.MonitoredAndRecovered.appliance {s : Session} {autocancel : Bool}
    {doc : ApplyDocument} {reapply : Bool} {r : Except Failure ScenarioOutcome} {t : Trace}
    (h : Trace.MonitoredAndRecovered s autocancel doc reapply r t) : t.appliance = [] := by
  obtain ⟨m, t₁, t₂, hw, hrec, -, rfl⟩ := h
  simp [hw.1, hrec.appliance]

namespace Flow.ManagerOnly

theorem precheck (s : Session) (spec : Option InitSpec) :
    ManagerOnly (s.precheck spec)
      (Trace.Checked (spec.map (·.toDocument.value)) s.precheckBudget) :=
  of_spec (Spec.precheck s spec) fun _ _ h => h.1

theorem ensurePassed (res : CheckResult) :
    ManagerOnly (Scenario.ensurePassed res) (Trace.Passed res) :=
  of_spec (Spec.ensurePassed res) fun _ _ h => h.2.2.1

theorem configure (spec : InitSpec) : ManagerOnly (Session.configure spec) (Trace.Configured spec) :=
  of_spec (Spec.configure spec) fun _ _ h => h.1.1

theorem confirmApply (settings : ScenarioSettings) :
    ManagerOnly (Scenario.confirmApply settings) (Trace.Confirmed settings) :=
  of_spec (Spec.confirmApply settings) fun _ _ h => h.2.1

theorem apply (spec : ApplySpec) : ManagerOnly (Session.apply spec) (Trace.AppliedSpec spec) :=
  of_spec (Spec.apply spec) fun _ _ h => h.appliance

theorem cancel : ManagerOnly Session.cancel Trace.Cancelled :=
  of_spec Spec.cancel fun _ _ h => h.1.1

theorem monitor (s : Session) (autocancel : Bool) (doc : ApplyDocument) :
    ManagerOnly (s.monitor autocancel doc) (Monitor.Watched s.monitoring autocancel doc) :=
  of_spec (Monitor.Spec.monitor _ _ _) fun _ _ h => h.1

theorem monitorWithRecovery (s : Session) (autocancel : Bool) (doc : ApplyDocument)
    (reapply : Bool) :
    ManagerOnly (Scenario.monitorWithRecovery s autocancel doc reapply)
      (Trace.MonitoredAndRecovered s autocancel doc reapply) :=
  of_spec (Spec.monitorWithRecovery s autocancel doc reapply) fun _ _ h => h.appliance

theorem pure {α : Type} (a : α) :
    ManagerOnly (Pure.pure a : Flow α) fun r t => r = .ok a ∧ t.Quiet :=
  of_spec (Spec.pure a) fun _ _ h => h.2.2.1

end Flow.ManagerOnly

/-! ## The scenarios -/

/-- The readiness check: the plug-in update, then the pre-checks of the init spec with
automatic cancellation, name preservation and the managing server left out. -/
def Trace.Readiness (settings : ScenarioSettings) (request : UpgradeRequest) :
    Except Failure ScenarioOutcome → Trace → Prop :=
  Trace.Seq (Trace.PluginUpdated settings request) fun _ =>
  Trace.Seq (Trace.Checked (some (InitSpec.toDocument { request.init with
      autocancellation := false, preserveOriginalName := false, managingServer := none }).value)
    settings.precheckBudget) fun res =>
  Trace.Seq (Trace.Passed res) fun _ r t => r = .ok .precheckPassed ∧ t.Quiet

/-- The full upgrade: pre-checked before and after the configure call, then applied and
monitored. -/
def Trace.FullUpgrade (settings : ScenarioSettings) (request : UpgradeRequest) :
    Except Failure ScenarioOutcome → Trace → Prop :=
  Trace.Seq (Trace.SpecMade request.switchoverInHours false) fun spec =>
  Trace.Seq (Trace.PluginUpdated settings request) fun _ =>
  Trace.Seq (Trace.Checked
    (some (InitSpec.toDocument { request.init with managingServer := none }).value)
    settings.precheckBudget) fun res =>
  Trace.Seq (Trace.Passed res) fun _ =>
  Trace.Seq (Trace.Configured { request.init with managingServer := none }) fun _ =>
  Trace.Seq (Trace.Checked none settings.precheckBudget) fun res =>
  Trace.Seq (Trace.Passed res) fun _ =>
  Trace.Seq (Trace.Confirmed settings) fun _ =>
  Trace.Seq (Trace.AppliedSpec spec) fun doc =>
  Trace.MonitoredAndRecovered (Scenario.session settings settings.monitor)
    request.init.autocancellation doc true

/-- The refusal of a managed server's upgrade without its managing server. -/
def Trace.RefusedUber (r : Except Failure ScenarioOutcome) (t : Trace) : Prop :=
  r = .error (Failure.ofError (.invalidConfig
    "uber-upgrade requires --uber-vc-hostname, --uber-vc-username and --uber-vc-password")) ∧
    t.Quiet

/-- The upgrade of a managed server: refused without its managing server, otherwise configured,
applied and monitored. -/
def Trace.UberUpgrade (settings : ScenarioSettings) (request : UpgradeRequest) :
    Except Failure ScenarioOutcome → Trace → Prop :=
  if request.init.managingServer.isNone then Trace.RefusedUber
  else
    Trace.Seq (Trace.SpecMade request.switchoverInHours false) fun spec =>
    Trace.Seq (Trace.PluginUpdated settings request) fun _ =>
    Trace.Seq (Trace.Configured request.init) fun _ =>
    Trace.Seq (Trace.Confirmed settings) fun _ =>
    Trace.Seq (Trace.AppliedSpec spec) fun doc =>
    Trace.MonitoredAndRecovered (Scenario.session settings settings.monitor)
      request.init.autocancellation doc true

/-- After the preparation's monitor: a pause before the switchover is applied straight through
and monitored again; any other outcome ends the scenario. -/
def Trace.AfterPreparation (settings : ScenarioSettings) (request : UpgradeRequest) :
    MonitorOutcome → Except Failure ScenarioOutcome → Trace → Prop
  | .pausedBeforeSwitchover =>
    Trace.Seq (Trace.AppliedSpec ApplySpec.runThrough) fun switchover =>
    Trace.MonitoredAndRecovered (Scenario.session settings settings.monitor)
      request.init.autocancellation switchover true
  | o => fun r t => r = .ok (.finished o) ∧ t.Quiet

/-- The upgrade in two phases: prepared up to a pause before the switchover, then switched
over. -/
def Trace.TwoPhase (settings : ScenarioSettings) (request : UpgradeRequest) :
    Except Failure ScenarioOutcome → Trace → Prop :=
  Trace.Seq (Trace.PluginUpdated settings request) fun _ =>
  Trace.Seq (Trace.Configured { request.init with managingServer := none }) fun _ =>
  Trace.Seq (Trace.Confirmed settings) fun _ =>
  Trace.Seq (Trace.AppliedSpec ApplySpec.pauseFirst) fun prepare =>
  Trace.Seq (Monitor.Watched settings.monitor request.init.autocancellation prepare)
    (Trace.AfterPreparation settings request)

/-- The cancellation: configured, pre-checked, applied, cancelled, and the cancellation
monitored. -/
def Trace.Cancellation (settings : ScenarioSettings) (request : UpgradeRequest) :
    Except Failure ScenarioOutcome → Trace → Prop :=
  Trace.Seq (Trace.SpecMade request.switchoverInHours false) fun spec =>
  Trace.Seq (Trace.PluginUpdated settings request) fun _ =>
  Trace.Seq (Trace.Configured { request.init with managingServer := none }) fun _ =>
  Trace.Seq (Trace.Checked none settings.precheckBudget) fun res =>
  Trace.Seq (Trace.Passed res) fun _ =>
  Trace.Seq (Trace.Confirmed settings) fun _ =>
  Trace.Seq (Trace.AppliedSpec spec) fun doc =>
  Trace.Seq Trace.Cancelled fun _ =>
  Trace.MonitoredAndRecovered (Scenario.session settings settings.cancellationMonitor)
    request.init.autocancellation doc false

/-- The trace of a scenario of each kind. -/
def Trace.OfScenario (settings : ScenarioSettings) (kind : ScenarioKind)
    (request : UpgradeRequest) : Except Failure ScenarioOutcome → Trace → Prop :=
  match kind with
  | .readiness => Trace.Readiness settings request
  | .fullUpgrade => Trace.FullUpgrade settings request
  | .uberUpgrade => Trace.UberUpgrade settings request
  | .twoPhase => Trace.TwoPhase settings request
  | .cancellation => Trace.Cancellation settings request

/-! ## Each scenario runs as described -/

namespace Flow.Settled

variable (settings : ScenarioSettings) (request : UpgradeRequest)

theorem readiness :
    Settled request.init.targetUpgradeRepo settings.pluginBudget
      (Scenario.readiness settings request) (Trace.Readiness settings request) := by
  unfold Scenario.readiness Trace.Readiness
  refine bind_quiet (Spec.step (by decide)) (Blind.step _ _) ?_
  refine plugin fun _ => ?_
  refine ManagerOnly.bind_quiet (Spec.step (by decide)) ?_
  refine ManagerOnly.bind_quiet (Spec.emit _ _ _) ?_
  refine ManagerOnly.bind_quiet (Spec.step (by decide)) ?_
  refine ManagerOnly.seq (ManagerOnly.precheck _ _) fun res => ?_
  exact ManagerOnly.seq (ManagerOnly.ensurePassed res) fun _ => ManagerOnly.pure _

theorem fullUpgrade :
    Settled request.init.targetUpgradeRepo settings.pluginBudget
      (Scenario.fullUpgrade settings request) (Trace.FullUpgrade settings request) := by
  unfold Scenario.fullUpgrade Trace.FullUpgrade
  refine seq_idle (Spec.applySpec _ _) (fun _ _ h => ⟨h.2.1, h.2.2.1⟩) (Blind.applySpec _ _)
    fun spec => ?_
  refine bind_quiet (Spec.step (by decide)) (Blind.step _ _) ?_
  refine plugin fun _ => ?_
  refine ManagerOnly.bind_quiet (Spec.step (by decide)) ?_
  refine ManagerOnly.seq (ManagerOnly.precheck _ _) fun res => ?_
  refine ManagerOnly.seq (ManagerOnly.ensurePassed res) fun _ => ?_
  refine ManagerOnly.bind_quiet (Spec.step (by decide)) ?_
  refine ManagerOnly.seq (ManagerOnly.configure _) fun _ => ?_
  refine ManagerOnly.bind_quiet (Spec.step (by decide)) ?_
  refine ManagerOnly.seq (ManagerOnly.precheck _ _) fun res => ?_
  refine ManagerOnly.seq (ManagerOnly.ensurePassed res) fun _ => ?_
  refine ManagerOnly.bind_quiet (Spec.step (by decide)) ?_
  refine ManagerOnly.seq (ManagerOnly.confirmApply _) fun _ => ?_
  refine ManagerOnly.seq (ManagerOnly.apply _) fun doc => ?_
  refine ManagerOnly.bind_quiet (Spec.step (by decide)) ?_
  exact ManagerOnly.monitorWithRecovery _ _ _ _

theorem uberUpgrade :
    Settled request.init.targetUpgradeRepo settings.pluginBudget
      (Scenario.uberUpgrade settings request) (Trace.UberUpgrade settings request) := by
  unfold Scenario.uberUpgrade Trace.UberUpgrade
  by_cases hnone : request.init.managingServer.isNone = true
  · simp only [hnone, if_true]
    exact fail_bind _
  · simp only [hnone, Bool.false_eq_true, if_false]
    refine seq_idle (Spec.applySpec _ _) (fun _ _ h => ⟨h.2.1, h.2.2.1⟩) (Blind.applySpec _ _)
      fun spec => ?_
    refine bind_quiet (Spec.step (by decide)) (Blind.step _ _) ?_
    refine plugin fun _ => ?_
    refine ManagerOnly.bind_quiet (Spec.step (by decide)) ?_
    refine ManagerOnly.seq (ManagerOnly.configure _) fun _ => ?_
    refine ManagerOnly.bind_quiet (Spec.step (by decide)) ?_
    refine ManagerOnly.seq (ManagerOnly.confirmApply _) fun _ => ?_
    refine ManagerOnly.seq (ManagerOnly.apply _) fun doc => ?_
    refine ManagerOnly.bind_quiet (Spec.step (by decide)) ?_
    exact ManagerOnly.monitorWithRecovery _ _ _ _

theorem twoPhase :
    Settled request.init.targetUpgradeRepo settings.pluginBudget
      (Scenario.twoPhase settings request) (Trace.TwoPhase settings request) := by
  unfold Scenario.twoPhase Trace.TwoPhase
  refine bind_quiet (Spec.step (by decide)) (Blind.step _ _) ?_
  refine plugin fun _ => ?_
  refine ManagerOnly.bind_quiet (Spec.step (by decide)) ?_
  refine ManagerOnly.seq (ManagerOnly.configure _) fun _ => ?_
  refine ManagerOnly.bind_quiet (Spec.step (by decide)) ?_
  refine ManagerOnly.seq (ManagerOnly.confirmApply _) fun _ => ?_
  refine ManagerOnly.seq (ManagerOnly.apply _) fun prepare => ?_
  refine ManagerOnly.bind_quiet (Spec.step (by decide)) ?_
  refine ManagerOnly.seq (ManagerOnly.monitor _ _ _) fun o => ?_
  -- the rest of the scenario depends on how the preparation's monitor ended
  cases o with
  | pausedBeforeSwitchover =>
    refine ManagerOnly.bind_quiet (Spec.step (by decide)) ?_
    refine ManagerOnly.seq (ManagerOnly.apply _) fun switchover => ?_
    refine ManagerOnly.bind_quiet (Spec.step (by decide)) ?_
    exact ManagerOnly.monitorWithRecovery _ _ _ _
  | upgraded => exact ManagerOnly.bind_quiet (Spec.emit _ _ _) (ManagerOnly.pure _)
  | canceled => exact ManagerOnly.bind_quiet (Spec.emit _ _ _) (ManagerOnly.pure _)

theorem cancellation :
    Settled request.init.targetUpgradeRepo settings.pluginBudget
      (Scenario.cancellation settings request) (Trace.Cancellation settings request) := by
  unfold Scenario.cancellation Trace.Cancellation
  refine seq_idle (Spec.applySpec _ _) (fun _ _ h => ⟨h.2.1, h.2.2.1⟩) (Blind.applySpec _ _)
    fun spec => ?_
  refine bind_quiet (Spec.step (by decide)) (Blind.step _ _) ?_
  refine plugin fun _ => ?_
  refine ManagerOnly.bind_quiet (Spec.step (by decide)) ?_
  refine ManagerOnly.seq (ManagerOnly.configure _) fun _ => ?_
  refine ManagerOnly.bind_quiet (Spec.step (by decide)) ?_
  refine ManagerOnly.seq (ManagerOnly.precheck _ _) fun res => ?_
  refine ManagerOnly.seq (ManagerOnly.ensurePassed res) fun _ => ?_
  refine ManagerOnly.bind_quiet (Spec.step (by decide)) ?_
  refine ManagerOnly.seq (ManagerOnly.confirmApply _) fun _ => ?_
  refine ManagerOnly.seq (ManagerOnly.apply _) fun doc => ?_
  refine ManagerOnly.bind_quiet (Spec.sleep _) ?_
  refine ManagerOnly.bind_quiet (Spec.step (by decide)) ?_
  refine ManagerOnly.seq ManagerOnly.cancel fun _ => ?_
  refine ManagerOnly.bind_quiet (Spec.step (by decide)) ?_
  exact ManagerOnly.monitorWithRecovery _ _ _ _

/-- Every scenario runs as its trace describes, calls the manager only after a plug-in update
that succeeds, and makes its appliance calls before its first call to the manager. -/
theorem run (kind : ScenarioKind) :
    Settled request.init.targetUpgradeRepo settings.pluginBudget
      (Scenario.run settings kind request) (Trace.OfScenario settings kind request) := by
  unfold Scenario.run
  refine bind_quiet (Spec.emit _ _ _) (Blind.emit _ _ _) ?_
  cases kind
  · exact readiness settings request
  · exact fullUpgrade settings request
  · exact uberUpgrade settings request
  · exact twoPhase settings request
  · exact cancellation settings request

end Flow.Settled

end ReducedDowntime
