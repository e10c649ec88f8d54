import ReducedDowntime.Proofs.Monitor

/-!
# The stages of a scenario

A scenario is a sequence of stages: the plug-in update, pre-checks, the configure call,
the confirmation, the apply call, the cancel call and the monitors. Each stage is stated
here once, as what its trace shows, so that a scenario is read as the sequence of its
stages (`Trace.Seq`) and nothing later unfolds a stage again.

* A call made inside a context line (`Trace.CalledWithin`, `Trace.Applied`): one exchange,
  or none when the manager refuses the call; a failure carries the line.
* A pre-check (`Trace.Checked`): a start call, then the task's state read until the wait
  reference `Precheck.awaitAnswers` ends.
* Steps that call no service: the confirmation, the check of a pre-check result, the
  resolution of an apply spec and the printed step headers.
-/

namespace ReducedDowntime

open ReducedDowntime.Flow

/-! ## Calls made inside a context -/

/-- A run that calls no service. -/
def Trace.Idle (t : Trace) : Prop := t.lifecycle = [] ∧ t.appliance = []

/-- One call to the manager, answered `accepted` or with an error, made inside a context
`line`: a failure carries the line, and a manager over its call limit refuses the call. -/
def Trace.CalledWithin (call : LifecycleCall) (line : String) (r : Except Failure Unit)
    (t : Trace) : Prop :=
  t.appliance = [] ∧
    (t.lifecycle = [] ∧ r = .error (Failure.halted callLimitText) ∨
      ∃ a : Except UpgradeError Unit, t.lifecycle = [(call, a.map fun _ => .accepted)] ∧
        r = a.mapError fun e => (Failure.ofError e).within line)

/-- An apply call inside its context, made with the clock read just before it. -/
def Trace.Applied (doc : ApplyDocument) (r : Except Failure Unit) (t : Trace) : Prop :=
  Trace.CalledWithin (.apply doc t.start) "Failed to apply the upgrade" r t ∧
    t.stop = tick t.start

/-- A call whose answer is mapped into a context is a call made inside that context. -/
theorem Trace.CalledWithin.of_asked {call : LifecycleCall} {line : String}
    {r : Except Failure Unit} {t : Trace}
    (h : ∃ r₀, Trace.AskedLifecycle call (fun _ => .accepted) r₀ t ∧
      r = r₀.mapError (·.within line)) :
    Trace.CalledWithin call line r t ∧ t.stop = t.start := by
  obtain ⟨r₀, ⟨happ, hstop, hcall⟩, rfl⟩ := h
  refine ⟨⟨happ, ?_⟩, hstop⟩
  rcases hcall with ⟨hl, rfl⟩ | ⟨a, hl, rfl⟩
  · -- a halt keeps no context
    exact .inl ⟨hl, rfl⟩
  · exact .inr ⟨a, hl, by cases a <;> rfl⟩

/-- Applying the document that `spec` resolves to at `now`, from one tick after `now`: a spec
that cannot be resolved fails before any call. -/
def Trace.AppliedAt (spec : ApplySpec) (now : Time.Instant) (r : Except Failure ApplyDocument)
    (t : Trace) : Prop :=
  match spec.toDocument now with
  | .error e => r = .error (Failure.ofError e) ∧ t.Quiet
  | .ok doc => ∃ r₀, Trace.Applied doc r₀ t ∧ r = (fun _ => doc) <$> r₀

/-- Resolving an apply spec against the clock and applying its document. -/
def Trace.AppliedSpec (spec : ApplySpec) (r : Except Failure ApplyDocument) (t : Trace) : Prop :=
  Trace.AppliedAt spec t.start r { t with start := tick t.start }

/-- Configuring the upgrade with the document of an init spec. -/
def Trace.Configured (spec : InitSpec) (r : Except Failure Unit) (t : Trace) : Prop :=
  Trace.CalledWithin (.configure spec.toDocument.value) "Failed to configure the upgrade" r t ∧
    t.stop = t.start

/-- Cancelling the upgrade. -/
def Trace.Cancelled (r : Except Failure Unit) (t : Trace) : Prop :=
  Trace.CalledWithin .cancel "Failed to cancel the upgrade" r t ∧ t.stop = t.start

/-! ## Steps that call no service -/

/-- Making an apply spec against the clock: no call, one tick of the clock. -/
def Trace.SpecMade (hours : Option Nat) (pause : Bool) (r : Except Failure ApplySpec)
    (t : Trace) : Prop :=
  r = (ApplySpec.make hours pause t.start).value.mapError Failure.ofError ∧
    { t with start := tick t.start }.Quiet

/-- The check of a pre-check result: one with error notifications fails the run with their
default messages joined by "; ". -/
def Trace.Passed (res : CheckResult) (r : Except Failure Unit) (t : Trace) : Prop :=
  r = (if res.notifications.hasErrors then
      .error (Failure.ofError (.precheckFailed
        ("; ".intercalate (res.notifications.errors.map (·.message.defaultMessage)))))
    else .ok ()) ∧ t.Quiet

/-- The confirmation before an apply, which calls no service and does not read the clock: when
the settings assume yes it passes with no prompt, and otherwise it shows one prompt and the
answer decides. -/
def Trace.Confirmed (settings : ScenarioSettings) (r : Except Failure Unit) (t : Trace) : Prop :=
  t.lifecycle = [] ∧ t.appliance = [] ∧ t.stop = t.start ∧
    (settings.assumeYes = true ∧ r = .ok () ∧ t.prompts = [] ∨
      settings.assumeYes = false ∧ ∃ a, t.prompts = [(0, a)] ∧ r = Scenario.confirmation a)

/-- Only a yes lets the run go on. -/
theorem Scenario.confirmation_eq_ok {a : PromptAnswer} (h : Scenario.confirmation a = .ok ()) :
    a = .yes := by
  cases a with
  | yes => rfl
  | no => cases h
  | failed text => cases h

/-! ## Pre-checks -/

/-- What the state of a pre-check task tells the wait: the task ended with a result, it failed
without one, or it is still going. -/
inductive TaskVerdict where
  | result (r : CheckResult)
  | noResult
  | wait

/-- A succeeded task gives its result, or an empty one, and a failed task gives its result if
it has one; any other state is waited out. -/
def TaskInfo.verdict (t : TaskInfo) : TaskVerdict :=
  match t.status with
  | .succeeded => .result (t.result.getD {})
  | .failed =>
    match t.result with
    | some r => .result r
    | none => .noResult
  | _ => .wait

/-- The wait for a pre-check result over the answers of the task endpoint, with `left` checks
left: how it ends, and the answers it leaves unread; `none` when the answers run out first. -/
def Precheck.awaitAnswers (b : Budget) :
    Nat → List (Except UpgradeError TaskInfo) →
      Option (Except UpgradeError CheckResult × List (Except UpgradeError TaskInfo))
  | 0, as => some (.error (b.timeout "upgrade pre-checks"), as)
  | _ + 1, [] => none
  | _ + 1, .error e :: as => some (.error e, as)
  | left + 1, .ok t :: as =>
    match t.verdict with
    | .result r => some (.ok r, as)
    | .noResult => some (.error .precheckNoResult, as)
    | .wait => awaitAnswers b left as

/-- The exchanges of task calls answered in turn by `as`. -/
def taskExchanges (task : String) (as : List (Except UpgradeError TaskInfo)) :
    List LifecycleExchange :=
  as.map fun a => (.taskInfo task, a.map .taskInfo)

/-- The wait for a task's result, as its trace shows it. -/
def Trace.Awaited (task : String) (b : Budget) (left : Nat) (r : Except Failure CheckResult)
    (t : Trace) : Prop :=
  t.appliance = [] ∧ t.stop = t.start ∧
    ∃ as, t.lifecycle = taskExchanges task as ∧ Trace.Follows (Precheck.awaitAnswers b left as) r

/-- A pre-check against `doc`, or against the configured upgrade: the start call, refused or
failed, or answered with a task whose result is then waited for. -/
def Trace.Checked (doc : Option InitDocument) (b : Budget) (r : Except Failure CheckResult)
    (t : Trace) : Prop :=
  t.appliance = [] ∧ t.stop = t.start ∧
    (t.lifecycle = [] ∧ r = .error (Failure.halted callLimitText) ∨
      (∃ e, t.lifecycle = [(.startCheck doc, .error e)] ∧ r = .error (Failure.ofError e)) ∨
      ∃ task as, t.lifecycle = (.startCheck doc, .ok (.task task)) :: taskExchanges task as ∧
        Trace.Follows (Precheck.awaitAnswers b b.retries.toNat as) r)

/-- One look at the task's state and what follows it: a result, or its absence, ends the wait
quietly, and any other state is waited out with `left` checks left. -/
def Trace.Looked (task : String) (b : Budget) (left : Nat) (ti : TaskInfo)
    (r : Except Failure CheckResult) (t : Trace) : Prop :=
  match ti.verdict with
  | .result res => r = .ok res ∧ t.Quiet
  | .noResult => r = .error (Failure.ofError .precheckNoResult) ∧ t.Quiet
  | .wait => Trace.Awaited task b left r t

/-! ## The plug-in update -/

/-- A run that calls only the appliance, along a prefix of one of the words `W`. -/
def Trace.ApplianceAlong (W : List ApplianceCall → Prop) (t : Trace) : Prop :=
  t.lifecycle = [] ∧ t.stop = t.start ∧ ∃ ds, W ds ∧ t.appliance.map Prod.fst <+: ds

/-- A run that makes one call to the appliance, or none when it fails. -/
def Trace.OneApplianceCall {α : Type} (call : ApplianceCall) (r : Except Failure α) (t : Trace) :
    Prop :=
  t.lifecycle = [] ∧ t.stop = t.start ∧ t.appliance.map Prod.fst <+: [call] ∧
    ∀ a, r = .ok a → t.appliance.map Prod.fst = [call]

/-- The calls of a plug-in update from `repo` that goes all the way: the policy, the pending
updates, the components and the install of a version, and at most `n` status checks. -/
def PluginUpdate.Word (repo : String) (n : Nat) (ds : List ApplianceCall) : Prop :=
  ∃ v k, k ≤ n ∧ ds = [.setPolicy (PluginUpdate.policyFor repo), .listPending, .listComponents v,
    .stageAndInstall v PluginUpdate.component] ++ List.replicate k .updateStatus

/-- The plug-in update of a scenario, from the request's repository within the plug-in budget. -/
def Trace.PluginUpdated (settings : ScenarioSettings) (request : UpgradeRequest)
    (_ : Except Failure Unit) (t : Trace) : Prop :=
  t.ApplianceAlong
    (PluginUpdate.Word request.init.targetUpgradeRepo settings.pluginBudget.retries.toNat)

theorem Trace.ApplianceAlong.of_quiet {W : List ApplianceCall → Prop} {t : Trace} (h : t.Quiet)
    (hW : ∃ ds, W ds) : t.ApplianceAlong W := by
  obtain ⟨hl, ha, hstop, -⟩ := h
  obtain ⟨ds, hds⟩ := hW
  exact ⟨hl, hstop, ds, hds, by simp [ha]⟩

theorem Trace.ApplianceAlong.mono {W W' : List ApplianceCall → Prop} {t : Trace}
    (h : t.ApplianceAlong W) (hW : ∀ ds, W ds → W' ds) : t.ApplianceAlong W' := by
  obtain ⟨hl, hstop, ds, hds, hpre⟩ := h
  exact ⟨hl, hstop, ds, hW ds hds, hpre⟩

theorem Trace.OneApplianceCall.of_asked {α : Type} {call : ApplianceCall}
    {wrap : α → ApplianceReply} {r : Except Failure α} {t : Trace}
    (h : Trace.AskedAppliance call wrap r t) : t.OneApplianceCall call r := by
  obtain ⟨hl, hstop, ⟨ha, hhalt⟩ | ⟨a, ha, hr⟩⟩ := h
  · refine ⟨hl, hstop, by simp [ha], fun a hr => ?_⟩
    rw [hhalt] at hr
    cases hr
  · exact ⟨hl, hstop, by simp [ha], fun _ _ => by simp [ha]⟩

/-! ## The final monitor and its recovery -/

/-- The recovery after the final monitor ended with `m`: a failed cancellation is cancelled
again, a failed upgrade is applied again with the same document when `reapply` is set, and
any other end is the run's end, with no call. -/
def Trace.Recovered (reapply : Bool) (doc : ApplyDocument) (m : Except Failure MonitorOutcome)
    (r : Except Failure ScenarioOutcome) (t : Trace) : Prop :=
  match m with
  | .ok o => t.Quiet ∧ r = .ok (.finished o)
  | .error f =>
    match f.error? with
    | some (.cancellationFailed _) => ∃ r₀, Trace.Cancelled r₀ t ∧ r = (fun _ => .cancelRetried) <$> r₀
    | some (.upgradeFailed _) =>
      if reapply then ∃ r₀, Trace.Applied doc r₀ t ∧ r = (fun _ => .upgradeReapplied) <$> r₀
      else t.Quiet ∧ r = .error f
    | _ => t.Quiet ∧ r = .error f

/-- The final monitor, then the recovery from how it ended. -/
def Trace.MonitoredAndRecovered (s : Session) (autocancel : Bool) (doc : ApplyDocument)
    (reapply : Bool) (r : Except Failure ScenarioOutcome) (t : Trace) : Prop :=
  ∃ m t₁ t₂, Monitor.Watched s.monitoring autocancel doc m t₁ ∧
    Trace.Recovered reapply doc m r t₂ ∧ t₁.stop = t₂.start ∧ t = t₁.append t₂

namespace Flow.Spec

/-- A run that first reads the clock is described from one tick later. -/
theorem clock_bind {β : Type} {g : Time.Instant → Flow β}
    {Q : Time.Instant → Except Failure β → Trace → Prop} (hg : ∀ c, (g c).Spec (Q c)) :
    (Flow.readClock >>= g).Spec (fun r t => Q t.start r { t with start := tick t.start }) :=
  bind Spec.readClock hg (fun _ _ h => by cases h.1)
    (fun c t₁ r t₂ h₁ h₂ hs => by
      obtain ⟨hc, hl, ha, hstop, hp⟩ := h₁
      cases hc
      have ht₂ : { t₁.append t₂ with start := tick (t₁.append t₂).start } = t₂ := by
        simp only [hl, ha, hp, Trace.append, List.nil_append, List.length_nil,
          Trace.shiftPrompts_zero, ← hstop, hs]
      rw [ht₂]
      exact h₂)

/-- A value of the unit type mapped to the unit value is itself. -/
theorem unit_map (r : Except Failure Unit) : (fun _ => ()) <$> r = r := by
  cases r <;> rfl

theorem configure (spec : InitSpec) : (Session.configure spec).Spec (Trace.Configured spec) :=
  bind_quiet (Spec.emit _ _ _) <| bind_quiet (Spec.logged _) <|
    (bind_quiet_right (Spec.within _ (Spec.askLifecycle _ fun _ => rfl))
      fun _ => Spec.emit _ _ _).mono
      fun r t ⟨r₀, h, hr⟩ => by
        rw [hr, unit_map]
        exact Trace.CalledWithin.of_asked h

theorem cancel : Session.cancel.Spec Trace.Cancelled :=
  bind_quiet (Spec.emit _ _ _) <|
    (bind_quiet_right (Spec.within _ (Spec.askLifecycle _ fun _ => rfl))
      fun _ => Spec.emit _ _ _).mono
      fun r t ⟨r₀, h, hr⟩ => by
        rw [hr, unit_map]
        exact Trace.CalledWithin.of_asked h

theorem applyDocument (doc : ApplyDocument) :
    (Session.applyDocument doc).Spec (Trace.Applied doc) := by
  have hcall : (Flow.within "Failed to apply the upgrade" (Lifecycle.apply doc) >>= fun _ =>
      Flow.emit .info .steps "Upgrade has been started.").Spec (Trace.Applied doc) := by
    refine (bind_quiet_right
      (Spec.within _ (clock_bind fun c => Spec.askLifecycle _ fun _ => rfl))
      fun _ => Spec.emit _ _ _).mono ?_
    rintro r t ⟨r₀, ⟨r₁, hasked, rfl⟩, rfl⟩
    obtain ⟨⟨happ, hcalled⟩, hstop⟩ := Trace.CalledWithin.of_asked ⟨r₁, hasked, rfl⟩
    rw [unit_map]
    exact ⟨⟨happ, hcalled⟩, hstop⟩
  unfold Session.applyDocument
  -- the announcement depends on the schedule and the pause, and is quiet in each case
  dsimp only
  split <;> exact bind_quiet (Spec.emit _ _ _) hcall

theorem apply (spec : ApplySpec) : (Session.apply spec).Spec (Trace.AppliedSpec spec) := by
  refine clock_bind fun now => ?_
  unfold Trace.AppliedAt
  cases spec.toDocument now with
  | error e =>
    exact bind (Spec.ofExcept _) (fun _ => (applyDocument _).seq fun _ => Spec.pure _)
      (fun e' t ⟨he, hq⟩ => ⟨he, hq⟩) (fun _ _ _ _ h => by cases h.1)
  | ok doc =>
    exact bind_quiet (Spec.ofExcept _) (bind_quiet_right (applyDocument doc) fun _ => Spec.pure _)

theorem applySpec (hours : Option Nat) (pause : Bool) :
    (Session.applySpec hours pause).Spec (Trace.SpecMade hours pause) :=
  clock_bind fun _ => bind_quiet (Spec.logged _) (Spec.ofExcept _)

theorem step {i : Nat} {steps : List String} (h : i < steps.length) :
    (Scenario.step i steps).Spec (fun r t => r = .ok () ∧ t.Quiet) := by
  unfold Scenario.step Report.stepHeader
  rw [List.getElem?_eq_getElem h]
  exact Spec.print _

theorem ensurePassed (res : CheckResult) :
    (Scenario.ensurePassed res).Spec (Trace.Passed res) := by
  unfold Scenario.ensurePassed Trace.Passed
  refine bind_quiet (Spec.print _) ?_
  by_cases herr : res.notifications.hasErrors = true
  · simp only [herr, if_true]
    exact bind_quiet (Spec.emit _ _ _) (Spec.fail _)
  · simp only [herr, Bool.false_eq_true, if_false]
    exact Spec.pure _

theorem confirmApply (settings : ScenarioSettings) :
    (Scenario.confirmApply settings).Spec (Trace.Confirmed settings) := by
  unfold Scenario.confirmApply Trace.Confirmed
  cases settings.assumeYes with
  | true =>
    refine (Spec.pure ()).mono ?_
    rintro r t ⟨rfl, hl, ha, hstop, hp⟩
    exact ⟨hl, ha, hstop, .inl ⟨rfl, rfl, hp⟩⟩
  | false =>
    -- the banner, then the prompt, whose answer decides
    refine bind_quiet (Spec.print _)
      ((Spec.seq Spec.prompt fun a => Spec.liftExcept (Scenario.confirmation a)).mono ?_)
    rintro r t (⟨e, rfl, -, -, -, a, ha, -⟩ |
      ⟨a, t₁, t₂, ⟨hl, ha, hstop, a', ha', hp⟩, ⟨rfl, hq⟩, hs, rfl⟩)
    · cases ha
    · cases ha'
      rw [hq.append_right hs]
      exact ⟨hl, ha, hstop, .inr ⟨rfl, a, hp, rfl⟩⟩

theorem awaitResult (task : String) (b : Budget) (left : Nat) :
    (Precheck.awaitResult task b left).Spec (Trace.Awaited task b left) := by
  induction left with
  | zero =>
    refine (bind_quiet (Spec.emit _ _ _) (Spec.fail _)).mono ?_
    rintro r t ⟨rfl, hl, ha, hstop, -⟩
    exact ⟨ha, hstop, [], hl, rfl, rfl⟩
  | succ left ih =>
    unfold Precheck.awaitResult
    refine bind (Spec.askLifecycle _ fun _ => rfl)
      (fun ti => (?_ : Spec _ (Trace.Looked task b left ti))) ?_ ?_
    · -- the model reads the status, the verdict reads it the same way
      unfold Trace.Looked TaskInfo.verdict
      cases ti.status
      case succeeded => exact bind_quiet (Spec.emit _ _ _) (Spec.pure _)
      case failed =>
        refine bind_quiet (Spec.emit _ _ _) ?_
        cases ti.result with
        | some res => exact Spec.pure _
        | none => exact bind_quiet (Spec.emit _ _ _) (Spec.fail _)
      all_goals exact bind_quiet (Spec.emit _ _ _) (bind_quiet (Spec.sleep _) ih)
    · -- a refused or failed call ends the wait
      rintro e t ⟨happ, hstop, ⟨hl, he⟩ | ⟨a, hl, he⟩⟩
      · cases he
        refine ⟨happ, hstop, [], hl, ?_⟩
        simp only [Trace.Follows, Precheck.awaitAnswers]
      · cases a with
        | ok ti => cases he
        | error e' =>
          cases he
          exact ⟨happ, hstop, [.error e'], hl, rfl, rfl⟩
    · rintro ti t₁ r t₂ ⟨happ, hstop, ⟨-, he⟩ | ⟨a, hl, he⟩⟩ hlook hs
      · cases he
      · cases a with
        | error e => cases he
        | ok ti' =>
          cases he
          unfold Trace.Looked at hlook
          -- the answer read here comes first, then those the rest of the wait reads
          rcases hv : ti.verdict with res | _ | _ <;> rw [hv] at hlook
          · obtain ⟨rfl, hq⟩ := hlook
            rw [hq.append_right hs]
            refine ⟨happ, hstop, [.ok ti], hl, ?_⟩
            simp [Trace.Follows, Precheck.awaitAnswers, hv]
          · obtain ⟨rfl, hq⟩ := hlook
            rw [hq.append_right hs]
            refine ⟨happ, hstop, [.ok ti], hl, ?_⟩
            simp [Trace.Follows, Precheck.awaitAnswers, hv]
          · obtain ⟨happ₂, hstop₂, as, hl₂, hf⟩ := hlook
            refine ⟨by simp [happ, happ₂], by simp [hstop₂, ← hs, hstop], .ok ti :: as, ?_, ?_⟩
            · simp [hl, hl₂, taskExchanges]
            · simpa only [Precheck.awaitAnswers, hv] using hf

theorem precheckRun (doc : Option InitDocument) (b : Budget) :
    (Precheck.run doc b).Spec (Trace.Checked doc b) := by
  unfold Precheck.run
  refine bind_quiet (Spec.emit _ _ _) ?_
  refine bind (Spec.askLifecycle _ fun _ => rfl)
    (fun task => bind_quiet (Spec.emit _ _ _) (awaitResult task b _)) ?_ ?_
  · -- the start call was refused or failed
    rintro e t ⟨happ, hstop, ⟨hl, he⟩ | ⟨a, hl, he⟩⟩
    · cases he
      exact ⟨happ, hstop, .inl ⟨hl, rfl⟩⟩
    · cases a with
      | ok task => cases he
      | error e' =>
        cases he
        exact ⟨happ, hstop, .inr (.inl ⟨e', hl, rfl⟩)⟩
  · rintro task t₁ r t₂ ⟨happ, hstop, ⟨-, he⟩ | ⟨a, hl, he⟩⟩ ⟨happ₂, hstop₂, as, hl₂, hf⟩ hs
    · cases he
    · cases a with
      | error e => cases he
      | ok task' =>
        cases he
        refine ⟨by simp [happ, happ₂], by simp [hstop₂, ← hs, hstop], .inr (.inr ⟨task, as, ?_, hf⟩)⟩
        simp [hl, hl₂]

theorem precheck (s : Session) (spec : Option InitSpec) :
    (s.precheck spec).Spec (Trace.Checked (spec.map (·.toDocument.value)) s.precheckBudget) := by
  unfold Session.precheck
  cases spec with
  | none => exact bind_quiet (Spec.pure _) (precheckRun _ _)
  | some sp =>
    refine bind_quiet ?_ (precheckRun _ _)
    exact (Spec.map (Spec.logged _) fun r t ⟨hr, hq⟩ => ⟨by rw [hr]; rfl, hq⟩)

/-- One call to the appliance made inside a context. -/
theorem withinAppliance {α : Type} {call : ApplianceCall} {endpoint : ApplianceService → Script α}
    {advance : ApplianceService → Script α → ApplianceService} {wrap : α → ApplianceReply}
    (line : String)
    (h : ∀ s, s.answer call = ((endpoint s).next.1.map wrap, advance s (endpoint s).next.2)) :
    (Flow.within line (Flow.askAppliance call endpoint advance)).Spec
      (Trace.OneApplianceCall call) := by
  refine (Spec.within line (Spec.askAppliance wrap h)).mono ?_
  rintro r t ⟨r₀, hasked, rfl⟩
  obtain ⟨hl, hstop, hpre, hok⟩ := Trace.OneApplianceCall.of_asked hasked
  refine ⟨hl, hstop, hpre, fun a ha => hok a ?_⟩
  -- a context line only touches a failure
  cases r₀ with
  | error e => simp at ha
  | ok b => simpa using ha

/-- One appliance call, and then a run along `W`: together, along `call` followed by `W`. -/
theorem oneCall_then {α β : Type} {f : Flow α} {g : α → Flow β} {call : ApplianceCall}
    (W : List ApplianceCall → Prop) (hf : f.Spec (Trace.OneApplianceCall call))
    (hg : ∀ a, (g a).Spec (fun _ t => t.ApplianceAlong W)) (hW : ∃ ds, W ds) :
    (f >>= g).Spec (fun _ t => t.ApplianceAlong (fun ds => ∃ w, W w ∧ ds = call :: w)) := by
  obtain ⟨w, hw⟩ := hW
  refine bind hf hg ?_ ?_
  · rintro e t ⟨hl, hstop, hpre, -⟩
    exact ⟨hl, hstop, call :: w, ⟨w, hw, rfl⟩, hpre.trans (List.prefix_cons_inj _ |>.mpr (by simp))⟩
  · rintro a t₁ r t₂ ⟨hl₁, hstop₁, -, hok⟩ ⟨hl₂, hstop₂, w₂, hw₂, hpre₂⟩ hs
    refine ⟨by simp [hl₁, hl₂], by simp [hstop₂, ← hs, hstop₁], call :: w₂, ⟨w₂, hw₂, rfl⟩, ?_⟩
    simp only [Trace.append_appliance, List.map_append, hok a rfl, List.singleton_append]
    exact (List.prefix_cons_inj call).mpr hpre₂

/-- The update poll reads the state of the update at most `left` times. -/
theorem awaitInstall (b : Budget) (left : Nat) :
    (PluginUpdate.awaitInstall b left).Spec
      (fun _ t => t.ApplianceAlong fun ds => ∃ k ≤ left, ds = List.replicate k .updateStatus) := by
  induction left with
  | zero =>
    unfold PluginUpdate.awaitInstall
    refine bind_quiet (Spec.emit _ _ _) ((Spec.fail _).mono fun _ _ h => ?_)
    exact Trace.ApplianceAlong.of_quiet h.2 ⟨[], 0, Nat.le_refl 0, rfl⟩
  | succ left ih =>
    unfold PluginUpdate.awaitInstall
    have hcall : Appliance.updateStatus.Spec (Trace.OneApplianceCall .updateStatus) :=
      (Spec.askAppliance _ fun _ => rfl).mono fun _ _ h => Trace.OneApplianceCall.of_asked h
    have hword : ∃ ds, ∃ k ≤ left, ds = List.replicate k ApplianceCall.updateStatus :=
      ⟨[], 0, Nat.zero_le _, rfl⟩
    refine (oneCall_then _ hcall (fun s => ?_) hword).mono ?_
    · -- a final state ends the poll quietly; any other state waits for the rest of it
      split
      · exact (Spec.emit _ _ _).mono fun _ _ h => Trace.ApplianceAlong.of_quiet h.2 hword
      · exact bind_quiet (Spec.emit _ _ _)
          ((Spec.fail _).mono fun _ _ h => Trace.ApplianceAlong.of_quiet h.2 hword)
      · dsimp only
        split
        · exact bind_quiet (Spec.emit _ _ _) (bind_quiet (Spec.sleep _) ih)
        · exact bind_quiet (Spec.sleep _) ih
    · rintro r t ⟨hl, hstop, ds, ⟨w, ⟨k, hk, rfl⟩, rfl⟩, hpre⟩
      exact ⟨hl, hstop, _, ⟨k + 1, by omega, rfl⟩, hpre⟩

/-- Listing the pending updates is one call; a missing list is no update, and any other
failure is reported in its context. -/
theorem pendingUpdates : PluginUpdate.pendingUpdates.Spec (Trace.OneApplianceCall .listPending) := by
  unfold PluginUpdate.pendingUpdates
  refine tryCatch (Spec.askAppliance _ fun _ => rfl)
    (fun f => (?_ : Spec _ fun r t => t.Quiet ∧ ∀ a, r = .ok a → ∃ p, f.error? = some (.notFound p)))
    (fun a t h => Trace.OneApplianceCall.of_asked h) ?_
  · split
    · next p hp => exact (Spec.pure _).mono fun _ _ h => ⟨h.2, fun _ _ => ⟨p, hp⟩⟩
    · exact (Spec.throw _).mono fun _ _ h => ⟨h.2, fun a ha => by rw [h.1] at ha; cases ha⟩
  · rintro e t₁ r t₂ ⟨hl, hstop, hcall⟩ ⟨hq, hok⟩ hs
    rw [hq.append_right hs]
    refine ⟨hl, hstop, ?_, fun a ha => ?_⟩
    · rcases hcall with ⟨ha, -⟩ | ⟨a, ha, -⟩ <;> simp [ha]
    · -- only an answered call can have failed with a missing list
      obtain ⟨p, hp⟩ := hok a ha
      rcases hcall with ⟨-, he⟩ | ⟨a', ha', -⟩
      · cases he
        cases hp
      · simp [ha']

/-- The plug-in update's calls are a prefix of its word. -/
theorem pluginUpdate (repo : String) (b : Budget) :
    (PluginUpdate.run repo b).Spec
      (fun _ t => t.ApplianceAlong (PluginUpdate.Word repo b.retries.toNat)) := by
  -- the words left after each call, from the last call back
  let polls (ds : List ApplianceCall) : Prop :=
    ∃ k ≤ b.retries.toNat, ds = List.replicate k .updateStatus
  let installs (v : String) (ds : List ApplianceCall) : Prop :=
    ∃ w, polls w ∧ ds = .stageAndInstall v PluginUpdate.component :: w
  let lists (ds : List ApplianceCall) : Prop := ∃ v w, installs v w ∧ ds = .listComponents v :: w
  have hpolls : polls [] := ⟨0, Nat.zero_le _, rfl⟩
  have hinstalls (v : String) : installs v [.stageAndInstall v PluginUpdate.component] :=
    ⟨[], hpolls, rfl⟩
  have hlists : lists [.listComponents "", .stageAndInstall "" PluginUpdate.component] :=
    ⟨"", _, hinstalls "", rfl⟩
  have hquiet {γ : Type} {f : Flow γ} {a : γ} {W : List ApplianceCall → Prop} (hW : ∃ ds, W ds)
      (hf : f.Spec fun r t => r = .ok a ∧ t.Quiet) : f.Spec fun _ t => t.ApplianceAlong W :=
    hf.mono fun _ _ h => Trace.ApplianceAlong.of_quiet h.2 hW
  unfold PluginUpdate.run
  refine bind_quiet (Spec.emit _ _ _) ?_
  refine (oneCall_then (fun ds => ∃ w, lists w ∧ ds = .listPending :: w)
    (withinAppliance _ fun _ => rfl) (fun _ => ?_) ⟨_, _, hlists, rfl⟩).mono ?_
  · refine bind_quiet (Spec.emit _ _ _) ?_
    refine oneCall_then lists pendingUpdates (fun pending => ?_) ⟨_, hlists⟩
    split
    · exact hquiet ⟨_, hlists⟩ (bind_quiet (Spec.emit _ _ _) (Spec.pure _))
    · next target _ =>
      refine bind_quiet (Spec.emit _ _ _) ?_
      refine (oneCall_then (installs target.version) (withinAppliance _ fun _ => rfl)
        (fun components => ?_) ⟨_, hinstalls _⟩).mono fun r t h => h.mono fun ds ⟨w, hw, hds⟩ =>
          ⟨_, _, hw, hds⟩
      refine bind_quiet (Spec.emit _ _ _) ?_
      split
      · exact hquiet ⟨_, hinstalls _⟩ (bind_quiet (Spec.emit _ _ _) (Spec.pure _))
      · refine bind_quiet (Spec.emit _ _ _) ?_
        refine oneCall_then polls (withinAppliance _ fun _ => rfl) (fun _ => ?_) ⟨_, hpolls⟩
        refine bind_quiet (Spec.emit _ _ _) ?_
        exact (Spec.bind_quiet_right (awaitInstall b _) fun _ => Spec.pure _).mono
          fun _ _ ⟨_, h, _⟩ => h
  · rintro r t h
    refine h.mono ?_
    rintro ds ⟨_, ⟨_, ⟨v, _, ⟨_, ⟨k, hk, rfl⟩, rfl⟩, rfl⟩, rfl⟩, rfl⟩
    exact ⟨v, k, hk, rfl⟩

/-- The plug-in update as a step of a scenario: its outcome is only reported. -/
theorem updatePlugin (settings : ScenarioSettings) (request : UpgradeRequest) :
    (Scenario.updatePlugin settings request).Spec (Trace.PluginUpdated settings request) :=
  (Spec.bind_quiet_right (pluginUpdate _ _) fun _ => Spec.emit _ _ _).mono fun _ _ ⟨_, h, _⟩ => h

/-- The final monitor recovers once, by how the monitor ended. -/
theorem monitorWithRecovery (s : Session) (autocancel : Bool) (doc : ApplyDocument)
    (reapply : Bool) :
    (Scenario.monitorWithRecovery s autocancel doc reapply).Spec
      (Trace.MonitoredAndRecovered s autocancel doc reapply) := by
  have hmon : (ScenarioOutcome.finished <$> s.monitor autocancel doc).Spec fun r t =>
      ∃ m, Monitor.Watched s.monitoring autocancel doc m t ∧ r = ScenarioOutcome.finished <$> m :=
    Spec.map (Monitor.Spec.monitor _ _ _) fun r _ h => ⟨r, h, rfl⟩
  unfold Scenario.monitorWithRecovery
  refine tryCatch hmon (fun f => (?_ : Spec _ (Trace.Recovered reapply doc (.error f)))) ?_ ?_
  · -- the handler, by the failure the monitor ended with
    split
    · next m hm =>
      refine bind_quiet (Spec.emit _ _ _)
        ((Spec.bind_quiet_right (Spec.cancel) fun _ => Spec.pure _).mono ?_)
      rintro r t ⟨r₀, h, rfl⟩
      simp only [Trace.Recovered, hm]
      exact ⟨r₀, h, rfl⟩
    · next m hm =>
      split
      · next hre =>
        refine bind_quiet (Spec.emit _ _ _) (bind_quiet (Spec.emit _ _ _)
          ((Spec.bind_quiet_right (applyDocument doc) fun _ => Spec.pure _).mono ?_))
        rintro r t ⟨r₀, h, rfl⟩
        simp only [Trace.Recovered, hm, hre, if_true]
        exact ⟨r₀, h, rfl⟩
      · next hre =>
        refine (Spec.throw _).mono ?_
        rintro r t ⟨rfl, hq⟩
        simp only [Trace.Recovered, hm, hre, Bool.false_eq_true, if_false]
        exact ⟨hq, trivial⟩
    · next hc hu =>
      refine (Spec.throw _).mono ?_
      rintro r t ⟨rfl, hq⟩
      -- neither recovery applies, so the failure ends the run as it is
      simp only [Trace.Recovered]
      exact ⟨hq, trivial⟩
  · rintro a t ⟨m, hw, hm⟩
    cases m with
    | error e => cases hm
    | ok o =>
      cases hm
      have hq : Trace.Quiet ⟨t.stop, [], [], t.stop, []⟩ := ⟨rfl, rfl, rfl, rfl⟩
      exact ⟨.ok o, t, _, hw, ⟨hq, rfl⟩, rfl, (hq.append_right rfl).symm⟩
  · rintro e t₁ r t₂ ⟨m, hw, hm⟩ hrec hs
    cases m with
    | error e' =>
      cases hm
      exact ⟨.error e, t₁, t₂, hw, hrec, hs, rfl⟩
    | ok o => cases hm

end Flow.Spec

end ReducedDowntime
