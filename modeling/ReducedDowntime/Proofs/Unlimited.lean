import ReducedDowntime.Proofs.Monitor

/-!
# Without a call limit, no call is refused

A rehearsed service may be given a limit on the calls it takes (`callLimit`): a service over
its limit refuses the call, and the run stops with `callLimitText`. The program itself sets no
limit. This module shows that the limit is idle when no service has one: from such a world
every flow of the program leaves the services without a limit and never stops with the
refusal (`Scenario.run_unrefused` for the scenarios). So the refusals that the theorems about
the pollers and the scenarios allow for never happen in a world without limits.

## The proof

`Flow.Unrefused` is closed under the combinators of `Flow`. A handler need only be unrefused
on failures other than the refusal, since those are all it is given; a context line keeps the
cause of a failure (`Failure.cause_within`). A call to a service without a limit is never over
it, and its failure is an upgrade error. The reconnect loop of the monitor reads what
`fetchAnswer` reads (`Monitor.fetchFrom_reads`), so it fails only with an answer or at the
limit. The other loops go by induction on the checks left.
-/

namespace ReducedDowntime

open ReducedDowntime.Flow

/-- A world whose services take any number of calls. -/
def World.Unlimited (w : World) : Prop :=
  w.lifecycle.callLimit = none ∧ w.appliance.callLimit = none

/-- A failure other than the refusal of a service over its call limit. -/
def Failure.NotRefusal (f : Failure) : Prop :=
  f.cause ≠ .halt callLimitText

/-- A context line keeps the cause of a failure. -/
@[simp] theorem Failure.cause_within (f : Failure) (line : String) :
    (f.within line).cause = f.cause := by
  unfold Failure.within
  split <;> rfl

theorem Failure.NotRefusal.within {f : Failure} (h : f.NotRefusal) (line : String) :
    (f.within line).NotRefusal := by
  unfold Failure.NotRefusal
  rw [Failure.cause_within]
  exact h

theorem Failure.notRefusal_ofError (e : UpgradeError) : (Failure.ofError e).NotRefusal :=
  Cause.noConfusion

theorem Failure.notRefusal_halted {text : String} (h : text ≠ callLimitText) :
    (Failure.halted text).NotRefusal :=
  fun hc => h (Cause.halt.inj hc)

/-- The failure of an answer is an upgrade error. -/
theorem notRefusal_of_mapError {α : Type} {a : Except UpgradeError α} {e : Failure}
    (h : a.mapError Failure.ofError = .error e) : e.NotRefusal := by
  cases a with
  | ok v => cases h
  | error e' =>
    cases h
    exact Failure.notRefusal_ofError e'

namespace Flow

variable {α β : Type}

/-- A service without a limit takes every call. -/
@[simp] theorem overLimit_none (made : Nat) : overLimit none made = false := rfl

/-- A flow that no call limit stops: from a world whose services have no limit, it leaves them
without one, and it does not fail with the refusal. -/
def Unrefused (f : Flow α) : Prop :=
  ∀ w, w.Unlimited → (f.run w).2.Unlimited ∧ ∀ e, (f.run w).1 = .error e → e.NotRefusal

namespace Unrefused

variable {f : Flow α} {g : α → Flow β}

/-- An unrefused flow, run from a world without limits, does not end with the refusal. -/
theorem ne_refusal (h : Unrefused f) {w : World} (hw : w.Unlimited) :
    (f.run w).1 ≠ .error (Failure.halted callLimitText) :=
  fun he => (h w hw).2 _ he rfl

/-- A step that leaves both services as they were and fails with no refusal. -/
theorem of_services
    (h : ∀ w, (f.run w).2.lifecycle = w.lifecycle ∧ (f.run w).2.appliance = w.appliance)
    (hr : ∀ w e, (f.run w).1 = .error e → e.NotRefusal) : Unrefused f := by
  intro w ⟨hl, ha⟩
  obtain ⟨hl', ha'⟩ := h w
  exact ⟨⟨by rw [hl', hl], by rw [ha', ha]⟩, hr w⟩

/-- A step that leaves both services as they were and does not fail. -/
theorem of_ok (h : ∀ w, ∃ a, (f.run w).1 = .ok a ∧ (f.run w).2.lifecycle = w.lifecycle ∧
    (f.run w).2.appliance = w.appliance) : Unrefused f := by
  refine of_services (fun w => (h w).elim fun _ ha => ha.2) fun w e he => ?_
  obtain ⟨a, hok, -⟩ := h w
  rw [hok] at he
  cases he

theorem bind (hf : Unrefused f) (hg : ∀ a, Unrefused (g a)) : Unrefused (f >>= g) := by
  intro w hw
  obtain ⟨hw₁, hr⟩ := hf w hw
  rw [run_bind]
  rcases hrun : f.run w with ⟨r, w₁⟩
  rw [hrun] at hw₁ hr
  cases r with
  | ok a => exact hg a w₁ hw₁
  | error e => exact ⟨hw₁, fun e' he => by cases he; exact hr e rfl⟩

/-- A handler is given only the failures of the flow it guards, none of them the refusal. -/
theorem tryCatch {h : Failure → Flow α} (hf : Unrefused f)
    (hh : ∀ e, e.NotRefusal → Unrefused (h e)) : Unrefused (tryCatch f h) := by
  intro w hw
  obtain ⟨hw₁, hr⟩ := hf w hw
  rw [run_tryCatch]
  rcases hrun : f.run w with ⟨r, w₁⟩
  rw [hrun] at hw₁ hr
  cases r with
  | ok a => exact ⟨hw₁, fun _ he => by cases he⟩
  | error e => exact hh e (hr e rfl) w₁ hw₁

theorem pure (a : α) : Unrefused (Pure.pure a : Flow α) :=
  of_ok fun _ => ⟨a, rfl, rfl, rfl⟩

theorem map (hf : Unrefused f) (g : α → β) : Unrefused (g <$> f) := by
  rw [← bind_pure_comp]
  exact bind hf fun a => pure (g a)

theorem throw {e : Failure} (he : e.NotRefusal) : Unrefused (MonadExcept.throw e : Flow α) :=
  of_services (fun _ => ⟨rfl, rfl⟩) fun _ _ h => by
    cases h
    exact he

theorem within (line : String) (hf : Unrefused f) : Unrefused (Flow.within line f) :=
  tryCatch hf fun _ he => throw (he.within line)

theorem fail (e : UpgradeError) : Unrefused (Flow.fail e : Flow α) :=
  throw (Failure.notRefusal_ofError e)

/-- A failed check stops the flow before whatever follows it. -/
theorem fail_bind (e : UpgradeError) (k : α → Flow β) : Unrefused (Flow.fail e >>= k) :=
  of_services (fun w => by rw [run_bind, run_fail]; exact ⟨rfl, rfl⟩) fun w e' h => by
    rw [run_bind, run_fail] at h
    cases h
    exact Failure.notRefusal_ofError e

theorem halt {text : String} (h : text ≠ callLimitText) : Unrefused (Flow.halt text : Flow α) :=
  throw (Failure.notRefusal_halted h)

theorem ofExcept (r : Except UpgradeError α) : Unrefused (Flow.ofExcept r) :=
  of_services (fun w => by rw [run_ofExcept]; exact ⟨rfl, rfl⟩) fun w e h => by
    rw [run_ofExcept] at h
    exact notRefusal_of_mapError h

theorem liftExcept {r : Except Failure α} (hr : ∀ e, r = .error e → e.NotRefusal) :
    Unrefused (MonadExcept.ofExcept r : Flow α) :=
  of_services (fun w => by rw [run_liftExcept]; exact ⟨rfl, rfl⟩) fun w e h => by
    rw [run_liftExcept] at h
    exact hr e h

theorem emit (level : Level) (source : Source) (text : String) :
    Unrefused (Flow.emit level source text) := of_ok fun _ => ⟨(), rfl, rfl, rfl⟩

theorem logged (l : Logged α) : Unrefused (Flow.logged l) := of_ok fun _ => ⟨l.value, rfl, rfl, rfl⟩

theorem print (text : String) : Unrefused (Flow.print text) := of_ok fun _ => ⟨(), rfl, rfl, rfl⟩

theorem sleep (d : Time.Duration) : Unrefused (Flow.sleep d) := of_ok fun _ => ⟨(), rfl, rfl, rfl⟩

theorem readClock : Unrefused Flow.readClock := of_ok fun w => ⟨w.clock, rfl, rfl, rfl⟩

theorem prompt : Unrefused Flow.prompt := of_ok fun _ => ⟨_, rfl, rfl, rfl⟩

/-- A call to a manager without a limit is made; its failure is the manager's error. -/
theorem askLifecycle (call : LifecycleCall) (endpoint : LifecycleService → Script α)
    (advance : LifecycleService → Script α → LifecycleService)
    (hadvance : ∀ s r, (advance s r).callLimit = s.callLimit) :
    Unrefused (Flow.askLifecycle call endpoint advance) := by
  intro w ⟨hl, ha⟩
  simp only [run_askLifecycle, hl, overLimit_none, Bool.false_eq_true, ↓reduceIte]
  exact ⟨⟨by rw [hadvance, hl], ha⟩, fun _ he => notRefusal_of_mapError he⟩

/-- A call to an appliance without a limit is made; its failure is the appliance's error. -/
theorem askAppliance (call : ApplianceCall) (endpoint : ApplianceService → Script α)
    (advance : ApplianceService → Script α → ApplianceService)
    (hadvance : ∀ s r, (advance s r).callLimit = s.callLimit) :
    Unrefused (Flow.askAppliance call endpoint advance) := by
  intro w ⟨hl, ha⟩
  simp only [run_askAppliance, ha, overLimit_none, Bool.false_eq_true, ↓reduceIte]
  exact ⟨⟨hl, by rw [hadvance, ha]⟩, fun _ he => notRefusal_of_mapError he⟩

end Unrefused

end Flow

open Flow.Unrefused

/-! ## The endpoints -/

theorem Lifecycle.apply_unrefused (doc : ApplyDocument) : (Lifecycle.apply doc).Unrefused :=
  bind readClock fun _ => askLifecycle _ _ _ fun _ _ => rfl

/-! ## The pollers -/

/-- An overflow stops the program with its own message, not the refusal. -/
theorem Budget.Overflow.message_ne (o : Budget.Overflow) : o.message ≠ callLimitText := by
  cases o <;> decide

namespace Monitor

/-- The reconnect loop fails only with an answer of the manager, or at a limit it has not. -/
theorem fetchFrom_unrefused (reconnect : Budget) (attempt left : Nat) :
    (fetchFrom reconnect attempt left).Unrefused := by
  intro w ⟨hl, ha⟩
  obtain ⟨n, hreads⟩ := fetchFrom_reads reconnect attempt left w
  refine ⟨⟨by rw [hreads.callLimit, hl], by rw [hreads.appliance, ha]⟩, fun e he => ?_⟩
  have hended := hreads.ended
  split at hended
  · rw [hended.2] at he
    exact notRefusal_of_mapError he
  · have hover := hended.1
    rw [hl, overLimit_none] at hover
    cases hover

theorem watch_unrefused (settings : MonitorSettings) (budget : Budget) (autocancel : Bool)
    (left : Nat) : (watch settings budget autocancel left).Unrefused := by
  induction left with
  | zero => exact bind (emit _ _ _) fun _ => fail _
  | succ left ih =>
    refine bind (fetchFrom_unrefused _ _ _) fun s => ?_
    split
    · exact bind (emit _ _ _) fun _ => pure _
    · exact bind (emit _ _ _) fun _ => bind (emit _ _ _) fun _ =>
        bind (emit _ _ _) fun _ => pure _
    · exact bind (emit _ _ _) fun _ => pure _
    · dsimp only
      split
      · exact bind (emit _ _ _) fun _ => fail _
      · split
        · exact bind (emit _ _ _) fun _ => bind (sleep _) fun _ => ih
        · exact bind (emit _ _ _) fun _ => bind (emit _ _ _) fun _ => fail _
    · exact bind (emit _ _ _) fun _ => bind (sleep _) fun _ => ih

theorem budgetFor_unrefused (settings : MonitorSettings) (apply : ApplyDocument) :
    (budgetFor settings apply).Unrefused := by
  unfold budgetFor
  split
  · exact pure _
  · refine bind readClock fun now => ?_
    split
    · exact halt (Budget.Overflow.message_ne _)
    · dsimp only
      split
      · exact bind (emit _ _ _) fun _ => pure _
      · exact bind (pure ()) fun _ => pure _

theorem run_unrefused (settings : MonitorSettings) (autocancel : Bool) (apply : ApplyDocument) :
    (run settings autocancel apply).Unrefused :=
  bind (budgetFor_unrefused _ _) fun _ => watch_unrefused _ _ _ _

end Monitor

theorem Precheck.awaitResult_unrefused (task : String) (b : Budget) (left : Nat) :
    (Precheck.awaitResult task b left).Unrefused := by
  induction left with
  | zero => exact bind (emit _ _ _) fun _ => fail _
  | succ left ih =>
    refine bind (askLifecycle _ _ _ fun _ _ => rfl) fun t => ?_
    split
    · exact bind (emit _ _ _) fun _ => pure _
    · refine bind (emit _ _ _) fun _ => ?_
      split
      · exact pure _
      · exact bind (emit _ _ _) fun _ => fail _
    · exact bind (emit _ _ _) fun _ => bind (sleep _) fun _ => ih

theorem Precheck.run_unrefused (spec : Option InitDocument) (b : Budget) :
    (Precheck.run spec b).Unrefused :=
  bind (emit _ _ _) fun _ => bind (askLifecycle _ _ _ fun _ _ => rfl) fun _ =>
    bind (emit _ _ _) fun _ => Precheck.awaitResult_unrefused _ _ _

namespace PluginUpdate

theorem awaitInstall_unrefused (b : Budget) (left : Nat) : (awaitInstall b left).Unrefused := by
  induction left with
  | zero => exact bind (emit _ _ _) fun _ => fail _
  | succ left ih =>
    refine bind (askAppliance _ _ _ fun _ _ => rfl) fun s => ?_
    split
    · exact emit _ _ _
    · exact bind (emit _ _ _) fun _ => fail _
    · dsimp only
      split
      · exact bind (emit _ _ _) fun _ => bind (sleep _) fun _ => ih
      · exact bind (sleep _) fun _ => ih

theorem pendingUpdates_unrefused : pendingUpdates.Unrefused := by
  refine tryCatch (askAppliance _ _ _ fun _ _ => rfl) fun f hf => ?_
  split
  · exact pure _
  · exact throw (hf.within _)

theorem run_unrefused (repo : String) (b : Budget) : (run repo b).Unrefused := by
  unfold run
  refine bind (emit _ _ _) fun _ => bind (within _ (askAppliance _ _ _ fun _ _ => rfl)) fun _ =>
    bind (emit _ _ _) fun _ => bind pendingUpdates_unrefused fun pending => ?_
  split
  · exact bind (emit _ _ _) fun _ => pure _
  · refine bind (emit _ _ _) fun _ => bind (within _ (askAppliance _ _ _ fun _ _ => rfl))
      fun _ => bind (emit _ _ _) fun _ => ?_
    split
    · exact bind (emit _ _ _) fun _ => pure _
    · exact bind (emit _ _ _) fun _ => bind (within _ (askAppliance _ _ _ fun _ _ => rfl))
        fun _ => bind (emit _ _ _) fun _ => bind (awaitInstall_unrefused _ _) fun _ => pure _

end PluginUpdate

/-! ## The session -/

namespace Session

theorem isInitialized_unrefused : isInitialized.Unrefused :=
  bind (within _ (askLifecycle _ _ _ fun _ _ => rfl)) fun _ => bind (emit _ _ _) fun _ => pure _

theorem configure_unrefused (spec : InitSpec) : (configure spec).Unrefused :=
  bind (emit _ _ _) fun _ => bind (logged _) fun _ =>
    bind (within _ (askLifecycle _ _ _ fun _ _ => rfl)) fun _ => emit _ _ _

theorem precheck_unrefused (s : Session) (spec : Option InitSpec) : (precheck s spec).Unrefused := by
  unfold precheck
  cases spec with
  | none => exact bind (pure _) fun _ => Precheck.run_unrefused _ _
  | some sp => exact bind (map (logged _) _) fun _ => Precheck.run_unrefused _ _

theorem applyDocument_unrefused (doc : ApplyDocument) : (applyDocument doc).Unrefused := by
  have hcall := bind (within "Failed to apply the upgrade" (Lifecycle.apply_unrefused doc))
    fun _ => emit .info .steps "Upgrade has been started."
  unfold applyDocument
  dsimp only
  split <;> exact bind (emit _ _ _) fun _ => hcall

theorem apply_unrefused (spec : ApplySpec) : (apply spec).Unrefused :=
  bind readClock fun _ => bind (ofExcept _) fun doc =>
    bind (applyDocument_unrefused doc) fun _ => pure _

theorem cancel_unrefused : cancel.Unrefused :=
  bind (emit _ _ _) fun _ => bind (within _ (askLifecycle _ _ _ fun _ _ => rfl)) fun _ =>
    emit _ _ _

theorem status_unrefused : status.Unrefused :=
  bind (within _ (askLifecycle _ _ _ fun _ _ => rfl)) fun _ => bind (emit _ _ _) fun _ => pure _

theorem monitor_unrefused (s : Session) (autocancel : Bool) (doc : ApplyDocument) :
    (monitor s autocancel doc).Unrefused :=
  Monitor.run_unrefused _ _ _

theorem applySpec_unrefused (hours : Option Nat) (pause : Bool) :
    (applySpec hours pause).Unrefused :=
  bind readClock fun _ => bind (logged _) fun r => ofExcept r

theorem scheduledIn_unrefused (offset : Option Int) (pause : Bool) :
    (scheduledIn offset pause).Unrefused := by
  unfold scheduledIn
  cases offset with
  | none => exact bind (pure _) fun _ => pure _
  | some n =>
    dsimp only
    split
    · exact bind (halt (Budget.Overflow.message_ne _)) fun _ => pure _
    · refine bind readClock fun _ => ?_
      split
      · exact bind (pure _) fun _ => pure _
      · exact bind (halt (Budget.Overflow.message_ne _)) fun _ => pure _

end Session

/-! ## The scenarios -/

namespace Scenario

/-- A step past the last one halts with a text longer than the refusal's. -/
theorem step_unrefused (index : Nat) (steps : List String) : (step index steps).Unrefused := by
  unfold step
  split
  · exact print _
  · refine bind (print _) fun _ => halt fun h => ?_
    have hlen := congrArg String.length h
    have hhead : "index out of bounds: the len is ".length = 32 := by decide
    have hrefusal : callLimitText.length = 27 := by decide
    simp only [String.length_append, hhead, hrefusal] at hlen
    omega

theorem ensurePassed_unrefused (r : CheckResult) : (ensurePassed r).Unrefused := by
  unfold ensurePassed
  refine bind (print _) fun _ => ?_
  split
  · exact bind (emit _ _ _) fun _ => fail _
  · exact pure _

/-- The answer to the prompt stops the run only with a cancellation or a terminal's error. -/
theorem confirmApply_unrefused (settings : ScenarioSettings) :
    (confirmApply settings).Unrefused := by
  unfold confirmApply
  split
  · refine bind (print _) fun _ => bind prompt fun answer => liftExcept fun e he => ?_
    cases answer with
    | yes => cases he
    | no =>
      cases he
      exact Failure.notRefusal_ofError _
    | failed text =>
      cases he
      exact Cause.noConfusion
  · exact pure _

theorem updatePlugin_unrefused (settings : ScenarioSettings) (request : UpgradeRequest) :
    (updatePlugin settings request).Unrefused :=
  bind (PluginUpdate.run_unrefused _ _) fun _ => emit _ _ _

theorem monitorWithRecovery_unrefused (s : Session) (autocancel : Bool) (doc : ApplyDocument)
    (reapply : Bool) : (monitorWithRecovery s autocancel doc reapply).Unrefused := by
  unfold monitorWithRecovery
  refine tryCatch (map (Session.monitor_unrefused _ _ _) _) fun f hf => ?_
  split
  · exact bind (emit _ _ _) fun _ => bind Session.cancel_unrefused fun _ => pure _
  · split
    · exact bind (emit _ _ _) fun _ => bind (emit _ _ _) fun _ =>
        bind (Session.applyDocument_unrefused _) fun _ => pure _
    · exact throw hf
  · exact throw hf

section

variable (settings : ScenarioSettings) (request : UpgradeRequest)

theorem readiness_unrefused : (readiness settings request).Unrefused := by
  unfold readiness
  refine bind (step_unrefused _ _) fun _ => bind (updatePlugin_unrefused _ _) fun _ => ?_
  refine bind (step_unrefused _ _) fun _ => bind (emit _ _ _) fun _ => ?_
  refine bind (step_unrefused _ _) fun _ => ?_
  exact bind (Session.precheck_unrefused _ _) fun res =>
    bind (ensurePassed_unrefused res) fun _ => pure _

theorem fullUpgrade_unrefused : (fullUpgrade settings request).Unrefused := by
  unfold fullUpgrade
  refine bind (Session.applySpec_unrefused _ _) fun spec => ?_
  refine bind (step_unrefused _ _) fun _ => bind (updatePlugin_unrefused _ _) fun _ => ?_
  refine bind (step_unrefused _ _) fun _ => bind (Session.precheck_unrefused _ _) fun res => ?_
  refine bind (ensurePassed_unrefused res) fun _ => ?_
  refine bind (step_unrefused _ _) fun _ => bind (Session.configure_unrefused _) fun _ => ?_
  refine bind (step_unrefused _ _) fun _ => bind (Session.precheck_unrefused _ _) fun res => ?_
  refine bind (ensurePassed_unrefused res) fun _ => ?_
  refine bind (step_unrefused _ _) fun _ => bind (confirmApply_unrefused _) fun _ => ?_
  refine bind (Session.apply_unrefused _) fun doc => bind (step_unrefused _ _) fun _ => ?_
  exact monitorWithRecovery_unrefused _ _ _ _

theorem uberUpgrade_unrefused : (uberUpgrade settings request).Unrefused := by
  unfold uberUpgrade
  -- a request without its managing server is refused before any step
  by_cases hnone : request.init.managingServer.isNone = true
  · simp only [hnone, if_true]
    exact fail_bind _ _
  simp only [hnone, Bool.false_eq_true, if_false]
  refine bind (Session.applySpec_unrefused _ _) fun spec => ?_
  refine bind (step_unrefused _ _) fun _ => bind (updatePlugin_unrefused _ _) fun _ => ?_
  refine bind (step_unrefused _ _) fun _ => bind (Session.configure_unrefused _) fun _ => ?_
  refine bind (step_unrefused _ _) fun _ => bind (confirmApply_unrefused _) fun _ => ?_
  refine bind (Session.apply_unrefused _) fun doc => bind (step_unrefused _ _) fun _ => ?_
  exact monitorWithRecovery_unrefused _ _ _ _

theorem twoPhase_unrefused : (twoPhase settings request).Unrefused := by
  unfold twoPhase
  refine bind (step_unrefused _ _) fun _ => bind (updatePlugin_unrefused _ _) fun _ => ?_
  refine bind (step_unrefused _ _) fun _ => bind (Session.configure_unrefused _) fun _ => ?_
  refine bind (step_unrefused _ _) fun _ => bind (confirmApply_unrefused _) fun _ => ?_
  refine bind (Session.apply_unrefused _) fun prepare => bind (step_unrefused _ _) fun _ => ?_
  refine bind (Session.monitor_unrefused _ _ _) fun o => ?_
  -- the switchover follows only a pause before it
  cases o with
  | pausedBeforeSwitchover =>
    refine bind (step_unrefused _ _) fun _ => bind (Session.apply_unrefused _) fun _ => ?_
    exact bind (step_unrefused _ _) fun _ => monitorWithRecovery_unrefused _ _ _ _
  | upgraded => exact bind (emit _ _ _) fun _ => pure _
  | canceled => exact bind (emit _ _ _) fun _ => pure _

theorem cancellation_unrefused : (cancellation settings request).Unrefused := by
  unfold cancellation
  refine bind (Session.applySpec_unrefused _ _) fun spec => ?_
  refine bind (step_unrefused _ _) fun _ => bind (updatePlugin_unrefused _ _) fun _ => ?_
  refine bind (step_unrefused _ _) fun _ => bind (Session.configure_unrefused _) fun _ => ?_
  refine bind (step_unrefused _ _) fun _ => bind (Session.precheck_unrefused _ _) fun res => ?_
  refine bind (ensurePassed_unrefused res) fun _ => ?_
  refine bind (step_unrefused _ _) fun _ => bind (confirmApply_unrefused _) fun _ => ?_
  refine bind (Session.apply_unrefused _) fun doc => bind (sleep _) fun _ => ?_
  refine bind (step_unrefused _ _) fun _ => bind Session.cancel_unrefused fun _ => ?_
  exact bind (step_unrefused _ _) fun _ => monitorWithRecovery_unrefused _ _ _ _

/-- No scenario is stopped by a call limit in a world whose services have none: it leaves them
without a limit, and whatever the services answer, it never fails with the refusal. -/
theorem run_unrefused (kind : ScenarioKind) : (run settings kind request).Unrefused := by
  unfold run
  refine bind (emit _ _ _) fun _ => ?_
  cases kind
  · exact readiness_unrefused settings request
  · exact fullUpgrade_unrefused settings request
  · exact uberUpgrade_unrefused settings request
  · exact twoPhase_unrefused settings request
  · exact cancellation_unrefused settings request

/-- In a world whose services have no call limit, no scenario ends with the refusal of a
call. -/
theorem run_ne_refusal (kind : ScenarioKind) {w : World} (hw : w.Unlimited) :
    ((run settings kind request).run w).1 ≠ .error (Failure.halted callLimitText) :=
  (run_unrefused settings request kind).ne_refusal hw

end

end Scenario

end ReducedDowntime
