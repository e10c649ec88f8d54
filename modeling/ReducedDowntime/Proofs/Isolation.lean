import ReducedDowntime.Proofs.Stages

/-!
# The plug-in update comes first

Every scenario updates the plug-in of the appliance before it calls the lifecycle manager.
A trace keeps the exchanges with each service apart, not how they interleave, so this is
said over worlds, by comparing runs:

* `Flow.Respects`: the plug-in update reads only the appliance, so two worlds with the same
  appliance give it the same result (`Respects.pluginUpdate`);
* `Flow.Blind`: the steps before it neither read nor change the lifecycle manager, so a world
  whose manager is replaced runs them as before.

A scenario is such steps, then the plug-in update, then steps that call only the manager.
For such a run (`Settled`):

1. `Gated`: when the plug-in update fails from a world, the run makes no call to the manager;
2. `ApplianceFirst`: the run makes the same appliance calls whatever the manager is. A
   manager that refuses every call stops the run at its first call, so every appliance call
   comes before the first call to the manager.
-/

namespace ReducedDowntime.Flow

variable {α β : Type}

/-! ## Worlds with the same appliance -/

/-- Two worlds whose appliances are the same and have taken as many calls. -/
structure SameAppliance (w w' : World) : Prop where
  appliance : w.appliance = w'.appliance
  applianceCalls : w.applianceCalls = w'.applianceCalls

theorem SameAppliance.symm {w w' : World} (h : SameAppliance w w') : SameAppliance w' w :=
  ⟨h.appliance.symm, h.applianceCalls.symm⟩

theorem SameAppliance.trans {w₁ w₂ w₃ : World} (h : SameAppliance w₁ w₂)
    (h' : SameAppliance w₂ w₃) : SameAppliance w₁ w₃ :=
  ⟨h.appliance.trans h'.appliance, h.applianceCalls.trans h'.applianceCalls⟩

namespace Spec

variable {f : Flow α} {P : Except Failure α → Trace → Prop}

/-- A flow whose traces show no appliance call leaves the appliance as it was. -/
theorem sameAppliance (hf : f.Spec P) (hP : ∀ r t, P r t → t.appliance = []) (w : World) :
    SameAppliance w (f.run w).2 := by
  obtain ⟨cs, ds, ps, hm, hp⟩ := hf w
  have hds : ds = [] := by
    simpa [World.traceTo] using congrArg List.length (hP _ _ hp)
  subst hds
  refine ⟨hm.appliance.symm, ?_⟩
  apply Array.toList_inj.mp
  rw [hm.applianceCalls, List.append_nil]

/-- A flow whose traces show no call to the manager leaves its call record as it was. -/
theorem lifecycleCalls_eq (hf : f.Spec P) (hP : ∀ r t, P r t → t.lifecycle = []) (w : World) :
    (f.run w).2.lifecycleCalls = w.lifecycleCalls := by
  obtain ⟨cs, ds, ps, hm, hp⟩ := hf w
  have hcs : cs = [] := by
    simpa [World.traceTo] using congrArg List.length (hP _ _ hp)
  subst hcs
  apply Array.toList_inj.mp
  rw [hm.lifecycleCalls, List.append_nil]

end Spec

/-! ## Flows that read only the appliance -/

/-- A flow whose result, and the appliance it leaves, depend only on the appliance it starts
with. -/
def Respects (f : Flow α) : Prop :=
  ∀ w w', SameAppliance w w' → (f.run w).1 = (f.run w').1 ∧ SameAppliance (f.run w).2 (f.run w').2

namespace Respects

variable {f : Flow α} {g : α → Flow β}

/-- A step with a fixed result that leaves the appliance alone. -/
theorem of_const {r : Except Failure α} (h : ∀ w, (f.run w).1 = r ∧ SameAppliance w (f.run w).2) :
    Respects f := by
  intro w w' hw
  obtain ⟨hr, hs⟩ := h w
  obtain ⟨hr', hs'⟩ := h w'
  exact ⟨hr.trans hr'.symm, hs.symm.trans (hw.trans hs')⟩

theorem bind (hf : Respects f) (hg : ∀ a, Respects (g a)) : Respects (f >>= g) := by
  intro w w' hw
  obtain ⟨hr, hs⟩ := hf w w' hw
  rw [run_bind, run_bind]
  rcases hrun : f.run w with ⟨r, w₁⟩
  rcases hrun' : f.run w' with ⟨r', w₁'⟩
  rw [hrun, hrun'] at hr hs
  cases hr
  cases r with
  | ok a => exact hg a w₁ w₁' hs
  | error e => exact ⟨rfl, hs⟩

theorem tryCatch {h : Failure → Flow α} (hf : Respects f) (hh : ∀ e, Respects (h e)) :
    Respects (tryCatch f h) := by
  intro w w' hw
  obtain ⟨hr, hs⟩ := hf w w' hw
  rw [run_tryCatch, run_tryCatch]
  rcases hrun : f.run w with ⟨r, w₁⟩
  rcases hrun' : f.run w' with ⟨r', w₁'⟩
  rw [hrun, hrun'] at hr hs
  cases hr
  cases r with
  | ok a => exact ⟨rfl, hs⟩
  | error e => exact hh e w₁ w₁' hs

theorem pure (a : α) : Respects (Pure.pure a : Flow α) := of_const fun _ => ⟨rfl, rfl, rfl⟩

theorem throw (e : Failure) : Respects (MonadExcept.throw e : Flow α) :=
  of_const fun _ => ⟨rfl, rfl, rfl⟩

theorem within (line : String) (hf : Respects f) : Respects (Flow.within line f) :=
  tryCatch hf fun _ => throw _

theorem emit (level : Level) (source : Source) (text : String) :
    Respects (Flow.emit level source text) := of_const fun _ => ⟨rfl, rfl, rfl⟩

theorem sleep (d : Time.Duration) : Respects (Flow.sleep d) := of_const fun _ => ⟨rfl, rfl, rfl⟩

theorem fail (e : UpgradeError) : Respects (Flow.fail e : Flow α) :=
  of_const fun _ => ⟨rfl, rfl, rfl⟩

/-- A call to the appliance reads the appliance's limit, its call count and its script. -/
theorem askAppliance (call : ApplianceCall) (endpoint : ApplianceService → Script α)
    (advance : ApplianceService → Script α → ApplianceService) :
    Respects (Flow.askAppliance call endpoint advance) := by
  intro w w' ⟨ha, hc⟩
  rw [run_askAppliance, run_askAppliance, ha, hc]
  by_cases hl : overLimit w'.appliance.callLimit w'.applianceCalls.size = true
  · rw [if_pos hl, if_pos hl]
    exact ⟨rfl, ha, hc⟩
  · rw [if_neg hl, if_neg hl]
    exact ⟨rfl, rfl, rfl⟩

theorem awaitInstall (b : Budget) (left : Nat) : Respects (PluginUpdate.awaitInstall b left) := by
  induction left with
  | zero => exact bind (emit _ _ _) fun _ => fail _
  | succ left ih =>
    refine bind (askAppliance _ _ _) fun s => ?_
    split
    · exact emit _ _ _
    · exact bind (emit _ _ _) fun _ => fail _
    · dsimp only
      split
      · exact bind (emit _ _ _) fun _ => bind (sleep _) fun _ => ih
      · exact bind (sleep _) fun _ => ih

theorem pendingUpdates : Respects PluginUpdate.pendingUpdates := by
  refine tryCatch (askAppliance _ _ _) fun f => ?_
  split
  · exact pure _
  · exact throw _

/-- The plug-in update reads only the appliance. -/
theorem pluginUpdate (repo : String) (b : Budget) : Respects (PluginUpdate.run repo b) := by
  unfold PluginUpdate.run
  refine bind (emit _ _ _) fun _ => bind (within _ (askAppliance _ _ _)) fun _ =>
    bind (emit _ _ _) fun _ => bind pendingUpdates fun pending => ?_
  split
  · exact bind (emit _ _ _) fun _ => pure _
  · refine bind (emit _ _ _) fun _ => bind (within _ (askAppliance _ _ _)) fun _ =>
      bind (emit _ _ _) fun _ => ?_
    split
    · exact bind (emit _ _ _) fun _ => pure _
    · exact bind (emit _ _ _) fun _ => bind (within _ (askAppliance _ _ _)) fun _ =>
        bind (emit _ _ _) fun _ => bind (awaitInstall _ _) fun _ => pure _

end Respects

/-! ## Flows blind to the lifecycle manager -/

/-- A flow that neither reads nor changes the lifecycle manager: from a world whose manager
is replaced, it runs as before and leaves the replaced manager. -/
def Blind (f : Flow α) : Prop :=
  ∀ w (L : LifecycleService),
    f.run { w with lifecycle := L } = ((f.run w).1, { (f.run w).2 with lifecycle := L })

namespace Blind

variable {f : Flow α} {g : α → Flow β}

theorem bind (hf : Blind f) (hg : ∀ a, Blind (g a)) : Blind (f >>= g) := by
  intro w L
  rw [run_bind, run_bind, hf w L]
  rcases f.run w with ⟨r, w₁⟩
  cases r with
  | ok a => exact hg a w₁ L
  | error e => rfl

theorem pure (a : α) : Blind (Pure.pure a : Flow α) := fun _ _ => rfl

theorem emit (level : Level) (source : Source) (text : String) :
    Blind (Flow.emit level source text) := fun _ _ => rfl

theorem print (text : String) : Blind (Flow.print text) := fun _ _ => rfl

theorem halt (text : String) : Blind (Flow.halt text : Flow α) := fun _ _ => rfl

theorem fail (e : UpgradeError) : Blind (Flow.fail e : Flow α) := fun _ _ => rfl

theorem readClock : Blind Flow.readClock := fun _ _ => rfl

theorem logged (l : Logged α) : Blind (Flow.logged l) := fun _ _ => rfl

theorem ofExcept (r : Except UpgradeError α) : Blind (Flow.ofExcept r) := by
  cases r <;> exact fun _ _ => rfl

theorem step (i : Nat) (steps : List String) : Blind (Scenario.step i steps) := by
  unfold Scenario.step
  split
  · exact print _
  · exact bind (print _) fun _ => halt _

theorem applySpec (hours : Option Nat) (pause : Bool) : Blind (Session.applySpec hours pause) :=
  bind readClock fun _ => bind (logged _) fun r => ofExcept r

end Blind

/-! ## Scenarios: the plug-in update, then the manager -/

section Settled

variable (repo : String) (b : Budget)

/-- A flow that calls the lifecycle manager only when the plug-in update from `repo` within
`b` succeeds from the world the flow starts in. -/
def Gated (f : Flow α) : Prop :=
  ∀ w, (∃ e, ((PluginUpdate.run repo b).run w).1 = .error e) →
    (f.run w).2.lifecycleCalls = w.lifecycleCalls

/-- A flow whose appliance calls do not depend on the lifecycle manager. -/
def ApplianceFirst (f : Flow α) : Prop :=
  ∀ w (L : LifecycleService),
    (f.run { w with lifecycle := L }).2.applianceCalls = (f.run w).2.applianceCalls

/-- A run that calls only the lifecycle manager, with the trace `P` describes. -/
def ManagerOnly (f : Flow α) (P : Except Failure α → Trace → Prop) : Prop :=
  f.Spec fun r t => P r t ∧ t.appliance = []

/-- A scenario's run: its trace is the one `P` describes, it calls the manager only after a
plug-in update that succeeds, and its appliance calls do not depend on the manager. -/
structure Settled (f : Flow α) (P : Except Failure α → Trace → Prop) : Prop where
  spec : f.Spec P
  gated : Gated repo b f
  applianceFirst : ApplianceFirst f

variable {repo b} {f : Flow α} {g : α → Flow β} {P : Except Failure α → Trace → Prop}
  {Q : α → Except Failure β → Trace → Prop}

/-- A step that calls no service, before a gated run, keeps it gated: the step leaves the
appliance as it was, so the plug-in update fails after it as it did before it. -/
theorem Gated.bind_idle (hf : f.Spec P) (hP : ∀ r t, P r t → t.Idle)
    (hg : ∀ a, (∃ t, P (.ok a) t) → Gated repo b (g a)) : Gated repo b (f >>= g) := by
  intro w hfail
  have hsame := hf.sameAppliance (fun r t h => (hP r t h).2) w
  have hcalls := hf.lifecycleCalls_eq (fun r t h => (hP r t h).1) w
  obtain ⟨cs, ds, ps, -, hp⟩ := hf w
  rw [run_bind]
  rcases hrun : f.run w with ⟨r, w₁⟩
  rw [hrun] at hsame hcalls hp
  cases r with
  | error e => exact hcalls
  | ok a =>
    obtain ⟨e, he⟩ := hfail
    have hfail₁ : ∃ e, ((PluginUpdate.run repo b).run w₁).1 = .error e :=
      ⟨e, ((Respects.pluginUpdate repo b) w₁ w hsame.symm).1.trans he⟩
    exact (hg a ⟨_, hp⟩ w₁ hfail₁).trans hcalls

theorem ApplianceFirst.bind_blind (hf : f.Spec P) (hblind : Blind f)
    (hg : ∀ a, (∃ t, P (.ok a) t) → ApplianceFirst (g a)) : ApplianceFirst (f >>= g) := by
  intro w L
  obtain ⟨cs, ds, ps, -, hp⟩ := hf w
  rw [run_bind, run_bind, hblind w L]
  rcases hrun : f.run w with ⟨r, w₁⟩
  rw [hrun] at hp
  cases r with
  | ok a => exact hg a ⟨_, hp⟩ w₁ L
  | error e => rfl

/-- A flow that reads only the appliance, then runs that call only the manager: the appliance
calls are those of the first part, which does not see the manager. -/
theorem ApplianceFirst.bind_respects (hf : Respects f) (hg : ∀ a, ManagerOnly (g a) (Q a)) :
    ApplianceFirst (f >>= g) := by
  intro w L
  obtain ⟨hr, hs⟩ := hf { w with lifecycle := L } w ⟨rfl, rfl⟩
  rw [run_bind, run_bind]
  rcases hrun : f.run { w with lifecycle := L } with ⟨r, w₁⟩
  rcases hrun' : f.run w with ⟨r', w₂⟩
  rw [hrun, hrun'] at hr hs
  cases hr
  cases r with
  | error e => exact hs.applianceCalls
  | ok a =>
    have hfree : ∀ w', SameAppliance w' ((g a).run w').2 :=
      Spec.sameAppliance (hg a) fun _ _ h => h.2
    exact ((hfree w₁).symm.trans (hs.trans (hfree w₂))).applianceCalls

namespace Settled

/-- A step that calls no service and does not see the manager, before the rest of a
scenario. -/
theorem seq_idle (hf : f.Spec P) (hP : ∀ r t, P r t → t.Idle) (hblind : Blind f)
    (hg : ∀ a, Settled repo b (g a) (Q a)) : Settled repo b (f >>= g) (Trace.Seq P Q) :=
  ⟨Spec.seq hf fun a => (hg a).spec, Gated.bind_idle hf hP fun a _ => (hg a).gated,
    ApplianceFirst.bind_blind hf hblind fun a _ => (hg a).applianceFirst⟩

/-- A quiet step that gives `a`, before the rest of a scenario. -/
theorem bind_quiet {a : α} {R : Except Failure β → Trace → Prop}
    (hf : f.Spec fun r t => r = .ok a ∧ t.Quiet) (hblind : Blind f)
    (hg : Settled repo b (g a) R) : Settled repo b (f >>= g) R := by
  have hidle : ∀ (r : Except Failure α) (t : Trace), (r = .ok a ∧ t.Quiet) → t.Idle :=
    fun _ _ h => ⟨h.2.1, h.2.2.1⟩
  -- the step's only result is `a`
  have hres : ∀ a', (∃ t : Trace, (Except.ok a' : Except Failure α) = .ok a ∧ t.Quiet) → a' = a := by
    rintro a' ⟨_, h, _⟩
    cases h
    rfl
  refine ⟨Spec.bind_quiet hf hg.spec, Gated.bind_idle hf hidle fun a' h => ?_,
    ApplianceFirst.bind_blind hf hblind fun a' h => ?_⟩
  · rw [hres a' h]
    exact hg.gated
  · rw [hres a' h]
    exact hg.applianceFirst

/-- A step that fails quietly ends a scenario before any call. -/
theorem fail_bind (e : UpgradeError) :
    Settled repo b (Flow.fail e >>= g) fun r t => r = .error (Failure.ofError e) ∧ t.Quiet := by
  have hrun : ∀ w, (Flow.fail e >>= g).run w = (.error (Failure.ofError e), w) := fun _ => rfl
  refine ⟨fun w => ?_, fun w _ => by rw [hrun], fun w L => by rw [hrun, hrun]⟩
  rw [hrun]
  exact ⟨[], [], [], Moved.refl w, rfl, rfl, rfl, rfl, rfl⟩

end Settled

/-- A run that calls only the manager, after the plug-in update of a scenario. -/
theorem Settled.plugin {settings : ScenarioSettings} {request : UpgradeRequest}
    {g : Unit → Flow β} {Q : Unit → Except Failure β → Trace → Prop}
    (hg : ∀ a, ManagerOnly (g a) (Q a)) :
    Settled request.init.targetUpgradeRepo settings.pluginBudget
      (Scenario.updatePlugin settings request >>= g)
      (Trace.Seq (Trace.PluginUpdated settings request) Q) := by
  have hplugin := Spec.updatePlugin settings request
  refine ⟨Spec.seq hplugin fun a => (hg a).mono fun _ _ h => h.1, ?_,
    ApplianceFirst.bind_respects ?_ hg⟩
  · -- a failed plug-in update fails the run at once, before any call to the manager
    intro w ⟨e, he⟩
    have hcalls := hplugin.lifecycleCalls_eq (fun _ _ h => h.1) w
    unfold Scenario.updatePlugin at hcalls ⊢
    rw [run_bind, run_bind]
    rw [run_bind] at hcalls
    rcases hrun : (PluginUpdate.run request.init.targetUpgradeRepo settings.pluginBudget).run w
      with ⟨r, w₁⟩
    rw [hrun] at he hcalls
    cases he
    exact hcalls
  · unfold Scenario.updatePlugin
    exact Respects.bind (Respects.pluginUpdate _ _) fun _ => Respects.emit _ _ _

end Settled

namespace ManagerOnly

variable {f : Flow α} {g : α → Flow β} {P : Except Failure α → Trace → Prop}
  {Q : α → Except Failure β → Trace → Prop}

theorem of_spec (hf : f.Spec P) (hP : ∀ r t, P r t → t.appliance = []) : ManagerOnly f P :=
  hf.mono fun r t h => ⟨h, hP r t h⟩

theorem seq (hf : ManagerOnly f P) (hg : ∀ a, ManagerOnly (g a) (Q a)) :
    ManagerOnly (f >>= g) (Trace.Seq P Q) :=
  Spec.bind hf hg (fun e _ h => ⟨.inl ⟨e, rfl, h.1⟩, h.2⟩)
    (fun a t₁ _ t₂ h₁ h₂ hs => ⟨.inr ⟨a, t₁, t₂, h₁.1, h₂.1, hs, rfl⟩, by simp [h₁.2, h₂.2]⟩)

theorem bind_quiet {a : α} {R : Except Failure β → Trace → Prop}
    (hf : f.Spec fun r t => r = .ok a ∧ t.Quiet) (hg : ManagerOnly (g a) R) :
    ManagerOnly (f >>= g) R :=
  Spec.bind_quiet hf hg

end ManagerOnly

end ReducedDowntime.Flow
