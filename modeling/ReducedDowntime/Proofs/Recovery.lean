import ReducedDowntime.Proofs.CallWords

/-!
# The recovery after the final monitor

A scenario that applies its upgrade ends with a final monitor and a recovery from how the
monitor ended. The final monitor starts at the first accepted apply of a document without a
pause (the two-phase upgrade's first apply pauses before the switchover, and no other apply
pauses), followed in a cancellation by the accepted cancel. From there on the manager sees the
monitor's status calls and then the recovery, which makes at most one call:

1. a failed cancellation is cancelled once more, and the scenario reports the retried
   cancellation exactly when that cancel is accepted, and its error otherwise;
2. a failed upgrade is applied once more with the very document of the apply that started the
   monitor, and the scenario reports the reapplied upgrade exactly when that apply is
   accepted; a cancellation applies nothing and returns the failure;
3. any other end of the monitor is the scenario's result, unchanged, with no call.

`final_monitor_recovery` states this for every scenario; `FromFinalApply` carries it through
the stages of each scenario, which make no final apply before the last one. In a world that
accepts every call (`World.accepting`) the uber-upgrade gets there
(`uberUpgrade_reaches_final_phase`).
-/

namespace ReducedDowntime

open ReducedDowntime.Flow

/-! ## The exchanges of a recovery -/

/-- One call that the scenario's result answers for: refused by a manager over its call limit,
accepted and giving `out`, or failed with its error inside the context `line`. -/
def CalledOnce (call : LifecycleCall) (line : String) (out : ScenarioOutcome)
    (rec : List LifecycleExchange) (r : Except Failure ScenarioOutcome) : Prop :=
  rec = [] ∧ r = .error (Failure.halted callLimitText) ∨
    rec = [(call, .ok .accepted)] ∧ r = .ok out ∨
    ∃ e, rec = [(call, .error e)] ∧ r = .error ((Failure.ofError e).within line)

/-- The recovery after a final monitor of `doc` that ended with `m`, as its exchanges `rec`
and the scenario's result `r` show it. -/
structure Recovers (reapply : Bool) (doc : ApplyDocument) (m : Except Failure MonitorOutcome)
    (rec : List LifecycleExchange) (r : Except Failure ScenarioOutcome) : Prop where
  finished : ∀ o, m = .ok o → rec = [] ∧ r = .ok (.finished o)
  cancellationFailed : ∀ f text, m = .error f → f.error? = some (.cancellationFailed text) →
    CalledOnce .cancel "Failed to cancel the upgrade" .cancelRetried rec r
  upgradeFailed : ∀ f text, m = .error f → f.error? = some (.upgradeFailed text) →
    if reapply then
      ∃ c, CalledOnce (.apply doc c) "Failed to apply the upgrade" .upgradeReapplied rec r
    else rec = [] ∧ r = .error f
  other : ∀ f, m = .error f → (∀ text, f.error? ≠ some (.cancellationFailed text)) →
    (∀ text, f.error? ≠ some (.upgradeFailed text)) → rec = [] ∧ r = .error f

theorem Trace.CalledWithin.calledOnce {call : LifecycleCall} {line : String}
    {r₀ : Except Failure Unit} {t : Trace} (h : Trace.CalledWithin call line r₀ t)
    (out : ScenarioOutcome) : CalledOnce call line out t.lifecycle ((fun _ => out) <$> r₀) := by
  obtain ⟨-, ⟨hl, rfl⟩ | ⟨a, hl, rfl⟩⟩ := h
  · exact .inl ⟨hl, rfl⟩
  · cases a with
    | ok u => exact .inr (.inl ⟨hl, rfl⟩)
    | error e => exact .inr (.inr ⟨e, hl, rfl⟩)

/-- A call made inside a context that fails is not accepted. -/
theorem Trace.CalledWithin.refused {call : LifecycleCall} {line : String} {f : Failure}
    {t : Trace} (h : Trace.CalledWithin call line (.error f) t) :
    ∀ x ∈ t.lifecycle, x.2 ≠ .ok .accepted := by
  obtain ⟨-, ⟨hl, -⟩ | ⟨a, hl, hr⟩⟩ := h
  · simp [hl]
  · cases a with
    | ok u => cases hr
    | error e => simp [hl]

theorem Trace.Recovered.recovers {reapply : Bool} {doc : ApplyDocument}
    {m : Except Failure MonitorOutcome} {r : Except Failure ScenarioOutcome} {t : Trace}
    (h : Trace.Recovered reapply doc m r t) : Recovers reapply doc m t.lifecycle r where
  finished o hm := by
    subst hm
    exact ⟨h.1.1, h.2⟩
  cancellationFailed f text hm hf := by
    subst hm
    simp only [Trace.Recovered, hf] at h
    obtain ⟨r₀, ⟨hcall, -⟩, rfl⟩ := h
    exact hcall.calledOnce _
  upgradeFailed f text hm hf := by
    subst hm
    cases reapply with
    | true =>
      simp only [Trace.Recovered, hf, if_true] at h
      obtain ⟨r₀, ⟨hcall, -⟩, rfl⟩ := h
      exact ⟨t.start, hcall.calledOnce _⟩
    | false =>
      simp only [Trace.Recovered, hf, Bool.false_eq_true, if_false] at h
      exact ⟨h.1.1, h.2⟩
  other f hm hc hu := by
    subst hm
    -- neither failure the recovery answers: the match falls through to the monitor's end
    simp only [Trace.Recovered] at h
    exact ⟨h.1.1, h.2⟩

/-! ## The final monitor -/

/-- An accepted apply of a document without a pause: the apply that starts a final monitor. -/
def FinalApply (x : LifecycleExchange) : Prop :=
  ∃ doc c, x = (.apply doc c, .ok .accepted) ∧ doc.pause = none

/-- What follows the start of a final monitor of `doc` applied at `c`: the monitor's status
calls, answered by `as`, on which it ends as `m` from one tick after `c`, and then the recovery
from `m`. -/
def FinalPhase (settings : MonitorSettings) (autocancel reapply : Bool) (doc : ApplyDocument)
    (c : Time.Instant) (post : List LifecycleExchange) (r : Except Failure ScenarioOutcome) :
    Prop :=
  ∃ as rec m, post = Monitor.statusExchanges as ++ rec ∧
    Monitor.Ends settings autocancel doc (tick c) as m ∧ Recovers reapply doc m rec r

theorem Trace.AppliedSpec.refused {spec : ApplySpec} {f : Failure} {t : Trace}
    (h : Trace.AppliedSpec spec (.error f) t) : ∀ x ∈ t.lifecycle, x.2 ≠ .ok .accepted := by
  unfold Trace.AppliedSpec Trace.AppliedAt at h
  split at h
  · -- a spec that cannot be resolved fails before the call
    intro x hx
    have hl : t.lifecycle = [] := h.2.1
    rw [hl] at hx
    cases hx
  · obtain ⟨r₀, ⟨hcall, -⟩, hr⟩ := h
    cases r₀ with
    | ok u => cases hr
    | error e => exact hcall.refused

/-- The final monitor and its recovery apply no document but the one they watch. -/
theorem Trace.MonitoredAndRecovered.apply_doc {s : Session} {autocancel : Bool}
    {doc : ApplyDocument} {reapply : Bool} {r : Except Failure ScenarioOutcome} {t : Trace}
    (h : Trace.MonitoredAndRecovered s autocancel doc reapply r t) :
    ∀ x ∈ t.lifecycle, ∀ d c, x.1 = .apply d c → d = doc := by
  obtain ⟨-, w₁, w₂, ⟨k, -, rfl⟩, hw₂, hl⟩ := h.calls
  intro x hx d c hxc
  have hmem : LifecycleCall.apply d c ∈ List.replicate k .status ++ w₂ := by
    rw [← hl, ← hxc]
    exact List.mem_map.2 ⟨x, hx, rfl⟩
  rcases hw₂ with rfl | rfl | ⟨-, c', rfl⟩ <;> simp [List.mem_replicate] at hmem
  exact hmem.1

theorem Trace.MonitoredAndRecovered.finalPhase {s : Session} {autocancel : Bool}
    {doc : ApplyDocument} {reapply : Bool} {r : Except Failure ScenarioOutcome} {t : Trace}
    (h : Trace.MonitoredAndRecovered s autocancel doc reapply r t) :
    ∃ as rec m, t.lifecycle = Monitor.statusExchanges as ++ rec ∧
      Monitor.Ends s.monitoring autocancel doc t.start as m ∧ Recovers reapply doc m rec r := by
  obtain ⟨m, t₁, t₂, ⟨-, as, hl, hends⟩, hrec, -, rfl⟩ := h
  exact ⟨as, t₂.lifecycle, m, by simp [Trace.append, hl], hends, hrec.recovers⟩

/-- A run that starts with an accepted apply of `doc₀` and applies no other document has that
apply as its first final apply. -/
theorem first_final_head {doc₀ doc : ApplyDocument} {c₀ c : Time.Instant}
    {L pre post : List LifecycleExchange}
    (hsplit : (.apply doc₀ c₀, .ok .accepted) :: L = pre ++ (.apply doc c, .ok .accepted) :: post)
    (hpause : doc.pause = none) (hfree : ∀ x ∈ pre, ¬FinalApply x)
    (hL : ∀ x ∈ L, ∀ d c', x.1 = .apply d c' → d = doc₀) : doc = doc₀ ∧ c = c₀ ∧ post = L := by
  cases pre with
  | nil =>
    simp only [List.nil_append, List.cons.injEq, Prod.mk.injEq, LifecycleCall.apply.injEq] at hsplit
    obtain ⟨⟨⟨rfl, rfl⟩, -⟩, rfl⟩ := hsplit
    exact ⟨rfl, rfl, rfl⟩
  | cons y pre =>
    -- a later apply is of `doc₀`, so the head would already be a final apply
    simp only [List.cons_append, List.cons.injEq] at hsplit
    obtain ⟨rfl, hL'⟩ := hsplit
    have hdoc : doc = doc₀ := hL (.apply doc c, .ok .accepted) (by rw [hL']; simp) doc c rfl
    subst hdoc
    exact absurd ⟨doc, c₀, rfl, hpause⟩ (hfree _ List.mem_cons_self)

/-! ## Stages before the final apply -/

namespace Calls

variable {α : Type}

/-- A description whose manager calls apply no document without a pause. -/
def NoFinal (D : Calls α) : Prop :=
  ∀ a c ls ds c', D a c ls ds c' → ∀ d c'', LifecycleCall.apply d c'' ∈ ls → d.pause ≠ none

theorem NoFinal.idle {next : Time.Instant → Time.Instant} : (idle next : Calls α).NoFinal := by
  rintro _ _ _ _ _ ⟨rfl, -, -⟩ d c h
  cases h

theorem NoFinal.lifecycle {call : LifecycleCall} (h : ∀ d c, call ≠ .apply d c) :
    (lifecycle call : Calls α).NoFinal := by
  rintro _ _ _ _ _ ⟨rfl, -, -⟩ d c hmem
  rw [List.mem_singleton] at hmem
  exact absurd hmem.symm (h d c)

theorem NoFinal.configure {d : InitDocument} :
    (Calls.lifecycle (.configure d) : Calls α).NoFinal :=
  NoFinal.lifecycle fun _ _ h => by cases h

theorem NoFinal.appliance {W : List ApplianceCall → Prop} : (appliance W : Calls α).NoFinal := by
  rintro _ _ _ _ _ ⟨rfl, -, -⟩ d c h
  cases h

theorem NoFinal.checked {doc : Option InitDocument} {n : Nat} :
    (checked doc n : Calls α).NoFinal := by
  rintro _ _ _ _ _ ⟨⟨task, k, -, rfl⟩, -, -⟩ d c h
  simp [List.mem_replicate] at h

theorem NoFinal.watched {settings : MonitorSettings} {doc : ApplyDocument} :
    (watched settings doc : Calls α).NoFinal := by
  rintro _ _ _ _ _ ⟨⟨k, -, rfl⟩, -⟩ d c h
  simp [List.mem_replicate] at h

/-- The two-phase upgrade's first apply pauses before the switchover. -/
theorem NoFinal.pauseFirst : (applied ApplySpec.pauseFirst).NoFinal := by
  rintro doc c _ _ _ ⟨hdoc, rfl, -, -⟩ d c' h
  obtain rfl : doc = { pause := some .beforeSwitchover } := applied_doc hdoc rfl
  rw [List.mem_singleton, LifecycleCall.apply.injEq] at h
  rw [h.1]
  simp

end Calls

theorem CallsBy.noFinal {α : Type} {D : Calls α} {P : Except Failure α → Trace → Prop}
    (h : CallsBy D P) (hD : D.NoFinal) {r : Except Failure α} {t : Trace} (hp : P r t) :
    ∀ x ∈ t.lifecycle, ¬FinalApply x := by
  rintro x hx ⟨d, c, rfl, hpause⟩
  have hcall : LifecycleCall.apply d c ∈ t.lifecycle.map Prod.fst := List.mem_map.2 ⟨_, hx, rfl⟩
  cases r with
  | ok a => exact hD _ _ _ _ _ (h.ok a t hp) d c hcall hpause
  | error e =>
    obtain ⟨a, ls, ds, c', hd, hl, -⟩ := h.error e t hp
    exact hD _ _ _ _ _ hd d c (hl.subset hcall) hpause

/-! ## From the first final apply on -/

/-- The runs that `P` describes go on as `after` says from their first final apply, of `doc`
at `c`, followed by the exchanges `lead`. -/
def FromFinalApply {β : Type} (lead : List LifecycleExchange)
    (after : ApplyDocument → Time.Instant → List LifecycleExchange → Except Failure β → Prop)
    (P : Except Failure β → Trace → Prop) : Prop :=
  ∀ r t, P r t → ∀ pre doc c post,
    t.lifecycle = pre ++ (.apply doc c, .ok .accepted) :: (lead ++ post) → doc.pause = none →
    (∀ x ∈ pre, ¬FinalApply x) → after doc c post r

namespace FromFinalApply

variable {α β : Type} {lead : List LifecycleExchange}
  {after after' : ApplyDocument → Time.Instant → List LifecycleExchange → Except Failure β → Prop}
  {P : Except Failure α → Trace → Prop} {Q : α → Except Failure β → Trace → Prop}

theorem mono {P : Except Failure β → Trace → Prop} (h : FromFinalApply lead after P)
    (ha : ∀ doc c post r, after doc c post r → after' doc c post r) :
    FromFinalApply lead after' P :=
  fun r t hp pre doc c post hs hpause hfree => ha _ _ _ _ (h r t hp pre doc c post hs hpause hfree)

/-- Runs that make no final apply never get past one. -/
theorem none {P : Except Failure β → Trace → Prop}
    (hP : ∀ r t, P r t → ∀ x ∈ t.lifecycle, ¬FinalApply x) : FromFinalApply lead after P := by
  intro r t hp pre doc c post hs hpause _
  exact (hP r t hp _ (by rw [hs]; simp) ⟨doc, c, rfl, hpause⟩).elim

theorem quiet {P : Except Failure β → Trace → Prop} (hP : ∀ r t, P r t → t.Quiet) :
    FromFinalApply lead after P :=
  none fun r t h x hx => by
    rw [(hP r t h).1] at hx
    cases hx

/-- A stage that makes no final apply passes the first final apply on to what follows it. -/
theorem seq (hP : ∀ r t, P r t → ∀ x ∈ t.lifecycle, ¬FinalApply x)
    (hQ : ∀ a, FromFinalApply lead after (Q a)) : FromFinalApply lead after (Trace.Seq P Q) := by
  intro r t h pre doc c post hs hpause hfree
  have hmark : FinalApply (.apply doc c, .ok .accepted) := ⟨doc, c, rfl, hpause⟩
  rcases h with ⟨e, rfl, hp⟩ | ⟨a, t₁, t₂, hp, hq, -, rfl⟩
  · exact (hP _ t hp _ (by rw [hs]; simp) hmark).elim
  · -- the split falls in the second stage, after all of the first
    rcases split_append hs with ⟨post₁, hl₁⟩ | ⟨pre₂, hl₂, rfl⟩
    · exact (hP _ t₁ hp _ (by rw [hl₁]; simp) hmark).elim
    · exact hQ a r t₂ hq pre₂ doc c post hl₂ hpause
        fun x hx => hfree x (List.mem_append_right _ hx)

/-- A stage whose calls are described without a final apply passes the first final apply on. -/
theorem seq_calls {D : Calls α} (hP : CallsBy D P) (hD : D.NoFinal)
    (hQ : ∀ a, FromFinalApply lead after (Q a)) : FromFinalApply lead after (Trace.Seq P Q) :=
  seq (fun _ _ hp => hP.noFinal hD hp) hQ

/-- An apply followed by the final monitor and its recovery: the apply, when accepted, is the
first final apply, and what follows it is the final phase. -/
theorem final (spec : ApplySpec) (s : Session) (autocancel : Bool) :
    FromFinalApply [] (FinalPhase s.monitoring autocancel true)
      (Trace.Seq (Trace.AppliedSpec spec) fun doc =>
        Trace.MonitoredAndRecovered s autocancel doc true) := by
  intro r t h pre doc c post hsplit hpause hfree
  rcases h with ⟨e, -, happ⟩ | ⟨doc₀, t₁, t₂, happ, hmr, hs, rfl⟩
  · exact (happ.refused (.apply doc c, .ok .accepted) (by rw [hsplit]; simp) rfl).elim
  obtain ⟨-, hl₁, -, hstop₁⟩ := happ.accepted
  obtain ⟨as, rec, m, hl₂, hends, hrec⟩ := hmr.finalPhase
  have hsplit' := hsplit
  simp only [Trace.append, hl₁, List.singleton_append, List.nil_append] at hsplit'
  obtain ⟨rfl, rfl, hpost⟩ := first_final_head hsplit' hpause hfree hmr.apply_doc
  -- the monitor starts when the apply's stage stops, one tick after the apply
  rw [← hs, hstop₁] at hends
  exact ⟨as, rec, m, hpost.trans hl₂, hends, hrec⟩

/-- In a cancellation the apply is followed by the cancel, then the final monitor and its
recovery; the final phase follows an accepted apply and an accepted cancel. -/
theorem finalCancel (spec : ApplySpec) (s : Session) (autocancel : Bool) :
    FromFinalApply [(.cancel, .ok .accepted)] (FinalPhase s.monitoring autocancel false)
      (Trace.Seq (Trace.AppliedSpec spec) fun doc => Trace.Seq Trace.Cancelled fun _ =>
        Trace.MonitoredAndRecovered s autocancel doc false) := by
  intro r t h pre doc c post hsplit hpause hfree
  rcases h with ⟨e, -, happ⟩ | ⟨doc₀, t₁, t₂, happ, hrest, hs, rfl⟩
  · exact (happ.refused (.apply doc c, .ok .accepted) (by rw [hsplit]; simp) rfl).elim
  obtain ⟨-, hl₁, -, hstop₁⟩ := happ.accepted
  rcases hrest with ⟨e, -, hcancel⟩ | ⟨u, t₃, t₄, hcancel, hmr, hs', rfl⟩
  · -- a cancel that fails is not accepted, so nothing accepted follows the apply
    simp only [Trace.append, hl₁, List.singleton_append] at hsplit
    have hacc : ∃ x ∈ t₂.lifecycle, x.2 = .ok .accepted := by
      cases pre with
      | nil =>
        simp only [List.nil_append, List.cons.injEq] at hsplit
        exact ⟨(.cancel, .ok .accepted), by rw [hsplit.2]; simp, rfl⟩
      | cons y pre =>
        simp only [List.cons_append, List.cons.injEq] at hsplit
        exact ⟨(.apply doc c, .ok .accepted), by rw [hsplit.2]; simp, rfl⟩
    obtain ⟨x, hx, hxa⟩ := hacc
    exact (hcancel.1.refused x hx hxa).elim
  have hl₃ : t₃.lifecycle = [(.cancel, .ok .accepted)] := hcancel.1.atMostOne.2 () rfl
  obtain ⟨as, rec, m, hl₄, hends, hrec⟩ := hmr.finalPhase
  have hsplit' := hsplit
  simp only [Trace.append, hl₁, hl₃, List.cons_append, List.nil_append] at hsplit'
  obtain ⟨rfl, rfl, hpost⟩ := first_final_head hsplit' hpause hfree (by
    rintro x (_ | ⟨_, hx⟩) d c' hxc
    · cases hxc
    · exact hmr.apply_doc x hx d c' hxc)
  -- the monitor starts when the cancel's stage stops, which is when the apply's stopped
  have hstart : t₃.start = tick (tick t₁.start) := by
    rw [← hstop₁]
    exact hs.symm
  rw [← hs', hcancel.2, hstart] at hends
  exact ⟨as, rec, m, (List.cons.inj hpost).2.trans hl₄, hends, hrec⟩

end FromFinalApply

/-! ## The final phase of each scenario -/

/-- What follows the final apply before the final monitor: the accepted cancel in a
cancellation, and nothing in the other scenarios. -/
def ScenarioKind.finalLead : ScenarioKind → List LifecycleExchange
  | .cancellation => [(.cancel, .ok .accepted)]
  | _ => []

/-- The budgets of a scenario's final monitor. -/
def ScenarioSettings.finalMonitor (settings : ScenarioSettings) : ScenarioKind → MonitorSettings
  | .cancellation => settings.cancellationMonitor
  | _ => settings.monitor

namespace FromFinalApply

section Scenarios

variable (settings : ScenarioSettings) (request : UpgradeRequest)

/-- The readiness check applies nothing. -/
theorem readiness {lead : List LifecycleExchange}
    {after : ApplyDocument → Time.Instant → List LifecycleExchange →
      Except Failure ScenarioOutcome → Prop} :
    FromFinalApply lead after (Trace.Readiness settings request) := by
  unfold Trace.Readiness
  exact seq_calls (CallsBy.pluginUpdated settings request) Calls.NoFinal.appliance fun _ =>
    seq_calls (CallsBy.checked _ _) Calls.NoFinal.checked fun res =>
    seq_calls (CallsBy.passed res) Calls.NoFinal.idle fun _ =>
    quiet fun _ _ h => h.2

theorem fullUpgrade :
    FromFinalApply [] (FinalPhase settings.monitor request.init.autocancellation true)
      (Trace.FullUpgrade settings request) := by
  unfold Trace.FullUpgrade
  exact seq_calls (CallsBy.specMade _ _) Calls.NoFinal.idle fun spec =>
    seq_calls (CallsBy.pluginUpdated settings request) Calls.NoFinal.appliance fun _ =>
    seq_calls (CallsBy.checked _ _) Calls.NoFinal.checked fun res =>
    seq_calls (CallsBy.passed res) Calls.NoFinal.idle fun _ =>
    seq_calls (CallsBy.configured _) Calls.NoFinal.configure fun _ =>
    seq_calls (CallsBy.checked _ _) Calls.NoFinal.checked fun res =>
    seq_calls (CallsBy.passed res) Calls.NoFinal.idle fun _ =>
    seq_calls (CallsBy.confirmed settings) Calls.NoFinal.idle fun _ =>
    final spec (Scenario.session settings settings.monitor) _

theorem uberUpgrade :
    FromFinalApply [] (FinalPhase settings.monitor request.init.autocancellation true)
      (Trace.UberUpgrade settings request) := by
  unfold Trace.UberUpgrade
  split
  · -- refused before any call
    exact quiet fun _ _ h => h.2
  · exact seq_calls (CallsBy.specMade _ _) Calls.NoFinal.idle fun spec =>
      seq_calls (CallsBy.pluginUpdated settings request) Calls.NoFinal.appliance fun _ =>
      seq_calls (CallsBy.configured _) Calls.NoFinal.configure fun _ =>
      seq_calls (CallsBy.confirmed settings) Calls.NoFinal.idle fun _ =>
      final spec (Scenario.session settings settings.monitor) _

/-- After a pause the switchover's apply is the final apply; any other end of the
preparation applies nothing more. -/
theorem afterPreparation (o : MonitorOutcome) :
    FromFinalApply [] (FinalPhase settings.monitor request.init.autocancellation true)
      (Trace.AfterPreparation settings request o) := by
  cases o
  case pausedBeforeSwitchover =>
    unfold Trace.AfterPreparation
    exact final _ (Scenario.session settings settings.monitor) _
  all_goals exact quiet fun _ _ h => h.2

theorem twoPhase :
    FromFinalApply [] (FinalPhase settings.monitor request.init.autocancellation true)
      (Trace.TwoPhase settings request) := by
  unfold Trace.TwoPhase
  exact seq_calls (CallsBy.pluginUpdated settings request) Calls.NoFinal.appliance fun _ =>
    seq_calls (CallsBy.configured _) Calls.NoFinal.configure fun _ =>
    seq_calls (CallsBy.confirmed settings) Calls.NoFinal.idle fun _ =>
    seq_calls (CallsBy.appliedSpec _) Calls.NoFinal.pauseFirst fun prepare =>
    seq_calls (CallsBy.watched _ _ prepare) Calls.NoFinal.watched
      (afterPreparation settings request)

theorem cancellation :
    FromFinalApply [(.cancel, .ok .accepted)]
      (FinalPhase settings.cancellationMonitor request.init.autocancellation false)
      (Trace.Cancellation settings request) := by
  unfold Trace.Cancellation
  exact seq_calls (CallsBy.specMade _ _) Calls.NoFinal.idle fun spec =>
    seq_calls (CallsBy.pluginUpdated settings request) Calls.NoFinal.appliance fun _ =>
    seq_calls (CallsBy.configured _) Calls.NoFinal.configure fun _ =>
    seq_calls (CallsBy.checked _ _) Calls.NoFinal.checked fun res =>
    seq_calls (CallsBy.passed res) Calls.NoFinal.idle fun _ =>
    seq_calls (CallsBy.confirmed settings) Calls.NoFinal.idle fun _ =>
    finalCancel spec (Scenario.session settings settings.cancellationMonitor) _

/-- Every scenario that reaches its final monitor goes on with the final phase, reapplying in
every scenario but the cancellation. -/
theorem ofScenario (kind : ScenarioKind) :
    FromFinalApply kind.finalLead
      (fun doc c post r => kind ≠ .readiness ∧
        FinalPhase (settings.finalMonitor kind) request.init.autocancellation
          (kind != .cancellation) doc c post r)
      (Trace.OfScenario settings kind request) := by
  cases kind
  · exact readiness settings request
  · exact (fullUpgrade settings request).mono fun _ _ _ _ h => ⟨by decide, h⟩
  · exact (uberUpgrade settings request).mono fun _ _ _ _ h => ⟨by decide, h⟩
  · exact (twoPhase settings request).mono fun _ _ _ _ h => ⟨by decide, h⟩
  · exact (cancellation settings request).mono fun _ _ _ _ h => ⟨by decide, h⟩

end Scenarios

end FromFinalApply

/-! ## The recovery of a scenario -/

/-- The recovery after the final monitor, for every scenario and every behaviour of the
manager. From the first accepted apply of a document without a pause on (and, in a
cancellation, the accepted cancel after it), the manager sees the final monitor's status calls
and then the recovery: the monitor ends on those answers as the reference says, from one tick
after the apply, and the recovery makes at most one call, as `Recovers` says, applying the very
document of that apply again in every scenario but the cancellation. The readiness check never
gets there. -/
theorem final_monitor_recovery (settings : ScenarioSettings) (kind : ScenarioKind)
    (request : UpgradeRequest) :
    (Scenario.run settings kind request).Spec fun r t =>
      ∀ pre doc c post,
        t.lifecycle = pre ++ (.apply doc c, .ok .accepted) :: (kind.finalLead ++ post) →
        doc.pause = none → (∀ x ∈ pre, ¬FinalApply x) →
        kind ≠ .readiness ∧
          FinalPhase (settings.finalMonitor kind) request.init.autocancellation
            (kind != .cancellation) doc c post r :=
  (Flow.Settled.run settings request kind).spec.mono
    (FromFinalApply.ofScenario settings request kind)

/-! ## A run to the final phase -/

/-- A world where every service accepts every call, the manager reports the upgrade done, and
the operator answers the prompt with yes; the clock reads 2025-06-01T12:00:00Z. -/
def World.accepting : World :=
  { clock := ⟨1748779200, 0⟩, terminal := [.yes],
    lifecycle := { status := .constant { status := .succeeded, currentState := some .upgraded } } }

/-- An uber-upgrade of the appliance managed by `vc.example`, with no switchover scheduled. -/
def UpgradeRequest.uberSample : UpgradeRequest :=
  { init := { rootPassword := "root-secret", targetVersion := "8.0.3", targetOva := "vcsa.ova",
              targetUpgradeRepo := "repo",
              managingServer := some ⟨"vc.example", "admin", "secret"⟩ } }

/-- The calls of the uber-upgrade in the accepting world: the configure, the apply after the
prompt, and the one status call that finds the upgrade done. The apply reads the clock twice
after the apply spec's own reading. -/
theorem accepting_uberUpgrade_calls :
    ((Scenario.run {} .uberUpgrade UpgradeRequest.uberSample).run
        World.accepting).2.lifecycleCalls.toList =
      [.configure UpgradeRequest.uberSample.init.toDocument.value, .apply {} ⟨1748779200, 2⟩,
        .status] := by
  decide +kernel

/-- The exchanges of that run, split at its final apply. -/
theorem accepting_uberUpgrade_lifecycle {cs : List LifecycleCall} {ds : List ApplianceCall}
    {ps : List (Nat × PromptAnswer)}
    (h : Moved World.accepting
      ((Scenario.run {} .uberUpgrade UpgradeRequest.uberSample).run World.accepting).2 cs ds ps) :
    (World.accepting.traceTo
        ((Scenario.run {} .uberUpgrade UpgradeRequest.uberSample).run World.accepting).2
        cs ds ps).lifecycle =
      [(.configure UpgradeRequest.uberSample.init.toDocument.value, .ok .accepted)] ++
        (.apply {} ⟨1748779200, 2⟩, .ok .accepted) :: (ScenarioKind.uberUpgrade.finalLead ++
          [(.status, .ok (.status { status := .succeeded, currentState := some .upgraded }))]) := by
  -- the calls are read off the run's final world
  have hcs := h.lifecycleCalls
  rw [accepting_uberUpgrade_calls] at hcs
  have hcs' : cs = [.configure UpgradeRequest.uberSample.init.toDocument.value,
      .apply {} ⟨1748779200, 2⟩, .status] := by
    simpa [World.accepting] using hcs.symm
  subst hcs'
  rfl

/-- The uber-upgrade in the accepting world reaches its final phase: it makes an accepted final
apply, after nothing that is one, and goes on as `final_monitor_recovery` says. -/
theorem uberUpgrade_reaches_final_phase :
    ∃ cs ds ps, Moved World.accepting
        ((Scenario.run {} .uberUpgrade UpgradeRequest.uberSample).run World.accepting).2
        cs ds ps ∧
      ∃ pre doc c post,
        (World.accepting.traceTo
            ((Scenario.run {} .uberUpgrade UpgradeRequest.uberSample).run World.accepting).2
            cs ds ps).lifecycle =
          pre ++ (.apply doc c, .ok .accepted) :: (ScenarioKind.uberUpgrade.finalLead ++ post) ∧
        doc.pause = none ∧ (∀ x ∈ pre, ¬FinalApply x) ∧
        ScenarioKind.uberUpgrade ≠ .readiness ∧
          FinalPhase (ScenarioSettings.finalMonitor {} .uberUpgrade)
            UpgradeRequest.uberSample.init.autocancellation
            (ScenarioKind.uberUpgrade != .cancellation) doc c post
            ((Scenario.run {} .uberUpgrade UpgradeRequest.uberSample).run World.accepting).1 := by
  obtain ⟨cs, ds, ps, hmoved, hfinal⟩ :=
    final_monitor_recovery {} .uberUpgrade UpgradeRequest.uberSample World.accepting
  have hsplit := accepting_uberUpgrade_lifecycle hmoved
  -- the one exchange before the apply is the configure
  have hpre : ∀ x ∈ [(LifecycleCall.configure UpgradeRequest.uberSample.init.toDocument.value,
      (.ok .accepted : Except UpgradeError LifecycleReply))], ¬FinalApply x := by
    rintro x hx ⟨doc, c, rfl, -⟩
    simp at hx
  exact ⟨cs, ds, ps, hmoved, _, _, _, _, hsplit, rfl, hpre, hfinal _ _ _ _ hsplit rfl hpre⟩

end ReducedDowntime
