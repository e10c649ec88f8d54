import ReducedDowntime.Proofs.Recovery

/-!
# The documents a scenario sends

A scenario builds its init document once, from the request's init spec with the overrides of
its kind (`ScenarioKind.initFor`), and hands the apply document it sends to the monitor that
follows. This module states both for every scenario and every behaviour of the services
(`scenario_payloads_agree`):

1. every init document sent to the manager, by a pre-check against a document or by the
   configure call, is the one of the kind's init spec; so in the full upgrade the pre-checked
   and the configured documents are the same;
2. after every accepted apply of a document not applied before (in a cancellation, and the
   accepted cancel after it), the manager sees a monitor of that very document, started one
   tick after the apply, whose automatic cancellation is on exactly when the document of the
   accepted configure before it asks for it. A re-application in the recovery is followed by
   no monitor, and the two-phase upgrade's two applies are each followed by their own.

The uber-upgrade in a world that accepts every call shows both at work
(`uberUpgrade_monitors_applied_document`).

## The proof

The documents come from the words of `Proofs/CallWords`: each kind of word sends no init
document but its own (`SendsOnly`). The monitors come from the stages of each scenario, as in
`Proofs/Recovery`: `FromApply` carries what follows a fresh apply through stages that apply
nothing, to the three stages that apply and then monitor. The configure before an apply is the
discipline of `Proofs/Discipline`.
-/

namespace ReducedDowntime

open ReducedDowntime.Flow

/-! ## Init documents -/

/-- The init document a call sends: a pre-check against a document, or a configure. -/
def LifecycleCall.initDocument? : LifecycleCall → Option InitDocument
  | .startCheck doc => doc
  | .configure doc => some doc
  | _ => none

/-- The init spec a scenario of each kind sends, from the request's: the readiness check leaves
out automatic cancellation, name preservation and the managing server, the upgrade of a managed
server keeps the spec as it is, and the other scenarios leave out the managing server. -/
def ScenarioKind.initFor : ScenarioKind → InitSpec → InitSpec
  | .readiness, init =>
    { init with autocancellation := false, preserveOriginalName := false, managingServer := none }
  | .uberUpgrade, init => init
  | _, init => { init with managingServer := none }

/-- The calls `w` send no init document but `d`. -/
def SendsOnly (d : InitDocument) (w : List LifecycleCall) : Prop :=
  ∀ call ∈ w, ∀ d', call.initDocument? = some d' → d' = d

section SendsOnly

variable {d : InitDocument} {w w₁ w₂ : List LifecycleCall}

@[simp] theorem sendsOnly_nil : SendsOnly d [] := by
  intro call hc
  cases hc

@[simp] theorem sendsOnly_append : SendsOnly d (w₁ ++ w₂) ↔ SendsOnly d w₁ ∧ SendsOnly d w₂ := by
  simp only [SendsOnly, List.mem_append]
  exact ⟨fun h => ⟨fun c hc => h c (.inl hc), fun c hc => h c (.inr hc)⟩,
    fun h c hc => hc.elim (h.1 c) (h.2 c)⟩

@[simp] theorem sendsOnly_cons {call : LifecycleCall} :
    SendsOnly d (call :: w) ↔ (∀ d', call.initDocument? = some d' → d' = d) ∧ SendsOnly d w := by
  simp only [SendsOnly, List.mem_cons, forall_eq_or_imp]

theorem SendsOnly.prefix (h : SendsOnly d w₂) (hw : w₁ <+: w₂) : SendsOnly d w₁ :=
  fun call hc => h call (hw.subset hc)

end SendsOnly

theorem CheckWord.sendsOnly {doc : Option InitDocument} {n : Nat} {w : List LifecycleCall}
    {d : InitDocument} (h : CheckWord doc n w) (hd : ∀ d', doc = some d' → d' = d) :
    SendsOnly d w := by
  obtain ⟨task, k, -, rfl⟩ := h
  intro call hc d' hcall
  simp only [List.mem_cons, List.mem_replicate] at hc
  rcases hc with rfl | ⟨-, rfl⟩
  · exact hd d' hcall
  · cases hcall

theorem StatusWord.sendsOnly {settings : MonitorSettings} {doc : ApplyDocument}
    {now : Time.Instant} {w : List LifecycleCall} (h : StatusWord settings doc now w)
    (d : InitDocument) : SendsOnly d w := by
  obtain ⟨k, -, rfl⟩ := h
  intro call hc d' hcall
  rw [(List.mem_replicate.mp hc).2] at hcall
  cases hcall

theorem RecoveryWord.sendsOnly {reapply : Bool} {doc : ApplyDocument} {w : List LifecycleCall}
    (h : RecoveryWord reapply doc w) (d : InitDocument) : SendsOnly d w := by
  rcases h with rfl | rfl | ⟨-, c, rfl⟩ <;> simp [LifecycleCall.initDocument?]

/-- Every word of a scenario sends no init document but the one of its kind's init spec. -/
theorem CallWord.sendsOnly {settings : ScenarioSettings} {request : UpgradeRequest}
    {kind : ScenarioKind} {w : List LifecycleCall} (h : CallWord settings request kind w) :
    SendsOnly (kind.initFor request.init).toDocument.value w := by
  cases kind with
  | readiness => exact CheckWord.sendsOnly h fun _ hd => (Option.some.inj hd).symm
  | fullUpgrade =>
    obtain ⟨w₁, w₂, doc, c, w₃, w₄, h₁, h₂, h₃, h₄, rfl⟩ := h
    simp only [sendsOnly_append, sendsOnly_cons]
    refine ⟨⟨⟨h₁.sendsOnly fun _ hd => (Option.some.inj hd).symm, ?_,
      h₂.sendsOnly fun _ hd => by cases hd⟩, ?_, h₃.sendsOnly _⟩, h₄.sendsOnly _⟩
    all_goals simp [LifecycleCall.initDocument?, ScenarioKind.initFor, eq_comm]
  | uberUpgrade =>
    obtain ⟨doc, c, w₁, w₂, h₁, h₂, rfl⟩ := h
    simp only [sendsOnly_append, sendsOnly_cons]
    refine ⟨⟨?_, ?_, h₁.sendsOnly _⟩, h₂.sendsOnly _⟩
    all_goals simp [LifecycleCall.initDocument?, ScenarioKind.initFor, eq_comm]
  | twoPhase =>
    obtain ⟨c₁, w₁, c₂, w₂, w₃, h₁, h₂, h₃, rfl⟩ := h
    simp only [sendsOnly_append, sendsOnly_cons]
    refine ⟨⟨⟨?_, ?_, h₁.sendsOnly _⟩, ?_, h₂.sendsOnly _⟩, h₃.sendsOnly _⟩
    all_goals simp [LifecycleCall.initDocument?, ScenarioKind.initFor, eq_comm]
  | cancellation =>
    obtain ⟨w₁, doc, c, w₂, w₃, h₁, h₂, h₃, rfl⟩ := h
    simp only [sendsOnly_append, sendsOnly_cons]
    refine ⟨⟨⟨?_, h₁.sendsOnly fun _ hd => by cases hd⟩, ?_, ?_, h₂.sendsOnly _⟩, h₃.sendsOnly _⟩
    all_goals simp [LifecycleCall.initDocument?, ScenarioKind.initFor, eq_comm]

/-- The document of the kind's init spec asks for automatic cancellation exactly when the
request does, in every scenario but the readiness check. -/
theorem ScenarioKind.initFor_cancels {kind : ScenarioKind} (hk : kind ≠ .readiness)
    (init : InitSpec) :
    decide ((kind.initFor init).toDocument.value.automaticCancellation = some true) =
      init.autocancellation := by
  cases kind <;> cases h : init.autocancellation <;>
    simp_all [ScenarioKind.initFor, InitSpec.toDocument, InitSpec.document]

/-! ## The monitor after an apply -/

/-- A monitor of `doc` with automatic cancellation `autocancel`, started at `start`, as the
exchanges from its start on and the scenario's result `r` show it: status calls answered by
`as`, on which it ends as `m`, and a halt of the monitor ends the scenario. -/
def MonitorRun (settings : MonitorSettings) (autocancel : Bool) (doc : ApplyDocument)
    (start : Time.Instant) (post : List LifecycleExchange) (r : Except Failure ScenarioOutcome) :
    Prop :=
  ∃ as rest m, post = Monitor.statusExchanges as ++ rest ∧
    Monitor.Ends settings autocancel doc start as m ∧
    ∀ f, m = .error f → f.isHalt = true → rest = [] ∧ r = .error f

/-- A halt carries no upgrade error. -/
theorem Failure.error?_of_isHalt {f : Failure} (h : f.isHalt = true) : f.error? = none := by
  unfold Failure.isHalt at h
  unfold Failure.error?
  split at h
  · next text hc => rw [hc]
  · cases h

/-- A halted final monitor is the scenario's end: the recovery makes no call. -/
theorem Recovers.halted {reapply : Bool} {doc : ApplyDocument} {m : Except Failure MonitorOutcome}
    {rec : List LifecycleExchange} {r : Except Failure ScenarioOutcome} {f : Failure}
    (h : Recovers reapply doc m rec r) (hm : m = .error f) (hf : f.isHalt = true) :
    rec = [] ∧ r = .error f := by
  have hnone := Failure.error?_of_isHalt hf
  exact h.other f hm (fun text he => by rw [hnone] at he; cases he)
    (fun text he => by rw [hnone] at he; cases he)

theorem Trace.MonitoredAndRecovered.monitorRun {s : Session} {autocancel : Bool}
    {doc : ApplyDocument} {reapply : Bool} {r : Except Failure ScenarioOutcome} {t : Trace}
    (h : Trace.MonitoredAndRecovered s autocancel doc reapply r t) :
    MonitorRun s.monitoring autocancel doc t.start t.lifecycle r := by
  obtain ⟨as, rec, m, hl, hends, hrec⟩ := h.finalPhase
  exact ⟨as, rec, m, hl, hends, fun f hm hf => hrec.halted hm hf⟩

/-- A monitor followed by any stage: a monitor that fails ends the scenario with its failure. -/
theorem Monitor.Watched.monitorRun_seq {settings : MonitorSettings} {autocancel : Bool}
    {doc : ApplyDocument} {Q : MonitorOutcome → Except Failure ScenarioOutcome → Trace → Prop}
    {r : Except Failure ScenarioOutcome} {t : Trace}
    (h : Trace.Seq (Monitor.Watched settings autocancel doc) Q r t) :
    MonitorRun settings autocancel doc t.start t.lifecycle r := by
  rcases h with ⟨e, rfl, -, as, hl, hends⟩ | ⟨o, t₁, t₂, ⟨-, as, hl, hends⟩, -, -, rfl⟩
  · exact ⟨as, [], .error e, by rw [hl, List.append_nil], hends,
      fun f hf _ => ⟨rfl, by cases hf; rfl⟩⟩
  · exact ⟨as, t₂.lifecycle, .ok o, by simp [Trace.append, hl], hends, fun f hf => by cases hf⟩

/-! ## Stages that apply nothing -/

namespace Calls

variable {α : Type}

/-- A description whose manager calls apply nothing. -/
def NoApply (D : Calls α) : Prop :=
  ∀ a c ls ds c', D a c ls ds c' → ∀ d c'', LifecycleCall.apply d c'' ∉ ls

theorem NoApply.idle {next : Time.Instant → Time.Instant} : (idle next : Calls α).NoApply := by
  rintro _ _ _ _ _ ⟨rfl, -, -⟩ d c h
  cases h

theorem NoApply.configure {d : InitDocument} : (lifecycle (.configure d) : Calls α).NoApply := by
  rintro _ _ _ _ _ ⟨rfl, -, -⟩ d' c h
  simp at h

theorem NoApply.appliance {W : List ApplianceCall → Prop} : (appliance W : Calls α).NoApply := by
  rintro _ _ _ _ _ ⟨rfl, -, -⟩ d c h
  cases h

theorem NoApply.checked {doc : Option InitDocument} {n : Nat} :
    (checked doc n : Calls α).NoApply := by
  rintro _ _ _ _ _ ⟨⟨task, k, -, rfl⟩, -, -⟩ d c h
  simp [List.mem_replicate] at h

theorem NoApply.watched {settings : MonitorSettings} {doc : ApplyDocument} :
    (watched settings doc : Calls α).NoApply := by
  rintro _ _ _ _ _ ⟨⟨k, -, rfl⟩, -⟩ d c h
  simp [List.mem_replicate] at h

end Calls

theorem CallsBy.noApply {α : Type} {D : Calls α} {P : Except Failure α → Trace → Prop}
    (h : CallsBy D P) (hD : D.NoApply) {r : Except Failure α} {t : Trace} (hp : P r t) :
    ∀ x ∈ t.lifecycle, ∀ d c, x.1 ≠ .apply d c := by
  intro x hx d c hxc
  have hcall : LifecycleCall.apply d c ∈ t.lifecycle.map Prod.fst :=
    List.mem_map.2 ⟨x, hx, hxc⟩
  cases r with
  | ok a => exact hD _ _ _ _ _ (h.ok a t hp) d c hcall
  | error e =>
    obtain ⟨a, ls, ds, c', hd, hl, -⟩ := h.error e t hp
    exact hD _ _ _ _ _ hd d c (hl.subset hcall)

/-! ## From every fresh apply on -/

/-- The runs that `P` describes go on as `after` says from every accepted apply of a document
not applied before, followed by the exchanges `lead`. -/
def FromApply {β : Type} (lead : List LifecycleExchange)
    (after : ApplyDocument → Time.Instant → List LifecycleExchange → Except Failure β → Prop)
    (P : Except Failure β → Trace → Prop) : Prop :=
  ∀ r t, P r t → ∀ pre doc c post,
    t.lifecycle = pre ++ (.apply doc c, .ok .accepted) :: (lead ++ post) →
    (∀ x ∈ pre, ∀ c', x.1 ≠ .apply doc c') → after doc c post r

/-- A run that starts with an accepted apply of `doc₀` and applies no other document has no
fresh apply but that first one. -/
theorem fresh_apply_head {doc₀ doc : ApplyDocument} {c₀ c : Time.Instant}
    {L pre post : List LifecycleExchange}
    (hsplit : (.apply doc₀ c₀, .ok .accepted) :: L = pre ++ (.apply doc c, .ok .accepted) :: post)
    (hfresh : ∀ x ∈ pre, ∀ c', x.1 ≠ .apply doc c')
    (hL : ∀ x ∈ L, ∀ d c', x.1 = .apply d c' → d = doc₀) : doc = doc₀ ∧ c = c₀ ∧ post = L := by
  cases pre with
  | nil =>
    simp only [List.nil_append, List.cons.injEq, Prod.mk.injEq, LifecycleCall.apply.injEq] at hsplit
    obtain ⟨⟨⟨rfl, rfl⟩, -⟩, rfl⟩ := hsplit
    exact ⟨rfl, rfl, rfl⟩
  | cons y pre =>
    -- a later apply is of `doc₀` too, which the head already applied
    simp only [List.cons_append, List.cons.injEq] at hsplit
    obtain ⟨rfl, hL'⟩ := hsplit
    have hdoc : doc = doc₀ := hL (.apply doc c, .ok .accepted) (by rw [hL']; simp) doc c rfl
    subst hdoc
    exact absurd rfl (hfresh _ List.mem_cons_self c₀)

namespace FromApply

variable {α β : Type} {lead : List LifecycleExchange}
  {after after' : ApplyDocument → Time.Instant → List LifecycleExchange → Except Failure β → Prop}
  {P : Except Failure α → Trace → Prop} {Q : α → Except Failure β → Trace → Prop}

theorem mono {P : Except Failure β → Trace → Prop} (h : FromApply lead after P)
    (ha : ∀ doc c post r, after doc c post r → after' doc c post r) : FromApply lead after' P :=
  fun r t hp pre doc c post hs hfresh => ha _ _ _ _ (h r t hp pre doc c post hs hfresh)

theorem quiet {P : Except Failure β → Trace → Prop} (hP : ∀ r t, P r t → t.Quiet) :
    FromApply lead after P := by
  intro r t hp pre doc c post hs _
  have hl : t.lifecycle = [] := (hP r t hp).1
  rw [hl] at hs
  simp at hs

/-- A stage that applies nothing passes every fresh apply on to what follows it. -/
theorem seq (hP : ∀ r t, P r t → ∀ x ∈ t.lifecycle, ∀ d c, x.1 ≠ .apply d c)
    (hQ : ∀ a, FromApply lead after (Q a)) : FromApply lead after (Trace.Seq P Q) := by
  intro r t h pre doc c post hs hfresh
  rcases h with ⟨e, rfl, hp⟩ | ⟨a, t₁, t₂, hp, hq, -, rfl⟩
  · exact (hP _ t hp (.apply doc c, .ok .accepted) (by rw [hs]; simp) doc c rfl).elim
  · -- the split falls in the second stage, after all of the first
    rcases split_append hs with ⟨post₁, hl₁⟩ | ⟨pre₂, hl₂, rfl⟩
    · exact (hP _ t₁ hp (.apply doc c, .ok .accepted) (by rw [hl₁]; simp) doc c rfl).elim
    · exact hQ a r t₂ hq pre₂ doc c post hl₂ fun x hx => hfresh x (List.mem_append_right _ hx)

theorem seq_calls {D : Calls α} (hP : CallsBy D P) (hD : D.NoApply)
    (hQ : ∀ a, FromApply lead after (Q a)) : FromApply lead after (Trace.Seq P Q) :=
  seq (fun _ _ hp => hP.noApply hD hp) hQ

/-- An apply followed by the final monitor and its recovery: a fresh apply is the stage's own,
and the monitor of its document follows it from one tick later. -/
theorem monitored (spec : ApplySpec) (s : Session) (autocancel reapply : Bool) :
    FromApply [] (fun doc c post r => MonitorRun s.monitoring autocancel doc (tick c) post r)
      (Trace.Seq (Trace.AppliedSpec spec) fun doc =>
        Trace.MonitoredAndRecovered s autocancel doc reapply) := by
  intro r t h pre doc c post hsplit hfresh
  rcases h with ⟨e, -, happ⟩ | ⟨doc₀, t₁, t₂, happ, hmr, hs, rfl⟩
  · exact (happ.refused (.apply doc c, .ok .accepted) (by rw [hsplit]; simp) rfl).elim
  obtain ⟨-, hl₁, -, hstop₁⟩ := happ.accepted
  simp only [Trace.append, hl₁, List.singleton_append, List.nil_append] at hsplit
  obtain ⟨rfl, rfl, rfl⟩ := fresh_apply_head hsplit hfresh hmr.apply_doc
  -- the monitor starts when the apply's stage stops, one tick after the apply
  have hrun := hmr.monitorRun
  rwa [← hs, hstop₁] at hrun

/-- In a cancellation the apply is followed by the cancel, then the final monitor and its
recovery; the monitor follows an accepted apply and an accepted cancel. -/
theorem cancelled (spec : ApplySpec) (s : Session) (autocancel : Bool) :
    FromApply [(.cancel, .ok .accepted)]
      (fun doc c post r => MonitorRun s.monitoring autocancel doc (tick c) post r)
      (Trace.Seq (Trace.AppliedSpec spec) fun doc => Trace.Seq Trace.Cancelled fun _ =>
        Trace.MonitoredAndRecovered s autocancel doc false) := by
  intro r t h pre doc c post hsplit hfresh
  rcases h with ⟨e, -, happ⟩ | ⟨doc₀, t₁, t₂, happ, hrest, hs, rfl⟩
  · exact (happ.refused (.apply doc c, .ok .accepted) (by rw [hsplit]; simp) rfl).elim
  obtain ⟨-, hl₁, -, hstop₁⟩ := happ.accepted
  rcases hrest with ⟨e, -, hcancel⟩ | ⟨u, t₃, t₄, hcancel, hmr, hs', rfl⟩
  · -- a cancel that fails is not accepted, so nothing accepted follows the apply
    simp only [Trace.append, hl₁, List.singleton_append] at hsplit
    have hacc : ∃ x ∈ t₂.lifecycle, x.2 = .ok .accepted := by
      cases pre with
      | nil =>
        simp only [List.nil_append, List.cons.injEq] at hsplit
        exact ⟨(.cancel, .ok .accepted), by rw [hsplit.2]; simp, rfl⟩
      | cons y pre =>
        simp only [List.cons_append, List.cons.injEq] at hsplit
        exact ⟨(.apply doc c, .ok .accepted), by rw [hsplit.2]; simp, rfl⟩
    obtain ⟨x, hx, hxa⟩ := hacc
    exact (hcancel.1.refused x hx hxa).elim
  have hl₃ : t₃.lifecycle = [(.cancel, .ok .accepted)] := hcancel.1.atMostOne.2 () rfl
  simp only [Trace.append, hl₁, hl₃, List.cons_append, List.nil_append] at hsplit
  obtain ⟨rfl, rfl, hpost⟩ := fresh_apply_head hsplit hfresh (by
    rintro x (_ | ⟨_, hx⟩) d c' hxc
    · cases hxc
    · exact hmr.apply_doc x hx d c' hxc)
  -- the monitor starts when the cancel's stage stops, which is when the apply's stopped
  have hstart : t₃.start = tick (tick t₁.start) := by
    rw [← hstop₁]
    exact hs.symm
  have hrun := hmr.monitorRun
  rw [← hs', hcancel.2, hstart] at hrun
  rwa [(List.cons.inj hpost).2]

/-- After the preparation's monitor, the switchover's apply is followed by its own monitor. -/
theorem afterPreparation (settings : ScenarioSettings) (request : UpgradeRequest)
    (o : MonitorOutcome) :
    FromApply [] (fun doc c post r =>
        MonitorRun settings.monitor request.init.autocancellation doc (tick c) post r)
      (Trace.AfterPreparation settings request o) := by
  cases o
  case pausedBeforeSwitchover =>
    unfold Trace.AfterPreparation
    exact monitored _ (Scenario.session settings settings.monitor) _ _
  all_goals exact quiet fun _ _ h => h.2

/-- The two-phase upgrade's preparation: its apply is followed by its own monitor, and a later
fresh apply is the switchover's. -/
theorem prepared (settings : ScenarioSettings) (request : UpgradeRequest) :
    FromApply [] (fun doc c post r =>
        MonitorRun settings.monitor request.init.autocancellation doc (tick c) post r)
      (Trace.Seq (Trace.AppliedSpec ApplySpec.pauseFirst) fun prepare =>
        Trace.Seq (Monitor.Watched settings.monitor request.init.autocancellation prepare)
          (Trace.AfterPreparation settings request)) := by
  intro r t h pre doc c post hsplit hfresh
  rcases h with ⟨e, -, happ⟩ | ⟨doc₀, t₁, t₂, happ, hrest, hs, rfl⟩
  · exact (happ.refused (.apply doc c, .ok .accepted) (by rw [hsplit]; simp) rfl).elim
  obtain ⟨-, hl₁, -, hstop₁⟩ := happ.accepted
  simp only [Trace.append, hl₁, List.singleton_append, List.nil_append] at hsplit
  cases pre with
  | nil =>
    -- the preparation's own apply: its monitor follows
    simp only [List.nil_append, List.cons.injEq, Prod.mk.injEq, LifecycleCall.apply.injEq]
      at hsplit
    obtain ⟨⟨⟨rfl, rfl⟩, -⟩, rfl⟩ := hsplit
    have hrun := Monitor.Watched.monitorRun_seq hrest
    rwa [← hs, hstop₁] at hrun
  | cons y pre =>
    -- a later apply comes after the preparation's monitor
    simp only [List.cons_append, List.cons.injEq] at hsplit
    exact seq_calls (CallsBy.watched _ _ doc₀) Calls.NoApply.watched
      (afterPreparation settings request) r t₂ hrest pre doc c post hsplit.2
      fun x hx => hfresh x (List.mem_cons_of_mem _ hx)

/-! ## The monitors of each scenario -/

section Scenarios

variable (settings : ScenarioSettings) (request : UpgradeRequest)

/-- The readiness check applies nothing. -/
theorem readiness {lead : List LifecycleExchange}
    {after : ApplyDocument → Time.Instant → List LifecycleExchange →
      Except Failure ScenarioOutcome → Prop} :
    FromApply lead after (Trace.Readiness settings request) := by
  unfold Trace.Readiness
  exact seq_calls (CallsBy.pluginUpdated settings request) Calls.NoApply.appliance fun _ =>
    seq_calls (CallsBy.checked _ _) Calls.NoApply.checked fun res =>
    seq_calls (CallsBy.passed res) Calls.NoApply.idle fun _ =>
    quiet fun _ _ h => h.2

theorem fullUpgrade :
    FromApply [] (fun doc c post r =>
        MonitorRun settings.monitor request.init.autocancellation doc (tick c) post r)
      (Trace.FullUpgrade settings request) := by
  unfold Trace.FullUpgrade
  exact seq_calls (CallsBy.specMade _ _) Calls.NoApply.idle fun spec =>
    seq_calls (CallsBy.pluginUpdated settings request) Calls.NoApply.appliance fun _ =>
    seq_calls (CallsBy.checked _ _) Calls.NoApply.checked fun res =>
    seq_calls (CallsBy.passed res) Calls.NoApply.idle fun _ =>
    seq_calls (CallsBy.configured _) Calls.NoApply.configure fun _ =>
    seq_calls (CallsBy.checked _ _) Calls.NoApply.checked fun res =>
    seq_calls (CallsBy.passed res) Calls.NoApply.idle fun _ =>
    seq_calls (CallsBy.confirmed settings) Calls.NoApply.idle fun _ =>
    monitored spec (Scenario.session settings settings.monitor) _ _

theorem uberUpgrade :
    FromApply [] (fun doc c post r =>
        MonitorRun settings.monitor request.init.autocancellation doc (tick c) post r)
      (Trace.UberUpgrade settings request) := by
  unfold Trace.UberUpgrade
  split
  · -- refused before any call
    exact quiet fun _ _ h => h.2
  · exact seq_calls (CallsBy.specMade _ _) Calls.NoApply.idle fun spec =>
      seq_calls (CallsBy.pluginUpdated settings request) Calls.NoApply.appliance fun _ =>
      seq_calls (CallsBy.configured _) Calls.NoApply.configure fun _ =>
      seq_calls (CallsBy.confirmed settings) Calls.NoApply.idle fun _ =>
      monitored spec (Scenario.session settings settings.monitor) _ _

theorem twoPhase :
    FromApply [] (fun doc c post r =>
        MonitorRun settings.monitor request.init.autocancellation doc (tick c) post r)
      (Trace.TwoPhase settings request) := by
  unfold Trace.TwoPhase
  exact seq_calls (CallsBy.pluginUpdated settings request) Calls.NoApply.appliance fun _ =>
    seq_calls (CallsBy.configured _) Calls.NoApply.configure fun _ =>
    seq_calls (CallsBy.confirmed settings) Calls.NoApply.idle fun _ =>
    (prepared settings request).mono fun _ _ _ _ h => h

theorem cancellation :
    FromApply [(.cancel, .ok .accepted)] (fun doc c post r =>
        MonitorRun settings.cancellationMonitor request.init.autocancellation doc (tick c) post r)
      (Trace.Cancellation settings request) := by
  unfold Trace.Cancellation
  exact seq_calls (CallsBy.specMade _ _) Calls.NoApply.idle fun spec =>
    seq_calls (CallsBy.pluginUpdated settings request) Calls.NoApply.appliance fun _ =>
    seq_calls (CallsBy.configured _) Calls.NoApply.configure fun _ =>
    seq_calls (CallsBy.checked _ _) Calls.NoApply.checked fun res =>
    seq_calls (CallsBy.passed res) Calls.NoApply.idle fun _ =>
    seq_calls (CallsBy.confirmed settings) Calls.NoApply.idle fun _ =>
    cancelled spec (Scenario.session settings settings.cancellationMonitor) _

/-- Every scenario but the readiness check follows each fresh apply with a monitor of its
document, with the budgets of the kind's final monitor. -/
theorem ofScenario (kind : ScenarioKind) :
    FromApply kind.finalLead (fun doc c post r => kind ≠ .readiness ∧
        MonitorRun (settings.finalMonitor kind) request.init.autocancellation doc (tick c) post r)
      (Trace.OfScenario settings kind request) := by
  cases kind
  · exact readiness settings request
  · exact (fullUpgrade settings request).mono fun _ _ _ _ h => ⟨by decide, h⟩
  · exact (uberUpgrade settings request).mono fun _ _ _ _ h => ⟨by decide, h⟩
  · exact (twoPhase settings request).mono fun _ _ _ _ h => ⟨by decide, h⟩
  · exact (cancellation settings request).mono fun _ _ _ _ h => ⟨by decide, h⟩

end Scenarios

end FromApply

/-! ## The documents of a scenario -/

/-- The documents of every scenario, for every request and whatever the services answer.

1. Every init document the scenario sends, to a pre-check against a document or to the
   configure call, is the document of the kind's init spec (`ScenarioKind.initFor`); in the
   full upgrade the pre-checked and the configured documents are therefore one.
2. After every accepted apply of a document not applied before, followed in a cancellation by
   the accepted cancel, the manager sees a monitor of that document started one tick after the
   apply, with the budgets of the kind's final monitor; an accepted configure came before the
   apply, and the monitor's automatic cancellation is on exactly when that configure's document
   asks for automatic cancellation. -/
theorem scenario_payloads_agree (settings : ScenarioSettings) (kind : ScenarioKind)
    (request : UpgradeRequest) :
    (Scenario.run settings kind request).Spec fun r t =>
      SendsOnly (kind.initFor request.init).toDocument.value (t.lifecycle.map Prod.fst) ∧
      ∀ pre doc c post,
        t.lifecycle = pre ++ (.apply doc c, .ok .accepted) :: (kind.finalLead ++ post) →
        (∀ x ∈ pre, ∀ c', x.1 ≠ .apply doc c') →
        ∃ d, (.configure d, .ok .accepted) ∈ pre ∧
          MonitorRun (settings.finalMonitor kind) (decide (d.automaticCancellation = some true))
            doc (tick c) post r := by
  refine (Flow.Settled.run settings request kind).spec.mono fun r t h => ?_
  -- the documents: every call is a letter of a word of the kind
  obtain ⟨⟨w, hw, hpre⟩, -⟩ := (CallsBy.ofScenario settings request kind).prefixes h
  have hsends := hw.sendsOnly.prefix hpre
  refine ⟨hsends, fun pre doc c post hsplit hfresh => ?_⟩
  obtain ⟨hkind, hrun⟩ := FromApply.ofScenario settings request kind r t h pre doc c post hsplit
    hfresh
  -- the apply was permitted: an accepted configure of the kind's document came before it
  obtain ⟨hcalls, -, -⟩ := Keeps.ofScenario settings request kind [] [] r t Clean.nil trivial h
  obtain ⟨-, hperm, -⟩ := hcalls pre _ _ hsplit
  obtain ⟨⟨d, hd⟩, -⟩ := hperm doc c rfl
  have hdoc : d = (kind.initFor request.init).toDocument.value :=
    hsends _ (List.mem_map.2 ⟨_, by rw [hsplit]; exact List.mem_append_left _ hd, rfl⟩) d rfl
  refine ⟨d, hd, ?_⟩
  rw [hdoc, ScenarioKind.initFor_cancels hkind]
  exact hrun

/-- The uber-upgrade in the accepting world sends only the kind's init document, and after its
accepted apply, of a document not applied before, it monitors that document with the budgets
of its final monitor, as `scenario_payloads_agree` says. -/
theorem uberUpgrade_monitors_applied_document :
    ∃ cs ds ps, Moved World.accepting
        ((Scenario.run {} .uberUpgrade UpgradeRequest.uberSample).run World.accepting).2
        cs ds ps ∧
      SendsOnly (ScenarioKind.uberUpgrade.initFor UpgradeRequest.uberSample.init).toDocument.value
        ((World.accepting.traceTo
            ((Scenario.run {} .uberUpgrade UpgradeRequest.uberSample).run World.accepting).2
            cs ds ps).lifecycle.map Prod.fst) ∧
      ∃ pre doc c post,
        (World.accepting.traceTo
            ((Scenario.run {} .uberUpgrade UpgradeRequest.uberSample).run World.accepting).2
            cs ds ps).lifecycle =
          pre ++ (.apply doc c, .ok .accepted) :: (ScenarioKind.uberUpgrade.finalLead ++ post) ∧
        (∀ x ∈ pre, ∀ c', x.1 ≠ .apply doc c') ∧
        ∃ d, (.configure d, .ok .accepted) ∈ pre ∧
          MonitorRun (ScenarioSettings.finalMonitor {} .uberUpgrade)
            (decide (d.automaticCancellation = some true)) doc (tick c) post
            ((Scenario.run {} .uberUpgrade UpgradeRequest.uberSample).run World.accepting).1 := by
  obtain ⟨cs, ds, ps, hmoved, hsends, hmonitor⟩ :=
    scenario_payloads_agree {} .uberUpgrade UpgradeRequest.uberSample World.accepting
  have hsplit := accepting_uberUpgrade_lifecycle hmoved
  -- the one exchange before the apply is the configure
  have hfresh : ∀ x ∈ [(LifecycleCall.configure UpgradeRequest.uberSample.init.toDocument.value,
      (.ok .accepted : Except UpgradeError LifecycleReply))], ∀ c', x.1 ≠ .apply {} c' := by
    intro x hx c'
    simp only [List.mem_singleton] at hx
    subst hx
    nofun
  exact ⟨cs, ds, ps, hmoved, hsends, _, _, _, _, hsplit, hfresh, hmonitor _ _ _ _ hsplit hfresh⟩

end ReducedDowntime
