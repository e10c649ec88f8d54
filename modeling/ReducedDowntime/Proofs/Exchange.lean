import ReducedDowntime.Proofs.Run

/-!
# Conversations with the services

A run of a flow talks to two services. A service answers each call from the script of the
endpoint called, one answer per call, so it is a machine that answers a call and moves on:
`LifecycleService.answer` and `ApplianceService.answer`. The *exchanges* of a list of calls
are the calls paired with the answers they get in turn.

A `Trace` is what one run shows: its exchanges with each service, the prompts it showed with
their answers, and the wall clock when it starts and when it ends. A prompt is placed by the
count of the run's exchanges with the lifecycle manager before it, so that a trace tells which
calls to the manager came after which answer. `Flow.Spec f P` says that every run of `f`, from any world, makes
calls that the services answer in turn, and that its result and trace satisfy `P`.

## How specifications are built

1. Each primitive gets its specification from its run equation: a step that only logs,
   prints or sleeps has a quiet trace, and a call has a trace of that one call (or none,
   when the service refuses it).
2. `Spec.bind` and `Spec.tryCatch` compose specifications along the program's text; the
   trace of a sequence is the traces of its parts joined, each part starting at the clock
   where the one before it stopped.

So a whole flow is specified from one specification per step, without unfolding the steps
again.
-/

namespace ReducedDowntime

/-! ## Answering machines -/

namespace Conversation

variable {σ κ ρ : Type} (answer : σ → κ → ρ × σ)

/-- Calls made in turn to a machine that answers each call and moves on: each call with its
answer. -/
def exchanges : σ → List κ → List (κ × ρ)
  | _, [] => []
  | s, c :: cs => (c, (answer s c).1) :: exchanges (answer s c).2 cs

/-- The machine after answering calls in turn. -/
def after : σ → List κ → σ
  | s, [] => s
  | s, c :: cs => after (answer s c).2 cs

@[simp] theorem exchanges_nil (s : σ) : exchanges answer s [] = [] := rfl

@[simp] theorem exchanges_cons (s : σ) (c : κ) (cs : List κ) :
    exchanges answer s (c :: cs) = (c, (answer s c).1) :: exchanges answer (answer s c).2 cs := rfl

@[simp] theorem after_nil (s : σ) : after answer s [] = s := rfl

@[simp] theorem after_cons (s : σ) (c : κ) (cs : List κ) :
    after answer s (c :: cs) = after answer (answer s c).2 cs := rfl

theorem after_append (s : σ) (cs cs' : List κ) :
    after answer s (cs ++ cs') = after answer (after answer s cs) cs' := by
  induction cs generalizing s with
  | nil => rfl
  | cons c cs ih => exact ih _

theorem exchanges_append (s : σ) (cs cs' : List κ) :
    exchanges answer s (cs ++ cs') =
      exchanges answer s cs ++ exchanges answer (after answer s cs) cs' := by
  induction cs generalizing s with
  | nil => rfl
  | cons c cs ih => simp [ih]

/-- The calls can be read back from the exchanges. -/
@[simp] theorem map_fst_exchanges (s : σ) (cs : List κ) :
    (exchanges answer s cs).map Prod.fst = cs := by
  induction cs generalizing s with
  | nil => rfl
  | cons c cs ih => simp [ih]

@[simp] theorem length_exchanges (s : σ) (cs : List κ) :
    (exchanges answer s cs).length = cs.length := by
  rw [← List.length_map Prod.fst, map_fst_exchanges]

end Conversation

/-! ## Scripts read in turn -/

namespace Script

variable {α : Type}

/-- The next `n` answers of a script: its own answers, then its fallback. -/
def upcoming (s : Script α) : Nat → List (Except UpgradeError α)
  | 0 => []
  | n + 1 => s.next.1 :: s.next.2.upcoming n

/-- The script after it has given `n` answers. -/
def skip (s : Script α) : Nat → Script α
  | 0 => s
  | n + 1 => s.next.2.skip n

@[simp] theorem upcoming_zero (s : Script α) : s.upcoming 0 = [] := rfl

@[simp] theorem skip_zero (s : Script α) : s.skip 0 = s := rfl

theorem upcoming_succ (s : Script α) (n : Nat) : s.upcoming (n + 1) = s.next.1 :: s.next.2.upcoming n :=
  rfl

theorem skip_succ (s : Script α) (n : Nat) : s.skip (n + 1) = s.next.2.skip n := rfl

theorem upcoming_add (s : Script α) (m n : Nat) :
    s.upcoming (m + n) = s.upcoming m ++ (s.skip m).upcoming n := by
  induction m generalizing s with
  | zero => simp
  | succ m ih =>
    rw [Nat.add_right_comm, upcoming_succ, ih, upcoming_succ, skip_succ, List.cons_append]

theorem skip_add (s : Script α) (m n : Nat) : s.skip (m + n) = (s.skip m).skip n := by
  induction m generalizing s with
  | zero => simp
  | succ m ih => rw [Nat.add_right_comm, skip_succ, ih, skip_succ]

@[simp] theorem length_upcoming (s : Script α) (n : Nat) : (s.upcoming n).length = n := by
  induction n generalizing s with
  | zero => rfl
  | succ n ih => simp [upcoming_succ, ih]

/-- The first `n` of the next `m` answers are the next `min n m`. -/
theorem take_upcoming (s : Script α) (n m : Nat) : (s.upcoming m).take n = s.upcoming (min n m) := by
  induction m generalizing s n with
  | zero => simp
  | succ m ih =>
    cases n with
    | zero => simp
    | succ n => rw [upcoming_succ, List.take_succ_cons, ih, Nat.succ_min_succ, upcoming_succ]

end Script

/-! ## The two services as answering machines -/

/-- An answer of the lifecycle manager. -/
inductive LifecycleReply where
  | initialized (b : Bool)
  | accepted
  | task (id : String)
  | taskInfo (t : TaskInfo)
  | status (s : UpgradeStatus)
  deriving DecidableEq, Repr

/-- A call to the lifecycle manager with its answer. -/
abbrev LifecycleExchange := LifecycleCall × Except UpgradeError LifecycleReply

/-- The lifecycle manager's answer to a call, and the manager after it: each endpoint
answers from its own script. -/
def LifecycleService.answer (s : LifecycleService) :
    LifecycleCall → Except UpgradeError LifecycleReply × LifecycleService
  | .isInitialized =>
    (s.initialized.next.1.map .initialized, { s with initialized := s.initialized.next.2 })
  | .configure _ => (s.configure.next.1.map fun _ => .accepted, { s with configure := s.configure.next.2 })
  | .startCheck _ => (s.startCheck.next.1.map .task, { s with startCheck := s.startCheck.next.2 })
  | .taskInfo _ => (s.taskInfo.next.1.map .taskInfo, { s with taskInfo := s.taskInfo.next.2 })
  | .apply _ _ => (s.apply.next.1.map fun _ => .accepted, { s with apply := s.apply.next.2 })
  | .cancel => (s.cancel.next.1.map fun _ => .accepted, { s with cancel := s.cancel.next.2 })
  | .status => (s.status.next.1.map .status, { s with status := s.status.next.2 })

/-- The lifecycle manager's answers to calls made in turn. -/
abbrev LifecycleService.exchanges (s : LifecycleService) (cs : List LifecycleCall) :
    List LifecycleExchange :=
  Conversation.exchanges LifecycleService.answer s cs

/-- The lifecycle manager after answering calls in turn. -/
abbrev LifecycleService.after (s : LifecycleService) (cs : List LifecycleCall) : LifecycleService :=
  Conversation.after LifecycleService.answer s cs

/-- An answer of the appliance. -/
inductive ApplianceReply where
  | accepted
  | pending (l : List UpdateSummary)
  | components (l : List UpgradeableComponent)
  | updateStatus (u : UpdateStatus)
  deriving DecidableEq, Repr

/-- A call to the appliance with its answer. -/
abbrev ApplianceExchange := ApplianceCall × Except UpgradeError ApplianceReply

/-- The appliance's answer to a call, and the appliance after it. -/
def ApplianceService.answer (s : ApplianceService) :
    ApplianceCall → Except UpgradeError ApplianceReply × ApplianceService
  | .setPolicy _ => (s.setPolicy.next.1.map fun _ => .accepted, { s with setPolicy := s.setPolicy.next.2 })
  | .listPending => (s.pending.next.1.map .pending, { s with pending := s.pending.next.2 })
  | .listComponents _ =>
    (s.components.next.1.map .components, { s with components := s.components.next.2 })
  | .stageAndInstall _ _ =>
    (s.stageAndInstall.next.1.map fun _ => .accepted,
      { s with stageAndInstall := s.stageAndInstall.next.2 })
  | .updateStatus =>
    (s.updateStatus.next.1.map .updateStatus, { s with updateStatus := s.updateStatus.next.2 })

/-- The appliance's answers to calls made in turn. -/
abbrev ApplianceService.exchanges (s : ApplianceService) (ds : List ApplianceCall) :
    List ApplianceExchange :=
  Conversation.exchanges ApplianceService.answer s ds

/-- The appliance after answering calls in turn. -/
abbrev ApplianceService.after (s : ApplianceService) (ds : List ApplianceCall) : ApplianceService :=
  Conversation.after ApplianceService.answer s ds

/-! ## Traces -/

/-- What a run shows: the exchanges with each service, in order, the wall clock when the run
starts and when it stops, and the prompts it showed, each with its answer and the count of
exchanges with the lifecycle manager before it. -/
structure Trace where
  start : Time.Instant
  lifecycle : List LifecycleExchange
  appliance : List ApplianceExchange
  stop : Time.Instant
  prompts : List (Nat × PromptAnswer)

/-- Prompts placed after `n` more exchanges with the lifecycle manager. -/
def Trace.shiftPrompts (n : Nat) (ps : List (Nat × PromptAnswer)) : List (Nat × PromptAnswer) :=
  ps.map fun p => (n + p.1, p.2)

namespace Trace

@[simp] theorem shiftPrompts_nil (n : Nat) : shiftPrompts n [] = [] := rfl

@[simp] theorem shiftPrompts_zero (ps : List (Nat × PromptAnswer)) : shiftPrompts 0 ps = ps := by
  simp [shiftPrompts]

@[simp] theorem shiftPrompts_append (n : Nat) (ps qs : List (Nat × PromptAnswer)) :
    shiftPrompts n (ps ++ qs) = shiftPrompts n ps ++ shiftPrompts n qs := List.map_append

theorem shiftPrompts_shiftPrompts (m n : Nat) (ps : List (Nat × PromptAnswer)) :
    shiftPrompts m (shiftPrompts n ps) = shiftPrompts (m + n) ps := by
  simp only [shiftPrompts, List.map_map]
  congr 1
  funext p
  simp only [Function.comp, Nat.add_assoc]

/-- One run after another: the second starts where the first stopped, and its prompts come
after all of the first's exchanges with the lifecycle manager. -/
def append (t₁ t₂ : Trace) : Trace :=
  ⟨t₁.start, t₁.lifecycle ++ t₂.lifecycle, t₁.appliance ++ t₂.appliance, t₂.stop,
    t₁.prompts ++ shiftPrompts t₁.lifecycle.length t₂.prompts⟩

/-- A run that calls no service, shows no prompt and does not read the clock. -/
def Quiet (t : Trace) : Prop :=
  t.lifecycle = [] ∧ t.appliance = [] ∧ t.stop = t.start ∧ t.prompts = []

@[simp] theorem append_start (t₁ t₂ : Trace) : (t₁.append t₂).start = t₁.start := rfl
@[simp] theorem append_stop (t₁ t₂ : Trace) : (t₁.append t₂).stop = t₂.stop := rfl
@[simp] theorem append_lifecycle (t₁ t₂ : Trace) :
    (t₁.append t₂).lifecycle = t₁.lifecycle ++ t₂.lifecycle := rfl
@[simp] theorem append_appliance (t₁ t₂ : Trace) :
    (t₁.append t₂).appliance = t₁.appliance ++ t₂.appliance := rfl
@[simp] theorem append_prompts (t₁ t₂ : Trace) :
    (t₁.append t₂).prompts = t₁.prompts ++ shiftPrompts t₁.lifecycle.length t₂.prompts := rfl

theorem append_assoc (t₁ t₂ t₃ : Trace) :
    (t₁.append t₂).append t₃ = t₁.append (t₂.append t₃) := by
  simp only [Trace.append, List.append_assoc, List.length_append, shiftPrompts_append,
    shiftPrompts_shiftPrompts]

/-- A quiet run before another adds nothing to it. -/
theorem Quiet.append {t₁ t₂ : Trace} (h : t₁.Quiet) (hs : t₁.stop = t₂.start) :
    t₁.append t₂ = t₂ := by
  obtain ⟨hl, ha, hst, hp⟩ := h
  unfold Trace.append
  rw [hl, ha, hp, List.nil_append, List.nil_append, List.nil_append, List.length_nil,
    shiftPrompts_zero, ← hst, hs]

/-- A quiet run after another adds nothing to it. -/
theorem Quiet.append_right {t₁ t₂ : Trace} (h : t₂.Quiet) (hs : t₁.stop = t₂.start) :
    t₁.append t₂ = t₁ := by
  obtain ⟨hl, ha, hst, hp⟩ := h
  unfold Trace.append
  rw [hl, ha, hp, List.append_nil, List.append_nil, shiftPrompts_nil, List.append_nil, hst, ← hs]

end Trace

/-- Two worlds with the same services, the same call records and the same prompts shown:
what a step that calls no service and shows no prompt leaves behind. -/
structure SameCalls (w w' : World) : Prop where
  lifecycle : w'.lifecycle = w.lifecycle
  lifecycleCalls : w'.lifecycleCalls = w.lifecycleCalls
  appliance : w'.appliance = w.appliance
  applianceCalls : w'.applianceCalls = w.applianceCalls
  prompts : w'.prompts = w.prompts

theorem SameCalls.trans {w₁ w₂ w₃ : World} (h : SameCalls w₁ w₂) (h' : SameCalls w₂ w₃) :
    SameCalls w₁ w₃ :=
  ⟨h'.lifecycle.trans h.lifecycle, h'.lifecycleCalls.trans h.lifecycleCalls,
    h'.appliance.trans h.appliance, h'.applianceCalls.trans h.applianceCalls,
    h'.prompts.trans h.prompts⟩

/-- From `w` to `w'` the calls `cs` and `ds` were made, each service answered exactly these
(its scripts moved on by one answer per call), and the prompts `ps` were shown, each placed by
the count of calls `cs` before it. -/
structure Moved (w w' : World) (cs : List LifecycleCall) (ds : List ApplianceCall)
    (ps : List (Nat × PromptAnswer)) : Prop where
  lifecycleCalls : w'.lifecycleCalls.toList = w.lifecycleCalls.toList ++ cs
  lifecycle : w'.lifecycle = w.lifecycle.after cs
  applianceCalls : w'.applianceCalls.toList = w.applianceCalls.toList ++ ds
  appliance : w'.appliance = w.appliance.after ds
  prompts : w'.prompts.toList = w.prompts.toList ++ Trace.shiftPrompts w.lifecycleCalls.size ps

namespace Moved

theorem refl (w : World) : Moved w w [] [] [] := ⟨by simp, rfl, by simp, rfl, by simp⟩

/-- A run that leaves both services, their call records and the prompts as they were. -/
theorem of_same {w w' : World} (h : SameCalls w w') : Moved w w' [] [] [] :=
  ⟨by simp [h.lifecycleCalls], h.lifecycle, by simp [h.applianceCalls], h.appliance,
    by simp [h.prompts]⟩

theorem trans {w₁ w₂ w₃ : World} {cs cs' : List LifecycleCall} {ds ds' : List ApplianceCall}
    {ps ps' : List (Nat × PromptAnswer)} (h : Moved w₁ w₂ cs ds ps) (h' : Moved w₂ w₃ cs' ds' ps') :
    Moved w₁ w₃ (cs ++ cs') (ds ++ ds') (ps ++ Trace.shiftPrompts cs.length ps') where
  lifecycleCalls := by rw [h'.lifecycleCalls, h.lifecycleCalls, List.append_assoc]
  lifecycle := by rw [h'.lifecycle, h.lifecycle]; exact (Conversation.after_append _ _ _ _).symm
  applianceCalls := by rw [h'.applianceCalls, h.applianceCalls, List.append_assoc]
  appliance := by rw [h'.appliance, h.appliance]; exact (Conversation.after_append _ _ _ _).symm
  prompts := by
    -- the second run's prompts come after the first run's calls
    have hsize : w₂.lifecycleCalls.size = w₁.lifecycleCalls.size + cs.length := by
      rw [← Array.length_toList, h.lifecycleCalls, List.length_append, Array.length_toList]
    rw [h'.prompts, h.prompts, hsize, Trace.shiftPrompts_append, Trace.shiftPrompts_shiftPrompts,
      List.append_assoc]

end Moved

/-- The trace of a run from `w` to `w'` that made the calls `cs` and `ds` and showed the
prompts `ps`. -/
def World.traceTo (w w' : World) (cs : List LifecycleCall) (ds : List ApplianceCall)
    (ps : List (Nat × PromptAnswer)) : Trace :=
  ⟨w.clock, w.lifecycle.exchanges cs, w.appliance.exchanges ds, w'.clock, ps⟩

theorem World.traceTo_append {w₁ w₂ w₃ : World} {cs cs' : List LifecycleCall}
    {ds ds' : List ApplianceCall} {ps ps' : List (Nat × PromptAnswer)} (h : Moved w₁ w₂ cs ds ps) :
    w₁.traceTo w₃ (cs ++ cs') (ds ++ ds') (ps ++ Trace.shiftPrompts cs.length ps') =
      (w₁.traceTo w₂ cs ds ps).append (w₂.traceTo w₃ cs' ds' ps') := by
  simp only [traceTo, Trace.append, Conversation.exchanges_append, h.lifecycle, h.appliance,
    Conversation.length_exchanges]

/-! ## Specifications -/

namespace Flow

variable {α β : Type}

/-- Every run of `f` satisfies `P`: from any world, the calls it makes are answered in turn by
the services, and its result and trace satisfy `P`. -/
def Spec (f : Flow α) (P : Except Failure α → Trace → Prop) : Prop :=
  ∀ w, ∃ cs ds ps, Moved w (f.run w).2 cs ds ps ∧ P (f.run w).1 (w.traceTo (f.run w).2 cs ds ps)

namespace Spec

variable {f : Flow α} {P Q : Except Failure α → Trace → Prop}

theorem mono (hf : f.Spec P) (h : ∀ r t, P r t → Q r t) : f.Spec Q := by
  intro w
  obtain ⟨cs, ds, ps, hm, hp⟩ := hf w
  exact ⟨cs, ds, ps, hm, h _ _ hp⟩

/-- A sequence: a failure of the first part is the failure of the whole; otherwise the trace
is the two parts' traces joined. -/
theorem bind {g : α → Flow β} {Q : α → Except Failure β → Trace → Prop}
    {R : Except Failure β → Trace → Prop} (hf : f.Spec P) (hg : ∀ a, (g a).Spec (Q a))
    (hfail : ∀ e t, P (.error e) t → R (.error e) t)
    (hnext : ∀ a t₁ r t₂, P (.ok a) t₁ → Q a r t₂ → t₁.stop = t₂.start → R r (t₁.append t₂)) :
    (f >>= g).Spec R := by
  intro w
  obtain ⟨cs, ds, ps, hm, hp⟩ := hf w
  rcases hr : f.run w with ⟨r, w₁⟩
  rw [hr] at hm hp
  cases r with
  | error e =>
    refine ⟨cs, ds, ps, ?_, ?_⟩ <;> simp only [run_bind, hr]
    · exact hm
    · exact hfail e _ hp
  | ok a =>
    obtain ⟨cs', ds', ps', hm', hq⟩ := hg a w₁
    refine ⟨cs ++ cs', ds ++ ds', ps ++ Trace.shiftPrompts cs.length ps', ?_, ?_⟩ <;>
      simp only [run_bind, hr]
    · exact hm.trans hm'
    · rw [World.traceTo_append hm]
      exact hnext a _ _ _ hp hq rfl

/-- A handler runs after the failure it handles, from where the failed run stopped. -/
theorem tryCatch {h : Failure → Flow α} {Q : Failure → Except Failure α → Trace → Prop}
    {R : Except Failure α → Trace → Prop} (hf : f.Spec P) (hh : ∀ e, (h e).Spec (Q e))
    (hok : ∀ a t, P (.ok a) t → R (.ok a) t)
    (hcatch : ∀ e t₁ r t₂, P (.error e) t₁ → Q e r t₂ → t₁.stop = t₂.start → R r (t₁.append t₂)) :
    (tryCatch f h).Spec R := by
  intro w
  obtain ⟨cs, ds, ps, hm, hp⟩ := hf w
  rcases hr : f.run w with ⟨r, w₁⟩
  rw [hr] at hm hp
  cases r with
  | ok a =>
    refine ⟨cs, ds, ps, ?_, ?_⟩ <;> simp only [run_tryCatch, hr]
    · exact hm
    · exact hok a _ hp
  | error e =>
    obtain ⟨cs', ds', ps', hm', hq⟩ := hh e w₁
    refine ⟨cs ++ cs', ds ++ ds', ps ++ Trace.shiftPrompts cs.length ps', ?_, ?_⟩ <;>
      simp only [run_tryCatch, hr]
    · exact hm.trans hm'
    · rw [World.traceTo_append hm]
      exact hcatch e _ _ _ hp hq rfl

theorem map {g : α → β} {R : Except Failure β → Trace → Prop} (hf : f.Spec P)
    (h : ∀ r t, P r t → R (g <$> r) t) : (g <$> f).Spec R := by
  intro w
  obtain ⟨cs, ds, ps, hm, hp⟩ := hf w
  rcases hr : f.run w with ⟨r, w₁⟩
  rw [hr] at hm hp
  refine ⟨cs, ds, ps, ?_, ?_⟩ <;> cases r <;> simp only [run_map, hr]
  · exact hm
  · exact hm
  · exact h _ _ hp
  · exact h _ _ hp

/-- A step that touches neither service nor the clock, and shows no prompt. -/
theorem quiet {r : Except Failure α} (h : ∀ w, (f.run w).1 = r ∧ SameCalls w (f.run w).2 ∧
      (f.run w).2.clock = w.clock) :
    f.Spec (fun r' t => r' = r ∧ t.Quiet) := by
  intro w
  obtain ⟨hr, hsame, hclock⟩ := h w
  exact ⟨[], [], [], Moved.of_same hsame, hr, rfl, rfl, hclock, rfl⟩

/-- A step that changes nothing a trace shows. -/
theorem quiet_of_eq {r : Except Failure α} (h : ∀ w, f.run w = (r, w)) :
    f.Spec (fun r' t => r' = r ∧ t.Quiet) :=
  quiet fun w => by rw [h w]; exact ⟨rfl, ⟨rfl, rfl, rfl, rfl, rfl⟩, rfl⟩

theorem pure (a : α) : (Pure.pure a : Flow α).Spec (fun r t => r = .ok a ∧ t.Quiet) :=
  quiet_of_eq fun _ => rfl

theorem throw (e : Failure) : (MonadExcept.throw e : Flow α).Spec (fun r t => r = .error e ∧ t.Quiet) :=
  quiet_of_eq fun _ => rfl

theorem liftExcept (r : Except Failure α) :
    (MonadExcept.ofExcept r : Flow α).Spec (fun r' t => r' = r ∧ t.Quiet) :=
  quiet_of_eq (run_liftExcept r)

theorem ofExcept (r : Except UpgradeError α) :
    (Flow.ofExcept r).Spec (fun r' t => r' = r.mapError Failure.ofError ∧ t.Quiet) :=
  quiet_of_eq (run_ofExcept r)

theorem fail (e : UpgradeError) :
    (Flow.fail e : Flow α).Spec (fun r t => r = .error (Failure.ofError e) ∧ t.Quiet) :=
  quiet_of_eq fun _ => rfl

theorem halt (text : String) :
    (Flow.halt text : Flow α).Spec (fun r t => r = .error (Failure.halted text) ∧ t.Quiet) :=
  quiet_of_eq fun _ => rfl

theorem emit (level : Level) (source : Source) (text : String) :
    (Flow.emit level source text).Spec (fun r t => r = .ok () ∧ t.Quiet) :=
  quiet fun _ => ⟨rfl, ⟨rfl, rfl, rfl, rfl, rfl⟩, rfl⟩

theorem logged (l : Logged α) : (Flow.logged l).Spec (fun r t => r = .ok l.value ∧ t.Quiet) :=
  quiet fun _ => ⟨rfl, ⟨rfl, rfl, rfl, rfl, rfl⟩, rfl⟩

theorem print (text : String) : (Flow.print text).Spec (fun r t => r = .ok () ∧ t.Quiet) :=
  quiet fun _ => ⟨rfl, ⟨rfl, rfl, rfl, rfl, rfl⟩, rfl⟩

theorem sleep (d : Time.Duration) : (Flow.sleep d).Spec (fun r t => r = .ok () ∧ t.Quiet) :=
  quiet fun _ => ⟨rfl, ⟨rfl, rfl, rfl, rfl, rfl⟩, rfl⟩

theorem readClock :
    Flow.readClock.Spec (fun r t => r = .ok t.start ∧ t.lifecycle = [] ∧ t.appliance = [] ∧
      t.stop = tick t.start ∧ t.prompts = []) := by
  intro w
  exact ⟨[], [], [], Moved.of_same ⟨rfl, rfl, rfl, rfl, rfl⟩, rfl, rfl, rfl, rfl, rfl⟩

/-- A prompt calls no service and does not read the clock: it shows one prompt, before any
call, and gives its answer. -/
theorem prompt :
    Flow.prompt.Spec (fun r t => t.lifecycle = [] ∧ t.appliance = [] ∧ t.stop = t.start ∧
      ∃ a, r = .ok a ∧ t.prompts = [(0, a)]) := by
  intro w
  refine ⟨[], [], [(0, w.terminal.headD .noTerminal)], ⟨by simp, rfl, by simp, rfl, ?_⟩,
    rfl, rfl, rfl, _, rfl, rfl⟩
  simp [Trace.shiftPrompts]

/-- A failure leaves the run with a context line added. -/
theorem within (line : String) (hf : f.Spec P) :
    (Flow.within line f).Spec (fun r t => ∃ r₀, P r₀ t ∧ r = r₀.mapError (·.within line)) := by
  intro w
  obtain ⟨cs, ds, ps, hm, hp⟩ := hf w
  rcases hr : f.run w with ⟨r, w₁⟩
  rw [hr] at hm hp
  refine ⟨cs, ds, ps, ?_, ?_⟩ <;> cases r <;> simp only [run_within, hr]
  · exact hm
  · exact hm
  · exact ⟨_, hp, rfl⟩
  · exact ⟨_, hp, rfl⟩

/-- A step that gives `a` quietly adds nothing to the run that follows it. -/
theorem bind_quiet {a : α} {g : α → Flow β} {Q : Except Failure β → Trace → Prop}
    (hf : f.Spec (fun r t => r = .ok a ∧ t.Quiet)) (hg : (g a).Spec Q) : (f >>= g).Spec Q := by
  intro w
  obtain ⟨cs, ds, ps, hm, hr, hl, ha, hclock, hp⟩ := hf w
  rcases hrun : f.run w with ⟨r, w₁⟩
  rw [hrun] at hm hr hl ha hclock hp
  cases hr
  -- a quiet step made no call, showed no prompt and left the clock where it was
  have hcs : cs = [] := by
    simpa [World.traceTo] using congrArg List.length hl
  have hds : ds = [] := by
    simpa [World.traceTo] using congrArg List.length ha
  have hps : ps = [] := hp
  subst hcs hds hps
  obtain ⟨cs', ds', ps', hm', hq⟩ := hg w₁
  refine ⟨cs', ds', ps', ?_, ?_⟩ <;> simp only [run_bind, hrun]
  · simpa using hm.trans hm'
  · have hlife : w₁.lifecycle = w.lifecycle := hm.lifecycle
    have happ : w₁.appliance = w.appliance := hm.appliance
    have htrace : w.traceTo (g a |>.run w₁).2 cs' ds' ps' =
        w₁.traceTo (g a |>.run w₁).2 cs' ds' ps' := by
      simp only [World.traceTo] at hclock ⊢
      rw [hlife, happ, hclock]
    rw [htrace]
    exact hq

/-- A quiet step after a run only maps its value. -/
theorem bind_quiet_right {g : α → Flow β} {k : α → β} (hf : f.Spec P)
    (hg : ∀ a, (g a).Spec (fun r t => r = .ok (k a) ∧ t.Quiet)) :
    (f >>= g).Spec (fun r t => ∃ r₀, P r₀ t ∧ r = k <$> r₀) :=
  bind hf hg (fun e _ h => ⟨.error e, h, rfl⟩)
    (fun a t₁ r t₂ h₁ h₂ hs => by
      obtain ⟨rfl, hquiet⟩ := h₂
      rw [hquiet.append_right hs]
      exact ⟨.ok a, h₁, rfl⟩)

end Spec

/-- One part after another: either the first part fails, and that is the whole run, or it
gives a value and the second part runs on from where the first stopped. -/
def Trace.Seq (P : Except Failure α → Trace → Prop) (Q : α → Except Failure β → Trace → Prop)
    (r : Except Failure β) (t : Trace) : Prop :=
  (∃ e, r = .error e ∧ P (.error e) t) ∨
    ∃ a t₁ t₂, P (.ok a) t₁ ∧ Q a r t₂ ∧ t₁.stop = t₂.start ∧ t = t₁.append t₂

theorem Spec.seq {f : Flow α} {P : Except Failure α → Trace → Prop} {g : α → Flow β}
    {Q : α → Except Failure β → Trace → Prop} (hf : f.Spec P) (hg : ∀ a, (g a).Spec (Q a)) :
    (f >>= g).Spec (Trace.Seq P Q) :=
  Spec.bind hf hg (fun e _ h => .inl ⟨e, rfl, h⟩)
    (fun a t₁ _ t₂ h₁ h₂ hs => .inr ⟨a, t₁, t₂, h₁, h₂, hs, rfl⟩)

/-- Parts in sequence group either way: a part followed by two more is the first two
followed by the third. -/
theorem Trace.Seq.assoc {γ : Type} {P : Except Failure α → Trace → Prop}
    {Q : α → Except Failure β → Trace → Prop} {R : β → Except Failure γ → Trace → Prop}
    {r : Except Failure γ} {t : Trace} (h : Trace.Seq P (fun a => Trace.Seq (Q a) R) r t) :
    Trace.Seq (Trace.Seq P Q) R r t := by
  rcases h with ⟨e, rfl, hp⟩ | ⟨a, t₁, t₂, hp, hq, hs, rfl⟩
  · exact .inl ⟨e, rfl, .inl ⟨e, rfl, hp⟩⟩
  · rcases hq with ⟨e, rfl, hq⟩ | ⟨b, t₂₁, t₂₂, hq, hr, hs', rfl⟩
    · exact .inl ⟨e, rfl, .inr ⟨a, t₁, t₂, hp, hq, hs, rfl⟩⟩
    · refine .inr ⟨b, t₁.append t₂₁, t₂₂, .inr ⟨a, t₁, t₂₁, hp, hq, hs, rfl⟩, hr, hs', ?_⟩
      exact (Trace.append_assoc _ _ _).symm

/-- A run ended as a reference over the answers it read says: with the reference's result once
the reference has read them all, or, where the reference asks for more, halted by a service
that refused the next call. -/
def Trace.Follows {α β : Type} (o : Option (Except UpgradeError α × List β))
    (r : Except Failure α) : Prop :=
  match o with
  | some (a, rest) => rest = [] ∧ r = a.mapError Failure.ofError
  | none => r = .error (Failure.halted callLimitText)

/-! ## Calls -/

/-- The trace of one call to the lifecycle manager whose answer the run returns, read back
through `wrap`; a manager over its call limit refuses the call, and the run stops. -/
def Trace.AskedLifecycle (call : LifecycleCall) (wrap : α → LifecycleReply) (r : Except Failure α)
    (t : Trace) : Prop :=
  t.appliance = [] ∧ t.stop = t.start ∧
    (t.lifecycle = [] ∧ r = .error (Failure.halted callLimitText) ∨
      ∃ a : Except UpgradeError α, t.lifecycle = [(call, a.map wrap)] ∧ r = a.mapError Failure.ofError)

/-- The trace of one call to the appliance whose answer the run returns. -/
def Trace.AskedAppliance (call : ApplianceCall) (wrap : α → ApplianceReply) (r : Except Failure α)
    (t : Trace) : Prop :=
  t.lifecycle = [] ∧ t.stop = t.start ∧
    (t.appliance = [] ∧ r = .error (Failure.halted callLimitText) ∨
      ∃ a : Except UpgradeError α, t.appliance = [(call, a.map wrap)] ∧ r = a.mapError Failure.ofError)

theorem Spec.askLifecycle {call : LifecycleCall} {endpoint : LifecycleService → Script α}
    {advance : LifecycleService → Script α → LifecycleService} (wrap : α → LifecycleReply)
    (h : ∀ s, s.answer call = ((endpoint s).next.1.map wrap, advance s (endpoint s).next.2)) :
    (Flow.askLifecycle call endpoint advance).Spec (Trace.AskedLifecycle call wrap) := by
  intro w
  rw [run_askLifecycle]
  split
  · exact ⟨[], [], [], Moved.refl w, rfl, rfl, .inl ⟨rfl, rfl⟩⟩
  · refine ⟨[call], [], [], ⟨by simp, by simp [h], by simp, rfl, by simp⟩, rfl, rfl,
      .inr ⟨_, ?_, rfl⟩⟩
    simp [World.traceTo, h]

theorem Spec.askAppliance {call : ApplianceCall} {endpoint : ApplianceService → Script α}
    {advance : ApplianceService → Script α → ApplianceService} (wrap : α → ApplianceReply)
    (h : ∀ s, s.answer call = ((endpoint s).next.1.map wrap, advance s (endpoint s).next.2)) :
    (Flow.askAppliance call endpoint advance).Spec (Trace.AskedAppliance call wrap) := by
  intro w
  rw [run_askAppliance]
  split
  · exact ⟨[], [], [], Moved.refl w, rfl, rfl, .inl ⟨rfl, rfl⟩⟩
  · refine ⟨[], [call], [], ⟨by simp, rfl, by simp, by simp [h], by simp⟩, rfl, rfl,
      .inr ⟨_, ?_, rfl⟩⟩
    simp [World.traceTo, h]

end Flow

end ReducedDowntime
