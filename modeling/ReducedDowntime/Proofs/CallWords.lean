import ReducedDowntime.Proofs.Discipline

/-!
# The calls of a scenario, as words

Which calls a scenario makes, in which order and how many:

* its appliance calls are a prefix of the plug-in update's word, and they do not depend on
  the manager (`Flow.ApplianceFirst`), so they are all made before its first call to it;
* its manager calls are a prefix of one word of its kind (`CallWord`): a pre-check looks at
  its task at most the pre-check budget's retries times, a monitor asks for the status at
  most its rounds times its reconnect attempts (`Monitor.statusBound`), and the recovery
  makes at most one call.

The counts come from the references: a fetch reads at most its attempts, a poll at most its
rounds times that, and the wait for a pre-check result at most its checks.

Each stage's calls are described by a `Calls` relation, which `CallsBy` ties to the stage's
trace: a run that gives a value made exactly the described calls, a failed run a prefix of
them. Descriptions of stages in sequence join (`CallsBy.seq`), and each scenario's
description is read off its stages and brought to its word (`CallsBy.ofScenario`).
-/

namespace ReducedDowntime

open ReducedDowntime.Flow

/-! ## How many answers the references read -/

/-- A reference that ends as `o` read at most `n` of the answers `as`: all of them, when it
asks for more, and otherwise the ones before what it leaves unread. -/
theorem Trace.Follows.length_le {α β : Type} {o : Option (Except UpgradeError α × List β)}
    {r : Except Failure α} {as : List β} {n : Nat} (h : Trace.Follows o r)
    (hreads : ∀ x rest, o = some (x, rest) → ∃ used, as = used ++ rest ∧ used.length ≤ n)
    (hnone : o = none → as.length ≤ n) : as.length ≤ n := by
  rcases ho : o with _ | ⟨x, rest⟩
  · exact hnone ho
  · rw [ho] at h
    obtain ⟨used, rfl, hused⟩ := hreads x rest ho
    simp only [Trace.Follows] at h
    rw [h.1, List.append_nil]
    exact hused

namespace Monitor

/-- A fetch with `left` attempts left reads at most `left` answers. -/
theorem fetchAnswer_reads {limit left : Nat} {as rest : Answers} {a}
    (h : fetchAnswer limit left as = some (a, rest)) :
    ∃ used, as = used ++ rest ∧ used.length ≤ left := by
  induction left generalizing as with
  | zero =>
    simp only [fetchAnswer, Option.some.injEq, Prod.mk.injEq] at h
    exact ⟨[], by simp [h.2], Nat.le_refl 0⟩
  | succ left ih =>
    rcases as with _ | ⟨a, as⟩
    · simp [fetchAnswer] at h
    cases a with
    | ok s =>
      simp only [fetchAnswer, Option.some.injEq, Prod.mk.injEq] at h
      exact ⟨[.ok s], by simp [h.2], by simp⟩
    | error e =>
      by_cases hc : e.isConnection
      · -- a connection error is read and the fetch goes on
        simp only [fetchAnswer, hc, if_true] at h
        obtain ⟨used, rfl, hused⟩ := ih h
        exact ⟨.error e :: used, rfl, by simp only [List.length_cons]; omega⟩
      · simp only [fetchAnswer, hc, Bool.false_eq_true, if_false, Option.some.injEq,
          Prod.mk.injEq] at h
        exact ⟨[.error e], by simp [h.2], by simp⟩

/-- A fetch that asks for more than there is read fewer answers than its attempts left. -/
theorem fetchAnswer_none {limit left : Nat} {as : Answers} (h : fetchAnswer limit left as = none) :
    as.length ≤ left := by
  induction left generalizing as with
  | zero => simp [fetchAnswer] at h
  | succ left ih =>
    rcases as with _ | ⟨a, as⟩
    · simp
    cases a with
    | ok s => simp [fetchAnswer] at h
    | error e =>
      by_cases hc : e.isConnection
      · simp only [fetchAnswer, hc, if_true] at h
        simpa using ih h
      · simp [fetchAnswer, hc] at h

/-- A poll with `left` rounds of `limit` attempts reads at most `left * limit` answers. -/
theorem poll_reads {b : Budget} {limit : Nat} {autocancel : Bool} {left : Nat}
    {as rest : Answers} {x} (h : poll b limit autocancel left as = some (x, rest)) :
    ∃ used, as = used ++ rest ∧ used.length ≤ left * limit := by
  induction left generalizing as with
  | zero =>
    simp only [poll, Option.some.injEq, Prod.mk.injEq] at h
    exact ⟨[], by simp [h.2], by simp⟩
  | succ left ih =>
    simp only [poll] at h
    rcases hf : fetchAnswer limit limit as with _ | ⟨a, rest'⟩
    · rw [hf] at h
      cases h
    · obtain ⟨used, rfl, hused⟩ := fetchAnswer_reads hf
      -- the poll ends on what this round's fetch leaves, or waits and reads on
      have hend : rest' = rest →
          ∃ used', used ++ rest' = used' ++ rest ∧ used'.length ≤ (left + 1) * limit :=
        fun he => ⟨used, by rw [he], by rw [Nat.succ_mul]; omega⟩
      rw [hf] at h
      cases a with
      | error e => exact hend (Prod.mk.inj (Option.some.inj h)).2
      | ok s =>
        simp only at h
        split at h
        · exact hend (Prod.mk.inj (Option.some.inj h)).2
        · exact hend (Prod.mk.inj (Option.some.inj h)).2
        · obtain ⟨used', rfl, hused'⟩ := ih h
          exact ⟨used ++ used', (List.append_assoc _ _ _).symm,
            by rw [List.length_append, Nat.succ_mul]; omega⟩

/-- A poll that asks for more than there is read at most its rounds times its attempts. -/
theorem poll_none {b : Budget} {limit : Nat} {autocancel : Bool} {left : Nat} {as : Answers}
    (h : poll b limit autocancel left as = none) : as.length ≤ left * limit := by
  induction left generalizing as with
  | zero => simp [poll] at h
  | succ left ih =>
    simp only [poll] at h
    rcases hf : fetchAnswer limit limit as with _ | ⟨a, rest'⟩
    · have hlen := fetchAnswer_none hf
      rw [Nat.succ_mul]
      omega
    · obtain ⟨used, rfl, hused⟩ := fetchAnswer_reads hf
      rw [hf] at h
      cases a with
      | error e => cases h
      | ok s =>
        simp only at h
        split at h
        · cases h
        · cases h
        · have hlen := ih h
          rw [List.length_append, Nat.succ_mul]
          omega

/-- The most status calls a monitor of `doc` started at `now` makes: its rounds times its
reconnect attempts, and none when its rounds overflow. -/
def statusBound (settings : MonitorSettings) (doc : ApplyDocument) (now : Time.Instant) : Nat :=
  match rounds settings doc now with
  | .ok b => b.retries.toNat * settings.reconnect.retries.toNat
  | .error _ => 0

theorem Ends.length_le {settings : MonitorSettings} {autocancel : Bool} {doc : ApplyDocument}
    {now : Time.Instant} {as : Answers} {r : Except Failure MonitorOutcome}
    (h : Ends settings autocancel doc now as r) : as.length ≤ statusBound settings doc now := by
  rcases hr : rounds settings doc now with o | b
  · simp only [Ends, statusBound, hr] at h ⊢
    simp [h.1]
  · simp only [Ends, statusBound, hr] at h ⊢
    exact Trace.Follows.length_le h (fun _ _ ho => poll_reads ho) poll_none

end Monitor

namespace Precheck

/-- The wait for a pre-check result with `left` checks left reads at most `left` answers. -/
theorem awaitAnswers_reads {b : Budget} {left : Nat} {as rest : List (Except UpgradeError TaskInfo)}
    {x} (h : awaitAnswers b left as = some (x, rest)) :
    ∃ used, as = used ++ rest ∧ used.length ≤ left := by
  induction left generalizing as with
  | zero =>
    simp only [awaitAnswers, Option.some.injEq, Prod.mk.injEq] at h
    exact ⟨[], by simp [h.2], Nat.le_refl 0⟩
  | succ left ih =>
    rcases as with _ | ⟨a, as⟩
    · simp [awaitAnswers] at h
    cases a with
    | error e =>
      simp only [awaitAnswers, Option.some.injEq, Prod.mk.injEq] at h
      exact ⟨[.error e], by simp [h.2], by simp⟩
    | ok ti =>
      simp only [awaitAnswers] at h
      split at h
      · exact ⟨[.ok ti], by rw [(Prod.mk.inj (Option.some.inj h)).2]; rfl, by simp⟩
      · exact ⟨[.ok ti], by rw [(Prod.mk.inj (Option.some.inj h)).2]; rfl, by simp⟩
      · obtain ⟨used, rfl, hused⟩ := ih h
        exact ⟨.ok ti :: used, rfl, by simp only [List.length_cons]; omega⟩

/-- A wait that asks for more than there is read at most its checks. -/
theorem awaitAnswers_none {b : Budget} {left : Nat} {as : List (Except UpgradeError TaskInfo)}
    (h : awaitAnswers b left as = none) : as.length ≤ left := by
  induction left generalizing as with
  | zero => simp [awaitAnswers] at h
  | succ left ih =>
    rcases as with _ | ⟨a, as⟩
    · simp
    cases a with
    | error e => simp [awaitAnswers] at h
    | ok ti =>
      simp only [awaitAnswers] at h
      split at h
      · cases h
      · cases h
      · simpa using ih h

end Precheck

/-! ## The words -/

/-- A pre-check against `doc`: its start, then at most `n` looks at one task. -/
def CheckWord (doc : Option InitDocument) (n : Nat) (w : List LifecycleCall) : Prop :=
  ∃ task k, k ≤ n ∧ w = .startCheck doc :: List.replicate k (.taskInfo task)

/-- The status calls of a monitor of `doc` started at `now`. -/
def StatusWord (settings : MonitorSettings) (doc : ApplyDocument) (now : Time.Instant)
    (w : List LifecycleCall) : Prop :=
  ∃ k, k ≤ Monitor.statusBound settings doc now ∧ w = List.replicate k .status

/-- The recovery after the final monitor: no call, a cancel, or, when `reapply` is set, an
apply of the document the monitor watched. -/
def RecoveryWord (reapply : Bool) (doc : ApplyDocument) (w : List LifecycleCall) : Prop :=
  w = [] ∨ w = [.cancel] ∨ reapply = true ∧ ∃ c, w = [.apply doc c]

/-- The words of the manager calls of a scenario of each kind. An apply made at `c` is
monitored from one tick later. -/
def CallWord (settings : ScenarioSettings) (request : UpgradeRequest) :
    ScenarioKind → List LifecycleCall → Prop
  | .readiness, w =>
    CheckWord (some (InitSpec.toDocument { request.init with
      autocancellation := false, preserveOriginalName := false, managingServer := none }).value)
      settings.precheckBudget.retries.toNat w
  | .fullUpgrade, w =>
    ∃ w₁ w₂ doc c w₃ w₄,
      CheckWord (some (InitSpec.toDocument { request.init with managingServer := none }).value)
        settings.precheckBudget.retries.toNat w₁ ∧
      CheckWord none settings.precheckBudget.retries.toNat w₂ ∧
      StatusWord settings.monitor doc (tick c) w₃ ∧ RecoveryWord true doc w₄ ∧
      w = w₁ ++
        .configure (InitSpec.toDocument { request.init with managingServer := none }).value ::
          w₂ ++ .apply doc c :: w₃ ++ w₄
  | .uberUpgrade, w =>
    ∃ doc c w₁ w₂, StatusWord settings.monitor doc (tick c) w₁ ∧ RecoveryWord true doc w₂ ∧
      w = .configure request.init.toDocument.value :: .apply doc c :: w₁ ++ w₂
  | .twoPhase, w =>
    ∃ c₁ w₁ c₂ w₂ w₃,
      StatusWord settings.monitor { pause := some .beforeSwitchover } (tick c₁) w₁ ∧
      StatusWord settings.monitor {} (tick c₂) w₂ ∧ RecoveryWord true {} w₃ ∧
      w = .configure (InitSpec.toDocument { request.init with managingServer := none }).value ::
        .apply { pause := some .beforeSwitchover } c₁ :: w₁ ++ .apply {} c₂ :: w₂ ++ w₃
  | .cancellation, w =>
    ∃ w₁ doc c w₂ w₃, CheckWord none settings.precheckBudget.retries.toNat w₁ ∧
      StatusWord settings.cancellationMonitor doc (tick c) w₂ ∧ RecoveryWord false doc w₃ ∧
      w = .configure (InitSpec.toDocument { request.init with managingServer := none }).value ::
        w₁ ++ .apply doc c :: .cancel :: w₂ ++ w₃

theorem CheckWord.start {doc : Option InitDocument} {n : Nat} : CheckWord doc n [.startCheck doc] :=
  ⟨"", 0, Nat.zero_le n, rfl⟩

/-- The calls of a pre-check whose start gave a task form a check word: the wait reads at most
its checks. -/
theorem CheckWord.of_follows {doc : Option InitDocument} {b : Budget} {task : String}
    {as : List (Except UpgradeError TaskInfo)} {r : Except Failure CheckResult}
    (h : Trace.Follows (Precheck.awaitAnswers b b.retries.toNat as) r) :
    CheckWord doc b.retries.toNat (.startCheck doc :: (taskExchanges task as).map Prod.fst) :=
  ⟨task, as.length,
    Trace.Follows.length_le h (fun _ _ ho => Precheck.awaitAnswers_reads ho)
      Precheck.awaitAnswers_none,
    by simp [taskExchanges, Function.comp_def, List.map_const']⟩

theorem CheckWord.isInitialized_not_mem {doc : Option InitDocument} {n : Nat}
    {w : List LifecycleCall} (h : CheckWord doc n w) : LifecycleCall.isInitialized ∉ w := by
  obtain ⟨task, k, -, rfl⟩ := h
  simp [List.mem_replicate]

theorem StatusWord.isInitialized_not_mem {settings : MonitorSettings} {doc : ApplyDocument}
    {now : Time.Instant} {w : List LifecycleCall} (h : StatusWord settings doc now w) :
    LifecycleCall.isInitialized ∉ w := by
  obtain ⟨k, -, rfl⟩ := h
  simp [List.mem_replicate]

theorem RecoveryWord.isInitialized_not_mem {reapply : Bool} {doc : ApplyDocument}
    {w : List LifecycleCall} (h : RecoveryWord reapply doc w) :
    LifecycleCall.isInitialized ∉ w := by
  rcases h with rfl | rfl | ⟨-, c, rfl⟩ <;> simp

/-- No scenario asks whether an upgrade is initialized. -/
theorem CallWord.isInitialized_not_mem {settings : ScenarioSettings} {request : UpgradeRequest}
    {kind : ScenarioKind} {w : List LifecycleCall} (h : CallWord settings request kind w) :
    LifecycleCall.isInitialized ∉ w := by
  cases kind with
  | readiness => exact CheckWord.isInitialized_not_mem h
  | fullUpgrade =>
    obtain ⟨w₁, w₂, doc, c, w₃, w₄, h₁, h₂, h₃, h₄, rfl⟩ := h
    simp [h₁.isInitialized_not_mem, h₂.isInitialized_not_mem, h₃.isInitialized_not_mem,
      h₄.isInitialized_not_mem]
  | uberUpgrade =>
    obtain ⟨doc, c, w₁, w₂, h₁, h₂, rfl⟩ := h
    simp [h₁.isInitialized_not_mem, h₂.isInitialized_not_mem]
  | twoPhase =>
    obtain ⟨c₁, w₁, c₂, w₂, w₃, h₁, h₂, h₃, rfl⟩ := h
    simp [h₁.isInitialized_not_mem, h₂.isInitialized_not_mem, h₃.isInitialized_not_mem]
  | cancellation =>
    obtain ⟨w₁, doc, c, w₂, w₃, h₁, h₂, h₃, rfl⟩ := h
    simp [h₁.isInitialized_not_mem, h₂.isInitialized_not_mem, h₃.isInitialized_not_mem]

/-! ## Describing a stage's calls -/

/-- A description of a stage's calls: `D a c ls ds c'` says that a run from clock `c` to clock
`c'` that gives `a` may call the manager along `ls` and the appliance along `ds`. -/
abbrev Calls (α : Type) : Type :=
  α → Time.Instant → List LifecycleCall → List ApplianceCall → Time.Instant → Prop

/-- The runs that `P` describes call as `D` says: exactly, when the run gives a value, and up
to a prefix when it fails. `D` describes some calls from every clock, so the stages after a
failure can always be filled in. -/
structure CallsBy {α : Type} (D : Calls α) (P : Except Failure α → Trace → Prop) : Prop where
  ok : ∀ a t, P (.ok a) t →
    D a t.start (t.lifecycle.map Prod.fst) (t.appliance.map Prod.fst) t.stop
  error : ∀ e t, P (.error e) t → ∃ a ls ds c, D a t.start ls ds c ∧
    t.lifecycle.map Prod.fst <+: ls ∧ t.appliance.map Prod.fst <+: ds
  nonempty : ∀ c, ∃ a ls ds c', D a c ls ds c'

namespace Calls

variable {α β : Type}

/-- A stage, then one that depends on its value: their calls one after the other. -/
def seq (D₁ : Calls α) (D₂ : α → Calls β) : Calls β := fun b c ls ds c'' =>
  ∃ a ls₁ ds₁ c' ls₂ ds₂, D₁ a c ls₁ ds₁ c' ∧ D₂ a b c' ls₂ ds₂ c'' ∧
    ls = ls₁ ++ ls₂ ∧ ds = ds₁ ++ ds₂

/-- No call, with the clock moved by `next`. -/
def idle (next : Time.Instant → Time.Instant) : Calls α := fun _ c ls ds c' =>
  ls = [] ∧ ds = [] ∧ c' = next c

/-- One call to the manager. -/
def lifecycle (call : LifecycleCall) : Calls α := fun _ c ls ds c' =>
  ls = [call] ∧ ds = [] ∧ c' = c

/-- Appliance calls along a prefix of one of the words `W`. -/
def appliance (W : List ApplianceCall → Prop) : Calls α := fun _ c ls ds c' =>
  ls = [] ∧ c' = c ∧ ∃ w, W w ∧ ds <+: w

/-- A pre-check against `doc` within `n` looks. -/
def checked (doc : Option InitDocument) (n : Nat) : Calls α := fun _ c ls ds c' =>
  CheckWord doc n ls ∧ ds = [] ∧ c' = c

/-- An apply of the document `spec` resolves to at `c`, made one tick later; any document
stands for one that cannot be resolved, since none is sent then. -/
def applied (spec : ApplySpec) : Calls ApplyDocument := fun doc c ls ds c' =>
  (spec.toDocument c = .ok doc ∨ ∃ e, spec.toDocument c = .error e) ∧
    ls = [.apply doc (tick c)] ∧ ds = [] ∧ c' = tick (tick c)

/-- The status calls of a monitor of `doc`. -/
def watched (settings : MonitorSettings) (doc : ApplyDocument) : Calls α := fun _ c ls ds _ =>
  StatusWord settings doc c ls ∧ ds = []

/-- The final monitor of `doc` and the recovery after it. -/
def monitored (settings : MonitorSettings) (reapply : Bool) (doc : ApplyDocument) : Calls α :=
  fun _ c ls ds _ => ds = [] ∧
    ∃ w₁ w₂, StatusWord settings doc c w₁ ∧ RecoveryWord reapply doc w₂ ∧ ls = w₁ ++ w₂

/-- After the preparation's monitor: no call, or an apply straight through, its monitor and
the recovery after it. -/
def switchedOver (settings : MonitorSettings) : Calls α := fun _ _ ls ds _ =>
  ds = [] ∧ (ls = [] ∨ ∃ c w₁ w₂, StatusWord settings {} (tick c) w₁ ∧
    RecoveryWord true {} w₂ ∧ ls = .apply {} c :: w₁ ++ w₂)

/-- Manager calls along a prefix of one of the words `L`, and appliance calls along a prefix
of one of the words `W`. -/
def along (L : List LifecycleCall → Prop) (W : List ApplianceCall → Prop) : Calls α :=
  fun _ _ ls ds _ => (∃ w, L w ∧ ls <+: w) ∧ ∃ w, W w ∧ ds <+: w

/-- The calls of a scenario of each kind: its manager calls along a prefix of one of its
words, and its appliance calls along a prefix of the plug-in update's word. -/
def ofKind (settings : ScenarioSettings) (request : UpgradeRequest) (kind : ScenarioKind) :
    Calls ScenarioOutcome :=
  along (CallWord settings request kind)
    (PluginUpdate.Word request.init.targetUpgradeRepo settings.pluginBudget.retries.toNat)

section Seq

variable {D : α → Calls β} {b : β} {c c'' : Time.Instant} {ls : List LifecycleCall}
  {ds : List ApplianceCall}

@[simp] theorem seq_idle {next : Time.Instant → Time.Instant} :
    (idle next).seq D b c ls ds c'' ↔ ∃ a, D a b (next c) ls ds c'' := by
  constructor
  · rintro ⟨a, _, _, _, ls₂, ds₂, ⟨rfl, rfl, rfl⟩, hD, rfl, rfl⟩
    exact ⟨a, hD⟩
  · rintro ⟨a, hD⟩
    exact ⟨a, [], [], next c, ls, ds, ⟨rfl, rfl, rfl⟩, hD, rfl, rfl⟩

@[simp] theorem seq_lifecycle {call : LifecycleCall} :
    (lifecycle call).seq D b c ls ds c'' ↔ ∃ a ls₂, D a b c ls₂ ds c'' ∧ ls = call :: ls₂ := by
  constructor
  · rintro ⟨a, _, _, _, ls₂, ds₂, ⟨rfl, rfl, rfl⟩, hD, rfl, rfl⟩
    exact ⟨a, ls₂, hD, rfl⟩
  · rintro ⟨a, ls₂, hD, rfl⟩
    exact ⟨a, [call], [], c, ls₂, ds, ⟨rfl, rfl, rfl⟩, hD, rfl, rfl⟩

@[simp] theorem seq_appliance {W : List ApplianceCall → Prop} :
    (appliance W).seq D b c ls ds c'' ↔
      ∃ a ds₁ ds₂, (∃ w, W w ∧ ds₁ <+: w) ∧ D a b c ls ds₂ c'' ∧ ds = ds₁ ++ ds₂ := by
  constructor
  · rintro ⟨a, _, ds₁, _, ls₂, ds₂, ⟨rfl, rfl, hw⟩, hD, rfl, rfl⟩
    exact ⟨a, ds₁, ds₂, hw, hD, rfl⟩
  · rintro ⟨a, ds₁, ds₂, hw, hD, rfl⟩
    exact ⟨a, [], ds₁, c, ls, ds₂, ⟨rfl, rfl, hw⟩, hD, rfl, rfl⟩

@[simp] theorem seq_checked {doc : Option InitDocument} {n : Nat} :
    (checked doc n).seq D b c ls ds c'' ↔
      ∃ a w ls₂, CheckWord doc n w ∧ D a b c ls₂ ds c'' ∧ ls = w ++ ls₂ := by
  constructor
  · rintro ⟨a, w, _, _, ls₂, ds₂, ⟨hw, rfl, rfl⟩, hD, rfl, rfl⟩
    exact ⟨a, w, ls₂, hw, hD, rfl⟩
  · rintro ⟨a, w, ls₂, hw, hD, rfl⟩
    exact ⟨a, w, [], c, ls₂, ds, ⟨hw, rfl, rfl⟩, hD, rfl, rfl⟩

@[simp] theorem seq_watched {settings : MonitorSettings} {doc : ApplyDocument}
    {D : MonitorOutcome → Calls β} :
    (watched settings doc).seq D b c ls ds c'' ↔
      ∃ a w c' ls₂, StatusWord settings doc c w ∧ D a b c' ls₂ ds c'' ∧ ls = w ++ ls₂ := by
  constructor
  · rintro ⟨a, w, _, c', ls₂, ds₂, ⟨hw, rfl⟩, hD, rfl, rfl⟩
    exact ⟨a, w, c', ls₂, hw, hD, rfl⟩
  · rintro ⟨a, w, c', ls₂, hw, hD, rfl⟩
    exact ⟨a, w, [], c', ls₂, ds, ⟨hw, rfl⟩, hD, rfl, rfl⟩

@[simp] theorem seq_applied {spec : ApplySpec} {D : ApplyDocument → Calls β} :
    (applied spec).seq D b c ls ds c'' ↔
      ∃ doc ls₂, (spec.toDocument c = .ok doc ∨ ∃ e, spec.toDocument c = .error e) ∧
        D doc b (tick (tick c)) ls₂ ds c'' ∧ ls = .apply doc (tick c) :: ls₂ := by
  constructor
  · rintro ⟨doc, _, _, _, ls₂, ds₂, ⟨hdoc, rfl, rfl, rfl⟩, hD, rfl, rfl⟩
    exact ⟨doc, ls₂, hdoc, hD, rfl⟩
  · rintro ⟨doc, ls₂, hdoc, hD, rfl⟩
    exact ⟨doc, _, [], _, ls₂, ds, ⟨hdoc, rfl, rfl, rfl⟩, hD, rfl, rfl⟩

end Seq

/-- The document of an apply whose spec resolves to `d` is `d`. -/
theorem applied_doc {spec : ApplySpec} {c : Time.Instant} {doc d : ApplyDocument}
    (h : spec.toDocument c = .ok doc ∨ ∃ e, spec.toDocument c = .error e)
    (hd : spec.toDocument c = .ok d) : doc = d := by
  rw [hd] at h
  rcases h with h | ⟨e, h⟩
  · exact (Except.ok.inj h).symm
  · cases h

end Calls

/-! ## The calls of each stage -/

section AtMostOne

variable {γ : Type} {call : LifecycleCall} {r : Except Failure γ} {t : Trace}

theorem AtMostOne.calls (h : AtMostOne call r t) :
    t.lifecycle.map Prod.fst = [] ∨ t.lifecycle.map Prod.fst = [call] := by
  rcases h.1 with hl | ⟨ans, hl⟩ <;> simp [hl]

theorem AtMostOne.calls_prefix (h : AtMostOne call r t) : t.lifecycle.map Prod.fst <+: [call] := by
  rcases h.calls with hl | hl <;> simp [hl]

theorem AtMostOne.calls_ok {a : γ} (h : AtMostOne call (.ok a) t) :
    t.lifecycle.map Prod.fst = [call] := by
  simp [h.2 a rfl]

end AtMostOne

/-- The apply of a spec is accepted exactly when the stage gives the document the spec
resolves to, sent one tick after the stage starts. -/
theorem Trace.AppliedSpec.accepted {spec : ApplySpec} {doc : ApplyDocument} {t : Trace}
    (h : Trace.AppliedSpec spec (.ok doc) t) :
    spec.toDocument t.start = .ok doc ∧
      t.lifecycle = [(.apply doc (tick t.start), .ok .accepted)] ∧ t.appliance = [] ∧
      t.stop = tick (tick t.start) := by
  unfold Trace.AppliedSpec Trace.AppliedAt at h
  split at h
  · cases h.1
  · next d hd =>
    obtain ⟨r₀, ⟨hcall, hstop⟩, hr⟩ := h
    cases r₀ with
    | error f => cases hr
    | ok u =>
      cases hr
      exact ⟨hd, hcall.atMostOne.2 () rfl, hcall.1, hstop⟩

theorem Monitor.Watched.calls {settings : MonitorSettings} {autocancel : Bool}
    {doc : ApplyDocument} {r : Except Failure MonitorOutcome} {t : Trace}
    (h : Monitor.Watched settings autocancel doc r t) :
    StatusWord settings doc t.start (t.lifecycle.map Prod.fst) ∧ t.appliance.map Prod.fst = [] := by
  obtain ⟨ha, as, hl, hends⟩ := h
  refine ⟨⟨as.length, hends.length_le, ?_⟩, by simp [ha]⟩
  simp [hl, Monitor.statusExchanges, Function.comp_def, List.map_const']

/-- The recovery makes the calls of a recovery word, whatever they are answered. -/
theorem Trace.Recovered.calls {reapply : Bool} {doc : ApplyDocument}
    {m : Except Failure MonitorOutcome} {r : Except Failure ScenarioOutcome} {t : Trace}
    (h : Trace.Recovered reapply doc m r t) :
    RecoveryWord reapply doc (t.lifecycle.map Prod.fst) := by
  unfold Trace.Recovered at h
  split at h
  · simp [RecoveryWord, h.1.1]
  · split at h
    · obtain ⟨r₀, ⟨hcall, -⟩, -⟩ := h
      rcases hcall.atMostOne.calls with hl | hl <;> simp [RecoveryWord, hl]
    · split at h
      · next hre =>
        obtain ⟨r₀, ⟨hcall, -⟩, -⟩ := h
        rcases hcall.atMostOne.calls with hl | hl <;> simp [RecoveryWord, hl, hre]
      · simp [RecoveryWord, h.1.1]
    · simp [RecoveryWord, h.1.1]

theorem Trace.MonitoredAndRecovered.calls {s : Session} {autocancel : Bool}
    {doc : ApplyDocument} {reapply : Bool} {r : Except Failure ScenarioOutcome} {t : Trace}
    (h : Trace.MonitoredAndRecovered s autocancel doc reapply r t) :
    t.appliance.map Prod.fst = [] ∧ ∃ w₁ w₂, StatusWord s.monitoring doc t.start w₁ ∧
      RecoveryWord reapply doc w₂ ∧ t.lifecycle.map Prod.fst = w₁ ++ w₂ := by
  obtain ⟨m, t₁, t₂, hw, hrec, -, rfl⟩ := h
  obtain ⟨hstatus, ha⟩ := hw.calls
  exact ⟨by simp [Trace.append, ha, hrec.appliance], _, _, hstatus, hrec.calls,
    by simp [Trace.append]⟩

namespace CallsBy

variable {α β : Type} {D D' : Calls α} {P : Except Failure α → Trace → Prop}

theorem mono (h : CallsBy D P) (hD : ∀ a c ls ds c', D a c ls ds c' → D' a c ls ds c') :
    CallsBy D' P where
  ok a t hp := hD _ _ _ _ _ (h.ok a t hp)
  error e t hp := by
    obtain ⟨a, ls, ds, c, hd, hl, hds⟩ := h.error e t hp
    exact ⟨a, ls, ds, c, hD _ _ _ _ _ hd, hl, hds⟩
  nonempty c := by
    obtain ⟨a, ls, ds, c', hd⟩ := h.nonempty c
    exact ⟨a, ls, ds, c', hD _ _ _ _ _ hd⟩

/-- Stages in sequence call along their descriptions one after the other. -/
theorem seq {D₂ : α → Calls β} {Q : α → Except Failure β → Trace → Prop} (hP : CallsBy D P)
    (hQ : ∀ a, CallsBy (D₂ a) (Q a)) : CallsBy (D.seq D₂) (Trace.Seq P Q) where
  ok b t h := by
    rcases h with ⟨e, he, -⟩ | ⟨a, t₁, t₂, h₁, h₂, hs, rfl⟩
    · cases he
    · have hD₂ := (hQ a).ok b t₂ h₂
      rw [← hs] at hD₂
      exact ⟨a, _, _, _, _, _, hP.ok a t₁ h₁, hD₂, by simp [Trace.append], by simp [Trace.append]⟩
  error e t h := by
    rcases h with ⟨e', he, h₁⟩ | ⟨a, t₁, t₂, h₁, h₂, hs, rfl⟩
    · -- the first stage failed: any calls of the second fill its word in
      cases he
      obtain ⟨a, ls₁, ds₁, c', hD₁, hl, hd⟩ := hP.error e t h₁
      obtain ⟨b, ls₂, ds₂, c'', hD₂⟩ := (hQ a).nonempty c'
      exact ⟨b, ls₁ ++ ls₂, ds₁ ++ ds₂, c'', ⟨a, ls₁, ds₁, c', ls₂, ds₂, hD₁, hD₂, rfl, rfl⟩,
        hl.trans (List.prefix_append _ _), hd.trans (List.prefix_append _ _)⟩
    · obtain ⟨b, ls₂, ds₂, c'', hD₂, hl, hd⟩ := (hQ a).error e t₂ h₂
      rw [← hs] at hD₂
      refine ⟨b, _, _, c'', ⟨a, _, _, t₁.stop, ls₂, ds₂, hP.ok a t₁ h₁, hD₂, rfl, rfl⟩, ?_, ?_⟩
      · simpa [Trace.append] using hl
      · simpa [Trace.append] using hd
  nonempty c := by
    obtain ⟨a, ls₁, ds₁, c', hD₁⟩ := hP.nonempty c
    obtain ⟨b, ls₂, ds₂, c'', hD₂⟩ := (hQ a).nonempty c'
    exact ⟨b, _, _, c'', a, ls₁, ds₁, c', ls₂, ds₂, hD₁, hD₂, rfl, rfl⟩

/-- A stage whose calls `D` describes whatever the stage gives. -/
theorem total (a₀ : α)
    (hP : ∀ r t, P r t → ∀ a,
      D a t.start (t.lifecycle.map Prod.fst) (t.appliance.map Prod.fst) t.stop)
    (hne : ∀ c, ∃ a ls ds c', D a c ls ds c') : CallsBy D P where
  ok a t h := hP _ t h a
  error _ t h := ⟨a₀, _, _, t.stop, hP _ t h a₀, List.prefix_refl _, List.prefix_refl _⟩
  nonempty := hne

/-- A stage that calls no service and moves the clock by `next`. -/
theorem idle (a₀ : α) (next : Time.Instant → Time.Instant)
    (hP : ∀ r t, P r t → t.lifecycle = [] ∧ t.appliance = [] ∧ t.stop = next t.start) :
    CallsBy (Calls.idle next) P :=
  total a₀
    (fun r t h _ => by
      obtain ⟨hl, ha, hs⟩ := hP r t h
      exact ⟨by simp [hl], by simp [ha], hs⟩)
    fun c => ⟨a₀, [], [], next c, rfl, rfl, rfl⟩

theorem quiet (a₀ : α) (hP : ∀ r t, P r t → t.Quiet) : CallsBy (Calls.idle id) P :=
  idle a₀ id fun r t h => ⟨(hP r t h).1, (hP r t h).2.1, (hP r t h).2.2.1⟩

/-- A stage that makes at most the one call `call`, and makes it when it gives a value. -/
theorem atMostOne {call : LifecycleCall} {P : Except Failure Unit → Trace → Prop}
    (hP : ∀ r t, P r t → AtMostOne call r t ∧ t.appliance = [] ∧ t.stop = t.start) :
    CallsBy (Calls.lifecycle call) P where
  ok _ t h := by
    obtain ⟨hone, ha, hs⟩ := hP _ t h
    exact ⟨hone.calls_ok, by simp [ha], hs⟩
  error _ t h := by
    obtain ⟨hone, ha, -⟩ := hP _ t h
    exact ⟨(), [call], [], t.start, ⟨rfl, rfl, rfl⟩, hone.calls_prefix, by simp [ha]⟩
  nonempty c := ⟨(), [call], [], c, rfl, rfl, rfl⟩

theorem specMade (hours : Option Nat) (pause : Bool) :
    CallsBy (Calls.idle tick) (Trace.SpecMade hours pause) :=
  idle {} tick fun _ _ h => ⟨h.2.1, h.2.2.1, h.2.2.2.1⟩

theorem passed (res : CheckResult) : CallsBy (Calls.idle id) (Trace.Passed res) :=
  quiet () fun _ _ h => h.2

theorem confirmed (settings : ScenarioSettings) :
    CallsBy (Calls.idle id) (Trace.Confirmed settings) :=
  idle () id fun _ _ h => ⟨h.1, h.2.1, h.2.2.1⟩

theorem configured (spec : InitSpec) :
    CallsBy (Calls.lifecycle (.configure spec.toDocument.value)) (Trace.Configured spec) :=
  atMostOne fun _ _ h => ⟨h.1.atMostOne, h.1.1, h.2⟩

theorem cancelled : CallsBy (Calls.lifecycle .cancel) Trace.Cancelled :=
  atMostOne fun _ _ h => ⟨h.1.atMostOne, h.1.1, h.2⟩

theorem checked (doc : Option InitDocument) (b : Budget) :
    CallsBy (Calls.checked doc b.retries.toNat) (Trace.Checked doc b) where
  ok _ t h := by
    obtain ⟨ha, hs, ⟨-, hr⟩ | ⟨e, -, hr⟩ | ⟨task, as, hl, hf⟩⟩ := h
    · cases hr
    · cases hr
    · refine ⟨?_, by simp [ha], hs⟩
      rw [hl, List.map_cons]
      exact CheckWord.of_follows hf
  error _ t h := by
    obtain ⟨ha, -, ⟨hl, -⟩ | ⟨e, hl, -⟩ | ⟨task, as, hl, hf⟩⟩ := h
    · exact ⟨{}, _, [], t.start, ⟨CheckWord.start, rfl, rfl⟩, by simp [hl], by simp [ha]⟩
    · exact ⟨{}, _, [], t.start, ⟨CheckWord.start, rfl, rfl⟩, by simp [hl], by simp [ha]⟩
    · refine ⟨{}, _, [], t.start, ⟨?_, rfl, rfl⟩, List.prefix_refl _, by simp [ha]⟩
      rw [hl, List.map_cons]
      exact CheckWord.of_follows hf
  nonempty c := ⟨{}, _, [], c, CheckWord.start, rfl, rfl⟩

theorem appliedSpec (spec : ApplySpec) : CallsBy (Calls.applied spec) (Trace.AppliedSpec spec) where
  ok doc t h := by
    obtain ⟨hd, hl, ha, hstop⟩ := h.accepted
    exact ⟨.inl hd, by simp [hl], by simp [ha], hstop⟩
  error _ t h := by
    unfold Trace.AppliedSpec Trace.AppliedAt at h
    split at h
    · next e he =>
      -- a spec that cannot be resolved fails before the call
      obtain ⟨-, hl, ha, -⟩ := h
      have hl : t.lifecycle = [] := hl
      have ha : t.appliance = [] := ha
      exact ⟨{}, _, [], _, ⟨.inr ⟨e, he⟩, rfl, rfl, rfl⟩, by simp [hl], by simp [ha]⟩
    · next d hd =>
      obtain ⟨r₀, ⟨hcall, -⟩, -⟩ := h
      have ha : t.appliance = [] := hcall.1
      exact ⟨d, _, [], _, ⟨.inl hd, rfl, rfl, rfl⟩, hcall.atMostOne.calls_prefix, by simp [ha]⟩
  nonempty c := by
    rcases hd : spec.toDocument c with e | d
    · exact ⟨{}, _, [], _, .inr ⟨e, hd⟩, rfl, rfl, rfl⟩
    · exact ⟨d, _, [], _, .inl hd, rfl, rfl, rfl⟩

theorem watched (settings : MonitorSettings) (autocancel : Bool) (doc : ApplyDocument) :
    CallsBy (Calls.watched settings doc) (Monitor.Watched settings autocancel doc) :=
  total .upgraded (fun _ _ h _ => h.calls) fun c =>
    ⟨.upgraded, [], [], c, ⟨0, Nat.zero_le _, rfl⟩, rfl⟩

theorem monitoredAndRecovered (s : Session) (autocancel : Bool) (doc : ApplyDocument)
    (reapply : Bool) :
    CallsBy (Calls.monitored s.monitoring reapply doc)
      (Trace.MonitoredAndRecovered s autocancel doc reapply) :=
  total .precheckPassed (fun _ _ h _ => h.calls) fun c =>
    ⟨.precheckPassed, [], [], c, rfl, [], [], ⟨0, Nat.zero_le _, rfl⟩, .inl rfl, rfl⟩

/-- The calls of a run are prefixes of words that the description allows. -/
theorem prefixes {L : List LifecycleCall → Prop} {W : List ApplianceCall → Prop}
    {r : Except Failure α} {t : Trace} (h : CallsBy (Calls.along L W) P) (hp : P r t) :
    (∃ w, L w ∧ t.lifecycle.map Prod.fst <+: w) ∧ ∃ w, W w ∧ t.appliance.map Prod.fst <+: w := by
  cases r with
  | ok a => exact h.ok a t hp
  | error e =>
    obtain ⟨_, _, _, _, ⟨⟨w, hw, hls⟩, v, hv, hds⟩, hl, hd⟩ := h.error e t hp
    exact ⟨⟨w, hw, hl.trans hls⟩, v, hv, hd.trans hds⟩

/-! ## The calls of each scenario -/

section Scenarios

variable (settings : ScenarioSettings) (request : UpgradeRequest)

theorem pluginUpdated :
    CallsBy (Calls.appliance (PluginUpdate.Word request.init.targetUpgradeRepo
      settings.pluginBudget.retries.toNat)) (Trace.PluginUpdated settings request) :=
  total () (fun _ _ h _ => ⟨by simp [h.1], h.2.1, h.2.2⟩) fun c =>
    ⟨(), [], [], c, rfl, rfl, _, ⟨"", 0, Nat.zero_le _, rfl⟩, List.nil_prefix⟩

/-- After the preparation's monitor the scenario switches over, or ends with no call. -/
theorem afterPreparation (o : MonitorOutcome) :
    CallsBy (Calls.switchedOver settings.monitor) (Trace.AfterPreparation settings request o) := by
  cases o
  case pausedBeforeSwitchover =>
    unfold Trace.AfterPreparation
    refine (seq (appliedSpec _) fun doc => monitoredAndRecovered _ _ doc true).mono ?_
    intro _ c ls ds _ h
    simp only [Calls.seq_applied] at h
    obtain ⟨doc, ls₂, hdoc, ⟨rfl, w₁, w₂, hw₁, hw₂, rfl⟩, rfl⟩ := h
    obtain rfl : doc = {} := Calls.applied_doc hdoc rfl
    exact ⟨rfl, .inr ⟨tick c, w₁, w₂, hw₁, hw₂, rfl⟩⟩
  all_goals
    exact (quiet .precheckPassed fun _ _ h => h.2).mono fun _ _ _ _ _ h => ⟨h.2.1, .inl h.1⟩

theorem readiness :
    CallsBy (Calls.ofKind settings request .readiness) (Trace.Readiness settings request) := by
  unfold Trace.Readiness
  refine (seq (pluginUpdated settings request) fun _ => seq (checked _ _) fun res =>
    seq (passed res) fun _ => quiet .precheckPassed fun _ _ h => h.2).mono ?_
  intro _ c ls ds _ h
  simp only [Calls.seq_appliance, Calls.seq_checked, Calls.seq_idle] at h
  obtain ⟨_, ds₁, ds₂, hplugin, ⟨_, w, ls₂, hw, ⟨_, rfl, rfl, -⟩, rfl⟩, rfl⟩ := h
  exact ⟨⟨w, hw, by simp⟩, by simpa using hplugin⟩

theorem fullUpgrade :
    CallsBy (Calls.ofKind settings request .fullUpgrade) (Trace.FullUpgrade settings request) := by
  unfold Trace.FullUpgrade
  refine (seq (specMade _ _) fun spec => seq (pluginUpdated settings request) fun _ =>
    seq (checked _ _) fun res => seq (passed res) fun _ => seq (configured _) fun _ =>
    seq (checked _ _) fun res => seq (passed res) fun _ => seq (confirmed settings) fun _ =>
    seq (appliedSpec spec) fun doc => monitoredAndRecovered _ _ doc true).mono ?_
  intro _ c ls ds _ h
  simp only [Calls.seq_idle, Calls.seq_appliance, Calls.seq_checked, Calls.seq_lifecycle,
    Calls.seq_applied] at h
  obtain ⟨_, _, ds₁, ds₂, hplugin, ⟨_, w₁, ls₁, hw₁, ⟨_, _, ls₂, ⟨_, w₂, ls₃, hw₂,
    ⟨_, _, doc, ls₄, -, ⟨rfl, w₃, w₄, hw₃, hw₄, rfl⟩, rfl⟩, rfl⟩, rfl⟩, rfl⟩, rfl⟩ := h
  exact ⟨⟨_, ⟨w₁, w₂, doc, _, w₃, w₄, hw₁, hw₂, hw₃, hw₄, rfl⟩, by simp⟩,
    by simpa using hplugin⟩

theorem uberUpgrade :
    CallsBy (Calls.ofKind settings request .uberUpgrade) (Trace.UberUpgrade settings request) := by
  unfold Trace.UberUpgrade
  split
  · -- refused before any call
    refine (quiet .precheckPassed fun _ _ h => h.2).mono ?_
    rintro _ c _ _ _ ⟨rfl, rfl, -⟩
    exact ⟨⟨_, ⟨{}, c, [], [], ⟨0, Nat.zero_le _, rfl⟩, .inl rfl, rfl⟩, List.nil_prefix⟩,
      _, ⟨"", 0, Nat.zero_le _, rfl⟩, List.nil_prefix⟩
  · refine (seq (specMade _ _) fun spec => seq (pluginUpdated settings request) fun _ =>
      seq (configured _) fun _ => seq (confirmed settings) fun _ =>
      seq (appliedSpec spec) fun doc => monitoredAndRecovered _ _ doc true).mono ?_
    intro _ c ls ds _ h
    simp only [Calls.seq_idle, Calls.seq_appliance, Calls.seq_lifecycle, Calls.seq_applied] at h
    obtain ⟨_, _, ds₁, ds₂, hplugin, ⟨_, ls₁, ⟨_, doc, ls₂, -,
      ⟨rfl, w₁, w₂, hw₁, hw₂, rfl⟩, rfl⟩, rfl⟩, rfl⟩ := h
    exact ⟨⟨_, ⟨doc, _, w₁, w₂, hw₁, hw₂, rfl⟩, by simp⟩, by simpa using hplugin⟩

theorem twoPhase :
    CallsBy (Calls.ofKind settings request .twoPhase) (Trace.TwoPhase settings request) := by
  unfold Trace.TwoPhase
  refine (seq (pluginUpdated settings request) fun _ => seq (configured _) fun _ =>
    seq (confirmed settings) fun _ => seq (appliedSpec _) fun prepare =>
    seq (watched _ _ prepare) (afterPreparation settings request)).mono ?_
  intro _ c ls ds _ h
  simp only [Calls.seq_appliance, Calls.seq_lifecycle, Calls.seq_idle, Calls.seq_applied,
    Calls.seq_watched] at h
  obtain ⟨_, ds₁, ds₂, hplugin, ⟨_, ls₁, ⟨_, prepare, ls₂, hprep,
    ⟨_, w₁, _, ls₃, hw₁, ⟨rfl, hafter⟩, rfl⟩, rfl⟩, rfl⟩, rfl⟩ := h
  obtain rfl : prepare = { pause := some .beforeSwitchover } := Calls.applied_doc hprep rfl
  -- the preparation's monitor ends the scenario, or the switchover follows it
  rcases hafter with rfl | ⟨c₂, w₂, w₃, hw₂, hw₃, rfl⟩
  · exact ⟨⟨_, ⟨_, w₁, c, [], [], hw₁, ⟨0, Nat.zero_le _, rfl⟩, .inl rfl, rfl⟩, by simp⟩,
      by simpa using hplugin⟩
  · exact ⟨⟨_, ⟨_, w₁, c₂, w₂, w₃, hw₁, hw₂, hw₃, rfl⟩, by simp⟩, by simpa using hplugin⟩

theorem cancellation :
    CallsBy (Calls.ofKind settings request .cancellation)
      (Trace.Cancellation settings request) := by
  unfold Trace.Cancellation
  refine (seq (specMade _ _) fun spec => seq (pluginUpdated settings request) fun _ =>
    seq (configured _) fun _ => seq (checked _ _) fun res => seq (passed res) fun _ =>
    seq (confirmed settings) fun _ => seq (appliedSpec spec) fun doc =>
    seq cancelled fun _ => monitoredAndRecovered _ _ doc false).mono ?_
  intro _ c ls ds _ h
  simp only [Calls.seq_idle, Calls.seq_appliance, Calls.seq_lifecycle, Calls.seq_checked,
    Calls.seq_applied] at h
  obtain ⟨_, _, ds₁, ds₂, hplugin, ⟨_, ls₁, ⟨_, w₁, ls₂, hw₁, ⟨_, _, doc, ls₃, -,
    ⟨_, ls₄, ⟨rfl, w₂, w₃, hw₂, hw₃, rfl⟩, rfl⟩, rfl⟩, rfl⟩, rfl⟩, rfl⟩ := h
  exact ⟨⟨_, ⟨w₁, doc, _, w₂, w₃, hw₁, hw₂, hw₃, rfl⟩, by simp⟩, by simpa using hplugin⟩

/-- Every scenario calls along its kind's words. -/
theorem ofScenario (kind : ScenarioKind) :
    CallsBy (Calls.ofKind settings request kind) (Trace.OfScenario settings kind request) := by
  cases kind
  · exact readiness settings request
  · exact fullUpgrade settings request
  · exact uberUpgrade settings request
  · exact twoPhase settings request
  · exact cancellation settings request

end Scenarios

end CallsBy

/-- Without its managing server the uber-upgrade is refused before any call. -/
theorem Trace.UberUpgrade.refused {settings : ScenarioSettings} {request : UpgradeRequest}
    {r : Except Failure ScenarioOutcome} {t : Trace} (hnone : request.init.managingServer = none)
    (h : Trace.UberUpgrade settings request r t) : Trace.RefusedUber r t := by
  simp only [Trace.UberUpgrade, hnone, Option.isNone_none, if_true] at h
  exact h

/-! ## The calls of a scenario -/

/-- The calls of every scenario, whatever the services answer. Its appliance calls do not
depend on the manager, so a manager that refuses every call sees them all made before its
first one; they are a prefix of the plug-in update's word. Its manager calls are a prefix of
one word of its kind, none of them asks whether an upgrade is initialized, and an uber-upgrade
without its managing server is refused with no call at all. -/
theorem scenario_call_words (settings : ScenarioSettings) (kind : ScenarioKind)
    (request : UpgradeRequest) :
    ApplianceFirst (Scenario.run settings kind request) ∧
    (Scenario.run settings kind request).Spec fun r t =>
      (∃ ds, PluginUpdate.Word request.init.targetUpgradeRepo
        settings.pluginBudget.retries.toNat ds ∧ t.appliance.map Prod.fst <+: ds) ∧
      (∃ w, CallWord settings request kind w ∧ t.lifecycle.map Prod.fst <+: w) ∧
      (∀ x ∈ t.lifecycle, x.1 ≠ .isInitialized) ∧
      (kind = .uberUpgrade → request.init.managingServer = none → Trace.RefusedUber r t) := by
  have hrun := Flow.Settled.run settings request kind
  refine ⟨hrun.applianceFirst, hrun.spec.mono fun r t h => ?_⟩
  obtain ⟨⟨w, hw, hpre⟩, ds, hds, hdpre⟩ := (CallsBy.ofScenario settings request kind).prefixes h
  refine ⟨⟨ds, hds, hdpre⟩, ⟨w, hw, hpre⟩, fun x hx hinit => ?_, fun hkind hnone => ?_⟩
  · -- every call made is a letter of the word
    have hmem : x.1 ∈ w := hpre.subset (List.mem_map.2 ⟨x, hx, rfl⟩)
    exact hw.isInitialized_not_mem (hinit ▸ hmem)
  · subst hkind
    exact Trace.UberUpgrade.refused hnone h

end ReducedDowntime
