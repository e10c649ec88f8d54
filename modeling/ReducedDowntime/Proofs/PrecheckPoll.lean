import ReducedDowntime.Proofs.Stages

/-!
# The pre-check poll: its calls and its sleeps

`Flow.Spec.precheckRun` gives the calls of a pre-check as its trace shows them
(`Trace.Checked`): one start call with the document, and then the task's state read until the
wait reference `Precheck.awaitAnswers` ends. Two facts about the same run complete it:

* the wait reads at most one answer per check it has (`length_le_of_follows`), so a pre-check
  makes at most as many task calls as its budget has checks;
* the wait sleeps the budget's delay once after each task it reads that is still going, and at
  no other time (`awaitResult_sleeps`, `precheckRun_sleeps`).

The sleeps are counted over the exchanges of the run, and a run's calls are fixed by the worlds
it went between (`Moved.calls_unique`), so the three facts speak of the same calls
(`prechecks_poll_task`).
-/

namespace ReducedDowntime

open ReducedDowntime.Flow

/-! ## The calls of a run -/

/-- The calls a run made, and the prompts it showed, are those its worlds record. -/
theorem Moved.calls_unique {w w' : World} {cs cs' : List LifecycleCall}
    {ds ds' : List ApplianceCall} {ps ps' : List (Nat × PromptAnswer)} (h : Moved w w' cs ds ps)
    (h' : Moved w w' cs' ds' ps') : cs = cs' ∧ ds = ds' ∧ ps = ps' := by
  refine ⟨List.append_cancel_left (h.lifecycleCalls.symm.trans h'.lifecycleCalls),
    List.append_cancel_left (h.applianceCalls.symm.trans h'.applianceCalls), ?_⟩
  -- the prompts are recorded placed after the same count of earlier calls
  have hshift := List.append_cancel_left (h.prompts.symm.trans h'.prompts)
  refine (List.map_inj_right fun p q hpq => ?_).mp hshift
  simp only [Prod.mk.injEq, Nat.add_left_cancel_iff] at hpq
  exact Prod.ext hpq.1 hpq.2

/-- Steps that call no service after a run leave its calls as they were. -/
theorem Moved.same_right {w w₁ w₂ : World} {cs : List LifecycleCall} {ds : List ApplianceCall}
    {ps : List (Nat × PromptAnswer)} (h : Moved w w₁ cs ds ps) (h' : SameCalls w₁ w₂) :
    Moved w w₂ cs ds ps := by
  simpa using h.trans (Moved.of_same h')

/-- One call, then a run that calls the manager only. -/
theorem Moved.cons {w w₁ w' : World} {c : LifecycleCall} {cs : List LifecycleCall}
    (h : Moved w w₁ [c] [] []) (h' : Moved w₁ w' cs [] []) : Moved w w' (c :: cs) [] [] := by
  simpa using h.trans h'

/-- A call the manager takes moves the world by that call. -/
theorem moved_call (call : LifecycleCall) (w : World) :
    Moved w { w with lifecycle := (w.lifecycle.answer call).2,
                     lifecycleCalls := w.lifecycleCalls.push call } [call] [] [] :=
  ⟨by simp, rfl, by simp, rfl, by simp⟩

/-! ## Tasks still going -/

/-- Whether the wait goes on after a verdict. -/
def TaskVerdict.isWait : TaskVerdict → Bool
  | .wait => true
  | _ => false

/-- Whether an exchange read the state of a task that is still going, after which the wait
sleeps. -/
def readsPendingTask : LifecycleExchange → Bool
  | (_, .ok (.taskInfo t)) => t.verdict.isWait
  | _ => false

/-! ## The wait -/

namespace Precheck

/-- The wait reads at most one answer per check it has. -/
theorem length_le_of_follows {b : Budget} {left : Nat} {as : List (Except UpgradeError TaskInfo)}
    {r : Except Failure CheckResult} (h : Trace.Follows (awaitAnswers b left as) r) :
    as.length ≤ left := by
  induction left generalizing as with
  | zero =>
    simp only [awaitAnswers, Trace.Follows] at h
    simp [h.1]
  | succ left ih =>
    rcases as with _ | ⟨a, as⟩
    · exact Nat.zero_le _
    cases a with
    | error e =>
      simp only [awaitAnswers, Trace.Follows] at h
      simp [h.1]
    | ok t =>
      -- a result or its absence ends the wait; a task still going leaves one check fewer
      rcases hv : t.verdict with res | _ | _ <;> simp only [awaitAnswers, hv, Trace.Follows] at h
      · simp [h.1]
      · simp [h.1]
      · exact Nat.succ_le_succ (ih h)

/-- The wait sleeps the budget's delay once after each task it reads that is still going. -/
theorem awaitResult_sleeps (task : String) (b : Budget) (left : Nat) (w : World) :
    ∃ cs, Moved w ((awaitResult task b left).run w).2 cs [] [] ∧
      ((awaitResult task b left).run w).2.slept =
        w.slept + (w.lifecycle.exchanges cs).countP readsPendingTask * b.delay.toNanos := by
  induction left generalizing w with
  | zero => exact ⟨[], Moved.of_same ⟨rfl, rfl, rfl, rfl, rfl⟩, by simp; rfl⟩
  | succ left ih =>
    by_cases hlim : overLimit w.lifecycle.callLimit w.lifecycleCalls.size
    · -- a refused call ends the wait with no call
      simp only [awaitResult, run_bind, Lifecycle.taskInfo, run_askLifecycle, hlim, if_true]
      exact ⟨[], Moved.refl w, by simp⟩
    have hmoved := moved_call (.taskInfo task) w
    rcases ha : w.lifecycle.taskInfo.next.1 with e | t <;>
      simp only [awaitResult, run_bind, Lifecycle.taskInfo, run_askLifecycle, hlim,
        Bool.false_eq_true, if_false, ha, mapError_error, mapError_ok]
    · -- a failed call ends the wait
      exact ⟨_, hmoved, by simp [LifecycleService.answer, ha, readsPendingTask]⟩
    -- the wait reads the task's state as the verdict does
    cases hs : t.status <;> simp only [run_bind, run_emit, run_sleep, run_pure]
    case failed =>
      cases hr : t.result <;> simp only [run_bind, run_emit, run_pure, run_fail]
      all_goals exact ⟨_, hmoved.same_right (by exact ⟨rfl, rfl, rfl, rfl, rfl⟩), by
        simp [LifecycleService.answer, ha, readsPendingTask, TaskInfo.verdict, hs, hr,
          TaskVerdict.isWait]⟩
    case succeeded =>
      exact ⟨_, hmoved.same_right (by exact ⟨rfl, rfl, rfl, rfl, rfl⟩), by
        simp [LifecycleService.answer, ha, readsPendingTask, TaskInfo.verdict, hs,
          TaskVerdict.isWait]⟩
    all_goals
      obtain ⟨cs, hcs, hslept⟩ := ih _
      refine ⟨_, Moved.cons (hmoved.same_right (by exact ⟨rfl, rfl, rfl, rfl, rfl⟩)) hcs, ?_⟩
      rw [hslept]
      simp only [LifecycleService.exchanges, Conversation.exchanges_cons, List.countP_cons,
        LifecycleService.answer, ha, map_ok, readsPendingTask, TaskInfo.verdict, hs,
        TaskVerdict.isWait, if_true, Nat.add_mul, Nat.one_mul]
      omega

/-- A pre-check sleeps the budget's delay once after each task it reads that is still going:
the start call is no such read. -/
theorem precheckRun_sleeps (doc : Option InitDocument) (b : Budget) (w : World) :
    ∃ cs, Moved w ((run doc b).run w).2 cs [] [] ∧
      ((run doc b).run w).2.slept =
        w.slept + (w.lifecycle.exchanges cs).countP readsPendingTask * b.delay.toNanos := by
  by_cases hlim : overLimit w.lifecycle.callLimit w.lifecycleCalls.size
  · -- a refused start call ends the pre-check with no call
    simp only [run, run_bind, run_emit, Lifecycle.startCheck, run_askLifecycle, hlim, if_true]
    exact ⟨[], Moved.of_same ⟨rfl, rfl, rfl, rfl, rfl⟩, by simp⟩
  have hmoved := moved_call (.startCheck doc) w
  rcases ha : w.lifecycle.startCheck.next.1 with e | task <;>
    simp only [run, run_bind, run_emit, Lifecycle.startCheck, run_askLifecycle, hlim,
      Bool.false_eq_true, if_false, ha, mapError_error, mapError_ok]
  · -- a failed start call ends the pre-check
    exact ⟨_, hmoved.same_right (by exact ⟨rfl, rfl, rfl, rfl, rfl⟩), by
      simp [LifecycleService.answer, ha, readsPendingTask]⟩
  · obtain ⟨cs, hcs, hslept⟩ := awaitResult_sleeps task b b.retries.toNat _
    refine ⟨_, Moved.cons (hmoved.same_right (by exact ⟨rfl, rfl, rfl, rfl, rfl⟩)) hcs, ?_⟩
    rw [hslept]
    simp only [LifecycleService.exchanges, Conversation.exchanges_cons, List.countP_cons,
      LifecycleService.answer, ha, map_ok, readsPendingTask, Bool.false_eq_true, if_false,
      Nat.add_zero]

end Precheck

/-- **The pre-check poll.** A pre-check against `doc` within the budget `b` calls the manager
only, as `Trace.Checked` says: the start call once with `doc`; its failure returned unchanged
with no further call; otherwise the state of the task it names read until the first succeeded
task (its result, or an empty one), the first failed task (its result, or the error that there
is none), the first failed call (its error unchanged, a connection error too) or, after `b`'s
checks of tasks still going, the timeout of `b`. It makes at most one task call per check of
the budget, and it sleeps `b`'s delay once after each task it read that is still going, and at
no other time. -/
theorem prechecks_poll_task (doc : Option InitDocument) (b : Budget) (w : World) :
    ∃ cs, Moved w ((Precheck.run doc b).run w).2 cs [] [] ∧
      Trace.Checked doc b ((Precheck.run doc b).run w).1
        (w.traceTo ((Precheck.run doc b).run w).2 cs [] []) ∧
      cs.length ≤ b.retries.toNat + 1 ∧
      ((Precheck.run doc b).run w).2.slept =
        w.slept + (w.lifecycle.exchanges cs).countP readsPendingTask * b.delay.toNanos := by
  obtain ⟨cs, ds, ps, hm, hchecked⟩ := Flow.Spec.precheckRun doc b w
  obtain ⟨cs', hm', hslept⟩ := Precheck.precheckRun_sleeps doc b w
  -- both facts speak of the calls the run made
  obtain ⟨rfl, rfl, rfl⟩ := hm.calls_unique hm'
  refine ⟨cs, hm, hchecked, ?_, hslept⟩
  have hlength : (w.lifecycle.exchanges cs).length = cs.length := Conversation.length_exchanges _ _ _
  obtain ⟨-, -, ⟨hl, -⟩ | ⟨e, hl, -⟩ | ⟨task, as, hl, hfollows⟩⟩ := hchecked
  all_goals simp only [World.traceTo] at hl
  · simp [← hlength, hl]
  · simp [← hlength, hl]
  · have has := Precheck.length_le_of_follows hfollows
    simp only [← hlength, hl, List.length_cons, taskExchanges, List.length_map]
    omega

end ReducedDowntime
