import ReducedDowntime.Proofs.Monitor
import ReducedDowntime.Proofs.Extension

/-!
# How long the monitor waits, and what automatic cancellation changes

The monitor sleeps in two places: after each connection error while it fetches a status, for
the reconnect delay, and after each round whose status it waits out, for the budget's delay.
This module counts both over the status answers a run reads, and compares the runs with and
without automatic cancellation.

* `waits` counts the statuses among the answers that the verdict waits out, and `reconnects`
  the connection errors. A run sleeps `waits · delay + reconnects · reconnect delay`
  (`run_sleeps`): a fetch sleeps once per connection error it reads, the last one before a
  connectivity failure included (`fetchFrom_sleeps`), and a round sleeps its delay once when
  it waits a status out, on the automatic-cancellation path as on any other
  (`watch_succ_slept`). A run waits out at most its rounds, and all of them exactly when it
  times out by running out of rounds.
* Automatic cancellation changes only what a round does on a failed upgrade that is not a failed
  cancellation: on any other status a round runs alike with and without it
  (`watch_succ_flags`). So the runs with and without it are one run
  up to the first such status, and the run without it then ends with the upgrade failed
  (`run_autocancel_agrees`). A run without automatic cancellation that does not end so is the
  run with it, world and all.
-/

namespace ReducedDowntime.Monitor

open ReducedDowntime.Flow

/-! ## Counting what a run waits out -/

/-- Whether an answer is a connection error, which a fetch waits out. -/
def isReconnect : Except UpgradeError UpgradeStatus → Bool
  | .error e => e.isConnection
  | .ok _ => false

/-- The statuses among answers. -/
def statuses (as : Answers) : List UpgradeStatus := as.filterMap Except.toOption

/-- The statuses among `as` whose verdict is to wait. -/
def waits (autocancel : Bool) (as : Answers) : Nat :=
  (statuses as).countP fun s => (verdict autocancel s).isWait

/-- The connection errors among `as`. -/
def reconnects (as : Answers) : Nat := as.countP isReconnect

/-- What a fetch gives, as a list of statuses: one when it gives a status, none when it fails. -/
def fetched : Except Failure UpgradeStatus → List UpgradeStatus
  | .ok s => [s]
  | .error _ => []

@[simp] theorem statuses_nil : statuses [] = [] := rfl

@[simp] theorem statuses_cons_ok (s : UpgradeStatus) (as : Answers) :
    statuses (.ok s :: as) = s :: statuses as := rfl

@[simp] theorem statuses_cons_error (e : UpgradeError) (as : Answers) :
    statuses (.error e :: as) = statuses as := rfl

theorem waits_append (autocancel : Bool) (as bs : Answers) :
    waits autocancel (as ++ bs) = waits autocancel as + waits autocancel bs := by
  simp only [waits, statuses, List.filterMap_append, List.countP_append]

theorem reconnects_append (as bs : Answers) : reconnects (as ++ bs) = reconnects as + reconnects bs :=
  List.countP_append

@[simp] theorem waits_nil (autocancel : Bool) : waits autocancel [] = 0 := rfl

@[simp] theorem reconnects_nil : reconnects [] = 0 := rfl

/-- A fetch that reads no answer sleeps nothing. -/
theorem fetch_slept_of_upcoming_zero {w w' : World} (reconnect : Nat) (h : w'.slept = w.slept) :
    w'.slept = w.slept + reconnects (w.lifecycle.status.upcoming 0) * reconnect := by
  simp [h]

/-- A run that reads no answer sleeps nothing, whatever the delays. -/
theorem slept_of_upcoming_zero {w w' : World} (autocancel : Bool) (wait reconnect : Nat)
    (h : w'.slept = w.slept) :
    w'.slept = w.slept + waits autocancel (w.lifecycle.status.upcoming 0) * wait +
      reconnects (w.lifecycle.status.upcoming 0) * reconnect := by
  simp [h]

/-! ## Sleeps of a fetch -/

/-- What a fetch from `w` to `w'` with result `r` did over the `n` status answers it read: it
read at most one status, the one it gives; it fails with an upgrade error only after a
connectivity failure or by reading that error; and it slept one reconnect delay per
connection error among the answers. -/
structure FetchRead (reconnect : Budget) (w w' : World) (n : Nat)
    (r : Except Failure UpgradeStatus) : Prop extends StatusCalls w w' n where
  reads : statuses (w.lifecycle.status.upcoming n) = fetched r
  failure : ∀ e, r = .error (Failure.ofError e) →
    e = .connectivity "upgrade status" reconnect.retries.toNat ∨
      .error e ∈ w.lifecycle.status.upcoming n
  slept : w'.slept = w.slept + reconnects (w.lifecycle.status.upcoming n) * reconnect.delay.toNanos

/-- A halt is no upgrade error. -/
theorem halted_ne_ofError (text : String) (e : UpgradeError) :
    Failure.halted text ≠ Failure.ofError e := by
  simp [Failure.halted, Failure.ofError]

/-- A fetch reads at most one status, the one it gives, fails only as its answers say, and
sleeps one reconnect delay for each connection error it reads. -/
theorem fetchFrom_sleeps (reconnect : Budget) (attempt left : Nat) (w : World) :
    ∃ n, FetchRead reconnect w ((fetchFrom reconnect attempt left).run w).2 n
      ((fetchFrom reconnect attempt left).run w).1 := by
  induction left generalizing attempt w with
  | zero =>
    refine ⟨0, ⟨.quiet ⟨rfl, rfl, rfl, rfl, rfl⟩, rfl, fun e he => .inl ?_,
      fetch_slept_of_upcoming_zero _ rfl⟩⟩
    cases he
    rfl
  | succ left ih =>
    by_cases hlim : overLimit w.lifecycle.callLimit w.lifecycleCalls.size
    · -- a refused call halts the fetch
      refine ⟨0, ?_⟩
      simp only [fetchFrom, run_bind, run_tryCatch, run_map, Lifecycle.status, run_askLifecycle,
        hlim, if_true]
      refine ⟨.quiet ⟨rfl, rfl, rfl, rfl, rfl⟩, rfl, fun e he => ?_, fetch_slept_of_upcoming_zero _ rfl⟩
      exact absurd (Except.error.inj he) (halted_ne_ofError _ e)
    · have hcalls := statusCalls_push w
      obtain ⟨a, ha⟩ : ∃ a, w.lifecycle.status.next.1 = a := ⟨_, rfl⟩
      have hread : ∀ n, w.lifecycle.status.upcoming (1 + n) = a :: w.lifecycle.status.next.2.upcoming n :=
        fun n => by rw [Nat.add_comm, Script.upcoming_succ, ha]
      simp only [fetchFrom, run_bind, run_tryCatch, run_map, run_status, hlim,
        Bool.false_eq_true, if_false, ha] at hcalls ⊢
      cases a with
      | ok s =>
        refine ⟨1, hcalls, ?_, fun e he => (by cases he), ?_⟩ <;>
          simp [hread 0, reconnects, isReconnect, fetched]
      | error e =>
        by_cases hc : e.isConnection
        · -- the connection error is waited out, and the fetch goes on from the next answer
          simp only [mapError_error, run_pure, error?_ofError, hc, if_true, run_bind, run_emit,
            run_sleep]
          obtain ⟨n, hn⟩ := ih (attempt + 1) _
          refine ⟨1 + n, StatusCalls.trans ?_ hn.toStatusCalls, ?_, fun e' he' => ?_, ?_⟩
          · exact hcalls.append_quiet ⟨rfl, rfl, rfl, rfl, rfl⟩
          · rw [hread, statuses_cons_error]
            exact hn.reads
          · rw [hread, List.mem_cons]
            exact (hn.failure e' he').imp_right .inr
          · rw [hn.slept, hread]
            simp only [reconnects, List.countP_cons, isReconnect, hc, if_true]
            rw [Nat.add_mul]
            omega
        · simp only [mapError_error, run_pure, error?_ofError, hc, Bool.false_eq_true, if_false,
            run_throw]
          refine ⟨1, hcalls, ?_, fun e' he' => .inr ?_, ?_⟩
          · simp [hread 0, fetched]
          · cases he'
            simp [hread 0]
          · simp [hread 0, reconnects, isReconnect, hc]

theorem fetchStatus_sleeps (reconnect : Budget) (w : World) :
    ∃ n, FetchRead reconnect w ((fetchStatus reconnect).run w).2 n ((fetchStatus reconnect).run w).1 :=
  fetchFrom_sleeps reconnect 1 reconnect.retries.toNat w

/-! ## Sleeps of the rounds -/

section Rounds

variable (settings : MonitorSettings) (budget : Budget) (autocancel : Bool) (left : Nat)

/-- A failing verdict is a failed cancellation or a failed upgrade. -/
theorem verdict_fail {s : UpgradeStatus} {e : UpgradeError} (h : verdict autocancel s = .fail e) :
    (∃ m, e = .cancellationFailed m) ∨ ∃ m, e = .upgradeFailed m := by
  unfold verdict at h
  split at h <;> try cases h
  split at h
  · cases h
    exact .inl ⟨_, rfl⟩
  · split at h
    · cases h
    · cases h
      exact .inr ⟨_, rfl⟩

/-- How a run of the round loop with `left` rounds went from `w` to `w'` with result `r`, over the
`n` status answers it read: it slept one delay per status it waited out and one reconnect delay
per connection error; it waited out at most its rounds; and it waited out all of them exactly
when it timed out by running out of rounds. -/
structure RoundsSlept (w w' : World) (n : Nat) (r : Except Failure MonitorOutcome) : Prop
    extends StatusCalls w w' n where
  slept : w'.slept = w.slept + waits autocancel (w.lifecycle.status.upcoming n) * budget.delay.toNanos +
    reconnects (w.lifecycle.status.upcoming n) * settings.reconnect.delay.toNanos
  bounded : waits autocancel (w.lifecycle.status.upcoming n) ≤ left
  timedOut : waits autocancel (w.lifecycle.status.upcoming n) = left →
    r = .error (Failure.ofError (budget.timeout "upgrade"))
  waitedOut : r = .error (Failure.ofError (budget.timeout "upgrade")) →
    .error (budget.timeout "upgrade") ∉ w.lifecycle.status.upcoming n →
    waits autocancel (w.lifecycle.status.upcoming n) = left

/-- A round that ends the loop after its fetch read `n` answers, none of them a status to wait
out: its sleeps are the fetch's, and it did not time out by itself. -/
theorem RoundsSlept.of_ended {w w₁ w' : World} {n : Nat} {r : Except Failure MonitorOutcome}
    (hfetch : StatusCalls w w₁ n) (hsame : SameCalls w₁ w') (hslept : w'.slept = w₁.slept)
    (hslept₁ : w₁.slept = w.slept + reconnects (w.lifecycle.status.upcoming n) * settings.reconnect.delay.toNanos)
    (hwaits : waits autocancel (w.lifecycle.status.upcoming n) = 0)
    (hnot : r = .error (Failure.ofError (budget.timeout "upgrade")) →
      .error (budget.timeout "upgrade") ∈ w.lifecycle.status.upcoming n) :
    RoundsSlept settings budget autocancel (left + 1) w w' n r where
  toStatusCalls := hfetch.append_quiet hsame
  slept := by rw [hslept, hslept₁, hwaits]; omega
  bounded := by omega
  timedOut h := absurd h (by omega)
  waitedOut h hnone := absurd (hnot h) hnone

/-- The round loop sleeps one delay per round it waits out and one reconnect delay per
connection error it reads; it waits out at most its rounds, and all of them exactly when it
times out by itself. -/
theorem watch_sleeps (w : World) :
    ∃ n, RoundsSlept settings budget autocancel left w ((watch settings budget autocancel left).run w).2 n
      ((watch settings budget autocancel left).run w).1 := by
  induction left generalizing w with
  | zero =>
    exact ⟨0, .quiet ⟨rfl, rfl, rfl, rfl, rfl⟩, slept_of_upcoming_zero _ _ _ rfl, Nat.le_refl _,
      fun _ => rfl, fun _ _ => rfl⟩
  | succ left ih =>
    obtain ⟨n₁, hfetch⟩ := fetchStatus_sleeps settings.reconnect w
    rcases hrun : (fetchStatus settings.reconnect).run w with ⟨r₁, w₁⟩
    rw [hrun] at hfetch
    cases r₁ with
    | error f =>
      -- the round ends with the fetch's failure, having waited out no status
      refine ⟨n₁, ?_⟩
      simp only [watch, run_bind, hrun]
      refine .of_ended settings budget autocancel left hfetch.toStatusCalls ⟨rfl, rfl, rfl, rfl, rfl⟩ rfl
        hfetch.slept (by rw [waits, hfetch.reads]; rfl) fun h => ?_
      -- a fetch fails with the timeout only by reading it
      cases Except.error.inj h
      rcases hfetch.failure _ rfl with hconn | hmem
      · cases hconn
      · exact hmem
    | ok s =>
      obtain ⟨w₂, hround, hsame, hslept₂⟩ := watch_succ_slept settings budget autocancel left hrun
      have hwaits : waits autocancel (w.lifecycle.status.upcoming n₁) =
          if (verdict autocancel s).isWait then 1 else 0 := by
        rw [waits, hfetch.reads]
        simp [fetched, List.countP_cons]
      rw [hround]
      rcases hv : verdict autocancel s with o | e | _ <;>
        simp only [hv, Verdict.isWait, Bool.false_eq_true, if_false, if_true] at hwaits hslept₂
      · exact ⟨n₁, .of_ended settings budget autocancel left hfetch.toStatusCalls hsame hslept₂
          hfetch.slept hwaits fun h => by cases h⟩
      · refine ⟨n₁, .of_ended settings budget autocancel left hfetch.toStatusCalls hsame hslept₂
          hfetch.slept hwaits fun h => ?_⟩
        -- a failing verdict is no timeout
        cases h
        rcases verdict_fail autocancel hv with ⟨m, hm⟩ | ⟨m, hm⟩ <;> cases hm
      · -- the status is waited out: the rest of the loop reads on from where the fetch stopped
        obtain ⟨n₂, hrest⟩ := ih w₂
        have hcalls : StatusCalls w w₂ n₁ := hfetch.append_quiet hsame
        have hread : w.lifecycle.status.upcoming (n₁ + n₂) =
            w.lifecycle.status.upcoming n₁ ++ w₂.lifecycle.status.upcoming n₂ := by
          rw [Script.upcoming_add, hcalls.status]
        refine ⟨n₁ + n₂, hcalls.trans hrest.toStatusCalls, ?_, ?_, fun h => hrest.timedOut ?_,
          fun h hnone => ?_⟩
        · rw [hrest.slept, hslept₂, hfetch.slept, hread, waits_append, reconnects_append, hwaits,
            Nat.add_mul, Nat.add_mul, Nat.one_mul]
          omega
        · have := hrest.bounded
          rw [hread, waits_append, hwaits]
          omega
        · rw [hread, waits_append, hwaits] at h
          omega
        · rw [hread, List.mem_append, not_or] at hnone
          have := hrest.waitedOut h hnone.2
          rw [hread, waits_append, hwaits]
          omega

end Rounds

/-! ## The monitor's sleeps -/

/-- Fixing the budget sleeps nothing. -/
theorem budgetFor_slept (settings : MonitorSettings) (doc : ApplyDocument) (w : World) :
    ((budgetFor settings doc).run w).2.slept = w.slept := by
  unfold budgetFor
  rcases doc.startSwitchover with _ | start
  · rfl
  · simp only [run_bind, run_readClock]
    rcases settings.budget.extendUntil start w.clock with o | b
    · rfl
    · by_cases hb : (b != settings.budget) = true
      · simp only [hb, if_true, run_bind, run_emit, run_pure]
      · simp only [hb, Bool.false_eq_true, if_false, run_pure]

/-- The rounds of a monitor keep the configured delay. -/
theorem rounds_delay {settings : MonitorSettings} {doc : ApplyDocument} {now : Time.Instant}
    {b : Budget} (h : rounds settings doc now = .ok b) : b.delay = settings.budget.delay := by
  unfold rounds at h
  rcases hs : doc.startSwitchover with _ | start <;> rw [hs] at h
  · cases h
    rfl
  · exact (Budget.extendUntil_keeps h).1

/-- **The monitor sleeps what it waits out.** A monitor that made `n` status calls slept the
budget's delay once for each round that fetched a status it waits out (a running or not yet
started upgrade, or a failed one under automatic cancellation that is not a failed
cancellation) and the reconnect delay once for each connection error among their answers, the
last one before a connectivity failure included. It waits out at most its rounds, and all of
them exactly when it times out by running out of rounds (rather than by reading that timeout
as an answer): a timeout has slept every round's delay and the reconnect waits. -/
theorem run_sleeps (settings : MonitorSettings) (autocancel : Bool) (doc : ApplyDocument)
    (w : World) :
    ∃ n, StatusCalls w ((Monitor.run settings autocancel doc).run w).2 n ∧
      ((Monitor.run settings autocancel doc).run w).2.slept = w.slept +
        waits autocancel (w.lifecycle.status.upcoming n) * settings.budget.delay.toNanos +
        reconnects (w.lifecycle.status.upcoming n) * settings.reconnect.delay.toNanos ∧
      ∀ b, rounds settings doc w.clock = .ok b →
        waits autocancel (w.lifecycle.status.upcoming n) ≤ b.retries.toNat ∧
        (waits autocancel (w.lifecycle.status.upcoming n) = b.retries.toNat →
          ((Monitor.run settings autocancel doc).run w).1 =
            .error (Failure.ofError (b.timeout "upgrade"))) ∧
        (((Monitor.run settings autocancel doc).run w).1 =
            .error (Failure.ofError (b.timeout "upgrade")) →
          .error (b.timeout "upgrade") ∉ w.lifecycle.status.upcoming n →
          waits autocancel (w.lifecycle.status.upcoming n) = b.retries.toNat) := by
  obtain ⟨w₁, hb, hsame⟩ := budgetFor_run settings doc w
  have hslept₁ : w₁.slept = w.slept := by
    rw [← budgetFor_slept settings doc w, hb]
  simp only [Monitor.run, run_bind, hb]
  rcases hr : rounds settings doc w.clock with o | b
  · -- an overflowing extension halts before any call
    simp only [mapError_error]
    refine ⟨0, .quiet hsame, slept_of_upcoming_zero _ _ _ hslept₁, fun b hb' => ?_⟩
    cases hb'
  · simp only [mapError_ok]
    obtain ⟨n, hrounds⟩ := watch_sleeps settings b autocancel b.retries.toNat w₁
    have hslept := hrounds.slept
    rw [hsame.lifecycle, hslept₁, rounds_delay hr] at hslept
    refine ⟨n, by simpa using (StatusCalls.quiet hsame).trans hrounds.toStatusCalls, hslept, ?_⟩
    rintro b' hb'
    cases hb'
    rw [← hsame.lifecycle]
    exact ⟨hrounds.bounded, hrounds.timedOut, hrounds.waitedOut⟩

/-! ## Automatic cancellation -/

/-- A failed upgrade that is not a failed cancellation: the one kind of status whose verdict
depends on automatic cancellation. -/
def FailedUpgrade (s : UpgradeStatus) : Prop :=
  s.phase = .failed ∧ s.desiredState ≠ some .canceled

/-- Without automatic cancellation a failed upgrade fails the monitor. -/
theorem verdict_false_of_failedUpgrade {s : UpgradeStatus} (h : FailedUpgrade s) :
    verdict false s = .fail (.upgradeFailed (Report.messageLines s.errorMessages 0)) := by
  obtain ⟨hp, hd⟩ := h
  simp only [verdict, hp, hd, if_false, Bool.false_eq_true]

section Autocancel

variable (settings : MonitorSettings) (budget : Budget) (left : Nat)

/-- A round whose status is not a failed upgrade runs alike with and without automatic
cancellation: both end the same, or both go on to the next round from the same world. -/
theorem watch_succ_flags {w w₁ : World} {s : UpgradeStatus}
    (h : (fetchStatus settings.reconnect).run w = (.ok s, w₁)) (hs : ¬ FailedUpgrade s) :
    (watch settings budget true (left + 1)).run w = (watch settings budget false (left + 1)).run w ∨
      ∃ w₂, ∀ autocancel, (watch settings budget autocancel (left + 1)).run w =
        (watch settings budget autocancel left).run w₂ := by
  simp only [watch, run_bind, h]
  cases hp : s.phase
  case failed =>
    have hd : s.desiredState = some .canceled := Classical.byContradiction fun hd => hs ⟨hp, hd⟩
    exact .inl (by simp only [hd, beq_self_eq_true, if_true])
  case running | notInitialized =>
    exact .inr ⟨_, fun autocancel => (by simp only [run_bind, run_emit, run_sleep]; rfl)⟩
  all_goals exact .inl rfl

/-- The round loops with and without automatic cancellation are one run, or they are one run up
to the start of a round that fetches a failed upgrade. -/
theorem watch_autocancel (w : World) :
    (watch settings budget true left).run w = (watch settings budget false left).run w ∨
      ∃ m w₀ w₁ s, m < left ∧ FailedUpgrade s ∧
        (fetchStatus settings.reconnect).run w₀ = (.ok s, w₁) ∧
        ∀ autocancel, (watch settings budget autocancel left).run w =
          (watch settings budget autocancel (m + 1)).run w₀ := by
  induction left generalizing w with
  | zero => exact .inl rfl
  | succ left ih =>
    rcases hrun : (fetchStatus settings.reconnect).run w with ⟨r, w₁⟩
    cases r with
    | error f => exact .inl (by simp only [watch, run_bind, hrun])
    | ok s =>
      by_cases hs : FailedUpgrade s
      · exact .inr ⟨left, w, w₁, s, Nat.lt_succ_self left, hs, hrun, fun _ => rfl⟩
      · -- the round runs alike; the rest of the loop is compared from the next round on
        rcases watch_succ_flags settings budget left hrun hs with heq | ⟨w₂, hw₂⟩
        · exact .inl heq
        rcases ih w₂ with heq | ⟨m, w₀, w₁', s', hm, hs', hf, hall⟩
        · exact .inl (by rw [hw₂, hw₂, heq])
        · exact .inr ⟨m, w₀, w₁', s', Nat.lt_succ_of_lt hm, hs', hf,
            fun autocancel => (hw₂ autocancel).trans (hall autocancel)⟩

/-- A round without automatic cancellation that fetches a failed upgrade fails the monitor. -/
theorem watch_false_of_failedUpgrade {w₀ w₁ : World} {s : UpgradeStatus}
    (h : (fetchStatus settings.reconnect).run w₀ = (.ok s, w₁)) (hs : FailedUpgrade s) :
    ((watch settings budget false (left + 1)).run w₀).1 =
      .error (Failure.ofError (.upgradeFailed (Report.messageLines s.errorMessages 0))) := by
  obtain ⟨w₂, hround, -, -⟩ := watch_succ_slept settings budget false left h
  rw [hround, verdict_false_of_failedUpgrade hs]

end Autocancel

/-- **Automatic cancellation changes only what follows a failed upgrade.** The monitors with
and without automatic cancellation are the same run, result and world alike; or they are the
same run up to the start of a round that fetches a failed upgrade which is not a failed
cancellation (both fetch it alike), and there the monitor without automatic cancellation fails
with the upgrade failed. So a monitor without automatic cancellation that does not end with a
failed upgrade makes the same calls, sleeps and result as the one with it. -/
theorem run_autocancel_agrees (settings : MonitorSettings) (doc : ApplyDocument) (w : World) :
    (Monitor.run settings true doc).run w = (Monitor.run settings false doc).run w ∨
      ∃ b m w₀ w₁ s, rounds settings doc w.clock = .ok b ∧ FailedUpgrade s ∧
        (fetchStatus settings.reconnect).run w₀ = (.ok s, w₁) ∧
        (∀ autocancel, (Monitor.run settings autocancel doc).run w =
          (watch settings b autocancel (m + 1)).run w₀) ∧
        ((Monitor.run settings false doc).run w).1 =
          .error (Failure.ofError (.upgradeFailed (Report.messageLines s.errorMessages 0))) := by
  obtain ⟨w₁, hb, -⟩ := budgetFor_run settings doc w
  simp only [Monitor.run, run_bind, hb]
  rcases hr : rounds settings doc w.clock with o | b
  · exact .inl rfl
  · rcases watch_autocancel settings b b.retries.toNat w₁ with heq | ⟨m, w₀, w₁', s, -, hs, hf, hall⟩
    · exact .inl heq
    · refine .inr ⟨b, m, w₀, w₁', s, rfl, hs, hf, hall, ?_⟩
      simp only [mapError_ok, hall false]
      exact watch_false_of_failedUpgrade settings b m hf hs

end ReducedDowntime.Monitor
