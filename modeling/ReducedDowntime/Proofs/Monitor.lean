import ReducedDowntime.Proofs.Exchange

/-!
# The monitor polls until a terminal state

The specification of the monitor is the poll-until-terminal rule: read status answers in
order, round after round, until one ends the poll. `Monitor.poll` states the rule over a
plain list of answers, with no world, log or clock:

* `rounds`: the monitor polls for the configured budget, extended to the scheduled
  switchover when the apply document has one;
* `fetchAnswer`: a round reads answers until one is a status or an error other than a
  connection error; `limit` connection errors in a row end it with a connectivity failure,
  and the count starts again in every round;
* `verdict`: the phase of a fetched status decides whether the poll ends, fails or goes on;
* when the rounds run out, the poll has timed out.

The reference answers `none` when the answers run out before the poll ends.

## The proof

1. On a manager that answers every call, one status call reads the script's next answer.
2. `fetchFrom_reads`: the reconnect loop reads what `fetchAnswer` reads, by induction on the
   attempts left.
3. `watch_reads`: the round loop reads what `poll` reads, by induction on the rounds left;
   a round that goes on is joined to the rest by `fetchAnswer_append`.
4. `run_follows_poll`: the monitor as a whole, after its budget is fixed.
-/

namespace ReducedDowntime.Monitor

open ReducedDowntime.Flow

/-! ## The reference -/

/-- The rounds of a monitor of an apply document at `now`: the configured budget, extended to
the scheduled switchover when there is one. -/
def rounds (settings : MonitorSettings) (doc : ApplyDocument) (now : Time.Instant) :
    Except Budget.Overflow Budget :=
  match doc.startSwitchover with
  | none => .ok settings.budget
  | some start => settings.budget.extendUntil start now

/-- What a fetched status means for the poll. -/
inductive Verdict where
  | finish (o : MonitorOutcome)
  | fail (e : UpgradeError)
  | wait

/-- The verdict on a fetched status: its phase decides, and a failed cancellation is told from
a failed upgrade by the desired state. -/
def verdict (autocancel : Bool) (s : UpgradeStatus) : Verdict :=
  match s.phase with
  | .upgraded => .finish .upgraded
  | .canceled => .finish .canceled
  | .pausedBeforeSwitchover => .finish .pausedBeforeSwitchover
  | .failed =>
    if s.desiredState = some .canceled then
      .fail (.cancellationFailed (Report.messageLines s.errorMessages 0))
    else if autocancel then .wait
    else .fail (.upgradeFailed (Report.messageLines s.errorMessages 0))
  | .running => .wait
  | .notInitialized => .wait

/-- Whether the poll waits a verdict out. -/
def Verdict.isWait : Verdict → Bool
  | .wait => true
  | _ => false

/-- Answers of the status endpoint, in the order they are given. -/
abbrev Answers := List (Except UpgradeError UpgradeStatus)

/-- One round's fetch with `left` of `limit` attempts: the status or error it ends with, and
the answers it leaves unread. -/
def fetchAnswer (limit : Nat) : Nat → Answers → Option (Except UpgradeError UpgradeStatus × Answers)
  | 0, as => some (.error (.connectivity "upgrade status" limit), as)
  | _ + 1, [] => none
  | _ + 1, .ok s :: as => some (.ok s, as)
  | left + 1, .error e :: as =>
    if e.isConnection then fetchAnswer limit left as else some (.error e, as)

/-- The poll with `left` rounds of budget `b`, each fetch with `limit` attempts: how it ends, and
the answers it leaves unread. -/
def poll (b : Budget) (limit : Nat) (autocancel : Bool) :
    Nat → Answers → Option (Except UpgradeError MonitorOutcome × Answers)
  | 0, as => some (.error (b.timeout "upgrade"), as)
  | left + 1, as =>
    match fetchAnswer limit limit as with
    | none => none
    | some (.error e, rest) => some (.error e, rest)
    | some (.ok s, rest) =>
      match verdict autocancel s with
      | .finish o => some (.ok o, rest)
      | .fail e => some (.error e, rest)
      | .wait => poll b limit autocancel left rest

/-- More answers after the ones a fetch reads are left unread. -/
theorem fetchAnswer_append {limit left : Nat} {as rest : Answers} {r} (bs : Answers)
    (h : fetchAnswer limit left as = some (r, rest)) :
    fetchAnswer limit left (as ++ bs) = some (r, rest ++ bs) := by
  induction left generalizing as with
  | zero =>
    simp only [fetchAnswer, Option.some.injEq, Prod.mk.injEq] at h
    obtain ⟨rfl, rfl⟩ := h
    rfl
  | succ left ih =>
    match as, h with
    | .ok s :: as, h =>
      simp only [fetchAnswer, Option.some.injEq, Prod.mk.injEq] at h
      obtain ⟨rfl, rfl⟩ := h
      rfl
    | .error e :: as, h =>
      by_cases hc : e.isConnection
      · simp only [fetchAnswer, hc, if_true] at h
        simp only [List.cons_append, fetchAnswer, hc, if_true]
        exact ih h
      · simp only [fetchAnswer, hc, Bool.false_eq_true, if_false, Option.some.injEq,
          Prod.mk.injEq] at h
        obtain ⟨rfl, rfl⟩ := h
        simp [fetchAnswer, hc]

/-! ## Status calls -/

section Reads

variable {α : Type} {w w₁ w' : World} {m n : Nat}

/-- A run from `w` to `w'` made `n` status calls and no other call, each answered by the
status script in turn, and showed no prompt. -/
structure StatusCalls (w w' : World) (n : Nat) : Prop where
  calls : w'.lifecycleCalls.toList = w.lifecycleCalls.toList ++ List.replicate n .status
  lifecycle : w'.lifecycle = { w.lifecycle with status := w.lifecycle.status.skip n }
  appliance : w'.appliance = w.appliance
  applianceCalls : w'.applianceCalls = w.applianceCalls
  prompts : w'.prompts = w.prompts

theorem StatusCalls.quiet (h : SameCalls w w') : StatusCalls w w' 0 :=
  ⟨by simp [h.lifecycleCalls], by simp [h.lifecycle], h.appliance, h.applianceCalls, h.prompts⟩

theorem StatusCalls.trans (h₁ : StatusCalls w w₁ m) (h₂ : StatusCalls w₁ w' n) :
    StatusCalls w w' (m + n) where
  calls := by rw [h₂.calls, h₁.calls, List.append_assoc, List.replicate_append_replicate]
  lifecycle := by rw [h₂.lifecycle, h₁.lifecycle, Script.skip_add]
  appliance := h₂.appliance.trans h₁.appliance
  applianceCalls := h₂.applianceCalls.trans h₁.applianceCalls
  prompts := h₂.prompts.trans h₁.prompts

theorem StatusCalls.callLimit (h : StatusCalls w w' n) :
    w'.lifecycle.callLimit = w.lifecycle.callLimit := by
  rw [h.lifecycle]

theorem StatusCalls.size (h : StatusCalls w w' n) :
    w'.lifecycleCalls.size = w.lifecycleCalls.size + n := by
  rw [← Array.length_toList, h.calls]
  simp

theorem StatusCalls.status (h : StatusCalls w w' n) :
    w'.lifecycle.status = w.lifecycle.status.skip n := by
  rw [h.lifecycle]

/-- A status call the manager takes moves the status script on by one answer. -/
theorem statusCalls_push (w : World) :
    StatusCalls w { w with lifecycle := { w.lifecycle with status := w.lifecycle.status.next.2 },
                           lifecycleCalls := w.lifecycleCalls.push .status } 1 :=
  ⟨by simp, rfl, rfl, rfl, rfl⟩

/-- A run from `w` to `w'` with result `r` made `n` status calls, and ended as the reference
`o` says over their answers: with the reference's result once it read them all, or, when the
reference asks for more, halted by a manager that refused the next call. -/
structure ReadsStatus (w w' : World) (n : Nat) (o : Option (Except UpgradeError α × Answers))
    (r : Except Failure α) : Prop extends StatusCalls w w' n where
  ended : match o with
    | some (a, rest) => rest = [] ∧ r = a.mapError Failure.ofError
    | none => overLimit w.lifecycle.callLimit (w.lifecycleCalls.size + n) = true ∧
        r = .error (Failure.halted callLimitText)

theorem ReadsStatus.answered (h : StatusCalls w w' n) (a : Except UpgradeError α) :
    ReadsStatus w w' n (some (a, [])) (a.mapError Failure.ofError) :=
  { toStatusCalls := h, ended := ⟨rfl, rfl⟩ }

theorem ReadsStatus.halted (h : StatusCalls w w' n)
    (hover : overLimit w.lifecycle.callLimit (w.lifecycleCalls.size + n) = true) :
    ReadsStatus (α := α) w w' n none (.error (Failure.halted callLimitText)) :=
  { toStatusCalls := h, ended := ⟨hover, rfl⟩ }

theorem ReadsStatus.refused (h : overLimit w.lifecycle.callLimit w.lifecycleCalls.size = true) :
    ReadsStatus (α := α) w w 0 none (.error (Failure.halted callLimitText)) :=
  .halted (.quiet ⟨rfl, rfl, rfl, rfl, rfl⟩) h

/-- Status calls made before a run that reads the script are read before its answers. -/
theorem ReadsStatus.prepend {o : Option (Except UpgradeError α × Answers)} {r : Except Failure α}
    (h₁ : StatusCalls w w₁ m) (h₂ : ReadsStatus w₁ w' n o r) : ReadsStatus w w' (m + n) o r where
  toStatusCalls := h₁.trans h₂.toStatusCalls
  ended := by
    have hended := h₂.ended
    rw [h₁.callLimit, h₁.size, Nat.add_assoc] at hended
    exact hended

/-- Quiet steps after status calls leave them as they were. -/
theorem StatusCalls.append_quiet {w₂ : World} (h : StatusCalls w w₁ n) (h' : SameCalls w₁ w₂) :
    StatusCalls w w₂ n := by
  simpa using h.trans (.quiet h')

end Reads

/-! ## The reconnect loop -/

/-- One status call: refused over the call limit, and otherwise answered by the script. -/
theorem run_status (w : World) :
    Lifecycle.status.run w =
      if overLimit w.lifecycle.callLimit w.lifecycleCalls.size then
        (.error (Failure.halted callLimitText), w)
      else
        (w.lifecycle.status.next.1.mapError Failure.ofError,
          { w with lifecycle := { w.lifecycle with status := w.lifecycle.status.next.2 },
                   lifecycleCalls := w.lifecycleCalls.push .status }) :=
  run_askLifecycle _ _ _ w

/-- The reconnect loop reads what `fetchAnswer` reads. -/
theorem fetchFrom_reads (reconnect : Budget) (attempt left : Nat) (w : World) :
    ∃ n, ReadsStatus w ((fetchFrom reconnect attempt left).run w).2 n
      (fetchAnswer reconnect.retries.toNat left (w.lifecycle.status.upcoming n))
      ((fetchFrom reconnect attempt left).run w).1 := by
  induction left generalizing attempt w with
  | zero =>
    exact ⟨0, ReadsStatus.answered (.quiet ⟨rfl, rfl, rfl, rfl, rfl⟩) (.error _)⟩
  | succ left ih =>
    by_cases hlim : overLimit w.lifecycle.callLimit w.lifecycleCalls.size
    · refine ⟨0, ?_⟩
      simp only [fetchFrom, run_bind, run_tryCatch, run_map, Lifecycle.status, run_askLifecycle, hlim, if_true]
      exact ReadsStatus.refused hlim
    · have hcalls := statusCalls_push w
      obtain ⟨a, ha⟩ : ∃ a, w.lifecycle.status.next.1 = a := ⟨_, rfl⟩
      simp only [fetchFrom, run_bind, run_tryCatch, run_map, run_status, hlim,
        Bool.false_eq_true, if_false, ha] at hcalls ⊢
      cases a with
      | ok s =>
        refine ⟨1, ?_⟩
        simp only [Script.upcoming_succ, ha, Script.upcoming_zero, fetchAnswer]
        exact ReadsStatus.answered hcalls (.ok s)
      | error e =>
        -- a connection error is waited out and the loop goes on from the next answer
        by_cases hc : e.isConnection
        · simp only [mapError_error, run_pure, error?_ofError, hc, if_true, run_bind, run_emit,
            run_sleep]
          obtain ⟨n, hn⟩ := ih (attempt + 1) _
          refine ⟨1 + n, ?_⟩
          have hread : w.lifecycle.status.upcoming (1 + n) =
              .error e :: w.lifecycle.status.next.2.upcoming n := by
            rw [Nat.add_comm, Script.upcoming_succ, ha]
          rw [hread]
          simp only [fetchAnswer, hc, if_true]
          refine ReadsStatus.prepend ?_ hn
          -- the log line and the sleep leave the calls as they were
          exact hcalls.append_quiet ⟨rfl, rfl, rfl, rfl, rfl⟩
        · simp only [mapError_error, run_pure, error?_ofError, hc, Bool.false_eq_true, if_false,
            run_throw]
          refine ⟨1, ?_⟩
          simp only [Script.upcoming_succ, ha, Script.upcoming_zero, fetchAnswer, hc,
            Bool.false_eq_true, if_false]
          exact ReadsStatus.answered hcalls (.error e)

/-! ## The round loop -/

section Rounds

variable (settings : MonitorSettings) (budget : Budget) (autocancel : Bool) (left : Nat)

/-- A round whose status was fetched does what the verdict on the status says, with no call,
and sleeps the budget's delay exactly when it waits the status out. -/
theorem watch_succ_slept {w w₁ : World} {s : UpgradeStatus}
    (h : (fetchStatus settings.reconnect).run w = (.ok s, w₁)) :
    ∃ w₂, (watch settings budget autocancel (left + 1)).run w =
        (match verdict autocancel s with
        | .finish o => (.ok o, w₂)
        | .fail e => (.error (Failure.ofError e), w₂)
        | .wait => (watch settings budget autocancel left).run w₂) ∧
      SameCalls w₁ w₂ ∧
      w₂.slept = w₁.slept + if (verdict autocancel s).isWait then budget.delay.toNanos else 0 := by
  simp only [watch, run_bind, h]
  -- the round reads the phase as the verdict does; a failure is split further below
  cases hp : s.phase <;>
    simp only [hp, verdict, Verdict.isWait, reportNotifications, run_bind, run_emit, run_pure,
      run_sleep, if_true, Bool.false_eq_true, if_false]
  case failed =>
    by_cases hd : s.desiredState = some .canceled
    · simp only [hd, beq_self_eq_true, if_true, run_bind, run_emit, run_fail]
      exact ⟨_, rfl, ⟨rfl, rfl, rfl, rfl, rfl⟩, rfl⟩
    · have hne : (s.desiredState == some .canceled) = false := beq_eq_false_iff_ne.mpr hd
      cases autocancel <;>
        simp only [hd, hne, Bool.false_eq_true, if_true, if_false, run_bind, run_emit, run_sleep,
          run_fail]
      all_goals exact ⟨_, rfl, ⟨rfl, rfl, rfl, rfl, rfl⟩, rfl⟩
  all_goals exact ⟨_, rfl, ⟨rfl, rfl, rfl, rfl, rfl⟩, rfl⟩

/-- A round whose status was fetched does what the verdict on the status says, with no
manager call. -/
theorem watch_succ_of_fetched {w w₁ : World} {s : UpgradeStatus}
    (h : (fetchStatus settings.reconnect).run w = (.ok s, w₁)) :
    ∃ w₂, (watch settings budget autocancel (left + 1)).run w =
        (match verdict autocancel s with
        | .finish o => (.ok o, w₂)
        | .fail e => (.error (Failure.ofError e), w₂)
        | .wait => (watch settings budget autocancel left).run w₂) ∧
      SameCalls w₁ w₂ := by
  obtain ⟨w₂, hround, hsame, -⟩ := watch_succ_slept settings budget autocancel left h
  refine ⟨w₂, ?_, hsame⟩
  rcases hv : verdict autocancel s with o | e | _ <;> simp only [hv] at hround <;> exact hround

/-- The round loop reads what `poll` reads. -/
theorem watch_reads (w : World) :
    ∃ n, ReadsStatus w ((watch settings budget autocancel left).run w).2 n
      (poll budget settings.reconnect.retries.toNat autocancel left (w.lifecycle.status.upcoming n))
      ((watch settings budget autocancel left).run w).1 := by
  induction left generalizing w with
  | zero =>
    refine ⟨0, ?_⟩
    simp only [watch, run_bind, run_emit, run_fail, Script.upcoming_zero, poll]
    refine ReadsStatus.answered (.quiet ⟨?_, ?_, ?_, ?_, ?_⟩) (.error _) <;> rfl
  | succ left ih =>
    obtain ⟨n₁, hfetch⟩ : ∃ n, ReadsStatus w ((fetchStatus settings.reconnect).run w).2 n
        (fetchAnswer settings.reconnect.retries.toNat settings.reconnect.retries.toNat
          (w.lifecycle.status.upcoming n))
        ((fetchStatus settings.reconnect).run w).1 :=
      fetchFrom_reads _ _ _ w
    rcases hrun : (fetchStatus settings.reconnect).run w with ⟨r₁, w₁⟩
    rw [hrun] at hfetch
    -- the round goes as the fetch it starts with
    rcases hf : fetchAnswer settings.reconnect.retries.toNat settings.reconnect.retries.toNat
        (w.lifecycle.status.upcoming n₁) with _ | ⟨a, rest⟩
    · rw [hf] at hfetch
      obtain ⟨hover, rfl⟩ := hfetch.ended
      refine ⟨n₁, ?_⟩
      simp only [watch, run_bind, hrun, poll, hf]
      exact .halted hfetch.toStatusCalls hover
    · rw [hf] at hfetch
      obtain ⟨rfl, rfl⟩ := hfetch.ended
      cases a with
      | error e =>
        refine ⟨n₁, ?_⟩
        simp only [watch, run_bind, hrun, poll, hf, mapError_error]
        exact ReadsStatus.answered hfetch.toStatusCalls (.error e)
      | ok s =>
        obtain ⟨w₂, hround, hsame⟩ := watch_succ_of_fetched settings budget autocancel left hrun
        have hcalls : StatusCalls w w₂ n₁ := hfetch.toStatusCalls.append_quiet hsame
        rw [hround]
        cases hv : verdict autocancel s with
        | finish o =>
          refine ⟨n₁, ?_⟩
          simp only [poll, hf, hv]
          exact ReadsStatus.answered hcalls (.ok o)
        | fail e =>
          refine ⟨n₁, ?_⟩
          simp only [poll, hf, hv]
          exact ReadsStatus.answered hcalls (.error e)
        | wait =>
          -- the round goes on: the rest of the loop reads on from where the fetch stopped
          obtain ⟨n₂, hn⟩ := ih w₂
          refine ⟨n₁ + n₂, ?_⟩
          rw [hcalls.status] at hn
          simp only [Script.upcoming_add, poll, fetchAnswer_append _ hf, List.nil_append, hv]
          exact ReadsStatus.prepend hcalls hn

end Rounds

/-! ## The monitor -/

/-- With a scheduled switchover, fixing the budget reads the clock and extends the budget to
the switchover, or halts when the extension overflows; it calls no service. -/
theorem budgetFor_run_of_scheduled {settings : MonitorSettings} {doc : ApplyDocument}
    {start : Time.Instant} (hs : doc.startSwitchover = some start) (w : World) :
    ∃ w₁, (budgetFor settings doc).run w =
        ((settings.budget.extendUntil start w.clock).mapError (fun o => Failure.halted o.message),
          w₁) ∧
      SameCalls w w₁ := by
  unfold budgetFor
  simp only [hs, run_bind, run_readClock]
  rcases settings.budget.extendUntil start w.clock with o | b
  · simp only [run_halt]
    exact ⟨_, rfl, rfl, rfl, rfl, rfl, rfl⟩
  · by_cases hb : (b != settings.budget) = true
    · simp only [hb, if_true, run_bind, run_emit, run_pure]
      exact ⟨_, rfl, rfl, rfl, rfl, rfl, rfl⟩
    · simp only [hb, Bool.false_eq_true, if_false, run_pure]
      exact ⟨_, rfl, rfl, rfl, rfl, rfl, rfl⟩

/-- Fixing the budget reads the clock only for a scheduled switchover and calls no service:
it gives the rounds of `rounds`, or halts when the extension overflows. -/
theorem budgetFor_run (settings : MonitorSettings) (doc : ApplyDocument) (w : World) :
    ∃ w₁, (budgetFor settings doc).run w =
        ((rounds settings doc w.clock).mapError (fun o => Failure.halted o.message), w₁) ∧
      SameCalls w w₁ := by
  rcases hs : doc.startSwitchover with _ | start
  · have hfixed : budgetFor settings doc = pure settings.budget := by
      unfold budgetFor
      rw [hs]
    rw [hfixed, run_pure]
    simp only [rounds, hs]
    exact ⟨w, rfl, rfl, rfl, rfl, rfl, rfl⟩
  · simp only [rounds, hs]
    exact budgetFor_run_of_scheduled hs w

/-- The monitor follows the poll-until-terminal reference. Its rounds are those of `rounds`
(an overflowing extension halts the run before any call); then it makes exactly the status
calls whose answers the reference reads, and ends as the reference does, or, where the
reference asks for more answers, halted by a manager that refused the next call. -/
theorem run_follows_poll (settings : MonitorSettings) (autocancel : Bool) (doc : ApplyDocument)
    (w : World) :
    match rounds settings doc w.clock with
    | .error o =>
      ((Monitor.run settings autocancel doc).run w).1 = .error (Failure.halted o.message) ∧
        SameCalls w ((Monitor.run settings autocancel doc).run w).2
    | .ok b => ∃ n, ReadsStatus w ((Monitor.run settings autocancel doc).run w).2 n
        (poll b settings.reconnect.retries.toNat autocancel b.retries.toNat
          (w.lifecycle.status.upcoming n))
        ((Monitor.run settings autocancel doc).run w).1 := by
  obtain ⟨w₁, hb, hsame⟩ := budgetFor_run settings doc w
  simp only [Monitor.run, run_bind, hb]
  cases rounds settings doc w.clock with
  | error o => exact ⟨rfl, hsame⟩
  | ok b =>
    obtain ⟨n, hn⟩ := watch_reads settings b autocancel b.retries.toNat w₁
    rw [hsame.lifecycle] at hn
    have hread := ReadsStatus.prepend (.quiet hsame) hn
    rw [Nat.zero_add] at hread
    exact ⟨n, hread⟩

/-! ## The monitor in a trace -/

/-- The exchanges of status calls answered in turn by `as`. -/
def statusExchanges (as : Answers) : List LifecycleExchange :=
  as.map fun a => (.status, a.map .status)

theorem exchanges_replicate_status (s : LifecycleService) (n : Nat) :
    s.exchanges (List.replicate n .status) = statusExchanges (s.status.upcoming n) := by
  induction n generalizing s with
  | zero => rfl
  | succ n ih =>
    rw [List.replicate_succ, Script.upcoming_succ]
    simp only [Conversation.exchanges_cons, LifecycleService.answer, statusExchanges,
      List.map_cons, List.cons.injEq, true_and]
    exact ih _

theorem after_replicate_status (s : LifecycleService) (n : Nat) :
    s.after (List.replicate n .status) = { s with status := s.status.skip n } := by
  induction n generalizing s with
  | zero => rfl
  | succ n ih =>
    rw [List.replicate_succ, Script.skip_succ]
    exact ih _

/-- How a monitor started at `now` ends on the status answers `as`: halted before any call
when its rounds overflow, and otherwise as the reference reads `as` to the end, or, when it asks
for more, halted by a manager that refused the next call. -/
def Ends (settings : MonitorSettings) (autocancel : Bool) (doc : ApplyDocument)
    (now : Time.Instant) (as : Answers) (r : Except Failure MonitorOutcome) : Prop :=
  match rounds settings doc now with
  | .error o => as = [] ∧ r = .error (Failure.halted o.message)
  | .ok b => Trace.Follows (poll b settings.reconnect.retries.toNat autocancel b.retries.toNat as) r

/-- A run of the monitor as its trace shows it: status calls only, answered by `as`, on which
the monitor ends as `Ends` says. -/
def Watched (settings : MonitorSettings) (autocancel : Bool) (doc : ApplyDocument)
    (r : Except Failure MonitorOutcome) (t : Trace) : Prop :=
  t.appliance = [] ∧ ∃ as, t.lifecycle = statusExchanges as ∧ Ends settings autocancel doc t.start as r

theorem Spec.monitor (settings : MonitorSettings) (autocancel : Bool) (doc : ApplyDocument) :
    (Monitor.run settings autocancel doc).Spec (Watched settings autocancel doc) := by
  intro w
  have hpoll := run_follows_poll settings autocancel doc w
  simp only [Watched, Ends, World.traceTo]
  rcases hr : rounds settings doc w.clock with o | b
  · rw [hr] at hpoll
    obtain ⟨hres, hsame⟩ := hpoll
    exact ⟨[], [], [], Moved.of_same hsame, rfl, [], rfl, rfl, hres⟩
  · rw [hr] at hpoll
    obtain ⟨n, hn⟩ := hpoll
    -- the status calls move the status script and nothing else
    have hmoved : Moved w ((Monitor.run settings autocancel doc).run w).2
        (List.replicate n .status) [] [] :=
      ⟨hn.calls, by rw [hn.lifecycle, after_replicate_status], by simp [hn.applianceCalls],
        hn.appliance, by simp [hn.prompts]⟩
    refine ⟨_, [], [], hmoved, rfl, _, exchanges_replicate_status _ _, ?_⟩
    have hended := hn.ended
    rcases ho : poll b settings.reconnect.retries.toNat autocancel b.retries.toNat
        (w.lifecycle.status.upcoming n) with _ | ⟨a, rest⟩
    · rw [ho] at hended
      simp only [ho, Trace.Follows]
      exact hended.2
    · rw [ho] at hended
      simp only [ho, Trace.Follows]
      exact hended

end ReducedDowntime.Monitor
