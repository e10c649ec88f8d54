import ReducedDowntime.Proofs.Waiting

/-!
# The reconnect loop of a status fetch

A status fetch with a reconnect budget of `r` attempts rides out connection errors: it reads
status answers until one is a status or an error other than a connection error, and gives that
answer; after `r` connection errors in a row it gives up with a connectivity failure. This module
reads the whole loop off the answers at once.

* `leadingReconnects as` counts the connection errors that lead the answers `as`, and
  `firstSettled r as` is the first of them that is not one, or the connectivity failure after `r`
  attempts when there is none.
* `fetchAnswer_window`: the one-round reference `fetchAnswer` of the monitor's specification, on
  at least `r` answers, ends with `firstSettled` of the first `r` and reads one answer past their
  leading connection errors, or all `r` when they are all connection errors. So a reference that
  reads exactly the next `n` answers of a script has `n = min (k + 1) r` (`fetchAnswer_upcoming`).
* `fetchStatus_reads_leading`: a fetch from a manager that takes its calls makes `min (k + 1) r`
  status calls, where `k` counts the connection errors that lead the next `r` answers, gives
  `firstSettled` of those answers, and sleeps the reconnect delay `k` times.

Only the next `r` answers matter: `k` is the count of leading connection errors of the whole
script capped at `r`, which is all a fetch of `r` attempts can see.

The proof does not walk the loop again. `fetchFrom_reads` and `fetchStatus_sleeps` already say
what the loop does in terms of the answers it read; the closed form of the reference fixes how many
those are.
-/

namespace ReducedDowntime.Monitor

open ReducedDowntime.Flow

/-! ## Leading connection errors -/

/-- The connection errors that lead the answers `as`. -/
def leadingReconnects (as : Answers) : Nat := (as.takeWhile isReconnect).length

/-- How a fetch with `limit` attempts ends on the answers `as`: with the first answer that is a
status or an error other than a connection error, or, when there is none, with the connectivity
failure after `limit` attempts. -/
def firstSettled (limit : Nat) (as : Answers) : Except UpgradeError UpgradeStatus :=
  (as.find? fun a => !isReconnect a).getD (.error (.connectivity "upgrade status" limit))

variable {limit : Nat} {a : Except UpgradeError UpgradeStatus} {as : Answers}

@[simp] theorem isReconnect_ok (s : UpgradeStatus) : isReconnect (.ok s) = false := rfl

@[simp] theorem isReconnect_error (e : UpgradeError) : isReconnect (.error e) = e.isConnection := rfl

@[simp] theorem leadingReconnects_nil : leadingReconnects [] = 0 := rfl

theorem leadingReconnects_cons_of_reconnect (h : isReconnect a = true) :
    leadingReconnects (a :: as) = leadingReconnects as + 1 := by
  simp [leadingReconnects, h]

theorem leadingReconnects_cons_of_settled (h : isReconnect a = false) :
    leadingReconnects (a :: as) = 0 := by
  simp [leadingReconnects, h]

@[simp] theorem firstSettled_nil :
    firstSettled limit [] = .error (.connectivity "upgrade status" limit) := rfl

theorem firstSettled_cons_of_reconnect (h : isReconnect a = true) :
    firstSettled limit (a :: as) = firstSettled limit as := by
  simp [firstSettled, h]

theorem firstSettled_cons_of_settled (h : isReconnect a = false) :
    firstSettled limit (a :: as) = a := by
  simp [firstSettled, h]

/-- The answers up to and including the first that is not a connection error hold no connection
error but the leading ones. -/
theorem reconnects_take_leading (as : Answers) :
    reconnects (as.take (leadingReconnects as + 1)) = leadingReconnects as := by
  induction as with
  | nil => rfl
  | cons a as ih =>
    cases h : isReconnect a with
    | true =>
      rw [leadingReconnects_cons_of_reconnect h, List.take_succ_cons]
      simp only [reconnects, List.countP_cons, h, if_true] at ih ⊢
      rw [ih]
    | false =>
      rw [leadingReconnects_cons_of_settled h]
      simp [reconnects, h]

/-! ## The one-round reference in closed form -/

/-- On at least `left` answers, the reference ends with `firstSettled` of the first `left` and
leaves unread all but their leading connection errors and the answer after them. -/
theorem fetchAnswer_window (limit : Nat) {left : Nat} {as : Answers} (h : left ≤ as.length) :
    fetchAnswer limit left as =
      some (firstSettled limit (as.take left),
        as.drop (min (leadingReconnects (as.take left) + 1) left)) := by
  induction left generalizing as with
  | zero => simp [fetchAnswer]
  | succ left ih =>
    rcases as with _ | ⟨a, as⟩
    · simp at h
    have hlen : left ≤ as.length := by simpa using h
    rw [List.take_succ_cons]
    cases a with
    | ok s =>
      rw [firstSettled_cons_of_settled rfl, leadingReconnects_cons_of_settled rfl]
      simp [fetchAnswer]
    | error e =>
      cases hc : e.isConnection with
      | true =>
        -- a connection error costs one attempt, and the rest is read as a round of its own
        have hr : isReconnect (.error e) = true := hc
        have hmin : min (leadingReconnects (as.take left) + 1 + 1) (left + 1) =
            min (leadingReconnects (as.take left) + 1) left + 1 := by omega
        rw [firstSettled_cons_of_reconnect hr, leadingReconnects_cons_of_reconnect hr, hmin,
          List.drop_succ_cons]
        simp [fetchAnswer, hc, ih hlen]
      | false =>
        have hr : isReconnect (.error e) = false := hc
        rw [firstSettled_cons_of_settled hr, leadingReconnects_cons_of_settled hr]
        simp [fetchAnswer, hc]

/-- The reference asks for more answers only when it has fewer than its attempts. -/
theorem length_lt_of_fetchAnswer_eq_none {left : Nat} (h : fetchAnswer limit left as = none) :
    as.length < left := by
  refine Nat.lt_of_not_le fun hle => ?_
  rw [fetchAnswer_window limit hle] at h
  cases h

/-- A reference that leaves no answer unread read at most one answer per attempt. -/
theorem length_le_of_fetchAnswer {left : Nat} (h : fetchAnswer limit left as = some (a, [])) :
    as.length ≤ left := by
  refine Nat.le_of_not_lt fun hlt => ?_
  rw [fetchAnswer_window limit (Nat.le_of_lt hlt)] at h
  have hrest : as.drop (min (leadingReconnects (as.take left) + 1) left) = [] :=
    (Prod.mk.inj (Option.some.inj h)).2
  rw [List.drop_eq_nil_iff] at hrest
  omega

/-- A reference that reads exactly the next `n` answers of a script reads the leading connection
errors of the next `r` and the answer after them, and ends with `firstSettled` of those `r`. -/
theorem fetchAnswer_upcoming {s : Script UpgradeStatus} {r n : Nat}
    (h : fetchAnswer r r (s.upcoming n) = some (a, [])) :
    n = min (leadingReconnects (s.upcoming r) + 1) r ∧ a = firstSettled r (s.upcoming r) := by
  have hle : n ≤ r := by simpa using length_le_of_fetchAnswer h
  -- the `n` answers read lead the next `r`, and the reference reads them there too
  have hsplit : s.upcoming r = s.upcoming n ++ (s.skip n).upcoming (r - n) := by
    rw [← Script.upcoming_add, Nat.add_sub_cancel' hle]
  have hwindow := fetchAnswer_append ((s.skip n).upcoming (r - n)) h
  rw [List.nil_append, ← hsplit, fetchAnswer_window r (by simp),
    List.take_of_length_le (by simp)] at hwindow
  obtain ⟨ha, hrest⟩ := Prod.mk.inj (Option.some.inj hwindow)
  refine ⟨?_, ha.symm⟩
  -- the answers left unread count the same both ways
  have hlengths := congrArg List.length hrest
  simp only [List.length_drop, Script.length_upcoming] at hlengths
  omega

/-! ## The fetch -/

/-- The manager takes `n` more calls in `w`: a call limit, if it has one, leaves room for them. -/
def TakesCalls (w : World) (n : Nat) : Prop :=
  ∀ limit, w.lifecycle.callLimit = some limit → w.lifecycleCalls.size + n ≤ limit

/-- A manager that takes `n` more calls refuses none of the first `n`. -/
theorem TakesCalls.not_overLimit {w : World} {n m : Nat} (h : TakesCalls w n) (hm : m < n) :
    overLimit w.lifecycle.callLimit (w.lifecycleCalls.size + m) = false := by
  unfold overLimit
  cases hl : w.lifecycle.callLimit with
  | none => rfl
  | some limit =>
    have hroom := h limit hl
    simp only [ge_iff_le, decide_eq_false_iff_not, Nat.not_le]
    omega

/-- **A fetch rides out the leading connection errors.** A status fetch with `r` reconnect
attempts, from a manager that takes `r` more calls, makes `min (k + 1) r` status calls and no other
call, where `k` counts the connection errors that lead the next `r` status answers. It gives the
first of those answers that is a status or an error other than a connection error, so the answer
right after the leading connection errors when `k < r`, and otherwise the connectivity failure
after `r` attempts (with `r = 0` at once, with no call). It sleeps the reconnect delay once for
each of the `k` connection errors it read, and at no other time. -/
theorem fetchStatus_reads_leading (reconnect : Budget) (w : World)
    (htakes : TakesCalls w reconnect.retries.toNat) :
    let r := reconnect.retries.toNat
    let as := w.lifecycle.status.upcoming r
    let k := leadingReconnects as
    StatusCalls w ((fetchStatus reconnect).run w).2 (min (k + 1) r) ∧
      ((fetchStatus reconnect).run w).1 = (firstSettled r as).mapError Failure.ofError ∧
      ((fetchStatus reconnect).run w).2.slept = w.slept + k * reconnect.delay.toNanos := by
  intro r as k
  obtain ⟨n, hreads⟩ : ∃ n, ReadsStatus w ((fetchStatus reconnect).run w).2 n
      (fetchAnswer r r (w.lifecycle.status.upcoming n)) ((fetchStatus reconnect).run w).1 :=
    fetchFrom_reads reconnect 1 r w
  obtain ⟨n', hsleeps⟩ := fetchStatus_sleeps reconnect w
  -- both lemmas speak of the calls the fetch made
  obtain rfl : n = n' := by
    have h₁ := hreads.size
    have h₂ := hsleeps.size
    omega
  have hended := hreads.ended
  rcases hread : fetchAnswer r r (w.lifecycle.status.upcoming n) with _ | ⟨b, rest⟩
  · -- the reference asks for more only after fewer than `r` calls, all of which the manager takes
    rw [hread] at hended
    have hlt : n < r := by simpa using length_lt_of_fetchAnswer_eq_none hread
    rw [htakes.not_overLimit hlt] at hended
    exact absurd hended.1 Bool.false_ne_true
  rw [hread] at hended
  obtain ⟨rfl, hres⟩ := hended
  obtain ⟨rfl, rfl⟩ := fetchAnswer_upcoming hread
  refine ⟨hreads.toStatusCalls, hres, ?_⟩
  -- the answers read are the leading connection errors and the one after them
  rw [hsleeps.slept, ← Script.take_upcoming, reconnects_take_leading]

/-- A manager whose every status call fails to connect, fetched from with three attempts ten
seconds apart: the connectivity failure after three attempts, and thirty seconds asleep, counted
in nanoseconds. -/
theorem fetchStatus_gives_up_after_three_drops :
    TakesCalls
        { clock := ⟨0, 0⟩, lifecycle := { status := .always (.error (.connection "lcm" "")) } } 3 ∧
      ((fetchStatus (Budget.new 3 10)).run
          { clock := ⟨0, 0⟩, lifecycle := { status := .always (.error (.connection "lcm" "")) } }).1 =
        .error (Failure.ofError (.connectivity "upgrade status" 3)) ∧
      ((fetchStatus (Budget.new 3 10)).run
          { clock := ⟨0, 0⟩, lifecycle := { status := .always (.error (.connection "lcm" "")) } }
        ).2.slept = 30000000000 := by
  have htakes : TakesCalls
      { clock := ⟨0, 0⟩, lifecycle := { status := .always (.error (.connection "lcm" "")) } } 3 :=
    fun _ hl => by cases hl
  obtain ⟨-, hres, hslept⟩ := fetchStatus_reads_leading (Budget.new 3 10) _ htakes
  exact ⟨htakes, by rw [hres]; rfl, by rw [hslept]; rfl⟩

end ReducedDowntime.Monitor
