import ReducedDowntime.Proofs.Run

/-!
# Checking and resolving a switchover schedule

An apply spec is checked once, when it is made, and resolved each time its document is built.

* **Making.** `ApplySpec.make` drops a schedule of zero hours, refuses a schedule together with
  a pause, and refuses a schedule that would leave the supported instants when counted from the
  clock at hand (`make_error_iff`). What it returns keeps the schedule and the pause it was
  asked for (`make_ok`).
* **Resolving.** `ApplySpec.toDocument` counts the schedule from the clock it is given: it
  fails exactly when that sum leaves the supported instants, and otherwise places the
  switchover at the sum and the pause point exactly when the spec pauses (`toDocument_ok`).
* **Exclusion.** Every spec that `make`, `runThrough` or `pauseFirst` builds is `Valid`: a
  schedule of at least one hour and no pause beside it. So no document of theirs carries both a
  switchover and a pause point (`Valid.document_exclusive`).

Both steps fail only with an invalid configuration, with the texts the checks give.
-/

namespace ReducedDowntime.ApplySpec

open Time

/-- The schedule a spec keeps of the hours asked for: zero hours are no schedule. -/
theorem filter_pos_eq_some {hours : Option Nat} {n : Nat} :
    hours.filter (· > 0) = some n ↔ hours = some n ∧ 0 < n := by
  simp [Option.filter_eq_some_iff]

theorem filter_pos_eq_none {hours : Option Nat} :
    hours.filter (· > 0) = none ↔ ∀ n, hours = some n → n = 0 := by
  simp [Option.filter_eq_none_iff]

/-! ## The switchover instant -/

/-- The refusal of a schedule that leaves the supported instants. -/
def outOfRange (hours : Nat) : UpgradeError :=
  .invalidConfig ("switchover in " ++ toString hours ++ " hours is out of the supported date range")

/-- The refusal of a schedule beside a pause. -/
def scheduledAndPaused : UpgradeError :=
  .invalidConfig "apply spec has both a scheduled switchover and pause-before-switchover set"

theorem switchoverAt_eq_ok {now t : Instant} {hours : Nat} :
    switchoverAt now hours = .ok t ↔ now.addSeconds (hours * 3600) = some t := by
  unfold switchoverAt
  split <;> simp_all

theorem switchoverAt_eq_error {now : Instant} {hours : Nat} {e : UpgradeError} :
    switchoverAt now hours = .error e ↔ now.addSeconds (hours * 3600) = none ∧ e = outOfRange hours := by
  unfold switchoverAt outOfRange
  cases now.addSeconds (hours * 3600) <;> simp [eq_comm]

/-! ## Making a spec -/

section Make

variable {hours : Option Nat} {pause : Bool} {now : Instant} {n : Nat}

theorem make_unscheduled (h : hours.filter (· > 0) = none) :
    (make hours pause now).value = .ok { pauseBeforeSwitchover := pause } := by
  simp only [make, h]
  rfl

theorem make_paused (h : hours.filter (· > 0) = some n) :
    (make hours true now).value = .error scheduledAndPaused := by
  simp only [make, h]
  rfl

theorem make_scheduled (h : hours.filter (· > 0) = some n) :
    (make hours false now).value = (switchoverAt now n).map fun _ => { switchoverInHours := some n } := by
  simp only [make, h]
  cases switchoverAt now n <;> rfl

/-- Zero hours are no schedule. -/
theorem make_zero (pause : Bool) (now : Instant) : make (some 0) pause now = make none pause now :=
  rfl

/-- Making a spec fails exactly when a schedule of at least one hour is asked for together with
a pause, or leaves the supported instants counted from `now`. -/
theorem make_error_iff :
    (∃ e, (make hours pause now).value = .error e) ↔
      ∃ n, hours = some n ∧ 0 < n ∧ (pause = true ∨ now.addSeconds (n * 3600) = none) := by
  rcases hf : hours.filter (· > 0) with _ | n
  · -- no schedule: the spec is made
    rw [make_unscheduled hf]
    have hzero := filter_pos_eq_none.mp hf
    simp only [reduceCtorEq, exists_false, false_iff, not_exists, not_and]
    intro n hn hpos
    exact absurd (hzero n hn) (Nat.pos_iff_ne_zero.mp hpos)
  · obtain ⟨rfl, hpos⟩ := filter_pos_eq_some.mp hf
    cases pause with
    | true => simp [make_paused hf, hpos]
    | false =>
      rw [make_scheduled hf]
      cases hs : now.addSeconds (n * 3600) with
      | none =>
        have he : switchoverAt now n = .error (outOfRange n) := switchoverAt_eq_error.mpr ⟨hs, rfl⟩
        simp [he, hpos, hs]
      | some t =>
        have hok : switchoverAt now n = .ok t := switchoverAt_eq_ok.mpr hs
        simp [hok, hs]

/-- A refusal is an invalid configuration: the schedule beside a pause, or the schedule out of
range. -/
theorem make_error {e : UpgradeError} (h : (make hours pause now).value = .error e) :
    e = scheduledAndPaused ∨ ∃ n, e = outOfRange n := by
  rcases hf : hours.filter (· > 0) with _ | n
  · rw [make_unscheduled hf] at h
    cases h
  · cases pause with
    | true =>
      rw [make_paused hf] at h
      exact .inl (Except.error.inj h).symm
    | false =>
      rw [make_scheduled hf] at h
      rcases hs : switchoverAt now n with e' | t <;> rw [hs] at h
      · cases h
        exact .inr ⟨n, (switchoverAt_eq_error.mp hs).2⟩
      · cases h

/-- A spec that is made keeps the schedule of at least one hour and the pause asked for. -/
theorem make_ok {s : ApplySpec} (h : (make hours pause now).value = .ok s) :
    s = { switchoverInHours := hours.filter (· > 0), pauseBeforeSwitchover := pause } := by
  rcases hf : hours.filter (· > 0) with _ | n
  · rw [make_unscheduled hf] at h
    rw [← Except.ok.inj h, hf]
  · cases pause with
    | true => rw [make_paused hf] at h; cases h
    | false =>
      rw [make_scheduled hf] at h
      rcases hs : switchoverAt now n with e | t <;> rw [hs] at h
      · cases h
      · rw [← Except.ok.inj h, hf]

end Make

/-! ## Well-formed specs -/

/-- A spec as the program builds it: a schedule is of at least one hour and stands alone. -/
structure Valid (s : ApplySpec) : Prop where
  positive : ∀ n, s.switchoverInHours = some n → 0 < n
  alone : s.switchoverInHours.isSome → s.pauseBeforeSwitchover = false

theorem valid_runThrough : runThrough.Valid := ⟨fun _ h => (by cases h), fun h => (by cases h)⟩

theorem valid_pauseFirst : pauseFirst.Valid := ⟨fun _ h => (by cases h), fun h => (by cases h)⟩

theorem valid_of_make {hours : Option Nat} {pause : Bool} {now : Instant} {s : ApplySpec}
    (h : (make hours pause now).value = .ok s) : s.Valid := by
  rw [make_ok h]
  refine ⟨fun n hn => (filter_pos_eq_some.mp hn).2, fun hsome => ?_⟩
  obtain ⟨n, hn⟩ := Option.isSome_iff_exists.mp hsome
  -- a schedule beside a pause is refused, so a made spec with a schedule does not pause
  cases pause with
  | false => rfl
  | true => rw [make_paused hn] at h; cases h

/-! ## Resolving a spec -/

section Resolve

variable {s : ApplySpec} {now : Instant}

theorem toDocument_unscheduled (h : s.switchoverInHours = none) :
    s.toDocument now =
      .ok { startSwitchover := none,
            pause := if s.pauseBeforeSwitchover then some .beforeSwitchover else none } := by
  simp only [toDocument, h]
  rfl

theorem toDocument_scheduled {n : Nat} (h : s.switchoverInHours = some n) :
    s.toDocument now =
      (switchoverAt now n).map fun t =>
        { startSwitchover := some t,
          pause := if s.pauseBeforeSwitchover then some .beforeSwitchover else none } := by
  simp only [toDocument, h]
  cases switchoverAt now n <;> rfl

/-- Resolving fails exactly when the schedule leaves the supported instants counted from `now`,
and then with the refusal of that schedule. -/
theorem toDocument_error_iff {e : UpgradeError} :
    s.toDocument now = .error e ↔
      ∃ n, s.switchoverInHours = some n ∧ now.addSeconds (n * 3600) = none ∧ e = outOfRange n := by
  rcases hs : s.switchoverInHours with _ | n
  · simp [toDocument_unscheduled hs]
  · rw [toDocument_scheduled hs]
    rcases ha : switchoverAt now n with e' | t
    · obtain ⟨hnone, rfl⟩ := switchoverAt_eq_error.mp ha
      simpa [hnone] using eq_comm
    · have hsome := switchoverAt_eq_ok.mp ha
      simp [hsome]

/-- A one-hour schedule cannot be resolved at the latest supported instant. -/
example : ({ switchoverInHours := some 1 } : ApplySpec).toDocument Instant.max = .error (outOfRange 1) := by
  rfl

/-- A resolved document places the switchover `n · 3600` seconds after `now` for a schedule of
`n` hours, none without a schedule, and the pause point exactly when the spec pauses. -/
theorem toDocument_ok {d : ApplyDocument} (h : s.toDocument now = .ok d) :
    d.startSwitchover = s.switchoverInHours.bind (fun n => now.addSeconds (n * 3600)) ∧
      d.pause = if s.pauseBeforeSwitchover then some .beforeSwitchover else none := by
  rcases hs : s.switchoverInHours with _ | n
  · rw [toDocument_unscheduled hs] at h
    cases h
    exact ⟨rfl, rfl⟩
  · rw [toDocument_scheduled hs] at h
    rcases ha : switchoverAt now n with e | t <;> rw [ha] at h
    · cases h
    · cases h
      exact ⟨by simp [switchoverAt_eq_ok.mp ha], rfl⟩

/-- A valid spec resolves to a document with a switchover or a pause point, never both. -/
theorem Valid.document_exclusive (hv : s.Valid) {d : ApplyDocument} (h : s.toDocument now = .ok d) :
    d.startSwitchover = none ∨ d.pause = none := by
  obtain ⟨hstart, hpause⟩ := toDocument_ok h
  rcases hs : s.switchoverInHours with _ | n
  · exact .inl (by simp [hstart, hs])
  · have halone : s.pauseBeforeSwitchover = false := hv.alone (by simp [hs])
    exact .inr (by simp [hpause, halone])

end Resolve

/-- **The schedule of an apply spec.** Zero hours are no schedule. Making a spec against `t₀`
fails, always as an invalid configuration, exactly when a schedule of at least one hour comes
with a pause or leaves the supported instants counted from `t₀`. A spec that is made, resolved
against any `now`, fails, again as an invalid configuration, exactly when its schedule leaves the
supported instants counted from `now`, and otherwise places the switchover at `now` plus the
hours and the pause point exactly when a pause was asked for. No document of a made spec, of
`runThrough` or of `pauseFirst` has both a switchover and a pause point. -/
theorem make_then_resolve (hours : Option Nat) (pause : Bool) (t₀ now : Instant) :
    make (some 0) pause t₀ = make none pause t₀ ∧
    ((∃ e, (make hours pause t₀).value = .error e) ↔
      ∃ n, hours = some n ∧ 0 < n ∧ (pause = true ∨ t₀.addSeconds (n * 3600) = none)) ∧
    (∀ e, (make hours pause t₀).value = .error e → ∃ msg, e = .invalidConfig msg) ∧
    (∀ s, (make hours pause t₀).value = .ok s →
      ((∃ e, s.toDocument now = .error e) ↔
        ∃ n, hours = some n ∧ 0 < n ∧ now.addSeconds (n * 3600) = none) ∧
      (∀ e, s.toDocument now = .error e → ∃ msg, e = .invalidConfig msg) ∧
      ∀ d, s.toDocument now = .ok d →
        d.startSwitchover = (hours.filter (· > 0)).bind (fun n => now.addSeconds (n * 3600)) ∧
        d.pause = if pause then some .beforeSwitchover else none) ∧
    ∀ s, (make hours pause t₀).value = .ok s ∨ s = runThrough ∨ s = pauseFirst →
      ∀ d, s.toDocument now = .ok d → d.startSwitchover = none ∨ d.pause = none := by
  refine ⟨make_zero pause t₀, make_error_iff, fun e he => ?_, fun s hs => ?_, ?_⟩
  · rcases make_error he with rfl | ⟨n, rfl⟩
    · exact ⟨_, rfl⟩
    · exact ⟨_, rfl⟩
  · obtain rfl := make_ok hs
    refine ⟨⟨fun ⟨e, he⟩ => ?_, fun ⟨n, hn, hpos, hnone⟩ => ?_⟩,
      fun e he => ?_, fun d hd => toDocument_ok hd⟩
    · obtain ⟨n, hn, hnone, -⟩ := toDocument_error_iff.mp he
      obtain ⟨hh, hpos⟩ := filter_pos_eq_some.mp hn
      exact ⟨n, hh, hpos, hnone⟩
    · have hf : hours.filter (· > 0) = some n := filter_pos_eq_some.mpr ⟨hn, hpos⟩
      exact ⟨_, toDocument_error_iff.mpr ⟨n, hf, hnone, rfl⟩⟩
    · obtain ⟨n, -, -, rfl⟩ := toDocument_error_iff.mp he
      exact ⟨_, rfl⟩
  · rintro s (hs | rfl | rfl) d hd
    · exact (valid_of_make hs).document_exclusive hd
    · exact valid_runThrough.document_exclusive hd
    · exact valid_pauseFirst.document_exclusive hd

end ReducedDowntime.ApplySpec
