import ReducedDowntime.Proofs.Monitor

/-!
# Extending a budget to a deadline

`Budget.extendUntil` grows the monitor's budget so that checking lasts until a scheduled
switchover. This module says what it computes and how far the grown budget reaches.

## What an extension gives

`extendUntil_ok` says once what an extension that returns gives: the budget itself, when its
delay reads as zero or the deadline comes before the budget's end, and otherwise the budget with
one more check per whole delay from `now` to the deadline, the added count clamped to 32 bits.
The two results below are read off it.

## Exact arithmetic

The extension reads the delay and the budget's length as signed 64-bit seconds. For delays
below `2^63` seconds and lengths that are spans of time, and outside leap seconds, it is the rule
over exact lengths of time (`extendUntil_eq_exact`): the count is unchanged when the deadline
lies within the budget's length, and otherwise grows by the whole delays until the deadline, at
most to `2^32 - 1`. Whenever it returns, it never lowers the count and keeps the delay.

## Reaching the deadline

A budget with at least one check, grown to a deadline, outlasts it (`extendUntil_outlasts`):
`now` plus its length is not before the deadline, unless its count stands at the cap. The
check the budget already has makes up for the part of a delay that the whole delays leave
before the deadline. Leap seconds are left out: around them the distance between two instants
and the sum of an instant and a length do not agree.
-/

namespace ReducedDowntime

namespace Time

/-! ## Instants outside leap seconds -/

namespace Instant

theorem lt_eq_true_iff (a b : Instant) :
    a.lt b = true ↔ a.seconds < b.seconds ∨ a.seconds = b.seconds ∧ a.nanos < b.nanos := by
  simp [lt]

/-- Adding seconds to an instant outside a leap second moves its seconds and keeps its
nanoseconds, when the sum stays in range. -/
theorem addSeconds_of_normal {t : Instant} (ht : t.nanos < 1000000000) (s : Int) :
    t.addSeconds s =
      if (⟨t.seconds + s, t.nanos⟩ : Instant).inRange then some ⟨t.seconds + s, t.nanos⟩
      else none := by
  simp [addSeconds, Nat.not_le.mpr ht]

/-- A sum that stays in range moves only the seconds of an instant outside a leap second. -/
theorem addSeconds_eq_some {t e : Instant} (ht : t.nanos < 1000000000) {s : Int}
    (h : t.addSeconds s = some e) : e = ⟨t.seconds + s, t.nanos⟩ := by
  rw [addSeconds_of_normal ht] at h
  split at h
  · exact (Option.some.inj h).symm
  · cases h

/-- The supported instants span fewer than `1.7 · 10^13` seconds. -/
theorem maxSeconds_sub_minSeconds : maxSeconds - minSeconds < 17000000000000 := by decide

/-- Seconds enough to leave the supported instants carry an instant in range out of them. -/
theorem addSeconds_eq_none {t : Instant} (ht : t.nanos < 1000000000) (hr : t.inRange = true)
    {s : Int} (hs : 17000000000000 ≤ s) : t.addSeconds s = none := by
  have hspan := maxSeconds_sub_minSeconds
  simp only [inRange, Bool.and_eq_true, decide_eq_true_eq] at hr
  rw [addSeconds_of_normal ht, if_neg]
  simp only [inRange, Bool.and_eq_true, decide_eq_true_eq]
  omega

/-- Between two instants outside leap seconds, the span is the difference of their
nanoseconds since the epoch. -/
theorem since_totalNanos {a b : Instant} (ha : a.nanos < 1000000000) (hb : b.nanos < 1000000000) :
    (a.since b).totalNanos = (a.seconds - b.seconds) * 1000000000 + a.nanos - b.nanos := by
  simp only [since, Span.totalNanos, Nat.not_le.mpr ha, Nat.not_le.mpr hb, decide_false,
    Bool.and_false, Bool.false_eq_true, if_false]
  have hfrac : (0 : Int) ≤ ((a.nanos : Int) - b.nanos) % 1000000000 := Int.emod_nonneg _ (by decide)
  rw [Int.toNat_of_nonneg hfrac]
  omega

theorem since_nanos_lt (a b : Instant) : (a.since b).nanos < 1000000000 := by
  simp only [since]
  omega

/-- Outside leap seconds, a deadline comes before `now` moved by `s` seconds exactly when it
lies less than `s` seconds after `now`. -/
theorem lt_shift_iff {deadline now : Instant} (hd : deadline.nanos < 1000000000)
    (hn : now.nanos < 1000000000) (s : Int) :
    deadline.lt ⟨now.seconds + s, now.nanos⟩ = true ↔
      (deadline.since now).totalNanos < s * 1000000000 := by
  rw [lt_eq_true_iff, since_totalNanos hd hn]
  dsimp only
  omega

/-- The whole seconds of a span, rounded toward zero, are more than the span less one second. -/
theorem Span.totalNanos_lt_wholeSeconds {d : Span} (h : d.nanos < 1000000000) :
    d.totalNanos < (d.wholeSeconds + 1) * 1000000000 := by
  simp only [Span.wholeSeconds, Span.totalNanos, Bool.and_eq_true, decide_eq_true_eq]
  split <;> omega

/-- A span of no negative length holds its whole seconds. -/
theorem Span.wholeSeconds_of_nonneg {d : Span} (h : d.nanos < 1000000000) (hd : 0 ≤ d.totalNanos) :
    d.wholeSeconds = d.totalNanos / 1000000000 := by
  simp only [Span.wholeSeconds, Span.totalNanos, Bool.and_eq_true, decide_eq_true_eq] at *
  split <;> omega

/-- The whole delays of `δ` seconds in a span of no negative length. -/
theorem Span.wholeSeconds_tdiv {d : Span} (h : d.nanos < 1000000000) (hd : 0 ≤ d.totalNanos)
    (δ : Int) : d.wholeSeconds.tdiv δ = d.totalNanos / (δ * 1000000000) := by
  rw [Span.wholeSeconds_of_nonneg h hd, Int.tdiv_eq_ediv_of_nonneg (Int.ediv_nonneg hd (by decide)),
    Int.ediv_ediv_of_nonneg (by decide), Int.mul_comm]

end Instant

end Time

namespace Budget

open Time

/-! ## The program's conversions -/

/-- The two's-complement reading of 64 bits. -/
theorem pow64 : Nat.pow 2 64 = 18446744073709551616 := by simp only [Nat.pow_eq, Nat.reducePow]

theorem signed64_of_lt {n : Nat} (h : n < 9223372036854775808) : signed64 n = n := by
  unfold signed64 Int.bmod
  rw [pow64]
  dsimp only
  rw [if_pos (by omega)]
  omega

theorem signed64_of_ge {n : Nat} (h : 9223372036854775808 ≤ n) (h' : n < 18446744073709551616) :
    signed64 n = n - 18446744073709551616 := by
  unfold signed64 Int.bmod
  rw [pow64]
  dsimp only
  rw [if_neg (by omega)]
  omega

/-- A non-zero delay never reads as zero. -/
theorem signed64_ne_zero {n : Nat} (h : 0 < n) (h' : n < 18446744073709551616) : signed64 n ≠ 0 := by
  by_cases hn : n < 9223372036854775808
  · rw [signed64_of_lt hn]
    omega
  · rw [signed64_of_ge (Nat.le_of_not_lt hn) h']
    omega

/-- The whole seconds of a budget's length: those of the exact product, saturated. -/
theorem totalSeconds_eq (b : Budget) :
    b.totalSeconds = Nat.min (b.delay.toNanos * b.retries.toNat / 1000000000) Duration.maxSecs :=
  Duration.secs_saturatingMul _ _

/-- The length holds the delay's whole seconds once per check, up to the saturation. -/
theorem secs_mul_le_totalSeconds (b : Budget) :
    Nat.min (b.delay.secs.toNat * b.retries.toNat) Duration.maxSecs ≤ b.totalSeconds := by
  have hle : b.delay.secs.toNat * b.retries.toNat ≤
      b.delay.toNanos * b.retries.toNat / 1000000000 := by
    rw [Nat.le_div_iff_mul_le (by decide)]
    calc b.delay.secs.toNat * b.retries.toNat * 1000000000
        = 1000000000 * b.delay.secs.toNat * b.retries.toNat := by
          rw [Nat.mul_right_comm, Nat.mul_comm b.delay.secs.toNat]
      _ ≤ b.delay.toNanos * b.retries.toNat :=
          Nat.mul_le_mul_right _ (Nat.le_add_right _ _)
  rw [totalSeconds_eq]
  simp only [Nat.min_def]
  split <;> split <;> omega

/-- A delay of whole seconds is its seconds in nanoseconds. -/
theorem toNanos_of_whole {d : Duration} (h : d.nanos = 0) :
    d.toNanos = 1000000000 * d.secs.toNat := by
  simp [Duration.toNanos, h]

/-- With a delay of whole seconds, the length is the product of the seconds, saturated. -/
theorem totalSeconds_of_whole {b : Budget} (h : b.delay.nanos = 0) :
    b.totalSeconds = Nat.min (b.delay.secs.toNat * b.retries.toNat) Duration.maxSecs := by
  rw [totalSeconds_eq, toNanos_of_whole h, Nat.mul_assoc, Nat.mul_div_cancel_left _ (by decide)]

/-- Clamping the added count changes nothing once the sum is saturated at the cap. -/
theorem min_add_clampCount (r : Nat) {q : Int} (hq : 0 ≤ q) :
    Nat.min (r + clampCount q) maxRetries = Nat.min (r + q.toNat) maxRetries := by
  unfold clampCount
  split
  · rfl
  · -- a count beyond 32 bits saturates the sum either way
    rename_i hbig
    have hle : maxRetries ≤ q.toNat := by simp only [maxRetries] at hbig ⊢; omega
    have hleft : Nat.min (r + maxRetries) maxRetries = maxRetries :=
      Nat.min_eq_right (Nat.le_add_left _ _)
    have hright : Nat.min (r + q.toNat) maxRetries = maxRetries :=
      Nat.min_eq_right (Nat.le_trans hle (Nat.le_add_left _ _))
    rw [hleft, hright]

/-- A count below the cap was not clamped: it is the count itself. -/
theorem clampCount_of_lt {n : Int} (h : clampCount n < maxRetries) :
    0 ≤ n ∧ n ≤ (maxRetries : Int) ∧ clampCount n = n.toNat := by
  unfold clampCount at *
  split at h
  · next hn => exact ⟨hn.1, hn.2, by simp [hn]⟩
  · omega

/-- Reading a count out of its 32-bit field and back gives the field. -/
theorem toUInt32_toNat (x : UInt32) : x.toNat.toUInt32 = x := UInt32.ofNat_toNat

/-- A count of checks at most the cap is kept by the 32-bit field. -/
theorem toNat_toUInt32 {n : Nat} (h : n ≤ maxRetries) : n.toUInt32.toNat = n :=
  UInt32.toNat_ofNat_of_lt' (by rw [UInt32.size]; simp only [maxRetries] at h; omega)

/-! ## What an extension gives -/

/-- What an extension that returns gives: the budget itself, when the delay's whole seconds read
as zero or the deadline comes before the budget's end, or else the budget with one more check per
whole delay until the deadline, the added count clamped to 32 bits and the sum saturated. -/
theorem extendUntil_ok {b b' : Budget} {deadline now : Instant}
    (h : b.extendUntil deadline now = .ok b') :
    b' = b ∧ (signed64 b.delay.secs.toNat = 0 ∨
      ∃ e, now.addSeconds (signed64 b.totalSeconds) = some e ∧ deadline.lt e = true) ∨
    signed64 b.delay.secs.toNat ≠ 0 ∧
      (∃ e, now.addSeconds (signed64 b.totalSeconds) = some e ∧ deadline.lt e = false) ∧
      b' = ⟨(Nat.min (b.retries.toNat + clampCount
        ((deadline.since now).wholeSeconds.tdiv (signed64 b.delay.secs.toNat))) maxRetries).toUInt32,
        b.delay⟩ := by
  unfold extendUntil at h
  by_cases hzero : signed64 b.delay.secs.toNat = 0
  · rw [if_pos hzero] at h
    exact .inl ⟨(Except.ok.inj h).symm, .inl hzero⟩
  dsimp only at h
  rw [if_neg hzero] at h
  -- a length out of bounds and an overflowing end fail; the end splits the rest
  split at h
  · cases h
  rcases hend : now.addSeconds (signed64 b.totalSeconds) with _ | e
  · simp only [hend] at h
    cases h
  simp only [hend] at h
  by_cases hlt : deadline.lt e = true
  · rw [if_pos hlt] at h
    exact .inl ⟨(Except.ok.inj h).symm, .inr ⟨e, rfl, hlt⟩⟩
  · rw [if_neg hlt] at h
    exact .inr ⟨hzero, ⟨e, rfl, by simpa using hlt⟩, (Except.ok.inj h).symm⟩

/-- Whenever the extension returns, it keeps the delay and never lowers the count of checks. -/
theorem extendUntil_keeps {b b' : Budget} {deadline now : Instant}
    (h : b.extendUntil deadline now = .ok b') :
    b'.delay = b.delay ∧ b.retries.toNat ≤ b'.retries.toNat := by
  rcases extendUntil_ok h with ⟨rfl, -⟩ | ⟨-, -, rfl⟩
  · exact ⟨rfl, Nat.le_refl _⟩
  · refine ⟨rfl, ?_⟩
    have hr := b.retries.toNat_lt
    rw [toNat_toUInt32 (Nat.min_le_right _ _)]
    simp only [maxRetries] at *
    exact Nat.le_min.mpr ⟨Nat.le_add_right _ _, by omega⟩

/-! ## Whole seconds and exact arithmetic -/

/-- The extension over the whole seconds it reads, for a deadline `distance` nanoseconds after
`now`: the count is kept when the delay has no whole second or the deadline lies within the
length's whole seconds, and otherwise grows by the delay's whole seconds that fit in the distance,
to at most `2^32 - 1`. -/
def wholeRetries (b : Budget) (distance : Int) : Nat :=
  if b.delay.secs.toNat = 0 ∨ distance < b.totalSeconds * 1000000000 then b.retries.toNat
  else Nat.min (b.retries.toNat + (distance / (b.delay.secs.toNat * 1000000000)).toNat) maxRetries

/-- The extension over exact lengths of time and integers, for a deadline `distance`
nanoseconds after `now`: the count is kept when the delay is zero or the deadline lies within the
budget's length, and otherwise grows by the whole delays in the distance, to at most `2^32 - 1`. -/
def exactRetries (b : Budget) (distance : Int) : Nat :=
  if b.delay.toNanos = 0 ∨ distance < b.delay.toNanos * b.retries.toNat then b.retries.toNat
  else Nat.min (b.retries.toNat + (distance / b.delay.toNanos).toNat) maxRetries

/-- **The extension is the rule over whole seconds** for every delay whose whole seconds are
below `2^63`, a length that is a span of time and ends within the supported instants, and
instants outside leap seconds. -/
theorem extendUntil_eq_whole {b : Budget} {deadline now : Instant}
    (hdelay : b.delay.secs.toNat < 9223372036854775808)
    (hlength : b.totalSeconds ≤ 9223372036854775)
    (hend : (now.addSeconds b.totalSeconds).isSome = true)
    (hnow : now.nanos < 1000000000) (hdeadline : deadline.nanos < 1000000000) :
    b.extendUntil deadline now =
      .ok ⟨(wholeRetries b (deadline.since now).totalNanos).toUInt32, b.delay⟩ := by
  unfold extendUntil wholeRetries
  dsimp only
  by_cases hzero : b.delay.secs.toNat = 0
  · -- a delay of no whole second keeps the budget
    rw [if_pos (by rw [hzero]; rfl), if_pos (.inl hzero), toUInt32_toNat]
  rw [signed64_of_lt hdelay, if_neg (by omega)]
  rw [signed64_of_lt (by omega), if_neg (by simp only [maxSpanSeconds]; omega)]
  -- the budget ends its whole seconds after `now`, at an instant outside a leap second
  obtain ⟨e, he⟩ := Option.isSome_iff_exists.mp hend
  rw [he, Instant.addSeconds_eq_some hnow he]
  dsimp only
  have hshift := Instant.lt_shift_iff hdeadline hnow b.totalSeconds
  by_cases hlt : (deadline.since now).totalNanos < b.totalSeconds * 1000000000
  · -- within the budget's length: the budget is kept
    rw [if_pos (hshift.mpr hlt), if_pos (.inr hlt), toUInt32_toNat]
  -- beyond it: the whole delays in the distance, clamped and saturated
  rw [if_neg (mt hshift.mp hlt), if_neg (not_or.mpr ⟨hzero, hlt⟩)]
  have hnonneg : 0 ≤ (deadline.since now).totalNanos := by omega
  rw [Instant.Span.wholeSeconds_tdiv (Instant.since_nanos_lt deadline now) hnonneg,
    min_add_clampCount _ (Int.ediv_nonneg hnonneg (by omega))]

/-- A delay of whole seconds taken fewer than `2^64` seconds' worth of times gives the product of
the seconds. -/
theorem totalSeconds_of_fit {b : Budget} (hwhole : b.delay.nanos = 0)
    (hfit : b.delay.secs.toNat * b.retries.toNat ≤ Duration.maxSecs) :
    b.totalSeconds = b.delay.secs.toNat * b.retries.toNat := by
  rw [totalSeconds_of_whole hwhole]
  exact Nat.min_eq_left hfit

/-- For a delay of whole seconds and a length that is not saturated, the rule over whole seconds
is the rule over exact lengths of time. -/
theorem wholeRetries_eq_exact {b : Budget} (hwhole : b.delay.nanos = 0)
    (hfit : b.delay.secs.toNat * b.retries.toNat ≤ Duration.maxSecs) (distance : Int) :
    wholeRetries b distance = exactRetries b distance := by
  -- the length and the delay in nanoseconds, read as integers
  have hT : (b.totalSeconds : Int) * 1000000000 = b.delay.toNanos * b.retries.toNat := by
    have hnat : b.totalSeconds * 1000000000 = b.delay.toNanos * b.retries.toNat := by
      rw [totalSeconds_of_fit hwhole hfit, toNanos_of_whole hwhole, Nat.mul_comm, Nat.mul_assoc]
    have hcast := congrArg (fun n : Nat => (n : Int)) hnat
    simp only [Int.natCast_mul] at hcast
    exact hcast
  have hδ : (b.delay.secs.toNat : Int) * 1000000000 = b.delay.toNanos := by
    rw [toNanos_of_whole hwhole, Int.natCast_mul, Int.mul_comm]
    rfl
  have hzero : b.delay.toNanos = 0 ↔ b.delay.secs.toNat = 0 := by
    rw [toNanos_of_whole hwhole]
    omega
  unfold wholeRetries exactRetries
  simp only [hT, hδ, hzero]

/-- **The extension is the exact rule** for a delay of whole seconds below `2^63`, a length that
is a span of time and ends within the supported instants, and instants outside leap seconds. -/
theorem extendUntil_eq_exact {b : Budget} {deadline now : Instant}
    (hwhole : b.delay.nanos = 0) (hdelay : b.delay.secs.toNat < 9223372036854775808)
    (hlength : b.delay.secs.toNat * b.retries.toNat ≤ 9223372036854775)
    (hend : (now.addSeconds (b.delay.secs.toNat * b.retries.toNat)).isSome = true)
    (hnow : now.nanos < 1000000000) (hdeadline : deadline.nanos < 1000000000) :
    b.extendUntil deadline now =
      .ok ⟨(exactRetries b (deadline.since now).totalNanos).toUInt32, b.delay⟩ := by
  have hfit : b.delay.secs.toNat * b.retries.toNat ≤ Duration.maxSecs := by
    simp only [Duration.maxSecs]
    omega
  have hend' : (now.addSeconds b.totalSeconds).isSome = true := by
    rw [totalSeconds_of_fit hwhole hfit]
    push_cast
    exact hend
  rw [extendUntil_eq_whole hdelay (by rw [totalSeconds_of_fit hwhole hfit]; exact hlength) hend'
    hnow hdeadline, wholeRetries_eq_exact hwhole hfit]

/-- The default budget grown to a switchover ten hours away follows the exact rule. -/
theorem extendUntil_eq_exact_ten_hours :
    (Budget.new 120 120).extendUntil ⟨1748815200, 0⟩ ⟨1748779200, 0⟩ =
      .ok ⟨(exactRetries (Budget.new 120 120)
        (Instant.since ⟨1748815200, 0⟩ ⟨1748779200, 0⟩).totalNanos).toUInt32, .ofSecs 120⟩ :=
  extendUntil_eq_exact (by decide) (by decide) (by decide) (by decide) (by decide) (by decide)

/-- A delay of 1.5 seconds reads as one second: a deadline ten seconds away adds ten checks, where
the exact rule adds six. -/
example :
    ((⟨1, ⟨1, 500000000, by decide⟩⟩ : Budget).extendUntil ⟨1748779210, 0⟩
        ⟨1748779200, 0⟩).toOption = some ⟨11, ⟨1, 500000000, by decide⟩⟩ ∧
      exactRetries ⟨1, ⟨1, 500000000, by decide⟩⟩ 10000000000 = 7 := by decide

/-- A delay of `2^64 - 1` seconds reads as minus one second: the budget's end comes before
`now`, and a deadline one second after `now` grows the count to the cap, where the exact rule
keeps the single check. -/
example :
    ((Budget.new 1 18446744073709551615).extendUntil ⟨1748779201, 0⟩ ⟨1748779200, 0⟩).toOption =
        some (Budget.new 4294967295 18446744073709551615) ∧
      exactRetries (Budget.new 1 18446744073709551615) 1000000000 = 1 := by decide

/-- The exact rule grows with the deadline. -/
theorem exactRetries_mono (b : Budget) {d₁ d₂ : Int} (h : d₁ ≤ d₂) :
    exactRetries b d₁ ≤ exactRetries b d₂ := by
  have hr := b.retries.toNat_lt
  unfold exactRetries
  split <;> split
  · exact Nat.le_refl _
  · -- the kept count is below every grown one
    simp only [maxRetries] at *
    exact Nat.le_min.mpr ⟨Nat.le_add_right _ _, by omega⟩
  · omega
  · -- both grown: the whole delays grow with the distance
    have hdiv : d₁ / (b.delay.toNanos : Int) ≤ d₂ / (b.delay.toNanos : Int) :=
      Int.ediv_le_ediv (by omega) h
    exact Nat.le_min.mpr ⟨Nat.le_trans (Nat.min_le_left _ _) (by omega), Nat.min_le_right _ _⟩

/-! ## Reaching the deadline -/

/-- Checking with budget `b` from `now` outlasts `deadline`: `now` plus the whole seconds of the
budget's length is not before the deadline. A sum beyond the supported instants lies after every
deadline. -/
def Outlasts (b : Budget) (now deadline : Instant) : Prop :=
  ∀ e, now.addSeconds b.totalSeconds = some e → e.lt deadline = false

/-- A budget too long for the supported instants outlasts every deadline. -/
theorem outlasts_of_far {b : Budget} {now : Instant} (hn : now.nanos < 1000000000)
    (hr : now.inRange = true) (deadline : Instant) (hfar : 17000000000000 ≤ b.totalSeconds) :
    b.Outlasts now deadline := by
  intro e he
  rw [Instant.addSeconds_eq_none hn hr (by omega)] at he
  cases he

/-- A budget whose length is more than the span from `now` to the deadline outlasts it. -/
theorem outlasts_of_covers {b : Budget} {now deadline : Instant} (hn : now.nanos < 1000000000)
    (hd : deadline.nanos < 1000000000)
    (hcover : (deadline.since now).totalNanos < b.totalSeconds * 1000000000) :
    b.Outlasts now deadline := by
  intro e he
  rw [Instant.addSeconds_eq_some hn he, Bool.eq_false_iff, ne_eq, Instant.lt_eq_true_iff]
  rw [Instant.since_totalNanos hd hn] at hcover
  dsimp only
  omega

/-- One more check than the whole delays until a point `u` seconds away reaches past it. -/
theorem succ_le_grown {d r u : Int} (hd : 0 < d) (hr : 1 ≤ r) (hq : 0 ≤ u.tdiv d) :
    u + 1 ≤ d * (r + u.tdiv d) := by
  have hdr : d ≤ d * r := by simpa using Int.mul_le_mul_of_nonneg_left hr (Int.le_of_lt hd)
  rw [Int.tdiv_eq_ediv, Int.sign_eq_one_of_pos hd] at *
  by_cases hu : 0 ≤ u
  · -- the whole delays leave less than one delay before the point
    have hsplit := Int.mul_ediv_add_emod u d
    have hrem := Int.emod_lt_of_pos u hd
    rw [if_pos (.inl hu), Int.add_zero, Int.mul_add]
    omega
  · -- a point in the past: no delay is added
    have hneg := Int.ediv_neg_of_neg_of_pos (Int.lt_of_not_ge hu) hd
    have hzero : u / d + (if 0 ≤ u ∨ d ∣ u then 0 else 1) = 0 := by split <;> omega
    rw [hzero, Int.add_zero]
    omega

/-- A budget whose end, read back from its signed length, comes after the deadline outlasts
the deadline: a length below `2^63` reads as itself, and a longer one leaves the instants. -/
theorem outlasts_of_before_end {b : Budget} {now deadline e : Instant}
    (hrange : now.inRange = true) (hnow : now.nanos < 1000000000)
    (he : now.addSeconds (signed64 b.totalSeconds) = some e) (hlt : deadline.lt e = true) :
    b.Outlasts now deadline := by
  by_cases hlen : b.totalSeconds < 9223372036854775808
  · intro e' he'
    rw [signed64_of_lt hlen, he'] at he
    cases he
    rw [Instant.lt_eq_true_iff] at hlt
    rw [Bool.eq_false_iff, ne_eq, Instant.lt_eq_true_iff]
    omega
  · exact outlasts_of_far hnow hrange deadline (by omega)

/-- A budget grown by the `q` whole delays until the deadline outlasts the deadline when it had
a check already: the added checks reach the deadline's whole seconds, and the one it had reaches
past them. A fractional delay only lengthens each check. -/
theorem grown_outlasts {b b' : Budget} {now deadline : Instant} {q : Int}
    (hdelay : 0 < b.delay.secs.toNat) (hretries : 0 < b.retries.toNat)
    (hrange : now.inRange = true) (hnow : now.nanos < 1000000000)
    (hdeadline : deadline.nanos < 1000000000)
    (hq : (deadline.since now).wholeSeconds.tdiv (signed64 b.delay.secs.toNat) = q) (hq0 : 0 ≤ q)
    (hcount : b'.retries.toNat = b.retries.toNat + q.toNat) (hkeep : b'.delay = b.delay) :
    b'.Outlasts now deadline := by
  by_cases hfar : 17000000000000 ≤ b'.totalSeconds
  · exact outlasts_of_far hnow hrange deadline hfar
  -- a short budget holds the delay's whole seconds once per check
  have hcover : b.delay.secs.toNat * (b.retries.toNat + q.toNat) ≤ b'.totalSeconds := by
    have hle := secs_mul_le_totalSeconds b'
    rw [hcount, hkeep] at hle
    simp only [Nat.min_def, Duration.maxSecs] at hle
    split at hle <;> omega
  have hsmall : b.delay.secs.toNat < 9223372036854775808 := by
    have hle : b.delay.secs.toNat ≤ b.delay.secs.toNat * (b.retries.toNat + q.toNat) :=
      Nat.le_mul_of_pos_right _ (by omega)
    omega
  rw [signed64_of_lt hsmall] at hq
  have hgrown := succ_le_grown (show (0 : Int) < b.delay.secs.toNat by omega)
    (show (1 : Int) ≤ b.retries.toNat by omega) (hq ▸ hq0)
  rw [hq] at hgrown
  have hlt := Instant.Span.totalNanos_lt_wholeSeconds (Instant.since_nanos_lt deadline now)
  have hcast : (b.delay.secs.toNat : Int) * ((b.retries.toNat : Int) + q) ≤ b'.totalSeconds := by
    rw [← Int.toNat_of_nonneg hq0]
    exact_mod_cast hcover
  refine outlasts_of_covers hnow hdeadline ?_
  omega

/-- **A budget grown to a deadline outlasts it.** For a budget with a delay of at least one whole
second and at least one check, and instants outside leap seconds with `now` in range, an extension
that returns gives a budget that checks at least until the deadline, unless its count stands at
the cap of `2^32 - 1`. The monitor's rounds for a scheduled switchover are this extension
(`Monitor.rounds`). -/
theorem extendUntil_outlasts {b b' : Budget} {now deadline : Instant}
    (hdelay : 0 < b.delay.secs.toNat) (hretries : 0 < b.retries.toNat)
    (hrange : now.inRange = true) (hnow : now.nanos < 1000000000)
    (hdeadline : deadline.nanos < 1000000000) (h : b.extendUntil deadline now = .ok b') :
    b'.retries.toNat = maxRetries ∨ b'.Outlasts now deadline := by
  rcases extendUntil_ok h with ⟨hb, hzero | ⟨e, he, hlt⟩⟩ | ⟨-, -, hb⟩
  · exact absurd hzero (signed64_ne_zero hdelay b.delay.secs.toNat_lt)
  · rw [hb]
    exact .inr (outlasts_of_before_end hrange hnow he hlt)
  -- the grown budget: at the cap, or the added checks were not clamped
  generalize hq : (deadline.since now).wholeSeconds.tdiv (signed64 b.delay.secs.toNat) = q at hb
  by_cases hcap : maxRetries ≤ b.retries.toNat + clampCount q
  · left
    rw [hb, toNat_toUInt32 (Nat.min_le_right _ _), Nat.min_eq_right hcap]
  obtain ⟨hq0, -, hk⟩ := clampCount_of_lt (show clampCount q < maxRetries by omega)
  refine .inr (grown_outlasts hdelay hretries hrange hnow hdeadline hq hq0 ?_ (by rw [hb]))
  rw [hb, toNat_toUInt32 (Nat.min_le_right _ _), Nat.min_eq_left (by omega), hk]

/-- An extension read back from its optional form. -/
theorem extendUntil_eq_ok {b b' : Budget} {deadline now : Instant}
    (h : (b.extendUntil deadline now).toOption = some b') : b.extendUntil deadline now = .ok b' := by
  cases hr : b.extendUntil deadline now with
  | error o => rw [hr] at h; cases h
  | ok a => rw [hr] at h; cases h; rfl

/-- The monitor's default budget, 120 checks two minutes apart, grown at 2025-06-01T12:00:00Z to
a switchover ten hours later: 420 checks, which reach it. -/
theorem extendUntil_outlasts_ten_hours :
    (Budget.new 120 120).extendUntil ⟨1748815200, 0⟩ ⟨1748779200, 0⟩ = .ok (Budget.new 420 120) ∧
      ((Budget.new 420 120).retries.toNat = maxRetries ∨
        (Budget.new 420 120).Outlasts ⟨1748779200, 0⟩ ⟨1748815200, 0⟩) :=
  have hext := extendUntil_eq_ok (by decide)
  ⟨hext, extendUntil_outlasts (by decide) (by decide) (by decide) (by decide) (by decide) hext⟩

/-- Without a check to start from, the whole delays fall short of the deadline: no check 100 s
apart, grown at 2025-06-01T12:00:00Z to a deadline 250 s later, gets two checks, which end 50 s
before it. -/
example :
    (Budget.new 0 100).extendUntil ⟨1748779450, 0⟩ ⟨1748779200, 0⟩ = .ok (Budget.new 2 100) ∧
      ¬ (Budget.new 2 100).Outlasts ⟨1748779200, 0⟩ ⟨1748779450, 0⟩ :=
  ⟨extendUntil_eq_ok (by decide), fun h => absurd (h ⟨1748779400, 0⟩ (by decide)) (by decide)⟩

/-- A delay of half a second has no whole second, and the budget is never grown. -/
example :
    (⟨1, ⟨0, 500000000, by decide⟩⟩ : Budget).extendUntil ⟨1748779210, 0⟩ ⟨1748779200, 0⟩ =
        .ok ⟨1, ⟨0, 500000000, by decide⟩⟩ ∧
      ¬ (⟨1, ⟨0, 500000000, by decide⟩⟩ : Budget).Outlasts ⟨1748779200, 0⟩ ⟨1748779210, 0⟩ :=
  ⟨extendUntil_eq_ok (by decide), fun h => absurd (h ⟨1748779200, 0⟩ (by decide)) (by decide)⟩

/-- One check a second from 1970-01-01T00:00:00Z grows to the cap of `2^32 - 1` checks, about
136 years, short of a deadline in 2286. -/
example :
    (Budget.new 1 1).extendUntil ⟨10000000000, 0⟩ ⟨0, 0⟩ = .ok (Budget.new 4294967295 1) ∧
      ¬ (Budget.new 4294967295 1).Outlasts ⟨0, 0⟩ ⟨10000000000, 0⟩ :=
  ⟨extendUntil_eq_ok (by decide), fun h => absurd (h ⟨4294967295, 0⟩ (by decide)) (by decide)⟩

end Budget

end ReducedDowntime
