/-!
# Lengths of time

A length of time is a count of whole seconds, at most `2^64 - 1`, and the nanoseconds past
them, fewer than `10^9`: the lengths that delays and sleeps take. Its view is its count of
nanoseconds (`toNanos`).

A length taken a number of times saturates at the largest length, `2^64 - 1` seconds and
999999999 nanoseconds, when the exact product has more than `2^64 - 1` whole seconds
(`saturatingMul`). Below that bound the product is exact, nanoseconds included.
-/

namespace ReducedDowntime.Time

/-- A length of time: whole seconds and the nanoseconds past them. -/
structure Duration where
  secs : UInt64
  nanos : Nat
  nanos_lt : nanos < 1000000000 := by decide
  deriving DecidableEq, Repr

namespace Duration

/-- The largest count of whole seconds. -/
def maxSecs : Nat := 18446744073709551615

/-- A length of whole seconds. -/
def ofSecs (s : UInt64) : Duration := ⟨s, 0, by decide⟩

instance : Inhabited Duration := ⟨ofSecs 0⟩

/-- The largest length of time. -/
def max : Duration := ⟨18446744073709551615, 999999999, by decide⟩

/-- A length in nanoseconds. -/
def toNanos (d : Duration) : Nat := 1000000000 * d.secs.toNat + d.nanos

/-- The length `total` nanoseconds long, when its whole seconds fit. -/
def ofNanos (total : Nat) : Duration :=
  ⟨(total / 1000000000).toUInt64, total % 1000000000, Nat.mod_lt _ (by decide)⟩

/-- A length taken `n` times, saturated at the largest length. -/
def saturatingMul (d : Duration) (n : Nat) : Duration :=
  if d.toNanos * n / 1000000000 ≤ maxSecs then ofNanos (d.toNanos * n) else max

@[simp] theorem toNanos_ofSecs (s : UInt64) : (ofSecs s).toNanos = 1000000000 * s.toNat := by
  simp [toNanos, ofSecs]

@[simp] theorem secs_ofSecs (s : UInt64) : (ofSecs s).secs = s := rfl

@[simp] theorem nanos_ofSecs (s : UInt64) : (ofSecs s).nanos = 0 := rfl

/-- The whole seconds of a length are its nanoseconds over `10^9`. -/
theorem secs_eq (d : Duration) : d.secs.toNat = d.toNanos / 1000000000 := by
  have := d.nanos_lt
  unfold toNanos
  omega

/-- A length whose whole seconds fit is read back from its nanoseconds. -/
theorem secs_ofNanos {total : Nat} (h : total / 1000000000 ≤ maxSecs) :
    (ofNanos total).secs.toNat = total / 1000000000 :=
  UInt64.toNat_ofNat_of_lt' (by rw [UInt64.size]; simp only [maxSecs] at h; omega)

theorem toNanos_ofNanos {total : Nat} (h : total / 1000000000 ≤ maxSecs) :
    (ofNanos total).toNanos = total := by
  unfold toNanos
  rw [secs_ofNanos h]
  simp only [ofNanos]
  omega

/-- The whole seconds of a product: the exact ones, saturated. -/
theorem secs_saturatingMul (d : Duration) (n : Nat) :
    (d.saturatingMul n).secs.toNat = Nat.min (d.toNanos * n / 1000000000) maxSecs := by
  unfold saturatingMul
  simp only [Nat.min_def]
  split
  · next h => exact secs_ofNanos h
  · rfl

/-- Below the saturation bound, a product is exact. -/
theorem toNanos_saturatingMul {d : Duration} {n : Nat}
    (h : d.toNanos * n / 1000000000 ≤ maxSecs) : (d.saturatingMul n).toNanos = d.toNanos * n := by
  unfold saturatingMul
  rw [if_pos h, toNanos_ofNanos h]

end Duration

end ReducedDowntime.Time
