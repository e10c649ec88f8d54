import ReducedDowntime.Failure
import ReducedDowntime.Time.Instant
import ReducedDowntime.Time.Duration

/-!
# Budgets of checks

A poller checks at most `retries` times, `delay` apart; the delay is a length of time,
whole seconds and nanoseconds. The whole budget covers `retries · delay`, saturating at the
largest length of time (2^64 - 1 seconds and 999999999 nanoseconds).

## Extending a budget to a deadline

A scheduled switchover must not end the monitor early, so the budget grows to cover it:
when the deadline is at or beyond `now` plus the budget's length, one check is added for
each whole delay between `now` and the deadline.

The arithmetic is that of signed 64-bit seconds: the whole seconds of the delay and of the
length, their fractions dropped, are read as two's-complement 64-bit numbers, so values of
2^63 and more are negative. A delay of no whole second leaves the budget as it is. A length beyond `(2^63 - 1) / 1000` seconds either way is
no span of time, and one that carries `now` out of the supported instants overflows;
both stop the program. An added count that is negative or does not fit 32 bits counts as
2^32 - 1, and the sum saturates at 2^32 - 1.
-/

namespace ReducedDowntime

/-- How many checks, and how far apart. -/
structure Budget where
  retries : UInt32
  delay : Time.Duration
  deriving DecidableEq, Repr, Inhabited

/-- A budget of `retries` checks, `delaySecs` whole seconds apart. -/
def Budget.new (retries : UInt32) (delaySecs : UInt64) : Budget := ⟨retries, .ofSecs delaySecs⟩

/-- The largest count of checks. -/
def Budget.maxRetries : Nat := 4294967295

namespace Budget

/-- The length of the whole budget, saturated. -/
def total (b : Budget) : Time.Duration := b.delay.saturatingMul b.retries.toNat

/-- The whole seconds of the budget's length. -/
def totalSeconds (b : Budget) : Nat := b.total.secs.toNat

/-- A 64-bit pattern read as a two's-complement signed number. -/
def signed64 (n : Nat) : Int := Int.bmod n (Nat.pow 2 64)

/-- Why extending a budget stops the program. -/
inductive Overflow where
  /-- The budget's length is no span of time. -/
  | spanOutOfBounds
  /-- `now` plus the budget's length leaves the supported instants. -/
  | instantOverflow
  deriving DecidableEq, Repr

/-- The message the program stops with. -/
def Overflow.message : Overflow → String
  | .spanOutOfBounds => "TimeDelta::seconds out of bounds"
  | .instantOverflow => "`DateTime + TimeDelta` overflowed"

/-- The largest number of seconds of a span of time, `(2^63 - 1) / 1000`. -/
def maxSpanSeconds : Int := 9223372036854775

/-- A count of added checks as 32 bits: a negative or too large count is the largest. -/
def clampCount (n : Int) : Nat :=
  if 0 ≤ n ∧ n ≤ (maxRetries : Int) then n.toNat else maxRetries

/-- Grows the budget so that checking outlasts `deadline`. -/
def extendUntil (b : Budget) (deadline now : Time.Instant) : Except Overflow Budget :=
  let delay := signed64 b.delay.secs.toNat
  if delay = 0 then .ok b
  else
    let length := signed64 b.totalSeconds
    if length < -maxSpanSeconds ∨ maxSpanSeconds < length then .error .spanOutOfBounds
    else
      match now.addSeconds length with
      | none => .error .instantOverflow
      | some budgetEnd =>
        if deadline.lt budgetEnd then .ok b
        else
          let untilDeadline := (deadline.since now).wholeSeconds
          let extra := clampCount (untilDeadline.tdiv delay)
          let retries := Nat.min (b.retries.toNat + extra) maxRetries
          .ok { b with retries := retries.toUInt32 }

/-- The failure of an operation that outlived the budget. -/
def timeout (b : Budget) (operation : String) : UpgradeError :=
  .timeout operation
    ("no terminal state after " ++ toString b.totalSeconds ++ " seconds (" ++
      toString b.retries.toNat ++ " checks, " ++ toString b.delay.secs.toNat ++ "s apart)")

end Budget

end ReducedDowntime
