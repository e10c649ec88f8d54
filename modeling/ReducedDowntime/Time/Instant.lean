/-!
# Instants of UTC time

An instant is a count of seconds since 1970-01-01T00:00:00Z and a count of nanoseconds.
During a leap second the nanoseconds run from `10^9` to `2·10^9 - 1` on top of the second
ending in `:59`, so instants order lexicographically by seconds, then nanoseconds.

The supported instants lie between -262143-01-01T00:00:00Z and
262142-12-31T23:59:59.999999999Z. Arithmetic that leaves this range has no result.

## Calendar

Days are converted to and from proleptic Gregorian dates by the usual era arithmetic: a
year is counted from March, so that the leap day ends it, and eras of 400 years have
146097 days each.
-/

namespace ReducedDowntime.Time

/-- A proleptic Gregorian date. -/
structure Date where
  year : Int
  month : Nat
  day : Nat
  deriving DecidableEq, Repr

/-- Whether a year has a 29 February. -/
def isLeapYear (y : Int) : Bool :=
  (y % 4 == 0 && y % 100 != 0) || y % 400 == 0

/-- The number of days of a month. -/
def daysInMonth (y : Int) (m : Nat) : Nat :=
  match m with
  | 2 => if isLeapYear y then 29 else 28
  | 4 | 6 | 9 | 11 => 30
  | _ => 31

/-- Whether the date names a day of the calendar. -/
def Date.valid (d : Date) : Bool :=
  1 ≤ d.month && d.month ≤ 12 && 1 ≤ d.day && d.day ≤ daysInMonth d.year d.month

/-- Days from 1970-01-01 to a date. -/
def Date.toDays (d : Date) : Int :=
  let y : Int := if d.month ≤ 2 then d.year - 1 else d.year
  let era := y / 400
  let yoe := y - era * 400
  let mp : Int := if d.month > 2 then (d.month : Int) - 3 else (d.month : Int) + 9
  let doy := (153 * mp + 2) / 5 + d.day - 1
  let doe := yoe * 365 + yoe / 4 - yoe / 100 + doy
  era * 146097 + doe - 719468

/-- The date that lies a number of days after 1970-01-01. -/
def Date.ofDays (z : Int) : Date :=
  let z := z + 719468
  let era := z / 146097
  let doe := z - era * 146097
  let yoe := (doe - doe / 1460 + doe / 36524 - doe / 146096) / 365
  let y := yoe + era * 400
  let doy := doe - (365 * yoe + yoe / 4 - yoe / 100)
  let mp := (5 * doy + 2) / 153
  let d := doy - (153 * mp + 2) / 5 + 1
  let m := if mp < 10 then mp + 3 else mp - 9
  ⟨if m ≤ 2 then y + 1 else y, m.toNat, d.toNat⟩

/-- A point of UTC time. -/
structure Instant where
  /-- Seconds since 1970-01-01T00:00:00Z; a leap second counts as the second before it. -/
  seconds : Int
  /-- Nanoseconds into the second, at least `10^9` only within a leap second. -/
  nanos : Nat
  deriving DecidableEq, Repr

namespace Instant

/-- Seconds of the earliest supported instant, -262143-01-01T00:00:00Z. -/
def minSeconds : Int := (Date.toDays ⟨-262143, 1, 1⟩) * 86400

/-- Seconds of the last whole second of the latest supported day, 262142-12-31T23:59:59Z. -/
def maxSeconds : Int := (Date.toDays ⟨262142, 12, 31⟩) * 86400 + 86399

/-- The earliest supported instant. -/
def min : Instant := ⟨minSeconds, 0⟩

/-- The latest supported instant. -/
def max : Instant := ⟨maxSeconds, 999999999⟩

/-- Whether an instant is within the supported range. -/
def inRange (t : Instant) : Bool := minSeconds ≤ t.seconds && t.seconds ≤ maxSeconds

/-- Instants in time order. -/
def lt (a b : Instant) : Bool :=
  a.seconds < b.seconds || (a.seconds == b.seconds && a.nanos < b.nanos)

/-- The calendar day of an instant. -/
def date (t : Instant) : Date := Date.ofDays (t.seconds / 86400)

/-- Seconds since midnight of an instant's day. -/
def secondOfDay (t : Instant) : Nat := (t.seconds % 86400).toNat

/-- Adds whole seconds. Leaving a leap second forward counts it as the second before the next
one, leaving it backward as the next one; the result must stay in range. -/
def addSeconds (t : Instant) (s : Int) : Option Instant :=
  let moved : Instant :=
    if t.nanos ≥ 1000000000 then
      if s > 0 then ⟨t.seconds + s, t.nanos - 1000000000⟩
      else if s < 0 then ⟨t.seconds + 1 + s, t.nanos - 1000000000⟩
      else t
    else ⟨t.seconds + s, t.nanos⟩
  if moved.inRange then some moved else none

/-- Adds nanoseconds. Within a leap second the count first runs to the end of the leap
second; the result must stay in range. -/
def addNanos (t : Instant) (n : Nat) : Option Instant :=
  if t.nanos ≥ 1000000000 && t.nanos + n < 2000000000 then some ⟨t.seconds, t.nanos + n⟩
  else
    let total := if t.nanos ≥ 1000000000 then t.nanos + n - 1000000000 else t.nanos + n
    let moved : Instant := ⟨t.seconds + (total / 1000000000 : Nat), total % 1000000000⟩
    if moved.inRange then some moved else none

/-- A signed length of time: whole seconds and nanoseconds `0 ≤ nanos < 10^9` added to them. -/
structure Span where
  seconds : Int
  nanos : Nat
  deriving DecidableEq, Repr

/-- Whole seconds of a span, rounded toward zero. -/
def Span.wholeSeconds (d : Span) : Int :=
  if d.seconds < 0 && d.nanos > 0 then d.seconds + 1 else d.seconds

/-- A span in nanoseconds. -/
def Span.totalNanos (d : Span) : Int := d.seconds * 1000000000 + d.nanos

/-- The span from `b` to `a`. A leap second within one of the days is counted where the two
times of day lie on its two sides. -/
def since (a b : Instant) : Span :=
  let dayA := a.seconds / 86400
  let dayB := b.seconds / 86400
  let secA : Int := a.seconds % 86400
  let secB : Int := b.seconds % 86400
  let secs := (dayA - dayB) * 86400 + (secA - secB)
  let secs :=
    if secA > secB && b.nanos ≥ 1000000000 then secs + 1
    else if secA < secB && a.nanos ≥ 1000000000 then secs - 1
    else secs
  let frac : Int := (a.nanos : Int) - b.nanos
  ⟨secs + frac / 1000000000, (frac % 1000000000).toNat⟩

end Instant

end ReducedDowntime.Time
