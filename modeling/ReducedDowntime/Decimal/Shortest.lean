/-!
# Shortest decimal text of a binary64 number

A finite binary64 number is `m · 2^e` for integers `m` and `e`. Every real number in the
rounding interval around it reads back as the same number; the interval's ends belong to
it when `m` is even. The shortest text takes, for 1, 2, … 17 significant digits, the
decimal grid of that many digits below the number's magnitude, and stops at the first
grid that has a point inside the interval. Of the points of that grid inside the interval
it takes the one nearest to the number; an exact tie goes to the even last digit.

All of this is exact arithmetic on natural numbers.

## Text

Digits `d` with exponent `k` (the number is `d · 10^k`) are written positionally when the
number is at least `10^-5` and below `10^16`, and as `d.ddde±x` otherwise. A written
integer keeps a `.0`.
-/

namespace ReducedDowntime.Decimal

/-- The parts of a finite, non-zero binary64 number: sign, significand and power of two. -/
structure Binary where
  negative : Bool
  significand : Nat
  exponent : Int
  /-- Whether the next smaller number is closer than the next larger one (a power of two). -/
  lowerCloser : Bool

/-- What a binary64 bit pattern holds. -/
inductive Kind where
  | zero (negative : Bool)
  | finite (b : Binary)
  | infinite (negative : Bool)
  | nan

/-- Splits the 64 bits of a number into sign, exponent field and fraction field. -/
def classify (bits : Nat) : Kind :=
  let negative : Bool := bits / Nat.pow 2 63 % 2 == 1
  let field : Nat := bits / Nat.pow 2 52 % 2048
  let fraction : Nat := bits % Nat.pow 2 52
  if field == 2047 then
    if fraction == 0 then .infinite negative else .nan
  else if field == 0 then
    if fraction == 0 then .zero negative
    else .finite ⟨negative, fraction, -1074, false⟩
  else
    .finite ⟨negative, fraction + Nat.pow 2 52, (field : Int) - 1075, fraction == 0 && field > 1⟩

/-- A positive rational number as numerator and denominator. -/
structure Ratio where
  num : Nat
  den : Nat

/-- `a · 2^e` as a ratio. -/
def Ratio.ofPow2 (a : Nat) (e : Int) : Ratio :=
  if 0 ≤ e then ⟨a * Nat.pow 2 e.toNat, 1⟩ else ⟨a, Nat.pow 2 (-e).toNat⟩

/-- `r / 10^q` as a ratio. -/
def Ratio.divPow10 (r : Ratio) (q : Int) : Ratio :=
  if 0 ≤ q then ⟨r.num, r.den * Nat.pow 10 q.toNat⟩ else ⟨r.num * Nat.pow 10 (-q).toNat, r.den⟩

/-- The largest `k` with `10^k ≤ r`, for `r > 0`, searched upward from a lower bound. -/
def log10Floor (r : Ratio) : Int :=
  -- r = num/den; count the digits of num and den to start within one of the answer
  let guess : Int := ((Nat.toDigits 10 r.num).length : Int) - (Nat.toDigits 10 r.den).length
  let below (k : Int) : Bool :=
    let s := r.divPow10 k
    s.den ≤ s.num
  if below guess then guess else guess - 1

/-- The shortest digits of a finite non-zero number: `(d, k)` with value `d · 10^k`. -/
def shortest (b : Binary) : Nat × Int :=
  -- the number and its interval, all scaled by 4 to keep quarter units integral
  let v := Ratio.ofPow2 (4 * b.significand) (b.exponent - 2)
  let lo := Ratio.ofPow2 (4 * b.significand - (if b.lowerCloser then 1 else 2)) (b.exponent - 2)
  let hi := Ratio.ofPow2 (4 * b.significand + 2) (b.exponent - 2)
  let inclusive := b.significand % 2 == 0
  let e10 := log10Floor v
  let attempt (n : Nat) : Option (Nat × Int) :=
    let q : Int := e10 - n + 1
    let lq := lo.divPow10 q
    let hq := hi.divPow10 q
    let vq := v.divPow10 q
    -- the smallest and largest grid points inside the interval
    let first :=
      if lq.num % lq.den == 0 then (if inclusive then lq.num / lq.den else lq.num / lq.den + 1)
      else lq.num / lq.den + 1
    let last :=
      if hq.num % hq.den == 0 then (if inclusive then hq.num / hq.den else hq.num / hq.den - 1)
      else hq.num / hq.den
    if first ≤ last then
      -- the grid point nearest to the number, ties to even
      let down := vq.num / vq.den
      let twice := 2 * (vq.num % vq.den)
      let near :=
        if twice < vq.den then down
        else if twice > vq.den then down + 1
        else if down % 2 == 0 then down else down + 1
      let pick := if near < first then first else if last < near then last else near
      some (pick, q)
    else none
  let found := ((List.range 17).map (· + 1)).findSome? attempt
  let (d, k) := found.getD (0, 0)
  -- drop trailing zeros of the digits
  let rec strip (fuel : Nat) (d : Nat) (k : Int) : Nat × Int :=
    match fuel with
    | 0 => (d, k)
    | fuel + 1 => if d ≠ 0 && d % 10 == 0 then strip fuel (d / 10) (k + 1) else (d, k)
  strip 20 d k

/-- The exponent of a text in scientific form: a minus sign when negative, no plus sign. -/
def exponentText (x : Int) : String :=
  if x < 0 then "-" ++ toString x.natAbs else toString x.natAbs

/-- The text of digits `d` with exponent `k`, positional between `10^-5` and `10^16`. -/
def digitsText (d : Nat) (k : Int) : String :=
  let ds := Nat.toDigits 10 d
  let length : Int := ds.length
  let kk := length + k
  if 0 ≤ k ∧ kk ≤ 16 then
    String.ofList ds ++ String.ofList (List.replicate k.toNat '0') ++ ".0"
  else if 0 < kk ∧ kk ≤ 16 then
    String.ofList (ds.take kk.toNat) ++ "." ++ String.ofList (ds.drop kk.toNat)
  else if -5 < kk ∧ kk ≤ 0 then
    "0." ++ String.ofList (List.replicate (-kk).toNat '0') ++ String.ofList ds
  else if ds.length == 1 then
    String.ofList ds ++ "e" ++ exponentText (kk - 1)
  else
    String.ofList (ds.take 1) ++ "." ++ String.ofList (ds.drop 1) ++ "e" ++ exponentText (kk - 1)

/-- The shortest text of a binary64 number given by its bits. -/
def bitsText (bits : Nat) : String :=
  match classify bits with
  | .zero negative => if negative then "-0.0" else "0.0"
  | .infinite negative => if negative then "-inf" else "inf"
  | .nan => "NaN"
  | .finite b =>
    let (d, k) := shortest b
    (if b.negative then "-" else "") ++ digitsText d k

/-- The shortest text of a float. -/
def floatText (f : Float) : String := bitsText f.toBits.toNat

end ReducedDowntime.Decimal
