import ReducedDowntime.Time.Instant

/-!
# RFC 3339 text of instants

## Reading

The reader is lenient in the way the service documents need:

* a date `Y-MM-DD`, where the year has up to four digits, or any number of digits after an
  explicit sign;
* `T`, `t` or a blank;
* a time `hh:mm:ss` with an optional fraction of any length (digits past the ninth are
  read and dropped);
* blanks may stand around the separators `-` and `:` and before each number;
* an offset `Z`, `UTC` (any case) or `±hh:mm` (also `±hh mm`, `±hhmm`, with `−` as minus).

Each field is checked when it is read (a month above 12 is out of range at once). The
calendar date and the offset are checked when all is read. Errors have six kinds, with
fixed wording.

## Writing

An instant is written in UTC with seconds, a fraction of 3, 6 or 9 digits only when it is
not zero (the fewest of those that are exact), and `Z` or `+00:00` at the end. A year
outside 0 to 9999 carries its sign and at least four digits.
-/

namespace ReducedDowntime.Time

/-- Why a text is not an instant. -/
inductive TimeError where
  | outOfRange
  | impossible
  | notEnough
  | invalid
  | tooShort
  | tooLong
  deriving DecidableEq, Repr

/-- The wording of a reading error. -/
def TimeError.message : TimeError → String
  | .outOfRange => "input is out of range"
  | .impossible => "no possible date and time matching input"
  | .notEnough => "input is not enough for unique date and time"
  | .invalid => "input contains invalid characters"
  | .tooShort => "premature end of input"
  | .tooLong => "trailing input"

/-- Characters with the Unicode White_Space property. -/
def isBlank (c : Char) : Bool :=
  let n := c.toNat
  (9 ≤ n && n ≤ 13) || n == 32 || n == 0x85 || n == 0xA0 || n == 0x1680 ||
    (0x2000 ≤ n && n ≤ 0x200A) || n == 0x2028 || n == 0x2029 || n == 0x202F ||
    n == 0x205F || n == 0x3000

/-- The text after its leading blanks. -/
def dropBlanks (s : List Char) : List Char := s.dropWhile isBlank

/-- Reads between `least` and `most` decimal digits. Fewer than `least` digits is an invalid
character, or a premature end when nothing is left; a value beyond 2^63 - 1 is out of range. -/
def readNumber (s : List Char) (least most : Nat) : Except TimeError (Nat × List Char) :=
  let rec go (s : List Char) (i : Nat) (acc : Nat) : Except TimeError (Nat × List Char) :=
    match s with
    | [] => if i < least then .error .invalid else .ok (acc, [])
    | c :: rest =>
      if i ≥ most then .ok (acc, s)
      else if c.isDigit then
        let acc' := acc * 10 + (c.toNat - 48)
        if acc' > 9223372036854775807 then .error .outOfRange else go rest (i + 1) acc'
      else if i < least then .error .invalid
      else .ok (acc, s)
  if s.isEmpty && least > 0 then .error .tooShort else go s 0 0

/-- Reads a fraction of a second: at least one digit; the first nine give nanoseconds. -/
def readFraction (s : List Char) : Except TimeError (Nat × List Char) := do
  let (v, rest) ← readNumber s 1 9
  let used := s.length - rest.length
  let scaled := v * Nat.pow 10 (9 - used)
  .ok (scaled, rest.dropWhile Char.isDigit)

/-- Expects a literal character. -/
def expectChar (c : Char) (s : List Char) : Except TimeError (List Char) :=
  match s with
  | [] => .error .tooShort
  | d :: rest => if d == c then .ok rest else .error .invalid

/-- Reads an unsigned field of at most two digits and checks its range. -/
def readField (s : List Char) (lo hi : Nat) : Except TimeError (Nat × List Char) := do
  let (v, rest) ← readNumber (dropBlanks s) 1 2
  if lo ≤ v && v ≤ hi then .ok (v, rest) else .error .outOfRange

/-- Reads a year: four digits at most without a sign, any number after one. -/
def readYear (s : List Char) : Except TimeError (Int × List Char) := do
  let s := dropBlanks s
  let (y, rest) ← match s with
    | '-' :: r => do let (v, r) ← readNumber r 1 (Nat.pow 2 64); pure (-(v : Int), r)
    | '+' :: r => do let (v, r) ← readNumber r 1 (Nat.pow 2 64); pure ((v : Int), r)
    | _ => do let (v, r) ← readNumber s 1 4; pure ((v : Int), r)
  if -2147483648 ≤ y && y ≤ 2147483647 then .ok (y, rest) else .error .outOfRange

/-- Two ASCII digits as a number, when both are digits. -/
def twoDigits (a b : Char) : Option Nat :=
  if a.isDigit && b.isDigit then some ((a.toNat - 48) * 10 + (b.toNat - 48)) else none

/-- Reads an offset from UTC in seconds: `Z`, or a sign, two digits of hours, colons or
blanks, and two digits of minutes below 60. -/
def readOffset (s : List Char) : Except TimeError (Int × List Char) :=
  match s with
  | 'Z' :: rest => .ok (0, rest)
  | 'z' :: rest => .ok (0, rest)
  | [] => .error .tooShort
  | c :: rest =>
    let sign : Option Int :=
      if c == '+' then some 1 else if c == '-' || c == '−' then some (-1) else none
    match sign with
    | none => .error .invalid
    | some sign =>
      match rest with
      | h1 :: h2 :: afterHours =>
        match twoDigits h1 h2 with
        | none => .error .invalid
        | some hours =>
          let s := afterHours.dropWhile (fun c => c == ':' || isBlank c)
          match s with
          | m1 :: m2 :: afterMinutes =>
            if m1.isDigit && m2.isDigit then
              if m1.toNat - 48 ≤ 5 then
                .ok (sign * ((hours * 3600 + ((m1.toNat - 48) * 10 + (m2.toNat - 48)) * 60 : Nat) : Int),
                  afterMinutes)
              else .error .outOfRange
            else .error .invalid
          | _ => .error .tooShort
      | _ => .error .tooShort

/-- Whether the text begins with `UTC` in any case. -/
def startsWithUtc (s : List Char) : Bool :=
  match s with
  | a :: b :: c :: _ => a.toLower == 'u' && b.toLower == 't' && c.toLower == 'c'
  | _ => false

/-- The instant of the fields read: the date must name a day of a supported year and the
offset be less than a day; a second 60 is a leap second, kept as the 59th with its nanoseconds
past 10^9. -/
def instantOfFields (year : Int) (month day hour minute second nanos : Nat) (offset : Int) :
    Except TimeError Instant := do
  let date : Date := ⟨year, month, day⟩
  if !(date.valid && -262143 ≤ year && year ≤ 262142) then .error .outOfRange
  if !(-86400 < offset && offset < 86400) then .error .outOfRange
  let (second, nanos) := if second == 60 then (59, nanos + 1000000000) else (second, nanos)
  let civil : Int := date.toDays * 86400 + hour * 3600 + minute * 60 + second
  let t : Instant := ⟨civil - offset, nanos⟩
  if t.inRange then .ok t else .error .outOfRange

/-- Reads an instant from RFC 3339 text. -/
def parseInstant (text : String) : Except TimeError Instant := do
  let s := text.toList
  let (year, s) ← readYear s
  let s ← expectChar '-' (dropBlanks s)
  let (month, s) ← readField s 1 12
  let s ← expectChar '-' (dropBlanks s)
  let (day, s) ← readField s 1 31
  let s ← match s with
    | c :: rest => if c == 'T' || c == 't' || c == ' ' then pure rest else .error .invalid
    | [] => .error .tooShort
  let (hour, s) ← readField s 0 23
  let s ← expectChar ':' (dropBlanks s)
  let (minute, s) ← readField s 0 59
  let s ← expectChar ':' (dropBlanks s)
  let (second, s) ← readField s 0 60
  let (nanos, s) ← match s with
    | '.' :: rest => readFraction rest
    | _ => pure (0, s)
  let s := dropBlanks s
  let (offset, s) ← if startsWithUtc s then pure (0, s.drop 3) else readOffset s
  if !(dropBlanks s).isEmpty then .error .tooLong
  instantOfFields year month day hour minute second nanos offset

/-- Two decimal digits. -/
def pad2 (n : Nat) : String :=
  String.ofList [Char.ofNat (48 + n / 10 % 10), Char.ofNat (48 + n % 10)]

/-- At least `width` decimal digits, with leading zeros. -/
def padDigits (width n : Nat) : String :=
  let ds := Nat.toDigits 10 n
  String.ofList (List.replicate (width - ds.length) '0' ++ ds)

/-- A year: four digits within 0 to 9999, otherwise a sign and at least four digits. -/
def yearText (y : Int) : String :=
  if 0 ≤ y && y ≤ 9999 then padDigits 4 y.toNat
  else (if y < 0 then "-" else "+") ++ padDigits 4 y.natAbs

/-- The fraction of a second: none, or 3, 6 or 9 digits, the fewest that are exact. -/
def fractionText (nanos : Nat) : String :=
  if nanos == 0 then ""
  else if nanos % 1000000 == 0 then "." ++ padDigits 3 (nanos / 1000000)
  else if nanos % 1000 == 0 then "." ++ padDigits 6 (nanos / 1000)
  else "." ++ padDigits 9 nanos

/-- The RFC 3339 text of an instant in UTC, ending in `Z` or in `+00:00`. -/
def Instant.rfc3339 (t : Instant) (zulu : Bool) : String :=
  let d := t.date
  let sod := t.secondOfDay
  let leap := t.nanos ≥ 1000000000
  let sec := sod % 60 + (if leap then 1 else 0)
  let nanos := if leap then t.nanos - 1000000000 else t.nanos
  yearText d.year ++ "-" ++ pad2 d.month ++ "-" ++ pad2 d.day ++ "T" ++ pad2 (sod / 3600) ++ ":" ++
    pad2 (sod / 60 % 60) ++ ":" ++ pad2 sec ++ fractionText nanos ++ (if zulu then "Z" else "+00:00")

end ReducedDowntime.Time
