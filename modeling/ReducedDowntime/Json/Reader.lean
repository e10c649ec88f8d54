import ReducedDowntime.Json.Error

/-!
# Reading JSON text

The reader walks the text one character at a time and keeps its place as a line and a
column of UTF-8 bytes. Errors are placed in one of two ways:

* an error about the next character, which is only looked at, is placed on that
  character: the column just after what was read so far (`Cursor.ahead`);
* any other error is placed after what was read so far (`Cursor.here`), so an error
  about a value that was read whole points at its last byte.

Problems of type carry no place when they arise; the decoder of the value that was being
read places them when it gives up (`placed`), after everything it consumed.

## Two ways to pass over a value

A value is either *read* (strings are checked for paired surrogates, numbers are turned
into numbers and may be out of range) or *skipped* (only the shape of the text is
checked). Unknown members of an object are skipped.

## Termination

Every loop takes a fuel argument. The callers start it at the length of the text, and
every turn of a loop reads at least one character, so it never runs out on a text that
fits it.
-/

namespace ReducedDowntime.Json

/-- Where the reader stands: the rest of the text, the place, and the nesting still allowed. -/
structure Cursor where
  rest : List Char
  line : Nat
  column : Nat
  depth : Nat

/-- The start of a text. Nesting of arrays and objects stops at 127 levels. -/
def Cursor.start (text : String) : Cursor := ⟨text.toList, 1, 0, 128⟩

/-- The place after what was read. -/
def Cursor.here (c : Cursor) : Position := ⟨c.line, c.column⟩

/-- The place of the next character, which was only looked at. -/
def Cursor.ahead (c : Cursor) : Position :=
  match c.rest with
  | [] => c.here
  | '\n' :: _ => ⟨c.line + 1, 0⟩
  | _ :: _ => ⟨c.line, c.column + 1⟩

/-- Reads one character. -/
def Cursor.step (c : Cursor) : Cursor :=
  match c.rest with
  | [] => c
  | ch :: r => if ch == '\n' then { c with rest := r, line := c.line + 1, column := 0 }
    else { c with rest := r, column := c.column + ch.utf8Size }

/-- Passes over blanks: space, tab, line feed and carriage return. -/
def Cursor.skipBlanks (c : Cursor) : Cursor :=
  match h : c.rest with
  | [] => c
  | ch :: _ =>
    if ch == ' ' || ch == '\t' || ch == '\r' || ch == '\n' then
      have : c.step.rest.length < c.rest.length := by
        simp only [Cursor.step, h]; split <;> simp
      c.step.skipBlanks
    else c
termination_by c.rest.length

/-- Reads exactly `n` bytes, or all that is left, counting line feeds. -/
def Cursor.skipBytes (c : Cursor) (n : Nat) : Cursor :=
  match n, h : c.rest with
  | 0, _ => c
  | _, [] => c
  | n + 1, ch :: _ =>
    have : c.step.rest.length < c.rest.length := by
      simp only [Cursor.step, h]; split <;> simp
    if ch.utf8Size ≤ n + 1 then (c.step).skipBytes (n + 1 - ch.utf8Size)
    else { c.step with column := c.column + n + 1 }
termination_by c.rest.length

/-- The number of UTF-8 bytes left. -/
def Cursor.bytesLeft (c : Cursor) : Nat := (c.rest.map Char.utf8Size).foldr (· + ·) 0

/-- A computation that reads JSON text. Failing keeps the place where it failed. -/
abbrev Reader := ExceptT DecodeError (StateM Cursor)

namespace Reader

/-- The next character, without reading it. -/
def peek : Reader (Option Char) := do return (← get).rest.head?

/-- Reads the next character. -/
def bump : Reader Unit := modify Cursor.step

/-- Reads the next character and returns it. -/
def next : Reader (Option Char) := do
  let c ← peek
  bump
  return c

/-- Passes over blanks and looks at the next character. -/
def blanks : Reader (Option Char) := do
  modify Cursor.skipBlanks
  peek

/-- Fails with a syntax problem placed after what was read. -/
def failHere {α : Type} (s : Syntax) : Reader α := do
  throw ⟨.malformed s, some (← get).here⟩

/-- Fails with a syntax problem placed on the next character. -/
def failAhead {α : Type} (s : Syntax) : Reader α := do
  throw ⟨.malformed s, some (← get).ahead⟩

/-- Fails with a problem to be placed later. -/
def failUnplaced {α : Type} (p : Problem) : Reader α := throw ⟨p, none⟩

/-- Places the problems of `act` that have no place yet after what was read when it failed. -/
def placed {α : Type} (act : Reader α) : Reader α :=
  tryCatch act fun e => do
    match e.position with
    | some _ => throw e
    | none => throw { e with position := some (← get).here }

/-- Runs `act` and returns its failure instead of passing it on. -/
def attempt {α : Type} (act : Reader α) : Reader (Except DecodeError α) :=
  tryCatch (do return .ok (← act)) fun e => return .error e

/-- Reads the rest of a literal such as `ull` after `n`. -/
def literal (rest : List Char) : Reader Unit := do
  for expected in rest do
    match ← next with
    | none => failHere .eofWhileParsingValue
    | some c => if c != expected then failHere .expectedSomeIdent

/-- Enters an array or object: one level less of nesting, failing on the bracket when none
is left. -/
def enter : Reader Unit := do
  let c ← get
  if c.depth ≤ 1 then failAhead .recursionLimitExceeded
  set { c with depth := c.depth - 1 }

/-- Leaves an array or object. -/
def leave : Reader Unit := modify fun c => { c with depth := c.depth + 1 }

/-! ## Strings -/

/-- The value of a hexadecimal digit. -/
def hexValue (c : Char) : Option Nat :=
  if c.isDigit then some (c.toNat - 48)
  else if 'a' ≤ c && c ≤ 'f' then some (c.toNat - 87)
  else if 'A' ≤ c && c ≤ 'F' then some (c.toNat - 55)
  else none

/-- Reads the four hexadecimal digits of a `\u` escape. Fewer than four bytes left is the end
of the text; four bytes that are not all digits are an invalid escape. -/
def hexEscape : Reader Nat := do
  let c ← get
  if c.bytesLeft < 4 then
    set (c.skipBytes c.bytesLeft)
    failHere .eofWhileParsingString
  let value := match c.rest with
    | a :: b :: d :: e :: _ =>
      match hexValue a, hexValue b, hexValue d, hexValue e with
      | some a, some b, some d, some e => some (((a * 16 + b) * 16 + d) * 16 + e)
      | _, _, _, _ => none
    | _ => none
  set (c.skipBytes 4)
  match value with
  | some v => return v
  | none => failHere .invalidEscape

/-- Reads the character after a backslash in a string that is being read. -/
def escape : Reader String := do
  match ← next with
  | none => failHere .eofWhileParsingString
  | some '"' => return "\""
  | some '\\' => return "\\"
  | some '/' => return "/"
  | some 'b' => return "\x08"
  | some 'f' => return "\x0c"
  | some 'n' => return "\n"
  | some 'r' => return "\r"
  | some 't' => return "\t"
  | some 'u' =>
    let n ← hexEscape
    if 0xDC00 ≤ n && n ≤ 0xDFFF then failHere .loneLeadingSurrogateInHexEscape
    if n < 0xD800 || n > 0xDBFF then return String.singleton (Char.ofNat n)
    -- a leading surrogate needs a trailing one right after it
    match ← peek with
    | none => failHere .eofWhileParsingString
    | some '\\' => bump
    | some _ => bump; failHere .unexpectedEndOfHexEscape
    match ← peek with
    | none => failHere .eofWhileParsingString
    | some 'u' => bump
    | some _ => bump; failHere .unexpectedEndOfHexEscape
    let m ← hexEscape
    if m < 0xDC00 || m > 0xDFFF then failHere .loneLeadingSurrogateInHexEscape
    return String.singleton (Char.ofNat (((n - 0xD800) * 1024 + (m - 0xDC00)) + 0x10000))
  | some _ => failHere .invalidEscape

/-- Passes over the character after a backslash in a string that is skipped. -/
def skipEscape : Reader Unit := do
  match ← next with
  | none => failHere .eofWhileParsingString
  | some c =>
    if c == '"' || c == '\\' || c == '/' || c == 'b' || c == 'f' || c == 'n' || c == 'r' ||
        c == 't' then
      pure ()
    else if c == 'u' then
      discard hexEscape
    else failHere .invalidEscape

/-- Reads the rest of a string after its opening quote. -/
def string (fuel : Nat) : Reader String := do
  let rec go (fuel : Nat) (acc : String) : Reader String := do
    match fuel with
    | 0 => failHere .eofWhileParsingString
    | fuel + 1 =>
      match ← next with
      | none => failHere .eofWhileParsingString
      | some '"' => return acc
      | some '\\' => go fuel (acc ++ (← escape))
      | some c =>
        if c.toNat < 32 then failHere .controlCharacterWhileParsingString
        else go fuel (acc.push c)
  go fuel ""

/-- Passes over the rest of a string after its opening quote. -/
def skipString (fuel : Nat) : Reader Unit := do
  let rec go (fuel : Nat) : Reader Unit := do
    match fuel with
    | 0 => failHere .eofWhileParsingString
    | fuel + 1 =>
      match ← next with
      | none => failHere .eofWhileParsingString
      | some '"' => return
      | some '\\' => skipEscape; go fuel
      | some c =>
        if c.toNat < 32 then failHere .controlCharacterWhileParsingString
        else go fuel
  go fuel

/-! ## Numbers

A number is read as an unsigned integer while its digits fit 64 bits, as a negative
integer when its magnitude fits 2^63, and as a float otherwise. The float is the
significand (the digits that fit 64 bits) times a power of ten, computed by one
multiplication or division by a power of ten in binary64, and in steps of `10^308` below
that range; a product that overflows is out of range.
-/

/-- The value of a decimal digit. -/
def digitValue (c : Char) : Nat := c.toNat - 48

/-- Whether `10 · a + d` exceeds `limit`. -/
def overflows (a d limit : Nat) : Bool := a * 10 + d > limit

/-- The largest unsigned 64-bit integer. -/
def u64Max : Nat := 18446744073709551615

/-- The largest signed 32-bit integer. -/
def i32Max : Nat := 2147483647

/-- `10^k` in binary64. -/
def pow10 (k : Nat) : Float := Float.ofScientific 1 false k

/-- The float `significand · 10^exponent`, with its sign. -/
def floatOfParts (positive : Bool) (significand : Nat) (exponent : Int) : Reader Float := do
  let rec go (fuel : Nat) (f : Float) (e : Int) : Reader Float := do
    match fuel with
    | 0 => return f
    | fuel + 1 =>
      if e.natAbs ≤ 308 then
        if e ≥ 0 then
          let g := f * pow10 e.natAbs
          if g.isInf then failHere .numberOutOfRange
          return g
        else return f / pow10 e.natAbs
      else
        if f == 0.0 then return f
        if e ≥ 0 then failHere .numberOutOfRange
        go fuel (f / pow10 308) (e + 308)
  let f ← go 8 (UInt64.ofNat significand).toFloat exponent
  return if positive then f else -f

/-- Passes over digits. -/
def skipDigits (fuel : Nat) : Reader Unit := do
  match fuel with
  | 0 => pure ()
  | fuel + 1 =>
    match ← peek with
    | some c => if c.isDigit then bump; skipDigits fuel else pure ()
    | none => pure ()

/-- Reads an exponent after `e`, with the significand read so far. -/
def exponentPart (fuel : Nat) (positive : Bool) (significand : Nat) (start : Int) : Reader Float := do
  bump
  let positiveExp ← match ← peek with
    | some '+' => bump; pure true
    | some '-' => bump; pure false
    | _ => pure true
  let first ← match ← next with
    | none => failHere .eofWhileParsingValue
    | some c => if c.isDigit then pure (digitValue c) else failHere .invalidNumber
  let rec go (fuel : Nat) (exp : Nat) : Reader (Option Nat) := do
    match fuel with
    | 0 => return some exp
    | fuel + 1 =>
      match ← peek with
      | some c =>
        if c.isDigit then
          bump
          if overflows exp (digitValue c) i32Max then return none
          go fuel (exp * 10 + digitValue c)
        else return some exp
      | none => return some exp
  match ← go fuel first with
  | some exp =>
    let final := if positiveExp then start + exp else start - exp
    -- the exponent saturates at the bounds of 32 bits
    let final := if final > 2147483647 then 2147483647 else if final < -2147483648 then -2147483648 else final
    floatOfParts positive significand final
  | none =>
    if significand != 0 && positiveExp then failHere .numberOutOfRange
    skipDigits fuel
    return if positive then 0.0 else -0.0

/-- Reads the fraction after `.`, with the significand and exponent read so far. -/
def fractionPart (fuel : Nat) (positive : Bool) (significand : Nat) (before : Int) : Reader Float := do
  bump
  let rec go (fuel : Nat) (sig : Nat) (after : Nat) : Reader (Nat × Nat × Bool) := do
    match fuel with
    | 0 => return (sig, after, false)
    | fuel + 1 =>
      match ← peek with
      | some c =>
        if c.isDigit then
          if overflows sig (digitValue c) u64Max then return (sig, after, true)
          bump
          go fuel (sig * 10 + digitValue c) (after + 1)
        else return (sig, after, false)
      | none => return (sig, after, false)
  let (sig, after, overflowed) ← go fuel significand 0
  let exponent : Int := before - after
  if overflowed then
    skipDigits fuel
    match ← peek with
    | some 'e' | some 'E' => exponentPart fuel positive sig exponent
    | _ => floatOfParts positive sig exponent
  else
    if after == 0 then
      match ← peek with
      | some _ => failAhead .invalidNumber
      | none => failAhead .eofWhileParsingValue
    match ← peek with
    | some 'e' | some 'E' => exponentPart fuel positive sig exponent
    | _ => floatOfParts positive sig exponent

/-- Finishes a number whose integer digits fit 64 bits. -/
def numberAfterDigits (fuel : Nat) (positive : Bool) (significand : Nat) : Reader Number := do
  match ← peek with
  | some '.' => return .float (← fractionPart fuel positive significand 0)
  | some 'e' | some 'E' => return .float (← exponentPart fuel positive significand 0)
  | _ =>
    if positive then return .nat significand
    else if significand == 0 || significand > 9223372036854775808 then
      return .float (-(UInt64.ofNat significand).toFloat)
    else return .neg (-(significand : Int))

/-- Reads the digits of a number, after its sign. -/
def number (fuel : Nat) (positive : Bool) : Reader Number := do
  match ← next with
  | none => failHere .eofWhileParsingValue
  | some '0' =>
    match ← peek with
    | some c => if c.isDigit then failAhead .invalidNumber else numberAfterDigits fuel positive 0
    | none => numberAfterDigits fuel positive 0
  | some c =>
    if c.isDigit then
      let rec go (fuel : Nat) (sig : Nat) : Reader Number := do
        match fuel with
        | 0 => numberAfterDigits 0 positive sig
        | fuel + 1 =>
          match ← peek with
          | some d =>
            if d.isDigit then
              if overflows sig (digitValue d) u64Max then
                -- the rest of the integer digits only scale the significand
                let rec more (fuel : Nat) (exponent : Nat) : Reader Number := do
                  match fuel with
                  | 0 => return .float (← floatOfParts positive sig exponent)
                  | fuel + 1 =>
                    match ← peek with
                    | some e =>
                      if e.isDigit then bump; more fuel (exponent + 1)
                      else if e == '.' then return .float (← fractionPart fuel positive sig exponent)
                      else if e == 'e' || e == 'E' then
                        return .float (← exponentPart fuel positive sig exponent)
                      else return .float (← floatOfParts positive sig exponent)
                    | none => return .float (← floatOfParts positive sig exponent)
                more fuel 0
              else
                bump
                go fuel (sig * 10 + digitValue d)
            else numberAfterDigits fuel positive sig
          | none => numberAfterDigits fuel positive sig
      go fuel (digitValue c)
    else failHere .invalidNumber

/-- Passes over an exponent after `e`. -/
def skipExponent (fuel : Nat) : Reader Unit := do
  bump
  match ← peek with
  | some '+' | some '-' => bump
  | _ => pure ()
  match ← next with
  | some c => if c.isDigit then skipDigits fuel else failHere .invalidNumber
  | none => failHere .invalidNumber

/-- Passes over the digits of a number, after its sign. -/
def skipNumber (fuel : Nat) : Reader Unit := do
  match ← next with
  | some '0' =>
    match ← peek with
    | some c => if c.isDigit then failAhead .invalidNumber
    | none => pure ()
  | some c => if c.isDigit then skipDigits fuel else failHere .invalidNumber
  | none => failHere .invalidNumber
  match ← peek with
  | some '.' =>
    bump
    match ← peek with
    | some c => if c.isDigit then skipDigits fuel else failAhead .invalidNumber
    | none => failAhead .invalidNumber
    match ← peek with
    | some 'e' | some 'E' => skipExponent fuel
    | _ => pure ()
  | some 'e' | some 'E' => skipExponent fuel
  | _ => pure ()

/-! ## Arrays and objects -/

/-- Before an element of an array: whether there is one. -/
def hasElement (first : Bool) : Reader Bool := do
  match ← blanks with
  | none => failAhead .eofWhileParsingList
  | some ']' => return false
  | some ',' =>
    if first then return true
    bump
    match ← blanks with
    | some ']' => failAhead .trailingComma
    | some _ => return true
    | none => failAhead .eofWhileParsingValue
  | some _ => if first then return true else failAhead .expectedListCommaOrEnd

/-- After the elements of an array: its closing bracket. -/
def endArray : Reader Unit := do
  match ← blanks with
  | some ']' => bump
  | some ',' =>
    bump
    match ← blanks with
    | some ']' => failAhead .trailingComma
    | _ => failAhead .trailingCharacters
  | some _ => failAhead .expectedListCommaOrEnd
  | none => failAhead .eofWhileParsingList

/-- Before a member of an object: whether there is one (standing on its key's quote). -/
def hasMember (first : Bool) : Reader Bool := do
  match ← blanks with
  | none => failAhead .eofWhileParsingObject
  | some '}' => return false
  | some c =>
    if first then
      if c == '"' then return true else failAhead .keyMustBeAString
    else if c == ',' then
      bump
      match ← blanks with
      | some '"' => return true
      | some '}' => failAhead .trailingComma
      | some _ => failAhead .keyMustBeAString
      | none => failAhead .eofWhileParsingValue
    else failAhead .expectedObjectCommaOrEnd

/-- The colon between a key and its value. -/
def colon : Reader Unit := do
  match ← blanks with
  | some ':' => bump
  | some _ => failAhead .expectedColon
  | none => failAhead .eofWhileParsingObject

/-- After the members of an object: its closing brace. -/
def endObject : Reader Unit := do
  match ← blanks with
  | some '}' => bump
  | some ',' => failAhead .trailingComma
  | some _ => failAhead .expectedObjectCommaOrEnd
  | none => failAhead .eofWhileParsingObject

/-- Runs the reading of an array's or object's inside, then its end, even when the inside
failed; the inside's failure comes first. -/
def withEnd {α : Type} (inside : Reader α) (finish : Reader Unit) : Reader α := do
  let r ← attempt inside
  let e ← attempt finish
  match r, e with
  | .ok v, .ok () => return v
  | .error err, _ => throw err
  | .ok _, .error err => throw err

/-! ## Whole values -/

/-- Reads any value. -/
def value (fuel : Nat) : Reader Json := do
  match fuel with
  | 0 => failAhead .eofWhileParsingValue
  | fuel + 1 =>
    match ← blanks with
    | none => failAhead .eofWhileParsingValue
    | some 'n' => bump; literal ['u', 'l', 'l']; return .null
    | some 't' => bump; literal ['r', 'u', 'e']; return .bool true
    | some 'f' => bump; literal ['a', 'l', 's', 'e']; return .bool false
    | some '-' => bump; return .num (← number fuel false)
    | some '"' => bump; return .str (← string fuel)
    | some '[' =>
      enter
      bump
      let rec items (fuel : Nat) (first : Bool) (acc : Array Json) : Reader (List Json) := do
        match fuel with
        | 0 => return acc.toList
        | fuel + 1 =>
          if ← hasElement first then items fuel false (acc.push (← value fuel))
          else return acc.toList
      let xs ← withEnd (items fuel true #[]) endArray
      leave
      return .arr xs
    | some '{' =>
      enter
      bump
      let rec members (fuel : Nat) (first : Bool) (acc : Array (String × Json)) :
          Reader (List (String × Json)) := do
        match fuel with
        | 0 => return acc.toList
        | fuel + 1 =>
          if ← hasMember first then
            bump
            let k ← string fuel
            colon
            members fuel false (acc.push (k, ← value fuel))
          else return acc.toList
      let ms ← withEnd (members fuel true #[]) endObject
      leave
      return .obj ms
    | some c =>
      if c.isDigit then return .num (← number fuel true)
      else failAhead .expectedSomeValue

/-- Passes over any value, checking only the shape of its text. Nesting is not limited. -/
def skip (fuel : Nat) : Reader Unit := do
  match fuel with
  | 0 => failAhead .eofWhileParsingValue
  | fuel + 1 =>
    match ← blanks with
    | none => failAhead .eofWhileParsingValue
    | some 'n' => bump; literal ['u', 'l', 'l']
    | some 't' => bump; literal ['r', 'u', 'e']
    | some 'f' => bump; literal ['a', 'l', 's', 'e']
    | some '-' => bump; skipNumber fuel
    | some '"' => bump; skipString fuel
    | some '[' =>
      bump
      match ← blanks with
      | some ']' => bump
      | none => failAhead .eofWhileParsingList
      | some _ =>
        let rec items (fuel : Nat) : Reader Unit := do
          match fuel with
          | 0 => failAhead .eofWhileParsingList
          | fuel + 1 =>
            skip fuel
            match ← blanks with
            | some ',' => bump; items fuel
            | some ']' => bump
            | some _ => failAhead .expectedListCommaOrEnd
            | none => failAhead .eofWhileParsingList
        items fuel
    | some '{' =>
      bump
      match ← blanks with
      | some '}' => bump
      | none => failAhead .eofWhileParsingObject
      | some _ =>
        let rec members (fuel : Nat) : Reader Unit := do
          match fuel with
          | 0 => failAhead .eofWhileParsingObject
          | fuel + 1 =>
            match ← blanks with
            | some '"' => bump
            | some _ => failAhead .keyMustBeAString
            | none => failAhead .eofWhileParsingObject
            skipString fuel
            colon
            skip fuel
            match ← blanks with
            | some ',' => bump; members fuel
            | some '}' => bump
            | some _ => failAhead .expectedObjectCommaOrEnd
            | none => failAhead .eofWhileParsingObject
        members fuel
    | some c =>
      if c.isDigit then skipNumber fuel else failAhead .expectedSomeValue

/-- What a value that is not of the expected kind is: reads a scalar whole to name it, and
names an array or object without reading it. Fails with the type problem, unplaced. -/
def wrongType {α : Type} (fuel : Nat) (expected : String) : Reader α := do
  let found : Found ← match ← peek with
    | some 'n' => bump; literal ['u', 'l', 'l']; pure .null
    | some 't' => bump; literal ['r', 'u', 'e']; pure (.bool true)
    | some 'f' => bump; literal ['a', 'l', 's', 'e']; pure (.bool false)
    | some '-' => bump; pure (Found.ofJson (.num (← number fuel false)))
    | some '"' => bump; pure (.str (← string fuel))
    | some '[' => pure .seq
    | some '{' => pure .map
    | some c =>
      if c.isDigit then pure (Found.ofJson (.num (← number fuel true)))
      else failAhead .expectedSomeValue
    | none => failAhead .expectedSomeValue
  failUnplaced (.invalidType found expected)

/-- After a whole document: nothing but blanks may follow. -/
def finish : Reader Unit := do
  match ← blanks with
  | some _ => failAhead .trailingCharacters
  | none => pure ()

/-- Runs a reader over a whole text. -/
def run {α : Type} (r : Nat → Reader α) (text : String) : Except DecodeError α :=
  let fuel := text.length + 2
  let whole : Reader α := do
    let v ← r fuel
    finish
    return v
  (StateT.run (ExceptT.run whole) (Cursor.start text)).1

end Reader

/-- Reads a JSON document. -/
def parse (text : String) : Except DecodeError Json := Reader.run Reader.value text

end ReducedDowntime.Json
