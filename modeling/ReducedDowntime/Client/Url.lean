/-!
# Web addresses

Requests go to addresses such as `https://vc.example.com/lcm/api/session`. An address is
read as the URL standard reads one with a special scheme (`http`, `https`, `ws`, `wss`,
`ftp`, `file`), and written back in its normal form:

* spaces and control characters around the address are dropped, and tabs and line
  breaks inside it;
* the scheme is lower-cased; any run of `/` and `\` after it starts the authority;
* the authority ends at `/`, `\`, `?` or `#`; user information before its last `@` is
  left out of the written form;
* a host is percent-decoded and lower-cased, and must not be empty nor hold a forbidden
  character; a host whose last label is a number is an IPv4 address, whose four parts
  may be decimal, octal (leading `0`) or hexadecimal (`0x`), and is written in dotted
  decimal;
* a port is decimal and at most 65535; the scheme's default port is left out;
* the path's segments are percent-encoded, `.` segments are dropped and `..` segments
  remove the one before; an empty path is `/`;
* the query and the fragment are percent-encoded, each with its own set.

Addresses with another scheme keep the text after the scheme as it is.
-/

namespace ReducedDowntime.Client

/-- A parsed address. -/
structure Url where
  scheme : String
  /-- The host in its written form; empty for addresses without an authority. -/
  host : String := ""
  port : Option Nat := none
  /-- The path in its written form, or the text after the scheme for other schemes. -/
  path : String := "/"
  query : Option String := none
  fragment : Option String := none
  /-- Whether the address has an authority (`//host`). -/
  hasAuthority : Bool := true
  deriving DecidableEq, Repr, Inhabited

namespace Url

/-- The default port of a special scheme, if the scheme has one. -/
def defaultPort : String → Option Nat
  | "http" | "ws" => some 80
  | "https" | "wss" => some 443
  | "ftp" => some 21
  | _ => none

/-- Whether a scheme is special. -/
def isSpecial (scheme : String) : Bool :=
  ["http", "https", "ws", "wss", "ftp", "file"].contains scheme

/-- The written form of an address. -/
def render (u : Url) : String :=
  u.scheme ++ ":" ++
    (if u.hasAuthority then
      "//" ++ u.host ++ match u.port with
        | some p => ":" ++ toString p
        | none => ""
    else "") ++
    u.path ++
    (match u.query with | some q => "?" ++ q | none => "") ++
    (match u.fragment with | some f => "#" ++ f | none => "")

/-- The two hexadecimal digits of a byte, upper-case. -/
def hexByte (b : Nat) : String :=
  let digit := fun (n : Nat) => if n < 10 then Char.ofNat (48 + n) else Char.ofNat (55 + n)
  String.ofList [digit (b / 16 % 16), digit (b % 16)]

/-- Percent-encodes the characters that `encode` selects, as their UTF-8 bytes. -/
def percentEncode (encode : Char → Bool) (s : String) : String :=
  String.join (s.toList.map fun c =>
    if encode c then String.join ((String.singleton c).toUTF8.toList.map fun b => "%" ++ hexByte b.toNat)
    else String.singleton c)

/-- Control characters, delete, and everything beyond ASCII. -/
def controlSet (c : Char) : Bool := c.toNat < 0x20 || c.toNat > 0x7E

/-- What a fragment encodes. -/
def fragmentSet (c : Char) : Bool := controlSet c || " \"<>`".contains c

/-- What a query of a special address encodes. -/
def querySet (c : Char) : Bool := controlSet c || " \"#<>'".contains c

/-- What a path segment encodes. -/
def pathSet (c : Char) : Bool := controlSet c || " \"#<>?`{}".contains c

/-- The value of a hexadecimal digit. -/
def hexValue (c : Char) : Option Nat :=
  if c.isDigit then some (c.toNat - 48)
  else if 'a' ≤ c && c ≤ 'f' then some (c.toNat - 87)
  else if 'A' ≤ c && c ≤ 'F' then some (c.toNat - 55)
  else none

/-- Decodes `%XX` escapes into bytes; other characters stay as their UTF-8 bytes. -/
def percentDecodeBytes : List Char → List UInt8
  | '%' :: a :: b :: rest =>
    match hexValue a, hexValue b with
    | some x, some y => (x * 16 + y).toUInt8 :: percentDecodeBytes rest
    | _, _ => '%'.toNat.toUInt8 :: percentDecodeBytes (a :: b :: rest)
  | c :: rest => (String.singleton c).toUTF8.toList ++ percentDecodeBytes rest
  | [] => []

/-- Characters no host may hold. -/
def forbiddenInHost (c : Char) : Bool :=
  c.toNat < 0x20 || c.toNat == 0x7F || " #%/:<>?@[\\]^|".contains c

/-- Reads one part of an IPv4 address: decimal, octal after a leading `0`, or
hexadecimal after `0x`. -/
def ipv4Part (s : String) : Option Nat :=
  let cs := s.toList
  let digitsIn (base : Nat) (ds : List Char) : Option Nat :=
    ds.foldlM (fun acc c => match hexValue c with
      | some v => if v < base then some (acc * base + v) else none
      | none => none) 0
  match cs with
  | '0' :: 'x' :: rest | '0' :: 'X' :: rest => digitsIn 16 rest
  | '0' :: rest@(_ :: _) => digitsIn 8 rest
  | [] => none
  | _ => digitsIn 10 cs

/-- The labels of a host, without one empty last label. -/
def hostLabels (host : String) : List String :=
  let labels := host.splitOn "."
  if labels.length > 1 && labels.getLast? == some "" then labels.dropLast else labels

/-- Whether a host is meant as an IPv4 address: its last label is a number. -/
def endsInNumber (host : String) : Bool :=
  match (hostLabels host).getLast? with
  | some last => (!last.isEmpty && last.all Char.isDigit) || (ipv4Part last).isSome
  | none => false

/-- Reads an IPv4 address of up to four parts; the last part fills the remaining bytes. -/
def ipv4 (host : String) : Option Nat := do
  let parts := hostLabels host
  if parts.length > 4 then none
  let values ← parts.mapM ipv4Part
  let front := values.dropLast
  let last ← values.getLast?
  if front.any (· > 255) then none
  if last ≥ Nat.pow 256 (5 - values.length) then none
  pure (front.foldl (fun acc v => acc * 256 + v) 0 * Nat.pow 256 (5 - values.length) + last)

/-- An IPv4 address in dotted decimal. -/
def dotted (n : Nat) : String :=
  ".".intercalate ([3, 2, 1, 0].map fun i => toString (n / Nat.pow 256 i % 256))

/-- Reads a host: percent-decoded and lower-cased; IPv4 addresses in dotted decimal. -/
def parseHost (raw : String) : Option String := do
  if raw.startsWith "[" then
    if raw.endsWith "]" then some raw.toLower else none
  else
    let text ← String.fromUTF8? (ByteArray.mk (percentDecodeBytes raw.toList).toArray)
    let host := text.toLower
    if host.isEmpty || host.any forbiddenInHost then none
    else if endsInNumber host then (ipv4 host).map dotted
    else some host

/-- Splits an authority into host and port text at the last `:` outside brackets. -/
def splitPort (authority : String) : String × Option String :=
  let cs := authority.toList
  let (_, _, cut) := cs.foldl (fun (st : Nat × Bool × Option Nat) c =>
    let (i, inside, cut) := st
    if c == '[' then (i + 1, true, cut)
    else if c == ']' then (i + 1, false, cut)
    else if c == ':' && !inside then (i + 1, inside, some (cut.getD i))
    else (i + 1, inside, cut)) (0, false, none)
  match cut with
  | some i => (String.ofList (cs.take i), some (String.ofList (cs.drop (i + 1))))
  | none => (authority, none)

/-- Reads a port: decimal digits, at most 65535; empty text is no port. -/
def parsePort (s : String) : Option (Option Nat) :=
  if s.isEmpty then some none
  else if s.all Char.isDigit then
    let n := s.toNat!
    if n ≤ 65535 then some (some n) else none
  else none

/-- Whether a segment is `.`, also when its dot is escaped. -/
def isSingleDot (s : String) : Bool := s == "." || s.toLower == "%2e"

/-- Whether a segment is `..`, also when its dots are escaped. -/
def isDoubleDot (s : String) : Bool :=
  let l := s.toLower
  l == ".." || l == ".%2e" || l == "%2e." || l == "%2e%2e"

/-- The written path of raw segments: `.` dropped, `..` removing the segment before, and
a last `.` or `..` leaving an empty segment. -/
def normalSegments (raw : List String) : List String :=
  let n := raw.length
  (raw.zipIdx.foldl (fun acc (seg, i) =>
    let last := i + 1 == n
    if isDoubleDot seg then acc.dropLast ++ (if last then [""] else [])
    else if isSingleDot seg then acc ++ (if last then [""] else [])
    else acc ++ [percentEncode pathSet seg]) [])

/-- Splits at the first character that `stop` selects. -/
def breakAt (stop : Char → Bool) (cs : List Char) : List Char × List Char :=
  (cs.takeWhile (!stop ·), cs.dropWhile (!stop ·))

/-- Reads the path, query and fragment of a special address. -/
def tail (cs : List Char) : String × Option String × Option String :=
  let (pathPart, rest) := breakAt (fun c => c == '?' || c == '#') cs
  let (query, fragment) := match rest with
    | '?' :: more =>
      let (q, f) := breakAt (· == '#') more
      (some (percentEncode querySet (String.ofList q)), f.tail?.map fun f => percentEncode fragmentSet (String.ofList f))
    | '#' :: more => (none, some (percentEncode fragmentSet (String.ofList more)))
    | _ => (none, none)
  let segments := (String.ofList (pathPart.map fun c => if c == '\\' then '/' else c)).splitOn "/"
  let segments := match segments with
    | "" :: more => more
    | more => more
  let path := "/" ++ "/".intercalate (normalSegments segments)
  (path, query, fragment)

/-- Whether a character may continue a scheme. -/
def schemeChar (c : Char) : Bool := c.isAlphanum || c == '+' || c == '-' || c == '.'

/-- Reads an address; `none` when it is not one. -/
def parse (input : String) : Option Url := do
  let trimmed := (input.toList.dropWhile (·.toNat ≤ 0x20)).reverse.dropWhile (·.toNat ≤ 0x20) |>.reverse
  let cs := trimmed.filter fun c => c != '\t' && c != '\n' && c != '\r'
  let (schemeChars, rest) := breakAt (· == ':') cs
  match schemeChars, rest with
  | first :: more, ':' :: afterColon =>
    if !(first.isAlpha && more.all schemeChar) then none
    let scheme := (String.ofList schemeChars).toLower
    if !isSpecial scheme then
      some { scheme := scheme, path := String.ofList afterColon, hasAuthority := false }
    else
      let afterSlashes := afterColon.dropWhile fun c => c == '/' || c == '\\'
      let (authority, pathAndMore) := breakAt (fun c => c == '/' || c == '\\' || c == '?' || c == '#') afterSlashes
      let hostPort := match authority.reverse.idxOf? '@' with
        | some k => authority.drop (authority.length - k)
        | none => authority
      let (hostText, portText) := splitPort (String.ofList hostPort)
      let host ← if hostText.isEmpty && scheme == "file" then some "" else parseHost hostText
      let port ← match portText with
        | some p => parsePort p
        | none => some none
      let port := if port == defaultPort scheme then none else port
      let (path, query, fragment) := tail pathAndMore
      some { scheme, host, port, path, query, fragment }
  | _, _ => none

end Url

end ReducedDowntime.Client
