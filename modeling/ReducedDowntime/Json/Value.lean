import ReducedDowntime.Decimal.Shortest

/-!
# JSON values

The documents exchanged with the services, and the answers of this library, are JSON.
A number keeps the class it was read as: an unsigned integer below 2^64, a negative
integer of 64 bits, or a binary64 float. The class decides the wording of a decoding
error (`integer` or `floating point`), so it is part of the value.

Objects are lists of pairs in the order they were read or built. The writer escapes
quote, backslash and control characters and keeps every other character as it is.
-/

namespace ReducedDowntime

/-- A JSON number in one of the three classes a reader produces. -/
inductive Number where
  /-- An integer in `0 ≤ n < 2^64`. -/
  | nat (n : Nat)
  /-- An integer in `-2^63 ≤ i < 0`. -/
  | neg (i : Int)
  /-- Anything else: a fraction, an exponent, `-0`, or an integer out of the two ranges. -/
  | float (f : Float)

/-- A JSON document. -/
inductive Json where
  | null
  | bool (b : Bool)
  | num (n : Number)
  | str (s : String)
  | arr (items : List Json)
  | obj (fields : List (String × Json))

/-- The decimal text of a number; a float in its shortest form. -/
def Number.render : Number → String
  | .nat n => toString n
  | .neg i => toString i
  | .float f => Decimal.floatText f

namespace Json

/-- An integer as a JSON number, in the class of its sign. -/
def int (i : Int) : Json :=
  if i < 0 then .num (.neg i) else .num (.nat i.toNat)

/-- A natural number as a JSON number. -/
def nat (n : Nat) : Json := .num (.nat n)

/-- An optional value, `null` when absent. -/
def opt {α : Type} (f : α → Json) : Option α → Json
  | some a => f a
  | none => .null

/-- The value of a key, when the document is an object that has it. The last pair wins. -/
def get? (j : Json) (key : String) : Option Json :=
  match j with
  | .obj fields => (fields.reverse.find? (fun p => p.1 == key)).map (·.2)
  | _ => none

/-- Four lowercase hexadecimal digits of a code below 2^16. -/
def hex4 (n : Nat) : String :=
  let digit (d : Nat) : Char := if d < 10 then Char.ofNat (48 + d) else Char.ofNat (87 + d)
  String.ofList [digit (n / 4096 % 16), digit (n / 256 % 16), digit (n / 16 % 16), digit (n % 16)]

/-- How one character is written inside a JSON string. -/
def escapeChar (c : Char) : String :=
  match c with
  | '"' => "\\\""
  | '\\' => "\\\\"
  | '\n' => "\\n"
  | '\r' => "\\r"
  | '\t' => "\\t"
  | '\x08' => "\\b"
  | '\x0c' => "\\f"
  | c => if c.toNat < 32 then "\\u" ++ hex4 c.toNat else String.singleton c

/-- A string as a JSON string literal. -/
def quote (s : String) : String :=
  "\"" ++ String.join (s.toList.map escapeChar) ++ "\""

mutual
/-- Compact JSON text: no blank between tokens. -/
def render : Json → String
  | .null => "null"
  | .bool true => "true"
  | .bool false => "false"
  | .num n => n.render
  | .str s => quote s
  | .arr items => "[" ++ renderItems items ++ "]"
  | .obj fields => "\x7b" ++ renderFields fields ++ "\x7d"

/-- The items of an array, separated by commas. -/
def renderItems : List Json → String
  | [] => ""
  | [j] => render j
  | j :: rest => render j ++ "," ++ renderItems rest

/-- The members of an object, separated by commas. -/
def renderFields : List (String × Json) → String
  | [] => ""
  | [(k, v)] => quote k ++ ":" ++ render v
  | (k, v) :: rest => quote k ++ ":" ++ render v ++ "," ++ renderFields rest
end

end Json

end ReducedDowntime
