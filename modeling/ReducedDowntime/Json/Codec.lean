import ReducedDowntime.Json.Reader
import ReducedDowntime.Time.Rfc3339

/-!
# Decoding documents of a known shape

A codec describes one kind of document: a string, a 64-bit integer, a boolean, an
instant, one of a set of names, a list, an optional value or a record of named fields.
It decodes the document from text, reading it in order and stopping at the first
problem, or from an already read JSON value.

## Records

A record is an object whose keys name its fields. Unknown keys are skipped, a key given
twice is refused, and after the object the first field in declaration order that is
missing and has no default is reported. A record may also be written as an array of its
fields in declaration order; fields with a default may be left off the end.

A JSON value read before decoding holds each key once, the last one written, and its keys
in sorted order: that is the order in which its fields are decoded.

## Names

A set of names decodes a string; a name outside the set decodes as `UNKNOWN`. From text,
a value that is neither a string nor an object is refused without reading it (`expected
value`); the object form `{"NAME": null}` is also accepted.

## Results

Decoding gives a `Decoded` tree: the value of each field of a record in declaration
order, with defaults filled in and absent optional values as `absent`.
-/

namespace ReducedDowntime.Json

/-- A decoded document, in the layout of its codec. -/
inductive Decoded where
  | absent
  | flag (b : Bool)
  | int (i : Int)
  | text (s : String)
  | time (t : Time.Instant)
  | list (items : List Decoded)
  | record (fields : List Decoded)
  deriving Inhabited

/-- A way to decode one kind of document. -/
structure Codec where
  /-- How type problems name what was expected. -/
  expecting : String
  /-- Decodes from text; the argument is fuel. -/
  fromText : Nat → Reader Decoded
  /-- Decodes from a JSON value. -/
  fromJson : Json → Except DecodeError Decoded

/-- What a missing field becomes. -/
inductive Absence where
  /-- A missing field is an error. -/
  | required
  /-- A missing field takes this value. -/
  | default (d : Decoded)

/-- A field of a record: its key, its codec and what its absence means. -/
structure Field where
  key : String
  codec : Codec
  absence : Absence

namespace Codec

open Reader

/-- A type problem, without a place. -/
def refuse {α : Type} (found : Found) (expected : String) : Except DecodeError α :=
  .error ⟨.invalidType found expected, none⟩

/-- Strings. -/
def string : Codec where
  expecting := "a string"
  fromText fuel := placed do
    match ← blanks with
    | none => failAhead .eofWhileParsingValue
    | some '"' => bump; return .text (← Reader.string fuel)
    | some _ => wrongType fuel "a string"
  fromJson
    | .str s => .ok (.text s)
    | j => refuse (.ofJson j) "a string"

/-- The largest signed 64-bit integer. -/
def i64Max : Nat := 9223372036854775807

/-- A read number as a signed 64-bit integer. -/
def int64OfNumber : Number → Except DecodeError Decoded
  | .nat n => if n ≤ i64Max then .ok (.int n) else .error ⟨.invalidValue (.unsigned n) "i64", none⟩
  | .neg i => .ok (.int i)
  | .float f => refuse (.float f) "i64"

/-- Lifts a decoding result into a reader. -/
def lift {α : Type} : Except DecodeError α → Reader α
  | .ok a => pure a
  | .error e => throw e

/-- Signed 64-bit integers. -/
def int64 : Codec where
  expecting := "i64"
  fromText fuel := placed do
    match ← blanks with
    | none => failAhead .eofWhileParsingValue
    | some '-' => bump; lift (int64OfNumber (← number fuel false))
    | some c =>
      if c.isDigit then lift (int64OfNumber (← number fuel true))
      else wrongType fuel "i64"
  fromJson
    | .num n => int64OfNumber n
    | j => refuse (.ofJson j) "i64"

/-- Booleans. -/
def boolean : Codec where
  expecting := "a boolean"
  fromText fuel := placed do
    match ← blanks with
    | none => failAhead .eofWhileParsingValue
    | some 't' => bump; literal ['r', 'u', 'e']; return .flag true
    | some 'f' => bump; literal ['a', 'l', 's', 'e']; return .flag false
    | some _ => wrongType fuel "a boolean"
  fromJson
    | .bool b => .ok (.flag b)
    | j => refuse (.ofJson j) "a boolean"

/-- What instants are called in type problems. -/
def instantExpecting : String := "an RFC 3339 formatted date and time string"

/-- Reads an instant from a decoded string. -/
def instantOfText (s : String) : Except DecodeError Decoded :=
  match Time.parseInstant s with
  | .ok t => .ok (.time t)
  | .error e => .error ⟨.custom e.message, none⟩

/-- Instants written as RFC 3339 strings. -/
def instant : Codec where
  expecting := instantExpecting
  fromText fuel := placed do
    match ← blanks with
    | none => failAhead .eofWhileParsingValue
    | some '"' => bump; lift (instantOfText (← Reader.string fuel))
    | some _ => wrongType fuel instantExpecting
  fromJson
    | .str s => instantOfText s
    | j => refuse (.ofJson j) instantExpecting

/-- The name a string stands for among `names`, `UNKNOWN` for any other. -/
def nameOf (names : List String) (s : String) : Decoded :=
  .text (if names.contains s then s else "UNKNOWN")

/-- Reads a string from text as a name, placing its problems. -/
def nameText (fuel : Nat) (expected : String) : Reader String := placed do
  match ← blanks with
  | none => failAhead .eofWhileParsingValue
  | some '"' => bump; Reader.string fuel
  | some _ => wrongType fuel expected

/-- One of a set of names; any other string is `UNKNOWN`. -/
def oneOf (typeName : String) (names : List String) : Codec where
  expecting := "enum " ++ typeName
  fromText fuel := do
    match ← blanks with
    | none => failAhead .eofWhileParsingValue
    | some '"' => return nameOf names (← nameText fuel "variant identifier")
    | some '{' =>
      enter
      bump
      let name ← nameText fuel "variant identifier"
      colon
      placed do
        match ← blanks with
        | none => failAhead .eofWhileParsingValue
        | some 'n' => bump; literal ['u', 'l', 'l']
        | some _ => wrongType fuel "unit"
      match ← blanks with
      | some '}' => bump
      | some _ => failHere .expectedSomeValue
      | none => failHere .eofWhileParsingObject
      leave
      return nameOf names name
    | some _ => failAhead .expectedSomeValue
  fromJson
    | .str s => .ok (nameOf names s)
    | .obj [(k, v)] =>
      match v with
      | .null => .ok (nameOf names k)
      | j => refuse (.ofJson j) "unit"
    | .obj _ => .error ⟨.invalidValue .map "map with a single key", none⟩
    | j => refuse (.ofJson j) "string or map"

/-- An optional value: `null` is absent. -/
def optional (inner : Codec) : Codec where
  expecting := inner.expecting
  fromText fuel := do
    match ← blanks with
    | some 'n' => bump; literal ['u', 'l', 'l']; return .absent
    | _ => inner.fromText fuel
  fromJson
    | .null => .ok .absent
    | j => inner.fromJson j

/-- Decodes each item of a JSON array, stopping at the first problem. -/
def decodeAll (c : Codec) : List Json → Except DecodeError (List Decoded)
  | [] => .ok []
  | j :: rest => do
    let d ← c.fromJson j
    let ds ← decodeAll c rest
    return d :: ds

/-- Lists of values. -/
def list (item : Codec) : Codec where
  expecting := "a sequence"
  fromText fuel := placed do
    match ← blanks with
    | none => failAhead .eofWhileParsingValue
    | some '[' =>
      enter
      bump
      let rec items (fuel : Nat) (first : Bool) (acc : Array Decoded) : Reader (List Decoded) := do
        match fuel with
        | 0 => return acc.toList
        | fuel + 1 =>
          if ← hasElement first then items fuel false (acc.push (← item.fromText fuel))
          else return acc.toList
      let xs ← withEnd (items fuel true #[]) endArray
      leave
      return .list xs
    | some _ => wrongType fuel "a sequence"
  fromJson
    | .arr items => return .list (← decodeAll item items)
    | j => refuse (.ofJson j) "a sequence"

/-- The position of a key among the fields. -/
def fieldIndex (fields : List Field) (key : String) : Option Nat :=
  fields.findIdx? (fun f => f.key == key)

/-- The values of the fields after all members were read: the first missing field without a
default is reported. -/
def complete (fields : List Field) (slots : List (Option Decoded)) : Except DecodeError (List Decoded) :=
  match fields, slots with
  | f :: fs, s :: ss => do
    let v ← match s, f.absence with
      | some v, _ => .ok v
      | none, .default d => .ok d
      | none, .required => .error ⟨.missingField f.key, none⟩
    let vs ← complete fs ss
    return v :: vs
  | _, _ => .ok []

/-- Stores a field's value. -/
def store (slots : List (Option Decoded)) (i : Nat) (v : Decoded) : List (Option Decoded) :=
  slots.set i (some v)

/-- What a record written as an array of the wrong length is expected to be. -/
def recordLength (name : String) (fields : List Field) : String :=
  "struct " ++ name ++ " with " ++ toString fields.length ++ " elements"

/-- Keeps the last pair of each key, in sorted order of keys. -/
def sortMembers (members : List (String × Json)) : List (String × Json) :=
  let last := members.reverse.foldl
    (fun (acc : List (String × Json)) p => if acc.any (·.1 == p.1) then acc else p :: acc) []
  last.mergeSort (fun a b => decide (a.1 ≤ b.1))

mutual
/-- Normalizes the objects of a read JSON value: each key once, the last one written, and the
keys in sorted order. -/
def normalize : Json → Json
  | .arr items => .arr (normalizeItems items)
  | .obj fields => .obj (sortMembers (normalizeMembers fields))
  | j => j

/-- Normalizes the items of an array. -/
def normalizeItems : List Json → List Json
  | [] => []
  | j :: rest => normalize j :: normalizeItems rest

/-- Normalizes the values of an object's members. -/
def normalizeMembers : List (String × Json) → List (String × Json)
  | [] => []
  | (k, v) :: rest => (k, normalize v) :: normalizeMembers rest
end

/-- Records of named fields. -/
def record (name : String) (fields : List Field) : Codec where
  expecting := "struct " ++ name
  fromText fuel := placed do
    match ← blanks with
    | none => failAhead .eofWhileParsingValue
    | some '{' =>
      enter
      bump
      let rec members (fuel : Nat) (first : Bool) (slots : List (Option Decoded)) :
          Reader (List (Option Decoded)) := do
        match fuel with
        | 0 => return slots
        | fuel + 1 =>
          if ← hasMember first then
            bump
            let key ← Reader.string fuel
            match fieldIndex fields key with
            | some i =>
              match slots[i]? with
              | some (some _) => failUnplaced (.duplicateField key)
              | _ =>
                colon
                let f := (fields[i]?).getD ⟨key, Codec.string, .required⟩
                members fuel false (store slots i (← f.codec.fromText fuel))
            | none =>
              colon
              skip fuel
              members fuel false slots
          else return slots
      let inside : Reader (List Decoded) := do
        let slots ← members fuel true (fields.map fun _ => none)
        lift (complete fields slots)
      let vs ← withEnd inside endObject
      leave
      return .record vs
    | some '[' =>
      enter
      bump
      let rec elements (fuel : Nat) (i : Nat) (rest : List Field) (acc : Array Decoded) :
          Reader (List Decoded) := do
        match fuel, rest with
        | _, [] => return acc.toList
        | 0, _ => return acc.toList
        | fuel + 1, f :: fs =>
          if ← hasElement (i == 0) then
            elements fuel (i + 1) fs (acc.push (← f.codec.fromText fuel))
          else
            match f.absence with
            | .default d => elements fuel (i + 1) fs (acc.push d)
            | .required => failUnplaced (.invalidLength i (recordLength name fields))
      let vs ← withEnd (elements fuel 0 fields #[]) endArray
      leave
      return .record vs
    | some _ => wrongType fuel ("struct " ++ name)
  fromJson
    | .obj members => do
      let put (slots : List (Option Decoded)) (member : String × Json) :
          Except DecodeError (List (Option Decoded)) :=
        match fieldIndex fields member.1 with
        | some i => do
          let f := (fields[i]?).getD ⟨member.1, Codec.string, .required⟩
          return store slots i (← f.codec.fromJson member.2)
        | none => .ok slots
      let slots ← members.foldlM put (fields.map fun _ => none)
      return .record (← complete fields slots)
    | .arr items => do
      let rec positional (i : Nat) (rest : List Field) (items : List Json) :
          Except DecodeError (List Decoded) :=
        match rest, items with
        | [], [] => .ok []
        | [], _ :: _ => .error ⟨.invalidLength (List.length items + i) "fewer elements in array", none⟩
        | f :: fs, j :: js => do
          let d ← f.codec.fromJson j
          let ds ← positional (i + 1) fs js
          return d :: ds
        | f :: fs, [] =>
          match f.absence with
          | .default d => do return d :: (← positional (i + 1) fs [])
          | .required => .error ⟨.invalidLength i (recordLength name fields), none⟩
      return .record (← positional 0 fields items)
    | j => refuse (.ofJson j) ("struct " ++ name)

end Codec

/-- Decodes a document from text; after it only blanks may follow. -/
def Codec.decodeText (c : Codec) (text : String) : Except DecodeError Decoded :=
  Reader.run c.fromText text

/-- Decodes a document from a read JSON value. -/
def Codec.decodeJson (c : Codec) (j : Json) : Except DecodeError Decoded :=
  c.fromJson (Codec.normalize j)

end ReducedDowntime.Json
