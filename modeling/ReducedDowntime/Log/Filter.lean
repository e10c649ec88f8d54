import ReducedDowntime.Log

/-!
# Log filters

A log filter is a comma-separated list of directives; empty ones are skipped. A
directive is

* a level alone (`info`, `off`, or a number 0 to 5, in any case), for every target;
* a target, optionally followed by `=` and a level, for the targets that start with it
  (a target without a level allows every level);
* a span in brackets, `[name{field,…}]`, optionally after a target and before `=level`;
  such a directive applies only inside that span.

A directive must start with a letter, a digit, `-`, `:`, `_` or `[`; a span must be
closed, a field list must be closed and hold no empty field, and a level after `=` must
be a level name or number. A level written on its own that is no level is a target.

A line is shown when the directive for the longest target that its own target starts
with allows its level; a line that no directive covers is not shown. Of two directives
for the same target, the later one counts. Directives inside spans never cover the
program's lines, which are emitted outside any span.
-/

namespace ReducedDowntime

/-- The most verbose level a filter lets through: `none` lets nothing through. -/
abbrev Verbosity := Option Level

/-- Reads a level of a filter: a number 0 (off) to 5 (trace), a level name in any case,
`off`, or the empty text, which means errors only. -/
def Verbosity.read? (s : String) : Option Verbosity :=
  let digits := match s.toList with
    | '+' :: rest => rest
    | cs => cs
  let byNumber : Option Verbosity :=
    if !digits.isEmpty && digits.all Char.isDigit then
      match (String.ofList digits).toNat? with
      | some 0 => some none
      | some 1 => some (some .error)
      | some 2 => some (some .warn)
      | some 3 => some (some .info)
      | some 4 => some (some .debug)
      | some 5 => some (some .trace)
      | _ => none
    else none
  byNumber <|> match s.toLower with
    | "" => some (some .error)
    | "error" => some (some .error)
    | "warn" => some (some .warn)
    | "info" => some (some .info)
    | "debug" => some (some .debug)
    | "trace" => some (some .trace)
    | "off" => some none
    | _ => none

/-- Whether a verbosity lets a level through. -/
def Verbosity.allows (v : Verbosity) (l : Level) : Bool :=
  match v with
  | some m => l.rank ≤ m.rank
  | none => false

/-- One directive of a filter. -/
structure Directive where
  target : Option String := none
  inSpan : Bool := false
  verbosity : Verbosity := some .trace
  deriving DecidableEq, Repr, Inhabited

/-- Why a filter does not read. -/
inductive FilterError where
  | badDirective
  | badLevel
  deriving DecidableEq, Repr, Inhabited

/-- The wording of a filter error. -/
def FilterError.message : FilterError → String
  | .badDirective => "invalid filter directive"
  | .badLevel =>
    "error parsing level filter: expected one of \"off\", \"error\", \"warn\", \"info\", \"debug\", " ++
      "\"trace\", or a number 0-5"

/-- Where reading a directive is. -/
inductive DirectiveState where
  | start
  | levelOrTarget (from_ : Nat)
  | span
  | field (from_ : Nat)
  | fields
  | afterSpan
  | level (from_ : Nat)
  deriving DecidableEq, Repr, Inhabited

/-- Whether a character may start a directive. -/
def startsDirective (c : Char) : Bool :=
  c.isAlphanum || c == '-' || c == ':' || c == '_' || c.toNat ≥ 0x80

/-- The text between two places. -/
def slice (cs : List Char) (a b : Nat) : String := String.ofList ((cs.drop a).take (b - a))

/-- A level or a target, written on its own. -/
def levelOrTarget (text : String) : Directive :=
  match Verbosity.read? text with
  | some v => if text.isEmpty then {} else { verbosity := v }
  | none => { target := some text }

/-- The level after `=`; empty means every level. -/
def levelAfter (text : String) : Except FilterError Verbosity :=
  if text.isEmpty then .ok (some .trace)
  else match Verbosity.read? text with
    | some v => .ok v
    | none => .error .badLevel

/-- Reads one more character of a directive whose characters are `cs`. -/
def Directive.step (cs : List Char) (acc : DirectiveState × Directive) (ic : Nat × Char) :
    Except FilterError (DirectiveState × Directive) :=
  let (st, d) := acc
  let (i, c) := ic
  match st, c with
  | .start, '[' => .ok (.span, { d with inSpan := true })
  | .start, c => if startsDirective c then .ok (.levelOrTarget i, d) else .error .badDirective
  | .levelOrTarget a, '=' => .ok (.level (i + 1), { d with target := some (slice cs a i) })
  | .levelOrTarget a, '[' => .ok (.span, { d with target := some (slice cs a i), inSpan := true })
  | .levelOrTarget a, _ => .ok (.levelOrTarget a, d)
  | .span, ']' => .ok (.afterSpan, d)
  | .span, '{' => .ok (.field (i + 1), d)
  | .span, _ => .ok (.span, d)
  | .field a, '}' => if a == i then .error .badDirective else .ok (.fields, d)
  | .field a, _ => .ok (.field a, d)
  | .fields, ']' => .ok (.afterSpan, d)
  | .afterSpan, '=' => .ok (.level (i + 1), d)
  | .level a, _ => .ok (.level a, d)
  | _, _ => .error .badDirective

/-- Reads one directive; spaces around it do not count. -/
def Directive.read (text : String) : Except FilterError Directive :=
  let cs := ((text.toList.dropWhile Char.isWhitespace).reverse.dropWhile Char.isWhitespace).reverse
  match (cs.zipIdx.map fun (c, i) => (i, c)).foldlM (Directive.step cs) (DirectiveState.start, ({} : Directive)) with
  | .error e => .error e
  | .ok (st, d) =>
    match st with
    | .levelOrTarget a =>
      let lt := levelOrTarget (slice cs a cs.length)
      .ok { lt with inSpan := d.inSpan }
    | .level a => (levelAfter (slice cs a cs.length)).map fun v => { d with verbosity := v }
    | .start | .afterSpan => .ok d
    | _ => .error .badDirective

/-- A log filter: its directives outside spans, most specific first. -/
structure LogFilter where
  directives : List Directive := []
  deriving DecidableEq, Repr, Inhabited

/-- How specific a directive is: the length of its target, if any. -/
def Directive.specificity (d : Directive) : Nat :=
  match d.target with
  | some t => t.length + 1
  | none => 0

/-- Adds a directive; one for the same target is replaced. -/
def LogFilter.add (f : LogFilter) (d : Directive) : LogFilter :=
  let others := f.directives.filter (·.target != d.target)
  { directives := (others ++ [d]).mergeSort fun a b => b.specificity ≤ a.specificity }

/-- Reads a filter. -/
def LogFilter.read (text : String) : Except FilterError LogFilter := do
  let pieces := (text.splitOn ",").filter (!·.isEmpty)
  let directives ← pieces.mapM Directive.read
  pure (directives.filter (!·.inSpan) |>.foldl LogFilter.add {})

/-- Whether a filter shows a line of a level from a target. -/
def LogFilter.shows (f : LogFilter) (target : String) (l : Level) : Bool :=
  match f.directives.find? fun d => match d.target with
    | some t => target.startsWith t
    | none => true with
  | some d => d.verbosity.allows l
  | none => false

end ReducedDowntime
