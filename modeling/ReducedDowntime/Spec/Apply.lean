import ReducedDowntime.Wire.Codecs
import ReducedDowntime.Failure
import ReducedDowntime.Log

/-!
# The apply document

An upgrade is applied either straight through, or with the switchover scheduled a
number of hours ahead, or with a pause before the switchover. A schedule of zero hours
is no schedule, and a schedule together with a pause is refused. A schedule is resolved
against the current time when the document is built; one that leaves the supported
instants is refused.
-/

namespace ReducedDowntime

/-- How the upgrade approaches the switchover. -/
structure ApplySpec where
  switchoverInHours : Option Nat := none
  pauseBeforeSwitchover : Bool := false
  deriving DecidableEq, Repr, Inhabited

/-- The apply document sent to the service. -/
structure ApplyDocument where
  startSwitchover : Option Time.Instant := none
  pause : Option PausePolicy := none
  deriving DecidableEq, Repr, Inhabited

namespace ApplySpec

/-- Straight through to the switchover. -/
def runThrough : ApplySpec := {}

/-- Stop when the target is prepared, before any downtime. -/
def pauseFirst : ApplySpec := { pauseBeforeSwitchover := true }

/-- The instant `hours` hours after `now`, if supported. -/
def switchoverAt (now : Time.Instant) (hours : Nat) : Except UpgradeError Time.Instant :=
  match now.addSeconds (hours * 3600) with
  | some t => .ok t
  | none => .error (.invalidConfig
      ("switchover in " ++ toString hours ++ " hours is out of the supported date range"))

/-- Checks and builds a spec: a zero schedule is none, a schedule excludes a pause, and a
schedule must be reachable from `now`. -/
def make (hours : Option Nat) (pause : Bool) (now : Time.Instant) : Logged (Except UpgradeError ApplySpec) :=
  let hours := hours.filter (· > 0)
  match hours, pause with
  | some _, true =>
    ⟨[⟨.error, .applySpec,
      "Cannot create an apply spec which has both a pause point and a scheduled switchover time."⟩],
      .error (.invalidConfig "apply spec has both a scheduled switchover and pause-before-switchover set")⟩
  | some h, false =>
    match switchoverAt now h with
    | .ok _ => .pure (.ok { switchoverInHours := some h })
    | .error e => .pure (.error e)
  | none, _ => .pure (.ok { pauseBeforeSwitchover := pause })

/-- The document of a spec, with the schedule resolved against `now`. -/
def toDocument (s : ApplySpec) (now : Time.Instant) : Except UpgradeError ApplyDocument := do
  let start : Option Time.Instant ← match s.switchoverInHours with
    | some h => (switchoverAt now h).map some
    | none => pure none
  return { startSwitchover := start, pause := if s.pauseBeforeSwitchover then some .beforeSwitchover else none }

/-- A spec in diagnostics. -/
def diagnostic (s : ApplySpec) : String :=
  "ApplySpec \x7b switchover_in_hours: " ++
    (match s.switchoverInHours with
     | some h => "Some(" ++ toString h ++ ")"
     | none => "None") ++
    ", pause_before_switchover: " ++ (if s.pauseBeforeSwitchover then "true" else "false") ++ " \x7d"

end ApplySpec

namespace ApplyDocument

open Json

/-- The scheduled switchover in whole seconds after `clock`: the span plus half a second,
rounded toward zero. -/
def switchoverIn? (d : ApplyDocument) (clock : Time.Instant) : Option Int :=
  d.startSwitchover.map fun start =>
    ((Time.Instant.since start clock).totalNanos + 500000000).tdiv 1000000000

/-- The document as JSON; absent parts are left out. -/
def toJson (d : ApplyDocument) : Json :=
  .obj (member? "start_switchover" instantJson d.startSwitchover ++
    member? "pause" (fun p => Json.str p.name) d.pause)

/-- The codec of the document. -/
def codec : Codec :=
  Codec.record "ApplySpecPayload"
    [optionalField "start_switchover" Codec.instant, optionalField "pause" PausePolicy.codec]

/-- Reads a decoded document. -/
def ofDecoded (d : Decoded) : ApplyDocument :=
  { startSwitchover := (d.field 0).asOption Decoded.asInstant
    pause := (d.field 1).asOption (PausePolicy.ofName ∘ Decoded.asText) }

end ApplyDocument

end ReducedDowntime
