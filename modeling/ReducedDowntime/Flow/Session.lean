import ReducedDowntime.Flow.Precheck
import ReducedDowntime.Flow.Monitor
import ReducedDowntime.Spec.Init
import ReducedDowntime.Spec.Apply

/-!
# The steps of an upgrade

An upgrade is driven in steps against the lifecycle manager: query whether it is
initialized, configure it with an init document, run pre-checks, apply it (with the
schedule resolved against the wall clock), cancel it, read its status, and monitor it.

Each step reports what it does. The error of a single call is reported in the context
of its step (`Failed to configure the upgrade: …`); the pre-checks and the monitor report
their errors as they are.
-/

namespace ReducedDowntime

/-- The budgets a session polls with. -/
structure Session where
  precheckBudget : Budget := Precheck.defaultBudget
  monitoring : MonitorSettings := {}
  deriving DecidableEq, Repr, Inhabited

namespace Session

open ReducedDowntime.Flow

/-- Whether an upgrade is initialized. -/
def isInitialized : Flow Bool := do
  let initialized ← within "Failed to query the upgrade" Lifecycle.isInitialized
  emit .info .steps ("Upgrade initialized: " ++ if initialized then "true" else "false")
  pure initialized

/-- Configures the upgrade with the document of a spec. -/
def configure (spec : InitSpec) : Flow Unit := do
  emit .info .steps "Configure the upgrade."
  let doc ← logged spec.toDocument
  within "Failed to configure the upgrade" (Lifecycle.configure doc)
  emit .info .steps "Upgrade is configured."

/-- Runs the pre-checks against the document of a spec, or against the configured
upgrade. -/
def precheck (s : Session) (spec : Option InitSpec) : Flow CheckResult := do
  let doc : Option InitDocument ← match spec with
    | some sp => some <$> logged sp.toDocument
    | none => pure none
  Precheck.run doc s.precheckBudget

/-- Applies an apply document. -/
def applyDocument (doc : ApplyDocument) : Flow Unit := do
  match doc.startSwitchover, doc.pause with
  | some start, _ =>
    emit .info .steps ("Apply the upgrade with switchover scheduled at " ++ start.rfc3339 false ++ ".")
  | none, some p => emit .info .steps ("Apply the upgrade with pause point " ++ p.name ++ ".")
  | none, none => emit .info .steps "Apply the upgrade."
  within "Failed to apply the upgrade" (Lifecycle.apply doc)
  emit .info .steps "Upgrade has been started."

/-- Resolves a spec against the wall clock and applies its document. -/
def apply (spec : ApplySpec) : Flow ApplyDocument := do
  let now ← readClock
  let doc ← ofExcept (spec.toDocument now)
  applyDocument doc
  pure doc

/-- Cancels the upgrade. -/
def cancel : Flow Unit := do
  emit .info .steps "Cancel the upgrade."
  within "Failed to cancel the upgrade" Lifecycle.cancel
  emit .info .steps "Cancellation has been requested."

/-- Reads and reports the status of the upgrade. -/
def status : Flow UpgradeStatus := do
  let s ← within "Failed to get the upgrade status" Lifecycle.status
  emit .info .steps ("Upgrade status: " ++ Report.statusReport s)
  pure s

/-- Monitors the upgrade applied with a document. -/
def monitor (s : Session) (autocancel : Bool) (doc : ApplyDocument) : Flow MonitorOutcome :=
  Monitor.run s.monitoring autocancel doc

/-- Checks and builds an apply spec against the wall clock. -/
def applySpec (hours : Option Nat) (pause : Bool) : Flow ApplySpec := do
  let now ← readClock
  ofExcept (← logged (ApplySpec.make hours pause now))

/-- An apply document whose switchover, when `offset` is given, is that many seconds and a
half after the wall clock, with a pause before the switchover when asked. -/
def scheduledIn (offset : Option Int) (pause : Bool) : Flow ApplyDocument := do
  let start : Option Time.Instant ← match offset with
    | none => pure none
    | some n =>
      if n < -Budget.maxSpanSeconds ∨ Budget.maxSpanSeconds < n then halt Budget.Overflow.spanOutOfBounds.message
      else
        let now ← readClock
        match (now.addSeconds n).bind (·.addNanos 500000000) with
        | some t => pure (some t)
        | none => halt Budget.Overflow.instantOverflow.message
  pure { startSwitchover := start, pause := if pause then some .beforeSwitchover else none }

end Session

end ReducedDowntime
