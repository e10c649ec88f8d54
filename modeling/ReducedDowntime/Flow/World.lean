import ReducedDowntime.Service.Lifecycle
import ReducedDowntime.Service.Appliance
import ReducedDowntime.Log
import ReducedDowntime.Time.Duration

/-!
# The world an upgrade is driven in

A flow runs against two services, reads a wall clock, sleeps, writes log lines and
prints text. All of it is held in a `World`:

1. the two rehearsed services and the calls made to each, in order. A service may be given a
   limit on the calls it takes; over it, the service refuses the call and the run halts with
   `callLimitText`. A service has no limit unless given one, and in a world where neither has
   one no call is refused (`Scenario.run_ne_refusal`);
2. the wall clock, which moves forward by one nanosecond each time it is read, so that
   two readings are never equal and a switchover set a whole number of hours ahead is
   always a little less than that far away when it is read again;
3. the time slept, in nanoseconds (sleeping does not move the wall clock);
4. the log lines and the printed text;
5. the terminal's answers to yes/no prompts, and the prompts shown so far, each with its
   answer and the count of calls to the lifecycle manager made before it. A terminal whose
   answers have run out answers as a run without one does: the prompt fails with
   `IO error: not a terminal`.

A `Flow` is a computation in the world that may fail with a `Failure`. A failure with
context is made by `Flow.within`, which adds a line outside the failure's own.
-/

namespace ReducedDowntime

/-- The answer to a yes/no prompt: yes, no, or an error of the terminal. -/
inductive PromptAnswer where
  | yes
  | no
  | failed (text : String)
  deriving DecidableEq, Repr

/-- The answer to a prompt with no terminal to show it on. -/
def PromptAnswer.noTerminal : PromptAnswer := .failed "IO error: not a terminal"

/-- Everything a flow reads and changes. -/
structure World where
  lifecycle : LifecycleService := {}
  appliance : ApplianceService := {}
  lifecycleCalls : Array LifecycleCall := #[]
  applianceCalls : Array ApplianceCall := #[]
  clock : Time.Instant
  slept : Nat := 0
  log : Array LogLine := #[]
  printed : String := ""
  terminal : List PromptAnswer := []
  prompts : Array (Nat × PromptAnswer) := #[]

/-- A computation in the world that may fail. -/
abbrev Flow := ExceptT Failure (StateM World)

namespace Flow

variable {α : Type}

/-- Runs a flow from a world. -/
def run (f : Flow α) (w : World) : Except Failure α × World := (ExceptT.run f).run w

/-- Fails with an upgrade error. -/
def fail (e : UpgradeError) : Flow α := throw (Failure.ofError e)

/-- Stops the program at once. -/
def halt (text : String) : Flow α := throw (Failure.halted text)

/-- Runs a flow and, when it fails, adds a context line to the failure. -/
def within (line : String) (f : Flow α) : Flow α :=
  tryCatch f fun e => throw (e.within line)

/-- Lifts a result of a pure computation. -/
def ofExcept (r : Except UpgradeError α) : Flow α :=
  match r with
  | .ok a => pure a
  | .error e => fail e

/-- Writes a log line. -/
def emit (level : Level) (source : Source) (text : String) : Flow Unit :=
  modify fun w => { w with log := w.log.push ⟨level, source, text⟩ }

/-- Writes the log lines of a computation and gives its value. -/
def logged (l : Logged α) : Flow α := do
  modify fun w => { w with log := w.log ++ l.lines.toArray }
  pure l.value

/-- Prints text. -/
def print (text : String) : Flow Unit :=
  modify fun w => { w with printed := w.printed ++ text }

/-- Sleeps for a length of time. -/
def sleep (d : Time.Duration) : Flow Unit :=
  modify fun w => { w with slept := w.slept + d.toNanos }

/-- Reads the wall clock, which then moves one nanosecond forward. -/
def readClock : Flow Time.Instant :=
  modifyGet fun w => (w.clock, { w with clock := (w.clock.addNanos 1).getD w.clock })

/-- Shows a yes/no prompt and reads the terminal's next answer. -/
def prompt : Flow PromptAnswer :=
  modifyGet fun w =>
    let answer := w.terminal.headD .noTerminal
    (answer, { w with terminal := w.terminal.tail,
                      prompts := w.prompts.push (w.lifecycleCalls.size, answer) })

/-- The text of the halt when a service gets more calls than it accepts. -/
def callLimitText : String := "driver: call limit exceeded"

/-- Whether a service with limit `limit` that took `made` calls refuses the next one. -/
def overLimit (limit : Option Nat) (made : Nat) : Bool :=
  match limit with
  | some n => made ≥ n
  | none => false

/-- Calls the lifecycle manager: records the call and consumes the endpoint's next answer. -/
def askLifecycle (call : LifecycleCall) (endpoint : LifecycleService → Script α)
    (advance : LifecycleService → Script α → LifecycleService) : Flow α := do
  let w ← get
  if overLimit w.lifecycle.callLimit w.lifecycleCalls.size then halt callLimitText
  let (answer, rest) := (endpoint w.lifecycle).next
  set { w with lifecycle := advance w.lifecycle rest, lifecycleCalls := w.lifecycleCalls.push call }
  ofExcept answer

/-- Calls the appliance: records the call and consumes the endpoint's next answer. -/
def askAppliance (call : ApplianceCall) (endpoint : ApplianceService → Script α)
    (advance : ApplianceService → Script α → ApplianceService) : Flow α := do
  let w ← get
  if overLimit w.appliance.callLimit w.applianceCalls.size then halt callLimitText
  let (answer, rest) := (endpoint w.appliance).next
  set { w with appliance := advance w.appliance rest, applianceCalls := w.applianceCalls.push call }
  ofExcept answer

end Flow

/-! ## The endpoints -/

namespace Lifecycle

/-- Whether an upgrade is initialized. -/
def isInitialized : Flow Bool :=
  Flow.askLifecycle .isInitialized (·.initialized) fun s r => { s with initialized := r }

/-- Hands the init document to the manager. -/
def configure (spec : InitDocument) : Flow Unit :=
  Flow.askLifecycle (.configure spec) (·.configure) fun s r => { s with configure := r }

/-- Starts a pre-check task, against a document or against the configured upgrade. -/
def startCheck (spec : Option InitDocument) : Flow String :=
  Flow.askLifecycle (.startCheck spec) (·.startCheck) fun s r => { s with startCheck := r }

/-- The state of a task. -/
def taskInfo (task : String) : Flow TaskInfo :=
  Flow.askLifecycle (.taskInfo task) (·.taskInfo) fun s r => { s with taskInfo := r }

/-- Applies the upgrade; the call records the wall clock. -/
def apply (doc : ApplyDocument) : Flow Unit := do
  let clock ← Flow.readClock
  Flow.askLifecycle (.apply doc clock) (·.apply) fun s r => { s with apply := r }

/-- Cancels the upgrade. -/
def cancel : Flow Unit :=
  Flow.askLifecycle .cancel (·.cancel) fun s r => { s with cancel := r }

/-- The status of the upgrade. -/
def status : Flow UpgradeStatus :=
  Flow.askLifecycle .status (·.status) fun s r => { s with status := r }

end Lifecycle

namespace Appliance

/-- Sets the update policy. -/
def setPolicy (p : UpdatePolicy) : Flow Unit :=
  Flow.askAppliance (.setPolicy p) (·.setPolicy) fun s r => { s with setPolicy := r }

/-- The pending updates. -/
def listPending : Flow (List UpdateSummary) :=
  Flow.askAppliance .listPending (·.pending) fun s r => { s with pending := r }

/-- The components that an update can upgrade. -/
def listComponents (version : String) : Flow (List UpgradeableComponent) :=
  Flow.askAppliance (.listComponents version) (·.components) fun s r => { s with components := r }

/-- Stages and installs a component of an update. -/
def stageAndInstall (version component : String) : Flow Unit :=
  Flow.askAppliance (.stageAndInstall version component) (·.stageAndInstall)
    fun s r => { s with stageAndInstall := r }

/-- The state of the update. -/
def updateStatus : Flow UpdateStatus :=
  Flow.askAppliance .updateStatus (·.updateStatus) fun s r => { s with updateStatus := r }

end Appliance

end ReducedDowntime
