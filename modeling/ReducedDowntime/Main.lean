import ReducedDowntime.Program
import Std.Time.Format

/-!
# The command-line program

Reads the command line, the environment variables the tool knows and the current time,
runs the tool (see `Exit.ofRun`), writes what it wrote, and exits with its code.
-/

open ReducedDowntime

/-- The environment variables the tool reads. -/
def knownVariables : List String :=
  ["VC_USERNAME", "VC_PASSWORD", "RDU_LOG_LEVEL", "RDU_TARGET_TEMP_PASSWORD", "UBER_VC_PASSWORD", "RUST_LOG"]

/-- The current time as an instant. -/
def currentInstant : IO Time.Instant := do
  let nanos := (← Std.Time.Timestamp.now).toNanosecondsSinceUnixEpoch.toInt
  return ⟨nanos / 1000000000, (nanos % 1000000000).toNat⟩

/-- Runs the tool. -/
def main (args : List String) : IO UInt32 := do
  let env ← knownVariables.filterMapM fun name => do
    return (← IO.getEnv name).map (name, ·)
  let exit := Exit.ofRun env args (← currentInstant)
  IO.print exit.out
  IO.eprint exit.err
  return exit.code.toUInt32
