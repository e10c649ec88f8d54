/-!
# Failures

What can go wrong while driving an upgrade, each kind with its own wording. A failure
that surfaces from a whole step carries the context in which it happened: the context
lines read outermost first and end with the cause, joined by `": "`.
-/

namespace ReducedDowntime

/-- Why an upgrade operation failed. -/
inductive UpgradeError where
  | invalidConfig (what : String)
  | connection (component message : String)
  | http (component message : String)
  | api (component : String) (status : Nat) (body : String)
  | notFound (path : String)
  | decode (component message : String)
  | authentication (what : String)
  | connectivity (what : String) (attempts : Nat)
  | timeout (operation details : String)
  | precheckFailed (what : String)
  | precheckNoResult
  | upgradeFailed (what : String)
  | cancellationFailed (what : String)
  | pluginUpdateFailed (what : String)
  | userCancelled
  deriving DecidableEq, Repr, Inhabited

namespace UpgradeError

/-- The wording of a failure. -/
def message : UpgradeError → String
  | .invalidConfig s => "Invalid configuration: " ++ s
  | .connection c m => "[" ++ c ++ "] connection failed: " ++ m
  | .http c m => "[" ++ c ++ "] HTTP request failed: " ++ m
  | .api c status body => "[" ++ c ++ "] API returned " ++ toString status ++ ": " ++ body
  | .notFound p => "[" ++ p ++ "] resource not found"
  | .decode c m => "[" ++ c ++ "] failed to decode response: " ++ m
  | .authentication s => "Authentication failed: " ++ s
  | .connectivity what n =>
    "Connectivity issue while fetching " ++ what ++ " after " ++ toString n ++ " attempts"
  | .timeout op details =>
    "Timeout waiting for " ++ op ++ ": " ++ details ++
      " (the operation may still be running, re-run the monitor)"
  | .precheckFailed s => "Upgrade pre-checks failed: " ++ s
  | .precheckNoResult =>
    "No result was returned from the upgrade pre-checks, most probably the checks didn't start"
  | .upgradeFailed s => "Upgrade has failed: " ++ s
  | .cancellationFailed s => "Upgrade cancellation has failed: " ++ s
  | .pluginUpdateFailed s => "Lifecycle plugin update has failed: " ++ s
  | .userCancelled => "Operation cancelled by user"

/-- Only a failed connection is worth retrying while the network moves. -/
def isConnection : UpgradeError → Bool
  | .connection _ _ => true
  | _ => false

end UpgradeError

/-- The root cause of a failure: an upgrade error, an error of the terminal, or a broken
invariant that stops the program at once (an arithmetic overflow, an index out of range). -/
inductive Cause where
  | upgrade (e : UpgradeError)
  | terminal (text : String)
  | halt (text : String)
  deriving DecidableEq, Repr, Inhabited

/-- A failure with the context lines around its cause, outermost first. -/
structure Failure where
  context : List String := []
  cause : Cause
  deriving DecidableEq, Repr, Inhabited

namespace Failure

/-- A failure without context. -/
def ofError (e : UpgradeError) : Failure := ⟨[], .upgrade e⟩

instance : Coe UpgradeError Failure := ⟨ofError⟩

/-- Adds a context line outside the existing ones; a halt carries no context. -/
def within (f : Failure) (line : String) : Failure :=
  match f.cause with
  | .halt _ => f
  | _ => { f with context := line :: f.context }

/-- The cause's own wording. -/
def causeText (f : Failure) : String :=
  match f.cause with
  | .upgrade e => e.message
  | .terminal t => t
  | .halt t => t

/-- The context lines and the cause, joined by `": "`. -/
def message (f : Failure) : String := String.intercalate ": " (f.context ++ [f.causeText])

/-- A failure that stops the program at once. -/
def halted (text : String) : Failure := ⟨[], .halt text⟩

/-- Whether the failure stops the program at once. -/
def isHalt (f : Failure) : Bool :=
  match f.cause with
  | .halt _ => true
  | _ => false

/-- The upgrade error at the root, if any. -/
def error? (f : Failure) : Option UpgradeError :=
  match f.cause with
  | .upgrade e => some e
  | _ => none

end Failure

end ReducedDowntime
