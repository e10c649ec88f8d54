import ReducedDowntime.Failure

/-!
# Scripted answers

An endpoint of a rehearsed service answers from a script: a list of answers, one
consumed per call, and a fallback that answers every call once the list is used up. An
answer is a value or an upgrade error.

A script fixes the whole behaviour of an endpoint whose answers do not depend on what is
asked, which is what the pollers and scenarios are stated over.
-/

namespace ReducedDowntime

/-- Answers of one endpoint: `answers` in order, then `fallback` for every later call. -/
structure Script (α : Type) where
  answers : List (Except UpgradeError α) := []
  fallback : Except UpgradeError α

namespace Script

variable {α : Type}

/-- A script that gives the same answer to every call. -/
def always (a : Except UpgradeError α) : Script α := ⟨[], a⟩

/-- A script that gives the same value to every call. -/
def constant (a : α) : Script α := always (.ok a)

/-- The next answer and the script left after it. -/
def next (s : Script α) : Except UpgradeError α × Script α :=
  match s.answers with
  | [] => (s.fallback, s)
  | a :: rest => (a, { s with answers := rest })

@[simp] theorem next_nil (f : Except UpgradeError α) :
    (Script.mk [] f).next = (f, Script.mk [] f) := rfl

@[simp] theorem next_cons (a : Except UpgradeError α) (rest : List (Except UpgradeError α))
    (f : Except UpgradeError α) : (Script.mk (a :: rest) f).next = (a, Script.mk rest f) := rfl

end Script

end ReducedDowntime
