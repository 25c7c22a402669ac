import Throws.Diagnostic
import Throws.Trail

/-!
# Values with a log

Resolving names never fails: whatever is wrong is written to a log, and resolution goes on with
the best guess. A `Logged` value comes with the trail that leads to it, on which the errors are the
events. How deep resolution goes is part of the trail and has no effect on the value.
-/

namespace Throws.Resolution

/-- A value and the trail that leads to it. -/
structure Logged (α : Type) where
  /-- The value. -/
  value : α
  /-- The errors, in the order in which they are found and at the level at which they are. -/
  trail : Trail Diagnostic := .empty

namespace Logged

variable {α β : Type}

/-- The errors found on the way to a value, in order. -/
def log (logged : Logged α) : List Diagnostic := logged.trail.events

instance : Monad Logged where
  pure a := { value := a }
  bind first next :=
    let second := next first.value
    { value := second.value, trail := .append first.trail second.trail }

/-- Writes an error to the log. -/
def report (diagnostic : Diagnostic) : Logged Unit := { value := (), trail := .event diagnostic }

/-- The same value, found further down by a number of levels. -/
def below (levels : Nat) (logged : Logged α) : Logged α :=
  { logged with trail := .deeper levels logged.trail }

@[simp]
theorem value_pure (a : α) : (pure a : Logged α).value = a := rfl

@[simp]
theorem log_pure (a : α) : (pure a : Logged α).log = [] := rfl

@[simp]
theorem value_bind (first : Logged α) (next : α → Logged β) :
    (first >>= next).value = (next first.value).value :=
  rfl

@[simp]
theorem log_bind (first : Logged α) (next : α → Logged β) :
    (first >>= next).log = first.log ++ (next first.value).log :=
  rfl

@[simp]
theorem value_below (levels : Nat) (logged : Logged α) :
    (logged.below levels).value = logged.value :=
  rfl

@[simp]
theorem log_below (levels : Nat) (logged : Logged α) : (logged.below levels).log = logged.log :=
  rfl

@[simp]
theorem log_report (diagnostic : Diagnostic) : (report diagnostic).log = [diagnostic] := rfl

end Logged

/-- The values of several computations one after the other. -/
def Logged.each {α β : Type} (compute : α → Logged β) : List α → Logged (List β)
  | [] => return []
  | a :: rest => do
    let first ← compute a
    return first :: (← each compute rest)

end Throws.Resolution
