import TelephonyStateRegistry.Client.Work

/-!
# The lock and the handle scopes of a work item

A work item takes the lock of the handler and passes it on; it opens scopes of
the engine and should close them. A monitor follows its actions and stops at one
that is not allowed: giving back a lock that is not held, closing a scope that is
not open, calling a function under the lock or a second time, or using a null
element.
-/

namespace TelephonyStateRegistry

variable {P : Platform}

namespace Napi

/-- What a work item holds, and what it has done. -/
structure Held where
  locked : Bool
  /-- How often the lock was given back. -/
  unlocks : Nat
  /-- The scopes that are open. -/
  scopes : Nat
  /-- How often the function was called. -/
  calls : Nat

/-- What an action leaves of it, if the action is allowed. -/
def Held.after (held : Held) : WorkAction P → Option Held
  | .lock => if held.locked then none else some { held with locked := true }
  | .unlock =>
    if held.locked then some { held with locked := false, unlocks := held.unlocks + 1 } else none
  | .openHandleScope opened =>
    some { held with scopes := if opened then held.scopes + 1 else held.scopes }
  | .closeHandleScope =>
    if held.scopes = 0 then none else some { held with scopes := held.scopes - 1 }
  | .getReferenceValue _ => some held
  | .callFunction _ =>
    if held.locked ∨ held.calls ≠ 0 then none else some { held with calls := held.calls + 1 }
  | .nullDereference => none

end Napi

end TelephonyStateRegistry
