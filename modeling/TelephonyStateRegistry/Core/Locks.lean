import Mathlib.Data.List.Basic

/-!
# Programs with scoped locks

A program is a value together with the actions of its thread on one lock, which
may be held exclusively or shared but is not recursive. Locks are held by scopes:
what a scope encloses runs while the lock is held, and at its end the lock is
given back. So a trace can only go wrong in one way, by a scope within a scope.
-/

namespace Reactive

/-- How a lock is held. -/
inductive LockMode
  | exclusive
  | shared
  deriving DecidableEq, Repr

/-- An action of a thread on the lock. -/
inductive LockAction
  | acquire (mode : LockMode)
  | release (mode : LockMode)
  deriving DecidableEq, Repr

/-- What a thread holds after an action. A lock that is held is not asked for again,
in whichever mode, and only a lock that is held is given back. -/
def LockAction.after : Option LockMode → LockAction → Option (Option LockMode)
  | none, acquire mode => some (some mode)
  | some _, acquire _ => none
  | none, release _ => none
  | some mode, release mode' => if mode = mode' then some none else none

/-- The lock is never asked for by its holder, and is free at the end. -/
def NonRecursive (actions : List LockAction) : Prop :=
  actions.foldlM LockAction.after none = some none

instance (actions : List LockAction) : Decidable (NonRecursive actions) :=
  inferInstanceAs (Decidable (_ = _))

theorem nonRecursive_nil : NonRecursive [] := rfl

/-- After a trace that is in order the next one starts with a free lock. -/
theorem nonRecursive_append {actions more : List LockAction} (h : NonRecursive actions) :
    NonRecursive (actions ++ more) ↔ NonRecursive more := by
  unfold NonRecursive at h ⊢
  rw [List.foldlM_append, h]
  rfl

/-- A program with the lock actions of its thread. -/
structure Locked (α : Type*) where
  actions : List LockAction
  value : α

namespace Locked

universe u

variable {α β : Type u}

instance : Monad Locked where
  pure a := ⟨[], a⟩
  bind p f := ⟨p.actions ++ (f p.value).actions, (f p.value).value⟩

/-- A program under a lock that is held from its start to its end. -/
def holding (mode : LockMode) (p : Locked α) : Locked α :=
  ⟨.acquire mode :: p.actions ++ [.release mode], p.value⟩

@[simp] theorem actions_pure (a : α) : (pure a : Locked α).actions = [] := rfl

@[simp] theorem value_pure (a : α) : (pure a : Locked α).value = a := rfl

@[simp] theorem actions_bind (p : Locked α) (f : α → Locked β) :
    (p >>= f).actions = p.actions ++ (f p.value).actions := rfl

@[simp] theorem value_bind (p : Locked α) (f : α → Locked β) :
    (p >>= f).value = (f p.value).value := rfl

@[simp] theorem actions_holding (mode : LockMode) (p : Locked α) :
    (holding mode p).actions = .acquire mode :: p.actions ++ [.release mode] := rfl

@[simp] theorem value_holding (mode : LockMode) (p : Locked α) :
    (holding mode p).value = p.value := rfl

/-- A scope around a program that leaves the lock alone is in order. -/
theorem nonRecursive_holding {mode : LockMode} {p : Locked α} (h : p.actions = []) :
    NonRecursive (holding mode p).actions := by
  rw [actions_holding, h]
  cases mode <;> rfl

/-- A scope around a program that asks for the lock is not. -/
theorem not_nonRecursive_holding {mode mode' : LockMode} {p : Locked α} {rest : List LockAction}
    (h : p.actions = .acquire mode' :: rest) : ¬NonRecursive (holding mode p).actions := by
  rw [actions_holding, h]
  intro hrun
  cases hrun

end Locked

end Reactive
