import TelephonyStateRegistry.Client.CjDispatch
import TelephonyStateRegistry.Client.CjObserver
import TelephonyStateRegistry.Core.Locks

/-!
# Cangjie code that runs during an update

The functions of the listeners are Cangjie code, which may call `On` and `Off`
itself, and so may other threads. These calls take the mutex of the handler. An
update takes it only for the copies of the listeners, and looks at the flag of a
copy when its turn comes. Every `On` makes a new flag; flags are numbered as they
are made.
-/

namespace TelephonyStateRegistry

open Reactive

variable {P : Platform} {σ : Type}

namespace Cj

/-- The calls of Cangjie code. -/
inductive ObserverCall
  | on (event : ObserverMask) (slotId funcId : Int) (callbackRef : Pointer)
  | off (event : ObserverMask) (funcId : Int)

/-- Whether a call gets as far as the handler. -/
def ObserverCall.reachesHandler (P : Platform) : ObserverCall → Bool
  | on event slotId _ callbackRef =>
    callbackRef ≠ nullptr && getEventType event ≠ .noneEventType && P.simSlotCount ≠ 0 &&
      isValidSlotIdEx P (getEventType event) slotId
  | off event _ => getEventType event ≠ .noneEventType

/-- Whether a call unregisters a listener. -/
def ObserverCall.unregisters (listener : EventListener) : ObserverCall → Bool
  | on _ _ _ _ => false
  | off event funcId =>
    getEventType event ≠ .noneEventType && matchesFunc (getEventType event) funcId listener

/-- A call, with what the manager does during it. -/
structure Request (σ : Type) where
  manager : StateManager σ
  call : ObserverCall

/-- The handler between two calls, with the number of the next flag. -/
structure Observers (σ : Type) where
  handler : ObserverEventHandler × σ
  fresh : Pointer

/-- The first state, over a given state behind the manager. -/
def Observers.start (s : σ) : Observers σ := ⟨Cj.start s, 1⟩

/-- The table of the handler. -/
def Observers.listeners (s : Observers σ) : List EventListener := s.handler.1.listenerList

/-- The flags that are set. -/
def Observers.deleting (s : Observers σ) : Finset Pointer := s.handler.1.deleting

/-- What a call does. -/
def Request.effect (P : Platform) (r : Request σ) (s : Observers σ) : Observers σ :=
  match r.call with
  | .on event slotId funcId callbackRef =>
    ⟨(on P r.manager event slotId funcId callbackRef s.fresh s.handler).1, s.fresh + 1⟩
  | .off event funcId => { s with handler := (off P r.manager event funcId s.handler).1 }

/-- A call with what it does to the mutex, which the functions of the handler hold from
start to end. -/
def Request.run (P : Platform) (r : Request σ) (s : Observers σ) : Locked (Observers σ) :=
  if r.call.reachesHandler P = true then Locked.holding .exclusive (pure (r.effect P s))
  else pure (r.effect P s)

/-- Calls one after the other. -/
def runAll (P : Platform) : List (Request σ) → Observers σ → Locked (Observers σ)
  | [], s => pure s
  | r :: rs, s => r.run P s >>= runAll P rs

/-- What happens around the turn of a copy. -/
structure Turn (σ : Type) where
  /-- The calls that are completed since the end of the last callback. -/
  before : List (Request σ)
  /-- Whether a copy of the info can be made. -/
  makeData : Bool
  /-- The calls that are completed during the callback, if there is one. -/
  during : List (Request σ)

/-- The turn of a copy. -/
structure Visit (σ : Type) where
  listener : EventListener
  turn : Turn σ
  /-- The calls that were completed since the copies were made. -/
  calls : List (Request σ)
  /-- What has happened to the mutex so far. -/
  actions : List LockAction
  /-- Whether `WorkUpdated` gets to its switch. -/
  handed : Bool
  /-- What the function of the listener is called with, if it is called. -/
  argv : Option (Value CString)

/-- The function that is called, if one is. -/
def Visit.execution (v : Visit σ) : Option Execution := v.argv.map (Execution.mk v.listener)

/-- `WorkUpdated` for a copy, unless a copy of the info cannot be made. Without data there
is nothing to copy. -/
def workVisit (K : Payloads P) (data : Option (UpdateInfo P)) (turn : Turn σ)
    (listen : EventListener) (calls : List (Request σ)) (p : Locked (Observers σ)) : Visit σ :=
  let handed := (data.isNone || turn.makeData) && !decide (Dropped p.value.deleting listen)
  { listener := listen, turn, calls, actions := p.actions, handed
    argv := if handed then workUpdated K p.value.deleting listen data else none }

/-- The calls that are completed during the turn of a copy. -/
def Visit.during (v : Visit σ) : List (Request σ) := if v.argv.isSome then v.turn.during else []

/-- The loop over the copies. -/
def workTurns (K : Payloads P) (data : Option (UpdateInfo P)) :
    (turns : Nat → Turn σ) → List EventListener → (calls : List (Request σ)) →
      Locked (Observers σ) → List (Visit σ) × Locked (Observers σ)
  | _, [], _, p => ([], p)
  | turns, listen :: snapshot, calls, p =>
    let calls := calls ++ (turns 0).before
    let p := p >>= runAll P (turns 0).before
    let visit := workVisit K data (turns 0) listen calls p
    let (visits, last) := workTurns K data (fun n => turns (n + 1)) snapshot
      (calls ++ visit.during) (p >>= runAll P visit.during)
    (visit :: visits, last)

/-- The copies of the listeners are made under the mutex. -/
def workSnapshot (K : Payloads P) (data : Option (UpdateInfo P)) (turns : Nat → Turn σ)
    (matchesListener : EventListener → Bool) (s : Observers σ) :
    List (Visit σ) × Locked (Observers σ) :=
  let snapshot := Locked.holding .exclusive (pure (s.listeners.filter matchesListener))
  workTurns K data turns snapshot.value [] (snapshot >>= fun _ => pure s)

/-- `HandleCallbackInfoUpdate` and `HandleCallbackVoidUpdate`, as `ProcessEvent` selects
them, with the turns of the copies. -/
def update (K : Payloads P) (event : InnerEvent P) (turns : Nat → Turn σ) (s : Observers σ) :
    List (Visit σ) × Locked (Observers σ) :=
  match handleFunc event.innerEventId with
  | .handleCallbackInfoUpdate eventType => match event.object with
    | none => ([], pure s)
    | some info => workSnapshot K (some info) turns
      (fun listen => listen.eventType = eventType && listen.slotId = info.slotId) s
  | .handleCallbackVoidUpdate eventType =>
    workSnapshot K none turns (fun listen => listen.eventType = eventType) s

@[simp] theorem Request.value_run (r : Request σ) (s : Observers σ) :
    (r.run P s).value = r.effect P s := by
  rw [Request.run]
  split_ifs <;> rfl

theorem Request.nonRecursive_run (r : Request σ) (s : Observers σ) :
    NonRecursive (r.run P s).actions := by
  rw [Request.run]
  split_ifs
  · exact Locked.nonRecursive_holding rfl
  · exact nonRecursive_nil

theorem nonRecursive_runAll (rs : List (Request σ)) (s : Observers σ) :
    NonRecursive (runAll P rs s).actions := by
  induction rs generalizing s with
  | nil => exact nonRecursive_nil
  | cons r rs ih =>
    rw [runAll, Locked.actions_bind]
    exact (nonRecursive_append (r.nonRecursive_run s)).mpr (ih _)

theorem value_runAll_append (rs rs' : List (Request σ)) (s : Observers σ) :
    (runAll P (rs ++ rs') s).value = (runAll P rs' (runAll P rs s).value).value := by
  induction rs generalizing s with
  | nil => rfl
  | cons r rs ih =>
    rw [List.cons_append, runAll, runAll, Locked.value_bind, Locked.value_bind]
    exact ih _

private theorem workVisit_execution (K : Payloads P) (data : Option (UpdateInfo P))
    (turn : Turn σ) (listen : EventListener) (calls : List (Request σ))
    (p : Locked (Observers σ)) :
    (workVisit K data turn listen calls p).execution =
      (if (data.isNone || turn.makeData) = false then none
        else workUpdated K p.value.deleting listen data).map (Execution.mk listen) := by
  refine congrArg (Option.map (Execution.mk listen)) ?_
  unfold workVisit
  cases (data.isNone || turn.makeData) with
  | false => rfl
  | true =>
    by_cases hflag : Dropped p.value.deleting listen
    · have hnone : workUpdated K p.value.deleting listen data = none := if_pos hflag
      simp only [hnone, ite_self]
    · simp only [hflag, decide_false, Bool.not_false, Bool.and_self, if_true, Bool.true_eq_false,
        if_false]

private theorem executions_workTurns (K : Payloads P) (data : Option (UpdateInfo P))
    (turns : Nat → Turn σ) (snapshot : List EventListener) (calls : List (Request σ))
    (p : Locked (Observers σ)) :
    ∃ attempts, (workTurns K data turns snapshot calls p).1.filterMap Visit.execution =
      workAll (fun attempt listen => if (data.isNone || attempt.makeData) = false then none
        else workUpdated K attempt.deleting listen data) attempts snapshot := by
  induction snapshot generalizing turns calls p with
  | nil => exact ⟨fun _ => .succeeding, rfl⟩
  | cons listen snapshot ih =>
    rw [workTurns]
    set q := p >>= runAll P (turns 0).before
    set v := workVisit K data (turns 0) listen (calls ++ (turns 0).before) q with hv
    obtain ⟨attempts, hrest⟩ := ih (fun n => turns (n + 1))
      (calls ++ (turns 0).before ++ v.during) (q >>= runAll P v.during)
    refine ⟨fun n => Nat.casesOn n ⟨(turns 0).makeData, q.value.deleting⟩ attempts, ?_⟩
    rw [List.filterMap_cons, hv, workVisit_execution, workAll]
    dsimp only
    cases (if (data.isNone || (turns 0).makeData) = false then none
      else workUpdated K q.value.deleting listen data) with
    | none => exact hrest
    | some argv => exact congrArg (List.cons _) hrest

/-- An update calls the functions that `ProcessEvent` calls, with the flags as they are at
each turn. -/
theorem executions_update (K : Payloads P) (event : InnerEvent P) (turns : Nat → Turn σ)
    (s : Observers σ) : ∃ attempts,
      (update K event turns s).1.filterMap Visit.execution =
        processEvent K event attempts s.listeners := by
  unfold update processEvent
  cases handleFunc event.innerEventId with
  | handleCallbackVoidUpdate eventType => exact executions_workTurns K none turns _ [] _
  | handleCallbackInfoUpdate eventType =>
    cases event.object with
    | none => exact ⟨fun _ => .succeeding, rfl⟩
    | some info => exact executions_workTurns K (some info) turns _ [] _

end Cj

end TelephonyStateRegistry
