import TelephonyStateRegistry.Client.CjCallbacks
import TelephonyStateRegistry.Core.Mealy

/-!
# The events of the Cangjie handler

The handler has a thread of its own, which processes the events one after the other, and
gives each copy of an update its turn. Other threads call `On` and `Off` meanwhile, also
between the look at the flag of a copy and the call of its function.
-/

namespace TelephonyStateRegistry

open Reactive

variable {P : Platform} {σ : Type}

namespace Cj

/-- The handler, its queue, and the update that its thread is at. -/
structure Runner (P : Platform) (σ : Type) where
  observers : Observers σ
  /-- The events that are still to be processed. -/
  events : List (InnerEvent P)
  /-- What the work functions of the update are given. -/
  data : Option (UpdateInfo P)
  /-- The copies whose turn is still to come. -/
  snapshot : List EventListener
  /-- The function that has been chosen, and not called yet. -/
  chosen : Option Execution

/-- The first state, over a given state behind the manager. -/
def Runner.start (P : Platform) (w : σ) : Runner P σ := ⟨.start w, [], none, [], none⟩

/-- What happens in the process. -/
inductive RunnerStep (P : Platform) (σ : Type)
  /-- `FfiTelephonyObserver` is called. -/
  | notified (callback : Callback P)
  /-- Cangjie code calls `On` or `Off`. -/
  | call (request : Request σ)
  | processEvent
  /-- `WorkUpdated` for the next copy, unless the copy of the info cannot be made. -/
  | workUpdated (makeData : Bool)
  | callbackRef

/-- The handler and its thread as a machine; the outputs are the functions that are called. -/
def runner (K : Payloads P) (σ : Type) :
    Mealy (Runner P σ) (RunnerStep P σ) (Option Execution) where
  step s step := match step with
    | .notified callback => ({ s with events := s.events ++ (sendEvent callback).toList }, none)
    | .call request => ({ s with observers := request.effect P s.observers }, none)
    | .processEvent => match s.chosen, s.snapshot, s.events with
      | none, [], event :: events =>
        ({ s with
            events, data := event.data
            snapshot := s.observers.listeners.filter event.serves }, none)
      | _, _, _ => (s, none)
    | .workUpdated makeData => match s.chosen, s.snapshot with
      | none, listen :: snapshot =>
        let argv := if (s.data.isNone || makeData) = false then none
          else workUpdated K s.observers.deleting listen s.data
        ({ s with snapshot, chosen := argv.map (Execution.mk listen) }, none)
      | _, _ => (s, none)
    | .callbackRef => ({ s with chosen := none }, s.chosen)

end Cj

end TelephonyStateRegistry
