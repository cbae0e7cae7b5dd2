import TelephonyStateRegistry.Client.FrontEnd
import TelephonyStateRegistry.Client.ObserverClient

/-!
# Two front ends of one process

Each front end has a table, a lock and observers of its own, and the service
tells none of this: both register under the same token and process. A call holds
only the lock of its own front end, so the requests of the two interleave.
-/

namespace TelephonyStateRegistry

open Reactive

/-- One of the two front ends. -/
inductive Side
  | first
  | second
  deriving DecidableEq, Repr

/-- The service, and which front end made each observer of the process. -/
structure Shared (P : Platform) where
  service : Service P
  /-- The maker of each observer, by the number of the observer. -/
  makers : List Side

/-- `TelephonyStateManager` for one front end, with requests that are all
delivered. Every registration comes with a new observer. -/
def Side.manager (P : Platform) (process : Process) (side : Side) (env : Env) :
    StateManager (Shared P) where
  addStateObserver k isUpdate w :=
    let r := process.registration P w.makers.length k isUpdate
    let (service, output) := registerStateChange env r w.service
    (.service output.result, ⟨service, w.makers ++ [side]⟩)
  removeStateObserver k w :=
    let (service, output) := unregisterStateChange env (process.key P k) w.service
    (.service output.result, { w with service })

/-- The two front ends and what they share. -/
structure Neighbours (P : Platform) (F G : FrontEnd) where
  first : F.Client
  second : G.Client
  shared : Shared P

/-- What happens in the process and in the service. -/
inductive NeighbourStep (P : Platform) (F G : FrontEnd)
  | first (step : FrontEndStep F Env)
  | second (step : FrontEndStep G Env)
  /-- The service serves somebody else. -/
  | serves (env : Env) (op : Op P)

section Machine

variable (P : Platform) (process : Process) (F G : FrontEnd)

/-- The two front ends as one machine. -/
def neighbours :
    Mealy (Neighbours P F G) (NeighbourStep P F G) (Option F.Code × Option G.Code) where
  step s input := match input with
    | .first step =>
      let parts := F.parts (Side.first.manager P process)
      let ((first, shared), code) := parts.step (s.first, s.shared) step
      ({ s with first, shared }, code, none)
    | .second step =>
      let parts := G.parts (Side.second.manager P process)
      let ((second, shared), code) := parts.step (s.second, s.shared) step
      ({ s with second, shared }, none, code)
    | .serves env op =>
      let service := if op.foreign process then (op.run env s.shared.service).1
        else s.shared.service
      ({ s with shared := { s.shared with service } }, none, none)

/-- The first state: both tables are empty, and so is the registry. -/
def Neighbours.start : Neighbours P F G := ⟨⟨[], .idle⟩, ⟨[], .idle⟩, ⟨Service.init P, []⟩⟩

end Machine

end TelephonyStateRegistry
