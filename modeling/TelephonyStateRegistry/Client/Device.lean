import TelephonyStateRegistry.Client.Replays
import TelephonyStateRegistry.Client.Threads

/-!
# A process with JS code, and the service

The threads of the process run beside the service, which sends its callbacks one way. The
handler is the only user of the client in the process. A callback arrives when the system
delivers it, not in the order in which callbacks of different observers were sent, and
becomes an event for the thread of the handler.
-/

namespace TelephonyStateRegistry

open Reactive

variable {P : Platform}

namespace Napi

/-- What lies behind the manager: the client and the service, and all that the service has
sent to the process. -/
abbrev Station (P : Platform) := Remote P × List (Callback P)

/-- `TelephonyStateManager` of a process in which only the handler uses the client, with the
messages that the process is sent. -/
def stationManager (P : Platform) (process : Process) (link : Pair → Link) :
    StateManager (Station P) where
  addStateObserver k isUpdate w :=
    let op : Op P := .register (process.registration P (link k).observer k isUpdate)
    let (code, remote) := w.1.request (link k) op
    (code, (remote, w.2 ++ w.1.sends process.owns (link k) op))
  removeStateObserver k w :=
    let op : Op P := .unregister (process.key P k)
    let (code, remote) := w.1.request (link k) op
    (code, (remote, w.2 ++ w.1.sends process.owns (link k) op))

/-- The threads of the process over the service, and the callbacks that have not arrived. -/
structure Device (P : Platform) where
  threads : Threads P (Station P)
  inFlight : List (Callback P)

/-- The first state. -/
def Device.start (P : Platform) : Device P := ⟨.start P (Remote.start P, []), []⟩

/-- All that the service has sent to the process. -/
def Device.sent (s : Device P) : List (Callback P) := s.threads.handler.2.2

/-- What happens in the process, in the service and between them. -/
inductive DeviceStep (P : Platform) (process : Process)
  /-- The service serves another process. -/
  | serves (env : Env) (op : ForeignOp P process)
  | died
  | restarted
  | onRemoteDied (remote : Option Nat)
  /-- A callback arrives, and the observer sends an event. -/
  | arrives (index : Nat)
  | processEvent (attempts : Nat → Attempt)
  | workUpdated (index : Nat) (answers : WorkAnswers)
  | proceed (env : Pointer)
  | on (env : Pointer) (eventType : TelephonyUpdateEventType) (slotId : Int) (callback : Bool)
      (link : Pair → Link) (isCallBackRegister : IsCallBackRegister)
  | off (env : Pointer) (eventType : TelephonyUpdateEventType) (callback : Bool)
      (link : Pair → Link) (isCallBackRegister : IsCallBackRegister)
  | deleteReference (env : Pointer)
  | unRegisterAllListener (env : Pointer) (link : Pair → Link)

/-- What a step does behind the manager, if no thread of the process takes part. -/
def DeviceStep.behind (process : Process) : DeviceStep P process → Option (Station P → Station P)
  | .serves env op => some fun w =>
    (w.1.serves env op.val, w.2 ++ w.1.sendsWhileServing process.owns env op.val)
  | .died => some fun w => (w.1.died, w.2)
  | .restarted => some fun w => (w.1.restarted, w.2)
  | .onRemoteDied remote => some fun w => (w.1.onRemoteDied remote, w.2)
  | _ => none

/-- The step as one of the threads, in which requests go to the service. -/
def DeviceStep.onThreads (process : Process) :
    DeviceStep P process → Option (ThreadStep P (Station P))
  | .processEvent attempts => some (.processEvent attempts)
  | .workUpdated index answers => some (.workUpdated index answers)
  | .proceed env => some (.proceed env)
  | .on env eventType slotId callback link isCallBackRegister =>
    some (.on env eventType slotId callback (stationManager P process link) isCallBackRegister)
  | .off env eventType callback link isCallBackRegister =>
    some (.off env eventType callback (stationManager P process link) isCallBackRegister)
  | .deleteReference env => some (.deleteReference env)
  | .unRegisterAllListener env link =>
    some (.unRegisterAllListener env (stationManager P process link))
  | _ => none

/-- The threads after a step; what has been sent meanwhile is on its way. -/
def Device.after (s : Device P) (threads : Threads P (Station P)) : Device P :=
  ⟨threads, s.inFlight ++ threads.handler.2.2.drop s.sent.length⟩

/-- The process and the service as a machine; the outputs are what work items do. -/
def device (P : Platform) (process : Process) :
    Mealy (Device P) (DeviceStep P process) (List (WorkAction P)) where
  step s input := match input with
    | .arrives index => match s.inFlight[index]? with
      | none => (s, [])
      | some callback =>
        (⟨(Napi.threads P _).next s.threads (.notified callback), s.inFlight.eraseIdx index⟩, [])
    | input => match input.behind process, input.onThreads process with
      | some f, _ =>
        (s.after { s.threads with
          handler := (s.threads.handler.1, f s.threads.handler.2) }, [])
      | none, some step =>
        let (threads, actions) := (Napi.threads P _).step s.threads step
        (s.after threads, actions)
      | none, none => (s, [])

end Napi

end TelephonyStateRegistry
