import TelephonyStateRegistry.Client.Dispatch
import TelephonyStateRegistry.Client.Host
import TelephonyStateRegistry.Interpretation.Replay

/-!
# Replays on their way to the JS listeners

A registration holds the mutex of the handler while it waits for the service, whose
replay may arrive before the answer. What arrives becomes an event for the thread of
the handler, which needs the mutex to look at the table. Others in the process use the
same client; what the service sends to their observers is not for the handler.
-/

namespace TelephonyStateRegistry

open Reactive

variable {P : Platform}

/-- The callbacks of an operation on certain records. -/
def Output.callbacksOn (owns : Record → Bool) (output : Output P) : List (Callback P) :=
  (output.deliveries.filter fun d => owns d.record).map Delivery.callback

/-- The record is one of a process. -/
def Process.owns (process : Process) (record : Record) : Bool :=
  record.tokenId == process.tokenId && record.pid == process.pid

theorem Process.owns_iff (process : Process) {record : Record} :
    process.owns record = true ↔
      record.tokenId = process.tokenId ∧ record.pid = process.pid := by
  rw [Process.owns, Bool.and_eq_true, beq_iff_eq, beq_iff_eq]

/-- What the service sends to certain records while it serves a request of the client. -/
def Remote.sends (owns : Record → Bool) (link : Link) (op : Op P) (w : Remote P) :
    List (Callback P) :=
  match w.getProxy link with
  | (none, _) => []
  | (some i, w) =>
    match w.service with
    | none => []
    | some (j, s) =>
      if i = j ∧ link.sendRequest = true then (op.run link.env s).2.callbacksOn owns else []

/-- What the service sends to them while it serves somebody who does not use the client. -/
def Remote.sendsWhileServing (owns : Record → Bool) (env : Env) (op : Op P) (w : Remote P) :
    List (Callback P) :=
  match w.service with
  | none => []
  | some (_, s) => (op.run env s).2.callbacksOn owns

/-- The record has an observer that the front end made for the process. -/
def Host.owns (process : Process) (w : Host P) (record : Record) : Bool :=
  process.owns record && w.made record

/-- A user of the client makes a request, and the service sends messages to the front end
meanwhile. -/
def Host.requestSending (process : Process) (user : User) (link : Link) (request : ClientRequest)
    (w : Host P × List (Callback P)) : ClientCode × (Host P × List (Callback P)) :=
  let answer := w.1.request process user link request
  let owns := answer.2.owns process
  (answer.1, (answer.2,
    w.2 ++ w.1.remote.sends owns link (request.op P process w.1.makers.length)))

/-- `TelephonyStateManager` for the front end, with the messages that it is sent. -/
def messageManager (P : Platform) (process : Process) (link : Pair → Link) :
    StateManager (Host P × List (Callback P)) where
  addStateObserver k isUpdate := Host.requestSending process .frontEnd (link k)
    (.addStateObserver k.slotId (k.eventType.toUint32t P) isUpdate)
  removeStateObserver k := Host.requestSending process .frontEnd (link k)
    (.removeStateObserver k.slotId (k.eventType.toUint32t P))

/-- The handler, the service, and what is on its way from one to the other. -/
structure Replays (P : Platform) where
  handler : Napi.EventListenerHandler
  /-- The handler as the registration leaves it that holds the mutex. -/
  registering : Option Napi.EventListenerHandler
  host : Host P
  /-- The callbacks that have not arrived. -/
  messages : List (Callback P)
  /-- The callbacks for which the observer has sent an event. -/
  events : List (Callback P)

/-- The first state. -/
def Replays.start (P : Platform) : Replays P := ⟨⟨[], ∅⟩, none, Host.start P, [], []⟩

/-- What happens in a process whose service does not die. -/
inductive ReplayStep (P : Platform) (process : Process)
  /-- `RegisterEventListener` takes the mutex, and its request is answered. -/
  | register (link : Pair → Link) (isCallBackRegister : Napi.IsCallBackRegister)
      (listener : Napi.EventListener)
  /-- It adds the listener and gives the mutex back. -/
  | registered
  /-- A function of the handler runs from start to end. -/
  | call (link : Pair → Link) (isCallBackRegister : Napi.IsCallBackRegister) (call : Napi.Call)
  /-- Another user of the client in the process makes a request. -/
  | neighbour (link : Link) (request : ClientRequest)
  /-- The service serves another process. -/
  | serves (env : Env) (op : ForeignOp P process)
  /-- A message arrives. -/
  | receive (index : Nat)
  /-- The thread of the handler processes the next event. -/
  | processEvent (attempts : Nat → Napi.Attempt)

/-- The process as a machine; the outputs are the work items that are queued. A step
that has to wait for the mutex has no effect. -/
def replays (P : Platform) (process : Process) :
    Mealy (Replays P) (ReplayStep P process) (List (Napi.WorkItem P)) where
  step s input := match input with
    | .register link isCallBackRegister listener => match s.registering with
      | some _ => (s, [])
      | none =>
        let ((handler, host, messages), _) :=
          Napi.registerEventListener P (messageManager P process link) isCallBackRegister listener
            (s.handler, s.host, s.messages)
        ({ s with registering := some handler, host, messages }, [])
    | .registered => match s.registering with
      | none => (s, [])
      | some handler => ({ s with handler, registering := none }, [])
    | .call link isCallBackRegister call => match s.registering with
      | some _ => (s, [])
      | none =>
        let (handler, host, messages) := (Napi.machine P).next
          (s.handler, s.host, s.messages)
          ⟨messageManager P process link, isCallBackRegister, call⟩
        ({ s with handler, host, messages }, [])
    | .neighbour link request =>
      let (_, host, messages) :=
        Host.requestSending process .neighbour link request (s.host, s.messages)
      ({ s with host, messages }, [])
    | .serves env op =>
      ({ s with
        host := { s.host with remote := s.host.remote.serves env op.val }
        messages := s.messages ++
          s.host.remote.sendsWhileServing (s.host.owns process) env op.val }, [])
    | .receive index => match s.messages[index]? with
      | none => (s, [])
      | some callback =>
        ({ s with
          messages := s.messages.eraseIdx index
          events := s.events ++ [callback] }, [])
    | .processEvent attempts => match s.registering, s.events with
      | none, callback :: events =>
        ({ s with events },
          Napi.processEvent (Napi.sendEvent callback) attempts s.handler.listenerList)
      | _, _ => (s, [])

/-- The value that the service holds for a pair, as it is shown to the process. -/
def Remote.held (process : Process) (link : Link) (k : Pair) (m : ObserverMask) (w : Remote P) :
    Option (Callback P) :=
  w.service.bind fun (_, s) =>
    s.caches.replayed link.env (process.registration P link.observer k true).record m

/-- The service sends nothing while it serves a removal. -/
theorem callbacksOn_unregister (owns : Record → Bool) (env : Env) (key : Key) (s : Service P) :
    (unregisterStateChange env key s).2.callbacksOn owns = [] := by
  unfold unregisterStateChange
  split_ifs <;> rfl

theorem Remote.sends_unregister (owns : Record → Bool) (link : Link) (key : Key) (w : Remote P) :
    w.sends owns link (.unregister key) = [] := by
  unfold Remote.sends
  split
  · rfl
  · split
    · rfl
    · rw [Op.run, callbacksOn_unregister, ite_self]

end TelephonyStateRegistry
