import Mathlib.Logic.Function.Basic
import TelephonyStateRegistry.Client.Work

/-!
# The threads of the JS front end

Each environment has a thread, which runs its JS code, the calls that this code
makes and the work items queued on it. Events are processed on the thread of the
handler. A step is what one thread does while it holds the lock, or one action
without the lock; the steps of different threads come in any order. References
and flags are numbered as they are made, so a number denotes one object only.
-/

namespace TelephonyStateRegistry

open Reactive

namespace Napi

/-- `DEFAULT_SIM_SLOT_ID`. -/
def defaultSimSlotId : Int := 0

/-- The error codes of a context. -/
inductive ContextCode
  | client (code : ClientCode)
  | errorSlotIdInvalid
  deriving DecidableEq, Repr

/-- `ObserverContext`. -/
structure ObserverContext where
  /-- `napi_ref`. -/
  callbackRef : Pointer
  slotId : Int
  eventType : TelephonyUpdateEventType
  errorCode : ContextCode
  resolved : Bool
  removeListenerList : List EventListener

/-- A context as it is filled from the parameters of a call. -/
def ObserverContext.new (eventType : TelephonyUpdateEventType) (slotId : Int)
    (callbackRef : Pointer) : ObserverContext :=
  ⟨callbackRef, slotId, eventType, .client .telephonySuccess, false, []⟩

/-- The events of calls, which need no SIM card. -/
def isCallEvent (eventType : TelephonyUpdateEventType) : Bool :=
  eventType = .event .callState || eventType = .event .callStateEx ||
    eventType = .event .ccallState || eventType = .event .voipCallState

/-- `IsValidSlotIdEx`. -/
def isValidSlotIdEx (P : Platform) (eventType : TelephonyUpdateEventType) (slotId : Int) : Bool :=
  let defaultSlotId := if isCallEvent eventType then -1 else defaultSimSlotId
  (slotId ≥ defaultSlotId && slotId < P.simSlotCount + 1) || slotId = simSlotIdForDefaultConnEvent

section Native

variable {σ : Type} (P : Platform) (M : StateManager σ) (isCallBackRegister : IsCallBackRegister)
  (env : Pointer)

/-- `NativeOn`, with the flag that it makes. -/
def nativeOn (isDeleting : Pointer) (asyncContext : ObserverContext)
    (s : EventListenerHandler × σ) : (EventListenerHandler × σ) × ObserverContext :=
  if P.simSlotCount = 0 ∧ isCallEvent asyncContext.eventType = false then
    (s, { asyncContext with resolved := true })
  else if isValidSlotIdEx P asyncContext.eventType asyncContext.slotId = false then
    (s, { asyncContext with errorCode := .errorSlotIdInvalid })
  else
    let listener : EventListener := ⟨env, asyncContext.eventType, asyncContext.slotId,
      asyncContext.callbackRef, isDeleting⟩
    let (s, code) := registerEventListener P M isCallBackRegister listener s
    (s, { asyncContext with
      errorCode := .client code, resolved := code = .telephonySuccess })

/-- `OnCallback`: the references that it deletes. -/
def onCallback (asyncContext : ObserverContext) : List Pointer :=
  if asyncContext.resolved = false ∧ env ≠ nullptr ∧ asyncContext.callbackRef ≠ nullptr then
    [asyncContext.callbackRef]
  else []

/-- `On`, up to `OnCallback`. -/
def on (isDeleting : Pointer) (asyncContext : ObserverContext) (s : EventListenerHandler × σ) :
    (EventListenerHandler × σ) × ObserverContext :=
  if asyncContext.eventType = .noneEventType then (s, asyncContext)
  else nativeOn P M isCallBackRegister env isDeleting asyncContext s

/-- `NativeOff`. -/
def nativeOff (asyncContext : ObserverContext) (s : EventListenerHandler × σ) :
    (EventListenerHandler × σ) × ObserverContext :=
  let removed := if asyncContext.callbackRef = nullptr then matchesEvent env asyncContext.eventType
    else matchesCallback isCallBackRegister env asyncContext.eventType asyncContext.callbackRef
  let (next, code) :=
    if asyncContext.callbackRef = nullptr then
      unregisterEventListeners P M env asyncContext.eventType s
    else unregisterEventListener P M isCallBackRegister env asyncContext.eventType
      asyncContext.callbackRef s
  (next, { asyncContext with
    errorCode := .client code, resolved := code = .telephonySuccess
    removeListenerList := s.1.listenerList.filter removed })

/-- The references of removed listeners that are deleted. -/
def deletedReferences (listeners : List EventListener) : List Pointer :=
  (listeners.filter fun l => env = l.env && l.env ≠ nullptr && l.callbackRef ≠ nullptr).map
    EventListener.callbackRef

/-- `OffCallback`: the references that it deletes, in order. -/
def offCallback (asyncContext : ObserverContext) : List Pointer :=
  deletedReferences env asyncContext.removeListenerList ++
    if env ≠ nullptr ∧ asyncContext.callbackRef ≠ nullptr then [asyncContext.callbackRef] else []

/-- `Off`, up to `OffCallback`. -/
def off (asyncContext : ObserverContext) (s : EventListenerHandler × σ) :
    (EventListenerHandler × σ) × ObserverContext :=
  if asyncContext.eventType = .noneEventType then (s, asyncContext)
  else nativeOff P M isCallBackRegister env asyncContext s

end Native

/-- The thread of an environment. -/
structure JsThread (P : Platform) where
  /-- What is left of the work item that is under way. -/
  work : List (WorkAction P)
  /-- Whether the callback of that item is running. -/
  inCallback : Bool
  /-- The references that the call under way has still to delete. -/
  refs : List Pointer

/-- A thread that waits for its event loop. -/
def JsThread.idle {P : Platform} : JsThread P := ⟨[], false, []⟩

/-- Whether the engine may run code of the environment. -/
def JsThread.inEngine {P : Platform} (t : JsThread P) : Bool := t.work.isEmpty || t.inCallback

/-- Whether JS code is running, or may start to. -/
def JsThread.inJs {P : Platform} (t : JsThread P) : Bool := t.inEngine && t.refs.isEmpty

/-- Whether nothing is under way. -/
def JsThread.isIdle {P : Platform} (t : JsThread P) : Bool := t.work.isEmpty && t.refs.isEmpty

/-- The front end of a process: the handler with what lies behind the manager,
the events and the work items in flight, the threads, and the engine. -/
structure Threads (P : Platform) (σ : Type) where
  handler : EventListenerHandler × σ
  /-- The events sent to the handler, in order. -/
  events : List (InnerEvent P)
  /-- The work items that no event loop has taken up. -/
  queue : List (WorkItem P)
  thread : Pointer → JsThread P
  /-- The references on which `napi_delete_reference` was executed. -/
  deleted : Finset Pointer
  /-- The number of the next reference and flag. -/
  fresh : Pointer

/-- The first state, over a given state behind the manager. -/
def Threads.start (P : Platform) {σ : Type} (s : σ) : Threads P σ where
  handler := Napi.start s
  events := []
  queue := []
  thread _ := .idle
  deleted := ∅
  fresh := 1

/-- The table of the handler. -/
def Threads.listeners {P : Platform} {σ : Type} (s : Threads P σ) : List EventListener :=
  s.handler.1.listenerList

/-- What one of the threads does next. -/
inductive ThreadStep (P : Platform) (σ : Type)
  /-- The service notifies the observer, which sends an event. -/
  | notified (callback : Callback P)
  /-- The thread of the handler processes the next event. -/
  | processEvent (attempts : Nat → Attempt)
  /-- An event loop takes up a work item, and runs it until it gives the lock back. -/
  | workUpdated (index : Nat) (answers : WorkAnswers)
  /-- A thread does the next thing that its work item does without the lock. -/
  | proceed (env : Pointer)
  /-- JS code calls `on`, with a callback for which a reference may be made. -/
  | on (env : Pointer) (eventType : TelephonyUpdateEventType) (slotId : Int) (callback : Bool)
      (M : StateManager σ) (isCallBackRegister : IsCallBackRegister)
  /-- JS code calls `off`, with or without a callback. -/
  | off (env : Pointer) (eventType : TelephonyUpdateEventType) (callback : Bool)
      (M : StateManager σ) (isCallBackRegister : IsCallBackRegister)
  /-- A thread executes the next `napi_delete_reference` of its call. -/
  | deleteReference (env : Pointer)
  /-- The engine finalizes the exports of the module in an environment. -/
  | unRegisterAllListener (env : Pointer) (M : StateManager σ)

/-- The front end as a machine; the outputs are what work items do. A step that
the thread cannot take has no effect. -/
def threads (P : Platform) (σ : Type) :
    Mealy (Threads P σ) (ThreadStep P σ) (List (WorkAction P)) where
  step s input := match input with
    | .notified callback => ({ s with events := s.events ++ [sendEvent callback] }, [])
    | .processEvent attempts => match s.events with
      | [] => (s, [])
      | event :: events =>
        let items := Napi.processEvent event attempts s.listeners
        ({ s with events, queue := s.queue ++ items }, [])
    | .workUpdated index answers => match s.queue[index]? with
      | none => (s, [])
      | some item =>
        let env := item.listener.env
        if (s.thread env).isIdle = false then (s, [])
        else
          let (actions, work) := splitAtUnlock (workUpdated s.handler.1.deleting item answers)
          ({ s with
            queue := s.queue.eraseIdx index
            thread := Function.update s.thread env ⟨work, false, []⟩ }, actions)
    | .proceed env =>
      let t := s.thread env
      if t.refs.isEmpty = false then (s, [])
      else match t.work with
        | [] => (s, [])
        | action :: work =>
          let inCallback := match action with
            | .callFunction _ => true
            | _ => false
          ({ s with thread := Function.update s.thread env { t with work, inCallback } },
            [action])
    | .on env eventType slotId callback M isCallBackRegister =>
      let t := s.thread env
      if t.inJs = false then (s, [])
      else
        let callbackRef := if callback then s.fresh else nullptr
        let (handler, asyncContext) := Napi.on P M isCallBackRegister env s.fresh
          (.new eventType slotId callbackRef) s.handler
        let refs := onCallback env asyncContext
        ({ s with
          handler
          fresh := s.fresh + 1
          thread := Function.update s.thread env { t with refs } }, [])
    | .off env eventType callback M isCallBackRegister =>
      let t := s.thread env
      if t.inJs = false then (s, [])
      else
        let callbackRef := if callback then s.fresh else nullptr
        let (handler, asyncContext) := Napi.off P M isCallBackRegister env
          (.new eventType defaultSimSlotId callbackRef) s.handler
        let refs := offCallback env asyncContext
        ({ s with
          handler
          fresh := s.fresh + 1
          thread := Function.update s.thread env { t with refs } }, [])
    | .deleteReference env =>
      let t := s.thread env
      match t.refs with
      | [] => (s, [])
      | ref :: refs =>
        ({ s with
          deleted := insert ref s.deleted
          thread := Function.update s.thread env { t with refs } }, [])
    | .unRegisterAllListener env M =>
      if (s.thread env).inEngine = false then (s, [])
      else
        let refs := deletedReferences env (s.listeners.filter (matchesEnv env))
        ({ s with
          handler := Napi.unRegisterAllListener P M env s.handler
          deleted := s.deleted ∪ refs.toFinset }, [])

end Napi

end TelephonyStateRegistry
