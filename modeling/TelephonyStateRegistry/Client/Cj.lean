import TelephonyStateRegistry.Client.Manager

/-!
# The Cangjie front end: `ObserverEventHandler`

A copy of the JS handler for one environment, in which a listener is known by
the number of its function. Its functions hold the mutex from start to end.
-/

namespace TelephonyStateRegistry

open Reactive

namespace Cj

/-- `EventListener`. -/
structure EventListener where
  eventType : TelephonyUpdateEventType
  slotId : Int
  funcId : Int
  /-- `std::shared_ptr<bool>`. -/
  isDeleting : Pointer
  deriving DecidableEq, Repr

/-- The slot and the event of a listener. -/
def EventListener.pair (listener : EventListener) : Pair := ⟨listener.slotId, listener.eventType⟩

/-- `listenerList_`, and which of the shared flags are set. -/
structure ObserverEventHandler where
  listenerList : List EventListener
  deleting : Finset Pointer

/-- The event for which a registration asks for the current state. -/
def isUpdate (eventType : TelephonyUpdateEventType) : Bool := eventType = .event .callState

/-- How listeners share registrations. -/
def sharing (P : Platform) : Sharing EventListener Pair ClientCode where
  key := EventListener.pair
  before := Pair.before P
  success := .telephonySuccess
  already := .telephonyErrCallbackAlreadyRegistered
  stops := false

section Handler

variable {σ : Type} (P : Platform) (M : StateManager σ)

/-- The test of `CheckEventListenerRegister` for `EVENT_LISTENER_SAME`. -/
def sameListener (eventListener listen : EventListener) : Bool :=
  eventListener.slotId = listen.slotId && eventListener.eventType = listen.eventType &&
    eventListener.funcId = listen.funcId

/-- `RegisterEventListener`. -/
def registerEventListener (eventListener : EventListener) (s : ObserverEventHandler × σ) :
    (ObserverEventHandler × σ) × ClientCode :=
  let ((listenerList, manager), result) := (sharing P).subscribe (M.provider isUpdate)
    (sameListener eventListener) eventListener (s.1.listenerList, s.2)
  (({ s.1 with listenerList }, manager), result)

/-- Whether `UnregisterEventListener` removes a listener: the number -1 stands
for every function. -/
def matchesFunc (eventType : TelephonyUpdateEventType) (funcId : Int)
    (listener : EventListener) : Bool :=
  eventType = listener.eventType && (listener.funcId = funcId || funcId = -1)

/-- `UnregisterEventListener`. -/
def unregisterEventListener (eventType : TelephonyUpdateEventType) (funcId : Int)
    (s : ObserverEventHandler × σ) : (ObserverEventHandler × σ) × ClientCode :=
  let removed := matchesFunc eventType funcId
  let deleting := (s.1.listenerList.filter removed).foldl
    (fun deleting listener => setEventListenerDeleting listener.isDeleting deleting) s.1.deleting
  let ((listenerList, manager), result) :=
    (sharing P).release (M.provider isUpdate) removed (s.1.listenerList, s.2)
  ((⟨listenerList, deleting⟩, manager), result)

end Handler

/-- The functions of the handler that change its table. -/
inductive Call
  | registerEventListener (eventListener : EventListener)
  | unregisterEventListener (eventType : TelephonyUpdateEventType) (funcId : Int)

/-- A call, with what the manager does during it. -/
structure Input (σ : Type) where
  manager : StateManager σ
  call : Call

/-- The event of an `off`. -/
def Call.offEvent : Call → Option TelephonyUpdateEventType
  | unregisterEventListener eventType _ => some eventType
  | registerEventListener _ => none

/-- The call as one on a table of entries. -/
def Call.onTable : Call → TableCall EventListener
  | registerEventListener l => .subscribe (sameListener l) l
  | unregisterEventListener eventType funcId => .release (matchesFunc eventType funcId)

/-- The handler, together with what lies behind the manager, as a machine. -/
def machine (P : Platform) {σ : Type} :
    Mealy (ObserverEventHandler × σ) (Input σ) ClientCode where
  step s input := match input.call with
    | .registerEventListener listener => registerEventListener P input.manager listener s
    | .unregisterEventListener eventType funcId =>
      unregisterEventListener P input.manager eventType funcId s

/-- A call on the handler over the registry, with the answers to its requests. -/
structure Step where
  answer : Pair → ClientCode
  call : Call

/-- The handler over the registry as a machine. -/
def registryMachine (P : Platform) :
    Mealy (ObserverEventHandler × Finset Pair) Step ClientCode where
  step s i := (machine P).step s ⟨registryManager i.answer, i.call⟩

/-- The table and what lies behind the manager. -/
def table {σ : Type} (s : ObserverEventHandler × σ) : List EventListener × σ :=
  (s.1.listenerList, s.2)

/-- The handler before the first call, over a given state behind the manager. -/
def start {σ : Type} (s : σ) : ObserverEventHandler × σ := (⟨[], ∅⟩, s)

/-- Each function of the handler makes the table and the manager take one step. -/
theorem table_next (P : Platform) {σ : Type} (s : ObserverEventHandler × σ) (input : Input σ) :
    table ((machine P).next s input) =
      (sharing P).machine.next (table s)
        (input.manager.provider isUpdate, input.call.onTable) := by
  obtain ⟨manager, call⟩ := input
  cases call <;> rfl

end Cj

end TelephonyStateRegistry
