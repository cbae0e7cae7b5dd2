import TelephonyStateRegistry.Client.Manager

/-!
# The JS front end: `EventListenerHandler`

One handler serves all environments of the process. Its table is guarded by one
mutex, which every function below holds from its start to its end, so that each
is one step. Whether two references denote the same function is the answer of
the engine, and may differ from call to call.
-/

namespace TelephonyStateRegistry

open Reactive

namespace Napi

/-- `EventListener`. -/
structure EventListener where
  /-- `napi_env`. -/
  env : Pointer
  eventType : TelephonyUpdateEventType
  slotId : Int
  /-- `napi_ref`. -/
  callbackRef : Pointer
  /-- `std::shared_ptr<bool>`. -/
  isDeleting : Pointer
  deriving DecidableEq, Repr

/-- The slot and the event of a listener. -/
def EventListener.pair (listener : EventListener) : Pair := ⟨listener.slotId, listener.eventType⟩

/-- `listenerList_`, and which of the shared flags are set. -/
structure EventListenerHandler where
  listenerList : List EventListener
  deleting : Finset Pointer

/-- `IsCallBackRegister`, as the engine answers it. -/
abbrev IsCallBackRegister := Pointer → Pointer → Pointer → Bool

/-- The events for which a registration asks for the current state. -/
def isUpdate (eventType : TelephonyUpdateEventType) : Bool :=
  eventType = .event .callState || eventType = .event .simState ||
    eventType = .event .callStateEx || eventType = .event .ccallState ||
    eventType = .event .simActiveState

/-- How listeners share registrations: every removal is attempted, and the last
code of those that fail is returned. -/
def sharing (P : Platform) : Sharing EventListener Pair ClientCode where
  key := EventListener.pair
  before := Pair.before P
  success := .telephonySuccess
  already := .telephonyErrCallbackAlreadyRegistered
  stops := false

section Handler

variable {σ : Type} (P : Platform) (M : StateManager σ) (isCallBackRegister : IsCallBackRegister)

/-- The test of `CheckEventListenerRegister` for `EVENT_LISTENER_SAME`. -/
def sameListener (eventListener listen : EventListener) : Bool :=
  eventListener.env = listen.env && eventListener.slotId = listen.slotId &&
    eventListener.eventType = listen.eventType &&
    isCallBackRegister eventListener.env eventListener.callbackRef listen.callbackRef

/-- `RegisterEventListener`. -/
def registerEventListener (eventListener : EventListener) (s : EventListenerHandler × σ) :
    (EventListenerHandler × σ) × ClientCode :=
  let same := sameListener isCallBackRegister eventListener
  let ((listenerList, manager), result) :=
    (sharing P).subscribe (M.provider isUpdate) same eventListener (s.1.listenerList, s.2)
  (({ s.1 with listenerList }, manager), result)

/-- Drop listeners: their flags are set, and registrations that no listener
needs are removed. -/
def removeListeners (removed : EventListener → Bool) (s : EventListenerHandler × σ) :
    (EventListenerHandler × σ) × ClientCode :=
  let removeListenerList := s.1.listenerList.filter removed
  let deleting := removeListenerList.foldl
    (fun deleting listener => setEventListenerDeleting listener.isDeleting deleting) s.1.deleting
  let ((listenerList, manager), result) :=
    (sharing P).release (M.provider isUpdate) removed (s.1.listenerList, s.2)
  ((⟨listenerList, deleting⟩, manager), result)

/-- Whether `UnregisterEventListener` with a callback removes a listener. -/
def matchesCallback (env : Pointer) (eventType : TelephonyUpdateEventType) (ref : Pointer)
    (listener : EventListener) : Bool :=
  env = listener.env && eventType = listener.eventType &&
    isCallBackRegister env ref listener.callbackRef

/-- Whether `UnregisterEventListener` without a callback removes a listener. -/
def matchesEvent (env : Pointer) (eventType : TelephonyUpdateEventType)
    (listener : EventListener) : Bool :=
  env = listener.env && eventType = listener.eventType

/-- Whether `UnRegisterAllListener` removes a listener. -/
def matchesEnv (env : Pointer) (listener : EventListener) : Bool := listener.env = env

/-- `UnregisterEventListener` with a callback. -/
def unregisterEventListener (env : Pointer) (eventType : TelephonyUpdateEventType) (ref : Pointer)
    (s : EventListenerHandler × σ) : (EventListenerHandler × σ) × ClientCode :=
  removeListeners P M (matchesCallback isCallBackRegister env eventType ref) s

/-- `UnregisterEventListener` without a callback. -/
def unregisterEventListeners (env : Pointer) (eventType : TelephonyUpdateEventType)
    (s : EventListenerHandler × σ) : (EventListenerHandler × σ) × ClientCode :=
  removeListeners P M (matchesEvent env eventType) s

/-- `UnRegisterAllListener`: the code of a failed removal is dropped. -/
def unRegisterAllListener (env : Pointer) (s : EventListenerHandler × σ) :
    EventListenerHandler × σ :=
  (removeListeners P M (matchesEnv env) s).1

end Handler

/-- The functions of the handler that change its table. -/
inductive Call
  | registerEventListener (eventListener : EventListener)
  | unregisterEventListener (env : Pointer) (eventType : TelephonyUpdateEventType) (ref : Pointer)
  | unregisterEventListeners (env : Pointer) (eventType : TelephonyUpdateEventType)
  | unRegisterAllListener (env : Pointer)

/-- A call, with what the engine and the manager do during it. -/
structure Input (σ : Type) where
  manager : StateManager σ
  isCallBackRegister : IsCallBackRegister
  call : Call

/-- The environment that makes a call. -/
def Call.env : Call → Pointer
  | registerEventListener l => l.env
  | unregisterEventListener env _ _ => env
  | unregisterEventListeners env _ => env
  | unRegisterAllListener env => env

/-- The event of an `off`. -/
def Call.offEvent : Call → Option TelephonyUpdateEventType
  | unregisterEventListener _ eventType _ => some eventType
  | unregisterEventListeners _ eventType => some eventType
  | _ => none

/-- The call as one on a table of entries. -/
def Call.onTable (isCallBackRegister : IsCallBackRegister) : Call → TableCall EventListener
  | registerEventListener l => .subscribe (sameListener isCallBackRegister l) l
  | unregisterEventListener env eventType ref =>
    .release (matchesCallback isCallBackRegister env eventType ref)
  | unregisterEventListeners env eventType => .release (matchesEvent env eventType)
  | unRegisterAllListener env => .release (matchesEnv env)

/-- The handler, together with what lies behind the manager, as a machine. -/
def machine (P : Platform) {σ : Type} :
    Mealy (EventListenerHandler × σ) (Input σ) (Option ClientCode) where
  step s input := match input.call with
    | .registerEventListener listener =>
      let (s, result) :=
        registerEventListener P input.manager input.isCallBackRegister listener s
      (s, some result)
    | .unregisterEventListener env eventType ref =>
      let (s, result) :=
        unregisterEventListener P input.manager input.isCallBackRegister env eventType ref s
      (s, some result)
    | .unregisterEventListeners env eventType =>
      let (s, result) := unregisterEventListeners P input.manager env eventType s
      (s, some result)
    | .unRegisterAllListener env => (unRegisterAllListener P input.manager env s, none)

/-- A call on the handler over the registry, with the answers to its requests. -/
structure Step where
  answer : Pair → ClientCode
  isCallBackRegister : IsCallBackRegister
  call : Call

/-- The handler over the registry as a machine. -/
def registryMachine (P : Platform) :
    Mealy (EventListenerHandler × Finset Pair) Step (Option ClientCode) where
  step s i := (machine P).step s ⟨registryManager i.answer, i.isCallBackRegister, i.call⟩

/-- The table and what lies behind the manager. -/
def table {σ : Type} (s : EventListenerHandler × σ) : List EventListener × σ :=
  (s.1.listenerList, s.2)

/-- The handler before the first call, over a given state behind the manager. -/
def start {σ : Type} (s : σ) : EventListenerHandler × σ := (⟨[], ∅⟩, s)

/-- A registration appends the new listener and succeeds, or it leaves the table. -/
theorem registerEventListener_cases (P : Platform) {σ : Type} (M : StateManager σ)
    (isCallBackRegister : IsCallBackRegister) (eventListener : EventListener)
    (s : EventListenerHandler × σ) :
    let r := registerEventListener P M isCallBackRegister eventListener s
    ∃ added : Option EventListener, r.1.1.listenerList = s.1.listenerList ++ added.toList ∧
      ∀ l ∈ added, l = eventListener ∧ r.2 = .telephonySuccess := by
  intro r
  let same := sameListener isCallBackRegister eventListener
  let t := (sharing P).subscribe (M.provider isUpdate) same eventListener (s.1.listenerList, s.2)
  have hlist : r.1.1.listenerList = t.1.1 := rfl
  have hcode : r.2 = t.2 := rfl
  rw [hlist, hcode]
  have hnone : s.1.listenerList = s.1.listenerList ++ (none : Option EventListener).toList :=
    (List.append_nil _).symm
  rcases (sharing P).subscribe_cases (M.provider isUpdate) same eventListener
      (s.1.listenerList, s.2) with
    ⟨ht, -⟩ | ⟨-, ⟨ht, -⟩ | ⟨-, ⟨-, ht⟩ | ⟨-, ht⟩⟩⟩ <;> rw [show t = _ from ht]
  · exact ⟨none, hnone, nofun⟩
  · exact ⟨some eventListener, rfl, fun l hl => ⟨(Option.mem_some_iff.mp hl).symm, rfl⟩⟩
  · exact ⟨some eventListener, rfl, fun l hl => ⟨(Option.mem_some_iff.mp hl).symm, rfl⟩⟩
  · exact ⟨none, hnone, nofun⟩

/-- Each function of the handler makes the table and the manager take one step. -/
theorem table_next (P : Platform) {σ : Type} (s : EventListenerHandler × σ) (input : Input σ) :
    table ((machine P).next s input) =
      (sharing P).machine.next (table s)
        (input.manager.provider isUpdate, input.call.onTable input.isCallBackRegister) := by
  obtain ⟨manager, isCallBackRegister, call⟩ := input
  cases call <;> rfl

/-- What the requests to the manager preserve, every function of the handler preserves. -/
theorem next_invariant {σ : Type} {M : StateManager σ} {I : σ → Prop}
    (hadd : ∀ k b w, I w → I (M.addStateObserver k b w).2)
    (hremove : ∀ k w, I w → I (M.removeStateObserver k w).2) {s : EventListenerHandler × σ}
    (hs : I s.2) (isCallBackRegister : IsCallBackRegister) (call : Call) :
    I ((machine P).next s ⟨M, isCallBackRegister, call⟩).2 := by
  have htable := congrArg Prod.snd (table_next P s ⟨M, isCallBackRegister, call⟩)
  change ((machine P).next s ⟨M, isCallBackRegister, call⟩).2 = _ at htable
  rw [htable]
  exact (sharing P).next_invariant (M.provider isUpdate) (fun k => hadd k _) hremove hs _

end Napi

end TelephonyStateRegistry
