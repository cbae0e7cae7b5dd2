import TelephonyStateRegistry.Client.CjObserver
import TelephonyStateRegistry.Client.Threads

/-!
# Subscribing and unsubscribing in the JS and the Cangjie front end

Code of one JS environment, or of Cangjie, subscribes functions to events and
unsubscribes them. A JS function is known by the references that are made to it,
a Cangjie function by its number. Both managers record the requests that they
are asked for, each of which may fail.
-/

namespace TelephonyStateRegistry

open Reactive

/-- A request to the service. -/
inductive StateRequest
  | addStateObserver (k : Pair)
  | removeStateObserver (k : Pair)
  deriving DecidableEq, Repr

/-- A manager that keeps a record of all requests. -/
def requestManager (answer : Pair → ClientCode) : StateManager (List StateRequest) where
  addStateObserver k _ requests := (answer k, requests ++ [.addStateObserver k])
  removeStateObserver k requests := (answer k, requests ++ [.removeStateObserver k])

/-- The functions that are subscribed: to which of them a JS reference leads, and
the numbers of the same functions in Cangjie. -/
structure Functions where
  /-- The function behind a `napi_ref`. -/
  function : Pointer → Nat
  funcId : Nat → Int
  funcId_injective : Function.Injective funcId
  /-- No function has the number that stands for all of them. -/
  funcId_ne : ∀ f, funcId f ≠ Cj.allFuncs

/-- `napi_strict_equals` of the functions behind two references. -/
def Functions.isCallBackRegister (B : Functions) : Napi.IsCallBackRegister :=
  fun _ ref ref' => B.function ref = B.function ref'

/-- A call of the observer module. A function is given by a reference to it. -/
inductive ObserverCall
  | on (event : ObserverMask) (slotId : Int) (callbackRef isDeleting : Pointer)
  | off (event : ObserverMask) (callbackRef : Pointer)
  | offAll (event : ObserverMask)

/-- A call, with the answers to its requests. -/
structure ObserverStep where
  answer : Pair → ClientCode
  call : ObserverCall

/-- What a call reports. -/
inductive Report
  | success
  | alreadyRegistered
  | failure
  deriving DecidableEq, Repr

/-- The report of a code. -/
def Report.ofCode (code : ClientCode) : Report :=
  if code = .telephonySuccess then .success
  else if code = .telephonyErrCallbackAlreadyRegistered then .alreadyRegistered
  else .failure

namespace Napi

/-- What `OnCallback` reports: it throws, unless the call is resolved or the
callback was registered already. -/
def onReport (asyncContext : ObserverContext) : Report :=
  if asyncContext.resolved = true then .success
  else if asyncContext.errorCode = .client .telephonyErrCallbackAlreadyRegistered then
    .alreadyRegistered
  else .failure

/-- What `OffCallback` reports: it throws, unless the call is resolved. -/
def offReport (asyncContext : ObserverContext) : Report :=
  if asyncContext.resolved = true then .success else .failure

/-- The calls of one environment as a machine. -/
def observer (P : Platform) (B : Functions) (env : Pointer) :
    Mealy (EventListenerHandler × List StateRequest) ObserverStep Report where
  step s i :=
    let M := requestManager i.answer
    match i.call with
    | .on event slotId callbackRef isDeleting =>
      let (s, asyncContext) := Napi.on P M B.isCallBackRegister env isDeleting
        (.new (.event event) slotId callbackRef) s
      (s, onReport asyncContext)
    | .off event callbackRef =>
      let (s, asyncContext) := Napi.off P M B.isCallBackRegister env
        (.new (.event event) defaultSimSlotId callbackRef) s
      (s, offReport asyncContext)
    | .offAll event =>
      let (s, asyncContext) := Napi.off P M B.isCallBackRegister env
        (.new (.event event) defaultSimSlotId nullptr) s
      (s, offReport asyncContext)

end Napi

namespace Cj

/-- The report of what `On` and `Off` return. -/
def ErrCode.report : ErrCode → Report
  | client code => .ofCode code
  | _ => .failure

/-- The calls of Cangjie code as a machine. -/
def observer (P : Platform) (B : Functions) :
    Mealy (ObserverEventHandler × List StateRequest) ObserverStep Report where
  step s i :=
    let M := requestManager i.answer
    match i.call with
    | .on event slotId callbackRef isDeleting =>
      let (s, errCode) :=
        Cj.on P M event slotId (B.funcId (B.function callbackRef)) callbackRef isDeleting s
      (s, errCode.report)
    | .off event callbackRef =>
      let (s, errCode) := Cj.off P M event (B.funcId (B.function callbackRef)) s
      (s, errCode.report)
    | .offAll event =>
      let (s, errCode) := Cj.off P M event allFuncs s
      (s, errCode.report)

end Cj

/-- Both front ends accept the event and the slot of a call, and its function is there. -/
def ObserverCall.Accepted (P : Platform) : ObserverCall → Prop
  | on event slotId callbackRef _ => event ∈ Cj.eventMap ∧ callbackRef ≠ nullptr ∧
    Napi.isValidSlotIdEx P (.event event) slotId = true ∧
      Cj.isValidSlotIdEx P (.event event) slotId = true
  | off event callbackRef => event ∈ Cj.eventMap ∧ callbackRef ≠ nullptr
  | offAll event => event ∈ Cj.eventMap

/-- The Cangjie listeners that a call drops. -/
def ObserverCall.drops (B : Functions) : ObserverCall → Cj.EventListener → Bool
  | on _ _ _ _ => fun _ => false
  | off event callbackRef =>
    Cj.matchesFunc (.event event) (B.funcId (B.function callbackRef))
  | offAll event => Cj.matchesFunc (.event event) Cj.allFuncs

/-- A listener of each front end, for the same function on the same slot and event. -/
structure Functions.Corresponds (B : Functions) (env : Pointer) (l : Napi.EventListener)
    (l' : Cj.EventListener) : Prop where
  env : l.env = env
  slotId : l.slotId = l'.slotId
  eventType : l.eventType = l'.eventType
  funcId : B.funcId (B.function l.callbackRef) = l'.funcId

end TelephonyStateRegistry
