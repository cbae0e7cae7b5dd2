import TelephonyStateRegistry.Client.Manager

/-!
# The ArkTS static front end: `Register`

The table is a vector behind a mutex that each function holds from start to
end. The bridge to the client turns codes into ArkTS errors; the conversion is
outside the repository, and tells success apart from every failure.
-/

namespace TelephonyStateRegistry

open Reactive

namespace Ani

/-- `EventListener`. -/
structure EventListener where
  eventType : TelephonyUpdateEventType
  slotId : Int
  /-- `CallbackFlavor`, a global reference. -/
  callbackRef : Pointer
  deriving DecidableEq, Repr

/-- The slot and the event of a listener. -/
def EventListener.pair (listener : EventListener) : Pair := ⟨listener.slotId, listener.eventType⟩

/-- The comparison of two callback references, as the runtime answers it. -/
abbrev CallbackEq := Pointer → Pointer → Bool

/-- `TELEPHONY_SUCCESS` of the wrapper. -/
def telephonySuccess : Int := 8300000

/-- The error code of an invalid slot. -/
def invalidParameterValue : Int := 8300001

/-- `NapiUtil`: the ArkTS codes of the codes of the client. -/
structure NapiUtil where
  converErrorMessageForJs : ClientCode → Int
  converErrorMessageCallStateExForJs : ClientCode → Int
  /-- `JS_ERROR_TELEPHONY_PERMISSION_DENIED`. -/
  jsErrorTelephonyPermissionDenied : Int
  forJs_success : ∀ code,
    converErrorMessageForJs code = telephonySuccess ↔ code = .telephonySuccess
  callStateEx_success : ∀ code,
    converErrorMessageCallStateExForJs code = telephonySuccess ↔ code = .telephonySuccess
  permissionDenied_ne : jsErrorTelephonyPermissionDenied ≠ telephonySuccess

/-- A conversion that knows of no failure but the denied permission. -/
def NapiUtil.unspecific : NapiUtil where
  converErrorMessageForJs code := if code = .telephonySuccess then telephonySuccess else 8300999
  converErrorMessageCallStateExForJs code :=
    if code = .telephonySuccess then telephonySuccess else 8300999
  jsErrorTelephonyPermissionDenied := 201
  forJs_success code := by simp [telephonySuccess]
  callStateEx_success code := by simp [telephonySuccess]
  permissionDenied_ne := by decide

section Bridge

variable {σ : Type} (N : NapiUtil) (M : StateManager σ)

/-- `ConvertArktsError`. -/
def convertArktsError (errorCode : ClientCode) : Int := N.converErrorMessageForJs errorCode

/-- `ConvertArktsErrorEx`. -/
def convertArktsErrorEx (errorCode : ClientCode) (eventType : TelephonyUpdateEventType) : Int :=
  if eventType = .event .callStateEx ∨ eventType = .event .ccallState then
    N.converErrorMessageCallStateExForJs errorCode
  else convertArktsError N errorCode

/-- The events for which a registration asks for the current state. -/
def isUpdate (eventType : TelephonyUpdateEventType) : Bool :=
  eventType = .event .callState || eventType = .event .callStateEx ||
    eventType = .event .ccallState

/-- The code of `EventListenerRegister`. -/
def registerCode (errorCode : ClientCode) (eventType : TelephonyUpdateEventType) : Int :=
  if errorCode = .service .telephonyStateRegistryPermissionDenied then
    N.jsErrorTelephonyPermissionDenied
  else convertArktsErrorEx N errorCode eventType

/-- The code of `EventListenerUnRegister`. -/
def unRegisterCode (errorCode : ClientCode) : Int :=
  if errorCode = .service .telephonyStateRegistryPermissionDenied then
    N.jsErrorTelephonyPermissionDenied
  else convertArktsError N errorCode

/-- `EventListenerRegister`. -/
def eventListenerRegister (k : Pair) (s : σ) : Int × σ :=
  let (errorCode, s) := M.addStateObserver k (isUpdate k.eventType) s
  (registerCode N errorCode k.eventType, s)

/-- `EventListenerUnRegister`. -/
def eventListenerUnRegister (k : Pair) (s : σ) : Int × σ :=
  let (errorCode, s) := M.removeStateObserver k s
  (unRegisterCode N errorCode, s)

/-- The bridge as the provider of registrations. -/
def provider : Provider σ Pair Int where
  add := eventListenerRegister N M
  remove := eventListenerUnRegister N M

theorem registerCode_success (errorCode : ClientCode) (eventType : TelephonyUpdateEventType) :
    registerCode N errorCode eventType = telephonySuccess ↔ errorCode = .telephonySuccess := by
  unfold registerCode
  split
  · rename_i h
    refine iff_of_false N.permissionDenied_ne ?_
    rw [h]
    decide
  · unfold convertArktsErrorEx
    split
    · exact N.callStateEx_success errorCode
    · exact N.forJs_success errorCode

theorem unRegisterCode_success (errorCode : ClientCode) :
    unRegisterCode N errorCode = telephonySuccess ↔ errorCode = .telephonySuccess := by
  unfold unRegisterCode
  split
  · rename_i h
    refine iff_of_false N.permissionDenied_ne ?_
    rw [h]
    decide
  · exact N.forJs_success errorCode

theorem provider_recording (answer : Pair → ClientCode) :
    provider N (recordingManager answer) = .recording
      (fun k => registerCode N (answer k) k.eventType) (fun k => unRegisterCode N (answer k)) := rfl

theorem provider_registry (answer : Pair → ClientCode) :
    provider N (registryManager answer) = .answering telephonySuccess
      (fun k => registerCode N (answer k) k.eventType) (fun k => unRegisterCode N (answer k)) := by
  have hadd : ∀ k s, eventListenerRegister N (registryManager answer) k s =
      (registerCode N (answer k) k.eventType,
        if registerCode N (answer k) k.eventType = telephonySuccess then insert k s else s) := by
    intro k s
    simp only [eventListenerRegister, registryManager, registerCode_success]
  have hremove : ∀ k s, eventListenerUnRegister N (registryManager answer) k s =
      (unRegisterCode N (answer k),
        if unRegisterCode N (answer k) = telephonySuccess then s.erase k else s) := by
    intro k s
    simp only [eventListenerUnRegister, registryManager, unRegisterCode_success]
  simp only [provider, Provider.answering, Provider.mk.injEq]
  exact ⟨funext fun k => funext (hadd k), funext fun k => funext (hremove k)⟩

end Bridge

/-- How listeners share registrations: a listener that is there already counts
as registered, and a removal ends at the first error. -/
def sharing (P : Platform) : Sharing EventListener Pair Int where
  key := EventListener.pair
  before := Pair.before P
  success := telephonySuccess
  already := telephonySuccess
  stops := true

/-- `DEFAULT_SIM_SLOT_ID`. -/
def defaultSimSlotId : Int := 0

/-- `IsValidSlotIdEx`. -/
def isValidSlotIdEx (P : Platform) (slotId : Int) (eventType : TelephonyUpdateEventType) : Bool :=
  let defaultSlotId :=
    if eventType = .event .callState ∨ eventType = .event .callStateEx ∨
        eventType = .event .ccallState then -1
    else defaultSimSlotId
  decide (slotId ≥ defaultSlotId) && decide (slotId < P.simSlotCount + 1)

section Register

variable {σ : Type} (P : Platform) (N : NapiUtil) (M : StateManager σ) (callbackEq : CallbackEq)

/-- The test of `check_event_listener_register` for `EventListenerSame`. -/
def sameListener (listener listenItem : EventListener) : Bool :=
  listenItem.slotId = listener.slotId && listenItem.eventType = listener.eventType &&
    callbackEq listenItem.callbackRef listener.callbackRef

/-- `Register::register`. -/
def register (listener : EventListener) (s : List EventListener × σ) :
    (List EventListener × σ) × Int :=
  if isValidSlotIdEx P listener.slotId listener.eventType = false then
    (s, invalidParameterValue)
  else (sharing P).subscribe (provider N M) (sameListener callbackEq listener) listener s

/-- Whether `Register::unregister` removes a listener. -/
def matchesListener (eventType : TelephonyUpdateEventType) (callbackRef : Option Pointer)
    (listener : EventListener) : Bool :=
  listener.eventType = eventType && match callbackRef with
    | some callback => callbackEq listener.callbackRef callback
    | none => true

/-- `Register::unregister`. -/
def unregister (eventType : TelephonyUpdateEventType) (callbackRef : Option Pointer)
    (s : List EventListener × σ) : (List EventListener × σ) × Int :=
  (sharing P).release (provider N M) (matchesListener callbackEq eventType callbackRef) s

end Register

/-- The functions that change the table. -/
inductive Call
  | register (listener : EventListener)
  | unregister (eventType : TelephonyUpdateEventType) (callbackRef : Option Pointer)

/-- A call, with what the runtime and the manager do during it. -/
structure Input (σ : Type) where
  manager : StateManager σ
  callbackEq : CallbackEq
  call : Call

/-- The event of an `off`. -/
def Call.offEvent : Call → Option TelephonyUpdateEventType
  | unregister eventType _ => some eventType
  | register _ => none

/-- The call as one on a table of entries, unless its slot is refused. -/
def Call.onTable (P : Platform) (callbackEq : CallbackEq) :
    Call → Option (TableCall EventListener)
  | register listener =>
    if isValidSlotIdEx P listener.slotId listener.eventType = false then none
    else some (.subscribe (sameListener callbackEq listener) listener)
  | unregister eventType callbackRef =>
    some (.release (matchesListener callbackEq eventType callbackRef))

/-- The table, together with what lies behind the manager, as a machine. -/
def machine (P : Platform) (N : NapiUtil) {σ : Type} :
    Mealy (List EventListener × σ) (Input σ) Int where
  step s input := match input.call with
    | .register listener => register P N input.manager input.callbackEq listener s
    | .unregister eventType callbackRef =>
      unregister P N input.manager input.callbackEq eventType callbackRef s

/-- A call on the table over the registry, with the answers to its requests. -/
structure Step where
  answer : Pair → ClientCode
  callbackEq : CallbackEq
  call : Call

/-- The table over the registry as a machine. -/
def registryMachine (P : Platform) (N : NapiUtil) :
    Mealy (List EventListener × Finset Pair) Step Int where
  step s i := (machine P N).step s ⟨registryManager i.answer, i.callbackEq, i.call⟩

/-- A refused call changes nothing, and every other one makes the table and the
manager take one step. -/
theorem table_next (P : Platform) (N : NapiUtil) {σ : Type} (s : List EventListener × σ)
    (input : Input σ) :
    (machine P N).next s input = match input.call.onTable P input.callbackEq with
      | none => s
      | some call => (sharing P).machine.next s (provider N input.manager, call) := by
  obtain ⟨manager, callbackEq, call⟩ := input
  cases call with
  | register listener =>
    simp only [Mealy.next, machine, register, Call.onTable]
    cases isValidSlotIdEx P listener.slotId listener.eventType <;> rfl
  | unregister eventType callbackRef => rfl

end Ani

end TelephonyStateRegistry
