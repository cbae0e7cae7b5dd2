import TelephonyStateRegistry.Client.Unsubscription

/-!
# The entry points that subscribe

Four functions of the observer module subscribe: `on` with the name of an event, and three
with an event of their own. The arguments decide the slot: the option names one, and without
it there is a default slot, which depends on the event and on the function.
-/

namespace TelephonyStateRegistry

namespace Napi

/-- A JS value, by what `napi_typeof` and the conversions tell about it. A function is given by
the reference that is made to it, and an object by its property `slotId`. -/
inductive JsValue
  | undefined
  | null
  | number (value : Int)
  | string (text : String)
  | function (ref : Pointer)
  | object (slotId : JsValue)
  | other
  deriving DecidableEq, Repr

/-- What `MatchParameters` is to find, by the types of the targets. -/
inductive Target
  | string
  | function
  | object
  | number
  deriving DecidableEq, Repr

/-- Whether a value has the type of a target. -/
def Target.accepts : Target → JsValue → Bool
  | string, .string _ => true
  | function, .function _ => true
  | object, .object _ => true
  | number, .number _ => true
  | _, _ => false

/-- Whether `MatchParameters` finds the targets among the parameters. -/
abbrev MatchTargets := List Target → List JsValue → Bool

/-- Parameters of the types of the targets match. -/
def MatchTargets.Documented (matchTargets : MatchTargets) : Prop :=
  ∀ targets parameters,
    List.Forall₂ (fun (target : Target) value => target.accepts value = true) targets parameters →
      matchTargets targets parameters = true

/-- What is stored for a target; one of another type stays as it was. -/
def JsValue.text : JsValue → String
  | string text => text
  | _ => ""

/-- The reference that is stored in `callbackRef`. -/
def JsValue.ref : JsValue → Pointer
  | function ref => ref
  | _ => nullptr

/-- The number that is stored in `slotId`. -/
def JsValue.slotId : JsValue → Int
  | number value => value
  | _ => defaultSimSlotId

/-- The number that is stored for the property `slotId`. -/
def JsValue.option : JsValue → Int
  | object slotId => slotId.slotId
  | _ => defaultSimSlotId

/-- Whether `napi_typeof` tells of a function. -/
def JsValue.isFunction : JsValue → Bool
  | function _ => true
  | _ => false

/-- Whether `napi_typeof` tells of an object. -/
def JsValue.isObject : JsValue → Bool
  | object _ => true
  | _ => false

/-- `eventMap`. -/
def eventMap : List (String × ObserverMask) :=
  [("networkStateChange", .networkState),
    ("callStateChange", .callState),
    ("signalInfoChange", .signalStrengths),
    ("simStateChange", .simState),
    ("cellInfoChange", .cellInfo),
    ("cellularDataConnectionStateChange", .dataConnectionState),
    ("cellularDataFlowChange", .dataFlow),
    ("cfuIndicatorChange", .cfuIndicator),
    ("voiceMailMsgIndicatorChange", .voiceMailMsgIndicator),
    ("iccAccountInfoChange", .iccAccount),
    ("callStateChangeEx", .callStateEx),
    ("cCallStateChange", .ccallState),
    ("simActiveStateChange", .simActiveState),
    ("voipStateChange", .voipCallState)]

/-- `GetEventType`. -/
def getEventType (event : String) : TelephonyUpdateEventType :=
  match eventMap.lookup event with
  | some m => .event m
  | none => .noneEventType

/-- What an entry point takes from its arguments. -/
structure OnParameters where
  eventType : TelephonyUpdateEventType
  slotId : Int
  callbackRef : Pointer
  deriving DecidableEq, Repr

section Parameters

variable (matchTargets : MatchTargets)

/-- `MatchParametersWithObject` of `On`: the options come last or in the middle. -/
def onWithObject (type second last : JsValue) : Option OnParameters :=
  if last.isObject then
    if matchTargets [.string, .function, .object] [type, second, last] then
      some ⟨getEventType type.text, last.option, second.ref⟩
    else none
  else if matchTargets [.string, .object, .function] [type, second, last] then
    some ⟨getEventType type.text, second.option, last.ref⟩
  else none

/-- The slot of an `on` without options. -/
def slotWithoutObject (eventType : TelephonyUpdateEventType) : Int :=
  if eventType = .event .callState ∨ eventType = .event .callStateEx ∨
      eventType = .event .voipCallState then -1
  else if eventType ∈ enableOnDefaultDataEventSet then simSlotIdForDefaultConnEvent
  else defaultSimSlotId

/-- `MatchParametersWithoutObject` of `On`. -/
def onWithoutObject (parameters : List JsValue) : Option OnParameters :=
  if matchTargets [.string, .function] parameters then
    let eventType := getEventType (parameters.getD 0 .undefined).text
    some ⟨eventType, slotWithoutObject eventType, (parameters.getD 1 .undefined).ref⟩
  else none

/-- The parameters of `On`. -/
def onParameters : List JsValue → Option OnParameters
  | [type, second, last] => onWithObject matchTargets type second last
  | parameters => onWithoutObject matchTargets parameters

/-- The parameters of the two functions whose options come after the callback. -/
def parametersOf (event : String) : List JsValue → Option OnParameters
  | [callback, options] =>
    if callback.isFunction ∧ options.isObject ∧
        matchTargets [.function, .object] [callback, options] then
      some ⟨getEventType event, options.option, callback.ref⟩
    else none
  | parameters =>
    let callback := parameters.getD 0 .undefined
    if callback.isFunction ∧ matchTargets [.function] parameters then
      some ⟨getEventType event, -1, callback.ref⟩
    else none

/-- The parameters of `OnCCallStateChange`. -/
def onCCallStateChangeParameters := parametersOf matchTargets "cCallStateChange"

/-- The parameters of `OnVoIPStateChange`. -/
def onVoIPStateChangeParameters := parametersOf matchTargets "voipStateChange"

/-- The parameters of `OnSimActiveState`. -/
def onSimActiveStateParameters (parameters : List JsValue) : Option OnParameters :=
  if matchTargets [.number, .function] parameters then
    some ⟨getEventType "simActiveStateChange", (parameters.getD 0 .undefined).slotId,
      (parameters.getD 1 .undefined).ref⟩
  else none

end Parameters

section Entry

variable {σ : Type} (P : Platform) (M : StateManager σ) (isCallBackRegister : IsCallBackRegister)
  (env isDeleting : Pointer)

/-- An entry point with its parameters: without them it throws a parameter error and returns. -/
def onWith (parameters : Option OnParameters) (s : EventListenerHandler × σ) :
    (EventListenerHandler × σ) × Option ObserverContext :=
  match parameters with
  | none => (s, none)
  | some parameters =>
    let (s, asyncContext) := Napi.on P M isCallBackRegister env isDeleting
      (.new parameters.eventType parameters.slotId parameters.callbackRef) s
    (s, some asyncContext)

end Entry

end Napi

end TelephonyStateRegistry
