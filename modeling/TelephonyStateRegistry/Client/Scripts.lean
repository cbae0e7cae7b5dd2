import TelephonyStateRegistry.Client.AniFlavors
import TelephonyStateRegistry.Client.LifeCycle
import TelephonyStateRegistry.Client.Subscription

/-!
# Scripts

A script calls the observer module. The calls here are those that it can write in the same way
for the JS module and for the ArkTS static one; a function is given by a reference to it. What
is seen of a call is what it asks the service for, and whether it throws.
-/

namespace TelephonyStateRegistry

open Reactive

/-- A call of a script. -/
inductive ScriptCall
  | on (type : String) (options : Option Int) (callback : Pointer)
  | off (type : String) (callback : Option Pointer)
  | onCCallStateChange (callback : Pointer)
  | offCCallStateChange (callback : Option Pointer)
  | onGetSimActiveState (slotId : Int) (callback : Pointer)
  | offGetSimActiveState (callback : Option Pointer)

namespace Napi

/-- The argument for a callback that may be left out. -/
def Argument.ofOption : Option Pointer → Argument
  | none => .missing
  | some ref => .function ref

section Js

variable {σ : Type} (P : Platform) (M : StateManager σ) (isCallBackRegister : IsCallBackRegister)
  (matchTargets : MatchTargets) (matchParameters : MatchParameters) (env isDeleting : Pointer)

/-- `Off`, with the name of an event. -/
def offNamed (type : String) (argument : Argument) (s : EventListenerHandler × σ) :
    (EventListenerHandler × σ) × Option ObserverContext :=
  offWith P M isCallBackRegister env
    ((matchParameters (countedCallback argument)).map
      (.new (getEventType type) defaultSimSlotId)) s

/-- The context of a call, and whether the call throws. -/
def throwing (report : ObserverContext → Report)
    (r : (EventListenerHandler × σ) × Option ObserverContext) :
    (EventListenerHandler × σ) × Bool :=
  (r.1, r.2.all fun asyncContext => report asyncContext = .failure)

/-- A call of a script in JS, and whether it throws. -/
def scriptCall (s : EventListenerHandler × σ) : ScriptCall → (EventListenerHandler × σ) × Bool
  | .on type options callback =>
    let parameters := match options with
      | none => [.string type, .function callback]
      | some slotId => [.string type, .object (.number slotId), .function callback]
    throwing onReport (onWith P M isCallBackRegister env isDeleting
      (onParameters matchTargets parameters) s)
  | .off type callback =>
    throwing offReport (offNamed P M isCallBackRegister matchParameters env type
      (.ofOption callback) s)
  | .onCCallStateChange callback =>
    throwing onReport (onWith P M isCallBackRegister env isDeleting
      (onCCallStateChangeParameters matchTargets [.function callback]) s)
  | .offCCallStateChange callback =>
    throwing offReport (offCCallStateChange P M isCallBackRegister env (.ofOption callback) s)
  | .onGetSimActiveState slotId callback =>
    throwing onReport (onWith P M isCallBackRegister env isDeleting
      (onSimActiveStateParameters matchTargets [.number slotId, .function callback]) s)
  | .offGetSimActiveState callback =>
    throwing offReport (offSimActiveState P M isCallBackRegister matchParameters env
      (.ofOption callback) s)

end Js

end Napi

namespace Ani

/-- The comparison of the functions behind two references. -/
def callbackEq (B : Functions) : CallbackEq := fun c d => B.function c = B.function d

/-- A call of a script in ArkTS static: the native function that it ends in, if any. -/
def scriptCall : ScriptCall → Option FlavoredCall
  | .on type none callback => on type callback
  | .on type (some slotId) callback => onOptions type slotId callback
  | .off type callback => off type callback
  | .onCCallStateChange callback => some (onCCallStateChange callback)
  | .offCCallStateChange callback => some (offCCallStateChange callback)
  | .onGetSimActiveState slotId callback => some (onGetSimActiveState slotId callback)
  | .offGetSimActiveState callback => some (offGetSimActiveState callback)

end Ani

/-- A call that means the same in both: it names an event that both serve by that function,
and a slot that neither replaces. A callback that is not left out is there. -/
def ScriptCall.Portable : ScriptCall → Prop
  | on type none callback => callback ≠ nullptr ∧
    type ∈ ["iccAccountInfoChange", "simStateChange", "signalInfoChange", "cellInfoChange",
      "networkStateChange"]
  | on type (some slotId) callback => callback ≠ nullptr ∧
    (slotId ≠ simSlotIdForDefaultConnEvent ∧
        type ∈ ["simStateChange", "signalInfoChange", "cellInfoChange", "networkStateChange",
          "callStateChange"] ∨
      slotId = -1 ∧ type = "callStateChangeEx")
  | off type callback => callback ≠ some nullptr ∧
    type ∈ ["iccAccountInfoChange", "simStateChange", "signalInfoChange", "cellInfoChange",
      "networkStateChange", "callStateChange", "callStateChangeEx"]
  | onCCallStateChange callback => callback ≠ nullptr
  | offCCallStateChange callback => callback = none
  | onGetSimActiveState slotId callback => callback ≠ nullptr ∧
    slotId ≠ simSlotIdForDefaultConnEvent
  | offGetSimActiveState callback => callback ≠ some nullptr

/-- The listeners that a native function drops. -/
def Ani.FlavoredCall.drops (callbackEq : Ani.CallbackEq) :
    Ani.FlavoredCall → Ani.FlavoredListener → Bool
  | register _ => fun _ => false
  | unregister eventType callbackRef => Ani.matchesFlavored callbackEq eventType callbackRef

/-- A listener of each front end, for the same function on the same slot and event. -/
structure Functions.Matches (B : Functions) (env : Pointer) (l : Napi.EventListener)
    (l' : Ani.FlavoredListener) : Prop where
  env : l.env = env
  slotId : l.slotId = l'.slotId
  eventType : l.eventType = l'.eventType
  function : B.function l.callbackRef = B.function l'.callbackRef.func

end TelephonyStateRegistry
