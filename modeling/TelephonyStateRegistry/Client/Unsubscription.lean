import TelephonyStateRegistry.Client.Threads

/-!
# The entry points that unsubscribe

Four functions of the observer module unsubscribe: `off` with the name of an
event, and three with an event of their own. Each parses its arguments by itself,
and thereby decides whether a reference to the callback is captured.
-/

namespace TelephonyStateRegistry

namespace Napi

/-- The argument for the callback, by what `napi_typeof` tells about it. A function
is given by the reference that `napi_create_reference` makes to it. -/
inductive Argument
  | missing
  | undefined
  | null
  | function (ref : Pointer)
  | other
  deriving DecidableEq, Repr

/-- `MatchParameters` on what is counted of the callback: the reference that it
stores in `callbackRef`, unless it reports an error. -/
abbrev MatchParameters := Option Argument → Option Pointer

/-- A callback that is not counted is not stored, and one that is counted is. -/
structure Documented (matchParameters : MatchParameters) : Prop where
  none : matchParameters none = some nullptr
  function : ∀ ref, ref ≠ nullptr → matchParameters (some (.function ref)) = some ref

/-- A matching that accepts nothing but a function. -/
def matchFunction : MatchParameters
  | none => some nullptr
  | some (.function ref) => some ref
  | some _ => none

theorem matchFunction_documented : Documented matchFunction where
  none := rfl
  function _ _ := rfl

/-- `Off` and `OffSimActiveState` count no callback that is left out, undefined or null. -/
def countedCallback : Argument → Option Argument
  | .missing | .undefined | .null => none
  | argument => some argument

section Entry

variable {σ : Type} (P : Platform) (M : StateManager σ) (isCallBackRegister : IsCallBackRegister)
  (matchParameters : MatchParameters) (env : Pointer)

/-- An entry point with what it made of its arguments: without a context it throws a
parameter error and returns. -/
def offWith (asyncContext : Option ObserverContext) (s : EventListenerHandler × σ) :
    (EventListenerHandler × σ) × Option ObserverContext :=
  match asyncContext with
  | none => (s, none)
  | some asyncContext =>
    let (s, asyncContext) := Napi.off P M isCallBackRegister env asyncContext s
    (s, some asyncContext)

/-- `Off`, with the event of its first argument. -/
def offEvent (event : ObserverMask) (argument : Argument) (s : EventListenerHandler × σ) :
    (EventListenerHandler × σ) × Option ObserverContext :=
  offWith P M isCallBackRegister env
    ((matchParameters (countedCallback argument)).map (.new (.event event) defaultSimSlotId)) s

/-- `OffSimActiveState`. -/
def offSimActiveState (argument : Argument) (s : EventListenerHandler × σ) :
    (EventListenerHandler × σ) × Option ObserverContext :=
  offWith P M isCallBackRegister env
    ((matchParameters (countedCallback argument)).map
      (.new (.event .simActiveState) defaultSimSlotId)) s

/-- The context of an entry point that looks at the type of its argument only. -/
def contextByType (eventType : TelephonyUpdateEventType) : Argument → Option ObserverContext
  | .missing | .undefined | .null | .function _ => some (.new eventType defaultSimSlotId nullptr)
  | .other => none

/-- `OffCCallStateChange`. -/
def offCCallStateChange (argument : Argument) (s : EventListenerHandler × σ) :
    (EventListenerHandler × σ) × Option ObserverContext :=
  offWith P M isCallBackRegister env (contextByType (.event .ccallState) argument) s

/-- `OffVoIPStateChange`. -/
def offVoIPStateChange (argument : Argument) (s : EventListenerHandler × σ) :
    (EventListenerHandler × σ) × Option ObserverContext :=
  offWith P M isCallBackRegister env (contextByType (.event .voipCallState) argument) s

/-- The entry points. -/
inductive OffRoute
  | off (event : ObserverMask)
  | offCCallStateChange
  | offVoIPStateChange
  | offGetSimActiveState
  deriving DecidableEq, Repr

/-- The event of an entry point. -/
def OffRoute.eventType : OffRoute → TelephonyUpdateEventType
  | off event => .event event
  | offCCallStateChange => .event .ccallState
  | offVoIPStateChange => .event .voipCallState
  | offGetSimActiveState => .event .simActiveState

/-- A call of an entry point. -/
def OffRoute.call (argument : Argument) (s : EventListenerHandler × σ) :
    OffRoute → (EventListenerHandler × σ) × Option ObserverContext
  | off event => offEvent P M isCallBackRegister matchParameters env event argument s
  | offCCallStateChange => Napi.offCCallStateChange P M isCallBackRegister env argument s
  | offVoIPStateChange => Napi.offVoIPStateChange P M isCallBackRegister env argument s
  | offGetSimActiveState =>
    offSimActiveState P M isCallBackRegister matchParameters env argument s

end Entry

end Napi

end TelephonyStateRegistry
