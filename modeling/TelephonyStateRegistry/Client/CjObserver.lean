import TelephonyStateRegistry.Client.Cj

/-!
# The functions that Cangjie code calls: `TelephonyObserverImpl`

`On` and `Off` look the event up by its name, which is given here by the mask of
the event. What they return is converted once more, which tells success apart
from every failure; this last conversion is left out.
-/

namespace TelephonyStateRegistry

open Reactive

namespace Cj

/-- The events of `eventMap`. -/
def eventMap : List ObserverMask :=
  [.networkState, .callState, .signalStrengths, .simState, .cellInfo, .dataConnectionState,
    .dataFlow, .cfuIndicator, .voiceMailMsgIndicator, .iccAccount]

/-- `GetEventType`. -/
def getEventType (event : ObserverMask) : TelephonyUpdateEventType :=
  if event ∈ eventMap then .event event else .noneEventType

/-- The codes of `On` and `Off`. -/
inductive ErrCode
  | client (code : ClientCode)
  | telephonyErrArgumentNull
  | telephonyErrArgumentInvalid
  | telephonyErrPermissionErr
  | errorSlotIdInvalid
  deriving DecidableEq, Repr

/-- `DEFAULT_SIM_SLOT_ID`. -/
def defaultSimSlotId : Int := 0

/-- `IsValidSlotIdEx`. -/
def isValidSlotIdEx (P : Platform) (eventType : TelephonyUpdateEventType) (slotId : Int) : Bool :=
  let defaultSlotId := if eventType = .event .callState then -1 else defaultSimSlotId
  slotId ≥ defaultSlotId && slotId < P.simSlotCount + 1

section Native

variable {σ : Type} (P : Platform) (M : StateManager σ)

/-- `NativeOn`. -/
def nativeOn (listener : EventListener) (s : ObserverEventHandler × σ) :
    (ObserverEventHandler × σ) × ErrCode :=
  if P.simSlotCount = 0 then (s, .client .telephonySuccess)
  else if isValidSlotIdEx P listener.eventType listener.slotId = false then
    (s, .errorSlotIdInvalid)
  else
    let (s, code) := registerEventListener P M listener s
    (s, .client code)

/-- The code that is returned for a denied permission. -/
def ErrCode.permission (errCode : ErrCode) : ErrCode :=
  if errCode = .client (.service .telephonyStateRegistryPermissionDenied) then
    .telephonyErrPermissionErr
  else errCode

/-- `On`, with the function made for the number, and with the flag. -/
def on (event : ObserverMask) (slotId funcId : Int) (callbackRef isDeleting : Pointer)
    (s : ObserverEventHandler × σ) : (ObserverEventHandler × σ) × ErrCode :=
  if callbackRef = nullptr then (s, .telephonyErrArgumentNull)
  else
    let listener : EventListener := ⟨getEventType event, slotId, funcId, isDeleting⟩
    let (s, errCode) :=
      if listener.eventType ≠ .noneEventType then nativeOn P M listener s
      else (s, .telephonyErrArgumentInvalid)
    (s, errCode.permission)

/-- `Off`. The code of `UnregisterEventListener` is dropped. -/
def off (event : ObserverMask) (funcId : Int) (s : ObserverEventHandler × σ) :
    (ObserverEventHandler × σ) × ErrCode :=
  let eventType := getEventType event
  let (s, errCode) : (ObserverEventHandler × σ) × ErrCode :=
    if eventType ≠ .noneEventType then
      ((unregisterEventListener P M eventType funcId s).1, .client .telephonySuccess)
    else (s, .telephonyErrArgumentInvalid)
  (s, errCode.permission)

/-- The number that stands for every function. -/
def allFuncs : Int := -1

end Native

end Cj

end TelephonyStateRegistry
