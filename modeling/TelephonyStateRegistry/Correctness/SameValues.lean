import TelephonyStateRegistry.Correctness.Flavors
import TelephonyStateRegistry.Correctness.SameCalls

/-!
# The values that both script front ends deliver

The JS front end converts a number by the enumerator that it stands for in the native code,
the ArkTS one by the enumerator that has this number in the script. Nine events are compared.
-/

namespace TelephonyStateRegistry

open Reactive

variable {P : Platform}

/-- Whether listeners on a pair are told of a callback. -/
def Callback.isFor (k : Pair) (callback : Callback P) : Bool :=
  k.eventType = .event callback.event && callback.slotId.all fun slotId => k.slotId = slotId

namespace Ani

/-- A signal as it is read by its fields. -/
def SignalInformation.value (info : SignalInformation) : SignalValue :=
  ⟨info.signalType.toInt32, info.signalLevel, info.dBm⟩

/-- An argument as it is read by its fields. The field that is missing is not set. -/
def Argument.value : Argument → Option (Value String)
  | cellularDataFlowChange argv => some (.dataFlow argv.toInt32)
  | iccAccountInfoChange => some .iccAccount
  | simStateChange argv =>
    some (.simState argv.cardType.toInt32 argv.state.toInt32 argv.reason.toInt32)
  | signalInfoChange argv => some (.signalInfo (argv.map SignalInformation.value))
  | cellularDataConnectionStateChange argv =>
    some (.dataConnection argv.state.toInt32 argv.network.toInt32)
  | networkStateChange argv => some (.networkState
    { longOperatorName := argv.longOperatorName
      shortOperatorName := argv.shortOperatorName
      plmnNumeric := argv.plmnNumeric
      isRoaming := argv.isRoaming
      regState := argv.regState.toInt32
      cfgTech := argv.cfgTech.toInt32
      nsaState := argv.nsaState.toInt32
      isCaActive := false
      isEmergency := argv.isEmergency })
  | callStateChange argv => some (.callState argv.state.toInt32 argv.teleNumber)
  | callStateExChange argv => some (.callStateEx argv.toInt32)
  | ccallStateChange argv => some (.ccallState argv.state argv.teleNumber)
  | cellInfoChange _ => none
  | simActiveStateChange _ => none

/-- An execution of a callback that is read by its fields. -/
def FlavoredExecution.read (execution : FlavoredExecution) :
    Option (TelephonyStateRegistry.Execution FlavoredListener String) :=
  execution.argument.value.map (Execution.mk execution.listener)

end Ani

/-- The value that JS functions are given. -/
private def Callback.jsValue (K : Payloads P) : Callback P → Option (Value String)
  | onCallStateUpdated _ callState phoneNumber =>
    (K.toUtf8 phoneNumber).map (.callState (wrapCallState callState))
  | onCallStateUpdatedEx _ callStateEx => some (.callStateEx (wrapCallStateEx callStateEx))
  | onCCallStateUpdated _ callState phoneNumber =>
    (K.toUtf8 phoneNumber).map (.ccallState callState)
  | onSignalInfoUpdated _ signalInfoList =>
    some (.signalInfo (signalInfoList.filterMap fun info => info.map K.signalValue))
  | onNetworkStateUpdated _ networkState => networkState.map fun networkState =>
    .networkState (K.networkStateValue id Napi.radioTechs networkState)
  | onSimStateUpdated _ type state reason => some (.simState type state reason)
  | onCellularDataConnectStateUpdated _ dataState networkType =>
    some (.dataConnection dataState networkType)
  | onCellularDataFlowUpdated _ flowType => some (.dataFlow flowType)
  | onIccAccountUpdated => some .iccAccount
  | _ => none

section Js

variable {l : Napi.EventListener} {m : ObserverMask} {callback : Callback P}

end Js

/-! ## The numbers -/

section Numbers

variable {K : Payloads P}

end Numbers

/-! ## When the values are the same -/

end TelephonyStateRegistry
