import TelephonyStateRegistry.Client.AniBridge
import TelephonyStateRegistry.Core.TableView

/-!
# The native functions of the ArkTS static front end

A listener holds a callback of some flavor, and an update executes the callbacks of its own
flavor. Which flavor a listener has is decided by the native function that makes it, and
which native function a script calls by the name that it gives to `on` or `off`.
-/

namespace TelephonyStateRegistry

open Reactive

variable {P : Platform}

namespace Ani

/-- The variants of `CallbackFlavor`. -/
inductive Flavor
  | cellularDataFlowChange
  | iccAccountInfoChange
  | simStateChange
  | signalInfoChange
  | cellInfoChange
  | cellularDataConnectionStateChange
  | networkStateChange
  | callStateChange
  | callStateExChange
  | ccallStateChange
  | simActiveStateChange
  deriving DecidableEq, Repr

/-- `CallbackFlavor`: a variant, and the global reference in it. -/
structure CallbackFlavor where
  flavor : Flavor
  func : Pointer
  deriving DecidableEq, Repr

/-- The comparison of two flavors. -/
def CallbackFlavor.eq (callbackEq : CallbackEq) (c d : CallbackFlavor) : Bool :=
  c.flavor = d.flavor && callbackEq c.func d.func

/-- `EventListener`, with its flavor. -/
structure FlavoredListener where
  eventType : TelephonyUpdateEventType
  slotId : Int
  callbackRef : CallbackFlavor
  deriving DecidableEq, Repr

/-- The listener without its flavor. -/
def FlavoredListener.plain (listener : FlavoredListener) : EventListener :=
  ⟨listener.eventType, listener.slotId, listener.callbackRef.func⟩

section Register

variable {σ : Type} (P : Platform) (N : NapiUtil) (M : StateManager σ) (callbackEq : CallbackEq)

/-- How listeners with flavors share registrations. -/
def flavoredSharing : Sharing FlavoredListener Pair Int := (sharing P).comap FlavoredListener.plain

/-- The test for `EventListenerSame`, of listeners with flavors. -/
def sameFlavored (listener listenItem : FlavoredListener) : Bool :=
  listenItem.slotId = listener.slotId && listenItem.eventType = listener.eventType &&
    listenItem.callbackRef.eq callbackEq listener.callbackRef

/-- Whether `Register::unregister` removes a listener with a flavor. -/
def matchesFlavored (eventType : TelephonyUpdateEventType) (callbackRef : Option CallbackFlavor)
    (listener : FlavoredListener) : Bool :=
  listener.eventType = eventType && match callbackRef with
    | some callback => listener.callbackRef.eq callbackEq callback
    | none => true

/-- `Register::register`, of a listener with a flavor. -/
def registerFlavored (listener : FlavoredListener) (s : List FlavoredListener × σ) :
    (List FlavoredListener × σ) × Int :=
  if isValidSlotIdEx P listener.slotId listener.eventType = false then
    (s, invalidParameterValue)
  else (flavoredSharing P).subscribe (provider N M) (sameFlavored callbackEq listener) listener s

/-- `Register::unregister`, of a callback with a flavor. -/
def unregisterFlavored (eventType : TelephonyUpdateEventType)
    (callbackRef : Option CallbackFlavor) (s : List FlavoredListener × σ) :
    (List FlavoredListener × σ) × Int :=
  (flavoredSharing P).release (provider N M) (matchesFlavored callbackEq eventType callbackRef) s

end Register

/-- A call of `Register::register` or of `Register::unregister`. -/
inductive FlavoredCall
  | register (listener : FlavoredListener)
  | unregister (eventType : TelephonyUpdateEventType) (callbackRef : Option CallbackFlavor)

/-- The call without the flavor. -/
def FlavoredCall.plain : FlavoredCall → Call
  | register listener => .register listener.plain
  | unregister eventType callbackRef => .unregister eventType (callbackRef.map CallbackFlavor.func)

/-- The body of the functions that add a listener. -/
def onChange (eventType : TelephonyUpdateEventType) (flavor : Flavor) (slotId : Int)
    (callback : Pointer) : FlavoredCall :=
  .register ⟨eventType, slotId, ⟨flavor, callback⟩⟩

/-- The body of the functions that remove listeners, whose callback may be undefined. -/
def offChange (eventType : TelephonyUpdateEventType) (flavor : Flavor)
    (callback : Option Pointer) : FlavoredCall :=
  .unregister eventType (callback.map (CallbackFlavor.mk flavor))

/-- `on_cellular_data_flow_change` and its variant with options. -/
def onCellularDataFlowChange := onChange (.event .dataFlow) .cellularDataFlowChange

/-- `off_cellular_data_flow_change`. -/
def offCellularDataFlowChange := offChange (.event .dataFlow) .cellularDataFlowChange

/-- `on_icc_account_info_change`. -/
def onIccAccountInfoChange := onChange (.event .iccAccount) .iccAccountInfoChange defaultSimSlotId

/-- `off_icc_account_info_change`. -/
def offIccAccountInfoChange := offChange (.event .iccAccount) .iccAccountInfoChange

/-- `on_sim_state_change` and its variant with options. -/
def onSimStateChange := onChange (.event .simState) .simStateChange

/-- `off_sim_state_change`. -/
def offSimStateChange := offChange (.event .simState) .simStateChange

/-- `on_signal_info_change` and its variant with options. -/
def onSignalInfoChange := onChange (.event .signalStrengths) .signalInfoChange

/-- `off_signal_info_change`. -/
def offSignalInfoChange := offChange (.event .signalStrengths) .signalInfoChange

/-- `on_cell_info_change` and its variant with options. -/
def onCellInfoChange := onChange (.event .cellInfo) .cellInfoChange

/-- `off_cell_info_change`. -/
def offCellInfoChange := offChange (.event .cellInfo) .cellInfoChange

/-- `on_cellular_data_connection_state_change` and its variant with options. -/
def onCellularDataConnectionStateChange :=
  onChange (.event .dataConnectionState) .cellularDataConnectionStateChange

/-- `off_cellular_data_connection_state_change`. -/
def offCellularDataConnectionStateChange :=
  offChange (.event .dataConnectionState) .cellularDataConnectionStateChange

/-- `on_network_state_change` and its variant with options. -/
def onNetworkStateChange := onChange (.event .networkState) .networkStateChange

/-- `off_network_state_change`. -/
def offNetworkStateChange := offChange (.event .networkState) .networkStateChange

/-- `on_call_state_change` and its variant with options. -/
def onCallStateChange := onChange (.event .callState) .callStateChange

/-- `off_call_state_change`. -/
def offCallStateChange := offChange (.event .callState) .callStateChange

/-- `on_call_state_change_ex`. -/
def onCallStateChangeEx := onChange (.event .callStateEx) .callStateExChange (-1)

/-- `off_call_state_change_ex`. -/
def offCallStateChangeEx := offChange (.event .callStateEx) .callStateExChange

/-- `on_ccall_state_change`. -/
def onCCallStateChange := onChange (.event .ccallState) .ccallStateChange (-1)

/-- `off_ccall_state_change`. -/
def offCCallStateChange := offChange (.event .ccallState) .ccallStateChange

/-- `on_get_sim_active_state`. -/
def onGetSimActiveState := onChange (.event .simActiveState) .simActiveStateChange

/-- `off_get_sim_active_state`. -/
def offGetSimActiveState := offChange (.event .simActiveState) .simActiveStateChange

/-- The slot of a function that takes options, or that has a variant which does. -/
def slotOf (options : Option Int) : Int := options.getD defaultSimSlotId

/-- The functions of the module, and the calls on the table that they make. -/
inductive NativeFunction : FlavoredCall → Prop
  | onCellularDataFlowChange (options : Option Int) (callback : Pointer) :
      NativeFunction (onCellularDataFlowChange (slotOf options) callback)
  | offCellularDataFlowChange (callback : Option Pointer) :
      NativeFunction (offCellularDataFlowChange callback)
  | onIccAccountInfoChange (callback : Pointer) : NativeFunction (onIccAccountInfoChange callback)
  | offIccAccountInfoChange (callback : Option Pointer) :
      NativeFunction (offIccAccountInfoChange callback)
  | onSimStateChange (options : Option Int) (callback : Pointer) :
      NativeFunction (onSimStateChange (slotOf options) callback)
  | offSimStateChange (callback : Option Pointer) : NativeFunction (offSimStateChange callback)
  | onSignalInfoChange (options : Option Int) (callback : Pointer) :
      NativeFunction (onSignalInfoChange (slotOf options) callback)
  | offSignalInfoChange (callback : Option Pointer) : NativeFunction (offSignalInfoChange callback)
  | onCellInfoChange (options : Option Int) (callback : Pointer) :
      NativeFunction (onCellInfoChange (slotOf options) callback)
  | offCellInfoChange (callback : Option Pointer) : NativeFunction (offCellInfoChange callback)
  | onCellularDataConnectionStateChange (options : Option Int) (callback : Pointer) :
      NativeFunction (onCellularDataConnectionStateChange (slotOf options) callback)
  | offCellularDataConnectionStateChange (callback : Option Pointer) :
      NativeFunction (offCellularDataConnectionStateChange callback)
  | onNetworkStateChange (options : Option Int) (callback : Pointer) :
      NativeFunction (onNetworkStateChange (slotOf options) callback)
  | offNetworkStateChange (callback : Option Pointer) :
      NativeFunction (offNetworkStateChange callback)
  | onCallStateChange (options : Option Int) (callback : Pointer) :
      NativeFunction (onCallStateChange (slotOf options) callback)
  | offCallStateChange (callback : Option Pointer) : NativeFunction (offCallStateChange callback)
  | onCallStateChangeEx (callback : Pointer) : NativeFunction (onCallStateChangeEx callback)
  | offCallStateChangeEx (callback : Option Pointer) :
      NativeFunction (offCallStateChangeEx callback)
  | onCCallStateChange (callback : Pointer) : NativeFunction (onCCallStateChange callback)
  | offCCallStateChange (callback : Option Pointer) : NativeFunction (offCCallStateChange callback)
  | onGetSimActiveState (slotId : Int) (callback : Pointer) :
      NativeFunction (onGetSimActiveState slotId callback)
  | offGetSimActiveState (callback : Option Pointer) :
      NativeFunction (offGetSimActiveState callback)

/-- `on` of a script: the function for a name, if there is one. -/
def on (type : String) (callback : Pointer) : Option FlavoredCall :=
  if type = "iccAccountInfoChange" then some (onIccAccountInfoChange callback)
  else if type = "simStateChange" then some (onSimStateChange defaultSimSlotId callback)
  else if type = "signalInfoChange" then some (onSignalInfoChange defaultSimSlotId callback)
  else if type = "cellInfoChange" then some (onCellInfoChange defaultSimSlotId callback)
  else if type = "networkStateChange" then some (onNetworkStateChange defaultSimSlotId callback)
  else if type = "callStateChange" then some (onCallStateChange defaultSimSlotId callback)
  else none

/-- `on` of a script, with options. Those of one event are not looked at. -/
def onOptions (type : String) (slotId : Int) (callback : Pointer) : Option FlavoredCall :=
  if type = "simStateChange" then some (onSimStateChange slotId callback)
  else if type = "signalInfoChange" then some (onSignalInfoChange slotId callback)
  else if type = "cellInfoChange" then some (onCellInfoChange slotId callback)
  else if type = "networkStateChange" then some (onNetworkStateChange slotId callback)
  else if type = "callStateChange" then some (onCallStateChange slotId callback)
  else if type = "callStateChangeEx" then some (onCallStateChangeEx callback)
  else none

/-- `off` of a script. -/
def off (type : String) (callback : Option Pointer) : Option FlavoredCall :=
  if type = "iccAccountInfoChange" then some (offIccAccountInfoChange callback)
  else if type = "simStateChange" then some (offSimStateChange callback)
  else if type = "signalInfoChange" then some (offSignalInfoChange callback)
  else if type = "cellInfoChange" then some (offCellInfoChange callback)
  else if type = "networkStateChange" then some (offNetworkStateChange callback)
  else if type = "callStateChange" then some (offCallStateChange callback)
  else if type = "callStateChangeEx" then some (offCallStateChangeEx callback)
  else none

/-- What a callback is executed with. -/
inductive Argument
  | cellularDataFlowChange (argv : DataFlowType)
  | iccAccountInfoChange
  | simStateChange (argv : SimStateData)
  | signalInfoChange (argv : List SignalInformation)
  | cellInfoChange (argv : List CellInformation)
  | cellularDataConnectionStateChange (argv : DataConnectionStateInfo)
  | networkStateChange (argv : NetworkState)
  | callStateChange (argv : CallStateInfo)
  | callStateExChange (argv : TelCallState)
  | ccallStateChange (argv : CCallStateInfo)
  | simActiveStateChange (argv : Bool)

/-- The flavor of the callbacks that take an argument. -/
def Argument.flavor : Argument → Flavor
  | cellularDataFlowChange _ => .cellularDataFlowChange
  | iccAccountInfoChange => .iccAccountInfoChange
  | simStateChange _ => .simStateChange
  | signalInfoChange _ => .signalInfoChange
  | cellInfoChange _ => .cellInfoChange
  | cellularDataConnectionStateChange _ => .cellularDataConnectionStateChange
  | networkStateChange _ => .networkStateChange
  | callStateChange _ => .callStateChange
  | callStateExChange _ => .callStateExChange
  | ccallStateChange _ => .ccallStateChange
  | simActiveStateChange _ => .simActiveStateChange

/-- A callback that is executed. -/
structure FlavoredExecution where
  listener : FlavoredListener
  argument : Argument

/-- The loop of the functions that execute callbacks. It passes over the listeners of
another event or slot, and over the callbacks of another flavor. -/
def executeFlavor (eventType : TelephonyUpdateEventType) (slotId : Option Int)
    (argument : Argument) (inner : List FlavoredListener) : List FlavoredExecution :=
  inner.filterMap fun listenItem =>
    if listenItem.eventType ≠ eventType ∨ (∃ slot ∈ slotId, listenItem.slotId ≠ slot) then none
    else if listenItem.callbackRef.flavor = argument.flavor then some ⟨listenItem, argument⟩
    else none

/-- `execute_on_cellular_data_flow_change`. -/
def executeOnCellularDataFlowChange (slotId param : Int) :=
  executeFlavor (.event .dataFlow) (some slotId) (.cellularDataFlowChange (dataFlowTypeFrom param))

/-- `execute_on_icc_account_info_change`, which looks at no slot. -/
def executeOnIccAccountInfoChange :=
  executeFlavor (.event .iccAccount) none .iccAccountInfoChange

/-- `execute_on_sim_state_change`. -/
def executeOnSimStateChange (slotId cardType state reason : Int) :=
  executeFlavor (.event .simState) (some slotId)
    (.simStateChange ⟨cardTypeFrom cardType, simStateFrom state, lockReasonFrom reason⟩)

/-- `execute_on_signal_info_change`. -/
def executeOnSignalInfoChange (slotId : Int) (signalInfoList : List SignalInformationAni) :=
  executeFlavor (.event .signalStrengths) (some slotId)
    (.signalInfoChange (signalInfoList.map signalInformationFrom))

/-- `execute_on_cell_info_change`. -/
def executeOnCellInfoChange (slotId : Int) (cellInfoList : List CellInformationAni) :=
  executeFlavor (.event .cellInfo) (some slotId)
    (.cellInfoChange (cellInfoList.map cellInformationFrom))

/-- `execute_on_cellular_data_connection_state_change`. -/
def executeOnCellularDataConnectionStateChange (slotId dataState networkType : Int) :=
  executeFlavor (.event .dataConnectionState) (some slotId)
    (.cellularDataConnectionStateChange (.new dataState networkType))

/-- `execute_on_network_state_change`. -/
def executeOnNetworkStateChange (slotId : Int) (networkState : NetworkStateAni) :=
  executeFlavor (.event .networkState) (some slotId)
    (.networkStateChange (networkStateFrom networkState))

/-- `execute_on_call_state_change`, with flavors. -/
def executeOnCallStateChangeFlavor (slotId : Int) (callState : CallStateAni) :=
  executeFlavor (.event .callState) (some slotId) (.callStateChange (callStateInfoFrom callState))

/-- `execute_on_call_state_ex_change`, with flavors. -/
def executeOnCallStateExChangeFlavor (slotId callStateEx : Int) :=
  executeFlavor (.event .callStateEx) (some slotId)
    (.callStateExChange (telCallStateFrom callStateEx))

/-- `execute_on_ccall_state_change`. -/
def executeOnCCallStateChange (slotId : Int) (callState : CallStateAni) :=
  executeFlavor (.event .ccallState) (some slotId)
    (.ccallStateChange (ccallStateInfoFrom callState))

/-- `execute_on_sim_active_state_change`. -/
def executeOnSimActiveStateChange (slotId : Int) (isActive : Bool) :=
  executeFlavor (.event .simActiveState) (some slotId) (.simActiveStateChange isActive)

/-- `AniTelephonyObserver`. A null element is dereferenced, and a number that is not well
formed is not converted; nothing is executed then. Three callbacks are not overridden. -/
def onUpdated (K : Payloads P) (C : CellPayloads P) (callback : Callback P)
    (inner : List FlavoredListener) : List FlavoredExecution :=
  match callback with
  | .onCallStateUpdated slotId callState teleNumber =>
    (K.toUtf8 teleNumber).elim [] fun phoneNumber =>
      executeOnCallStateChangeFlavor slotId ⟨callState, phoneNumber⟩ inner
  | .onCallStateUpdatedEx slotId callStateEx =>
    executeOnCallStateExChangeFlavor slotId callStateEx inner
  | .onCCallStateUpdated slotId callState teleNumber =>
    (K.toUtf8 teleNumber).elim [] fun phoneNumber =>
      executeOnCCallStateChange slotId ⟨callState, phoneNumber⟩ inner
  | .onSignalInfoUpdated slotId signalInfoList =>
    (signalInfoList.mapM id).elim [] fun infos =>
      executeOnSignalInfoChange slotId (infos.map (signalInformationAni K)) inner
  | .onCellInfoUpdated slotId vec =>
    (vec.mapM id).elim [] fun infos =>
      executeOnCellInfoChange slotId (infos.map (cellInformationAni C)) inner
  | .onNetworkStateUpdated slotId networkState =>
    networkState.elim [] fun networkState =>
      executeOnNetworkStateChange slotId (networkStateAni K networkState) inner
  | .onSimStateUpdated slotId type state reason =>
    executeOnSimStateChange slotId type state reason inner
  | .onCellularDataConnectStateUpdated slotId dataState networkType =>
    executeOnCellularDataConnectionStateChange slotId dataState networkType inner
  | .onCellularDataFlowUpdated slotId dataFlowType =>
    executeOnCellularDataFlowChange slotId dataFlowType inner
  | .onIccAccountUpdated => executeOnIccAccountInfoChange inner
  | .onSimActiveStateUpdated slotId enable => executeOnSimActiveStateChange slotId enable inner
  | .onCfuIndicatorUpdated _ _ => []
  | .onVoiceMailMsgIndicatorUpdated _ _ => []
  | .onVoIPStateUpdated _ => []

/-- A call of a native function, with what the runtime and the manager do during it. -/
structure FlavoredInput (σ : Type) where
  manager : StateManager σ
  callbackEq : CallbackEq
  call : FlavoredCall

/-- The input without the flavor. -/
def FlavoredInput.plain {σ : Type} (input : FlavoredInput σ) : Input σ :=
  ⟨input.manager, input.callbackEq, input.call.plain⟩

/-- The table of listeners with flavors, and what lies behind the manager, as a machine. -/
def flavoredMachine (P : Platform) (N : NapiUtil) {σ : Type} :
    Mealy (List FlavoredListener × σ) (FlavoredInput σ) Int where
  step s input := match input.call with
    | .register listener => registerFlavored P N input.manager input.callbackEq listener s
    | .unregister eventType callbackRef =>
      unregisterFlavored P N input.manager input.callbackEq eventType callbackRef s

end Ani

end TelephonyStateRegistry
