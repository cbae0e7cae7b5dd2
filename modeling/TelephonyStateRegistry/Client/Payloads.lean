import TelephonyStateRegistry.Client.Work
import TelephonyStateRegistry.Core.Loops
import TelephonyStateRegistry.Wire.Format

/-!
# The values that JS listeners are given

A work function makes a value from the info of its item. Numbers that stand for
enumerators are converted on the way, by a `switch` over the enumerators that the
author had in mind. The values of the cell, voice-mail, forwarding, VoIP and
activation events, which no other front end reports, are left out.
-/

namespace TelephonyStateRegistry

open Reactive

variable {P : Platform}

/-- A `switch` with labels from an enumeration. -/
def switch {α : Type} (label : α → Int) (cases : List (α × Int)) (otherwise : Int) (n : Int) :
    Int :=
  ((cases.find? fun c => label c.1 = n).map Prod.snd).getD otherwise

/-- `CallStatus`. -/
inductive CallStatus
  | unknown
  | active
  | holding
  | dialing
  | alerting
  | incoming
  | waiting
  | disconnected
  | disconnecting
  | idle
  | answered
  deriving DecidableEq, Repr

/-- The number of a `CallStatus`. -/
def CallStatus.toInt32 : CallStatus → Int
  | unknown => -1
  | active => 0
  | holding => 1
  | dialing => 2
  | alerting => 3
  | incoming => 4
  | waiting => 5
  | disconnected => 6
  | disconnecting => 7
  | idle => 8
  | answered => 9

/-- `CallState` of the front ends. -/
inductive CallState
  | unknown
  | idle
  | ringing
  | offhook
  | answered
  deriving DecidableEq, Repr

/-- The number of a `CallState`. -/
def CallState.toInt32 : CallState → Int
  | unknown => -1
  | idle => 0
  | ringing => 1
  | offhook => 2
  | answered => 3

/-- `TelCallState`. -/
inductive TelCallState
  | unknown
  | idle
  | ringing
  | offhook
  | answered
  | connected
  deriving DecidableEq, Repr

/-- The number of a `TelCallState`. -/
def TelCallState.toInt32 : TelCallState → Int
  | unknown => -1
  | idle => 0
  | ringing => 1
  | offhook => 2
  | answered => 3
  | connected => 4

/-- `RegServiceState`. -/
inductive RegServiceState
  | unknown
  | noService
  | inService
  | emergencyOnly
  | search
  deriving DecidableEq, Repr

/-- `RegStatus`. -/
inductive RegStatus
  | noService
  | inService
  | emergencyCallOnly
  | powerOff
  deriving DecidableEq, Repr

/-- The names that `RadioTech` and `RatType` share. -/
inductive RadioTech
  | unknown
  | gsm
  | oneXrtt
  | wcdma
  | hspa
  | hspap
  | tdScdma
  | evdo
  | ehrpd
  | lte
  | lteCa
  | iwlan
  | nr
  | nrEnhanced
  deriving DecidableEq, Repr

/-- What the front ends read from the payload classes, the numbers of the
enumerators that come with them, and the conversion of `NapiUtil`. -/
structure Payloads (P : Platform) where
  getNetworkType : P.SignalInformation → Int
  getSignalLevel : P.SignalInformation → Int
  getSignalIntensity : P.SignalInformation → Int
  getLongOperatorName : P.NetworkState → String
  getShortOperatorName : P.NetworkState → String
  getPlmnNumeric : P.NetworkState → String
  isRoaming : P.NetworkState → Bool
  isEmergency : P.NetworkState → Bool
  getRegStatus : P.NetworkState → Int
  getCfgTech : P.NetworkState → Int
  getNrState : P.NetworkState → Int
  /-- `SignalInformation::NetworkType`. -/
  signalNetworkType : RadioType → Int
  /-- `NetworkType`, with the unknown one. -/
  networkType : Option RadioType → Int
  /-- `RegServiceState`. -/
  regServiceState : RegServiceState → Int
  /-- `RegStatus`. -/
  regStatus : RegStatus → Int
  /-- `RadioTech`. -/
  radioTech : RadioTech → Int
  radioTech_injective : Function.Injective radioTech
  /-- `RatType`. -/
  ratType : RadioTech → Int
  ratType_injective : Function.Injective ratType
  /-- `NapiUtil::ToUtf8`, which may throw. -/
  toUtf8 : U16String → Option String

/-- Whether a unit is the first of a pair. -/
private def isHighSurrogate (c : BitVec 16) : Bool := 0xD800#16 ≤ c && c < 0xDC00#16

/-- Whether a unit is the second of a pair. -/
private def isLowSurrogate (c : BitVec 16) : Bool := 0xDC00#16 ≤ c && c < 0xE000#16

/-- The characters of a string of units, if none stands for half a character. -/
private def utf16Chars : U16String → Option (List Char)
  | [] => some []
  | c :: cs =>
    if isLowSurrogate c then none
    else if isHighSurrogate c = false then (utf16Chars cs).map (Char.ofNat c.toNat :: ·)
    else match cs with
      | [] => none
      | d :: ds =>
        if isLowSurrogate d then (utf16Chars ds).map (Char.ofNat
          (0x10000 + (c.toNat - 0xD800) * 0x400 + (d.toNat - 0xDC00)) :: ·)
        else none

/-- `to_bytes` of a `std::wstring_convert` with `std::codecvt_utf8_utf16`, which throws
if the string is not well formed. -/
def toBytes (str16 : U16String) : Option String := (utf16Chars str16).map String.ofList

/-- A signal as it is reported. -/
structure SignalValue where
  signalType : Int
  signalLevel : Int
  dBm : Int
  deriving DecidableEq, Repr

/-- A network state as it is reported. -/
structure NetworkStateValue (Str : Type) where
  longOperatorName : Str
  shortOperatorName : Str
  plmnNumeric : Str
  isRoaming : Bool
  regState : Int
  cfgTech : Int
  nsaState : Int
  isCaActive : Bool
  isEmergency : Bool
  deriving DecidableEq, Repr

/-- What the callback of a listener is given. -/
inductive Value (Str : Type)
  | callState (state : Int) (number : Str)
  | callStateEx (state : Int)
  | ccallState (state : Int) (teleNumber : Str)
  | signalInfo (infos : List SignalValue)
  | networkState (value : NetworkStateValue Str)
  | simState (type state reason : Int)
  | dataConnection (state network : Int)
  | dataFlow (flowType : Int)
  | iccAccount
  deriving DecidableEq, Repr

/-- A value with other strings. -/
def Value.map {Str Str' : Type} (f : Str → Str') : Value Str → Value Str'
  | callState state number => .callState state (f number)
  | callStateEx state => .callStateEx state
  | ccallState state teleNumber => .ccallState state (f teleNumber)
  | signalInfo infos => .signalInfo infos
  | networkState value => .networkState
    { value with
      longOperatorName := f value.longOperatorName
      shortOperatorName := f value.shortOperatorName
      plmnNumeric := f value.plmnNumeric }
  | simState type state reason => .simState type state reason
  | dataConnection state network => .dataConnection state network
  | dataFlow flowType => .dataFlow flowType
  | iccAccount => .iccAccount

/-- A function that is called on the spot, and its argument. -/
structure Execution (Listener Str : Type) where
  listener : Listener
  value : Value Str

/-- A listener of a table is given the values that the events have for it. -/
theorem Execution.values_of_nodup {Listener Str ε : Type} [DecidableEq Listener]
    {table : List Listener} (hnodup : table.Nodup) {listener : Listener} (hl : listener ∈ table)
    (value : ε → Listener → Option (Value Str)) (events : List ε) :
    (((events.flatMap fun e => table.filterMap fun l => (value e l).map (Execution.mk l)).filter
        fun execution => execution.listener = listener).map Execution.value) =
      events.filterMap fun e => value e listener := by
  have hlistener : ∀ e l, ∀ execution ∈ (value e l).map (Execution.mk l),
      execution.listener = l := by
    intro e l execution h
    obtain ⟨value, -, rfl⟩ := Option.map_eq_some_iff.mp (Option.mem_def.mp h)
    rfl
  rw [filter_flatMap_filterMap_of_nodup hlistener hnodup hl, List.map_filterMap]
  refine List.filterMap_congr ?_
  intro e _
  rw [Option.map_map]
  exact Option.map_id'

/-- `WrapNetworkType`, the same in both front ends. -/
def Payloads.wrapNetworkType (K : Payloads P) : Int → Int :=
  switch K.signalNetworkType
    ([.gsm, .cdma, .lte, .tdscdma, .wcdma].map fun type => (type, K.networkType (some type)))
    (K.networkType none)

/-- `WrapRegState`, the same in both front ends. -/
def Payloads.wrapRegState (K : Payloads P) : Int → Int :=
  switch K.regServiceState
    [(.noService, K.regStatus .noService), (.search, K.regStatus .noService),
      (.inService, K.regStatus .inService), (.emergencyOnly, K.regStatus .emergencyCallOnly),
      (.unknown, K.regStatus .powerOff)] (K.regStatus .powerOff)

/-- `WrapRadioTech`, with the technologies that have a case. -/
def Payloads.wrapRadioTech (K : Payloads P) (techs : List RadioTech) : Int → Int :=
  switch K.radioTech (techs.map fun tech => (tech, K.ratType tech)) (K.ratType .unknown)

/-- `WrapCallState`, the same in both front ends. -/
def wrapCallState : Int → Int :=
  switch CallStatus.toInt32
    [(.active, CallState.offhook.toInt32), (.holding, CallState.offhook.toInt32),
      (.dialing, CallState.offhook.toInt32), (.alerting, CallState.offhook.toInt32),
      (.waiting, CallState.ringing.toInt32), (.incoming, CallState.ringing.toInt32),
      (.disconnecting, CallState.idle.toInt32), (.disconnected, CallState.idle.toInt32),
      (.idle, CallState.idle.toInt32), (.answered, CallState.answered.toInt32)]
    CallState.unknown.toInt32

/-- `WrapCallStateEx`. -/
def wrapCallStateEx : Int → Int :=
  switch CallStatus.toInt32
    [(.active, TelCallState.connected.toInt32), (.holding, TelCallState.connected.toInt32),
      (.dialing, TelCallState.offhook.toInt32), (.alerting, TelCallState.offhook.toInt32),
      (.waiting, TelCallState.ringing.toInt32), (.incoming, TelCallState.ringing.toInt32),
      (.disconnecting, TelCallState.idle.toInt32), (.disconnected, TelCallState.idle.toInt32),
      (.idle, TelCallState.idle.toInt32), (.answered, TelCallState.answered.toInt32)]
    TelCallState.unknown.toInt32

/-- The signal that is reported for an element. -/
def Payloads.signalValue (K : Payloads P) (info : P.SignalInformation) : SignalValue where
  signalType := K.wrapNetworkType (K.getNetworkType info)
  signalLevel := K.getSignalLevel info
  dBm := K.getSignalIntensity info

/-- The network state that is reported, by the way its strings and its
technology are converted. -/
def Payloads.networkStateValue (K : Payloads P) {Str : Type} (string : String → Str)
    (techs : List RadioTech) (networkState : P.NetworkState) : NetworkStateValue Str where
  longOperatorName := string (K.getLongOperatorName networkState)
  shortOperatorName := string (K.getShortOperatorName networkState)
  plmnNumeric := string (K.getPlmnNumeric networkState)
  isRoaming := K.isRoaming networkState
  regState := K.wrapRegState (K.getRegStatus networkState)
  cfgTech := K.wrapRadioTech techs (K.getCfgTech networkState)
  nsaState := K.getNrState networkState
  isCaActive := false
  isEmergency := K.isEmergency networkState

/-- The numbers of the enumerators that start from 0. -/
private def dualSimRadioTech : RadioTech → Int
  | .unknown => 0
  | .gsm => 1
  | .oneXrtt => 2
  | .wcdma => 3
  | .hspa => 4
  | .hspap => 5
  | .tdScdma => 6
  | .evdo => 7
  | .ehrpd => 8
  | .lte => 9
  | .lteCa => 10
  | .iwlan => 11
  | .nr => 12
  | .nrEnhanced => 13

private theorem dualSimRadioTech_injective : Function.Injective dualSimRadioTech := by
  intro tech tech' h
  cases tech <;> cases tech' <;> first | rfl | exact absurd h (by decide)

/-- The payloads of a phone whose signals and network states are known by their names. -/
def Payloads.dualSim : Payloads Platform.dualSim where
  getNetworkType _ := 3
  getSignalLevel := fun info : String => info.length
  getSignalIntensity _ := -90
  getLongOperatorName := id
  getShortOperatorName := id
  getPlmnNumeric _ := "46000"
  isRoaming _ := false
  isEmergency _ := false
  getRegStatus _ := 1
  getCfgTech _ := dualSimRadioTech .lte
  getNrState _ := 1
  signalNetworkType
    | .gsm => 1
    | .cdma => 2
    | .lte => 3
    | .tdscdma => 4
    | .wcdma => 5
    | .nr => 6
  networkType
    | none => 0
    | some .gsm => 1
    | some .cdma => 2
    | some .wcdma => 3
    | some .tdscdma => 4
    | some .lte => 5
    | some .nr => 6
  regServiceState
    | .unknown => -1
    | .noService => 0
    | .inService => 1
    | .emergencyOnly => 2
    | .search => 3
  regStatus
    | .noService => 0
    | .inService => 1
    | .emergencyCallOnly => 2
    | .powerOff => 3
  radioTech := dualSimRadioTech
  radioTech_injective := dualSimRadioTech_injective
  ratType := dualSimRadioTech
  ratType_injective := dualSimRadioTech_injective
  toUtf8 := toBytes

namespace Napi

/-- The cases of `WrapRadioTech`. -/
def radioTechs : List RadioTech :=
  [.gsm, .lte, .wcdma, .oneXrtt, .hspa, .hspap, .tdScdma, .evdo, .ehrpd, .lteCa, .iwlan, .nr]

/-- The value that a work function makes from the info of its item. A number that
is not well formed is not converted, and no value is made. -/
def WorkFunc.value (K : Payloads P) (workFunc : WorkFunc) (info : Option (UpdateInfo P)) :
    Option (Value String) :=
  match workFunc, info.map UpdateInfo.callback with
  | .workCallStateUpdated, some (.onCallStateUpdated _ callState phoneNumber) =>
    (K.toUtf8 phoneNumber).map (.callState (wrapCallState callState))
  | .workCallStateExUpdated, some (.onCallStateUpdatedEx _ callStateEx) =>
    some (.callStateEx (wrapCallStateEx callStateEx))
  | .workSignalUpdated, some (.onSignalInfoUpdated _ signalInfoList) =>
    some (.signalInfo (signalInfoList.filterMap fun info => info.map K.signalValue))
  | .workNetworkStateUpdated, some (.onNetworkStateUpdated _ (some networkState)) =>
    some (.networkState (K.networkStateValue id radioTechs networkState))
  | .workSimStateUpdated, some (.onSimStateUpdated _ type state reason) =>
    some (.simState type state reason)
  | .workCellularDataConnectStateUpdated,
      some (.onCellularDataConnectStateUpdated _ dataState networkType) =>
    some (.dataConnection dataState networkType)
  | .workCellularDataFlowUpdated, some (.onCellularDataFlowUpdated _ flowType) =>
    some (.dataFlow flowType)
  | .workIccAccountUpdated, _ => some .iccAccount
  | .workCCallStateUpdated, some (.onCCallStateUpdated _ callState phoneNumber) =>
    (K.toUtf8 phoneNumber).map (.ccallState callState)
  | _, _ => none

/-- The value that a function is called with. -/
def WorkAction.value (K : Payloads P) : WorkAction P → Option (Value String)
  | callFunction item => (workFuncMap item.listener.eventType).bind fun workFunc =>
    workFunc.value K item.info
  | _ => none

/-- The answers of an engine in which nothing fails. -/
def WorkAnswers.succeeding : WorkAnswers := ⟨true, true, true⟩

/-- The value that a callback has for a listener. -/
def valueFor (K : Payloads P) (listener : EventListener) (callback : Callback P) :
    Option (Value String) :=
  if (sendEvent callback).mayServe listener = true then
    (workFuncMap listener.eventType).bind fun workFunc =>
      workFunc.value K (sendEvent callback).info
  else none

end Napi

end TelephonyStateRegistry
