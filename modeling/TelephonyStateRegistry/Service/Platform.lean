import TelephonyStateRegistry.Service.Record

/-!
# What the service takes from outside the repository

The payload classes, the subscription constants and the slot constants come
from other components; the extension library may install hooks that rewrite a
payload for one record. All of it is one parameter of the model. The
subscription constants are single bits and differ from each other, which the
parameter carries as fields.
-/

namespace TelephonyStateRegistry

/-- `SIM_SLOT_ID_FOR_DEFAULT_CONN_EVENT`: a record under this slot observes all slots. -/
def simSlotIdForDefaultConnEvent : Int := 999

/-- `CallStatus::CALL_STATUS_UNKNOWN`. -/
def callStatusUnknown : Int := -1

/-- `CallStatus::CALL_STATUS_IDLE`. -/
def callStatusIdle : Int := 8

/-- `std::u16string`. -/
abbrev U16String := List (BitVec 16)

/-- The external types, functions and constants. -/
structure Platform where
  /-- `SignalInformation`. -/
  SignalInformation : Type
  /-- `CellInformation`. -/
  CellInformation : Type
  /-- `NetworkState`. -/
  NetworkState : Type
  /-- `SignalInformation::ToString`. -/
  signalToString : SignalInformation → String
  /-- `NetworkState::ToString`. -/
  networkToString : NetworkState → String
  /-- The object that `ReadFromParcel` rebuilds from what `Marshalling` wrote. -/
  parcelCopy : NetworkState → NetworkState
  /-- `Str16ToStr8`. -/
  str16ToStr8 : U16String → String
  /-- The position of the bit that is the value of an `OBSERVER_MASK_*` constant. -/
  maskBit : ObserverMask → Fin 32
  maskBit_injective : Function.Injective maskBit
  /-- `SIM_SLOT_COUNT`. -/
  simSlotCount : Int
  /-- `SIM_SLOT_COUNT_MD`. -/
  simSlotCountMd : Int
  /-- `DUAL_SLOT_COUNT`. -/
  dualSlotCount : Int
  /-- `MAX_SLOT_COUNT`. -/
  maxSlotCount : Int
  /-- `VSIM_MODEM_COUNT`. -/
  vsimModemCount : Int
  /-- Whether `OHOS_BUILD_ENABLE_TELEPHONY_VSIM` is defined. -/
  vsimEnabled : Bool
  /-- `TELEPHONY_ERROR`, the answer of a query that finds nothing. -/
  telephonyError : Int
  /-- `onCellularDataConnectStateUpdated_`: the network type shown to one record. -/
  onCellularDataConnectStateUpdated : Option (Int → Record → Int → Int)
  /-- `onSignalInfoUpdated_`: the copy and the reported list give the list shown to one record. -/
  onSignalInfoUpdated : Option (Int → Record → List (Option SignalInformation) →
    List (Option SignalInformation) → List (Option SignalInformation))
  /-- `onCellInfoUpdated_`. -/
  onCellInfoUpdated : Option (Int → Record → List (Option CellInformation) →
    List (Option CellInformation) → List (Option CellInformation))
  /-- `onNetworkStateUpdated_`. -/
  onNetworkStateUpdated : Option (Int → Record → Option NetworkState →
    Option NetworkState → Option NetworkState)

namespace Platform

variable (P : Platform)

/-- The value of an `OBSERVER_MASK_*` constant. -/
def mask (m : ObserverMask) : BitVec 32 := BitVec.twoPow 32 (P.maskBit m)

/-- A mask contains an event when it has the bit of that event. -/
def contains (mask : BitVec 32) (m : ObserverMask) : Bool := mask.getLsbD (P.maskBit m)

/-- Testing a mask against a constant reads one bit. -/
theorem and_mask_ne_zero (mask : BitVec 32) (m : ObserverMask) :
    mask &&& P.mask m ≠ 0#32 ↔ P.contains mask m = true := by
  rw [Platform.mask, BitVec.and_twoPow, contains]
  split
  · rename_i h
    simp only [h, iff_true, ne_eq]
    intro hz
    have hbit := congrArg (fun v : BitVec 32 => v.getLsbD (P.maskBit m)) hz
    simp only [BitVec.getLsbD_twoPow, BitVec.getLsbD_zero] at hbit
    simp only [Fin.is_lt, decide_true, Bool.and_self, Bool.true_eq_false] at hbit
  · rename_i h
    simp only [h, ne_eq, not_true_eq_false, Bool.false_eq_true]

/-- A single-bit mask contains exactly its own event. -/
theorem contains_mask (m n : ObserverMask) : P.contains (P.mask m) n = true ↔ n = m := by
  simp only [contains, Platform.mask, BitVec.getLsbD_twoPow, Fin.is_lt, decide_true,
    Bool.true_and, decide_eq_true_eq]
  constructor
  · intro h
    exact (P.maskBit_injective (Fin.ext h)).symm
  · rintro rfl
    rfl

/-- No extension library is loaded. -/
def ExtAbsent : Prop :=
  P.onCellularDataConnectStateUpdated = none ∧ P.onSignalInfoUpdated = none ∧
    P.onCellInfoUpdated = none ∧ P.onNetworkStateUpdated = none

/-- `slotSize_` as the constructor computes it. -/
def slotSize : Int :=
  let slotSize := P.simSlotCountMd
  let slotSize :=
    if P.vsimEnabled ∧ slotSize = P.dualSlotCount ∧
        (P.vsimModemCount = P.maxSlotCount ∨ P.vsimModemCount = P.dualSlotCount) then
      P.maxSlotCount
    else slotSize
  if P.simSlotCount > P.dualSlotCount then P.simSlotCount + 1 else slotSize

/-- `VerifySlotId`. -/
def verifySlotId (slotId : Int) : Bool := decide (0 ≤ slotId) && decide (slotId < P.slotSize)

theorem verifySlotId_iff {slotId : Int} :
    P.verifySlotId slotId = true ↔ 0 ≤ slotId ∧ slotId < P.slotSize := by
  simp only [verifySlotId, Bool.and_eq_true, decide_eq_true_eq]

end Platform

private def dualSimMaskBit : ObserverMask → Fin 32
  | .networkState => 0
  | .callState => 2
  | .cellInfo => 3
  | .signalStrengths => 4
  | .simState => 5
  | .dataConnectionState => 6
  | .dataFlow => 7
  | .cfuIndicator => 8
  | .voiceMailMsgIndicator => 9
  | .iccAccount => 10
  | .callStateEx => 11
  | .ccallState => 12
  | .simActiveState => 13
  | .voipCallState => 14

/-- A phone with two SIM slots and no extension library. -/
def Platform.dualSim : Platform where
  SignalInformation := String
  CellInformation := String
  NetworkState := String
  signalToString := id
  networkToString := id
  parcelCopy := id
  str16ToStr8 number := String.ofList (number.map fun c => Char.ofNat c.toNat)
  maskBit := dualSimMaskBit
  maskBit_injective := by
    intro m n h
    cases m <;> cases n <;> first | rfl | exact absurd h (by decide)
  simSlotCount := 2
  simSlotCountMd := 2
  dualSlotCount := 2
  maxSlotCount := 3
  vsimModemCount := 1
  vsimEnabled := false
  telephonyError := -1
  onCellularDataConnectStateUpdated := none
  onSignalInfoUpdated := none
  onCellInfoUpdated := none
  onNetworkStateUpdated := none

theorem Platform.dualSim_extAbsent : Platform.dualSim.ExtAbsent := ⟨rfl, rfl, rfl, rfl⟩

/-- `VoIPCallStateInfo`. -/
structure VoIPCallStateInfo where
  appName : String
  contactName : String
  callType : Int
  callState : Int
  isVoiceAnswerSupported : Bool
  deriving DecidableEq, Repr

/-- A call on an observer, one constructor for each callback it has. -/
inductive Callback (P : Platform)
  | onCallStateUpdated (slotId callState : Int) (phoneNumber : U16String)
  | onCallStateUpdatedEx (slotId callState : Int)
  | onCCallStateUpdated (slotId callState : Int) (number : U16String)
  | onSignalInfoUpdated (slotId : Int) (vec : List (Option P.SignalInformation))
  | onCellInfoUpdated (slotId : Int) (vec : List (Option P.CellInformation))
  | onNetworkStateUpdated (slotId : Int) (networkState : Option P.NetworkState)
  | onSimStateUpdated (slotId type state reason : Int)
  | onCellularDataConnectStateUpdated (slotId dataState networkType : Int)
  | onCellularDataFlowUpdated (slotId flowData : Int)
  | onCfuIndicatorUpdated (slotId : Int) (cfuResult : Bool)
  | onVoiceMailMsgIndicatorUpdated (slotId : Int) (voiceMailMsgResult : Bool)
  | onIccAccountUpdated
  | onSimActiveStateUpdated (slotId : Int) (activeStateResult : Bool)
  | onVoIPStateUpdated (info : VoIPCallStateInfo)

namespace Callback

variable {P : Platform}

/-- The subscription bit that a callback serves. -/
def event : Callback P → ObserverMask
  | onCallStateUpdated .. => .callState
  | onCallStateUpdatedEx .. => .callStateEx
  | onCCallStateUpdated .. => .ccallState
  | onSignalInfoUpdated .. => .signalStrengths
  | onCellInfoUpdated .. => .cellInfo
  | onNetworkStateUpdated .. => .networkState
  | onSimStateUpdated .. => .simState
  | onCellularDataConnectStateUpdated .. => .dataConnectionState
  | onCellularDataFlowUpdated .. => .dataFlow
  | onCfuIndicatorUpdated .. => .cfuIndicator
  | onVoiceMailMsgIndicatorUpdated .. => .voiceMailMsgIndicator
  | onIccAccountUpdated => .iccAccount
  | onSimActiveStateUpdated .. => .simActiveState
  | onVoIPStateUpdated .. => .voipCallState

/-- The slot that a callback names, if its event has slots. -/
def slotId : Callback P → Option Int
  | onCallStateUpdated slotId _ _ => some slotId
  | onCallStateUpdatedEx slotId _ => some slotId
  | onCCallStateUpdated slotId _ _ => some slotId
  | onSignalInfoUpdated slotId _ => some slotId
  | onCellInfoUpdated slotId _ => some slotId
  | onNetworkStateUpdated slotId _ => some slotId
  | onSimStateUpdated slotId _ _ _ => some slotId
  | onCellularDataConnectStateUpdated slotId _ _ => some slotId
  | onCellularDataFlowUpdated slotId _ => some slotId
  | onCfuIndicatorUpdated slotId _ => some slotId
  | onVoiceMailMsgIndicatorUpdated slotId _ => some slotId
  | onIccAccountUpdated => none
  | onSimActiveStateUpdated slotId _ => some slotId
  | onVoIPStateUpdated _ => none

end Callback

/-- The codes that the operations of the service return. -/
inductive ReturnCode
  | telephonySuccess
  | telephonyErrLocalPtrNull
  | telephonyErrIllegalUseOfSystemApi
  | telephonyStateRegistryPermissionDenied
  | telephonyStateRegistrySlodidError
  | telephonyStateRegistryDataNotExist
  | telephonyStateUnregistryDataNotExist
  deriving DecidableEq, Repr

end TelephonyStateRegistry
