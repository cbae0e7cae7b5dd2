import TelephonyStateRegistry.Client.AniDispatch

/-!
# The values that ArkTS static functions are given

The observer copies a payload into a record of numbers, and the bridge makes enumerators of
the numbers. A number that no arm of a conversion names becomes an enumerator of its own.
-/

namespace TelephonyStateRegistry

variable {P : Platform}

namespace Ani

/-- A conversion from numbers: its arms in order, and what every other number becomes. -/
def convert {α : Type} (arms : List (Int × α)) (otherwise : α) (value : Int) : α :=
  ((arms.find? fun arm => arm.1 = value).map Prod.snd).getD otherwise

/-- `DataFlowType`. -/
inductive DataFlowType
  | none
  | down
  | up
  | upDown
  | dormant
  deriving DecidableEq, Repr

/-- The number of a `DataFlowType`. -/
def DataFlowType.toInt32 : DataFlowType → Int
  | none => 0
  | down => 1
  | up => 2
  | upDown => 3
  | dormant => 4

/-- `DataFlowType::from`. -/
def dataFlowTypeFrom : Int → DataFlowType :=
  convert [(0, .none), (1, .down), (2, .up), (3, .upDown), (4, .dormant)] .none

/-- `SimState`. -/
inductive SimState
  | unknown
  | notPresent
  | locked
  | notReady
  | ready
  | loaded
  deriving DecidableEq, Repr

/-- The number of a `SimState`. -/
def SimState.toInt32 : SimState → Int
  | unknown => 0
  | notPresent => 1
  | locked => 2
  | notReady => 3
  | ready => 4
  | loaded => 5

/-- `SimState::from`. -/
def simStateFrom : Int → SimState :=
  convert [(0, .unknown), (1, .notPresent), (2, .locked), (3, .notReady), (4, .ready),
    (5, .loaded)] .unknown

/-- `LockReason`. -/
inductive LockReason
  | simNone
  | simPin
  | simPuk
  | simPnPin
  | simPnPuk
  | simPuPin
  | simPuPuk
  | simPpPin
  | simPpPuk
  | simPcPin
  | simPcPuk
  | simSimPin
  | simSimPuk
  deriving DecidableEq, Repr

/-- The number of a `LockReason`. -/
def LockReason.toInt32 : LockReason → Int
  | simNone => 0
  | simPin => 1
  | simPuk => 2
  | simPnPin => 3
  | simPnPuk => 4
  | simPuPin => 5
  | simPuPuk => 6
  | simPpPin => 7
  | simPpPuk => 8
  | simPcPin => 9
  | simPcPuk => 10
  | simSimPin => 11
  | simSimPuk => 12

/-- `LockReason::from`. -/
def lockReasonFrom : Int → LockReason :=
  convert [(0, .simNone), (1, .simPin), (2, .simPuk), (3, .simPnPin), (4, .simPnPuk),
    (5, .simPuPin), (6, .simPuPuk), (7, .simPpPin), (8, .simPpPuk), (9, .simPcPin),
    (10, .simPcPuk), (11, .simSimPin), (12, .simSimPuk)] .simNone

/-- `CardType`. -/
inductive CardType
  | unknownCard
  | singleModeSimCard
  | singleModeUsimCard
  | singleModeRuimCard
  | dualModeCgCard
  | ctNationalRoamingCard
  | cuDualModeCard
  | dualModeTelecomLteCard
  | dualModeUgCard
  | singleModeIsimCard
  deriving DecidableEq, Repr

/-- The number of a `CardType`. -/
def CardType.toInt32 : CardType → Int
  | unknownCard => -1
  | singleModeSimCard => 10
  | singleModeUsimCard => 20
  | singleModeRuimCard => 30
  | dualModeCgCard => 40
  | ctNationalRoamingCard => 41
  | cuDualModeCard => 42
  | dualModeTelecomLteCard => 43
  | dualModeUgCard => 50
  | singleModeIsimCard => 60

/-- `CardType::from`. -/
def cardTypeFrom : Int → CardType :=
  convert [(-1, .unknownCard), (10, .singleModeSimCard), (20, .singleModeUsimCard),
    (30, .singleModeRuimCard), (40, .dualModeCgCard), (41, .ctNationalRoamingCard),
    (42, .cuDualModeCard), (43, .dualModeTelecomLteCard), (50, .dualModeUgCard),
    (60, .singleModeIsimCard)] .unknownCard

/-- `NetworkType`. -/
inductive NetworkType
  | unknown
  | gsm
  | cdma
  | wcdma
  | tdscdma
  | lte
  | nr
  deriving DecidableEq, Repr

/-- The number of a `NetworkType`. -/
def NetworkType.toInt32 : NetworkType → Int
  | unknown => 0
  | gsm => 1
  | cdma => 2
  | wcdma => 3
  | tdscdma => 4
  | lte => 5
  | nr => 6

/-- `NetworkType::from`. -/
def networkTypeFrom : Int → NetworkType :=
  convert [(0, .unknown), (1, .gsm), (2, .cdma), (3, .wcdma), (4, .tdscdma), (5, .lte), (6, .nr)]
    .unknown

/-- `DataConnectState`. -/
inductive DataConnectState
  | unknown
  | disconnected
  | connecting
  | connected
  | suspended
  deriving DecidableEq, Repr

/-- The number of a `DataConnectState`. -/
def DataConnectState.toInt32 : DataConnectState → Int
  | unknown => -1
  | disconnected => 0
  | connecting => 1
  | connected => 2
  | suspended => 3

/-- `DataConnectState::from`, which has no arm for the unknown state. -/
def dataConnectStateFrom : Int → DataConnectState :=
  convert [(0, .disconnected), (1, .connecting), (2, .connected), (3, .suspended)] .unknown

/-- `RadioTechnology`. -/
inductive RadioTechnology
  | unknown
  | gsm
  | oneXrtt
  | wcdma
  | hspa
  | hspap
  | tdScdma
  | evdo
  | ehrpd
  | lte
  | lteCa
  | iwlan
  | nr
  deriving DecidableEq, Repr

/-- The number of a `RadioTechnology`. -/
def RadioTechnology.toInt32 : RadioTechnology → Int
  | unknown => 0
  | gsm => 1
  | oneXrtt => 2
  | wcdma => 3
  | hspa => 4
  | hspap => 5
  | tdScdma => 6
  | evdo => 7
  | ehrpd => 8
  | lte => 9
  | lteCa => 10
  | iwlan => 11
  | nr => 12

/-- `RadioTechnology::from`. -/
def radioTechnologyFrom : Int → RadioTechnology :=
  convert [(0, .unknown), (1, .gsm), (2, .oneXrtt), (3, .wcdma), (4, .hspa), (5, .hspap),
    (6, .tdScdma), (7, .evdo), (8, .ehrpd), (9, .lte), (10, .lteCa), (11, .iwlan), (12, .nr)]
    .unknown

/-- `RegState`. -/
inductive RegState
  | noService
  | inService
  | emergencyCallOnly
  | powerOff
  deriving DecidableEq, Repr

/-- The number of a `RegState`. -/
def RegState.toInt32 : RegState → Int
  | noService => 0
  | inService => 1
  | emergencyCallOnly => 2
  | powerOff => 3

/-- `RegState::from`. -/
def regStateFrom : Int → RegState :=
  convert [(0, .noService), (1, .inService), (2, .emergencyCallOnly), (3, .powerOff)] .noService

/-- `NsaState`. -/
inductive NsaState
  | notSupport
  | noDetect
  | connectedDetect
  | idleDetect
  | dualConnected
  | saAttached
  deriving DecidableEq, Repr

/-- The number of an `NsaState`. -/
def NsaState.toInt32 : NsaState → Int
  | notSupport => 1
  | noDetect => 2
  | connectedDetect => 3
  | idleDetect => 4
  | dualConnected => 5
  | saAttached => 6

/-- `NsaState::from`. -/
def nsaStateFrom : Int → NsaState :=
  convert [(1, .notSupport), (2, .noDetect), (3, .connectedDetect), (4, .idleDetect),
    (5, .dualConnected), (6, .saAttached)] .notSupport

/-- `SimStateData`. -/
structure SimStateData where
  cardType : CardType
  state : SimState
  reason : LockReason
  deriving DecidableEq, Repr

/-- `SignalInformation`. -/
structure SignalInformation where
  signalType : NetworkType
  signalLevel : Int
  dBm : Int
  deriving DecidableEq, Repr

/-- `SignalInformation::new`. -/
def SignalInformation.new (signalType signalLevel dBm : Int) : SignalInformation where
  signalType := networkTypeFrom signalType
  signalLevel := signalLevel
  dBm := dBm

/-- `CellInformation`. -/
structure CellInformation where
  networkType : NetworkType
  signalInformation : SignalInformation
  deriving DecidableEq, Repr

/-- `CellInformation::new`. -/
def CellInformation.new (networkType : Int) (signalInformation : SignalInformation) :
    CellInformation where
  networkType := networkTypeFrom networkType
  signalInformation := signalInformation

/-- `DataConnectionStateInfo`. -/
structure DataConnectionStateInfo where
  state : DataConnectState
  network : RadioTechnology
  deriving DecidableEq, Repr

/-- `DataConnectionStateInfo::new`. -/
def DataConnectionStateInfo.new (state network : Int) : DataConnectionStateInfo where
  state := dataConnectStateFrom state
  network := radioTechnologyFrom network

/-- `NetworkState`, which has no field for carrier aggregation. -/
structure NetworkState where
  longOperatorName : String
  shortOperatorName : String
  plmnNumeric : String
  isRoaming : Bool
  regState : RegState
  cfgTech : RadioTechnology
  nsaState : NsaState
  isEmergency : Bool
  deriving DecidableEq, Repr

/-- `CCallStateInfo`. -/
structure CCallStateInfo where
  state : Int
  teleNumber : String
  deriving DecidableEq, Repr

/-- `CCallStateInfo::from`. -/
def ccallStateInfoFrom (callState : CallStateAni) : CCallStateInfo where
  state := callState.state
  teleNumber := callState.teleNumber

/-- `SignalInformationAni`. -/
structure SignalInformationAni where
  signalType : Int
  signalLevel : Int
  dBm : Int

/-- `SignalInformation::from`. -/
def signalInformationFrom (value : SignalInformationAni) : SignalInformation :=
  .new value.signalType value.signalLevel value.dBm

/-- `CellInformationAni`. -/
structure CellInformationAni where
  networkType : Int
  signalInformation : SignalInformationAni

/-- `CellInformation::from`. -/
def cellInformationFrom (value : CellInformationAni) : CellInformation :=
  .new value.networkType (signalInformationFrom value.signalInformation)

/-- `NetworkStateAni`. -/
structure NetworkStateAni where
  longOperatorName : String
  shortOperatorName : String
  plmnNumeric : String
  isRoaming : Bool
  regState : Int
  cfgTech : Int
  nsaState : Int
  isEmergency : Bool

/-- `NetworkState::from`. -/
def networkStateFrom (value : NetworkStateAni) : NetworkState where
  longOperatorName := value.longOperatorName
  shortOperatorName := value.shortOperatorName
  plmnNumeric := value.plmnNumeric
  isRoaming := value.isRoaming
  regState := regStateFrom value.regState
  cfgTech := radioTechnologyFrom value.cfgTech
  nsaState := nsaStateFrom value.nsaState
  isEmergency := value.isEmergency

/-- What `AniTelephonyObserver` reads from a `CellInformation`. -/
structure CellPayloads (P : Platform) where
  getNetworkType : P.CellInformation → Int
  getSignalLevel : P.CellInformation → Int
  getSignalIntensity : P.CellInformation → Int

/-- An element of the list of `OnSignalInfoUpdated`. -/
def signalInformationAni (K : Payloads P) (infoItem : P.SignalInformation) :
    SignalInformationAni where
  signalType := K.getNetworkType infoItem
  signalLevel := K.getSignalLevel infoItem
  dBm := K.getSignalIntensity infoItem

/-- An element of the list of `OnCellInfoUpdated`. -/
def cellInformationAni (C : CellPayloads P) (infoItem : P.CellInformation) :
    CellInformationAni where
  networkType := C.getNetworkType infoItem
  signalInformation :=
    ⟨C.getNetworkType infoItem, C.getSignalLevel infoItem, C.getSignalIntensity infoItem⟩

/-- The record of `OnNetworkStateUpdated`. -/
def networkStateAni (K : Payloads P) (networkState : P.NetworkState) : NetworkStateAni where
  longOperatorName := K.getLongOperatorName networkState
  shortOperatorName := K.getShortOperatorName networkState
  plmnNumeric := K.getPlmnNumeric networkState
  isRoaming := K.isRoaming networkState
  regState := K.getRegStatus networkState
  cfgTech := K.getCfgTech networkState
  nsaState := K.getNrState networkState
  isEmergency := K.isEmergency networkState

end Ani

end TelephonyStateRegistry
