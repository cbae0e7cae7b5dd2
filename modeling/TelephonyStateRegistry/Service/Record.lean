import Mathlib.Data.BitVec
import Mathlib.Logic.Function.Basic

/-!
# Subscribers and the answers of the permission services

`Record` is one entry of `stateRecords_`. The access-token and permission kits
lie outside the repository: what they answer while one call is served is the
environment of that call.
-/

namespace TelephonyStateRegistry

/-- The permissions named by the service. -/
inductive Permission
  | setTelephonyState
  | getTelephonyState
  | getNetworkInfo
  | cellLocation
  | manageCallForDevices
  | readCallLog
  deriving DecidableEq, Repr

/-- The two answers of `AccessTokenKit::VerifyAccessToken`. -/
inductive PermissionState
  | granted
  | denied
  deriving DecidableEq, Repr

/-- `ATokenTypeEnum`, the kind of the calling token. -/
inductive TokenType
  | invalid
  | hap
  | native
  | shell
  deriving DecidableEq, Repr

/-- What the permission services answer during one call: four questions about
the caller, and one about the token stored in a record. -/
structure Env where
  /-- `TelephonyPermission::CheckPermission`. -/
  checkPermission : Permission → Bool
  /-- `TelephonyPermission::CheckCallerIsSystemApp`. -/
  checkCallerIsSystemApp : Bool
  /-- `AccessTokenKit::GetTokenTypeFlag` on the calling token. -/
  getTokenTypeFlag : TokenType
  /-- `TokenIdKit::IsSystemAppByFullTokenID` on the full calling token. -/
  isSystemAppByFullTokenID : Bool
  /-- `AccessTokenKit::VerifyAccessToken`. -/
  verifyAccessToken : Int → Permission → PermissionState

/-- A native process that holds every permission, and grants every token. -/
def Env.native : Env where
  checkPermission _ := true
  checkCallerIsSystemApp := true
  getTokenTypeFlag := .native
  isSystemAppByFullTokenID := true
  verifyAccessToken _ _ := .granted

/-- An ordinary application without any permission, while every token is denied. -/
def Env.application : Env where
  checkPermission _ := false
  checkCallerIsSystemApp := false
  getTokenTypeFlag := .hap
  isSystemAppByFullTokenID := false
  verifyAccessToken _ _ := .denied

/-- The subscription bits `OBSERVER_MASK_*`. -/
inductive ObserverMask
  | networkState
  | callState
  | cellInfo
  | signalStrengths
  | simState
  | dataConnectionState
  | dataFlow
  | cfuIndicator
  | voiceMailMsgIndicator
  | iccAccount
  | callStateEx
  | ccallState
  | simActiveState
  | voipCallState
  deriving DecidableEq, Repr

/-- The object behind a non-null `sptr<TelephonyObserverBroker>`. -/
abbrev Observer := Nat

/-- `TelephonyStateRegistryRecord`, with the defaults of its members. -/
structure Record where
  bundleName : String := ""
  tokenId : Int := 0
  uid : Int := 0
  pid : Int := 0
  mask : BitVec 32 := 0#32
  slotId : Int := 0
  appIdentifier : String := ""
  telephonyObserver : Option Observer := none
  deriving DecidableEq, Repr

namespace Record

/-- `IsCanReadCallHistory`. -/
def isCanReadCallHistory (record : Record) (env : Env) : Bool :=
  if env.verifyAccessToken record.tokenId .readCallLog = .denied then false else true

/-- `CanManageCallForDevices`. -/
def canManageCallForDevices (record : Record) (env : Env) : Bool :=
  if env.verifyAccessToken record.tokenId .manageCallForDevices = .denied then false else true

/-- `IsExistStateListener`. -/
def isExistStateListener (record : Record) (mask : BitVec 32) : Bool :=
  record.telephonyObserver.isSome && (record.mask &&& mask != 0#32)

theorem isExistStateListener_iff {record : Record} {mask : BitVec 32} :
    record.isExistStateListener mask = true ↔
      record.telephonyObserver ≠ none ∧ record.mask &&& mask ≠ 0#32 := by
  simp only [isExistStateListener, Bool.and_eq_true, Option.isSome_iff_ne_none, bne_iff_ne]

end Record

/-- The four fields that identify a registration. -/
structure Key where
  slotId : Int
  mask : BitVec 32
  tokenId : Int
  pid : Int
  deriving DecidableEq, Repr

/-- The key under which a record is found again. -/
def Record.key (record : Record) : Key := ⟨record.slotId, record.mask, record.tokenId, record.pid⟩

end TelephonyStateRegistry
