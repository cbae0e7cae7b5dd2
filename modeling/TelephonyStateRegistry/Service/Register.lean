import TelephonyStateRegistry.Service.Update

/-!
# Registration, replay and removal

`RegisterStateChange` passes four gates, two of which reject with a success
code, and then looks for the key in the registry. The local record of that scan
is reused afterwards: for a fresh key its eight members are overwritten before
it is stored, for a present key it is the stored record that the replay uses.
-/

namespace TelephonyStateRegistry

open Reactive

variable {P : Platform}

/-- `(mask & bit) != 0 && !answer` for one bit and the answer it asks for. -/
def requires (P : Platform) (mask : BitVec 32) (m : ObserverMask) (answer : Bool) : Bool :=
  if mask &&& P.mask m ≠ 0#32 then answer else true

/-- `CheckCallerIsSystemApp`. -/
def checkCallerIsSystemApp (P : Platform) (env : Env) (mask : BitVec 32) : Bool :=
  requires P mask .cellInfo env.checkCallerIsSystemApp &&
    requires P mask .cfuIndicator env.checkCallerIsSystemApp &&
    requires P mask .voiceMailMsgIndicator env.checkCallerIsSystemApp

/-- `CheckPermission`. -/
def checkPermission (P : Platform) (env : Env) (mask : BitVec 32) : Bool :=
  requires P mask .networkState (env.checkPermission .getNetworkInfo) &&
    requires P mask .cellInfo (env.checkPermission .cellLocation) &&
    requires P mask .ccallState (env.checkPermission .manageCallForDevices) &&
    requires P mask .simActiveState (env.checkPermission .setTelephonyState) &&
    requires P mask .voipCallState (env.checkPermission .manageCallForDevices)

/-- `IsMultiSimsCapabilitySupported`. -/
def isMultiSimsCapabilitySupported (P : Platform) (env : Env) (slotId : Int) : Bool :=
  if slotId < P.maxSlotCount then true
  else if env.getTokenTypeFlag = .native ∨ env.getTokenTypeFlag = .shell then true
  else env.isSystemAppByFullTokenID

/-- The slot range check of a registration. -/
def registrableSlot (P : Platform) (slotId : Int) : Bool :=
  !((decide (slotId > P.maxSlotCount + 1) || decide (slotId < -1)) &&
    slotId != simSlotIdForDefaultConnEvent)

/-- One block of `UpdateData` or `UpdateDataEx`: the callback for one bit, with
every cache read through the inserting subscript. -/
def replayBlock (env : Env) (record : Record) (m : ObserverMask) (c : Caches P) :
    Option (Callback P) × Caches P :=
  let slotId := record.slotId
  match m with
  | .callState =>
    let (phoneNumber, c) := getCallIncomingNumberForSlotId env record slotId c
    (some (.onCallStateUpdated slotId (c.callState.read slotId) phoneNumber),
      { c with callState := c.callState.touch slotId })
  | .signalStrengths =>
    (some (.onSignalInfoUpdated slotId (c.signalInfos.read slotId)),
      { c with signalInfos := c.signalInfos.touch slotId })
  | .networkState =>
    (some (.onNetworkStateUpdated slotId (c.searchNetworkState.read slotId)),
      { c with searchNetworkState := c.searchNetworkState.touch slotId })
  | .cellInfo =>
    (some (.onCellInfoUpdated slotId (c.cellInfos.read slotId)),
      { c with cellInfos := c.cellInfos.touch slotId })
  | .simState =>
    (some (.onSimStateUpdated slotId (c.cardType.read slotId) (c.simState.read slotId)
        (c.simReason.read slotId)),
      { c with
        cardType := c.cardType.touch slotId
        simState := c.simState.touch slotId
        simReason := c.simReason.touch slotId })
  | .dataConnectionState =>
    (some (.onCellularDataConnectStateUpdated slotId (c.cellularDataConnectionState.read slotId)
        (c.cellularDataConnectionNetworkType.read slotId)),
      { c with
        cellularDataConnectionState := c.cellularDataConnectionState.touch slotId
        cellularDataConnectionNetworkType := c.cellularDataConnectionNetworkType.touch slotId })
  | .dataFlow =>
    (some (.onCellularDataFlowUpdated slotId (c.cellularDataFlow.read slotId)),
      { c with cellularDataFlow := c.cellularDataFlow.touch slotId })
  | .cfuIndicator =>
    (some (.onCfuIndicatorUpdated slotId (c.cfuResult.read slotId)),
      { c with cfuResult := c.cfuResult.touch slotId })
  | .voiceMailMsgIndicator =>
    (some (.onVoiceMailMsgIndicatorUpdated slotId (c.voiceMailMsgResult.read slotId)),
      { c with voiceMailMsgResult := c.voiceMailMsgResult.touch slotId })
  | .iccAccount => (some .onIccAccountUpdated, c)
  | .callStateEx =>
    (some (.onCallStateUpdatedEx slotId (c.callState.read slotId)),
      { c with callState := c.callState.touch slotId })
  | .ccallState =>
    if record.canManageCallForDevices env then
      let callState := c.callState.read slotId
      -- a subscriber is told of an idle line where the cache knows nothing
      let callState := if callState = callStatusUnknown then callStatusIdle else callState
      (some (.onCCallStateUpdated slotId callState (c.callIncomingNumber.read slotId)),
        { c with
          callState := c.callState.touch slotId
          callIncomingNumber := c.callIncomingNumber.touch slotId })
    else (none, c)
  | .simActiveState =>
    (some (.onSimActiveStateUpdated slotId (c.simActiveResult.read slotId)),
      { c with simActiveResult := c.simActiveResult.touch slotId })
  -- there is no block for this bit
  | .voipCallState => (none, c)

/-- A sequence of blocks, each behind the test of its bit. -/
def replayBlocks (env : Env) (record : Record) :
    List ObserverMask → Caches P → List (Callback P) × Caches P
  | [], c => ([], c)
  | m :: ms, c =>
    if record.mask &&& P.mask m ≠ 0#32 then
      let (callback, c) := replayBlock env record m c
      let (callbacks, c) := replayBlocks env record ms c
      (callback.toList ++ callbacks, c)
    else replayBlocks env record ms c

/-- The bits of `UpdateDataEx`, in the order of its blocks. -/
def updateDataExOrder : List ObserverMask := [.callStateEx, .ccallState, .simActiveState]

/-- The bits of `UpdateData`, in the order of its blocks. -/
def updateDataOrder : List ObserverMask :=
  [.callState, .signalStrengths, .networkState, .cellInfo, .simState, .dataConnectionState,
    .dataFlow, .cfuIndicator, .voiceMailMsgIndicator, .iccAccount]

/-- `UpdateDataEx`. -/
def updateDataEx (env : Env) (record : Record) (c : Caches P) : List (Callback P) × Caches P :=
  if record.telephonyObserver = none then ([], c)
  else replayBlocks env record updateDataExOrder c

/-- `UpdateData`. -/
def updateData (env : Env) (record : Record) (c : Caches P) : List (Callback P) × Caches P :=
  if record.telephonyObserver = none then ([], c)
  else
    let (callbacks, c) := replayBlocks env record updateDataOrder c
    let (callbacksEx, c) := updateDataEx env record c
    (callbacks ++ callbacksEx, c)

/-- The arguments of `RegisterStateChange`. -/
structure Registration where
  telephonyObserver : Option Observer
  slotId : Int
  mask : BitVec 32
  bundleName : String
  isUpdate : Bool
  pid : Int
  uid : Int
  tokenId : Int
  appIdentifier : String
  deriving DecidableEq, Repr

/-- A registration with replay of one observer for one event, by a fixed process. -/
def Registration.single (P : Platform) (o : Observer) (slotId : Int) (m : ObserverMask) :
    Registration where
  telephonyObserver := some o
  slotId
  mask := P.mask m
  bundleName := "app"
  isUpdate := true
  pid := 1
  uid := 1
  tokenId := 1
  appIdentifier := ""

/-- The key that a registration asks for. -/
def Registration.key (r : Registration) : Key := ⟨r.slotId, r.mask, r.tokenId, r.pid⟩

/-- `record.slotId_ == slotId && record.mask_ == mask && record.tokenId_ == tokenId &&
record.pid_ == pid`. -/
def Record.matchesKey (record : Record) (k : Key) : Bool :=
  record.slotId == k.slotId && record.mask == k.mask && record.tokenId == k.tokenId &&
    record.pid == k.pid

/-- The scan of `RegisterStateChange`: the local record holds the last record looked at. -/
def scanRecords (k : Key) : Record → List Record → Record × Bool
  | record, [] => (record, false)
  | _, record :: records =>
    if record.matchesKey k then (record, true) else scanRecords k record records

/-- `RegisterStateChange`. -/
def registerStateChange (env : Env) (r : Registration) (s : Service P) :
    Service P × Output P :=
  if checkCallerIsSystemApp P env r.mask = false then
    (s, .code .telephonyErrIllegalUseOfSystemApi)
  else if checkPermission P env r.mask = false then
    (s, .code .telephonyStateRegistryPermissionDenied)
  else if isMultiSimsCapabilitySupported P env r.slotId = false then
    (s, .code .telephonySuccess)
  else if registrableSlot P r.slotId = false then
    (s, .code .telephonySuccess)
  else
    let (record, isExist) := scanRecords r.key {} s.stateRecords
    let (record, stateRecords) :=
      if isExist then (record, s.stateRecords)
      else
        let record := { record with
          pid := r.pid
          uid := r.uid
          slotId := r.slotId
          mask := r.mask
          bundleName := r.bundleName
          tokenId := r.tokenId
          appIdentifier := r.appIdentifier
          telephonyObserver := r.telephonyObserver }
        (record, s.stateRecords ++ [record])
    if r.isUpdate then
      let (callbacks, caches) := updateData env record s.caches
      (⟨caches, stateRecords⟩, ⟨.telephonySuccess, callbacks.map (Delivery.mk record), []⟩)
    else ({ s with stateRecords }, .code .telephonySuccess)

/-- `UnregisterStateChange`: the loop erases the first match and stops. -/
def unregisterStateChange (env : Env) (k : Key) (s : Service P) : Service P × Output P :=
  if checkCallerIsSystemApp P env k.mask = false then
    (s, .code .telephonyErrIllegalUseOfSystemApi)
  else if checkPermission P env k.mask = false then
    (s, .code .telephonyStateRegistryPermissionDenied)
  else
    ({ s with stateRecords := s.stateRecords.eraseP fun record => record.matchesKey k },
      .code (if s.stateRecords.any fun record => record.matchesKey k then .telephonySuccess
        else .telephonyStateUnregistryDataNotExist))

/-- The search loop of a `Get*` function over its own map. -/
def getFrom (P : Platform) (m : KeyMap Int Int) (slotId : Int) : Int :=
  match m.find? slotId with
  | some value => value
  | none => P.telephonyError

/-- `GetSimState`. -/
def getSimState (s : Service P) (slotId : Int) : Int := getFrom P s.caches.simState slotId

/-- `GetCallState`. -/
def getCallState (s : Service P) (slotId : Int) : Int := getFrom P s.caches.callState slotId

/-- `GetCardType`. -/
def getCardType (s : Service P) (slotId : Int) : Int := getFrom P s.caches.cardType slotId

/-- `GetCellularDataConnectionState`. -/
def getCellularDataConnectionState (s : Service P) (slotId : Int) : Int :=
  getFrom P s.caches.cellularDataConnectionState slotId

/-- `GetCellularDataFlow`. -/
def getCellularDataFlow (s : Service P) (slotId : Int) : Int :=
  getFrom P s.caches.cellularDataFlow slotId

/-- `GetCellularDataConnectionNetworkType`. -/
def getCellularDataConnectionNetworkType (s : Service P) (slotId : Int) : Int :=
  getFrom P s.caches.cellularDataConnectionNetworkType slotId

/-- `GetLockReason`. -/
def getLockReason (s : Service P) (slotId : Int) : Int := getFrom P s.caches.simReason slotId

end TelephonyStateRegistry
