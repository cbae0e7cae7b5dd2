import TelephonyStateRegistry.Service.State

/-!
# The update operations

Every `Update*` function is a check of the slot and of the caller, an exclusive
section that writes the cache, and a shared section that traverses the registry
and publishes the common events. The three parts are kept apart, since other
calls may run between the two locked sections.
-/

namespace TelephonyStateRegistry

open Reactive

variable {P : Platform}

/-- `PublishCommonEvent`: only the network state event restricts its subscribers. -/
def publishCommonEvent (action : Action) (params : List (String × WantParam)) (eventCode : Int)
    (eventData : String) : CommonEvent where
  action
  params
  code := some eventCode
  data := some eventData
  subscriberPermissions := if action = .networkStateChanged then [.getNetworkInfo] else []

/-- `SendCallStateChanged`. -/
def sendCallStateChanged (slotId state : Int) : CommonEvent where
  action := .callStateChanged
  params := [("slotId", .int slotId), ("state", .int state)]
  code := none
  data := none
  subscriberPermissions := [.getTelephonyState]

/-- `SendCallStateChangedAsUserMultiplePermission`. -/
def sendCallStateChangedAsUserMultiplePermission (P : Platform) (slotId state : Int)
    (number : U16String) : CommonEvent where
  action := .callStateChanged
  params := [("slotId", .int slotId), ("state", .int state),
    ("number", .string (P.str16ToStr8 number))]
  code := none
  data := none
  subscriberPermissions := [.getTelephonyState, .readCallLog]

/-- `SendCellularDataConnectStateChanged`. -/
def sendCellularDataConnectStateChanged (slotId dataState networkType : Int) : CommonEvent :=
  publishCommonEvent .cellularDataStateChanged
    [("slotId", .int slotId), ("dataState", .int dataState), ("networkType", .int networkType)]
    1 "connectStateChanged"

/-- `SendSimStateChanged`. -/
def sendSimStateChanged (slotId type state reason : Int) : CommonEvent :=
  publishCommonEvent .simStateChanged
    [("slotId", .int slotId), ("cardType", .int type), ("reason", .int reason),
      ("state", .int state)] 1 "simStateChanged"

/-- `SendSignalInfoChanged`: null elements of the list are left out. -/
def sendSignalInfoChanged (P : Platform) (slotId : Int)
    (vec : List (Option P.SignalInformation)) : CommonEvent :=
  publishCommonEvent .signalInfoChanged
    [("slotId", .int slotId),
      ("signalInfos", .strings (vec.filterMap fun signal => signal.map P.signalToString))]
    1 "signalInfoChanged"

/-- `SendNetworkStateChanged`. -/
def sendNetworkStateChanged (P : Platform) (slotId : Int)
    (networkState : Option P.NetworkState) : CommonEvent :=
  publishCommonEvent .networkStateChanged
    (("slotId", .int slotId) :: (networkState.map fun state =>
      ("networkState", WantParam.string (P.networkToString state))).toList)
    1 "networkStateChanged"

/-- An update function, cut at its lock operations. -/
structure LockedUpdate (P : Platform) where
  /-- The checks before the first lock, with the code of the one that fails. -/
  guard : Env → Option ReturnCode
  /-- The writes under the exclusive lock. -/
  write : Caches P → Caches P
  /-- The traversal under the shared lock, and the common events after it. -/
  notify : Env → Service P → Service P × Output P

/-- The exclusive section acts on the caches alone. -/
def LockedUpdate.writeTo (u : LockedUpdate P) (s : Service P) : Service P :=
  { s with caches := u.write s.caches }

/-- The whole function when no other call intervenes. -/
def LockedUpdate.run (u : LockedUpdate P) (env : Env) (s : Service P) : Service P × Output P :=
  match u.guard env with
  | some result => (s, .code result)
  | none => u.notify env (u.writeTo s)

/-- The permission check that opens every update. -/
def setTelephonyStateGuard (env : Env) : Option ReturnCode :=
  if env.checkPermission .setTelephonyState then none
  else some .telephonyStateRegistryPermissionDenied

/-- The slot check and the permission check of the slot-based updates. -/
def slotGuard (P : Platform) (slotId : Int) (env : Env) : Option ReturnCode :=
  if P.verifySlotId slotId then setTelephonyStateGuard env
  else some .telephonyStateRegistrySlodidError

/-- The loop body that calls the observer of every record that listens for an
event under a matching slot. -/
def listenerBody (P : Platform) (m : ObserverMask) (slotMatches : Int → Bool)
    (callback : Record → Callback P) (record : Record) (c : Caches P) : LoopStep P × Caches P :=
  if record.isExistStateListener (P.mask m) ∧ slotMatches record.slotId ∧
      record.telephonyObserver ≠ none then
    (.call (callback record), c)
  else (.skip, c)

/-- `record.slotId_ == slotId`. -/
def sameSlot (slotId recordSlot : Int) : Bool := recordSlot == slotId

/-- `record.slotId_ == slotId || record.slotId_ == SIM_SLOT_ID_FOR_DEFAULT_CONN_EVENT`. -/
def sameOrAllSlots (slotId recordSlot : Int) : Bool :=
  recordSlot == slotId || recordSlot == simSlotIdForDefaultConnEvent

/-- `UpdateCellularDataConnectState`. -/
def updateCellularDataConnectState (slotId dataState networkType : Int) : LockedUpdate P where
  guard := slotGuard P slotId
  write c := { c with
    cellularDataConnectionState := c.cellularDataConnectionState.assign slotId dataState
    cellularDataConnectionNetworkType :=
      c.cellularDataConnectionNetworkType.assign slotId networkType }
  notify _ := notifyRecords
    (listenerBody P .dataConnectionState (sameOrAllSlots slotId) fun record =>
      match P.onCellularDataConnectStateUpdated with
      | some hook =>
        .onCellularDataConnectStateUpdated slotId dataState (hook slotId record networkType)
      | none => .onCellularDataConnectStateUpdated slotId dataState networkType)
    [sendCellularDataConnectStateChanged slotId dataState networkType]

/-- `UpdateCellularDataFlow`. -/
def updateCellularDataFlow (slotId flowData : Int) : LockedUpdate P where
  guard := slotGuard P slotId
  write c := { c with cellularDataFlow := c.cellularDataFlow.assign slotId flowData }
  notify _ := notifyRecords
    (listenerBody P .dataFlow (sameOrAllSlots slotId) fun _ =>
      .onCellularDataFlowUpdated slotId flowData) []

/-- The loop body of `UpdateCallState`. -/
def callStateBody (env : Env) (callState : Int) (number : U16String) (record : Record)
    (c : Caches P) : LoopStep P × Caches P :=
  if record.isExistStateListener (P.mask .callState) ∧ record.slotId = -1 ∧
      record.telephonyObserver ≠ none then
    let phoneNumber := if record.isCanReadCallHistory env then number else []
    (.call (.onCallStateUpdated record.slotId callState phoneNumber), c)
  else if record.isExistStateListener (P.mask .callStateEx) ∧ record.slotId = -1 ∧
      record.telephonyObserver ≠ none then
    (.call (.onCallStateUpdatedEx record.slotId callState), c)
  else if record.isExistStateListener (P.mask .ccallState) ∧ record.slotId = -1 ∧
      record.telephonyObserver ≠ none then
    if record.canManageCallForDevices env then
      (.call (.onCCallStateUpdated record.slotId callState number), c)
    else (.skip, c)
  else (.skip, c)

/-- `UpdateCallState`. -/
def updateCallState (callState : Int) (number : U16String) : LockedUpdate P where
  guard := setTelephonyStateGuard
  write c := { c with
    callState := c.callState.assign (-1) callState
    callIncomingNumber := c.callIncomingNumber.assign (-1) number }
  notify env := notifyRecords (callStateBody env callState number)
    [sendCallStateChanged (-1) callState,
      sendCallStateChangedAsUserMultiplePermission P (-1) callState number]

/-- `GetCallIncomingNumberForSlotId`: the number comes from the cache, through the
inserting subscript, and only for a subscriber who may read the call log. -/
def getCallIncomingNumberForSlotId (env : Env) (record : Record) (slotId : Int) (c : Caches P) :
    U16String × Caches P :=
  if record.isCanReadCallHistory env then
    (c.callIncomingNumber.read slotId,
      { c with callIncomingNumber := c.callIncomingNumber.touch slotId })
  else ([], c)

/-- The loop body of `UpdateCallStateForSlotId`. -/
def callStateForSlotIdBody (env : Env) (slotId callState : Int) (number : U16String)
    (record : Record) (c : Caches P) : LoopStep P × Caches P :=
  if record.isExistStateListener (P.mask .callState) ∧ record.slotId = slotId ∧
      record.telephonyObserver ≠ none then
    let (phoneNumber, c) := getCallIncomingNumberForSlotId env record slotId c
    (.call (.onCallStateUpdated slotId callState phoneNumber), c)
  else if record.isExistStateListener (P.mask .callStateEx) ∧ record.slotId = slotId ∧
      record.telephonyObserver ≠ none then
    (.call (.onCallStateUpdatedEx slotId callState), c)
  else if record.isExistStateListener (P.mask .ccallState) ∧ record.slotId = slotId ∧
      record.telephonyObserver ≠ none then
    if record.canManageCallForDevices env then
      (.call (.onCCallStateUpdated record.slotId callState number), c)
    else (.skip, c)
  else (.skip, c)

/-- `UpdateCallStateForSlotId`. -/
def updateCallStateForSlotId (slotId callState : Int) (number : U16String) : LockedUpdate P where
  guard := slotGuard P slotId
  write c := { c with
    callState := c.callState.assign slotId callState
    callIncomingNumber := c.callIncomingNumber.assign slotId number }
  notify env := notifyRecords (callStateForSlotIdBody env slotId callState number)
    [sendCallStateChanged slotId callState,
      sendCallStateChangedAsUserMultiplePermission P slotId callState number]

/-- `UpdateSimState`. -/
def updateSimState (slotId type state reason : Int) : LockedUpdate P where
  guard := slotGuard P slotId
  write c := { c with
    simState := c.simState.assign slotId state
    simReason := c.simReason.assign slotId reason
    cardType := c.cardType.assign slotId type }
  notify _ := notifyRecords
    (listenerBody P .simState (sameSlot slotId) fun _ =>
      .onSimStateUpdated slotId type state reason)
    [sendSimStateChanged slotId type state reason]

/-- `UpdateSignalInfo`. -/
def updateSignalInfo (slotId : Int) (vec : List (Option P.SignalInformation)) :
    LockedUpdate P where
  guard := slotGuard P slotId
  write c := { c with signalInfos := c.signalInfos.assign slotId vec }
  notify _ := notifyRecords
    (listenerBody P .signalStrengths (sameSlot slotId) fun record =>
      match P.onSignalInfoUpdated with
      | some hook => .onSignalInfoUpdated slotId (hook slotId record vec vec)
      | none => .onSignalInfoUpdated slotId vec)
    [sendSignalInfoChanged P slotId vec]

/-- The loop body of `UpdateCellInfo`, which gives up at a null observer. -/
def cellInfoBody (slotId : Int) (vec : List (Option P.CellInformation)) (record : Record)
    (c : Caches P) : LoopStep P × Caches P :=
  if record.isExistStateListener (P.mask .cellInfo) ∧ record.slotId = slotId then
    if record.telephonyObserver = none then (.abort .telephonyErrLocalPtrNull, c)
    else
      match P.onCellInfoUpdated with
      | some hook => (.call (.onCellInfoUpdated slotId (hook slotId record vec vec)), c)
      | none => (.call (.onCellInfoUpdated slotId vec), c)
  else (.skip, c)

/-- `UpdateCellInfo`. -/
def updateCellInfo (slotId : Int) (vec : List (Option P.CellInformation)) : LockedUpdate P where
  guard env :=
    if P.verifySlotId slotId then
      if env.checkPermission .setTelephonyState ∧ env.checkPermission .cellLocation then none
      else some .telephonyStateRegistryPermissionDenied
    else some .telephonyStateRegistrySlodidError
  write c := { c with cellInfos := c.cellInfos.assign slotId vec }
  notify _ := notifyRecords (cellInfoBody slotId vec) []

/-- The loop body of `UpdateNetworkState`. -/
def networkStateBody (slotId : Int) (networkState : Option P.NetworkState) (record : Record)
    (c : Caches P) : LoopStep P × Caches P :=
  if record.isExistStateListener (P.mask .networkState) ∧ record.slotId = slotId ∧
      record.telephonyObserver ≠ none ∧ networkState.isSome then
    match P.onNetworkStateUpdated with
    | some hook =>
      let networkStateExt := networkState.map P.parcelCopy
      (.call (.onNetworkStateUpdated slotId (hook slotId record networkStateExt networkState)), c)
    | none => (.call (.onNetworkStateUpdated slotId networkState), c)
  else (.skip, c)

/-- `UpdateNetworkState`: a non-null state is cached as its parcel copy. -/
def updateNetworkState (slotId : Int) (networkState : Option P.NetworkState) :
    LockedUpdate P where
  guard := slotGuard P slotId
  write c := { c with
    searchNetworkState := c.searchNetworkState.assign slotId (networkState.map P.parcelCopy) }
  notify _ := notifyRecords (networkStateBody slotId networkState)
    [sendNetworkStateChanged P slotId networkState]

/-- `UpdateCfuIndicator`. -/
def updateCfuIndicator (slotId : Int) (cfuResult : Bool) : LockedUpdate P where
  guard := slotGuard P slotId
  write c := { c with cfuResult := c.cfuResult.assign slotId cfuResult }
  notify _ := notifyRecords
    (listenerBody P .cfuIndicator (sameSlot slotId) fun _ =>
      .onCfuIndicatorUpdated slotId cfuResult) []

/-- `UpdateIccAccount`: no slot, no cache. -/
def updateIccAccount : LockedUpdate P where
  guard := setTelephonyStateGuard
  write c := c
  notify _ := notifyRecords
    (listenerBody P .iccAccount (fun _ => true) fun _ => .onIccAccountUpdated) []

/-- `UpdateVoiceMailMsgIndicator`. -/
def updateVoiceMailMsgIndicator (slotId : Int) (voiceMailMsgResult : Bool) : LockedUpdate P where
  guard := slotGuard P slotId
  write c := { c with voiceMailMsgResult := c.voiceMailMsgResult.assign slotId voiceMailMsgResult }
  notify _ := notifyRecords
    (listenerBody P .voiceMailMsgIndicator (sameSlot slotId) fun _ =>
      .onVoiceMailMsgIndicatorUpdated slotId voiceMailMsgResult) []

/-- `UpdateSimActiveState`. -/
def updateSimActiveState (slotId : Int) (activeStateResult : Bool) : LockedUpdate P where
  guard := slotGuard P slotId
  write c := { c with simActiveResult := c.simActiveResult.assign slotId activeStateResult }
  notify _ := notifyRecords
    (listenerBody P .simActiveState (sameSlot slotId) fun _ =>
      .onSimActiveStateUpdated slotId activeStateResult) []

/-- The loop body of `UpdateVoIPCallState`. -/
def voipCallStateBody (env : Env) (info : VoIPCallStateInfo) (record : Record)
    (c : Caches P) : LoopStep P × Caches P :=
  if record.isExistStateListener (P.mask .voipCallState) ∧ record.telephonyObserver ≠ none ∧
      record.canManageCallForDevices env then
    (.call (.onVoIPStateUpdated info), c)
  else (.skip, c)

/-- `UpdateVoIPCallState`: no slot, no cache. -/
def updateVoIPCallState (info : VoIPCallStateInfo) : LockedUpdate P where
  guard := setTelephonyStateGuard
  write c := c
  notify env := notifyRecords (voipCallStateBody env info) []

/-- The calls of the update interface, with their arguments. -/
inductive Update (P : Platform)
  | cellularDataConnectState (slotId dataState networkType : Int)
  | cellularDataFlow (slotId flowData : Int)
  | callState (callState : Int) (number : U16String)
  | callStateForSlotId (slotId callState : Int) (number : U16String)
  | simState (slotId type state reason : Int)
  | signalInfo (slotId : Int) (vec : List (Option P.SignalInformation))
  | cellInfo (slotId : Int) (vec : List (Option P.CellInformation))
  | networkState (slotId : Int) (networkState : Option P.NetworkState)
  | cfuIndicator (slotId : Int) (cfuResult : Bool)
  | iccAccount
  | voiceMailMsgIndicator (slotId : Int) (voiceMailMsgResult : Bool)
  | simActiveState (slotId : Int) (activeStateResult : Bool)
  | voipCallState (info : VoIPCallStateInfo)

/-- The function that a call runs. -/
def Update.function : Update P → LockedUpdate P
  | cellularDataConnectState slotId dataState networkType =>
    updateCellularDataConnectState slotId dataState networkType
  | cellularDataFlow slotId flowData => updateCellularDataFlow slotId flowData
  | callState state number => updateCallState state number
  | callStateForSlotId slotId state number => updateCallStateForSlotId slotId state number
  | simState slotId type state reason => updateSimState slotId type state reason
  | signalInfo slotId vec => updateSignalInfo slotId vec
  | cellInfo slotId vec => updateCellInfo slotId vec
  | networkState slotId state => updateNetworkState slotId state
  | cfuIndicator slotId cfuResult => updateCfuIndicator slotId cfuResult
  | iccAccount => updateIccAccount
  | voiceMailMsgIndicator slotId voiceMailMsgResult =>
    updateVoiceMailMsgIndicator slotId voiceMailMsgResult
  | simActiveState slotId activeStateResult => updateSimActiveState slotId activeStateResult
  | voipCallState info => updateVoIPCallState info

/-- A call is accepted when all its checks pass. -/
def Update.accepted (u : Update P) (env : Env) : Prop := u.function.guard env = none

instance (u : Update P) (env : Env) : Decidable (u.accepted env) :=
  inferInstanceAs (Decidable (_ = none))

end TelephonyStateRegistry
