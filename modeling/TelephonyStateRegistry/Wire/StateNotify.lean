import TelephonyStateRegistry.Client.ObserverClient
import TelephonyStateRegistry.Wire.Observer
import TelephonyStateRegistry.Wire.Stub

/-!
# The requests to the service

`TelephonyStateRegistryStub` finds the handler of a request by its code. A
handler reads the fields in order and then either gives up or calls one
operation of the service. What it writes to the reply, and what it returns, it
decides for itself.
-/

namespace TelephonyStateRegistry

open Reactive

variable {P : Platform}

/-- `StateNotifyInterfaceCode`, as far as the stub stores a function. -/
inductive StateNotifyInterfaceCode
  | cellInfo
  | simState
  | signalInfo
  | netWorkState
  | callState
  | callStateForId
  | cellularDataState
  | cellularDataFlow
  | addObserver
  | removeObserver
  | cfuIndicator
  | voiceMailMsgIndicator
  | iccAccountChange
  | simActivrState
  | voipCallState
  deriving DecidableEq, Repr

/-- The codes under which the constructor of the stub stores a function. -/
def memberFuncCodes : List StateNotifyInterfaceCode :=
  [.cellInfo, .simState, .signalInfo, .netWorkState, .callState, .callStateForId,
    .cellularDataState, .cellularDataFlow, .addObserver, .removeObserver, .cfuIndicator,
    .voiceMailMsgIndicator, .iccAccountChange, .simActivrState, .voipCallState]

theorem mem_memberFuncCodes (code : StateNotifyInterfaceCode) : code ∈ memberFuncCodes := by
  cases code <;> decide

/-- The layouts and constants of the service interface. -/
structure StateNotifyFormat (P : Platform) extends WireFormat P where
  /-- `GetDescriptor` of the service interface. -/
  notifyDescriptor : U16String
  /-- The value of a request code. -/
  interfaceCode : StateNotifyInterfaceCode → Word
  interfaceCode_injective : Function.Injective interfaceCode
  /-- `IRemoteObject`. -/
  RemoteObject : Type
  /-- `ReadRemoteObject`. -/
  readRemoteObject : Reader Word (Option RemoteObject)
  /-- `iface_cast<TelephonyObserverBroker>`. -/
  ifaceCast : RemoteObject → Option Observer
  /-- A limit on lengths is a length. -/
  maxSignalNum_nonneg : 0 ≤ maxSignalNum
  /-- `VoIPCallType::VOICE` and `VoIPCallType::VIDEO`. -/
  voice : Int
  video : Int
  /-- `VoIPCallState::IDLE` and `VoIPCallState::DISCONNECTED`. -/
  idle : Int
  disconnected : Int

/-- The errors with which a handler gives up. -/
inductive DecodeError
  | telephonyErrFail
  | telephonyErrArgumentInvalid
  deriving DecidableEq, Repr

/-- An `int32_t` of the reply. -/
inductive ReplyCode
  | service (result : ReturnCode)
  | decode (error : DecodeError)
  deriving DecidableEq, Repr

/-- What `OnRemoteRequest` of the stub returns. -/
inductive StubResult
  | noError
  | decode (error : DecodeError)
  | telephonyErrDescriptorMismatch
  /-- The answer of `IPCObjectStub::OnRemoteRequest`. -/
  | ipcObjectStub
  deriving DecidableEq, Repr

/-- What a handler does once it has read its fields. -/
inductive Handling (P : Platform)
  /-- It gives up with an error, writes a reply and returns. -/
  | reject (error : DecodeError) (reply : List ReplyCode) (result : StubResult)
  /-- It calls the service, writes a reply that depends on the code it gets, and
  returns `NO_ERROR`. -/
  | serve (op : Op P) (reply : ReturnCode → List ReplyCode)

/-- The end of most handlers: `reply.WriteInt32(ret)`. -/
def Handling.answered (op : Op P) : Handling P := .serve op fun ret => [.service ret]

/-- `OnUpdateCallState`. -/
def StateNotifyFormat.onUpdateCallState (S : StateNotifyFormat P) : Reader Word (Handling P) := do
  let callState ← readInt32
  let phoneNumber ← S.string16.read
  return .answered (.update (.callState callState phoneNumber))

/-- `OnUpdateSimState`. -/
def onUpdateSimState : Reader Word (Handling P) := do
  let slotId ← readInt32
  let type ← readInt32
  let state ← readInt32
  let reason ← readInt32
  return .answered (.update (.simState slotId type state reason))

/-- `OnUpdateCallStateForSlotId`. -/
def StateNotifyFormat.onUpdateCallStateForSlotId (S : StateNotifyFormat P) :
    Reader Word (Handling P) := do
  let slotId ← readInt32
  let callState ← readInt32
  let incomingNumber ← S.string16.read
  return .answered (.update (.callStateForSlotId slotId callState incomingNumber))

/-- `OnUpdateCellularDataConnectState`. -/
def onUpdateCellularDataConnectState : Reader Word (Handling P) := do
  let slotId ← readInt32
  let dataState ← readInt32
  let networkType ← readInt32
  return .answered (.update (.cellularDataConnectState slotId dataState networkType))

/-- `OnUpdateCellularDataFlow`. -/
def onUpdateCellularDataFlow : Reader Word (Handling P) := do
  let slotId ← readInt32
  let flowData ← readInt32
  return .answered (.update (.cellularDataFlow slotId flowData))

/-- The end of the handlers of the list updates, which leave the reply empty. -/
def Handling.ofListUpdate : Option (Update P) → Handling P
  | none => .reject .telephonyErrFail [] (.decode .telephonyErrFail)
  | some u => .serve (.update u) fun _ => []

/-- `OnUpdateNetworkState`. -/
def StateNotifyFormat.onUpdateNetworkState (S : StateNotifyFormat P) :
    Reader Word (Handling P) := do
  let slotId ← readInt32
  match ← S.unmarshalling with
  | none => return .reject .telephonyErrFail [] (.decode .telephonyErrFail)
  | some result => return .answered (.update (.networkState slotId (some result)))

/-- `ReadData`: the observer, if there is one; otherwise `TELEPHONY_ERR_FAIL` is
written to the reply. -/
def StateNotifyFormat.readData (S : StateNotifyFormat P) :
    Reader Word (Except (DecodeError × List ReplyCode) Observer) := do
  match ← S.readRemoteObject with
  | none => return .error (.telephonyErrFail, [.decode .telephonyErrFail])
  | some remote =>
    match S.ifaceCast remote with
    | none => return .error (.telephonyErrFail, [.decode .telephonyErrFail])
    | some callback => return .ok callback

/-- `OnRegisterStateChange`. -/
def StateNotifyFormat.onRegisterStateChange (S : StateNotifyFormat P) (caller : Process) :
    Reader Word (Handling P) := do
  let slotId ← readInt32
  let mask ← readInt32
  let notifyNow ← readBool
  match ← S.readData with
  -- the error is written behind what `ReadData` wrote
  | .error (ret, reply) => return .reject ret (reply ++ [.decode ret]) .noError
  | .ok callback =>
    return .answered
      (.register (caller.registerStateChange callback slotId (BitVec.ofInt 32 mask) notifyNow))

/-- `OnUnregisterStateChange`. -/
def onUnregisterStateChange (caller : Process) : Reader Word (Handling P) := do
  let slotId ← readInt32
  let mask ← readInt32
  return .answered (.unregister (caller.unregisterStateChange slotId (BitVec.ofInt 32 mask)))

/-- The handlers that read a slot and a flag. -/
def onFlagUpdated (update : Int → Bool → Update P) : Reader Word (Handling P) := do
  let slotId ← readInt32
  let result ← readBool
  return .answered (.update (update slotId result))

/-- `OnUpdateCfuIndicator`. -/
def onUpdateCfuIndicator : Reader Word (Handling P) := onFlagUpdated .cfuIndicator

/-- `OnUpdateVoiceMailMsgIndicator`. -/
def onUpdateVoiceMailMsgIndicator : Reader Word (Handling P) :=
  onFlagUpdated .voiceMailMsgIndicator

/-- `OnIccAccountUpdated`. -/
def onIccAccountUpdated : Reader Word (Handling P) := return .answered (.update .iccAccount)

/-- `OnSimActiveStateUpdated`. -/
def onSimActiveStateUpdated : Reader Word (Handling P) := onFlagUpdated .simActiveState

/-- The call types and call states that `OnUpdateVoIPCallState` lets pass. -/
def StateNotifyFormat.InRange (S : StateNotifyFormat P) (info : VoIPCallStateInfo) : Prop :=
  (S.voice ≤ info.callType ∧ info.callType ≤ S.video) ∧
    S.idle ≤ info.callState ∧ info.callState ≤ S.disconnected

instance (S : StateNotifyFormat P) (info : VoIPCallStateInfo) : Decidable (S.InRange info) :=
  inferInstanceAs (Decidable (_ ∧ _))

/-- The fields of a VoIP call state. -/
def StateNotifyFormat.readVoIPCallStateInfo (S : StateNotifyFormat P) :
    Reader Word VoIPCallStateInfo := do
  let appName ← S.string.read
  let contactName ← S.string.read
  let callType ← readInt32
  let callState ← readInt32
  let isVoiceAnswerSupported ← readBool
  return ⟨appName, contactName, callType, callState, isVoiceAnswerSupported⟩

/-- `OnUpdateVoIPCallState`. -/
def StateNotifyFormat.onUpdateVoIPCallState (S : StateNotifyFormat P) :
    Reader Word (Handling P) := do
  let info ← S.readVoIPCallStateInfo
  if S.InRange info then return .answered (.update (.voipCallState info))
  else
    return .reject .telephonyErrArgumentInvalid [.decode .telephonyErrArgumentInvalid]
      (.decode .telephonyErrArgumentInvalid)

/-- `memberFuncMap_`. -/
def StateNotifyFormat.memberFunc (S : StateNotifyFormat P) (caller : Process) :
    StateNotifyInterfaceCode → Reader Word (Handling P)
  | .cellInfo => Handling.ofListUpdate <$> S.onUpdateCellInfo
  | .simState => onUpdateSimState
  | .signalInfo => Handling.ofListUpdate <$> S.onUpdateSignalInfo
  | .netWorkState => S.onUpdateNetworkState
  | .callState => S.onUpdateCallState
  | .callStateForId => S.onUpdateCallStateForSlotId
  | .cellularDataState => onUpdateCellularDataConnectState
  | .cellularDataFlow => onUpdateCellularDataFlow
  | .addObserver => S.onRegisterStateChange caller
  | .removeObserver => onUnregisterStateChange caller
  | .cfuIndicator => onUpdateCfuIndicator
  | .voiceMailMsgIndicator => onUpdateVoiceMailMsgIndicator
  | .iccAccountChange => onIccAccountUpdated
  | .simActivrState => onSimActiveStateUpdated
  | .voipCallState => S.onUpdateVoIPCallState

/-- What became of a request. -/
inductive Outcome (P : Platform)
  | undispatched
  | rejected (error : DecodeError)
  | served (op : Op P) (output : Output P)

/-- The state of the service behind a request, with the reply and what is returned. -/
structure Handled (P : Platform) where
  service : Service P
  outcome : Outcome P
  reply : List ReplyCode
  result : StubResult

/-- A handler runs to its end. -/
def Handling.run (env : Env) (s : Service P) : Handling P → Handled P
  | .reject error reply result => ⟨s, .rejected error, reply, result⟩
  | .serve op reply =>
    let (s, output) := op.run env s
    ⟨s, .served op output, reply output.result, .noError⟩

/-- `TelephonyStateRegistryStub::OnRemoteRequest`. -/
def StateNotifyFormat.onRemoteRequest (S : StateNotifyFormat P) (env : Env) (caller : Process)
    (request : Request) (s : Service P) : Handled P :=
  let (remoteToken, data) := S.interfaceToken.read request.data
  if remoteToken ≠ S.notifyDescriptor then
    ⟨s, .undispatched, [], .telephonyErrDescriptorMismatch⟩
  else
    match memberFuncCodes.find? fun code => S.interfaceCode code = request.code with
    | some code => (S.memberFunc caller code data).1.run env s
    -- the default of the base class knows nothing of the service
    | none => ⟨s, .undispatched, [], .ipcObjectStub⟩

/-- The token is the descriptor of the service interface. -/
def StateNotifyFormat.Addressed (S : StateNotifyFormat P) (data : MessageParcel) : Prop :=
  (S.interfaceToken.read data).1 = S.notifyDescriptor

/-- The part of a request behind its token. -/
def StateNotifyFormat.fields (S : StateNotifyFormat P) (data : MessageParcel) : MessageParcel :=
  (S.interfaceToken.read data).2

variable {S : StateNotifyFormat P} {env : Env} {caller : Process} {s : Service P}

/-- A request with a registered code reaches the handler of that code. -/
theorem StateNotifyFormat.onRemoteRequest_registered (code : StateNotifyInterfaceCode)
    {data : MessageParcel} (h : S.Addressed data) :
    S.onRemoteRequest env caller ⟨S.interfaceCode code, data⟩ s =
      (S.memberFunc caller code (S.fields data)).1.run env s := by
  have hcode := find?_of_mem S.interfaceCode_injective (mem_memberFuncCodes code)
  rw [Addressed] at h
  simp only [onRemoteRequest, h, ne_eq, not_true_eq_false, if_false, hcode]
  rfl

/-- Any other request reaches no handler. -/
theorem StateNotifyFormat.onRemoteRequest_undispatched {request : Request}
    (h : ¬S.Addressed request.data ∨ ∀ code, S.interfaceCode code ≠ request.code) :
    (S.onRemoteRequest env caller request s).service = s ∧
      (S.onRemoteRequest env caller request s).outcome = .undispatched := by
  rw [onRemoteRequest]
  by_cases haddressed : S.Addressed request.data
  · have hnone :
        memberFuncCodes.find? (fun code => S.interfaceCode code = request.code) = none := by
      rw [List.find?_eq_none]
      intro code _ hcode
      exact (h.resolve_left (not_not_intro haddressed)) code (of_decide_eq_true hcode)
    rw [Addressed] at haddressed
    simp only [haddressed, ne_eq, not_true_eq_false, if_false, hnone, and_self]
  · rw [Addressed] at haddressed
    simp only [ne_eq, haddressed, not_false_eq_true, if_true, and_self]

/-- The length that a list update declares, behind the slot. -/
def declaredSize (fields : MessageParcel) : Int := (readInt32 (readInt32 fields).2).1

/-- The fields behind the declared length. -/
def behindSize (fields : MessageParcel) : MessageParcel := (readInt32 (readInt32 fields).2).2

/-- A signal list of a negative length is no update; one beyond the limit is an
update with the empty list. -/
theorem StateNotifyFormat.onUpdateSignalInfo_fst (S : StateNotifyFormat P)
    (fields : MessageParcel) :
    (S.onUpdateSignalInfo fields).1 =
      if declaredSize fields < 0 then none
      else some (.signalInfo (readInt32 fields).1 ((S.parseSignalInfos
        (if declaredSize fields > S.maxSignalNum then 0 else declaredSize fields)
        (behindSize fields)).1.map some)) := by
  have hmax := S.maxSignalNum_nonneg
  rw [WireFormat.onUpdateSignalInfo, Reader.bind_apply, Reader.bind_apply]
  change ((ite (ite (declaredSize fields > S.maxSignalNum) 0 (declaredSize fields) < 0) _ _ :
    Reader Word (Option (Update P))) (behindSize fields)).1 = _
  by_cases hsize : declaredSize fields < 0
  · have hle : ¬declaredSize fields > S.maxSignalNum := by omega
    simp only [hle, hsize, if_true, if_false]
    rfl
  · have hnonneg : ¬ite (declaredSize fields > S.maxSignalNum) 0 (declaredSize fields) < 0 := by
      split <;> omega
    simp only [hnonneg, hsize, if_false]
    rfl

/-- A cell list is an update exactly when its length is within the limits. -/
theorem StateNotifyFormat.onUpdateCellInfo_fst (S : StateNotifyFormat P)
    (fields : MessageParcel) :
    (S.onUpdateCellInfo fields).1 =
      if 1 ≤ declaredSize fields ∧ declaredSize fields ≤ S.maxCellNum then
        some (.cellInfo (readInt32 fields).1 (((S.cells.readKnown 0#32 cellTypes).collect
          (declaredSize fields).toNat (behindSize fields)).1.map some))
      else none := by
  rw [WireFormat.onUpdateCellInfo, Reader.bind_apply, Reader.bind_apply]
  change ((ite (ite (declaredSize fields > S.maxCellNum) 0 (declaredSize fields) ≤ 0) _ _ :
    Reader Word (Option (Update P))) (behindSize fields)).1 = _
  by_cases hsize : 1 ≤ declaredSize fields ∧ declaredSize fields ≤ S.maxCellNum
  · have hle : ¬declaredSize fields > S.maxCellNum := by omega
    have hpos : ¬declaredSize fields ≤ 0 := by omega
    have hkept : ite (declaredSize fields > S.maxCellNum) 0 (declaredSize fields) =
        declaredSize fields := if_neg hle
    rw [hkept, if_neg hpos, if_pos hsize]
    change some (Update.cellInfo _ (((S.cells.readKnown 0#32 cellTypes).collect
      (ite (declaredSize fields > S.maxCellNum) 0 (declaredSize fields)).toNat
        (behindSize fields)).1.map some)) = _
    rw [hkept]
  · have hzero : ite (declaredSize fields > S.maxCellNum) 0 (declaredSize fields) ≤ 0 := by
      split <;> omega
    simp only [hzero, hsize, if_true, if_false]
    rfl

/-- A network state that is not rebuilt is rejected. -/
theorem StateNotifyFormat.onUpdateNetworkState_fst (S : StateNotifyFormat P)
    (fields : MessageParcel) :
    (S.onUpdateNetworkState fields).1 =
      match (S.unmarshalling (readInt32 fields).2).1 with
      | none => .reject .telephonyErrFail [] (.decode .telephonyErrFail)
      | some result =>
        .answered (.update (.networkState (readInt32 fields).1 (some result))) := by
  rw [onUpdateNetworkState, Reader.bind_apply, Reader.bind_apply]
  cases (S.unmarshalling (readInt32 fields).2).1 <;> rfl

/-- The observer of a registration, behind the slot, the mask and the flag. -/
def StateNotifyFormat.carriedObserver (S : StateNotifyFormat P) (fields : MessageParcel) :
    Option Observer :=
  (S.readRemoteObject (readBool (readInt32 (readInt32 fields).2).2).2).1.bind S.ifaceCast

/-- A registration without an observer is rejected, and the error written twice. -/
theorem StateNotifyFormat.onRegisterStateChange_fst (S : StateNotifyFormat P) (caller : Process)
    (fields : MessageParcel) :
    (S.onRegisterStateChange caller fields).1 =
      match S.carriedObserver fields with
      | none =>
        .reject .telephonyErrFail [.decode .telephonyErrFail, .decode .telephonyErrFail] .noError
      | some callback =>
        .answered (.register (caller.registerStateChange callback (readInt32 fields).1
          (BitVec.ofInt 32 (readInt32 (readInt32 fields).2).1)
          (readBool (readInt32 (readInt32 fields).2).2).1)) := by
  rw [onRegisterStateChange, carriedObserver]
  simp only [Reader.bind_apply, readData]
  cases hremote : (S.readRemoteObject (readBool (readInt32 (readInt32 fields).2).2).2).1 with
  | none => rfl
  | some remote =>
    rw [Option.bind_some]
    cases hcast : S.ifaceCast remote <;> simp only [hcast] <;> rfl

/-- A VoIP call state out of range is rejected. -/
theorem StateNotifyFormat.onUpdateVoIPCallState_fst (S : StateNotifyFormat P)
    (fields : MessageParcel) :
    (S.onUpdateVoIPCallState fields).1 =
      if S.InRange (S.readVoIPCallStateInfo fields).1 then
        .answered (.update (.voipCallState (S.readVoIPCallStateInfo fields).1))
      else
        .reject .telephonyErrArgumentInvalid [.decode .telephonyErrArgumentInvalid]
          (.decode .telephonyErrArgumentInvalid) := by
  rw [onUpdateVoIPCallState, Reader.bind_apply]
  split <;> rfl

private def interfaceNumber : StateNotifyInterfaceCode → Word
  | .cellInfo => 0
  | .simState => 1
  | .signalInfo => 2
  | .netWorkState => 3
  | .callState => 4
  | .callStateForId => 5
  | .cellularDataState => 6
  | .cellularDataFlow => 7
  | .addObserver => 8
  | .removeObserver => 9
  | .cfuIndicator => 10
  | .voiceMailMsgIndicator => 11
  | .iccAccountChange => 12
  | .simActivrState => 13
  | .voipCallState => 14

/-- The requests of the dual-SIM platform; a remote object is a handle, and zero is none. -/
def StateNotifyFormat.dualSim : StateNotifyFormat Platform.dualSim where
  toWireFormat := WireFormat.dualSim
  notifyDescriptor := [0x6E#16, 0x74#16]
  interfaceCode := interfaceNumber
  interfaceCode_injective := by
    intro a b h
    cases a <;> cases b <;> first | rfl | exact absurd h (by decide)
  RemoteObject := Nat
  readRemoteObject := (fun i : Int => if i = 0 then none else some i.toNat) <$> readInt32
  ifaceCast := some
  maxSignalNum_nonneg := by decide
  voice := 0
  video := 1
  idle := 0
  disconnected := 6

/-- A request to the service: the token, and the fields in order. -/
def StateNotifyFormat.requestOf (S : StateNotifyFormat P) (code : StateNotifyInterfaceCode)
    (fields : List MessageParcel) : Request where
  code := S.interfaceCode code
  data := (S.interfaceToken.write S.notifyDescriptor :: fields).flatten

/-- A request that is written so is dispatched, with the fields that were written. -/
theorem StateNotifyFormat.requestOf_addressed (S : StateNotifyFormat P)
    (code : StateNotifyInterfaceCode) (fields : List MessageParcel) :
    S.Addressed (S.requestOf code fields).data ∧
      S.fields (S.requestOf code fields).data = fields.flatten := by
  have hread : S.interfaceToken.read (S.requestOf code fields).data =
      (S.notifyDescriptor, fields.flatten) := S.interfaceToken.reads S.notifyDescriptor _
  rw [Addressed, StateNotifyFormat.fields, hread]
  exact ⟨rfl, rfl⟩

end TelephonyStateRegistry
